import Mir.CirculationRotation
import Mir.DepositoryModel
import Mir.ProtocolMessages
import Mir.SurfaceBuffers

/-!
# Buffers are handed out in turn

The server gives a surface's client the buffers in allocation order, over and
over again, and the client's cache sees their ids in that order. So every buffer
is wrapped once, and the age that EGL clients read settles at the number of
buffers.
-/

namespace Mir.RoundRobinBuffers

open Mir.TransitionRuns Mir.SwapperModel Mir.SwapperOwnership Mir.SurfaceBuffers
open Mir.CirculationRotation Mir.DepositoryModel
open Mir.ProtocolMessages (bufferId buffer_id_injective)

set_option autoImplicit false

variable {Buffer Package Content : Type}

def surfaceAlive (state : Ownership Buffer) (call : Call) : Bool :=
  surfaceDriven state call && call != .shutdown

def clientAcquires (history : List Call) : List BufferID :=
  history.filterMap fun
    | .clientAcquire key => some key
    | _ => none

theorem surface_alive_disciplined :
    (restrict surfaceAlive step : Ownership Buffer → Call → Option (Ownership Buffer)) =
      disciplined alternating := by
  have same : (surfaceAlive : Ownership Buffer → Call → Bool) =
      fun state call => alternating (view state) call.move := by
    funext state call
    cases call <;> rfl
  rw [disciplined, same]

theorem client_acquires_taken (calls : List Call) :
    clientAcquires calls = taken (calls.map Call.move) := by
  unfold clientAcquires taken
  rw [List.filterMap_map]
  congr 1
  funext call
  cases call <;> rfl

theorem client_acquires_in_turn {id : Buffer → BufferID} {bufferList : List Buffer}
    (several : 2 ≤ bufferList.length) (distinct : (bufferList.map id).Nodup)
    {calls : List Call} {finish : Ownership Buffer}
    (ran : run (restrict surfaceAlive step) (constructed id bufferList) calls = some finish) :
    InTurn (bufferList.map id) (clientAcquires calls) := by
  rw [surface_alive_disciplined] at ran
  obtain ⟨circulated, -⟩ := run_refines several distinct _ ran
  rw [client_acquires_taken]
  apply run_in_turn _ circulated
  rw [← List.length_pos_iff, List.length_map]
  omega

section SteadyState

variable {items : List Int32} {window : Nat}

theorem in_turn_cached_iff {sequence : List Int32} {item : Int32} (distinct : items.Nodup)
    (nonempty : items ≠ []) (fits : items.length ≤ window)
    (turns : InTurn items (sequence ++ [item])) :
    item ∈ sequence.reverse.take window ↔ items.length ≤ sequence.length := by
  constructor
  · intro member
    by_contra early
    apply in_turn_fresh distinct turns (by omega)
    exact List.mem_reverse.mp (List.mem_of_mem_take member)
  · intro late
    have position := in_turn_back distinct nonempty turns late
    have known : item ∈ sequence.reverse := by
      rw [← List.idxOf_lt_length_iff, List.length_reverse]
      omega
    rw [mem_take_iff_idxOf window known]
    omega

/-- A depository whose window is at least a round long wraps every buffer once. -/
theorem deposits_in_turn_create_once (maxBuffers : Int32)
    (limit : (maxBuffers - 1).toUInt32.toNat + 1 = window) (several : 2 ≤ window)
    (small : window < 2 ^ 32) (distinct : items.Nodup) (nonempty : items ≠ [])
    (fits : items.length ≤ window) (deliveries : List (Delivery Package Content))
    (turns : InTurn items (deliveries.map Delivery.id))
    (succeed : ∀ delivery ∈ deliveries, ∃ newBuffer,
      delivery.createBuffer delivery.package delivery.size delivery.pf = .ok newBuffer) :
    (depositAll (construct maxBuffers) deliveries).2 = items.take deliveries.length := by
  induction deliveries using List.reverseRecOn with
  | nil => rfl
  | append_singleton earlier delivery ih =>
      have earlierSucceed : ∀ other ∈ earlier, ∃ newBuffer,
          other.createBuffer other.package other.size other.pf = .ok newBuffer :=
        fun other member => succeed other (by simp [member])
      obtain ⟨newBuffer, made⟩ := succeed delivery (by simp)
      rw [List.map_append] at turns
      obtain ⟨before, last⟩ := in_turn_snoc.mp turns
      have windowed := deposit_all_windowed maxBuffers limit several small earlier
        (succeeding_of_factory earlierSucceed)
      obtain ⟨-, created⟩ := deposit_windowed windowed several small (deposit_succeeds made)
      rw [in_turn_cached_iff distinct nonempty fits turns, List.length_map, not_le] at created
      rw [deposit_all_snoc]
      simp only [ih before earlierSucceed, List.length_append, List.length_singleton]
      split_ifs with fresh
      · have early := created.mp fresh
        rw [List.length_map, Nat.mod_eq_of_lt early] at last
        rw [List.take_add_one, last]
        rfl
      · have late := mt created.mpr fresh
        rw [List.take_of_length_le (by omega), List.take_of_length_le (by omega)]

theorem deposits_in_turn_age (maxBuffers : Int32)
    (limit : (maxBuffers - 1).toUInt32.toNat + 1 = window) (several : 2 ≤ window)
    (small : window < 2 ^ 32) (distinct : items.Nodup) (nonempty : items ≠ [])
    (fits : items.length ≤ window) (deliveries : List (Delivery Package Content))
    (turns : InTurn items (deliveries.map Delivery.id))
    (succeed : ∀ delivery ∈ deliveries, ∃ newBuffer,
      delivery.createBuffer delivery.package delivery.size delivery.pf = .ok newBuffer)
    (late : items.length < deliveries.length) :
    (currentBuffer (depositAll (construct maxBuffers) deliveries).1).map
      (fun buffer => buffer.bufferAge.toNat) = some items.length := by
  have windowed := deposit_all_windowed maxBuffers limit several small deliveries
    (succeeding_of_factory succeed)
  cases deliveries using List.reverseRecOn with
  | nil => simp at late
  | append_singleton earlier delivery =>
      rw [List.length_append, List.length_singleton] at late
      rw [List.map_append] at turns
      rw [List.map_append, List.reverse_append, List.map_singleton, List.reverse_singleton,
        List.singleton_append] at windowed
      have round : items.length ≤ (earlier.map Delivery.id).length := by
        rw [List.length_map]
        omega
      have member := (in_turn_cached_iff distinct nonempty fits turns).mpr round
      have age := windowed_current_age windowed several member
      rw [age, in_turn_back distinct nonempty turns round]

end SteadyState

/-- The `k`-th `client_acquire` returns buffer `k mod n`. A client that deposits
the ids it was sent, in order, calls `create_buffer` once per buffer, and from
deposit `n` on the age of its current buffer is `n`. -/
theorem buffers_are_handed_out_in_turn (id : Buffer → BufferID) (bufferList : List Buffer)
    (several : 2 ≤ bufferList.length) (few : bufferList.length ≤ 3)
    (distinct : (bufferList.map id).Nodup) (calls : List Call) (finish : Ownership Buffer)
    (ran : run (restrict surfaceAlive step) (constructed id bufferList) calls = some finish) :
    (∀ k < (clientAcquires calls).length,
        (clientAcquires calls)[k]? = (bufferList.map id)[k % bufferList.length]?) ∧
      ∀ deliveries : List (Delivery Package Content),
        deliveries.map Delivery.id <+: (clientAcquires calls).map bufferId →
        (∀ delivery ∈ deliveries, ∃ newBuffer,
          delivery.createBuffer delivery.package delivery.size delivery.pf = .ok newBuffer) →
        (depositAll (construct 3) deliveries).2 =
            ((bufferList.map id).map bufferId).take deliveries.length ∧
          (bufferList.length < deliveries.length →
            (currentBuffer (depositAll (construct 3) deliveries).1).map
              (fun buffer => buffer.bufferAge.toNat) = some bufferList.length) := by
  have turns := client_acquires_in_turn several distinct ran
  constructor
  · simpa [InTurn] using turns
  · intro deliveries fed succeed
    have delivered := in_turn_initial fed (in_turn_map bufferId turns)
    have ids : ((bufferList.map id).map bufferId).Nodup := distinct.map buffer_id_injective
    have nonempty : (bufferList.map id).map bufferId ≠ [] := by
      rw [← List.length_pos_iff]
      simp only [List.length_map]
      omega
    have fits : ((bufferList.map id).map bufferId).length ≤ 3 := by simpa using few
    constructor
    · exact deposits_in_turn_create_once 3 rfl (by decide) (by decide) ids nonempty fits
        deliveries delivered succeed
    · intro late
      have age := deposits_in_turn_age 3 rfl (by decide) (by decide) ids nonempty fits
        deliveries delivered succeed (by simpa using late)
      simpa using age

/-- Three frames of a double-buffered surface. -/
def threeFrames : List Call :=
  [.clientAcquire ⟨7⟩, .compositorAcquire ⟨9⟩, .clientRelease ⟨7⟩, .compositorRelease ⟨9⟩,
    .clientAcquire ⟨9⟩, .compositorAcquire ⟨7⟩, .clientRelease ⟨9⟩, .compositorRelease ⟨7⟩,
    .clientAcquire ⟨7⟩]

def received (id : Int32) : Delivery Unit Unit where
  package := ()
  id := id
  size := ⟨640, 480⟩
  pf := .abgr8888
  createBuffer := fun _ _ _ => .ok ()

theorem third_frame_has_age_two :
    ∃ finish, run (restrict surfaceAlive step)
        (constructed (fun key : BufferID => key) [⟨7⟩, ⟨9⟩]) threeFrames = some finish ∧
      (depositAll (construct 3) [received 7, received 9, received 7]).2 = [7, 9] ∧
      (currentBuffer (depositAll (construct 3) [received 7, received 9, received 7]).1).map
        (fun buffer => buffer.bufferAge.toNat) = some 2 := by
  obtain ⟨finish, ran⟩ := Option.isSome_iff_exists.mp
    (show (run (restrict surfaceAlive step)
      (constructed (fun key : BufferID => key) [⟨7⟩, ⟨9⟩]) threeFrames).isSome = true by decide)
  obtain ⟨-, settles⟩ := buffers_are_handed_out_in_turn (fun key : BufferID => key)
    [⟨7⟩, ⟨9⟩] (by decide) (by decide) (by decide) threeFrames finish ran
  obtain ⟨created, age⟩ := settles [received 7, received 9, received 7]
    (by decide) (by simp [received])
  exact ⟨finish, ran, created, age (by decide)⟩

end Mir.RoundRobinBuffers
