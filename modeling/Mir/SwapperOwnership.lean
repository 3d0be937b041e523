import Mir.Circulation
import Mir.SwapperModel

/-!
# Who holds which buffer

`TemporaryClientBuffer` and `TemporaryCompositorBuffer` release in their
destructors the id that their constructors acquired, so the ids held by each
side are the open temporaries. Together with the swapper they form the state
whose runs the results below are about. The counter, the map and the machine
integers are refined away here, once: after `run_refines` a run of the swapper
is a run of `Mir.Circulation`.
-/

namespace Mir.SwapperOwnership

open Mir.TransitionRuns Mir.SwapperModel
open Mir.Circulation (Stock Move Moved Conserved)

set_option autoImplicit false

structure Ownership (Buffer : Type) where
  swapper : BufferSwapperMulti Buffer
  clientHeld : List BufferID
  compositorHeld : List BufferID

/-- The calls on one swapper, with the id each acquire returned. -/
inductive Call where
  | clientAcquire (dequeuedBuffer : BufferID)
  | clientRelease (queuedBuffer : BufferID)
  | compositorAcquire (acquiredBuffer : BufferID)
  | compositorRelease (releasedBuffer : BufferID)
  | shutdown
  deriving DecidableEq, Repr

variable {Buffer : Type}

def step (state : Ownership Buffer) : Call → Option (Ownership Buffer)
  | .clientAcquire key => (clientAcquire state.swapper).bind fun acquired =>
      if acquired.dequeuedBuffer = key then
        some { state with
          swapper := acquired.swapper
          clientHeld := state.clientHeld ++ [key] }
      else none
  | .clientRelease key =>
      if key ∈ state.clientHeld then
        some { state with
          swapper := clientRelease state.swapper key
          clientHeld := state.clientHeld.erase key }
      else none
  | .compositorAcquire key => (compositorAcquire state.swapper).bind fun acquired =>
      if acquired.dequeuedBuffer = key then
        some { state with
          swapper := acquired.swapper
          compositorHeld := state.compositorHeld ++ [key] }
      else none
  | .compositorRelease key =>
      if key ∈ state.compositorHeld then
        some { state with
          swapper := compositorRelease state.swapper key
          compositorHeld := state.compositorHeld.erase key }
      else none
  | .shutdown => (shutdown state.swapper).map fun swapper => { state with swapper := swapper }

def constructed (id : Buffer → BufferID) (bufferList : List Buffer) : Ownership Buffer where
  swapper := fillQueues id bufferList
  clientHeld := []
  compositorHeld := []

inductive Called (state : Ownership Buffer) : Call → Ownership Buffer → Prop
  | clientAcquire {acquired : Acquired Buffer}
      (succeeded : SwapperModel.clientAcquire state.swapper = some acquired) :
      Called state (.clientAcquire acquired.dequeuedBuffer)
        { state with
          swapper := acquired.swapper
          clientHeld := state.clientHeld ++ [acquired.dequeuedBuffer] }
  | clientRelease {key : BufferID} (held : key ∈ state.clientHeld) :
      Called state (.clientRelease key)
        { state with
          swapper := SwapperModel.clientRelease state.swapper key
          clientHeld := state.clientHeld.erase key }
  | compositorAcquire {acquired : Acquired Buffer}
      (succeeded : SwapperModel.compositorAcquire state.swapper = some acquired) :
      Called state (.compositorAcquire acquired.dequeuedBuffer)
        { state with
          swapper := acquired.swapper
          compositorHeld := state.compositorHeld ++ [acquired.dequeuedBuffer] }
  | compositorRelease {key : BufferID} (held : key ∈ state.compositorHeld) :
      Called state (.compositorRelease key)
        { state with
          swapper := SwapperModel.compositorRelease state.swapper key
          compositorHeld := state.compositorHeld.erase key }
  | shutdown {swapper : BufferSwapperMulti Buffer}
      (succeeded : SwapperModel.shutdown state.swapper = some swapper) :
      Called state .shutdown { state with swapper := swapper }

theorem step_called {state next : Ownership Buffer} {call : Call}
    (stepped : step state call = some next) : Called state call next := by
  cases call with
  | clientAcquire key =>
      rcases Option.bind_eq_some_iff.mp stepped with ⟨acquired, succeeded, handed⟩
      split_ifs at handed with same
      cases handed
      subst same
      exact .clientAcquire succeeded
  | clientRelease key =>
      simp only [step] at stepped
      split_ifs at stepped with held
      cases stepped
      exact .clientRelease held
  | compositorAcquire key =>
      rcases Option.bind_eq_some_iff.mp stepped with ⟨acquired, succeeded, handed⟩
      split_ifs at handed with same
      cases handed
      subst same
      exact .compositorAcquire succeeded
  | compositorRelease key =>
      simp only [step] at stepped
      split_ifs at stepped with held
      cases stepped
      exact .compositorRelease held
  | shutdown =>
      rcases Option.map_eq_some_iff.mp stepped with ⟨swapper, succeeded, rfl⟩
      exact .shutdown succeeded

theorem step_held {state next : Ownership Buffer} {call : Call}
    (stepped : step state call = some next) :
    match call with
    | .clientAcquire key =>
        next.clientHeld = state.clientHeld ++ [key] ∧
          next.compositorHeld = state.compositorHeld
    | .clientRelease key =>
        key ∈ state.clientHeld ∧ next.clientHeld = state.clientHeld.erase key ∧
          next.compositorHeld = state.compositorHeld
    | .compositorAcquire key =>
        next.clientHeld = state.clientHeld ∧
          next.compositorHeld = state.compositorHeld ++ [key]
    | .compositorRelease key =>
        key ∈ state.compositorHeld ∧ next.clientHeld = state.clientHeld ∧
          next.compositorHeld = state.compositorHeld.erase key
    | .shutdown =>
        next.clientHeld = state.clientHeld ∧ next.compositorHeld = state.compositorHeld := by
  cases step_called stepped with
  | clientAcquire => exact ⟨rfl, rfl⟩
  | clientRelease held => exact ⟨held, rfl, rfl⟩
  | compositorAcquire => exact ⟨rfl, rfl⟩
  | compositorRelease held => exact ⟨held, rfl, rfl⟩
  | shutdown => exact ⟨rfl, rfl⟩

section Refinement

def view (state : Ownership Buffer) : Stock BufferID where
  ready := state.swapper.clientQueue
  posted := state.swapper.compositorQueue
  drawn := state.clientHeld
  shown := state.compositorHeld

def Call.move : Call → Move BufferID
  | .clientAcquire key => .take key
  | .clientRelease key => .post key
  | .compositorAcquire key => .present key
  | .compositorRelease key => .retire key
  | .shutdown => .reclaim

/-- The relation between the swapper's own bookkeeping and the circulation. -/
structure Accounted (id : Buffer → BufferID) (bufferList : List Buffer)
    (state : Ownership Buffer) : Prop where
  conserved : Conserved (bufferList.map id) (bufferList.length - 1) (view state)
  counter : state.swapper.inUseByClient.toNat = state.clientHeld.length
  registry : state.swapper.buffers = (fillQueues id bufferList).buffers

variable {id : Buffer → BufferID} {bufferList : List Buffer}

theorem constructed_accounted : Accounted id bufferList (constructed id bufferList) where
  conserved := by
    have initial := Circulation.start_conserved (bufferList.map id) (bufferList.length - 1)
    simpa [view, constructed, Circulation.start] using initial
  counter := by simp [constructed]
  registry := rfl

theorem accounted_registers {state : Ownership Buffer}
    (accounted : Accounted id bufferList state) {key : BufferID}
    (member : key ∈ Circulation.contents (view state)) : key ∈ state.swapper.buffers := by
  rw [accounted.registry, fill_registers]
  exact accounted.conserved.partition.mem_iff.mp member

theorem accounted_must_wait (several : 2 ≤ bufferList.length)
    (distinct : (bufferList.map id).Nodup) {state : Ownership Buffer}
    (accounted : Accounted id bufferList state) :
    clientMustWait state.swapper = true ↔
      state.swapper.clientQueue = [] ∨ state.clientHeld.length = bufferList.length - 1 := by
  have size : state.swapper.buffers.entries.length = bufferList.length := by
    rw [accounted.registry, fill_size id bufferList distinct]
  have small := length_le_of_distinct distinct
  rw [List.length_map] at small
  rw [client_must_wait_iff state.swapper (by omega) (by omega), size, accounted.counter]

theorem client_acquire_front (several : 2 ≤ bufferList.length)
    (distinct : (bufferList.map id).Nodup) {state : Ownership Buffer}
    (accounted : Accounted id bufferList state) {front : BufferID} {rest : List BufferID}
    (queue : state.swapper.clientQueue = front :: rest)
    (room : state.clientHeld.length ≠ bufferList.length - 1) :
    clientAcquire state.swapper = some
      { bufferReference := (subscript state.swapper.buffers front).1
        dequeuedBuffer := front
        swapper := { state.swapper with
          clientQueue := rest
          inUseByClient := state.swapper.inUseByClient + 1 } } := by
  have notWaiting : clientMustWait state.swapper = false := by
    rw [Bool.eq_false_iff, Ne, accounted_must_wait several distinct accounted]
    simp [queue, room]
  have registered : front ∈ state.swapper.buffers :=
    accounted_registers accounted (by simp [Circulation.contents, view, queue])
  simp [clientAcquire, notWaiting, queue, subscript_registered registered]

theorem compositor_acquire_front {state : Ownership Buffer}
    (accounted : Accounted id bufferList state) {front : BufferID} {rest : List BufferID}
    (queue : state.swapper.compositorQueue = front :: rest) :
    compositorAcquire state.swapper = some
      { bufferReference := (subscript state.swapper.buffers front).1
        dequeuedBuffer := front
        swapper := { state.swapper with compositorQueue := rest } } := by
  have registered : front ∈ state.swapper.buffers :=
    accounted_registers accounted (by simp [Circulation.contents, view, queue])
  simp [compositorAcquire, queue, subscript_registered registered]

theorem compositor_acquire_back {state : Ownership Buffer}
    (accounted : Accounted id bufferList state) {back : BufferID}
    (nothing : state.swapper.compositorQueue = [])
    (last : state.swapper.clientQueue.getLast? = some back) :
    compositorAcquire state.swapper = some
      { bufferReference := (subscript state.swapper.buffers back).1
        dequeuedBuffer := back
        swapper := { state.swapper with
          clientQueue := state.swapper.clientQueue.dropLast } } := by
  have member := List.mem_of_getLast? last
  have registered : back ∈ state.swapper.buffers :=
    accounted_registers accounted (by simp [Circulation.contents, view, member])
  simp [compositorAcquire, nothing, last, subscript_registered registered]

/-- One call of the swapper is one move of the circulation, and is possible in
exactly the same states. -/
theorem step_refines (several : 2 ≤ bufferList.length)
    (distinct : (bufferList.map id).Nodup) {state : Ownership Buffer}
    (accounted : Accounted id bufferList state) (call : Call) :
    (step state call).map view =
      Circulation.step (bufferList.length - 1) (view state) call.move := by
  cases call with
  | clientAcquire key =>
      cases queue : state.swapper.clientQueue with
      | nil =>
          have waits := (accounted_must_wait several distinct accounted).mpr (.inl queue)
          simp [step, clientAcquire, waits, Circulation.step, Call.move, view, queue]
      | cons front rest =>
          by_cases room : state.clientHeld.length = bufferList.length - 1
          · have waits := (accounted_must_wait several distinct accounted).mpr (.inr room)
            simp [step, clientAcquire, waits, Circulation.step, Call.move, view, queue, room]
          · have acquired := client_acquire_front several distinct accounted queue room
            by_cases same : front = key <;>
              simp [step, acquired, Circulation.step, Call.move, view, queue, room, same]
  | clientRelease key =>
      by_cases held : key ∈ state.clientHeld <;>
        simp [step, Circulation.step, Call.move, view, held, clientRelease]
  | compositorAcquire key =>
      cases queue : state.swapper.compositorQueue with
      | nil =>
          cases last : state.swapper.clientQueue.getLast? with
          | none =>
              simp [step, compositorAcquire, queue, last, Circulation.step, Call.move, view]
          | some back =>
              have acquired := compositor_acquire_back accounted queue last
              by_cases same : back = key <;>
                simp [step, acquired, queue, last, Circulation.step, Call.move, view, same]
      | cons front rest =>
          have acquired := compositor_acquire_front accounted queue
          by_cases same : front = key <;>
            simp [step, acquired, queue, Circulation.step, Call.move, view, same]
  | compositorRelease key =>
      by_cases held : key ∈ state.compositorHeld <;>
        simp [step, Circulation.step, Call.move, view, held, compositorRelease]
  | shutdown =>
      cases clients : state.swapper.clientQueue <;>
        cases posted : state.swapper.compositorQueue <;>
          simp [step, shutdown, Circulation.step, Call.move, view, clients, posted]

theorem step_moved (several : 2 ≤ bufferList.length)
    (distinct : (bufferList.map id).Nodup) {state next : Ownership Buffer}
    (accounted : Accounted id bufferList state) {call : Call}
    (stepped : step state call = some next) :
    Moved (bufferList.length - 1) (view state) call.move (view next) := by
  apply Circulation.step_moved
  rw [← step_refines several distinct accounted, stepped]
  rfl

/-- `in_use_by_client` follows the client-held ids through both wrapping
operations: the increment stays below `2 ^ 32` because of the limit, and a
decrement only happens while a client holds something. -/
theorem step_counter (several : 2 ≤ bufferList.length)
    (distinct : (bufferList.map id).Nodup) {state next : Ownership Buffer}
    (accounted : Accounted id bufferList state) {call : Call}
    (stepped : step state call = some next) :
    next.swapper.inUseByClient.toNat = next.clientHeld.length := by
  have counter := accounted.counter
  have bounded := accounted.conserved.bounded
  have small := length_le_of_distinct distinct
  simp only [view, List.length_map] at bounded small
  cases step_called stepped with
  | clientAcquire succeeded =>
      rcases client_acquire_spec succeeded with ⟨notWaiting, -, rest, -, after⟩
      have room : state.clientHeld.length ≠ bufferList.length - 1 := by
        intro full
        have waits := (accounted_must_wait several distinct accounted).mpr (.inr full)
        rw [notWaiting] at waits
        cases waits
      simp only [after, UInt32.toNat_add, counter, UInt32.toNat_one, List.length_append,
        List.length_singleton]
      omega
  | clientRelease held =>
      have positive := List.length_pos_of_mem held
      have below : (1 : UInt32) ≤ state.swapper.inUseByClient := by
        rw [UInt32.le_iff_toNat_le, counter, UInt32.toNat_one]
        omega
      simp only [clientRelease, UInt32.toNat_sub_of_le _ _ below, counter, UInt32.toNat_one,
        List.length_erase_of_mem held]
  | compositorAcquire succeeded =>
      rw [(compositor_acquire_spec succeeded).2.2.1]
      exact counter
  | compositorRelease => exact counter
  | shutdown succeeded =>
      rw [(shutdown_keeps succeeded).2]
      exact counter

/-- Every id that reaches a queue was registered at construction, so
`operator[]` never inserts. -/
theorem step_registry {state next : Ownership Buffer}
    (accounted : Accounted id bufferList state) {call : Call}
    (stepped : step state call = some next) :
    next.swapper.buffers = state.swapper.buffers := by
  cases step_called stepped with
  | clientAcquire succeeded =>
      rcases client_acquire_spec succeeded with ⟨-, -, rest, queue, after⟩
      rw [after]
      apply subscript_registered
      exact accounted_registers accounted (by simp [Circulation.contents, view, queue])
  | clientRelease => rfl
  | compositorAcquire succeeded =>
      rcases compositor_acquire_spec succeeded with ⟨-, after, -, queued⟩
      rw [after]
      apply subscript_registered
      apply accounted_registers accounted
      simp only [Circulation.contents, view, List.append_assoc]
      rw [← List.append_assoc]
      exact List.mem_append_left _ queued
  | compositorRelease => rfl
  | shutdown succeeded => exact (shutdown_keeps succeeded).1

theorem step_accounted (several : 2 ≤ bufferList.length)
    (distinct : (bufferList.map id).Nodup) {state next : Ownership Buffer}
    (accounted : Accounted id bufferList state) {call : Call}
    (stepped : step state call = some next) : Accounted id bufferList next where
  conserved := Circulation.moved_conserved
    (step_moved several distinct accounted stepped) accounted.conserved
  counter := step_counter several distinct accounted stepped
  registry := (step_registry accounted stepped).trans accounted.registry

/-- A discipline of the callers, stated on the places of the circulation. -/
def disciplined (allowed : Stock BufferID → Move BufferID → Bool) :
    Ownership Buffer → Call → Option (Ownership Buffer) :=
  restrict (fun state call => allowed (view state) call.move) step

theorem run_refines (several : 2 ≤ bufferList.length)
    (distinct : (bufferList.map id).Nodup)
    (allowed : Stock BufferID → Move BufferID → Bool)
    {calls : List Call} {finish : Ownership Buffer}
    (ran : run (disciplined allowed) (constructed id bufferList) calls = some finish) :
    run (restrict allowed (Circulation.step (bufferList.length - 1)))
        (Circulation.start (bufferList.map id)) (calls.map Call.move) = some (view finish) ∧
      Accounted id bufferList finish := by
  have initialView : view (constructed id bufferList) =
      Circulation.start (bufferList.map id) := by
    simp [view, constructed, Circulation.start]
  have simulated := run_simulates (restrict allowed (Circulation.step (bufferList.length - 1)))
    (Accounted id bufferList) view (fun call => [call.move])
    (fun _ _ _ accounted stepped =>
      step_accounted several distinct accounted (restrict_some.mp stepped).2)
    (fun state call next accounted stepped => by
      obtain ⟨permitted, moved⟩ := restrict_some.mp stepped
      rw [run_single, restrict_some, ← step_refines several distinct accounted, moved]
      exact ⟨permitted, rfl⟩)
    constructed_accounted ran
  rw [initialView] at simulated
  simpa [List.map_eq_flatMap] using simulated

theorem client_acquire_enabled (several : 2 ≤ bufferList.length)
    (distinct : (bufferList.map id).Nodup) {state : Ownership Buffer}
    (accounted : Accounted id bufferList state)
    (ready : state.swapper.clientQueue ≠ [])
    (room : state.clientHeld.length ≠ bufferList.length - 1) :
    ∃ key next, step state (.clientAcquire key) = some next := by
  obtain ⟨front, rest, queue⟩ := List.exists_cons_of_ne_nil ready
  have acquired := client_acquire_front several distinct accounted queue room
  simp [step, acquired]

theorem compositor_acquire_step (state : Ownership Buffer) :
    (compositorAcquire state.swapper).isSome = true ↔
      ∃ key next, step state (.compositorAcquire key) = some next := by
  cases result : compositorAcquire state.swapper with
  | none => simp [step, result]
  | some acquired => simp [step, result]

/-- The compositing side finds a buffer exactly as long as the two sides hold
fewer buffers than there are. -/
theorem compositor_acquire_defined_iff (several : 2 ≤ bufferList.length)
    (distinct : (bufferList.map id).Nodup) {state : Ownership Buffer}
    (accounted : Accounted id bufferList state) :
    (compositorAcquire state.swapper).isSome = true ↔
      state.clientHeld.length + state.compositorHeld.length < bufferList.length := by
  have available := Circulation.conserved_available accounted.conserved
  rw [← Circulation.present_enabled_iff (bufferList.length - 1), List.length_map] at available
  rw [compositor_acquire_step]
  refine Iff.trans ?_ available
  constructor
  · rintro ⟨key, next, stepped⟩
    have refined := step_refines several distinct accounted (.compositorAcquire key)
    rw [stepped] at refined
    exact ⟨key, view next, refined.symm⟩
  · rintro ⟨key, stock, presented⟩
    have refined := step_refines several distinct accounted (.compositorAcquire key)
    rw [Call.move, presented, Option.map_eq_some_iff] at refined
    obtain ⟨next, stepped, -⟩ := refined
    exact ⟨key, next, stepped⟩

end Refinement

section SingleCompositor

/-- At most one `TemporaryCompositorBuffer` is alive at a time. -/
def singleCompositor (state : Ownership Buffer) : Call → Bool
  | .compositorAcquire _ => state.compositorHeld.isEmpty
  | _ => true

theorem single_compositor_disciplined :
    (restrict singleCompositor step : Ownership Buffer → Call → Option (Ownership Buffer)) =
      disciplined Circulation.singleConsumer := by
  have same : (singleCompositor : Ownership Buffer → Call → Bool) =
      fun state call => Circulation.singleConsumer (view state) call.move := by
    funext state call
    cases call <;> rfl
  rw [disciplined, same]

variable {id : Buffer → BufferID} {bufferList : List Buffer}

theorem single_compositor_accounted (several : 2 ≤ bufferList.length)
    (distinct : (bufferList.map id).Nodup) {calls : List Call} {finish : Ownership Buffer}
    (ran : run (restrict singleCompositor step) (constructed id bufferList) calls =
      some finish) :
    Accounted id bufferList finish ∧ finish.compositorHeld.length ≤ 1 := by
  rw [single_compositor_disciplined] at ran
  obtain ⟨circulated, accounted⟩ := run_refines several distinct _ ran
  refine ⟨accounted, ?_⟩
  exact run_invariant (fun stock => stock.shown.length ≤ 1) (by simp [Circulation.start])
    (fun _ _ _ single stepped => by
      obtain ⟨allowed, moved⟩ := restrict_some.mp stepped
      exact Circulation.moved_single_consumer (Circulation.step_moved moved) allowed single)
    circulated

/-- In every state that any interleaving of the five operations reaches, each
buffer is in exactly one of the four places, the counter is the number of
client-held buffers, and a compositor that holds nothing finds a buffer. -/
theorem swapper_keeps_every_buffer (id : Buffer → BufferID) (bufferList : List Buffer)
    (several : 2 ≤ bufferList.length) (distinct : (bufferList.map id).Nodup)
    (calls : List Call) (finish : Ownership Buffer)
    (ran : run (restrict singleCompositor step) (constructed id bufferList) calls =
      some finish) :
    (finish.swapper.clientQueue ++ finish.swapper.compositorQueue ++
        finish.clientHeld ++ finish.compositorHeld).Perm (bufferList.map id) ∧
      finish.compositorHeld.length ≤ 1 ∧
      finish.swapper.inUseByClient.toNat = finish.clientHeld.length ∧
      finish.swapper.inUseByClient.toNat ≤ bufferList.length - 1 ∧
      (∀ key ∈ finish.clientHeld,
        (clientRelease finish.swapper key).inUseByClient.toNat + 1 =
          finish.swapper.inUseByClient.toNat) ∧
      (finish.compositorHeld = [] →
        (finish.swapper.clientQueue ≠ [] ∨ finish.swapper.compositorQueue ≠ []) ∧
          (compositorAcquire finish.swapper).isSome = true) := by
  obtain ⟨accounted, single⟩ := single_compositor_accounted several distinct ran
  have counter := accounted.counter
  have bounded := accounted.conserved.bounded
  refine ⟨accounted.conserved.partition, single, counter, ?_, ?_, ?_⟩
  · rw [counter]
    exact bounded
  · intro key held
    have released : step finish (.clientRelease key) = some
        { finish with
          swapper := clientRelease finish.swapper key
          clientHeld := finish.clientHeld.erase key } := by
      simp [step, held]
    have after := step_counter several distinct accounted released
    have positive := List.length_pos_of_mem held
    simp only [List.length_erase_of_mem held] at after
    omega
  · intro nothing
    have room : finish.clientHeld.length + finish.compositorHeld.length <
        bufferList.length := by
      simp only [view] at bounded
      simp only [nothing, List.length_nil]
      omega
    exact ⟨(Circulation.conserved_available accounted.conserved).mpr (by simpa [view] using room),
      (compositor_acquire_defined_iff several distinct accounted).mpr room⟩

/-- Double buffering through one frame and a shutdown. -/
theorem swapper_keeps_both_buffers :
    ∃ finish, run (restrict singleCompositor step)
        (constructed (fun key : BufferID => key) [⟨1⟩, ⟨2⟩])
        [.clientAcquire ⟨1⟩, .compositorAcquire ⟨2⟩, .clientRelease ⟨1⟩,
          .compositorRelease ⟨2⟩, .clientAcquire ⟨2⟩, .compositorAcquire ⟨1⟩,
          .clientRelease ⟨2⟩, .shutdown] = some finish ∧
      (finish.swapper.clientQueue ++ finish.swapper.compositorQueue ++
        finish.clientHeld ++ finish.compositorHeld).Perm [⟨1⟩, ⟨2⟩] := by
  obtain ⟨finish, ran⟩ := Option.isSome_iff_exists.mp
    (show (run (restrict singleCompositor step)
        (constructed (fun key : BufferID => key) [⟨1⟩, ⟨2⟩])
        [.clientAcquire ⟨1⟩, .compositorAcquire ⟨2⟩, .clientRelease ⟨1⟩,
          .compositorRelease ⟨2⟩, .clientAcquire ⟨2⟩, .compositorAcquire ⟨1⟩,
          .clientRelease ⟨2⟩, .shutdown]).isSome = true by decide)
  exact ⟨finish, ran, (swapper_keeps_every_buffer _ _ (by decide) (by decide) _ _ ran).1⟩

end SingleCompositor

end Mir.SwapperOwnership
