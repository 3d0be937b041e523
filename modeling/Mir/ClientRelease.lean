import Mathlib.Algebra.BigOperators.Group.Finset.Basic
import Mir.ClientObjectEnds

/-!
# The end of a connection

`mir_connection_release` asks for the disconnection, waits for its completion and destroys the
connection. What holds after each of its actions, and what is left in the end.
-/

namespace Mir.ClientRelease

open Mir.ObjectLifetimes Mir.TransitionRuns Mir.ClientObjects Mir.ClientObjectUse
open Mir.ClientObjectEnds

set_option autoImplicit false

variable {Thread : Type}

section Closing

/-- The objects that are left, when the thread of the I/O service has `before` to do and then
`tail` of the completion of `disconnect`. -/
structure Remains (client : Client Thread) (before tail : List Action) : Prop where
  suffix : tail <:+ completion .disconnect
  whole : before ≠ [] → tail = completion .disconnect
  plain : ∀ action ∈ before, completing action
  listed : .deleteReleaseWaitHandles ∈ tail → client.releaseWaitHandles.Nodup ∧
    ∀ handle, .releaseHandle handle ∈ client.heap ↔ handle ∈ client.releaseWaitHandles
  cleared : .deleteReleaseWaitHandles ∉ tail → ∀ handle, .releaseHandle handle ∉ client.heap
  made : ∀ surface < client.nextSurface, surface ∉ client.released →
    .surface surface ∈ client.heap
  doomed : ∀ surface, Dooms effects (before ++ tail) (.surface surface) →
    surface ∈ client.released
  ending : ∀ surface ∈ client.released, .surface surface ∈ client.heap →
    Dooms effects (before ++ tail) (.surface surface)
  numbered : ∀ object ∈ client.heap, Numbered client object
  told : client.calledBack ++ before.flatMap callbacks =
    (client.sent.flatMap completion).flatMap callbacks

/-- What holds in `mir_connection_release` after `stage` of its actions. The second one sends
the request for the completion of `disconnect`. -/
structure Closing (client : Client Thread) (thread : Thread) (stage : Nat)
    (before tail : List Action) : Prop where
  sound : client.broken = false
  closing : client.closing = true
  alone : ∀ other, other ≠ thread → client.threads other = []
  place : client.threads thread = releaseConnection.drop stage
  split : work client ++ (if stage ≤ 1 then completion .disconnect else []) = before ++ tail
  unsent : stage ≤ 1 → tail = completion .disconnect
  safe : Safe effects client.heap (before ++ tail)
  connection : .connection ∈ client.heap ↔ stage ≤ 4
  platform : .platform ∈ client.heap ↔ stage ≤ 5
  channel : .channel ∈ client.heap ↔ stage ≤ 7
  signalled : stage ≤ 2 → client.handles .disconnect =
    if .resultReceived .disconnect ∈ tail then ⟨0, 0⟩ else ⟨0, 1⟩
  passed : 2 < stage → before = [] ∧ .resultReceived .disconnect ∉ tail
  joined : 6 < stage → before = [] ∧ tail = []
  stopped : client.stopped = true ↔ 6 < stage
  valid : client.validConnection = true → stage ≤ 3
  remains : Remains client before tail

variable {client next : Client Thread} {thread : Thread} {stage : Nat}
  {before tail : List Action}

theorem Remains.transport (remains : Remains client before tail) {heap : Finset Object}
    (same : ∀ object, object ≠ .connection → object ≠ .platform → object ≠ .channel →
      (object ∈ heap ↔ object ∈ client.heap)) (fewer : heap ⊆ client.heap)
    {sent : List Request} (callbacks_same : (sent.flatMap completion).flatMap callbacks =
      (client.sent.flatMap completion).flatMap callbacks) (requests : List Request)
    (handles : Handle → WaitHandles.MirWaitHandle) (valid stopped : Bool)
    (threads : Thread → List Action) :
    Remains { client with
      heap := heap
      sent := sent
      requests := requests
      handles := handles
      validConnection := valid
      stopped := stopped
      threads := threads } before tail where
  suffix := remains.suffix
  whole := remains.whole
  plain := remains.plain
  listed := by
    intro listed
    refine ⟨(remains.listed listed).1, fun handle => ?_⟩
    exact (same (.releaseHandle handle) (by simp) (by simp) (by simp)).trans
      ((remains.listed listed).2 handle)
  cleared := fun cleared handle alive => remains.cleared cleared handle (fewer alive)
  made := fun surface low kept =>
    (same (.surface surface) (by simp) (by simp) (by simp)).mpr (remains.made surface low kept)
  doomed := remains.doomed
  ending := fun surface gone alive => remains.ending surface gone (fewer alive)
  numbered := fun object alive => remains.numbered object (fewer alive)
  told := remains.told.trans callbacks_same.symm

theorem begin_closing [DecidableEq Thread] (open_ : Open client) (accounts : Accounts client)
    (told : .connect ∈ client.calledBack) (idle : ∀ other, client.threads other = []) :
    Closing (begin client thread .releaseConnection) thread 0 (work client)
      (completion .disconnect) := by
  have dooms : ∀ surface, Dooms effects (work client ++ completion .disconnect)
      (.surface surface) ↔ Dooms effects (work client) (.surface surface) := by
    intro surface
    rw [dooms_append]
    simp [Dooms, completion, effects, deletes]
  have unused : ∀ {object}, Uses effects (completion .disconnect) object →
      ¬Dooms effects (work client) object := by
    intro object used doom
    obtain ⟨surface, -, rfl⟩ := open_.doomed object doom
    simp [Uses, completion, effects, uses, Handle.owner] at used
  constructor
  case sound => exact open_.sound
  case closing => simp [begin]
  case alone => exact fun other different => (Function.update_of_ne different ..).trans (idle other)
  case place => exact Function.update_self ..
  case split => rfl
  case unsent => exact fun _ => rfl
  case safe =>
    exact safe_after open_.safe (completion_safe open_.connection open_.channel (List.forall_mem_nil _))
      fun object used => unused used
  case connection => exact iff_of_true open_.connection (by decide)
  case platform => exact iff_of_true (open_.platform told) (by decide)
  case channel => exact iff_of_true open_.channel (by decide)
  case signalled => exact fun _ => accounts.silent
  case passed => exact fun late => absurd late (by decide)
  case joined => exact fun late => absurd late (by decide)
  case stopped => exact iff_of_false (by simp [begin, open_.working]) (by decide)
  case valid => exact fun _ => by decide
  case remains =>
    constructor
    case suffix => exact List.suffix_rfl
    case whole => exact fun _ => rfl
    case plain => exact open_.plain
    case listed =>
      refine fun _ => ⟨accounts.distinct, fun handle => ⟨fun alive => ?_, open_.handed handle⟩⟩
      refine (accounts.collected handle alive).resolve_right ?_
      rintro ⟨other, member⟩
      rw [idle other] at member
      cases member
    case cleared => exact fun absent => absurd (by simp [completion]) absent
    case made =>
      intro surface low kept
      refine (accounts.made surface low kept).resolve_right ?_
      rintro ⟨other, member⟩
      rw [idle other] at member
      cases member
    case doomed =>
      exact fun surface doom => given_up_surface.mp (open_.doomed _ ((dooms surface).mp doom))
    case ending =>
      intro surface gone alive
      refine (dooms surface).mpr ((accounts.ending surface gone alive).resolve_right ?_)
      rintro ⟨other, action, member, -⟩
      rw [idle other] at member
      cases member
    case numbered => exact open_.numbered
    case told => exact accounts.told

theorem reply_closing {request : Request} {rest : List Request}
    (closing : Closing client thread stage before tail)
    (idle : client.running = []) (queue : client.requests = request :: rest) :
    Closing { client with requests := rest, running := completion request } thread stage before
      tail := by
  have same := work_replied idle queue
  constructor
  case split => exact same ▸ closing.split
  case sound => exact closing.sound
  case closing => exact closing.closing
  case alone => exact closing.alone
  case place => exact closing.place
  case unsent => exact closing.unsent
  case safe => exact closing.safe
  case connection => exact closing.connection
  case platform => exact closing.platform
  case channel => exact closing.channel
  case signalled => exact closing.signalled
  case passed => exact closing.passed
  case joined => exact closing.joined
  case stopped => exact closing.stopped
  case valid => exact closing.valid
  case remains =>
    have remains := closing.remains
    exact ⟨remains.suffix, remains.whole, remains.plain, remains.listed, remains.cleared,
      remains.made, remains.doomed, remains.ending, remains.numbered, remains.told⟩

theorem after_signal (closing : Closing client thread stage before tail) (late : 2 < stage) :
    before = [] ∧ (tail = [.eraseCall] ∨ tail = []) := by
  obtain ⟨done, signalled⟩ := closing.passed late
  have suffix := closing.remains.suffix
  simp only [completion, List.suffix_cons_iff, List.suffix_nil] at suffix
  refine ⟨done, ?_⟩
  rcases suffix with rfl | rfl | rfl | rfl | rfl
  · simp at signalled
  · simp at signalled
  · simp at signalled
  · exact .inl rfl
  · exact .inr rfl

theorem completion_starts (request : Request) :
    ∃ object later, completion request = .use object :: later := by
  cases request with
  | configureSurface surface matching => cases matching <;> exact ⟨_, _, rfl⟩
  | _ => exact ⟨_, _, rfl⟩

section Stages

variable {threads : Thread → List Action} (alone : ∀ other, other ≠ thread → threads other = [])
include alone

theorem save_closing (closing : Closing client thread 0 before tail)
    (place : threads thread = releaseConnection.drop 1) :
    Closing { client with threads := threads } thread 1 before tail where
  sound := closing.sound
  closing := closing.closing
  alone := alone
  place := place
  split := closing.split
  unsent := fun _ => closing.unsent (by decide)
  safe := closing.safe
  connection := closing.connection.trans (by decide)
  platform := closing.platform.trans (by decide)
  channel := closing.channel.trans (by decide)
  signalled := fun _ => closing.signalled (by decide)
  passed := fun late => absurd late (by decide)
  joined := fun late => absurd late (by decide)
  stopped := closing.stopped.trans (by decide)
  valid := fun _ => by decide
  remains := closing.remains.transport (fun _ _ _ _ => Iff.rfl) (Finset.Subset.refl _) rfl ..

theorem send_closing (closing : Closing client thread 1 before tail)
    (place : threads thread = releaseConnection.drop 2) :
    Closing { client with
      threads := threads
      requests := client.requests ++ [.disconnect]
      sent := client.sent ++ [.disconnect] } thread 2 before tail where
  sound := closing.sound
  closing := closing.closing
  alone := alone
  place := place
  split := by
    have split := closing.split
    rw [if_pos (by decide)] at split
    rw [if_neg (by decide), List.append_nil, ← split]
    simp [work]
  unsent := fun early => absurd early (by decide)
  safe := closing.safe
  connection := closing.connection.trans (by decide)
  platform := closing.platform.trans (by decide)
  channel := closing.channel.trans (by decide)
  signalled := fun _ => closing.signalled (by decide)
  passed := fun late => absurd late (by decide)
  joined := fun late => absurd late (by decide)
  stopped := closing.stopped.trans (by decide)
  valid := fun _ => by decide
  remains := closing.remains.transport (fun _ _ _ _ => Iff.rfl) (Finset.Subset.refl _)
    (by simp [completion, callbacks]) ..

theorem wait_closing (closing : Closing client thread 2 before tail)
    (place : threads thread = releaseConnection.drop 3)
    (enabled : WaitHandles.waits (client.handles .disconnect) = false)
    (handles : Handle → WaitHandles.MirWaitHandle) :
    Closing { client with threads := threads, handles := handles } thread 3 before tail := by
  have signalled : .resultReceived .disconnect ∉ tail := by
    intro waiting
    rw [closing.signalled (by decide), if_pos waiting] at enabled
    cases enabled
  constructor
  case sound => exact closing.sound
  case closing => exact closing.closing
  case alone => exact alone
  case place => exact place
  case split => exact closing.split
  case unsent => exact fun early => absurd early (by decide)
  case safe => exact closing.safe
  case connection => exact closing.connection.trans (by decide)
  case platform => exact closing.platform.trans (by decide)
  case channel => exact closing.channel.trans (by decide)
  case signalled => exact fun early => absurd early (by decide)
  case passed =>
    refine fun _ => ⟨?_, signalled⟩
    by_contra busy
    apply signalled
    rw [closing.remains.whole busy]
    simp [completion]
  case joined => exact fun late => absurd late (by decide)
  case stopped => exact closing.stopped.trans (by decide)
  case valid => exact fun _ => by decide
  case remains =>
    exact closing.remains.transport (fun _ _ _ _ => Iff.rfl) (Finset.Subset.refl _) rfl ..

theorem forget_closing (closing : Closing client thread 3 before tail)
    (place : threads thread = releaseConnection.drop 4) :
    Closing { client with threads := threads, validConnection := false } thread 4 before tail where
  sound := closing.sound
  closing := closing.closing
  alone := alone
  place := place
  split := closing.split
  unsent := fun early => absurd early (by decide)
  safe := closing.safe
  connection := closing.connection.trans (by decide)
  platform := closing.platform.trans (by decide)
  channel := closing.channel.trans (by decide)
  signalled := fun early => absurd early (by decide)
  passed := fun _ => closing.passed (by decide)
  joined := fun late => absurd late (by decide)
  stopped := closing.stopped.trans (by decide)
  valid := nofun
  remains := closing.remains.transport (fun _ _ _ _ => Iff.rfl) (Finset.Subset.refl _) rfl ..

theorem delete_closing {object : Object} (closing : Closing client thread stage before tail)
    (place : threads thread = releaseConnection.drop (stage + 1))
    (deleted : object = .connection ∧ stage = 4 ∨ object = .platform ∧ stage = 5 ∨
      object = .channel ∧ stage = 7) :
    Closing { client with threads := threads, heap := client.heap.erase object } thread (stage + 1)
      before tail := by
  have late : 3 < stage := by omega
  obtain ⟨done, rest⟩ := after_signal closing (Nat.lt_of_succ_lt late)
  constructor
  case sound => exact closing.sound
  case closing => exact closing.closing
  case alone => exact alone
  case place => exact place
  case split =>
    have split := closing.split
    rw [if_neg (by omega)] at split ⊢
    exact split
  case unsent => exact fun early => absurd early (by omega)
  case safe =>
    refine safe_transfer closing.safe ?_
    subst done
    intro used usage alive
    refine Finset.mem_erase.mpr ⟨?_, alive⟩
    rcases rest with rfl | rfl
    · simp only [List.nil_append, Uses, List.mem_singleton, exists_eq_left] at usage
      cases List.mem_singleton.mp usage
      rcases deleted with ⟨rfl, -⟩ | ⟨rfl, -⟩ | ⟨rfl, rfl⟩
      · simp
      · simp
      · exact absurd (closing.joined (by decide)).2 (List.cons_ne_nil _ _)
    · obtain ⟨action, member, -⟩ := usage
      cases member
  case connection =>
    rw [Finset.mem_erase, closing.connection]
    rcases deleted with ⟨rfl, rfl⟩ | ⟨rfl, rfl⟩ | ⟨rfl, rfl⟩ <;> decide
  case platform =>
    rw [Finset.mem_erase, closing.platform]
    rcases deleted with ⟨rfl, rfl⟩ | ⟨rfl, rfl⟩ | ⟨rfl, rfl⟩ <;> decide
  case channel =>
    rw [Finset.mem_erase, closing.channel]
    rcases deleted with ⟨rfl, rfl⟩ | ⟨rfl, rfl⟩ | ⟨rfl, rfl⟩ <;> decide
  case signalled => exact fun early => absurd early (by omega)
  case passed => exact fun _ => closing.passed (by omega)
  case joined => exact fun later => closing.joined (by omega)
  case stopped => exact closing.stopped.trans (by omega)
  case valid => exact fun valid => absurd (closing.valid valid) (by omega)
  case remains =>
    refine closing.remains.transport ?_ (Finset.erase_subset _ _) rfl ..
    intro other connection platform channel
    rw [Finset.mem_erase]
    rcases deleted with ⟨rfl, -⟩ | ⟨rfl, -⟩ | ⟨rfl, -⟩ <;> tauto

theorem join_closing (closing : Closing client thread 6 before tail)
    (place : threads thread = releaseConnection.drop 7) (idle : client.running = []) :
    Closing { client with threads := threads, stopped := true } thread 7 before tail := by
  obtain ⟨done, rest⟩ := after_signal closing (by decide)
  have finished : tail = [] := by
    refine rest.resolve_left fun erasing => ?_
    have split := closing.split
    rw [if_neg (by decide), List.append_nil, work, idle, List.nil_append, done, List.nil_append,
      erasing] at split
    cases queue : client.requests with
    | nil =>
        rw [queue] at split
        cases split
    | cons request later =>
        obtain ⟨object, actions, starts⟩ := completion_starts request
        rw [queue, List.flatMap_cons, starts] at split
        cases split
  constructor
  case sound => exact closing.sound
  case closing => exact closing.closing
  case alone => exact alone
  case place => exact place
  case split => exact closing.split
  case unsent => exact fun early => absurd early (by decide)
  case safe => exact closing.safe
  case connection => exact closing.connection.trans (by decide)
  case platform => exact closing.platform.trans (by decide)
  case channel => exact closing.channel.trans (by decide)
  case signalled => exact fun early => absurd early (by decide)
  case passed => exact fun _ => closing.passed (by decide)
  case joined => exact fun _ => ⟨done, finished⟩
  case stopped => exact iff_of_true rfl (by decide)
  case valid => exact fun valid => absurd (closing.valid valid) (by decide)
  case remains =>
    exact closing.remains.transport (fun _ _ _ _ => Iff.rfl) (Finset.Subset.refl _) rfl ..

end Stages

theorem act_closing [DecidableEq Thread] {action : Action} {later : List Action}
    (closing : Closing client thread stage before tail)
    (remains : client.threads thread = action :: later)
    (acted : act { client with threads := Function.update client.threads thread later } action =
      some next) : Closing next thread (stage + 1) before tail := by
  have alone : ∀ other, other ≠ thread →
      Function.update client.threads thread later other = [] :=
    fun other different => (Function.update_of_ne different ..).trans (closing.alone other different)
  have rest : releaseConnection.drop stage = action :: later := closing.place.symm.trans remains
  have place : Function.update client.threads thread later thread =
      releaseConnection.drop (stage + 1) := by
    rw [Function.update_self, ← List.tail_drop, rest, List.tail_cons]
  have bound : stage < 8 := by
    by_contra past
    rw [List.drop_eq_nil_of_le (Nat.not_lt.mp past)] at rest
    cases rest
  have connection (early : stage ≤ 4) : .connection ∈ client.heap :=
    closing.connection.mpr early
  have channel : .channel ∈ client.heap := closing.channel.mpr (Nat.le_of_lt_succ bound)
  rw [act] at acted
  obtain rfl | rfl | rfl | rfl | rfl | rfl | rfl | rfl : stage = 0 ∨ stage = 1 ∨ stage = 2 ∨
      stage = 3 ∨ stage = 4 ∨ stage = 5 ∨ stage = 6 ∨ stage = 7 := by omega
  all_goals cases rest
  · rw [if_pos (by simp [uses, connection, channel]), perform] at acted
    split_ifs at acted
    cases acted
    have advanced := save_closing alone closing place
    exact advanced
  · rw [if_pos (by simp [uses, channel])] at acted
    cases acted
    have advanced := send_closing alone closing place
    exact advanced
  · rw [if_pos (by simp [uses, Handle.owner, connection]), perform] at acted
    split_ifs at acted with waiting
    cases acted
    exact wait_closing alone closing place (Bool.eq_false_iff.mpr waiting) _
  · rw [if_pos (by simp [uses, connection])] at acted
    cases acted
    have advanced := forget_closing alone closing place
    exact advanced
  · rw [if_pos (by simp [uses, connection])] at acted
    cases acted
    have advanced := delete_closing alone closing place (.inl ⟨rfl, rfl⟩)
    exact advanced
  · rw [if_pos (by simp [uses, closing.platform])] at acted
    cases acted
    have advanced := delete_closing alone closing place (.inr (.inl ⟨rfl, rfl⟩))
    exact advanced
  · rw [if_pos (by simp [uses, channel]), perform] at acted
    split_ifs at acted with idle
    cases acted
    have advanced := join_closing alone closing place idle
    exact advanced
  · rw [if_pos (by simp [uses, channel])] at acted
    cases acted
    have advanced := delete_closing alone closing place (.inr (.inr ⟨rfl, rfl⟩))
    exact advanced

/-- One of the earlier requests is completed further. -/
theorem plain_closing {action : Action} {later rest : List Action}
    (closing : Closing client thread stage (action :: rest) tail)
    (remains : client.running = action :: later)
    (acted : act { client with running := later } action = some next) :
    Closing next thread stage rest tail := by
  have split := closing.split
  rw [work_completing remains, List.cons_append, List.cons_append] at split
  have same := (List.cons.inj split).2
  have kind := closing.remains.plain action List.mem_cons_self
  obtain ⟨ready, safe⟩ := closing.safe
  obtain ⟨handles, silent, rfl⟩ := act_completing acted kind ready
  have early : stage ≤ 2 := by
    by_contra late
    exact absurd (closing.passed (Nat.lt_of_not_le late)).1 (List.cons_ne_nil _ _)
  have kept : ∀ object ∈ client.heap, (∀ surface, object ≠ .surface surface) →
      object ∈ after effects client.heap action := by
    intro object alive other
    refine mem_after.mpr ⟨.inl alive, Bool.eq_false_iff.mpr fun deleted => ?_⟩
    obtain ⟨surface, named⟩ := completing_deletes kind deleted
    exact other surface named
  have old : ∀ object ∈ after effects client.heap action, object ≠ .platform →
      object ∈ client.heap := by
    intro object alive other
    exact (mem_after.mp alive).1.resolve_right fun created => other (completing_creates kind created)
  have left := closing.remains
  constructor
  case sound => exact closing.sound
  case closing => exact closing.closing
  case alone => exact closing.alone
  case place => exact closing.place
  case split => exact same
  case unsent => exact closing.unsent
  case safe => exact safe
  case connection =>
    have alive := closing.connection.mpr (Nat.le_trans early (by decide))
    exact iff_of_true (kept _ alive (by simp)) (Nat.le_trans early (by decide))
  case platform =>
    have alive := closing.platform.mpr (Nat.le_trans early (by decide))
    exact iff_of_true (kept _ alive (by simp)) (Nat.le_trans early (by decide))
  case channel =>
    have alive := closing.channel.mpr (Nat.le_trans early (by decide))
    exact iff_of_true (kept _ alive (by simp)) (Nat.le_trans early (by decide))
  case signalled => exact fun early => silent.trans (closing.signalled early)
  case passed => exact fun late => absurd early (Nat.not_le_of_lt late)
  case joined => exact fun late => absurd (Nat.le_trans early (by decide)) (Nat.not_le_of_lt late)
  case stopped => exact closing.stopped
  case valid => exact closing.valid
  case remains =>
    constructor
    case suffix => exact left.suffix
    case whole => exact fun _ => left.whole (List.cons_ne_nil _ _)
    case plain => exact fun other member => left.plain other (List.mem_cons_of_mem _ member)
    case listed =>
      intro listed
      obtain ⟨distinct, same⟩ := left.listed listed
      refine ⟨distinct, fun handle => ?_⟩
      rw [← same handle]
      exact ⟨fun alive => old _ alive (by simp), fun alive => kept _ alive (by simp)⟩
    case cleared =>
      exact fun cleared handle alive => left.cleared cleared handle (old _ alive (by simp))
    case made =>
      intro surface low held
      refine mem_after.mpr ⟨.inl (left.made surface low held), ?_⟩
      refine Bool.eq_false_iff.mpr fun deleted => held (left.doomed surface ?_)
      exact dooms_cons.mpr (.inl deleted)
    case doomed => exact fun surface dooms => left.doomed surface (dooms_cons.mpr (.inr dooms))
    case ending =>
      intro surface gone alive
      refine (dooms_cons.mp (left.ending surface gone (old _ alive (by simp)))).resolve_left ?_
      intro deleted
      exact Bool.eq_false_iff.mp (mem_after.mp alive).2 deleted
    case numbered =>
      intro object alive
      by_cases platform : object = .platform
      · subst platform
        trivial
      · exact left.numbered object (old object alive platform)
    case told =>
      have told := left.told
      rw [List.flatMap_cons, ← List.append_assoc] at told
      exact told

/-- The completion of `disconnect` goes on. -/
theorem tail_closing {action : Action} {later rest : List Action}
    (closing : Closing client thread stage [] (action :: rest))
    (remains : client.running = action :: later) {heap : Finset Object}
    {handles : Handle → WaitHandles.MirWaitHandle}
    (fixed : ∀ object, (∀ handle, object ≠ .releaseHandle handle) →
      (object ∈ heap ↔ object ∈ client.heap)) (fewer : heap ⊆ client.heap)
    (safe : Safe effects heap rest)
    (signalled : stage ≤ 2 → handles .disconnect =
      if .resultReceived .disconnect ∈ rest then ⟨0, 0⟩ else ⟨0, 1⟩)
    (listed : .deleteReleaseWaitHandles ∈ rest → heap = client.heap)
    (cleared : .deleteReleaseWaitHandles ∉ rest → ∀ handle, .releaseHandle handle ∉ heap) :
    Closing { client with running := later, heap := heap, handles := handles } thread stage []
      rest := by
  have left := closing.remains
  have split := closing.split
  rw [work_completing remains, List.nil_append, List.cons_append] at split
  have sent : ¬stage ≤ 1 := by
    intro early
    have whole := closing.unsent early
    rw [if_pos early, ← whole] at split
    have length := congrArg List.length split
    simp only [List.length_cons, List.length_append] at length
    omega
  have dooms : ∀ surface, Dooms effects rest (.surface surface) →
      Dooms effects (action :: rest) (.surface surface) :=
    fun surface dooms => dooms_cons.mpr (.inr dooms)
  constructor
  case sound => exact closing.sound
  case closing => exact closing.closing
  case alone => exact closing.alone
  case place => exact closing.place
  case split =>
    rw [if_neg sent] at split ⊢
    exact (List.cons.inj split).2
  case unsent => exact fun early => absurd early sent
  case safe => exact safe
  case connection => exact (fixed .connection (by simp)).trans closing.connection
  case platform => exact (fixed .platform (by simp)).trans closing.platform
  case channel => exact (fixed .channel (by simp)).trans closing.channel
  case signalled => exact signalled
  case passed =>
    intro late
    exact ⟨rfl, fun member => (closing.passed late).2 (List.mem_cons_of_mem _ member)⟩
  case joined => exact fun late => absurd (closing.joined late).2 (List.cons_ne_nil _ _)
  case stopped => exact closing.stopped
  case valid => exact closing.valid
  case remains =>
    constructor
    case suffix => exact (List.suffix_cons action rest).trans left.suffix
    case whole => exact fun busy => absurd rfl busy
    case plain => exact nofun
    case listed =>
      intro member
      obtain ⟨distinct, same⟩ := left.listed (List.mem_cons_of_mem _ member)
      cases listed member
      exact ⟨distinct, same⟩
    case cleared => exact cleared
    case made =>
      exact fun surface low held =>
        (fixed (.surface surface) (by simp)).mpr (left.made surface low held)
    case doomed => exact fun surface doom => left.doomed surface (dooms surface doom)
    case ending =>
      intro surface gone alive
      obtain ⟨other, member, deleted⟩ := left.ending surface gone (fewer alive)
      have part := left.suffix.mem member
      simp only [completion, List.mem_cons, List.not_mem_nil, or_false] at part
      rcases part with rfl | rfl | rfl | rfl <;> cases deleted
    case numbered => exact fun object alive => left.numbered object (fewer alive)
    case told => exact left.told

/-- Each of the handles in the vector is deleted once, and no other one is left. -/
theorem clear_closing {later : List Action}
    (closing : Closing client thread stage []
      [.deleteReleaseWaitHandles, .resultReceived .disconnect, .eraseCall])
    (remains : client.running = .deleteReleaseWaitHandles :: later)
    (performed : perform { client with running := later } .deleteReleaseWaitHandles = some next) :
    Closing next thread stage [] [.resultReceived .disconnect, .eraseCall] := by
  obtain ⟨distinct, vector⟩ := closing.remains.listed (by simp)
  have handles : ∀ object ∈ client.releaseWaitHandles.map Object.releaseHandle,
      object ∈ client.heap := by
    intro object member
    obtain ⟨handle, inside, rfl⟩ := List.mem_map.mp member
    exact (vector handle).mpr inside
  have nodup := List.Nodup.map (fun _ _ => Object.releaseHandle.inj) distinct
  have other : ∀ object, (∀ handle, object ≠ .releaseHandle handle) →
      object ∉ client.releaseWaitHandles.map Object.releaseHandle := by
    intro object different member
    obtain ⟨handle, -, rfl⟩ := List.mem_map.mp member
    exact different handle rfl
  rw [perform, if_pos ⟨nodup, handles⟩] at performed
  cases performed
  refine tail_closing closing remains ?_ (Finset.filter_subset _ _) ?_ ?_ ?_ ?_
  · intro object different
    rw [Finset.mem_filter]
    exact and_iff_left (other object different)
  · refine safe_transfer closing.safe.2 ?_
    intro object used alive
    refine Finset.mem_filter.mpr ⟨?_, ?_⟩
    · exact (mem_after.mp alive).1.resolve_right List.not_mem_nil
    · apply other
      rintro handle rfl
      simp [Uses, effects, uses, Handle.owner] at used
  · exact fun early => by simpa using closing.signalled early
  · exact fun member => absurd member (by simp)
  · intro _ handle alive
    obtain ⟨before, kept⟩ := Finset.mem_filter.mp alive
    exact kept (List.mem_map_of_mem ((vector handle).mp before))

theorem complete_closing {action : Action} {later : List Action}
    (closing : Closing client thread stage before tail)
    (remains : client.running = action :: later)
    (acted : act { client with running := later } action = some next) :
    ∃ before tail, Closing next thread stage before tail := by
  have split := closing.split
  rw [work_completing remains, List.cons_append] at split
  cases before with
  | cons first rest =>
      cases (List.cons.inj split).1
      exact ⟨rest, tail, plain_closing closing remains acted⟩
  | nil =>
      cases tail with
      | nil => cases split
      | cons first rest =>
          cases (List.cons.inj split).1
          refine ⟨[], rest, ?_⟩
          have suffix := closing.remains.suffix
          obtain ⟨ready, safe⟩ := closing.safe
          have same : ∀ object, (∀ handle, object ≠ .releaseHandle handle) →
              (object ∈ client.heap ↔ object ∈ client.heap) := fun _ _ => Iff.rfl
          replace acted := act_ready acted ready
          simp only [completion, List.suffix_cons_iff, List.suffix_nil, List.cons.injEq,
            or_false, List.cons_ne_nil] at suffix
          rcases suffix with ⟨rfl, rfl⟩ | ⟨rfl, rfl⟩ | ⟨rfl, rfl⟩ | ⟨rfl, rfl⟩
          · cases acted
            rw [after_unchanged rfl fun _ => rfl] at safe
            exact tail_closing closing remains same (Finset.Subset.refl _) safe
              (fun early => by simpa using closing.signalled early) (fun _ => rfl)
              (fun absent => absurd (by simp) absent)
          · exact clear_closing closing remains acted
          · cases acted
            rw [after_unchanged rfl fun _ => rfl] at safe
            refine tail_closing closing remains same (Finset.Subset.refl _) safe ?_ (fun _ => rfl)
              (fun _ => closing.remains.cleared (by simp))
            intro early
            rw [Function.update_self, closing.signalled early]
            rfl
          · cases acted
            rw [after_unchanged rfl fun _ => rfl] at safe
            exact tail_closing closing remains same (Finset.Subset.refl _) safe
              (fun early => by simpa using closing.signalled early) (fun _ => rfl)
              (fun _ => closing.remains.cleared (by simp))

end Closing

section Closed

structure Closed (client : Client Thread) : Prop where
  sound : client.broken = false
  closing : client.closing = true
  valid : client.validConnection = false
  idle : client.running = []
  answered : client.requests = []
  calls : ∀ thread, ∀ action ∈ client.threads thread, action = .isValid
  left : ∀ object, object ∈ client.heap ↔
    ∃ surface < client.nextSurface, surface ∉ client.released ∧ object = .surface surface
  told : client.calledBack = (client.sent.flatMap completion).flatMap callbacks

variable {client next : Client Thread} {thread : Thread} {stage : Nat}
  {before tail : List Action}

theorem work_empty (done : work client = []) : client.running = [] ∧ client.requests = [] := by
  obtain ⟨running, queue⟩ := List.append_eq_nil_iff.mp done
  refine ⟨running, ?_⟩
  cases requests : client.requests with
  | nil => rfl
  | cons request later =>
      obtain ⟨object, actions, starts⟩ := completion_starts request
      rw [requests, List.flatMap_cons, starts] at queue
      cases queue

theorem closing_closed (closing : Closing client thread stage before tail)
    (idle : client.threads thread = []) : Closed client := by
  have last : 8 ≤ stage := List.drop_eq_nil_iff.mp (closing.place.symm.trans idle)
  obtain ⟨done, finished⟩ := closing.joined (by omega)
  subst done finished
  have left := closing.remains
  have split := closing.split
  rw [if_neg (by omega), List.append_nil, List.append_nil] at split
  obtain ⟨running, answered⟩ := work_empty split
  constructor
  case sound => exact closing.sound
  case closing => exact closing.closing
  case valid => exact Bool.eq_false_iff.mpr fun valid => absurd (closing.valid valid) (by omega)
  case idle => exact running
  case answered => exact answered
  case calls =>
    intro other action member
    by_cases same : other = thread
    · subst same
      rw [idle] at member
      cases member
    · rw [closing.alone other same] at member
      cases member
  case left =>
    intro object
    constructor
    · intro alive
      cases object with
      | connection => exact absurd (closing.connection.mp alive) (by omega)
      | platform => exact absurd (closing.platform.mp alive) (by omega)
      | channel => exact absurd (closing.channel.mp alive) (by omega)
      | releaseHandle handle => exact absurd alive (left.cleared List.not_mem_nil handle)
      | surface surface =>
          refine ⟨surface, left.numbered _ alive, fun gone => ?_, rfl⟩
          obtain ⟨action, member, -⟩ := left.ending surface gone alive
          cases member
    · rintro ⟨surface, low, kept, rfl⟩
      exact left.made surface low kept
  case told =>
    have told := left.told
    rwa [List.flatMap_nil, List.append_nil] at told

end Closed

section Runs

variable [DecidableEq Thread] {client next : Client Thread}

inductive Steps (permits : Client Thread → Call → Bool) (client : Client Thread) :
    Event Thread → Client Thread → Prop
  | call {thread : Thread} {call : Call} (idle : client.threads thread = [])
      (permitted : permits client call = true) :
      Steps permits client (.call thread call) (begin client thread call)
  | act {thread : Thread} {action : Action} {later : List Action} {next : Client Thread}
      (remains : client.threads thread = action :: later)
      (acted : act { client with threads := Function.update client.threads thread later }
        action = some next) : Steps permits client (.act thread) next
  | reply {request : Request} {rest : List Request} (working : client.stopped = false)
      (idle : client.running = []) (queue : client.requests = request :: rest) :
      Steps permits client .reply { client with requests := rest, running := completion request }
  | complete {action : Action} {later : List Action} {next : Client Thread}
      (remains : client.running = action :: later)
      (acted : act { client with running := later } action = some next) :
      Steps permits client .complete next

theorem step_cases {permits : Client Thread → Call → Bool} {event : Event Thread}
    (stepped : step permits client event = some next) : Steps permits client event next := by
  cases event with
  | call thread call =>
      rw [step] at stepped
      split_ifs at stepped with both
      cases stepped
      exact .call both.1 both.2
  | act thread =>
      rw [step] at stepped
      split at stepped
      · cases stepped
      · next remains => exact .act remains stepped
  | reply =>
      rw [step] at stepped
      split at stepped
      · next working idle queue =>
          cases stepped
          exact .reply working idle queue
      · cases stepped
  | complete =>
      rw [step] at stepped
      split at stepped
      · cases stepped
      · next remains => exact .complete remains stepped

omit [DecidableEq Thread] in
theorem act_counters_le {action : Action} {bound : Nat} (acted : act client action = some next)
    (low : ∀ handle, (client.handles handle).expecting ≤ bound ∧
      (client.handles handle).received ≤ bound) (handle : Handle) :
    (next.handles handle).expecting ≤ bound + 1 ∧ (next.handles handle).received ≤ bound + 1 := by
  have kept : (client.handles handle).expecting ≤ bound + 1 ∧
      (client.handles handle).received ≤ bound + 1 := by
    have before := low handle
    omega
  have updated (changed : Handle) (counters : WaitHandles.MirWaitHandle)
      (raised : counters.expecting ≤ bound + 1 ∧ counters.received ≤ bound + 1) :
      (Function.update client.handles changed counters handle).expecting ≤ bound + 1 ∧
        (Function.update client.handles changed counters handle).received ≤ bound + 1 := by
    by_cases same : handle = changed
    · rwa [same, Function.update_self]
    · rwa [Function.update_of_ne same]
  unfold act at acted
  split_ifs at acted
  · cases action with
    | expectResult changed =>
        cases acted
        refine updated changed _ ?_
        have changed_low := low changed
        simp only [WaitHandles.expectResult]
        omega
    | resultReceived changed =>
        cases acted
        refine updated changed _ ?_
        have changed_low := low changed
        simp only [WaitHandles.resultReceived]
        omega
    | waitForResult changed =>
        rw [perform] at acted
        split_ifs at acted
        cases acted
        exact updated changed ⟨0, 0⟩ ⟨Nat.zero_le _, Nat.zero_le _⟩
    | saveCompletionDetails _ | deleteReleaseWaitHandles | isValid | join =>
        rw [perform] at acted
        split_ifs at acted
        all_goals
          cases acted
          exact kept
    | _ =>
        cases acted
        exact kept
  · cases acted
    exact kept

/-- No counter of a wait handle exceeds the number of steps. -/
theorem run_counters_le {permits : Client Thread → Call → Bool} {thread : Thread}
    {events : List (Event Thread)}
    (ran : run (step permits) (connecting thread) events = some client) (handle : Handle) :
    (client.handles handle).expecting ≤ events.length ∧
      (client.handles handle).received ≤ events.length := by
  revert handle
  apply run_history_invariant (fun history state => ∀ handle : Handle,
    (state.handles handle).expecting ≤ history.length ∧
      (state.handles handle).received ≤ history.length) _ _ ran
  · intro handle
    exact ⟨Nat.le_refl _, Nat.le_refl _⟩
  · intro history state event after low stepped handle
    rw [List.length_append, List.length_singleton]
    cases step_cases stepped with
    | act remains acted => exact act_counters_le acted low handle
    | complete remains acted => exact act_counters_le acted low handle
    | call idle permitted | reply working idle queue =>
        have before := low handle
        change (state.handles handle).expecting ≤ _ ∧ (state.handles handle).received ≤ _
        omega

def Sound (client : Client Thread) : Prop :=
  (Open client ∧ Accounts client) ∨
    (∃ thread stage before tail, Closing client thread stage before tail) ∨ Closed client

omit [DecidableEq Thread] in
theorem permitted_closing [Fintype Thread] {call : Call} (closing : client.closing = true)
    (permitted : rules client call = true) :
    call = .isValid ∧ ∀ thread, client.threads thread = [] := by
  cases call with
  | isValid => exact ⟨rfl, of_decide_eq_true permitted closing⟩
  | _ => simp [rules, closing] at permitted

/-- The address of a connection that is gone is not looked at. -/
theorem valid_closed {thread : Thread} (closed : Closed client) :
    Closed (begin client thread .isValid) := by
  constructor
  case sound => exact closed.sound
  case closing => simp [begin, closed.closing]
  case valid => exact closed.valid
  case idle => exact closed.idle
  case answered => exact closed.answered
  case calls =>
    intro other action member
    have threads : (begin client thread .isValid).threads other =
        if other = thread then [.isValid] else client.threads other :=
      Function.update_apply ..
    rw [threads] at member
    split_ifs at member
    · exact List.mem_singleton.mp member
    · exact closed.calls other action member
  case left => exact closed.left
  case told => exact closed.told

theorem act_closed {thread : Thread} {action : Action} {later : List Action}
    (closed : Closed client) (remains : client.threads thread = action :: later)
    (acted : act { client with threads := Function.update client.threads thread later } action =
      some next) : Closed next := by
  have mine : action ∈ client.threads thread := by
    rw [remains]
    exact List.mem_cons_self
  cases closed.calls thread action mine
  replace acted := act_ready acted nofun
  rw [perform, if_neg (fun both => by simp [closed.valid] at both)] at acted
  cases acted
  refine ⟨closed.sound, closed.closing, closed.valid, closed.idle, closed.answered, ?_,
    closed.left, closed.told⟩
  intro other done member
  exact closed.calls other done ((mem_remaining remains).mpr (.inl member))

theorem step_sound [Fintype Thread] {event : Event Thread} (sound : Sound client)
    (stepped : step rules client event = some next) : Sound next := by
  have steps := step_cases stepped
  rcases sound with ⟨open_, accounts⟩ | ⟨thread, stage, before, tail, closing⟩ | closed
  · cases steps with
    | @call thread call idle permitted =>
        by_cases release : call = .releaseConnection
        · subst release
          obtain ⟨-, told, alone⟩ := of_decide_eq_true permitted
          exact .inr (.inl ⟨thread, 0, _, _, begin_closing open_ accounts told alone⟩)
        · exact .inl ⟨call_open open_ permitted release,
            call_accounts open_ accounts permitted idle⟩
    | act remains acted =>
        exact .inl ⟨act_open open_ remains acted, act_accounts open_ accounts remains acted⟩
    | reply working idle queue =>
        exact .inl ⟨reply_open open_ idle queue, reply_accounts accounts idle queue⟩
    | complete remains acted =>
        exact .inl ⟨complete_open open_ remains acted,
          complete_accounts open_ accounts remains acted⟩
  · cases steps with
    | call idle permitted =>
        obtain ⟨rfl, alone⟩ := permitted_closing closing.closing permitted
        exact .inr (.inr (valid_closed (closing_closed closing (alone thread))))
    | @act acting action later next remains acted =>
        have same : acting = thread := by
          by_contra other
          rw [closing.alone acting other] at remains
          cases remains
        subst same
        exact .inr (.inl ⟨acting, stage + 1, before, tail, act_closing closing remains acted⟩)
    | reply working idle queue =>
        exact .inr (.inl ⟨thread, stage, before, tail, reply_closing closing idle queue⟩)
    | complete remains acted =>
        obtain ⟨earlier, rest, after⟩ := complete_closing closing remains acted
        exact .inr (.inl ⟨thread, stage, earlier, rest, after⟩)
  · cases steps with
    | call idle permitted =>
        obtain ⟨rfl, -⟩ := permitted_closing closed.closing permitted
        exact .inr (.inr (valid_closed closed))
    | act remains acted => exact .inr (.inr (act_closed closed remains acted))
    | reply working idle queue =>
        rw [closed.answered] at queue
        cases queue
    | complete remains acted =>
        rw [closed.idle] at remains
        cases remains

theorem run_sound [Fintype Thread] {thread : Thread} {events : List (Event Thread)}
    (ran : run (step rules) (connecting thread) events = some client) : Sound client := by
  apply run_invariant Sound (.inl ⟨connecting_open thread, connecting_accounts thread⟩) _ ran
  exact fun _ _ _ sound stepped => step_sound sound stepped

end Runs

section Progress

variable {client next : Client Thread} {action : Action}

variable [DecidableEq Thread] [Fintype Thread]

end Progress

section Results

variable [DecidableEq Thread] [Fintype Thread] {client next : Client Thread}

def again (count : Nat) (event : Event Bool) : List (Event Bool) := List.replicate count event

/-- The first thread connects, and each of the two creates a surface. -/
def createsTwo : List (Event Bool) :=
  again 2 (.act false) ++ .reply :: again 5 .complete ++
    .call true .createSurface :: again 4 (.act true) ++
    .call false .createSurface :: again 4 (.act false) ++
    again 2 (.act true) ++ .reply :: again 3 .complete ++
    again 2 (.act false) ++ again 4 .complete ++ .reply :: again 7 .complete

/-- The first surface is released, and then the connection. -/
def releasesOne : List (Event Bool) :=
  createsTwo ++ .call false (.releaseSurface 0) :: again 5 (.act false) ++
    .reply :: again 2 .complete ++ .act false :: again 3 .complete ++
    [.call true .releaseConnection]

def returns : List (Event Bool) :=
  again 2 (.act true) ++ .reply :: again 3 .complete ++ again 4 (.act true) ++
    .complete :: again 2 (.act true)

/-- However the threads of an application and that of the I/O service interleave, no object is
used before it is made or after it is deleted, and none is deleted twice. -/
theorem objects_outlive_their_use {thread : Thread}
    {events : List (Event Thread)}
    (ran : run (step rules) (connecting thread) events = some client) : client.broken = false := by
  rcases run_sound ran with ⟨open_, -⟩ | ⟨_, _, _, _, closing⟩ | closed
  · exact open_.sound
  · exact closing.sound
  · exact closed.sound

theorem two_threads_use_live_objects :
    ∃ client, run (step rules) (connecting false) releasesOne = some client ∧
      client.broken = false := by
  have ran : (run (step rules) (connecting false) releasesOne).isSome := by decide +kernel
  obtain ⟨client, ran⟩ := Option.isSome_iff_exists.mp ran
  exact ⟨client, ran, objects_outlive_their_use ran⟩

/-- The second thread gives up the surface before `create_surface` has returned. -/
example : (run (step fun _ _ => true) (connecting false)
    (again 2 (.act false) ++ .reply :: again 5 .complete ++
      .call true .createSurface :: again 5 (.act true) ++ .reply :: again 7 .complete ++
      .call false (.releaseSurface 0) :: again 6 (.act false) ++ .reply :: again 5 .complete ++
      [.act true])).map Client.broken = some true := by
  decide +kernel

/-- When the connection has been released, then of all objects only the surfaces are left that
the application has not released, and every request has had its callback, in their order. -/
theorem released_connection_leaves_kept_surfaces {thread : Thread}
    {events : List (Event Thread)}
    (ran : run (step rules) (connecting thread) events = some client)
    (closing : client.closing = true) (returned : ∀ thread, client.threads thread = []) :
    (∀ object, object ∈ client.heap ↔
      ∃ surface < client.nextSurface, surface ∉ client.released ∧ object = .surface surface) ∧
    client.calledBack = (client.sent.flatMap completion).flatMap callbacks ∧
    client.validConnection = false := by
  have closed : Closed client := by
    rcases run_sound ran with ⟨open_, -⟩ | ⟨other, _, _, _, closing⟩ | closed
    · rw [open_.going] at closing
      cases closing
    · exact closing_closed closing (returned other)
    · exact closed
  exact ⟨closed.left, closed.told, closed.valid⟩

theorem second_surface_is_left :
    ∃ client, run (step rules) (connecting false) (releasesOne ++ returns) = some client ∧
      client.nextSurface = 2 ∧ client.released = [0] ∧
      ∀ object, object ∈ client.heap ↔
        ∃ surface < client.nextSurface, surface ∉ client.released ∧
          object = .surface surface := by
  have view : (run (step rules) (connecting false) (releasesOne ++ returns)).map
      (fun client => (client.closing, client.threads false, client.threads true,
        client.nextSurface, client.released)) = some (true, [], [], 2, [0]) := by
    decide +kernel
  obtain ⟨client, ran, seen⟩ := Option.map_eq_some_iff.mp view
  simp only [Prod.mk.injEq] at seen
  obtain ⟨closing, first, second, made, released⟩ := seen
  refine ⟨client, ran, made, released, ?_⟩
  exact (released_connection_leaves_kept_surfaces ran closing fun thread => by
    cases thread <;> assumption).1

end Results

end Mir.ClientRelease
