import Mir.ConditionVariable
import Mir.SwapperOwnership

/-!
# Waiting clients are not forgotten

`client_acquire` waits on `client_available_cv` in a loop, `compositor_release`
notifies one waiter, `shutdown` notifies all of them, and `client_release`
deliberately signals nobody although it can make the wait guard false. Client
threads may barge in between a notification and the notified thread's next look
at the guard, and may wake up for no reason.
-/

namespace Mir.SwapperWakeups

open Mir.TransitionRuns Mir.SwapperModel Mir.SwapperOwnership Mir.ConditionVariable

set_option autoImplicit false

structure Monitor (Thread Buffer : Type) where
  ownership : Ownership Buffer
  clientAvailable : WaitSet Thread

/-- The atomic sections between the points at which a thread takes or gives up
`swapper_mutex`. A `client_acquire` is `clientAcquire` when its guard is false
on entry, else `clientWait` followed by wake-ups and looks at the guard. -/
inductive Section (Thread : Type) where
  | clientAcquire (thread : Thread) (dequeuedBuffer : BufferID)
  | clientWait (thread : Thread)
  | wakeSpuriously (thread : Thread)
  | resumeAcquire (thread : Thread) (dequeuedBuffer : BufferID)
  | resumeWait (thread : Thread)
  | clientRelease (queuedBuffer : BufferID)
  | compositorAcquire (acquiredBuffer : BufferID)
  | compositorRelease (releasedBuffer : BufferID) (notified : Option Thread)
  | shutdown
  deriving DecidableEq

variable {Thread Buffer : Type} [DecidableEq Thread]

def step (state : Monitor Thread Buffer) : Section Thread → Option (Monitor Thread Buffer)
  | .clientAcquire thread key =>
      if thread ∈ threads state.clientAvailable then none
      else (SwapperOwnership.step state.ownership (.clientAcquire key)).map fun ownership =>
        { state with ownership := ownership }
  | .clientWait thread =>
      if thread ∉ threads state.clientAvailable ∧ clientMustWait state.ownership.swapper then
        some { state with clientAvailable := wait state.clientAvailable thread }
      else none
  | .wakeSpuriously thread =>
      (wakeSpuriously state.clientAvailable thread).map fun set =>
        { state with clientAvailable := set }
  | .resumeAcquire thread key =>
      (resume state.clientAvailable thread).bind fun set =>
        (SwapperOwnership.step state.ownership (.clientAcquire key)).map fun ownership =>
          { ownership := ownership, clientAvailable := set }
  | .resumeWait thread =>
      (resume state.clientAvailable thread).bind fun set =>
        if clientMustWait state.ownership.swapper then
          some { state with clientAvailable := wait set thread }
        else none
  | .clientRelease key =>
      (SwapperOwnership.step state.ownership (.clientRelease key)).map fun ownership =>
        { state with ownership := ownership }
  | .compositorAcquire key =>
      (restrict singleCompositor SwapperOwnership.step state.ownership
        (.compositorAcquire key)).map fun ownership => { state with ownership := ownership }
  | .compositorRelease key notified =>
      (SwapperOwnership.step state.ownership (.compositorRelease key)).bind fun ownership =>
        (notifyOne state.clientAvailable notified).map fun set =>
          { ownership := ownership, clientAvailable := set }
  | .shutdown =>
      (SwapperOwnership.step state.ownership .shutdown).map fun ownership =>
        { ownership := ownership, clientAvailable := notifyAll state.clientAvailable }

def constructed (id : Buffer → BufferID) (bufferList : List Buffer) : Monitor Thread Buffer where
  ownership := SwapperOwnership.constructed id bufferList
  clientAvailable := ConditionVariable.empty

/-- While a thread waits un-notified, at most one buffer more is ready than there
are notified threads on their way back to the guard. This is the whole argument:
a thread only starts to wait when at most one buffer is ready, and every buffer
that becomes ready after that comes with a notification. -/
structure Signalled (id : Buffer → BufferID) (bufferList : List Buffer)
    (state : Monitor Thread Buffer) : Prop where
  accounted : Accounted id bufferList state.ownership
  apart : (threads state.clientAvailable).Nodup
  covered : state.clientAvailable.waiting ≠ [] →
    state.ownership.swapper.clientQueue.length ≤ state.clientAvailable.notified.length + 1

variable {id : Buffer → BufferID} {bufferList : List Buffer}

omit [DecidableEq Thread] in
theorem constructed_signalled :
    Signalled id bufferList (constructed id bufferList : Monitor Thread Buffer) where
  accounted := constructed_accounted
  apart := by simp [constructed, ConditionVariable.empty, threads]
  covered := by simp [constructed, ConditionVariable.empty]

theorem must_wait_ready (several : 2 ≤ bufferList.length)
    (distinct : (bufferList.map id).Nodup) {ownership : Ownership Buffer}
    (accounted : Accounted id bufferList ownership)
    (waits : clientMustWait ownership.swapper = true) :
    ownership.swapper.clientQueue.length ≤ 1 := by
  have total := Circulation.conserved_count accounted.conserved
  simp only [view, List.length_map] at total
  rcases (accounted_must_wait several distinct accounted).mp waits with nothing | full
  · simp [nothing]
  · omega

omit [DecidableEq Thread] in
/-- A call that adds no ready buffer needs no notification. -/
theorem call_signalled (several : 2 ≤ bufferList.length)
    (distinct : (bufferList.map id).Nodup) {state : Monitor Thread Buffer}
    (signalled : Signalled id bufferList state) {call : Call} {ownership : Ownership Buffer}
    (called : SwapperOwnership.step state.ownership call = some ownership)
    (fewer : ownership.swapper.clientQueue.length ≤
      state.ownership.swapper.clientQueue.length) :
    Signalled id bufferList { state with ownership := ownership } where
  accounted := step_accounted several distinct signalled.accounted called
  apart := signalled.apart
  covered := fun somebody => fewer.trans (signalled.covered somebody)

theorem step_signalled (several : 2 ≤ bufferList.length)
    (distinct : (bufferList.map id).Nodup) {state next : Monitor Thread Buffer}
    {entered : Section Thread} (signalled : Signalled id bufferList state)
    (stepped : step state entered = some next) : Signalled id bufferList next := by
  have accounted := signalled.accounted
  have apart := signalled.apart
  have covered := signalled.covered
  cases entered with
  | clientAcquire thread key =>
      simp only [step] at stepped
      split_ifs at stepped
      obtain ⟨ownership, acquired, rfl⟩ := Option.map_eq_some_iff.mp stepped
      have fewer := Circulation.moved_ready_length
        (step_moved several distinct accounted acquired)
      simp only [Call.move, view] at fewer
      exact call_signalled several distinct signalled acquired (by omega)
  | clientWait thread =>
      simp only [step] at stepped
      split_ifs at stepped with entering
      cases stepped
      refine ⟨accounted, nodup_wait.mpr ⟨entering.1, apart⟩, fun _ => ?_⟩
      have ready := must_wait_ready several distinct accounted entering.2
      exact ready.trans (Nat.le_add_left _ _)
  | wakeSpuriously thread =>
      obtain ⟨set, woke, rfl⟩ := Option.map_eq_some_iff.mp stepped
      obtain ⟨somebody, kept⟩ := wake_spuriously_counts woke
      refine ⟨accounted, (threads_wake_spuriously woke).nodup_iff.mpr apart, fun _ => ?_⟩
      rw [kept]
      exact covered somebody
  | resumeAcquire thread key =>
      obtain ⟨set, resumed, rest⟩ := Option.bind_eq_some_iff.mp stepped
      obtain ⟨ownership, acquired, rfl⟩ := Option.map_eq_some_iff.mp rest
      have fewer := Circulation.moved_ready_length
        (step_moved several distinct accounted acquired)
      obtain ⟨same, counted⟩ := resume_counts resumed
      refine ⟨step_accounted several distinct accounted acquired,
        ((nodup_resume resumed).mp apart).2,
        fun somebody => ?_⟩
      have before := covered (same ▸ somebody)
      simp only [Call.move, view] at fewer ⊢
      omega
  | resumeWait thread =>
      obtain ⟨set, resumed, rest⟩ := Option.bind_eq_some_iff.mp stepped
      split_ifs at rest with waits
      cases rest
      refine ⟨accounted, nodup_wait.mpr ((nodup_resume resumed).mp apart), fun _ => ?_⟩
      exact (must_wait_ready several distinct accounted waits).trans (Nat.le_add_left _ _)
  | clientRelease key =>
      obtain ⟨ownership, released, rfl⟩ := Option.map_eq_some_iff.mp stepped
      have same := Circulation.moved_ready_length
        (step_moved several distinct accounted released)
      exact call_signalled several distinct signalled released same.le
  | compositorAcquire key =>
      obtain ⟨ownership, allowed, rfl⟩ := Option.map_eq_some_iff.mp stepped
      have acquired := (restrict_some.mp allowed).2
      have fewer := Circulation.moved_ready_length
        (step_moved several distinct accounted acquired)
      exact call_signalled several distinct signalled acquired fewer
  | compositorRelease key notified =>
      obtain ⟨ownership, released, rest⟩ := Option.bind_eq_some_iff.mp stepped
      obtain ⟨set, woke, rfl⟩ := Option.map_eq_some_iff.mp rest
      have more := Circulation.moved_ready_length
        (step_moved several distinct accounted released)
      refine ⟨step_accounted several distinct accounted released,
        (threads_notify_one woke).nodup_iff.mpr apart, fun somebody => ?_⟩
      obtain ⟨before, counted⟩ := notify_one_counts woke somebody
      have bound := covered before
      simp only [Call.move, view] at more ⊢
      omega
  | shutdown =>
      obtain ⟨ownership, reclaimed, rfl⟩ := Option.map_eq_some_iff.mp stepped
      exact ⟨step_accounted several distinct accounted reclaimed,
        (threads_notify_all _).nodup_iff.mpr apart, fun somebody => absurd rfl somebody⟩

theorem run_signalled (several : 2 ≤ bufferList.length)
    (distinct : (bufferList.map id).Nodup) {sections : List (Section Thread)}
    {finish : Monitor Thread Buffer}
    (ran : run step (constructed id bufferList) sections = some finish) :
    Signalled id bufferList finish :=
  run_invariant (Signalled id bufferList) constructed_signalled
    (fun _ _ _ signalled stepped => step_signalled several distinct signalled stepped) ran

/-- Whenever a client waits un-notified although the guard is false, a buffer is
still on its way through the compositor or another client is about to look. -/
theorem waiting_client_is_still_signalled (id : Buffer → BufferID) (bufferList : List Buffer)
    (several : 2 ≤ bufferList.length) (distinct : (bufferList.map id).Nodup)
    (sections : List (Section Thread)) (state : Monitor Thread Buffer)
    (ran : run step (constructed id bufferList) sections = some state)
    (thread : Thread) (waits : thread ∈ state.clientAvailable.waiting)
    (available : clientMustWait state.ownership.swapper = false) :
    state.ownership.swapper.compositorQueue ≠ [] ∨ state.ownership.compositorHeld ≠ [] ∨
      ∃ other ∈ state.clientAvailable.notified, other ≠ thread := by
  obtain ⟨accounted, apart, covered⟩ := run_signalled several distinct ran
  have ready := covered (List.ne_nil_of_mem waits)
  have total := Circulation.conserved_count accounted.conserved
  have bounded := accounted.conserved.bounded
  simp only [view, List.length_map] at total bounded
  have room : state.ownership.clientHeld.length ≠ bufferList.length - 1 := by
    intro full
    have guard := (accounted_must_wait several distinct accounted).mpr (.inr full)
    rw [available] at guard
    cases guard
  cases pending : state.clientAvailable.notified with
  | cons other rest =>
      refine .inr (.inr ⟨other, by simp, ?_⟩)
      rintro rfl
      rw [threads, pending, List.append_assoc] at apart
      exact (List.nodup_append.mp apart).2.2 other waits other (by simp) rfl
  | nil =>
      -- nobody is notified: one ready buffer and too few client holders, so the
      -- rest of the stock is with the compositor
      rw [pending] at ready
      by_contra stalled
      simp only [not_or, not_not] at stalled
      obtain ⟨nothingQueued, nothingHeld, -⟩ := stalled
      rw [nothingQueued, nothingHeld] at total
      simp only [List.length_nil] at total ready
      omega

/-- Two clients share a double buffer: while the first holds its buffer the
second has to wait, and the release that makes the guard false wakes nobody. -/
def silentRelease : List (Section Bool) :=
  [.clientAcquire false ⟨1⟩, .clientWait true, .clientRelease ⟨1⟩]

theorem silent_release_is_still_signalled :
    ∃ state : Monitor Bool BufferID,
      run step (constructed (fun key => key) [⟨1⟩, ⟨2⟩]) silentRelease = some state ∧
      true ∈ state.clientAvailable.waiting ∧
      clientMustWait state.ownership.swapper = false ∧
      (state.ownership.swapper.compositorQueue ≠ [] ∨ state.ownership.compositorHeld ≠ [] ∨
        ∃ other ∈ state.clientAvailable.notified, other ≠ true) := by
  obtain ⟨state, ran, waiting, unguarded⟩ : ∃ state : Monitor Bool BufferID,
      run step (constructed (fun key => key) [⟨1⟩, ⟨2⟩]) silentRelease = some state ∧
        true ∈ state.clientAvailable.waiting ∧
        clientMustWait state.ownership.swapper = false := ⟨_, rfl, by decide, by decide⟩
  exact ⟨state, ran, waiting, unguarded, waiting_client_is_still_signalled (fun key => key)
    [⟨1⟩, ⟨2⟩] (by decide) (by decide) silentRelease state ran true waiting unguarded⟩

end Mir.SwapperWakeups
