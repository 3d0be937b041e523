import Mir.ConditionVariable
import Mir.TransitionRuns

/-!
# Waiting for vsync

`HWC11Device` with any number of threads in `wait_for_vsync`, while the hardware composer
calls `notify_vsync` through its vsync hook. Both functions work under `vsync_wait_mutex`:
a step is what a thread does between getting the mutex and giving it up.

All the waiting threads share `vsync_occurred`, and `wait_for_vsync` clears it on entry.
A waiter that a vsync has woken up still has to wait for the mutex, and whoever enters
in that time takes the vsync away from it.
-/

namespace Mir.VsyncWaits

open Mir.TransitionRuns Mir.ConditionVariable

set_option autoImplicit false

structure HWC11Device (Thread : Type*) where
  vsyncOccurred : Bool
  vsyncTrigger : WaitSet Thread
  deriving DecidableEq

inductive Event (Thread : Type*) where
  | waitForVsync (thread : Thread)
  | notifyVsync
  | wakeSpuriously (thread : Thread)
  | resume (thread : Thread)
  deriving DecidableEq

variable {Thread : Type*}

def created : HWC11Device Thread where
  vsyncOccurred := false
  vsyncTrigger := ConditionVariable.empty

def notifyVsync (device : HWC11Device Thread) : HWC11Device Thread where
  vsyncOccurred := true
  vsyncTrigger := notifyAll device.vsyncTrigger

/-- The loop of `wait_for_vsync`, from a look at its condition to the next `wait` or to
the return. -/
def loopUntilVsync (device : HWC11Device Thread) (thread : Thread) : HWC11Device Thread :=
  if !device.vsyncOccurred then
    { device with vsyncTrigger := wait device.vsyncTrigger thread }
  else device

def waitForVsync (device : HWC11Device Thread) (thread : Thread) : HWC11Device Thread :=
  loopUntilVsync { device with vsyncOccurred := false } thread

/-- Between two sections of `wait_for_vsync` a thread is inside `vsync_trigger.wait`. -/
def Waits (device : HWC11Device Thread) (thread : Thread) : Prop :=
  thread ∈ threads device.vsyncTrigger

variable [DecidableEq Thread]

instance (device : HWC11Device Thread) (thread : Thread) : Decidable (Waits device thread) :=
  inferInstanceAs (Decidable (thread ∈ threads device.vsyncTrigger))

def step (device : HWC11Device Thread) : Event Thread → Option (HWC11Device Thread)
  | .waitForVsync thread => if Waits device thread then none else some (waitForVsync device thread)
  | .notifyVsync => some (notifyVsync device)
  | .wakeSpuriously thread => (wakeSpuriously device.vsyncTrigger thread).map fun trigger =>
      { device with vsyncTrigger := trigger }
  | .resume thread => (resume device.vsyncTrigger thread).map fun trigger =>
      loopUntilVsync { device with vsyncTrigger := trigger } thread

inductive Steps (device : HWC11Device Thread) : Event Thread → HWC11Device Thread → Prop
  | enters (thread : Thread) (outside : ¬Waits device thread) :
      Steps device (.waitForVsync thread) ⟨false, wait device.vsyncTrigger thread⟩
  | notifies : Steps device .notifyVsync ⟨true, notifyAll device.vsyncTrigger⟩
  | wakes (thread : Thread) (trigger : WaitSet Thread)
      (woke : wakeSpuriously device.vsyncTrigger thread = some trigger) :
      Steps device (.wakeSpuriously thread) ⟨device.vsyncOccurred, trigger⟩
  | returns (thread : Thread) (trigger : WaitSet Thread)
      (resumed : resume device.vsyncTrigger thread = some trigger)
      (occurred : device.vsyncOccurred = true) :
      Steps device (.resume thread) ⟨true, trigger⟩
  | waitsAgain (thread : Thread) (trigger : WaitSet Thread)
      (resumed : resume device.vsyncTrigger thread = some trigger)
      (missed : device.vsyncOccurred = false) :
      Steps device (.resume thread) ⟨false, wait trigger thread⟩

theorem step_cases {device next : HWC11Device Thread} {event : Event Thread}
    (stepped : step device event = some next) : Steps device event next := by
  cases event with
  | waitForVsync thread =>
      simp only [step] at stepped
      split_ifs at stepped with outside
      cases stepped
      exact .enters thread outside
  | notifyVsync =>
      cases stepped
      exact .notifies
  | wakeSpuriously thread =>
      simp only [step, Option.map_eq_some_iff] at stepped
      obtain ⟨trigger, woke, rfl⟩ := stepped
      exact .wakes thread trigger woke
  | resume thread =>
      simp only [step, Option.map_eq_some_iff] at stepped
      obtain ⟨trigger, resumed, rfl⟩ := stepped
      cases occurred : device.vsyncOccurred with
      | true =>
          simp only [loopUntilVsync, Bool.not_true, Bool.false_eq_true, if_false]
          exact .returns thread trigger resumed occurred
      | false =>
          simp only [loopUntilVsync, Bool.not_false, if_true]
          exact .waitsAgain thread trigger resumed occurred

/-! ### The shared flag -/

theorem step_vsync_occurred {device next : HWC11Device Thread} {event : Event Thread}
    (stepped : step device event = some next) (quiet : event ≠ .notifyVsync) :
    next.vsyncOccurred = true ↔
      device.vsyncOccurred = true ∧ ∀ thread, event ≠ .waitForVsync thread := by
  cases step_cases stepped with
  | enters thread => simp
  | notifies => exact absurd rfl quiet
  | wakes => simp
  | returns thread trigger resumed occurred => simp [occurred]
  | waitsAgain thread trigger resumed missed => simp [missed]

theorem run_vsync_occurred {device last : HWC11Device Thread} {events : List (Event Thread)}
    (ran : run step device events = some last) (quiet : .notifyVsync ∉ events) :
    last.vsyncOccurred = true ↔
      device.vsyncOccurred = true ∧ ∀ thread, .waitForVsync thread ∉ events := by
  revert quiet
  apply run_history_invariant
    (fun history state => .notifyVsync ∉ history →
      (state.vsyncOccurred = true ↔
        device.vsyncOccurred = true ∧ ∀ thread, .waitForVsync thread ∉ history))
    (by simp) _ ran
  intro history state event next flag stepped quiet
  rw [List.mem_append, List.mem_singleton, not_or] at quiet
  rw [step_vsync_occurred stepped (Ne.symm quiet.2), flag quiet.1]
  simp only [List.mem_append, List.mem_singleton, not_or, and_assoc, forall_and, ne_eq,
    eq_comm]

/-! ### The waiting threads -/

def PlacedOnce (device : HWC11Device Thread) : Prop :=
  (threads device.vsyncTrigger).Nodup

theorem step_placed_once {device next : HWC11Device Thread} {event : Event Thread}
    (stepped : step device event = some next) (once : PlacedOnce device) : PlacedOnce next := by
  cases step_cases stepped with
  | enters thread outside => exact nodup_wait.mpr ⟨outside, once⟩
  | notifies => exact (threads_notify_all device.vsyncTrigger).nodup_iff.mpr once
  | wakes thread trigger woke => exact (threads_wake_spuriously woke).nodup_iff.mpr once
  | returns thread trigger resumed => exact ((nodup_resume resumed).mp once).2
  | waitsAgain thread trigger resumed => exact nodup_wait.mpr ((nodup_resume resumed).mp once)

theorem run_placed_once {device : HWC11Device Thread} {history : List (Event Thread)}
    (ran : run step created history = some device) : PlacedOnce device := by
  apply run_invariant PlacedOnce _ _ ran
  · exact List.nodup_nil
  · intro state event next once stepped
    exact step_placed_once stepped once

theorem step_waits {device next : HWC11Device Thread} {event : Event Thread} {thread : Thread}
    (stepped : step device event = some next) (waits : Waits device thread)
    (stays : event = .resume thread → device.vsyncOccurred = false) : Waits next thread := by
  cases step_cases stepped with
  | enters other => exact mem_wait.mpr (.inr waits)
  | notifies => exact (threads_notify_all device.vsyncTrigger).mem_iff.mpr waits
  | wakes other trigger woke => exact (threads_wake_spuriously woke).mem_iff.mpr waits
  | returns other trigger resumed occurred =>
      have different : thread ≠ other := by
        rintro rfl
        rw [stays rfl] at occurred
        cases occurred
      exact ((mem_resume resumed).mp waits).resolve_left different
  | waitsAgain other trigger resumed => exact mem_wait.mpr ((mem_resume resumed).mp waits)

/-- Only another `notify_vsync` can end the wait of this thread. -/
def NeedsAnotherVsync (device : HWC11Device Thread) (thread : Thread) : Prop :=
  ∀ events last, .notifyVsync ∉ events → run step device events = some last → Waits last thread

theorem needs_another_vsync {device : HWC11Device Thread} {thread : Thread}
    (waits : Waits device thread) (missed : device.vsyncOccurred = false) :
    NeedsAnotherVsync device thread := by
  intro events last quiet ran
  have kept : .notifyVsync ∉ events → Waits last thread ∧ last.vsyncOccurred = false := by
    apply run_history_invariant
      (fun history state => .notifyVsync ∉ history →
        Waits state thread ∧ state.vsyncOccurred = false)
      (fun _ => ⟨waits, missed⟩) _ ran
    intro history state event next before stepped silent
    rw [List.mem_append, List.mem_singleton, not_or] at silent
    obtain ⟨still, down⟩ := before silent.1
    refine ⟨step_waits stepped still fun _ => down, ?_⟩
    rw [← Bool.not_eq_true, step_vsync_occurred stepped (Ne.symm silent.2), down]
    simp
  exact (kept quiet).1

/-! ### A woken waiter -/

theorem step_awake {device next : HWC11Device Thread} {event : Event Thread} {thread : Thread}
    (stepped : step device event = some next) (awake : Awake device.vsyncTrigger thread)
    (elsewhere : event ≠ .resume thread) : Awake next.vsyncTrigger thread := by
  cases step_cases stepped with
  | enters => exact awake
  | notifies =>
      rcases awake with notified | spurious
      · exact .inl (List.mem_append_left _ notified)
      · exact .inr spurious
  | wakes other trigger woke => exact awake_wake_spuriously awake woke
  | returns other trigger resumed =>
      have different : thread ≠ other := fun same => elsewhere (same ▸ rfl)
      exact awake_resume_other awake different resumed
  | waitsAgain other trigger resumed =>
      have different : thread ≠ other := fun same => elsewhere (same ▸ rfl)
      have still : Awake trigger thread := awake_resume_other awake different resumed
      exact still

theorem run_awake {device last : HWC11Device Thread} {events : List (Event Thread)}
    {thread : Thread} (ran : run step device events = some last)
    (awake : Awake device.vsyncTrigger thread) (elsewhere : .resume thread ∉ events) :
    Awake last.vsyncTrigger thread := by
  revert elsewhere
  apply run_history_invariant
    (fun history state => .resume thread ∉ history → Awake state.vsyncTrigger thread)
    (fun _ => awake) _ ran
  intro history state event next before stepped elsewhere
  rw [List.mem_append, List.mem_singleton, not_or] at elsewhere
  exact step_awake stepped (before elsewhere.1) (Ne.symm elsewhere.2)

/-- The turn of a woken waiter: it can be taken, and the flag alone decides what it does. -/
theorem awake_turn {device : HWC11Device Thread} {thread : Thread}
    (once : PlacedOnce device) (awake : Awake device.vsyncTrigger thread) :
    ∃ next, step device (.resume thread) = some next ∧
      (¬Waits next thread ↔ device.vsyncOccurred = true) := by
  obtain ⟨trigger, resumed⟩ := awake_resumes awake
  refine ⟨loopUntilVsync { device with vsyncTrigger := trigger } thread, ?_, ?_⟩
  · simp only [step, resumed, Option.map_some]
  · have gone := ((nodup_resume resumed).mp once).1
    have back : thread ∈ threads (wait trigger thread) := mem_wait.mpr (.inl rfl)
    cases occurred : device.vsyncOccurred with
    | true => simpa [loopUntilVsync, Waits, occurred] using gone
    | false => simpa [loopUntilVsync, Waits, occurred] using back

/-- After a vsync a waiter can take its turn at any time. It returns then if nobody has
entered since, and otherwise no turn of it will do before the next vsync. -/
theorem woken_waiter_returns_iff {history later : List (Event Thread)}
    {device last : HWC11Device Thread} {thread : Thread}
    (reached : run step created history = some device) (waits : Waits device thread)
    (ran : run step device (.notifyVsync :: later) = some last)
    (quiet : .notifyVsync ∉ later) (before : .resume thread ∉ later) :
    ∃ next, step last (.resume thread) = some next ∧
      (¬Waits next thread ↔ ∀ entering, .waitForVsync entering ∉ later) ∧
      (NeedsAnotherVsync last thread ↔ ∃ entering, .waitForVsync entering ∈ later) := by
  have whole : run step created (history ++ .notifyVsync :: later) = some last :=
    run_trans reached ran
  obtain ⟨notified, notifies, continued⟩ := run_cons_some ran
  cases notifies
  -- nobody can take the wake-up back, but the flag is not the waiter's own
  have awake : Awake last.vsyncTrigger thread :=
    run_awake continued (awake_notify_all waits) before
  have flag : last.vsyncOccurred = true ↔ ∀ entering, .waitForVsync entering ∉ later := by
    rw [run_vsync_occurred continued quiet]
    simp [notifyVsync]
  obtain ⟨next, turn, leaves⟩ := awake_turn (run_placed_once whole) awake
  refine ⟨next, turn, leaves.trans flag, ?_⟩
  constructor
  · intro needs
    have remains : Waits next thread := by
      apply needs [.resume thread] next (by simp)
      rw [run_single]
      exact turn
    by_contra nobody
    exact leaves.mpr (flag.mpr (not_exists.mp nobody)) remains
  · rintro ⟨entering, entered⟩
    have missed : last.vsyncOccurred = false := by
      rw [← Bool.not_eq_true, flag]
      exact fun nobody => nobody entering entered
    exact needs_another_vsync (awake_member awake) missed

/-- Two threads that draw frame after frame: the second one is back for its next frame
before the first one has seen the vsync they both waited for. -/
theorem entering_thread_takes_vsync :
    ∃ device last : HWC11Device Nat,
      run step created [.waitForVsync 0, .waitForVsync 1] = some device ∧ Waits device 0 ∧
      run step device [.notifyVsync, .resume 1, .waitForVsync 1, .resume 0] = some last ∧
      NeedsAnotherVsync last 0 := by
  refine ⟨_, _, rfl, by decide, rfl, ?_⟩
  apply needs_another_vsync
  · decide
  · rfl

theorem woken_waiter_loses_vsync :
    ∃ last next : HWC11Device Nat,
      run step created [.waitForVsync 0, .notifyVsync, .waitForVsync 1] = some last ∧
      step last (.resume 0) = some next ∧ Waits next 0 := by
  obtain ⟨device, last, reached, waits, ran⟩ : ∃ device last : HWC11Device Nat,
      run step created [.waitForVsync 0] = some device ∧ Waits device 0 ∧
      run step device [.notifyVsync, .waitForVsync 1] = some last :=
    ⟨_, _, rfl, by decide, rfl⟩
  obtain ⟨next, turn, returns, -⟩ :=
    woken_waiter_returns_iff reached waits ran (by decide) (by decide)
  refine ⟨last, next, run_trans reached ran, turn, ?_⟩
  by_contra gone
  exact returns.mp gone 1 (by decide)

/-! ### No return without a vsync -/

/-- The events since the thread entered for the last time, latest first. -/
def sinceEntry (history : List (Event Thread)) (thread : Thread) : List (Event Thread) :=
  history.reverse.takeWhile (· ≠ .waitForVsync thread)

theorem since_entry_snoc {history : List (Event Thread)} {event : Event Thread}
    {thread : Thread} (later : event ≠ .waitForVsync thread) :
    sinceEntry (history ++ [event]) thread = event :: sinceEntry history thread := by
  simp [sinceEntry, later]

theorem step_vsync_since {history : List (Event Thread)} {device next : HWC11Device Thread}
    {event : Event Thread} {thread : Thread} (stepped : step device event = some next)
    (since : Waits device thread → device.vsyncOccurred = true →
      .notifyVsync ∈ sinceEntry history thread)
    (waits : Waits next thread) (occurred : next.vsyncOccurred = true) :
    .notifyVsync ∈ sinceEntry (history ++ [event]) thread := by
  cases step_cases stepped with
  | enters => cases occurred
  | notifies =>
      rw [since_entry_snoc (by simp)]
      exact List.mem_cons_self
  | wakes other trigger woke =>
      rw [since_entry_snoc (by simp)]
      have waited : Waits device thread := (threads_wake_spuriously woke).mem_iff.mp waits
      exact List.mem_cons_of_mem _ (since waited occurred)
  | returns other trigger resumed seen =>
      rw [since_entry_snoc (by simp)]
      have waited : Waits device thread := (mem_resume resumed).mpr (.inr waits)
      exact List.mem_cons_of_mem _ (since waited seen)
  | waitsAgain => cases occurred

/-- `wait_for_vsync` never returns early: spurious wake-ups and the vsyncs before its entry
do not count. -/
theorem returns_after_vsync {history : List (Event Thread)} {device next : HWC11Device Thread}
    {thread : Thread} (reached : run step created history = some device)
    (turn : step device (.resume thread) = some next) (returned : ¬Waits next thread) :
    .notifyVsync ∈ sinceEntry history thread := by
  have since : Waits device thread → device.vsyncOccurred = true →
      .notifyVsync ∈ sinceEntry history thread := by
    apply run_history_invariant
      (fun past state => Waits state thread → state.vsyncOccurred = true →
        .notifyVsync ∈ sinceEntry past thread)
      (fun waits => absurd waits List.not_mem_nil) _ reached
    intro past state event after before stepped waits occurred
    exact step_vsync_since stepped before waits occurred
  cases step_cases turn with
  | returns thread trigger resumed occurred =>
      have waited : Waits device thread := (mem_resume resumed).mpr (.inl rfl)
      exact since waited occurred
  | waitsAgain thread trigger resumed =>
      have member : thread ∈ threads (wait trigger thread) := mem_wait.mpr (.inl rfl)
      exact absurd member returned

end Mir.VsyncWaits
