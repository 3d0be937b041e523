import Mir.PageFlips

/-!
# When the event loop of the page flipper fails

`wait_for_flip` with the error of `select`: the exception leaves the section after `select`,
which unlocks `pf_mutex` and does nothing else.
-/

namespace Mir.PageFlipErrors

open Mir.TransitionRuns Mir.ConditionVariable
open Mir.PageFlips hiding step created Event

set_option autoImplicit false

structure RuntimeError where
  what : String
  errno : Int32
  deriving DecidableEq, Repr

def eintr : Int32 := 4

variable {Thread : Type}

/-- The page flipper, and the exceptions that have left `wait_for_flip`. -/
structure Flipper (Thread : Type) where
  pageFlipper : PageFlipper Thread
  thrown : List (Thread × RuntimeError)

inductive Event (Thread : Type) where
  | flips (event : PageFlips.Event Thread)
  | selectFailed (thread : Thread) (errno : Int32)
  deriving DecidableEq

def created : Flipper Thread := ⟨PageFlips.created, []⟩

variable [DecidableEq Thread]

def step (state : Flipper Thread) : Event Thread → Option (Flipper Thread)
  | .flips event => (PageFlips.step state.pageFlipper event).map fun next =>
      { state with pageFlipper := next }
  | .selectFailed thread errno => match state.pageFlipper.phase thread with
      | .select _ =>
          -- an interrupted `select` goes on with the loop
          if errno = eintr then none
          else some
            { pageFlipper := setPhase state.pageFlipper thread .idle
              thrown := state.thrown ++
                [(thread, ⟨"Error while waiting for page-flip event", errno⟩)] }
      | _ => none

/-- The worker is a thread inside the event loop. -/
def WorkerInLoop (state : Flipper Thread) : Prop :=
  ∀ thread, state.pageFlipper.workerTid = some thread → InLoop (state.pageFlipper.phase thread)

/-- Nobody is the worker, and nobody is left waiting without a notification. -/
def HandedOver (state : Flipper Thread) : Prop :=
  state.pageFlipper.workerTid = none ∧ state.pageFlipper.pfCv.waiting = []

/-- Right after each exception of the run, the loop can have another worker. -/
def FailuresHandOver (events : List (Event Thread)) : Prop :=
  ∀ earlier thread errno later state, events = earlier ++ .selectFailed thread errno :: later →
    run step created (earlier ++ [.selectFailed thread errno]) = some state → HandedOver state

/-- The worker has gone, and nobody is in the event loop. -/
structure Abandoned (flipper : PageFlipper Thread) : Prop where
  worker : flipper.workerTid.isSome
  outside : ∀ thread, ¬InLoop (flipper.phase thread)

section Abandonment

variable {flipper : PageFlipper Thread} {thread : Thread} {crtc : Crtc}

theorem set_phase_abandoned (abandoned : Abandoned flipper) {phase : Phase}
    (outside : ¬InLoop phase) : Abandoned (setPhase flipper thread phase) := by
  refine ⟨abandoned.worker, ?_⟩
  intro other
  by_cases same : other = thread
  · subst same
    rw [set_phase_self]
    exact outside
  · rw [set_phase_other same]
    exact abandoned.outside other

theorem look_abandoned (abandoned : Abandoned flipper) :
    Abandoned (lookForFlip flipper thread crtc) := by
  have worker := abandoned.worker
  rcases look_for_flip_cases flipper thread crtc with ⟨-, -, looked⟩ | ⟨-, looked⟩ |
    ⟨nobody, -, looked⟩
  · have asleep : Abandoned (setPhase flipper thread (.asleep crtc)) :=
      set_phase_abandoned abandoned (by simp [InLoop])
    rw [looked]
    exact ⟨asleep.worker, asleep.outside⟩
  · rw [looked]
    exact set_phase_abandoned abandoned (by simp [InLoop])
  · rw [nobody] at worker
    cases worker

theorem step_abandoned {event : PageFlips.Event Thread} {next : PageFlipper Thread}
    (abandoned : Abandoned flipper) (stepped : PageFlips.step flipper event = some next) :
    Abandoned next := by
  cases step_cases stepped with
  | scheduleFlip thread crtc accepted idle =>
      rcases schedule_flip_cases flipper crtc accepted with same | ⟨-, -, scheduled⟩
      · rw [same]
        exact abandoned
      · rw [scheduled]
        exact ⟨abandoned.worker, abandoned.outside⟩
  | waitForFlip thread crtc idle => exact look_abandoned abandoned
  | wakeSpuriously thread pfCv woke => exact ⟨abandoned.worker, abandoned.outside⟩
  | resume thread crtc pfCv sleeping resumed =>
      exact look_abandoned ⟨abandoned.worker, abandoned.outside⟩
  | handleEvents thread events crtc handled selected ran =>
      exact absurd (by rw [selected]; trivial) (abandoned.outside thread)
  | notifyAll thread crtc done notifies =>
      have left : done = true := by
        have outside := abandoned.outside thread
        rw [notifies] at outside
        simpa [InLoop] using outside
      subst left
      have idle : Abandoned (setPhase flipper thread .idle) :=
        set_phase_abandoned abandoned (by simp [InLoop])
      exact ⟨idle.worker, idle.outside⟩

end Abandonment

section Runs

variable {events : List (Event Thread)} {state next finish : Flipper Thread}

/-- Until something is thrown this is the page flipper of the runs without errors, and from
then on it is abandoned. -/
def Either (state : Flipper Thread) : Prop :=
  state.thrown = [] ∧
      (∃ history, run PageFlips.step PageFlips.created history = some state.pageFlipper) ∨
    state.thrown ≠ [] ∧ Abandoned state.pageFlipper

theorem select_failed_some {thread : Thread} {errno : Int32}
    (stepped : step state (.selectFailed thread errno) = some next) :
    (∃ crtc, state.pageFlipper.phase thread = .select crtc) ∧ errno ≠ eintr ∧
      next = { pageFlipper := setPhase state.pageFlipper thread .idle
               thrown := state.thrown ++
                [(thread, ⟨"Error while waiting for page-flip event", errno⟩)] } := by
  simp only [step] at stepped
  split at stepped
  · next crtc selected =>
      split_ifs at stepped with interrupted
      cases stepped
      exact ⟨⟨crtc, selected⟩, interrupted, rfl⟩
  · cases stepped

/-- The worker is alone in the loop, and leaves it without a worker inside. -/
theorem failure_abandons {history : List (PageFlips.Event Thread)} {flipper : PageFlipper Thread}
    (ran : run PageFlips.step PageFlips.created history = some flipper) {thread : Thread}
    {crtc : Crtc} (selected : flipper.phase thread = .select crtc) :
    Abandoned (setPhase flipper thread .idle) := by
  have coordinated := run_coordinated ran
  have employed : flipper.workerTid = some thread := by
    rw [coordinated.worker, selected]
    trivial
  constructor
  · change flipper.workerTid.isSome
    rw [employed]
    rfl
  · intro other
    by_cases same : other = thread
    · subst same
      simp [InLoop]
    · rw [set_phase_other same, ← coordinated.worker, employed]
      simpa using Ne.symm same

theorem step_either {event : Event Thread} (either : Either state)
    (stepped : step state event = some next) : Either next := by
  cases event with
  | flips event =>
      obtain ⟨flipper, moved, rfl⟩ := Option.map_eq_some_iff.mp stepped
      rcases either with ⟨nothing, history, ran⟩ | ⟨something, abandoned⟩
      · refine .inl ⟨nothing, history ++ [event], ?_⟩
        rw [run_snoc, ran]
        exact moved
      · exact .inr ⟨something, step_abandoned abandoned moved⟩
  | selectFailed thread errno =>
      obtain ⟨⟨crtc, selected⟩, -, rfl⟩ := select_failed_some stepped
      refine .inr ⟨by simp, ?_⟩
      rcases either with ⟨-, history, ran⟩ | ⟨-, abandoned⟩
      · exact failure_abandons ran selected
      · exact absurd (by rw [selected]; trivial) (abandoned.outside thread)

theorem run_either (ran : run step created events = some state) : Either state :=
  run_invariant Either (.inl ⟨rfl, [], rfl⟩)
    (fun _ _ _ either stepped => step_either either stepped) ran

theorem worker_in_loop_iff (ran : run step created events = some state) :
    WorkerInLoop state ↔ state.thrown = [] := by
  rcases run_either ran with ⟨nothing, history, reached⟩ | ⟨something, abandoned⟩
  · refine ⟨fun _ => nothing, fun _ thread worker => ?_⟩
    exact ((run_coordinated reached).worker thread).mp worker
  · refine ⟨fun inside => ?_, fun nothing => absurd nothing something⟩
    obtain ⟨thread, worker⟩ := Option.isSome_iff_exists.mp abandoned.worker
    exact absurd (inside thread worker) (abandoned.outside thread)

theorem step_thrown {event : Event Thread} (stepped : step state event = some next) :
    state.thrown <+: next.thrown := by
  cases event with
  | flips event =>
      obtain ⟨flipper, -, rfl⟩ := Option.map_eq_some_iff.mp stepped
      exact List.prefix_rfl
  | selectFailed thread errno =>
      obtain ⟨-, -, rfl⟩ := select_failed_some stepped
      exact List.prefix_append _ _

theorem run_thrown {later : List (Event Thread)} (ran : run step state later = some finish) :
    state.thrown <+: finish.thrown :=
  run_invariant (fun reached => state.thrown <+: reached.thrown) List.prefix_rfl
    (fun _ _ _ before stepped => before.trans (step_thrown stepped)) ran

theorem nothing_thrown_iff (ran : run step created events = some state) :
    state.thrown = [] ↔ ∀ thread errno, .selectFailed thread errno ∉ events := by
  apply run_history_invariant (fun history reached =>
    reached.thrown = [] ↔ ∀ thread errno, .selectFailed thread errno ∉ history) _ _ ran
  · simp [created]
  · intro history last event after same stepped
    cases event with
    | flips event =>
        obtain ⟨flipper, -, rfl⟩ := Option.map_eq_some_iff.mp stepped
        simpa using same
    | selectFailed thread errno =>
        obtain ⟨-, -, rfl⟩ := select_failed_some stepped
        constructor
        · simp
        · intro nobody
          exact absurd (List.mem_append_right _ (List.mem_singleton_self _)) (nobody thread errno)

end Runs

/-- The flipper keeps its worker in the loop, and hands the loop over after each failure,
exactly in the runs in which no `select` fails. -/
theorem error_path_hands_over_iff {events : List (Event Thread)} {finish : Flipper Thread}
    (ran : run step created events = some finish) :
    (Always step created WorkerInLoop events ∧ FailuresHandOver events) ↔
      ∀ thread errno, .selectFailed thread errno ∉ events := by
  constructor
  · rintro ⟨always, -⟩
    apply (nothing_thrown_iff ran).mp
    exact (worker_in_loop_iff ran).mp (always events [] finish (by simp) ran)
  · intro nobody
    constructor
    · rintro earlier later state rfl reached
      apply (worker_in_loop_iff reached).mpr
      apply (nothing_thrown_iff reached).mpr
      intro thread errno failed
      exact nobody thread errno (List.mem_append_left _ failed)
    · rintro earlier thread errno later state rfl -
      exact absurd (by simp) (nobody thread errno)

/-- Nobody enters the event loop after a failure. -/
theorem failure_is_final {events later : List (Event Thread)} {state finish : Flipper Thread}
    (ran : run step created events = some state) (failed : state.thrown ≠ [])
    (went : run step state later = some finish) (thread : Thread) :
    ¬InLoop (finish.pageFlipper.phase thread) := by
  rcases run_either (run_trans ran went) with ⟨nothing, -⟩ | ⟨-, abandoned⟩
  · have shorter := run_thrown went
    rw [nothing] at shorter
    exact absurd (List.prefix_nil.mp shorter) failed
  · exact abandoned.outside thread

/-- One thread reads the events for both, and its `select` fails. -/
def failingWorker : List (Event Nat) :=
  [.flips (.scheduleFlip 0 1 true), .flips (.waitForFlip 0 1), .flips (.scheduleFlip 1 2 true),
    .flips (.waitForFlip 1 2), .selectFailed 0 5]

theorem failing_worker_keeps_the_loop :
    ∃ state, run step created failingWorker = some state ∧
      state.thrown = [(0, ⟨"Error while waiting for page-flip event", 5⟩)] ∧
      state.pageFlipper.workerTid = some 0 ∧ state.pageFlipper.phase 0 = .idle ∧
      state.pageFlipper.pfCv.waiting = [1] ∧
      ∀ later finish, run step state later = some finish →
        ∀ thread, ¬InLoop (finish.pageFlipper.phase thread) := by
  obtain ⟨state, ran, thrown, worker, idle, waiting⟩ : ∃ state,
      run step created failingWorker = some state ∧
      state.thrown = [(0, ⟨"Error while waiting for page-flip event", 5⟩)] ∧
      state.pageFlipper.workerTid = some 0 ∧ state.pageFlipper.phase 0 = .idle ∧
      state.pageFlipper.pfCv.waiting = [1] := ⟨_, rfl, rfl, rfl, rfl, rfl⟩
  refine ⟨state, ran, thrown, worker, idle, waiting, ?_⟩
  intro later finish went
  exact failure_is_final ran (by rw [thrown]; simp) went

theorem failing_worker_hands_over_iff :
    ¬(Always step created WorkerInLoop failingWorker ∧ FailuresHandOver failingWorker) ∧
      Always step created WorkerInLoop (failingWorker.take 4) ∧
      FailuresHandOver (failingWorker.take 4) := by
  obtain ⟨failed, ran⟩ : ∃ state, run step created failingWorker = some state := ⟨_, rfl⟩
  obtain ⟨waiting, before⟩ : ∃ state,
      run step created (failingWorker.take 4) = some state := ⟨_, rfl⟩
  refine ⟨fun safe => ?_, (error_path_hands_over_iff before).mpr ?_⟩
  · exact (error_path_hands_over_iff ran).mp safe 0 5 (by decide)
  · simp [failingWorker]

end Mir.PageFlipErrors
