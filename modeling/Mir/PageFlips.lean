import Mathlib.Logic.Function.Basic
import Mir.ConditionVariable
import Mir.TransitionRuns

/-!
# The page flipper

`KMSPageFlipper` with any number of threads. One of the threads that wait for a flip is
the worker, which reads the page flip events of all of them. A step is what a thread does
while it holds `pf_mutex`; `notify_all`, and the return after it, come without the mutex.
The flips that `drmModePageFlip` has accepted stay with the kernel until `drmHandleEvent`
reports them, in any order and any number at a time, or none if `select` was interrupted.
-/

namespace Mir.PageFlips

open Mir.TransitionRuns Mir.ConditionVariable

set_option autoImplicit false

abbrev Crtc := UInt32

structure LogicError where
  what : String
  deriving DecidableEq, Repr

/-- Where a thread is in `wait_for_flip`: inside `pf_cv.wait`, before its `select`, or before
its `notify_all`, with the value of `done`. -/
inductive Phase where
  | idle
  | asleep (crtc : Crtc)
  | select (crtc : Crtc)
  | notifying (crtc : Crtc) (done : Bool)
  deriving DecidableEq, Repr

structure PageFlipper (Thread : Type) where
  pendingPageFlips : List Crtc
  workerTid : Option Thread
  pfCv : WaitSet Thread
  kernel : List Crtc
  phase : Thread → Phase

variable {Thread : Type}

def created : PageFlipper Thread where
  pendingPageFlips := []
  workerTid := none
  pfCv := ConditionVariable.empty
  kernel := []
  phase := fun _ => .idle

def pageFlipIsDone (flipper : PageFlipper Thread) (crtc : Crtc) : Bool :=
  crtc ∉ flipper.pendingPageFlips

/-- `accepted` is whether `drmModePageFlip` returns zero, if it is called. -/
def scheduleFlip (flipper : PageFlipper Thread) (crtc : Crtc) (accepted : Bool) :
    Except LogicError Bool × PageFlipper Thread :=
  if crtc ∈ flipper.pendingPageFlips then
    (.error ⟨"Page flip for crtc_id is already scheduled"⟩, flipper)
  else
    let pending := crtc :: flipper.pendingPageFlips
    if accepted then
      (.ok true, { flipper with
        pendingPageFlips := pending
        kernel := crtc :: flipper.kernel })
    else (.ok false, { flipper with pendingPageFlips := pending.erase crtc })

/-- `drmHandleEvent`, which calls `page_flip_handler` for each of the events. -/
def drmHandleEvent (flipper : PageFlipper Thread) : List Crtc → Option (PageFlipper Thread)
  | [] => some flipper
  | crtc :: events =>
      if crtc ∈ flipper.kernel then
        drmHandleEvent
          { flipper with
            pendingPageFlips := flipper.pendingPageFlips.erase crtc
            kernel := flipper.kernel.erase crtc }
          events
      else none

inductive Event (Thread : Type) where
  | scheduleFlip (thread : Thread) (crtc : Crtc) (accepted : Bool)
  | waitForFlip (thread : Thread) (crtc : Crtc)
  | wakeSpuriously (thread : Thread)
  | resume (thread : Thread)
  | handleEvents (thread : Thread) (events : List Crtc)
  | notifyAll (thread : Thread)
  deriving DecidableEq

def Event.thread : Event Thread → Thread
  | .scheduleFlip thread _ _ => thread
  | .waitForFlip thread _ => thread
  | .wakeSpuriously thread => thread
  | .resume thread => thread
  | .handleEvents thread _ => thread
  | .notifyAll thread => thread

variable [DecidableEq Thread]

def setPhase (flipper : PageFlipper Thread) (thread : Thread) (phase : Phase) :
    PageFlipper Thread :=
  { flipper with phase := Function.update flipper.phase thread phase }

/-- The first section of `wait_for_flip`, from a look at the condition of its loop on. -/
def lookForFlip (flipper : PageFlipper Thread) (thread : Thread) (crtc : Crtc) :
    PageFlipper Thread :=
  if flipper.workerTid.isSome ∧ !pageFlipIsDone flipper crtc then
    { setPhase flipper thread (.asleep crtc) with pfCv := wait flipper.pfCv thread }
  else if pageFlipIsDone flipper crtc then setPhase flipper thread .idle
  else { setPhase flipper thread (.select crtc) with workerTid := some thread }

/-- The section of the event loop after `select`. -/
def giveUpLoopControl (flipper : PageFlipper Thread) (thread : Thread) (crtc : Crtc) :
    PageFlipper Thread :=
  let done := pageFlipIsDone flipper crtc
  { setPhase flipper thread (.notifying crtc done) with
    workerTid := if done then none else flipper.workerTid }

def step (flipper : PageFlipper Thread) : Event Thread → Option (PageFlipper Thread)
  | .scheduleFlip thread crtc accepted =>
      if flipper.phase thread = .idle then some (scheduleFlip flipper crtc accepted).2 else none
  | .waitForFlip thread crtc =>
      if flipper.phase thread = .idle then some (lookForFlip flipper thread crtc) else none
  | .wakeSpuriously thread =>
      (wakeSpuriously flipper.pfCv thread).map fun pfCv => { flipper with pfCv := pfCv }
  | .resume thread => match flipper.phase thread with
      | .asleep crtc => (resume flipper.pfCv thread).map fun pfCv =>
          lookForFlip { flipper with pfCv := pfCv } thread crtc
      | _ => none
  | .handleEvents thread events => match flipper.phase thread with
      | .select crtc => (drmHandleEvent flipper events).map fun handled =>
          giveUpLoopControl handled thread crtc
      | _ => none
  | .notifyAll thread => match flipper.phase thread with
      | .notifying crtc done => some
          { setPhase flipper thread (if done then .idle else .select crtc) with
            pfCv := notifyAll flipper.pfCv }
      | _ => none

def InLoop : Phase → Prop
  | .select _ => True
  | .notifying _ done => done = false
  | _ => False

def Notifying : Phase → Prop
  | .notifying _ _ => True
  | _ => False

section Steps

inductive Steps (flipper : PageFlipper Thread) : Event Thread → PageFlipper Thread → Prop where
  | scheduleFlip (thread : Thread) (crtc : Crtc) (accepted : Bool)
      (idle : flipper.phase thread = .idle) :
      Steps flipper (.scheduleFlip thread crtc accepted) (scheduleFlip flipper crtc accepted).2
  | waitForFlip (thread : Thread) (crtc : Crtc) (idle : flipper.phase thread = .idle) :
      Steps flipper (.waitForFlip thread crtc) (lookForFlip flipper thread crtc)
  | wakeSpuriously (thread : Thread) (pfCv : WaitSet Thread)
      (woke : wakeSpuriously flipper.pfCv thread = some pfCv) :
      Steps flipper (.wakeSpuriously thread) { flipper with pfCv := pfCv }
  | resume (thread : Thread) (crtc : Crtc) (pfCv : WaitSet Thread)
      (sleeping : flipper.phase thread = .asleep crtc)
      (resumed : resume flipper.pfCv thread = some pfCv) :
      Steps flipper (.resume thread) (lookForFlip { flipper with pfCv := pfCv } thread crtc)
  | handleEvents (thread : Thread) (events : List Crtc) (crtc : Crtc)
      (handled : PageFlipper Thread) (selected : flipper.phase thread = .select crtc)
      (ran : drmHandleEvent flipper events = some handled) :
      Steps flipper (.handleEvents thread events) (giveUpLoopControl handled thread crtc)
  | notifyAll (thread : Thread) (crtc : Crtc) (done : Bool)
      (notifies : flipper.phase thread = .notifying crtc done) :
      Steps flipper (.notifyAll thread)
        { setPhase flipper thread (if done then .idle else .select crtc) with
          pfCv := notifyAll flipper.pfCv }

theorem step_cases {flipper next : PageFlipper Thread} {event : Event Thread}
    (stepped : step flipper event = some next) : Steps flipper event next := by
  cases event with
  | scheduleFlip thread crtc accepted =>
      simp only [step] at stepped
      split_ifs at stepped with idle
      cases stepped
      exact .scheduleFlip thread crtc accepted idle
  | waitForFlip thread crtc =>
      simp only [step] at stepped
      split_ifs at stepped with idle
      cases stepped
      exact .waitForFlip thread crtc idle
  | wakeSpuriously thread =>
      obtain ⟨pfCv, woke, rfl⟩ := Option.map_eq_some_iff.mp stepped
      exact .wakeSpuriously thread pfCv woke
  | resume thread =>
      simp only [step] at stepped
      split at stepped
      · next crtc sleeping =>
          obtain ⟨pfCv, resumed, rfl⟩ := Option.map_eq_some_iff.mp stepped
          exact .resume thread crtc pfCv sleeping resumed
      · cases stepped
  | handleEvents thread events =>
      simp only [step] at stepped
      split at stepped
      · next crtc selected =>
          obtain ⟨handled, ran, rfl⟩ := Option.map_eq_some_iff.mp stepped
          exact .handleEvents thread events crtc handled selected ran
      · cases stepped
  | notifyAll thread =>
      simp only [step] at stepped
      split at stepped
      · next crtc done notifies =>
          cases stepped
          exact .notifyAll thread crtc done notifies
      · cases stepped

end Steps

section Phases

variable {flipper : PageFlipper Thread} {thread : Thread} {phase : Phase}

@[simp] theorem set_phase_self : (setPhase flipper thread phase).phase thread = phase :=
  Function.update_self _ _ _

theorem set_phase_other {other : Thread} (different : other ≠ thread) :
    (setPhase flipper thread phase).phase other = flipper.phase other :=
  Function.update_of_ne different _ _

theorem look_for_flip_cases (flipper : PageFlipper Thread) (thread : Thread) (crtc : Crtc) :
    flipper.workerTid.isSome ∧ crtc ∈ flipper.pendingPageFlips ∧
      lookForFlip flipper thread crtc =
        { setPhase flipper thread (.asleep crtc) with pfCv := wait flipper.pfCv thread } ∨
    crtc ∉ flipper.pendingPageFlips ∧
      lookForFlip flipper thread crtc = setPhase flipper thread .idle ∨
    flipper.workerTid = none ∧ crtc ∈ flipper.pendingPageFlips ∧
      lookForFlip flipper thread crtc =
        { setPhase flipper thread (.select crtc) with workerTid := some thread } := by
  unfold lookForFlip pageFlipIsDone
  by_cases pending : crtc ∈ flipper.pendingPageFlips
  · cases worker : flipper.workerTid <;> simp [pending]
  · simp [pending]

end Phases

section Handling

omit [DecidableEq Thread] in
theorem drm_handle_event_some {flipper handled : PageFlipper Thread} {events : List Crtc}
    (owed : flipper.pendingPageFlips = flipper.kernel)
    (distinct : flipper.pendingPageFlips.Nodup)
    (ran : drmHandleEvent flipper events = some handled) :
    handled.pendingPageFlips = handled.kernel ∧ handled.pendingPageFlips.Nodup ∧
      (∀ crtc ∈ handled.pendingPageFlips, crtc ∈ flipper.pendingPageFlips) ∧
      handled.workerTid = flipper.workerTid ∧ handled.pfCv = flipper.pfCv ∧
      handled.phase = flipper.phase := by
  induction events generalizing flipper with
  | nil =>
      cases ran
      exact ⟨owed, distinct, fun _ => id, rfl, rfl, rfl⟩
  | cons crtc events ih =>
      simp only [drmHandleEvent] at ran
      split_ifs at ran
      obtain ⟨same, nodup, fewer, worker, pfCv, phase⟩ :=
        ih (by simp [owed]) (distinct.erase crtc) ran
      refine ⟨same, nodup, ?_, worker, pfCv, phase⟩
      intro other member
      exact List.mem_of_mem_erase (fewer other member)

omit [DecidableEq Thread] in
theorem schedule_flip_cases (flipper : PageFlipper Thread) (crtc : Crtc) (accepted : Bool) :
    (scheduleFlip flipper crtc accepted).2 = flipper ∨
      crtc ∉ flipper.pendingPageFlips ∧ accepted = true ∧
        (scheduleFlip flipper crtc accepted).2 = { flipper with
          pendingPageFlips := crtc :: flipper.pendingPageFlips
          kernel := crtc :: flipper.kernel } := by
  unfold scheduleFlip
  by_cases pending : crtc ∈ flipper.pendingPageFlips
  · simp [pending]
  · cases accepted <;> simp [pending]

end Handling

section Coordination

/-- The thread's last section has left the flip done, and only another thread can have
scheduled it again since. -/
def LeftLoop (history : List (Event Thread)) (flipper : PageFlipper Thread) (thread : Thread)
    (crtc : Crtc) : Prop :=
  ∃ before events after last, history = before ++ .handleEvents thread events :: after ∧
    (∀ event ∈ after, event.thread ≠ thread) ∧
    run step created (before ++ [.handleEvents thread events]) = some last ∧
    crtc ∉ last.pendingPageFlips ∧
    (crtc ∈ flipper.pendingPageFlips →
      ∃ other, other ≠ thread ∧ .scheduleFlip other crtc true ∈ after)

structure Coordinated (history : List (Event Thread)) (flipper : PageFlipper Thread) : Prop where
  owed : flipper.pendingPageFlips = flipper.kernel
  distinct : flipper.pendingPageFlips.Nodup
  worker : ∀ thread, flipper.workerTid = some thread ↔ InLoop (flipper.phase thread)
  alone : (threads flipper.pfCv).Nodup
  asleep : ∀ thread, thread ∈ threads flipper.pfCv ↔ ∃ crtc, flipper.phase thread = .asleep crtc
  awake : ∀ thread crtc, thread ∈ flipper.pfCv.waiting → flipper.phase thread = .asleep crtc →
    flipper.workerTid.isSome ∧ crtc ∈ flipper.pendingPageFlips ∨
      ∃ other, Notifying (flipper.phase other)
  left : ∀ thread crtc, flipper.phase thread = .notifying crtc true →
    LeftLoop history flipper thread crtc

theorem created_coordinated : Coordinated [] (created : PageFlipper Thread) where
  owed := rfl
  distinct := List.nodup_nil
  worker := by simp [created, InLoop]
  alone := List.nodup_nil
  asleep := by simp [created, ConditionVariable.empty, threads]
  awake := by simp [created, ConditionVariable.empty]
  left := by simp [created]

variable {history : List (Event Thread)} {event : Event Thread}
  {flipper next : PageFlipper Thread} {thread : Thread} {crtc : Crtc}

/-- Another thread makes a step, which may schedule the flip again. -/
theorem left_loop_snoc (left : LeftLoop history flipper thread crtc)
    (elsewhere : event.thread ≠ thread)
    (again : crtc ∈ next.pendingPageFlips → crtc ∈ flipper.pendingPageFlips ∨
      event = .scheduleFlip event.thread crtc true) :
    LeftLoop (history ++ [event]) next thread crtc := by
  obtain ⟨before, events, after, last, rfl, others, reached, done, earlier⟩ := left
  refine ⟨before, events, after ++ [event], last, by simp, ?_, reached, done, ?_⟩
  · intro made member
    rcases List.mem_append.mp member with old | new
    · exact others made old
    · cases List.mem_singleton.mp new
      exact elsewhere
  · intro pending
    rcases again pending with already | now
    · obtain ⟨other, different, scheduled⟩ := earlier already
      exact ⟨other, different, List.mem_append_left _ scheduled⟩
    · exact ⟨event.thread, elsewhere, by simp [← now]⟩

theorem schedule_coordinated (coordinated : Coordinated history flipper)
    (idle : flipper.phase thread = .idle) (accepted : Bool) :
    Coordinated (history ++ [.scheduleFlip thread crtc accepted])
      (scheduleFlip flipper crtc accepted).2 := by
  have apart : ∀ other waited, flipper.phase other = .notifying waited true →
      thread ≠ other := by
    rintro other waited notifying rfl
    rw [idle] at notifying
    cases notifying
  rcases schedule_flip_cases flipper crtc accepted with same | ⟨absent, rfl, scheduled⟩
  · rw [same]
    refine { coordinated with left := ?_ }
    intro other waited notifying
    exact left_loop_snoc (coordinated.left other waited notifying)
      (apart other waited notifying) .inl
  · rw [scheduled]
    refine ⟨?_, ?_, coordinated.worker, coordinated.alone, coordinated.asleep, ?_, ?_⟩
    · simp [coordinated.owed]
    · exact List.nodup_cons.mpr ⟨absent, coordinated.distinct⟩
    · intro other waited waits sleeping
      rcases coordinated.awake other waited waits sleeping with ⟨worker, pending⟩ | notifying
      · exact .inl ⟨worker, List.mem_cons_of_mem _ pending⟩
      · exact .inr notifying
    · intro other waited notifying
      refine left_loop_snoc (coordinated.left other waited notifying)
        (apart other waited notifying) ?_
      intro pending
      rcases List.mem_cons.mp pending with rfl | already
      · exact .inr rfl
      · exact .inl already

/-- A thread that neither controls the loop nor is on its way out of it. -/
def Outside (phase : Phase) : Prop := ¬InLoop phase ∧ ¬Notifying phase

theorem notifying_still (outside : ¬Notifying (flipper.phase thread)) {phase : Phase}
    (notifying : ∃ other, Notifying (flipper.phase other)) :
    ∃ other, Notifying ((setPhase flipper thread phase).phase other) := by
  obtain ⟨other, notifies⟩ := notifying
  have different : other ≠ thread := by
    rintro rfl
    exact outside notifies
  exact ⟨other, by rw [set_phase_other different]; exact notifies⟩

/-- The threads that wait, apart from one that has the mutex and is not among them. -/
structure Entered (flipper : PageFlipper Thread) (thread : Thread) (pfCv : WaitSet Thread) :
    Prop where
  outside : Outside (flipper.phase thread)
  alone : (threads pfCv).Nodup
  absent : thread ∉ threads pfCv
  others : ∀ other, other ≠ thread → (other ∈ threads pfCv ↔ other ∈ threads flipper.pfCv)
  waiting : pfCv.waiting = flipper.pfCv.waiting

theorem entered_asleep (coordinated : Coordinated history flipper) {pfCv : WaitSet Thread}
    (entered : Entered flipper thread pfCv) {phase : Phase}
    (awake : ∀ crtc, phase ≠ .asleep crtc) (other : Thread) :
    other ∈ threads pfCv ↔ ∃ crtc, (setPhase flipper thread phase).phase other = .asleep crtc := by
  by_cases same : other = thread
  · subst same
    simp [entered.absent, awake]
  · rw [set_phase_other same, entered.others other same, coordinated.asleep]

theorem entered_worker (coordinated : Coordinated history flipper) {pfCv : WaitSet Thread}
    (entered : Entered flipper thread pfCv) {phase : Phase} (outside : ¬InLoop phase)
    (other : Thread) :
    flipper.workerTid = some other ↔ InLoop ((setPhase flipper thread phase).phase other) := by
  by_cases same : other = thread
  · subst same
    simp [coordinated.worker, entered.outside.1, outside]
  · rw [set_phase_other same, coordinated.worker]

theorem entered_awake (coordinated : Coordinated history flipper) {pfCv : WaitSet Thread}
    (entered : Entered flipper thread pfCv) (phase : Phase) {other : Thread} {waited : Crtc}
    (waits : other ∈ pfCv.waiting)
    (sleeping : (setPhase flipper thread phase).phase other = .asleep waited) :
    flipper.workerTid.isSome ∧ waited ∈ flipper.pendingPageFlips ∨
      ∃ other, Notifying ((setPhase flipper thread phase).phase other) := by
  have different : other ≠ thread := by
    rintro rfl
    exact entered.absent (by simp [threads, waits])
  rw [set_phase_other different] at sleeping
  rw [entered.waiting] at waits
  rcases coordinated.awake other waited waits sleeping with covered | notifying
  · exact .inl covered
  · exact .inr (notifying_still entered.outside.2 notifying)

theorem entered_left (coordinated : Coordinated history flipper) {phase : Phase}
    (moves : event.thread = thread) (inside : ¬Notifying phase) {other : Thread} {waited : Crtc}
    (notifying : (setPhase flipper thread phase).phase other = .notifying waited true)
    (same : next.pendingPageFlips = flipper.pendingPageFlips) :
    LeftLoop (history ++ [event]) next other waited := by
  have different : other ≠ thread := by
    rintro rfl
    rw [set_phase_self] at notifying
    exact inside (by rw [notifying]; trivial)
  rw [set_phase_other different] at notifying
  apply left_loop_snoc (coordinated.left other waited notifying)
  · rw [moves]
    exact different.symm
  · rw [same]
    exact .inl

theorem look_coordinated (coordinated : Coordinated history flipper) {pfCv : WaitSet Thread}
    (entered : Entered flipper thread pfCv) (moves : event.thread = thread) :
    Coordinated (history ++ [event]) (lookForFlip { flipper with pfCv := pfCv } thread crtc) := by
  rcases look_for_flip_cases { flipper with pfCv := pfCv } thread crtc with
    ⟨worker, pending, looked⟩ | ⟨done, looked⟩ | ⟨nobody, pending, looked⟩
  · rw [looked]
    refine ⟨coordinated.owed, coordinated.distinct, ?_, ?_, ?_, ?_, ?_⟩
    · exact entered_worker coordinated entered (by simp [InLoop])
    · exact nodup_wait.mpr ⟨entered.absent, entered.alone⟩
    · intro other
      rw [mem_wait]
      by_cases same : other = thread
      · subst same
        simp
      · have unchanged : other ∈ threads pfCv ↔ ∃ crtc, flipper.phase other = .asleep crtc :=
          (entered.others other same).trans (coordinated.asleep other)
        simp [same, set_phase_other same, unchanged]
    · intro other waited member sleeping
      rcases List.mem_append.mp member with already | now
      · exact entered_awake coordinated entered (.asleep crtc) already sleeping
      · rw [List.mem_singleton.mp now, set_phase_self] at sleeping
        cases sleeping
        exact .inl ⟨worker, pending⟩
    · intro other waited notifying
      exact entered_left coordinated moves (by simp [Notifying]) notifying rfl
  · rw [looked]
    refine ⟨coordinated.owed, coordinated.distinct, ?_, entered.alone, ?_, ?_, ?_⟩
    · exact entered_worker coordinated entered (by simp [InLoop])
    · exact entered_asleep coordinated entered (by simp)
    · intro other waited member sleeping
      exact entered_awake coordinated entered .idle member sleeping
    · intro other waited notifying
      exact entered_left coordinated moves (by simp [Notifying]) notifying rfl
  · rw [looked]
    refine ⟨coordinated.owed, coordinated.distinct, ?_, entered.alone, ?_, ?_, ?_⟩
    · intro other
      by_cases same : other = thread
      · subst same
        simp [InLoop]
      · have unemployed : ¬InLoop (flipper.phase other) := by
          rw [← coordinated.worker other]
          simp [show flipper.workerTid = none from nobody]
        simp [Ne.symm same, set_phase_other same, unemployed]
    · exact entered_asleep coordinated entered (by simp)
    · intro other waited member sleeping
      rcases entered_awake coordinated entered (.select crtc) member sleeping with
        covered | notifying
      · exact .inl ⟨rfl, covered.2⟩
      · exact .inr notifying
    · intro other waited notifying
      exact entered_left coordinated moves (by simp [Notifying]) notifying rfl

theorem handle_coordinated (coordinated : Coordinated history flipper)
    (reached : run step created history = some flipper) {events : List Crtc}
    (selected : flipper.phase thread = .select crtc) {handled : PageFlipper Thread}
    (ran : drmHandleEvent flipper events = some handled) :
    Coordinated (history ++ [.handleEvents thread events])
      (giveUpLoopControl handled thread crtc) := by
  obtain ⟨owed, distinct, fewer, sameWorker, sameCv, samePhase⟩ :=
    drm_handle_event_some coordinated.owed coordinated.distinct ran
  have employed : flipper.workerTid = some thread := by
    rw [coordinated.worker, selected]
    trivial
  have elsewhere : ∀ other, other ≠ thread →
      (setPhase handled thread (.notifying crtc (pageFlipIsDone handled crtc))).phase other =
        flipper.phase other := by
    intro other different
    rw [set_phase_other different, samePhase]
  have outside : ∀ waited, flipper.phase thread ≠ .asleep waited := by
    intro waited sleeping
    rw [selected] at sleeping
    cases sleeping
  refine ⟨owed, distinct, ?_, ?_, ?_, ?_, ?_⟩
  · intro other
    by_cases same : other = thread
    · subst same
      cases done : pageFlipIsDone handled crtc <;>
        simp [giveUpLoopControl, done, InLoop, sameWorker, employed]
    · have unemployed : ¬InLoop (flipper.phase other) := by
        rw [← coordinated.worker other, employed]
        simp [Ne.symm same]
      cases done : pageFlipIsDone handled crtc <;>
        simp [giveUpLoopControl, done, sameWorker, employed, set_phase_other same, samePhase,
          unemployed, Ne.symm same]
  · exact sameCv ▸ coordinated.alone
  · intro other
    change other ∈ threads handled.pfCv ↔ ∃ waited, (setPhase handled thread
      (.notifying crtc (pageFlipIsDone handled crtc))).phase other = .asleep waited
    rw [sameCv, coordinated.asleep]
    by_cases same : other = thread
    · subst same
      simp [outside]
    · rw [elsewhere other same]
  · intro other waited _ _
    exact .inr ⟨thread, by simp [giveUpLoopControl, Notifying]⟩
  · intro other waited notifying
    by_cases same : other = thread
    · subst same
      simp only [giveUpLoopControl, set_phase_self, Phase.notifying.injEq] at notifying
      obtain ⟨rfl, done⟩ := notifying
      have absent : crtc ∉ handled.pendingPageFlips := by
        simpa [pageFlipIsDone] using done
      refine ⟨history, events, [], giveUpLoopControl handled other crtc, rfl,
        List.forall_mem_nil _, ?_, absent, fun pending => absurd pending absent⟩
      rw [run_snoc, reached]
      simp only [Option.bind_some, step, selected, ran, Option.map_some]
    · change (setPhase handled thread _).phase other = _ at notifying
      rw [elsewhere other same] at notifying
      exact left_loop_snoc (coordinated.left other waited notifying) (Ne.symm same)
        fun pending => .inl (fewer waited pending)

theorem notify_coordinated (coordinated : Coordinated history flipper) {done : Bool}
    (notifies : flipper.phase thread = .notifying crtc done) :
    Coordinated (history ++ [.notifyAll thread])
      { setPhase flipper thread (if done then .idle else .select crtc) with
        pfCv := notifyAll flipper.pfCv } := by
  have sets := threads_notify_all flipper.pfCv
  refine ⟨coordinated.owed, coordinated.distinct, ?_, ?_, ?_, ?_, ?_⟩
  · intro other
    change flipper.workerTid = some other ↔ _
    by_cases same : other = thread
    · subst same
      rw [coordinated.worker, notifies]
      cases done <;> simp [InLoop]
    · simp [set_phase_other same, coordinated.worker]
  · exact sets.nodup_iff.mpr coordinated.alone
  · intro other
    rw [sets.mem_iff, coordinated.asleep]
    by_cases same : other = thread
    · subst same
      cases done <;> simp [notifies]
    · simp [set_phase_other same]
  · intro other waited waits
    simp [notifyAll] at waits
  · intro other waited notifying
    have moves : (Event.notifyAll thread).thread = thread := rfl
    apply entered_left coordinated moves _ notifying rfl
    cases done <;> simp [Notifying]

theorem wake_coordinated (coordinated : Coordinated history flipper) {pfCv : WaitSet Thread}
    (woke : wakeSpuriously flipper.pfCv thread = some pfCv) :
    Coordinated (history ++ [.wakeSpuriously thread]) { flipper with pfCv := pfCv } := by
  have sets := threads_wake_spuriously woke
  refine ⟨coordinated.owed, coordinated.distinct, coordinated.worker, ?_, ?_, ?_, ?_⟩
  · exact sets.nodup_iff.mpr coordinated.alone
  · intro other
    exact sets.mem_iff.trans (coordinated.asleep other)
  · intro other waited waits sleeping
    exact coordinated.awake other waited (wake_spuriously_waiting woke waits) sleeping
  · intro other waited notifying
    apply left_loop_snoc (coordinated.left other waited notifying) _ .inl
    rintro rfl
    have waits : thread ∈ threads flipper.pfCv := by
      simp [threads, wake_spuriously_waited woke]
    obtain ⟨crtc, sleeping⟩ := (coordinated.asleep thread).mp waits
    cases sleeping.symm.trans notifying

theorem idle_entered (coordinated : Coordinated history flipper)
    (idle : flipper.phase thread = .idle) : Entered flipper thread flipper.pfCv where
  outside := by simp [Outside, idle, InLoop, Notifying]
  alone := coordinated.alone
  absent := by simp [coordinated.asleep, idle]
  others := fun _ _ => Iff.rfl
  waiting := rfl

theorem resumed_entered (coordinated : Coordinated history flipper)
    (sleeping : flipper.phase thread = .asleep crtc) {pfCv : WaitSet Thread}
    (resumed : resume flipper.pfCv thread = some pfCv) : Entered flipper thread pfCv := by
  obtain ⟨gone, alone⟩ := (nodup_resume resumed).mp coordinated.alone
  refine ⟨by simp [Outside, sleeping, InLoop, Notifying], alone, gone, ?_, ?_⟩
  · intro other different
    simp [mem_resume resumed, different]
  · exact (resume_counts resumed).1

theorem step_coordinated (coordinated : Coordinated history flipper)
    (reached : run step created history = some flipper)
    (stepped : step flipper event = some next) : Coordinated (history ++ [event]) next := by
  cases step_cases stepped with
  | scheduleFlip thread crtc accepted idle => exact schedule_coordinated coordinated idle accepted
  | waitForFlip thread crtc idle =>
      exact look_coordinated coordinated (idle_entered coordinated idle) rfl
  | wakeSpuriously thread pfCv woke => exact wake_coordinated coordinated woke
  | resume thread crtc pfCv sleeping resumed =>
      exact look_coordinated coordinated (resumed_entered coordinated sleeping resumed) rfl
  | handleEvents thread events crtc handled selected ran =>
      exact handle_coordinated coordinated reached selected ran
  | notifyAll thread crtc done notifies => exact notify_coordinated coordinated notifies

theorem run_coordinated (ran : run step created history = some flipper) :
    Coordinated history flipper :=
  run_reached_invariant Coordinated created_coordinated
    (fun _ _ _ _ reached coordinated stepped => step_coordinated coordinated reached stepped) ran

end Coordination

section Returning

variable {history : List (Event Thread)} {event : Event Thread}
  {flipper next : PageFlipper Thread} {thread : Thread} {crtc : Crtc}

def WaitsFor (phase : Phase) (crtc : Crtc) : Prop :=
  phase = .asleep crtc ∨ phase = .select crtc ∨ ∃ done, phase = .notifying crtc done

/-- With this step the thread comes back from `wait_for_flip`. -/
def Returns (flipper next : PageFlipper Thread) (event : Event Thread) (thread : Thread)
    (crtc : Crtc) : Prop :=
  next.phase thread = .idle ∧
    (event = .waitForFlip thread crtc ∨ WaitsFor (flipper.phase thread) crtc)

theorem look_for_flip_other {other : Thread} (different : other ≠ thread) :
    (lookForFlip flipper thread crtc).phase other = flipper.phase other := by
  rcases look_for_flip_cases flipper thread crtc with ⟨-, -, looked⟩ | ⟨-, looked⟩ |
    ⟨-, -, looked⟩ <;> simp [looked, set_phase_other different]

theorem look_for_flip_returns (returned : (lookForFlip flipper thread crtc).phase thread = .idle) :
    crtc ∉ (lookForFlip flipper thread crtc).pendingPageFlips := by
  rcases look_for_flip_cases flipper thread crtc with ⟨-, -, looked⟩ | ⟨done, looked⟩ |
    ⟨-, -, looked⟩
  · simp [looked] at returned
  · rw [looked]
    exact done
  · simp [looked] at returned

theorem step_other (coordinated : Coordinated history flipper)
    (stepped : step flipper event = some next) (different : thread ≠ event.thread) :
    next.phase thread = flipper.phase thread := by
  cases step_cases stepped with
  | scheduleFlip scheduler crtc accepted =>
      rcases schedule_flip_cases flipper crtc accepted with same | ⟨-, -, scheduled⟩
      · rw [same]
      · rw [scheduled]
  | waitForFlip waiter crtc => exact look_for_flip_other different
  | wakeSpuriously waiter pfCv => rfl
  | resume waiter crtc pfCv => exact look_for_flip_other different
  | handleEvents worker events crtc handled selected ran =>
      obtain ⟨-, -, -, -, -, same⟩ :=
        drm_handle_event_some coordinated.owed coordinated.distinct ran
      exact (set_phase_other different).trans (congrFun same thread)
  | notifyAll worker crtc done => exact set_phase_other different

theorem waits_for_not_idle {phase : Phase} (waits : WaitsFor phase crtc) : phase ≠ .idle := by
  rcases waits with rfl | rfl | ⟨done, rfl⟩ <;> simp

/-- A flip that is pending when its wait returns has been scheduled by another thread since
the last section of the wait. -/
theorem return_left_loop (coordinated : Coordinated history flipper)
    (stepped : step flipper event = some next) (returns : Returns flipper next event thread crtc)
    (pending : crtc ∈ next.pendingPageFlips) :
    event = .notifyAll thread ∧ LeftLoop history flipper thread crtc := by
  obtain ⟨idle, entered⟩ := returns
  by_cases same : thread = event.thread
  · subst same
    cases step_cases stepped with
    | scheduleFlip scheduler scheduled accepted outside =>
        rcases entered with impossible | waits
        · cases impossible
        · exact absurd outside (waits_for_not_idle waits)
    | waitForFlip waiter waited outside =>
        rcases entered with same | waits
        · cases same
          exact absurd pending (look_for_flip_returns idle)
        · exact absurd outside (waits_for_not_idle waits)
    | wakeSpuriously waiter pfCv woke =>
        rcases entered with impossible | waits
        · cases impossible
        · exact absurd idle (waits_for_not_idle waits)
    | resume waiter waited pfCv sleeping resumed =>
        have same : waited = crtc := by
          simpa [WaitsFor, Event.thread, sleeping] using entered
        subst same
        exact absurd pending (look_for_flip_returns idle)
    | handleEvents worker events waited handled selected ran =>
        simp [giveUpLoopControl, Event.thread] at idle
    | notifyAll worker waited done notifies =>
        have same : waited = crtc := by
          simpa [WaitsFor, Event.thread, notifies] using entered
        subst same
        cases done with
        | false => simp [Event.thread] at idle
        | true => exact ⟨rfl, coordinated.left worker waited notifies⟩
  · rw [step_other coordinated stepped same] at idle
    rcases entered with rfl | waits
    · exact absurd rfl same
    · exact absurd idle (waits_for_not_idle waits)

end Returning

section Protocol

/-- The protocol of the page flipper. A `wait_for_flip` returns with its flip done, except
that another thread may schedule the next flip between the last section of the wait and
the return. -/
theorem page_flips_coordinated (history : List (Event Thread)) (flipper : PageFlipper Thread)
    (ran : run step created history = some flipper) :
    (∀ crtc, crtc ∈ flipper.pendingPageFlips ↔ crtc ∈ flipper.kernel) ∧
    (∀ crtc accepted,
      ((scheduleFlip flipper crtc accepted).1 =
          .error ⟨"Page flip for crtc_id is already scheduled"⟩ ↔
        crtc ∈ flipper.pendingPageFlips) ∧
      (crtc ∉ flipper.pendingPageFlips → (scheduleFlip flipper crtc accepted).1 = .ok accepted) ∧
      (crtc ∈ flipper.pendingPageFlips ∨ accepted = false →
        (scheduleFlip flipper crtc accepted).2 = flipper)) ∧
    (∀ thread, flipper.workerTid = some thread ↔ InLoop (flipper.phase thread)) ∧
    (∀ event next thread crtc, step flipper event = some next →
      Returns flipper next event thread crtc → crtc ∈ next.pendingPageFlips →
      event = .notifyAll thread ∧ LeftLoop history flipper thread crtc) ∧
    ∀ thread crtc, thread ∈ flipper.pfCv.waiting → flipper.phase thread = .asleep crtc →
      flipper.workerTid.isSome ∧ crtc ∈ flipper.pendingPageFlips ∨
        ∃ other, other ≠ thread ∧ Notifying (flipper.phase other) := by
  have coordinated := run_coordinated ran
  refine ⟨?_, ?_, coordinated.worker, ?_, ?_⟩
  · intro crtc
    rw [coordinated.owed]
  · intro crtc accepted
    unfold scheduleFlip
    by_cases pending : crtc ∈ flipper.pendingPageFlips
    · simp [pending]
    · cases accepted <;> simp [pending]
  · intro event next thread crtc stepped returns pending
    exact return_left_loop coordinated stepped returns pending
  · intro thread crtc waits sleeping
    rcases coordinated.awake thread crtc waits sleeping with covered | ⟨other, notifies⟩
    · exact .inl covered
    · refine .inr ⟨other, ?_, notifies⟩
      rintro rfl
      rw [sleeping] at notifies
      exact notifies

/-- The worker has read the event of the thread that sleeps, and has not woken it yet. -/
def readForAnother : List (Event Bool) :=
  [.scheduleFlip false 1 true, .scheduleFlip true 2 true, .waitForFlip false 1,
    .waitForFlip true 2, .handleEvents false [2]]

theorem read_for_another_notified :
    ∃ flipper, run step created readForAnother = some flipper ∧
      true ∈ flipper.pfCv.waiting ∧ flipper.phase true = .asleep 2 ∧
      flipper.workerTid = some false ∧ 2 ∉ flipper.pendingPageFlips ∧
      ∃ other, other ≠ true ∧ Notifying (flipper.phase other) := by
  obtain ⟨flipper, ran, waits, sleeping, worker, done⟩ : ∃ flipper,
      run step created readForAnother = some flipper ∧ true ∈ flipper.pfCv.waiting ∧
        flipper.phase true = .asleep 2 ∧ flipper.workerTid = some false ∧
        2 ∉ flipper.pendingPageFlips := ⟨_, rfl, by decide, rfl, rfl, by decide⟩
  obtain ⟨-, -, -, -, awake⟩ := page_flips_coordinated readForAnother flipper ran
  rcases awake true 2 waits sleeping with ⟨-, pending⟩ | notifies
  · exact absurd pending done
  · exact ⟨flipper, ran, waits, sleeping, worker, done, notifies⟩

/-- The worker is done, and another thread schedules the next flip before the worker has
returned. -/
def scheduledBeforeReturn : List (Event Bool) :=
  [.scheduleFlip false 1 true, .waitForFlip false 1, .handleEvents false [1],
    .scheduleFlip true 1 true]

/-- A wait can return while its CRTC is pending, and a thread can still be in the loop when
the next one has entered it. -/
theorem returns_while_pending :
    (∃ flipper next, run step created scheduledBeforeReturn = some flipper ∧
      step flipper (.notifyAll false) = some next ∧
      Returns flipper next (.notifyAll false) false 1 ∧ 1 ∈ next.pendingPageFlips) ∧
    ∃ flipper, run step created (scheduledBeforeReturn ++ [.waitForFlip true 1]) = some flipper ∧
      flipper.phase false = .notifying 1 true ∧ flipper.phase true = .select 1 := by
  refine ⟨⟨_, _, rfl, rfl, ⟨rfl, .inr (.inr (.inr ⟨true, rfl⟩))⟩, by decide⟩, _, rfl, rfl, rfl⟩

end Protocol

end Mir.PageFlips
