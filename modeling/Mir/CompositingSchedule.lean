import Mathlib.Logic.Function.Basic
import Mir.ConditionVariable
import Mir.TransitionRuns

/-!
# Requests for compositing

`CompositingFunctor` with its thread. A step is what a thread does while it holds
`run_mutex`. The functor's own thread gives up the mutex before it calls `render`, so
these are two steps. Spurious wake-ups are steps of their own.
-/

namespace Mir.CompositingSchedule

open Mir.TransitionRuns Mir.ConditionVariable

set_option autoImplicit false

/-- Where the thread of a functor is: it has not taken the mutex yet, it is inside
`run_cv.wait`, it has given up the mutex to render, it renders, it has rendered, or it has
left `operator()`. -/
inductive Phase where
  | unstarted
  | asleep
  | unlocked
  | rendering
  | rendered
  | finished
  deriving DecidableEq, Repr

/-- Only the functor's own thread waits for `run_cv`. -/
structure CompositingFunctor where
  running : Bool
  compositingScheduled : Bool
  runCv : WaitSet Unit
  phase : Phase
  deriving DecidableEq

def constructed : CompositingFunctor where
  running := true
  compositingScheduled := false
  runCv := ConditionVariable.empty
  phase := .unstarted

/-- The body of the outer loop up to the call of `render`, or up to a wait. -/
def loopBody (functor : CompositingFunctor) : CompositingFunctor :=
  if !functor.compositingScheduled && functor.running then
    { functor with runCv := wait functor.runCv (), phase := .asleep }
  else
    { functor with
      compositingScheduled := false
      phase := if functor.running then .unlocked else .finished }

/-- What happens to one functor. The thread that `notify_one` wakes is part of the step. -/
inductive Action where
  | scheduleCompositing (notified : Option Unit)
  | stop (notified : Option Unit)
  | lock
  | wakeSpuriously
  | resume
  | beginRender
  | endRender
  deriving DecidableEq

def act (functor : CompositingFunctor) : Action → Option CompositingFunctor
  | .scheduleCompositing notified =>
      if functor.compositingScheduled then some functor
      else (notifyOne functor.runCv notified).map fun runCv =>
        { functor with compositingScheduled := true, runCv := runCv }
  | .stop notified => (notifyOne functor.runCv notified).map fun runCv =>
      { functor with running := false, runCv := runCv }
  | .lock =>
      if functor.phase = .unstarted ∨ functor.phase = .rendered then
        some (if functor.running then loopBody functor else { functor with phase := .finished })
      else none
  | .wakeSpuriously => (wakeSpuriously functor.runCv ()).map fun runCv =>
      { functor with runCv := runCv }
  | .resume => (ConditionVariable.resume functor.runCv ()).map fun runCv =>
      loopBody { functor with runCv := runCv }
  | .beginRender =>
      if functor.phase = .unlocked then some { functor with phase := .rendering } else none
  | .endRender =>
      if functor.phase = .rendering then some { functor with phase := .rendered } else none

inductive Acts (functor : CompositingFunctor) : Action → CompositingFunctor → Prop
  | alreadyScheduled (notified : Option Unit) (already : functor.compositingScheduled = true) :
      Acts functor (.scheduleCompositing notified) functor
  | schedules (notified : Option Unit) (runCv : WaitSet Unit)
      (woke : notifyOne functor.runCv notified = some runCv) :
      Acts functor (.scheduleCompositing notified)
        { functor with compositingScheduled := true, runCv := runCv }
  | stops (notified : Option Unit) (runCv : WaitSet Unit)
      (woke : notifyOne functor.runCv notified = some runCv) :
      Acts functor (.stop notified) { functor with running := false, runCv := runCv }
  | looks (entering : functor.phase = .unstarted ∨ functor.phase = .rendered)
      (runs : functor.running = true) : Acts functor .lock (loopBody functor)
  | ends (entering : functor.phase = .unstarted ∨ functor.phase = .rendered)
      (stopped : functor.running = false) : Acts functor .lock { functor with phase := .finished }
  | wakes (runCv : WaitSet Unit) (woke : wakeSpuriously functor.runCv () = some runCv) :
      Acts functor .wakeSpuriously { functor with runCv := runCv }
  | resumes (runCv : WaitSet Unit)
      (resumed : ConditionVariable.resume functor.runCv () = some runCv) :
      Acts functor .resume (loopBody { functor with runCv := runCv })
  | beginsRender (entering : functor.phase = .unlocked) :
      Acts functor .beginRender { functor with phase := .rendering }
  | endsRender (entering : functor.phase = .rendering) :
      Acts functor .endRender { functor with phase := .rendered }

theorem act_cases {functor next : CompositingFunctor} {action : Action}
    (acted : act functor action = some next) : Acts functor action next := by
  cases action with
  | scheduleCompositing notified =>
      simp only [act] at acted
      split_ifs at acted with already
      · cases acted
        exact .alreadyScheduled notified already
      · obtain ⟨runCv, woke, rfl⟩ := Option.map_eq_some_iff.mp acted
        exact .schedules notified runCv woke
  | stop notified =>
      obtain ⟨runCv, woke, rfl⟩ := Option.map_eq_some_iff.mp acted
      exact .stops notified runCv woke
  | lock =>
      simp only [act] at acted
      split_ifs at acted with entering runs
      · cases acted
        exact .looks entering runs
      · cases acted
        exact .ends entering (Bool.eq_false_iff.mpr runs)
  | wakeSpuriously =>
      obtain ⟨runCv, woke, rfl⟩ := Option.map_eq_some_iff.mp acted
      exact .wakes runCv woke
  | resume =>
      obtain ⟨runCv, resumed, rfl⟩ := Option.map_eq_some_iff.mp acted
      exact .resumes runCv resumed
  | beginRender =>
      simp only [act] at acted
      split_ifs at acted with entering
      cases acted
      exact .beginsRender entering
  | endRender =>
      simp only [act] at acted
      split_ifs at acted with entering
      cases acted
      exact .endsRender entering

section Functor

def isSchedule : Action → Bool
  | .scheduleCompositing _ => true
  | _ => false

def schedules (actions : List Action) : Nat := actions.countP isSchedule

def renders (actions : List Action) : Nat := actions.count .beginRender

/-- A call of `schedule_compositing` has come after the most recent render began. -/
def ScheduledSinceRender (actions : List Action) : Prop :=
  ∃ before notified after, actions = before ++ .scheduleCompositing notified :: after ∧
    .beginRender ∉ after

def Unlocked (functor : CompositingFunctor) : Prop := functor.phase = .unlocked

def Pending (functor : CompositingFunctor) : Prop :=
  functor.compositingScheduled = true ∨ Unlocked functor

def taken (functor : CompositingFunctor) : Nat := if functor.phase = .unlocked then 1 else 0

def asked (functor : CompositingFunctor) : Nat := functor.compositingScheduled.toNat

/-- Every render has been asked for, and the thread sleeps only while nothing is asked. -/
structure Accounted (actions : List Action) (functor : CompositingFunctor) : Prop where
  alone : (threads functor.runCv).Nodup
  sleeps : () ∈ threads functor.runCv ↔ functor.phase = .asleep
  unnotified : () ∈ functor.runCv.waiting →
    functor.running = true ∧ functor.compositingScheduled = false
  counted : renders actions + taken functor + asked functor ≤ schedules actions
  since : functor.running = true → ScheduledSinceRender actions → Pending functor

variable {actions : List Action} {functor next : CompositingFunctor}

theorem constructed_accounted : Accounted [] constructed where
  alone := List.nodup_nil
  sleeps := by simp [constructed, ConditionVariable.empty, threads]
  unnotified := by simp [constructed, ConditionVariable.empty]
  counted := Nat.le_refl _
  since := by simp [ScheduledSinceRender]

theorem schedules_snoc (actions : List Action) (action : Action) :
    schedules (actions ++ [action]) = schedules actions + if isSchedule action then 1 else 0 := by
  rw [schedules, List.countP_append, List.countP_singleton]
  rfl

theorem renders_snoc (actions : List Action) (action : Action) :
    renders (actions ++ [action]) = renders actions + if action = .beginRender then 1 else 0 := by
  simp [renders, List.count_append, List.count_singleton]

theorem scheduled_since_render_snoc (actions : List Action) (action : Action) :
    ScheduledSinceRender (actions ++ [action]) ↔
      isSchedule action = true ∨ ScheduledSinceRender actions ∧ action ≠ .beginRender := by
  constructor
  · rintro ⟨before, notified, after, split, quiet⟩
    rcases split_last split with ⟨-, -, rfl⟩ | ⟨rest, rfl, sooner⟩
    · exact .inl rfl
    · right
      simp only [List.mem_append, List.mem_singleton, not_or] at quiet
      exact ⟨⟨before, notified, rest, sooner, quiet.1⟩, Ne.symm quiet.2⟩
  · rintro (schedule | ⟨⟨before, notified, after, rfl, quiet⟩, different⟩)
    · cases action with
      | scheduleCompositing notified => exact ⟨actions, notified, [], rfl, by simp⟩
      | _ => cases schedule
    · exact ⟨before, notified, after ++ [action], by simp, by simp [quiet, Ne.symm different]⟩

theorem notify_one_wakes {set next : WaitSet Unit} {notified : Option Unit}
    (alone : (threads set).Nodup) (woke : notifyOne set notified = some next) :
    () ∉ next.waiting := by
  cases notified with
  | none =>
      simp only [notifyOne] at woke
      split_ifs at woke with nobody
      cases woke
      simp [nobody]
  | some thread =>
      simp only [notifyOne] at woke
      split_ifs at woke
      cases woke
      have waiting : set.waiting.Nodup := (List.nodup_append.mp (List.nodup_append.mp alone).1).1
      exact waiting.not_mem_erase

theorem loop_body_cases (functor : CompositingFunctor) :
    functor.compositingScheduled = false ∧ functor.running = true ∧
      loopBody functor = { functor with runCv := wait functor.runCv (), phase := .asleep } ∨
    functor.compositingScheduled = true ∧ functor.running = true ∧
      loopBody functor = { functor with compositingScheduled := false, phase := .unlocked } ∨
    functor.running = false ∧
      loopBody functor = { functor with compositingScheduled := false, phase := .finished } := by
  unfold loopBody
  cases functor.compositingScheduled <;> cases functor.running <;> simp

theorem loop_body_accounted (alone : (threads functor.runCv).Nodup)
    (awake : () ∉ threads functor.runCv)
    (counted : renders actions + asked functor ≤ schedules actions)
    (since : functor.running = true → ScheduledSinceRender actions →
      functor.compositingScheduled = true) : Accounted actions (loopBody functor) := by
  have fewer : renders actions ≤ schedules actions := Nat.le_of_add_right_le counted
  rcases loop_body_cases functor with ⟨off, runs, body⟩ | ⟨on, runs, body⟩ | ⟨stopped, body⟩
  · rw [body]
    constructor
    · exact nodup_wait.mpr ⟨awake, alone⟩
    · simp [mem_wait]
    · exact fun _ => ⟨runs, off⟩
    · simpa [taken, asked, off] using fewer
    · intro _ request
      simp [since runs request] at off
  · rw [body]
    constructor
    · exact alone
    · simp [awake]
    · intro waits
      exact absurd (by simp [threads, waits]) awake
    · simpa [taken, asked, on] using counted
    · exact fun _ _ => .inr rfl
  · rw [body]
    constructor
    · exact alone
    · simp [awake]
    · intro waits
      exact absurd (by simp [threads, waits]) awake
    · simpa [taken, asked] using fewer
    · intro runs
      simp [stopped] at runs

theorem quiet_snoc (actions : List Action) (action : Action) (quiet : isSchedule action = false)
    (still : action ≠ .beginRender) :
    schedules (actions ++ [action]) = schedules actions ∧
      renders (actions ++ [action]) = renders actions ∧
      (ScheduledSinceRender (actions ++ [action]) ↔ ScheduledSinceRender actions) := by
  rw [schedules_snoc, renders_snoc, scheduled_since_render_snoc]
  simp [quiet, still]

theorem pending_scheduled (pending : Pending functor) (kept : functor.phase ≠ .unlocked) :
    functor.compositingScheduled = true := by
  rcases pending with asked | unlocked
  · exact asked
  · exact absurd unlocked kept

theorem notify_one_moves {runCv : WaitSet Unit} {notified : Option Unit}
    (accounted : Accounted actions functor) (woke : notifyOne functor.runCv notified = some runCv) :
    (threads runCv).Nodup ∧ (() ∈ threads runCv ↔ functor.phase = .asleep) ∧
      () ∉ runCv.waiting := by
  have same := threads_notify_one woke
  exact ⟨same.nodup_iff.mpr accounted.alone, same.mem_iff.trans accounted.sleeps,
    notify_one_wakes accounted.alone woke⟩

theorem more_scheduled (accounted : Accounted actions functor) (notified : Option Unit) :
    renders (actions ++ [.scheduleCompositing notified]) + taken functor + 1 ≤
      schedules (actions ++ [.scheduleCompositing notified]) := by
  have counted := accounted.counted
  rw [schedules_snoc, renders_snoc]
  simp only [isSchedule, if_true, reduceCtorEq, if_false]
  omega

/-- The thread can take the mutex only when it is not inside the condition variable. -/
theorem entering_awake (accounted : Accounted actions functor)
    (entering : functor.phase = .unstarted ∨ functor.phase = .rendered) :
    () ∉ threads functor.runCv ∧ functor.phase ≠ .unlocked := by
  rw [accounted.sleeps]
  rcases entering with same | same <;> simp [same]

theorem stop_accounted {notified : Option Unit} {runCv : WaitSet Unit}
    (accounted : Accounted actions functor)
    (woke : notifyOne functor.runCv notified = some runCv) :
    Accounted (actions ++ [.stop notified]) { functor with running := false, runCv := runCv } := by
  obtain ⟨asks, begun, -⟩ := quiet_snoc actions (.stop notified) rfl (by simp)
  obtain ⟨alone, sleeps, awake⟩ := notify_one_moves accounted woke
  refine ⟨alone, sleeps, fun waits => absurd waits awake, ?_, ?_⟩
  · rw [asks, begun]
    exact accounted.counted
  · intro runs
    cases runs

theorem wake_accounted {runCv : WaitSet Unit} (accounted : Accounted actions functor)
    (woke : wakeSpuriously functor.runCv () = some runCv) :
    Accounted (actions ++ [.wakeSpuriously]) { functor with runCv := runCv } := by
  obtain ⟨asks, begun, sooner⟩ := quiet_snoc actions .wakeSpuriously rfl (by simp)
  have same := threads_wake_spuriously woke
  refine ⟨same.nodup_iff.mpr accounted.alone, same.mem_iff.trans accounted.sleeps, ?_, ?_, ?_⟩
  · intro _
    exact accounted.unnotified (wake_spuriously_waited woke)
  · rw [asks, begun]
    exact accounted.counted
  · intro runs request
    exact accounted.since runs (sooner.mp request)

theorem resume_accounted {runCv : WaitSet Unit} (accounted : Accounted actions functor)
    (resumed : ConditionVariable.resume functor.runCv () = some runCv) :
    Accounted (actions ++ [.resume]) (loopBody { functor with runCv := runCv }) := by
  obtain ⟨alone, sleeps, unnotified, counted, since⟩ := accounted
  obtain ⟨asks, begun, sooner⟩ := quiet_snoc actions .resume rfl (by simp)
  have kept : functor.phase ≠ .unlocked := by
    have asleep := sleeps.mp ((mem_resume resumed).mpr (.inl rfl))
    simp [asleep]
  obtain ⟨gone, rest⟩ := (nodup_resume resumed).mp alone
  apply loop_body_accounted rest gone
  · rw [asks, begun]
    change renders actions + asked functor ≤ schedules actions
    omega
  · intro runs request
    exact pending_scheduled (since runs (sooner.mp request)) kept

theorem act_accounted {action : Action} (accounted : Accounted actions functor)
    (acted : act functor action = some next) : Accounted (actions ++ [action]) next := by
  cases act_cases acted with
  | alreadyScheduled notified already =>
      have more := more_scheduled accounted notified
      refine ⟨accounted.alone, accounted.sleeps, accounted.unnotified, ?_, fun _ _ => .inl already⟩
      simpa [asked, already] using more
  | schedules notified runCv woke =>
      obtain ⟨alone, sleeps, awake⟩ := notify_one_moves accounted woke
      have more := more_scheduled accounted notified
      exact ⟨alone, sleeps, fun waits => absurd waits awake, more, fun _ _ => .inl rfl⟩
  | stops notified runCv woke => exact stop_accounted accounted woke
  | looks entering runs =>
      obtain ⟨awake, kept⟩ := entering_awake accounted entering
      obtain ⟨asks, begun, sooner⟩ := quiet_snoc actions .lock rfl (by simp)
      apply loop_body_accounted accounted.alone awake
      · have counted := accounted.counted
        rw [asks, begun]
        omega
      · intro _ request
        exact pending_scheduled (accounted.since runs (sooner.mp request)) kept
  | ends entering stopped =>
      obtain ⟨awake, -⟩ := entering_awake accounted entering
      obtain ⟨asks, begun, -⟩ := quiet_snoc actions .lock rfl (by simp)
      refine ⟨accounted.alone, by simp [awake], accounted.unnotified, ?_, ?_⟩
      · have counted := accounted.counted
        have untaken : taken { functor with phase := .finished } = 0 := rfl
        have same : asked { functor with phase := .finished } = asked functor := rfl
        rw [asks, begun]
        omega
      · intro runs
        simp [stopped] at runs
  | wakes runCv woke => exact wake_accounted accounted woke
  | resumes runCv resumed => exact resume_accounted accounted resumed
  | beginsRender entering =>
      obtain ⟨alone, sleeps, unnotified, counted, since⟩ := accounted
      refine ⟨alone, by simp [sleeps, entering], unnotified, ?_, ?_⟩
      · rw [schedules_snoc, renders_snoc]
        have untaken : taken { functor with phase := .rendering } = 0 := rfl
        have same : asked { functor with phase := .rendering } = asked functor := rfl
        simp only [taken, entering, if_true] at counted
        simp only [isSchedule, if_true, Bool.false_eq_true, if_false]
        omega
      · intro _ request
        rw [scheduled_since_render_snoc] at request
        simp [isSchedule] at request
  | endsRender entering =>
      obtain ⟨alone, sleeps, unnotified, counted, since⟩ := accounted
      obtain ⟨asks, begun, sooner⟩ := quiet_snoc actions .endRender rfl (by simp)
      have kept : functor.phase ≠ .unlocked := by simp [entering]
      refine ⟨alone, by simp [sleeps, entering], unnotified, ?_, ?_⟩
      · rw [asks, begun]
        have untaken : taken { functor with phase := .rendered } = 0 := rfl
        have same : asked { functor with phase := .rendered } = asked functor := rfl
        omega
      · intro runs request
        have asked := pending_scheduled (since runs (sooner.mp request)) kept
        exact .inl asked

theorem run_accounted (ran : run act constructed actions = some functor) :
    Accounted actions functor := by
  apply run_history_invariant Accounted constructed_accounted _ ran
  intro history state action after accounted acted
  exact act_accounted accounted acted

/-- Once stopped, only the render that the thread had already let the mutex go for begins. -/
theorem act_stopped {action : Action} (stopped : functor.running = false)
    (acted : act functor action = some next) :
    next.running = false ∧
      (if action = .beginRender then 1 else 0) + taken next ≤ taken functor := by
  cases act_cases acted with
  | alreadyScheduled => exact ⟨stopped, by simp⟩
  | schedules => exact ⟨stopped, by simp [taken]⟩
  | stops => exact ⟨rfl, by simp [taken]⟩
  | looks entering runs =>
      rw [stopped] at runs
      cases runs
  | ends => exact ⟨stopped, by simp [taken]⟩
  | wakes => exact ⟨stopped, by simp [taken]⟩
  | resumes => exact ⟨by simp [loopBody, stopped], by simp [loopBody, stopped, taken]⟩
  | beginsRender entering => exact ⟨stopped, by simp [taken, entering]⟩
  | endsRender => exact ⟨stopped, by simp [taken]⟩

theorem run_stopped (stopped : functor.running = false)
    (ran : run act functor actions = some next) :
    renders actions ≤ taken functor := by
  have kept : next.running = false ∧ renders actions + taken next ≤ taken functor := by
    apply run_history_invariant
      (fun history state => state.running = false ∧
        renders history + taken state ≤ taken functor) _ _ ran
    · exact ⟨stopped, by simp [renders]⟩
    · rintro history state action after ⟨off, bound⟩ acted
      obtain ⟨still, fewer⟩ := act_stopped off acted
      refine ⟨still, ?_⟩
      rw [renders_snoc]
      omega
  omega

theorem loop_body_pending (asked : functor.compositingScheduled = true)
    (runs : (loopBody functor).running = true) : Pending (loopBody functor) := by
  rcases loop_body_cases functor with ⟨off, -, -⟩ | ⟨-, -, body⟩ | ⟨stopped, body⟩
  · simp [off] at asked
  · rw [body]
    exact .inr rfl
  · rw [body] at runs
    simp [stopped] at runs

/-- As long as the functor runs, a render that is due stays due until it begins. -/
theorem act_pending {action : Action} (accounted : Accounted actions functor)
    (pending : Pending functor) (acted : act functor action = some next)
    (runs : next.running = true) : Pending next ∨ action = .beginRender := by
  cases act_cases acted with
  | alreadyScheduled => exact .inl pending
  | schedules => exact .inl (.inl rfl)
  | stops => cases runs
  | looks entering =>
      obtain ⟨-, kept⟩ := entering_awake accounted entering
      exact .inl (loop_body_pending (pending_scheduled pending kept) runs)
  | ends entering stopped =>
      change functor.running = true at runs
      rw [stopped] at runs
      cases runs
  | wakes => exact .inl pending
  | resumes runCv resumed =>
      have waited := (mem_resume resumed).mpr (.inl rfl)
      have kept : functor.phase ≠ .unlocked := by simp [accounted.sleeps.mp waited]
      have asked := pending_scheduled pending kept
      exact .inl (loop_body_pending asked runs)
  | beginsRender => exact .inr rfl
  | endsRender entering =>
      have asked := pending_scheduled pending (by simp [entering])
      exact .inl (.inl asked)

theorem schedule_pending {notified : Option Unit}
    (acted : act functor (.scheduleCompositing notified) = some next) : Pending next := by
  cases act_cases acted with
  | alreadyScheduled notified already => exact .inl already
  | schedules => exact .inl rfl

theorem act_running {action : Action} (acted : act functor action = some next)
    (goes : ∀ notified, action ≠ .stop notified) : next.running = functor.running := by
  cases act_cases acted with
  | stops notified => exact absurd rfl (goes notified)
  | looks =>
      unfold loopBody
      split_ifs <;> rfl
  | resumes =>
      unfold loopBody
      split_ifs <;> rfl
  | _ => rfl

theorem accounted_awake (accounted : Accounted actions functor) (pending : Pending functor) :
    () ∉ functor.runCv.waiting := by
  intro waits
  rcases pending with asked | unlocked
  · simp [(accounted.unnotified waits).2] at asked
  · have asleep := accounted.sleeps.mp (by simp [threads, waits])
    rw [Unlocked, asleep] at unlocked
    cases unlocked

end Functor

end Mir.CompositingSchedule
