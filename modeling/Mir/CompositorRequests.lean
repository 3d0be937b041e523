import Mir.CompositingSchedule

/-!
# Change notifications and the compositor

`MultiThreadedCompositor::start` and `stop` around the change callback of the surface
stack. `emit_change_notification` and `set_change_callback` hold `notify_change_mutex`, so
there is one of them at a time. The functors exist from the beginning here: nobody can
reach them before the callback is set. `stop` ends with its last call of a functor's
`stop`; what follows only waits for the threads.
-/

namespace Mir.CompositorRequests

open Mir.TransitionRuns Mir.ConditionVariable Mir.CompositingSchedule

set_option autoImplicit false

/-- Who calls `schedule_compositing`: `start`, the change callback, or any other thread. -/
inductive Caller where
  | start
  | changeCallback
  | other
  deriving DecidableEq, Repr

/-- Where the compositor is, with the functors that its current loop has not reached. When
`scheduling` has come to its end, `start` has returned. -/
inductive Progress (Functor : Type) where
  | starting
  | scheduling (remaining : List Functor)
  | stopping (remaining : List Functor)
  deriving DecidableEq

/-- `emitting` are the functors that the notification in progress has not reached. -/
structure Control (Functor : Type) where
  progress : Progress Functor
  changeCallback : Bool
  emitting : Option (List Functor)

structure Compositor (Functor : Type) where
  control : Control Functor
  threadFunctors : Functor → CompositingFunctor

inductive Event (Functor : Type) where
  | setChangeCallback
  | scheduleCompositing (caller : Caller) (functor : Functor) (notified : Option Unit)
  | emitChangeNotification
  | endChangeNotification
  | resetChangeCallback
  | stop (functor : Functor) (notified : Option Unit)
  | lock (functor : Functor)
  | wakeSpuriously (functor : Functor)
  | resume (functor : Functor)
  | beginRender (functor : Functor)
  | endRender (functor : Functor)
  deriving DecidableEq

variable {Functor : Type}

def created : Compositor Functor where
  control := ⟨.starting, false, none⟩
  threadFunctors := fun _ => constructed

def Event.action : Event Functor → Option (Functor × Action)
  | .scheduleCompositing _ functor notified => some (functor, .scheduleCompositing notified)
  | .stop functor notified => some (functor, .stop notified)
  | .lock functor => some (functor, .lock)
  | .wakeSpuriously functor => some (functor, .wakeSpuriously)
  | .resume functor => some (functor, .resume)
  | .beginRender functor => some (functor, .beginRender)
  | .endRender functor => some (functor, .endRender)
  | _ => none

section Model

variable [DecidableEq Functor]

def advance (functor : Functor) : List Functor → Option (List Functor)
  | [] => none
  | next :: rest => if next = functor then some rest else none

def controlStep (functors : List Functor) (control : Control Functor) :
    Event Functor → Option (Control Functor)
  | .setChangeCallback => match control.progress, control.emitting with
      | .starting, none => some ⟨.scheduling functors, true, none⟩
      | _, _ => none
  | .scheduleCompositing .start functor _ => match control.progress with
      | .scheduling remaining => (advance functor remaining).map fun rest =>
          { control with progress := .scheduling rest }
      | _ => none
  | .scheduleCompositing .changeCallback functor _ => match control.emitting with
      | some remaining => (advance functor remaining).map fun rest =>
          { control with emitting := some rest }
      | none => none
  | .emitChangeNotification => match control.emitting with
      | none => some { control with
          emitting := some (if control.changeCallback then functors else []) }
      | some _ => none
  | .endChangeNotification => match control.emitting with
      | some [] => some { control with emitting := none }
      | _ => none
  | .resetChangeCallback => match control.progress, control.emitting with
      | .scheduling [], none => some ⟨.stopping functors, false, none⟩
      | _, _ => none
  | .stop functor _ => match control.progress with
      | .stopping remaining => (advance functor remaining).map fun rest =>
          { control with progress := .stopping rest }
      | _ => none
  | _ => some control

def step (functors : List Functor) (compositor : Compositor Functor) (event : Event Functor) :
    Option (Compositor Functor) :=
  (controlStep functors compositor.control event).bind fun control =>
    match event.action with
    | none => some { compositor with control := control }
    | some (functor, action) =>
        (act (compositor.threadFunctors functor) action).map fun next =>
          { control := control
            threadFunctors := Function.update compositor.threadFunctors functor next }

def actionsOf (functor : Functor) (events : List (Event Functor)) : List Action :=
  events.filterMap fun event => match event.action with
    | some (changed, action) => if changed = functor then some action else none
    | none => none

end Model

section Steps

variable [DecidableEq Functor] {functors : List Functor} {compositor next : Compositor Functor}
  {event : Event Functor}

theorem step_some (stepped : step functors compositor event = some next) :
    controlStep functors compositor.control event = some next.control ∧
      ∀ functor, (∃ action, event.action = some (functor, action) ∧
          act (compositor.threadFunctors functor) action = some (next.threadFunctors functor)) ∨
        (∀ action, event.action ≠ some (functor, action)) ∧
          next.threadFunctors functor = compositor.threadFunctors functor := by
  obtain ⟨control, controlled, changed⟩ := Option.bind_eq_some_iff.mp stepped
  cases about : event.action with
  | none =>
      simp only [about] at changed
      cases changed
      exact ⟨controlled, fun functor => .inr ⟨by simp, rfl⟩⟩
  | some pair =>
      obtain ⟨moved, action⟩ := pair
      simp only [about] at changed
      obtain ⟨after, acted, rfl⟩ := Option.map_eq_some_iff.mp changed
      refine ⟨controlled, fun functor => ?_⟩
      by_cases same : functor = moved
      · subst same
        left
        exact ⟨action, rfl, by simpa using acted⟩
      · right
        exact ⟨by simp [Ne.symm same], by simp [Function.update_of_ne same]⟩

theorem actions_of_snoc (functor : Functor) (events : List (Event Functor))
    (event : Event Functor) :
    actionsOf functor (events ++ [event]) = actionsOf functor events ++
      match event.action with
      | some (changed, action) => if changed = functor then [action] else []
      | none => [] := by
  rw [actionsOf, List.filterMap_append]
  congr 1
  cases about : event.action with
  | none => simp [about]
  | some pair =>
      by_cases same : pair.1 = functor <;> simp [about, same]

theorem run_functor {events : List (Event Functor)}
    (ran : run (step functors) created events = some compositor) (functor : Functor) :
    run act constructed (actionsOf functor events) = some (compositor.threadFunctors functor) := by
  apply run_history_invariant
    (fun history state => run act constructed (actionsOf functor history) =
      some (state.threadFunctors functor)) rfl _ ran
  intro history state event after reached stepped
  rw [actions_of_snoc]
  rcases (step_some stepped).2 functor with ⟨action, about, acted⟩ | ⟨other, same⟩
  · simp only [about, if_true]
    rw [run_snoc, reached]
    exact acted
  · cases about : event.action with
    | none => simp [reached, same]
    | some pair =>
        have different : pair.1 ≠ functor := by
          intro equal
          exact other pair.2 (by rw [about, ← equal])
        simp [different, reached, same]

end Steps

section Control

variable {functors remaining : List Functor} {control next : Control Functor}
  {event : Event Functor}

theorem advance_some [DecidableEq Functor] {functor : Functor} {rest : List Functor}
    (advanced : advance functor remaining = some rest) : remaining = functor :: rest := by
  unfold advance at advanced
  split at advanced
  · cases advanced
  · split_ifs at advanced with same
    cases advanced
    rw [same]

inductive Moves (functors : List Functor) (control : Control Functor) :
    Event Functor → Control Functor → Prop where
  | setChangeCallback (starting : control.progress = .starting) :
      Moves functors control .setChangeCallback ⟨.scheduling functors, true, none⟩
  | schedule (functor : Functor) (notified : Option Unit) (rest : List Functor)
      (scheduling : control.progress = .scheduling (functor :: rest)) :
      Moves functors control (.scheduleCompositing .start functor notified)
        { control with progress := .scheduling rest }
  | notify (functor : Functor) (notified : Option Unit) (rest : List Functor)
      (emitting : control.emitting = some (functor :: rest)) :
      Moves functors control (.scheduleCompositing .changeCallback functor notified)
        { control with emitting := some rest }
  | emit : Moves functors control .emitChangeNotification
      { control with emitting := some (if control.changeCallback then functors else []) }
  | finish (emitting : control.emitting = some []) :
      Moves functors control .endChangeNotification { control with emitting := none }
  | reset (started : control.progress = .scheduling []) :
      Moves functors control .resetChangeCallback ⟨.stopping functors, false, none⟩
  | stop (functor : Functor) (notified : Option Unit) (queue rest : List Functor)
      (stopping : control.progress = .stopping queue) :
      Moves functors control (.stop functor notified) { control with progress := .stopping rest }
  | stay (event : Event Functor) (quiet : event ≠ .setChangeCallback)
      (goes : ∀ functor notified, event ≠ .stop functor notified)
      (silent : event ≠ .emitChangeNotification ∧ event ≠ .endChangeNotification) :
      Moves functors control event control

theorem control_moves [DecidableEq Functor]
    (stepped : controlStep functors control event = some next) :
    Moves functors control event next := by
  cases event with
  | setChangeCallback =>
      simp only [controlStep] at stepped
      split at stepped
      · next starting _ =>
          cases stepped
          exact .setChangeCallback starting
      · cases stepped
  | scheduleCompositing caller functor notified =>
      cases caller with
      | start =>
          simp only [controlStep] at stepped
          split at stepped
          · next queue progress =>
              obtain ⟨rest, advanced, rfl⟩ := Option.map_eq_some_iff.mp stepped
              exact .schedule functor notified rest (advance_some advanced ▸ progress)
          · cases stepped
      | changeCallback =>
          simp only [controlStep] at stepped
          split at stepped
          · next queue emitting =>
              obtain ⟨rest, advanced, rfl⟩ := Option.map_eq_some_iff.mp stepped
              exact .notify functor notified rest (advance_some advanced ▸ emitting)
          · cases stepped
      | other =>
          cases stepped
          exact .stay _ (by simp) (by simp) (by simp)
  | emitChangeNotification =>
      simp only [controlStep] at stepped
      split at stepped
      · cases stepped
        exact .emit
      · cases stepped
  | endChangeNotification =>
      simp only [controlStep] at stepped
      split at stepped
      · next emitting =>
          cases stepped
          exact .finish emitting
      · cases stepped
  | resetChangeCallback =>
      simp only [controlStep] at stepped
      split at stepped
      · next started _ =>
          cases stepped
          exact .reset started
      · cases stepped
  | stop functor notified =>
      simp only [controlStep] at stepped
      split at stepped
      · next queue stopping =>
          obtain ⟨rest, -, rfl⟩ := Option.map_eq_some_iff.mp stepped
          exact .stop functor notified queue rest stopping
      · cases stepped
  | _ =>
      cases stepped
      exact .stay _ (by simp) (by simp) (by simp)

theorem moves_stopping (moves : Moves functors control event next)
    (stopping : (∃ queue, control.progress = .stopping queue) ∨
      ∃ functor notified, event = .stop functor notified) :
    ∃ rest, next.progress = .stopping rest := by
  cases moves with
  | setChangeCallback starting => simp [starting] at stopping
  | schedule functor notified rest scheduling => simp [scheduling] at stopping
  | notify functor notified rest emitting => simpa using stopping
  | emit => simpa using stopping
  | finish emitting => simpa using stopping
  | reset started => exact ⟨functors, rfl⟩
  | stop functor notified queue rest stopping => exact ⟨rest, rfl⟩
  | stay event quiet goes silent => simpa [goes] using stopping

theorem moves_scheduling (moves : Moves functors control event next)
    (scheduling : next.progress = .scheduling remaining) :
    event = .setChangeCallback ∧ control.progress = .starting ∧ remaining = functors ∨
      control.progress = .scheduling remaining ∨
      ∃ functor notified, event = .scheduleCompositing .start functor notified ∧
        control.progress = .scheduling (functor :: remaining) := by
  cases moves with
  | setChangeCallback starting =>
      cases scheduling
      exact .inl ⟨rfl, starting, rfl⟩
  | schedule functor notified rest before =>
      cases scheduling
      exact .inr (.inr ⟨functor, notified, rfl, before⟩)
  | notify functor notified rest emitting => exact .inr (.inl scheduling)
  | emit => exact .inr (.inl scheduling)
  | finish emitting => exact .inr (.inl scheduling)
  | reset started => cases scheduling
  | stop functor notified queue rest stopping => cases scheduling
  | stay event quiet goes silent => exact .inr (.inl scheduling)

theorem moves_set (moves : Moves functors control .setChangeCallback next) :
    next.progress = .scheduling functors := by
  cases moves with
  | setChangeCallback starting => rfl
  | stay _ quiet goes silent => exact absurd rfl quiet

theorem moves_emit (moves : Moves functors control .emitChangeNotification next) :
    next = { control with emitting := some (if control.changeCallback then functors else []) } := by
  cases moves with
  | emit => rfl
  | stay _ quiet goes silent => exact absurd rfl silent.1

theorem moves_finish (moves : Moves functors control .endChangeNotification next) :
    control.emitting = some [] := by
  cases moves with
  | finish emitting => exact emitting
  | stay _ quiet goes silent => exact absurd rfl silent.2

theorem moves_emitting (moves : Moves functors control event next)
    (emitting : next.emitting = some remaining) :
    control.emitting = some remaining ∨
      (∃ functor notified, event = .scheduleCompositing .changeCallback functor notified ∧
        control.emitting = some (functor :: remaining)) ∨
      event = .emitChangeNotification ∧
        remaining = if control.changeCallback then functors else [] := by
  cases moves with
  | setChangeCallback starting => cases emitting
  | schedule functor notified rest scheduling => exact .inl emitting
  | notify functor notified rest before =>
      cases emitting
      exact .inr (.inl ⟨functor, notified, rfl, before⟩)
  | emit =>
      cases emitting
      exact .inr (.inr ⟨rfl, rfl⟩)
  | finish before => cases emitting
  | reset started => cases emitting
  | stop functor notified queue rest stopping => exact .inl emitting
  | stay event quiet goes silent => exact .inl emitting

theorem moves_callback (moves : Moves functors control event next)
    (callback : ∀ queue, control.progress = .scheduling queue → control.changeCallback = true)
    (scheduling : next.progress = .scheduling remaining) : next.changeCallback = true := by
  cases moves with
  | setChangeCallback starting => rfl
  | schedule functor notified rest before => exact callback _ before
  | notify functor notified rest emitting => exact callback remaining scheduling
  | emit => exact callback remaining scheduling
  | finish emitting => exact callback remaining scheduling
  | reset started => cases scheduling
  | stop functor notified queue rest stopping => cases scheduling
  | stay event quiet goes silent => exact callback remaining scheduling

theorem moves_installed (moves : Moves functors control event next) :
    next.progress ≠ .starting ↔ control.progress ≠ .starting ∨ event = .setChangeCallback := by
  cases moves with
  | setChangeCallback starting => simp
  | schedule functor notified rest scheduling => simp [scheduling]
  | notify functor notified rest emitting => simp
  | emit => simp
  | finish emitting => simp
  | reset started => simp [started]
  | stop functor notified queue rest stopping => simp [stopping]
  | stay event quiet goes silent => simp [quiet]

end Control

section Following

variable [DecidableEq Functor] {functors : List Functor} {compositor next : Compositor Functor}
  {event : Event Functor} {events : List (Event Functor)}

/-- A render that has begun, or will begin, after the events before `after`. -/
def RenderFollows (functor : Functor) (after : List (Event Functor))
    (compositor : Compositor Functor) : Prop :=
  Pending (compositor.threadFunctors functor) ∨ .beginRender functor ∈ after

/-- While the compositor runs, everything the callback and `start` have announced is
followed by a render. -/
structure Following (functors : List Functor) (events : List (Event Functor))
    (compositor : Compositor Functor) : Prop where
  running : (∀ remaining, compositor.control.progress ≠ .stopping remaining) →
    ∀ functor, (compositor.threadFunctors functor).running = true
  installed : .setChangeCallback ∈ events ↔ compositor.control.progress ≠ .starting
  callback : ∀ remaining, compositor.control.progress = .scheduling remaining →
    compositor.control.changeCallback = true
  first : ∀ before after, events = before ++ .setChangeCallback :: after →
    ∀ remaining, compositor.control.progress = .scheduling remaining →
    ∀ functor ∈ functors, functor ∉ remaining → RenderFollows functor after compositor
  notified : ∀ before after, events = before ++ .emitChangeNotification :: after →
    .setChangeCallback ∈ before →
    ∀ remaining, compositor.control.progress = .scheduling remaining →
    ∀ functor ∈ functors,
      .endChangeNotification ∈ after ∨
        (∃ left, compositor.control.emitting = some left ∧ functor ∉ left) →
      RenderFollows functor after compositor

omit [DecidableEq Functor] in
theorem created_following : Following functors [] (created : Compositor Functor) where
  running := fun _ _ => rfl
  installed := by simp [created]
  callback := by simp [created]
  first := by simp
  notified := by simp

theorem step_render_follows {functor : Functor} {after : List (Event Functor)}
    (accounted : ∃ actions, Accounted actions (compositor.threadFunctors functor))
    (follows : RenderFollows functor after compositor)
    (stepped : step functors compositor event = some next)
    (runs : (next.threadFunctors functor).running = true) :
    RenderFollows functor (after ++ [event]) next := by
  rcases follows with pending | begun
  · obtain ⟨actions, holds⟩ := accounted
    rcases (step_some stepped).2 functor with ⟨action, about, acted⟩ | ⟨-, same⟩
    · rcases act_pending holds pending acted runs with still | rfl
      · exact .inl still
      · right
        have begins : event = .beginRender functor := by
          cases event <;> simp_all [Event.action]
        simp [begins]
    · left
      rw [same]
      exact pending
  · exact .inr (List.mem_append_left _ begun)

/-- A call of `schedule_compositing` makes a render due, whoever makes it. -/
theorem step_schedule_follows {functor : Functor} {caller : Caller} {notified : Option Unit}
    (stepped : step functors compositor (.scheduleCompositing caller functor notified) =
      some next) (after : List (Event Functor)) : RenderFollows functor after next := by
  rcases (step_some stepped).2 functor with ⟨action, about, acted⟩ | ⟨other, -⟩
  · simp only [Event.action, Option.some.injEq, Prod.mk.injEq, true_and] at about
    subst about
    exact .inl (schedule_pending acted)
  · exact absurd rfl (other (.scheduleCompositing notified))

theorem step_running (following : Following functors events compositor)
    (stepped : step functors compositor event = some next)
    (runs : ∀ remaining, next.control.progress ≠ .stopping remaining) (functor : Functor) :
    (next.threadFunctors functor).running = true := by
  have moves := control_moves (step_some stepped).1
  have before : ∀ remaining, compositor.control.progress ≠ .stopping remaining := by
    intro remaining stopping
    obtain ⟨rest, stopped⟩ := moves_stopping moves (.inl ⟨remaining, stopping⟩)
    exact runs rest stopped
  have goes : ∀ stopped notified, event ≠ .stop stopped notified := by
    intro stopped notified stops
    obtain ⟨rest, stopping⟩ := moves_stopping moves (.inr ⟨stopped, notified, stops⟩)
    exact runs rest stopping
  rcases (step_some stepped).2 functor with ⟨action, about, acted⟩ | ⟨-, same⟩
  · rw [act_running acted, following.running before functor]
    rintro notified rfl
    cases event <;> simp_all [Event.action]
  · rw [same, following.running before functor]

theorem step_first (following : Following functors events compositor)
    (accounted : ∀ functor, ∃ actions, Accounted actions (compositor.threadFunctors functor))
    (stepped : step functors compositor event = some next)
    {before after : List (Event Functor)}
    (split : events ++ [event] = before ++ .setChangeCallback :: after)
    {remaining : List Functor} (scheduling : next.control.progress = .scheduling remaining)
    {functor : Functor} (member : functor ∈ functors) (reached : functor ∉ remaining) :
    RenderFollows functor after next := by
  have runs := step_running following stepped (by simp [scheduling]) functor
  have moves := control_moves (step_some stepped).1
  rcases split_last split with ⟨-, -, rfl⟩ | ⟨rest, rfl, sooner⟩
  · rw [moves_set moves] at scheduling
    cases scheduling
    exact absurd member reached
  · have installed : compositor.control.progress ≠ .starting := by
      rw [← following.installed, sooner]
      simp
    rcases moves_scheduling moves scheduling with ⟨-, starting, -⟩ | same |
      ⟨scheduled, notified, rfl, same⟩
    · exact absurd starting installed
    · have follows := following.first before rest sooner remaining same functor member reached
      exact step_render_follows (accounted functor) follows stepped runs
    · by_cases this : functor = scheduled
      · subst this
        exact step_schedule_follows stepped _
      · have follows := following.first before rest sooner _ same functor member
          (by simp [this, reached])
        exact step_render_follows (accounted functor) follows stepped runs

theorem step_notified (following : Following functors events compositor)
    (accounted : ∀ functor, ∃ actions, Accounted actions (compositor.threadFunctors functor))
    (stepped : step functors compositor event = some next)
    {before after : List (Event Functor)}
    (split : events ++ [event] = before ++ .emitChangeNotification :: after)
    (installed : .setChangeCallback ∈ before) {remaining : List Functor}
    (scheduling : next.control.progress = .scheduling remaining) {functor : Functor}
    (member : functor ∈ functors)
    (reached : .endChangeNotification ∈ after ∨
      ∃ left, next.control.emitting = some left ∧ functor ∉ left) :
    RenderFollows functor after next := by
  have runs := step_running following stepped (by simp [scheduling]) functor
  have moves := control_moves (step_some stepped).1
  have started : .setChangeCallback ∈ events → compositor.control.progress ≠ .starting :=
    following.installed.mp
  have sooner : .setChangeCallback ∈ events →
      ∃ queue, compositor.control.progress = .scheduling queue := by
    intro already
    rcases moves_scheduling moves scheduling with ⟨-, starting, -⟩ | same | ⟨_, _, -, same⟩
    · exact absurd starting (started already)
    · exact ⟨_, same⟩
    · exact ⟨_, same⟩
  rcases split_last split with ⟨rfl, rfl, rfl⟩ | ⟨rest, rfl, earlier⟩
  · -- the notification that has just begun still has all functors before it
    obtain ⟨queue, same⟩ := sooner installed
    rcases reached with done | ⟨left, emitting, missing⟩
    · cases done
    · rw [moves_emit moves, following.callback queue same] at emitting
      cases emitting
      exact absurd member missing
  · obtain ⟨queue, same⟩ := sooner (by simp [earlier, installed])
    have before := following.notified _ rest earlier installed queue same functor member
    rcases reached with done | ⟨left, emitting, missing⟩
    · have follows : RenderFollows functor rest compositor := by
        rcases List.mem_append.mp done with already | now
        · exact before (.inl already)
        · rw [List.mem_singleton] at now
          subst now
          exact before (.inr ⟨[], moves_finish moves, List.not_mem_nil⟩)
      exact step_render_follows (accounted functor) follows stepped runs
    · rcases moves_emitting moves emitting with unchanged | ⟨notifiedNow, notified, rfl, longer⟩ |
        ⟨rfl, all⟩
      · have follows := before (.inr ⟨left, unchanged, missing⟩)
        exact step_render_follows (accounted functor) follows stepped runs
      · by_cases this : functor = notifiedNow
        · subst this
          exact step_schedule_follows stepped _
        · have follows := before (.inr ⟨_, longer, by simp [this, missing]⟩)
          exact step_render_follows (accounted functor) follows stepped runs
      · rw [following.callback queue same] at all
        exact absurd (all ▸ member) missing

theorem step_following (following : Following functors events compositor)
    (accounted : ∀ functor, ∃ actions, Accounted actions (compositor.threadFunctors functor))
    (stepped : step functors compositor event = some next) :
    Following functors (events ++ [event]) next := by
  have moves := control_moves (step_some stepped).1
  constructor
  · exact step_running following stepped
  · rw [moves_installed moves, ← following.installed]
    simp [eq_comm]
  · intro remaining scheduling
    exact moves_callback moves following.callback scheduling
  · intro before after split remaining scheduling functor member reached
    exact step_first following accounted stepped split scheduling member reached
  · intro before after split installed remaining scheduling functor member reached
    exact step_notified following accounted stepped split installed scheduling member reached

theorem run_following (ran : run (step functors) created events = some compositor) :
    Following functors events compositor := by
  apply run_reached_invariant (Following functors) created_following _ ran
  intro history state event after reached following stepped
  apply step_following following _ stepped
  intro functor
  exact ⟨_, run_accounted (run_functor reached functor)⟩

end Following

section Requests

/-- Everything that was announced before `start` returned, or by the callback since, is
followed by a render. -/
theorem announced_followed {functors : List Functor} {events : List (Event Functor)}
    {compositor : Compositor Functor} (following : Following functors events compositor)
    (started : compositor.control.progress = .scheduling []) {functor : Functor}
    (member : functor ∈ functors) {before after : List (Event Functor)}
    (split : events = before ++ .emitChangeNotification :: after)
    (done : .endChangeNotification ∈ after) : RenderFollows functor after compositor := by
  have installed : .setChangeCallback ∈ events := following.installed.mpr (by simp [started])
  rw [split, List.mem_append, List.mem_cons] at installed
  rcases installed with early | impossible | late
  · exact following.notified before after split early [] started functor member (.inl done)
  · cases impossible
  · obtain ⟨first, second, rfl⟩ := List.append_of_mem late
    have follows := following.first (before ++ .emitChangeNotification :: first) second
      (by simp [split]) [] started functor member List.not_mem_nil
    rcases follows with pending | begun
    · exact .inl pending
    · exact .inr (by simp [begun])

/-- Requests are neither lost nor invented. For every functor, a request since the last
render has its flag set, or is just being taken over by a render, and its thread is not
asleep; there are no more renders than requests; after `stop` there is at most the render
for which the mutex had already been given up. Once `start` has returned, a render begins
after the callback was set, and after every notification that has been delivered. -/
theorem compositing_requests_kept [DecidableEq Functor] (functors : List Functor)
    (events : List (Event Functor)) (compositor : Compositor Functor)
    (ran : run (step functors) created events = some compositor) :
    (∀ functor,
      ((compositor.threadFunctors functor).running = true →
        ScheduledSinceRender (actionsOf functor events) →
        Pending (compositor.threadFunctors functor) ∧
          () ∉ (compositor.threadFunctors functor).runCv.waiting) ∧
      renders (actionsOf functor events) ≤ schedules (actionsOf functor events) ∧
      ∀ before notified after, actionsOf functor events = before ++ .stop notified :: after →
        ∃ earlier, run act constructed before = some earlier ∧ renders after ≤ taken earlier) ∧
    (compositor.control.progress = .scheduling [] → ∀ functor ∈ functors,
      (∀ before after, events = before ++ .setChangeCallback :: after →
        RenderFollows functor after compositor) ∧
      ∀ before after, events = before ++ .emitChangeNotification :: after →
        .endChangeNotification ∈ after → RenderFollows functor after compositor) := by
  constructor
  · intro functor
    have ownRun := run_functor ran functor
    have accounted := run_accounted ownRun
    refine ⟨?_, ?_, ?_⟩
    · intro runs request
      have pending := accounted.since runs request
      exact ⟨pending, accounted_awake accounted pending⟩
    · have counted := accounted.counted
      omega
    · intro before notified after split
      rw [split] at ownRun
      obtain ⟨earlier, reached, continued⟩ := run_append_some ownRun
      obtain ⟨stopped, acted, later⟩ := run_cons_some continued
      refine ⟨earlier, reached, ?_⟩
      obtain ⟨runCv, -, rfl⟩ := Option.map_eq_some_iff.mp acted
      have halted : { earlier with running := false, runCv := runCv }.running = false := rfl
      have fewer := run_stopped halted later
      exact fewer
  · intro started functor member
    have following := run_following ran
    refine ⟨?_, ?_⟩
    · intro before after split
      exact following.first before after split [] started functor member List.not_mem_nil
    · intro before after split done
      exact announced_followed following started member split done

def notifiedRender : List (Event Unit) :=
  [.setChangeCallback, .scheduleCompositing .start () none, .lock (), .emitChangeNotification,
    .scheduleCompositing .changeCallback () none, .endChangeNotification, .beginRender ()]

theorem notified_render_kept :
    ∃ compositor, run (step [()]) created notifiedRender = some compositor ∧
      compositor.control.progress = .scheduling [] ∧
      renders (actionsOf () notifiedRender) ≤ schedules (actionsOf () notifiedRender) ∧
      Pending (compositor.threadFunctors ()) ∧
      RenderFollows () [.scheduleCompositing .changeCallback () none, .endChangeNotification,
        .beginRender ()] compositor := by
  obtain ⟨compositor, ran, started, runs⟩ : ∃ compositor,
      run (step [()]) created notifiedRender = some compositor ∧
        compositor.control.progress = .scheduling [] ∧
        Pending (compositor.threadFunctors ()) := ⟨_, rfl, rfl, .inl rfl⟩
  obtain ⟨own, announced⟩ := compositing_requests_kept [()] notifiedRender compositor ran
  have follows := (announced started () (by simp)).2
    [.setChangeCallback, .scheduleCompositing .start () none, .lock ()] _ rfl (by simp)
  exact ⟨compositor, ran, started, (own ()).2.1, runs, follows⟩

/-- `stop` comes between the release of the mutex and the call of `render`. -/
def stoppedBeforeRender : List (Event Unit) :=
  [.setChangeCallback, .scheduleCompositing .start () none, .lock (), .resetChangeCallback,
    .stop () none, .beginRender ()]

def takenRequest : List (Event Unit) :=
  [.setChangeCallback, .scheduleCompositing .start () none, .lock (), .beginRender (),
    .scheduleCompositing .other () none, .endRender (), .lock ()]

/-- A render can begin after `stop`, and the flag can be down before the render it stands
for has begun. -/
theorem unlocked_render_late :
    (∃ compositor, run (step [()]) created stoppedBeforeRender = some compositor ∧
      actionsOf () stoppedBeforeRender =
        [.scheduleCompositing none, .lock] ++ .stop none :: [.beginRender]) ∧
    ∃ compositor, run (step [()]) created takenRequest = some compositor ∧
      (compositor.threadFunctors ()).running = true ∧
      ScheduledSinceRender (actionsOf () takenRequest) ∧
      (compositor.threadFunctors ()).compositingScheduled = false := by
  refine ⟨⟨_, rfl, rfl⟩, _, rfl, rfl, ?_, rfl⟩
  exact ⟨[.scheduleCompositing none, .lock, .beginRender], none, [.endRender, .lock], rfl,
    by simp⟩

end Requests

end Mir.CompositorRequests
