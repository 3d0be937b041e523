import Mir.ConditionVariable
import Mir.TransitionRuns

/-!
# Running the server and stopping it

`run_mir` enables the signals, connects `signal_terminate`, builds the server, publishes
its address and calls `DisplayServer::run`, which starts the components and waits for
`exit`, all under `exit_guard`. What the components do in a call is not modelled: the call
returns at some time, throws, or never comes back. The signal handler only writes the signal
to a socket pair. The dispatcher's worker reads it and calls the slots that are connected by
then; `signal_terminate` spins until the address is published and calls `stop` on it. Nothing
takes the address back, so that a signal may be handled after the server is gone.
-/

namespace Mir.ServerShutdown

open Mir.TransitionRuns Mir.ConditionVariable

set_option autoImplicit false

inductive Signal where
  | interrupt
  | terminate
  deriving DecidableEq, Repr

inductive Component where
  | communicator
  | compositor
  | inputManager
  | shell
  | display
  deriving DecidableEq, Repr

/-- What the main thread calls. `make` is the configuration's `the_...()`, and `release` the
end of the server's reference. -/
inductive ComponentCall where
  | make (component : Component)
  | init
  | start (component : Component)
  | stop (component : Component)
  | shutdown
  | release (component : Component)
  deriving DecidableEq, Repr

/-- Where the main thread is in `run_mir`. A place is left when its calls are made: a call from
`preparing` comes back at `locking`, and one from `leaving` at `destroying`. In `releasing`
the members of `Private` are destroyed, `exit_guard` and `exit_cv` before the others. -/
inductive MainAt where
  | enabling (signals : List Signal)
  | constructing (built rest : List Component)
  | publishing
  | preparing
  | locking
  | starting (components : List Component)
  | checking
  | waiting
  | stopping (components : List Component)
  | leaving
  | destroying
  | releasing (components : List Component)
  | returned
  deriving DecidableEq, Repr

inductive WorkerAt where
  | reading
  | emitting (signal : Signal)
  | spinning
  | calling
  deriving DecidableEq, Repr

structure Server where
  main : MainAt
  /-- The call that the main thread is in. -/
  calling : Option ComponentCall
  worker : WorkerAt
  enabled : List Signal
  connected : Bool
  published : Bool
  channel : List Signal
  exit : Bool
  exitCv : WaitSet Unit
  calls : List ComponentCall
  /-- `stop` was called on a server that had been destroyed. -/
  stale : Bool

inductive Event where
  | main
  | callReturns
  | callThrows
  | resume
  | wakeSpuriously
  | deliver (signal : Signal)
  | stop (woken : Option Unit)
  | read
  | emit
  | found
  | workerStop (woken : Option Unit)
  deriving DecidableEq, Repr

/-- The steps of the two threads of `run_mir` itself. -/
def Event.inner : Event → Bool
  | .wakeSpuriously | .deliver _ | .stop _ => false
  | _ => true

/-- `run` keeps `exit_guard` except while it waits. -/
def guardHeld : MainAt → Bool
  | .starting _ | .checking | .stopping _ => true
  | _ => false

def serverExists : MainAt → Bool
  | .enabling _ | .constructing _ _ | .releasing _ | .returned => false
  | _ => true

def serverGone : MainAt → Bool
  | .releasing _ | .returned => true
  | _ => false

/-- The members of `Private` that are components, in the order of their declaration. -/
def members : List Component := [.display, .compositor, .shell, .communicator, .inputManager]

def starts : List Component := [.communicator, .compositor, .inputManager]

def stops : List Component := [.inputManager, .compositor]

def started : Server where
  main := .enabling [.interrupt, .terminate]
  calling := none
  worker := .reading
  enabled := []
  connected := false
  published := false
  channel := []
  exit := false
  exitCv := empty
  calls := []
  stale := false

/-- The call that the main thread makes next, and the place that it comes back to. -/
def nextCall : MainAt → Option (ComponentCall × MainAt)
  | .constructing built (component :: rest) =>
      some (.make component, .constructing (component :: built) rest)
  | .preparing => some (.init, .locking)
  | .starting (component :: rest) => some (.start component, .starting rest)
  | .stopping (component :: rest) => some (.stop component, .stopping rest)
  | .leaving => some (.shutdown, .destroying)
  | .releasing (component :: rest) => some (.release component, .releasing rest)
  | _ => none

/-- Where an exception of the call takes the main thread. The members that are built already
are destroyed in the reverse order, and so is a server that exists; its destructor and those of
the components do not throw. -/
def unwinds : MainAt → Option MainAt
  | .constructing (_ :: built) _ => some (.releasing built)
  | .locking | .starting _ | .stopping _ => some .leaving
  | _ => none

section Steps

variable (state : Server)

/-- What the main thread does between the calls. -/
def mainProceeds : Option Server :=
  match state.main with
  | .enabling (signal :: rest) =>
      some { state with main := .enabling rest, enabled := state.enabled ++ [signal] }
  | .enabling [] => some { state with main := .constructing [] members, connected := true }
  | .constructing _ [] => some { state with main := .publishing }
  | .publishing => some { state with main := .preparing, published := true }
  | .locking => some { state with main := .starting starts }
  | .starting [] => some { state with main := .checking }
  | .checking =>
      if state.exit then some { state with main := .stopping stops }
      else some { state with main := .waiting, exitCv := wait state.exitCv () }
  | .stopping [] => some { state with main := .leaving }
  | .destroying => some { state with main := .releasing members.reverse }
  | .releasing [] => some { state with main := .returned }
  | _ => none

def mainStep : Option Server :=
  if state.calling.isSome then none
  else match nextCall state.main with
    | some (call, place) =>
        some { state with main := place, calling := some call, calls := state.calls ++ [call] }
    | none => mainProceeds state

def callReturns : Option Server :=
  if state.calling.isSome then some { state with calling := none } else none

def callThrows : Option Server :=
  if state.calling.isSome then
    (unwinds state.main).map fun place => { state with main := place, calling := none }
  else none

def stop (woken : Option Unit) : Option Server :=
  if guardHeld state.main then none
  else (notifyOne state.exitCv woken).map fun exitCv =>
    { state with exit := true, exitCv := exitCv }

def workerStop (woken : Option Unit) : Option Server :=
  if serverGone state.main then
    if woken = none then some { state with worker := .reading, stale := true } else none
  else (stop state woken).map fun next => { next with worker := .reading }

def step : Event → Option Server
  | .main => mainStep state
  | .callReturns => callReturns state
  | .callThrows => callThrows state
  | .resume =>
      if state.main = .waiting then
        (resume state.exitCv ()).map fun exitCv =>
          { state with main := .checking, exitCv := exitCv }
      else none
  | .wakeSpuriously => (wakeSpuriously state.exitCv ()).map fun exitCv =>
      { state with exitCv := exitCv }
  | .deliver signal =>
      if signal ∈ state.enabled then some { state with channel := state.channel ++ [signal] }
      else none
  | .stop woken => if serverExists state.main then stop state woken else none
  | .read => match state.worker, state.channel with
      | .reading, signal :: rest =>
          some { state with worker := .emitting signal, channel := rest }
      | _, _ => none
  | .emit => match state.worker with
      | .emitting _ =>
          if state.connected then some { state with worker := .spinning }
          else some { state with worker := .reading }
      | _ => none
  | .found =>
      if state.worker = .spinning ∧ state.published = true then
        some { state with worker := .calling }
      else none
  | .workerStop woken => if state.worker = .calling then workerStop state woken else none

end Steps

inductive Steps (state : Server) : Event → Server → Prop
  | enable {signal rest} (at_ : state.main = .enabling (signal :: rest)) :
      Steps state .main { state with main := .enabling rest, enabled := state.enabled ++ [signal] }
  | connect (at_ : state.main = .enabling []) :
      Steps state .main { state with main := .constructing [] members, connected := true }
  | construct {built} (at_ : state.main = .constructing built []) :
      Steps state .main { state with main := .publishing }
  | publish (at_ : state.main = .publishing) :
      Steps state .main { state with main := .preparing, published := true }
  | lock (at_ : state.main = .locking) : Steps state .main { state with main := .starting starts }
  | allStarted (at_ : state.main = .starting []) :
      Steps state .main { state with main := .checking }
  | proceed (at_ : state.main = .checking) (exit : state.exit = true) :
      Steps state .main { state with main := .stopping stops }
  | wait (at_ : state.main = .checking) (going : state.exit = false) :
      Steps state .main
        { state with main := .waiting, exitCv := ConditionVariable.wait state.exitCv () }
  | unlock (at_ : state.main = .stopping []) : Steps state .main { state with main := .leaving }
  | destroy (at_ : state.main = .destroying) :
      Steps state .main { state with main := .releasing members.reverse }
  | finish (at_ : state.main = .releasing []) : Steps state .main { state with main := .returned }
  | call {call place} (idle : state.calling = none)
      (goes : nextCall state.main = some (call, place)) :
      Steps state .main
        { state with main := place, calling := some call, calls := state.calls ++ [call] }
  | callReturns {call} (calling : state.calling = some call) :
      Steps state .callReturns { state with calling := none }
  | callThrows {call place} (calling : state.calling = some call)
      (unwound : unwinds state.main = some place) :
      Steps state .callThrows { state with main := place, calling := none }
  | resume {exitCv} (at_ : state.main = .waiting)
      (resumed : ConditionVariable.resume state.exitCv () = some exitCv) :
      Steps state .resume { state with main := .checking, exitCv := exitCv }
  | wakeSpuriously {exitCv}
      (woke : ConditionVariable.wakeSpuriously state.exitCv () = some exitCv) :
      Steps state .wakeSpuriously { state with exitCv := exitCv }
  | deliver {signal} (enabled : signal ∈ state.enabled) :
      Steps state (.deliver signal) { state with channel := state.channel ++ [signal] }
  | stop {woken exitCv} (lives : serverExists state.main = true)
      (free : guardHeld state.main = false)
      (notified : notifyOne state.exitCv woken = some exitCv) :
      Steps state (.stop woken) { state with exit := true, exitCv := exitCv }
  | read {signal rest} (reads : state.worker = .reading)
      (channel : state.channel = signal :: rest) :
      Steps state .read { state with worker := .emitting signal, channel := rest }
  | handled {signal} (emits : state.worker = .emitting signal)
      (connected : state.connected = true) :
      Steps state .emit { state with worker := .spinning }
  | dropped {signal} (emits : state.worker = .emitting signal)
      (connected : state.connected = false) :
      Steps state .emit { state with worker := .reading }
  | found (spins : state.worker = .spinning) (published : state.published = true) :
      Steps state .found { state with worker := .calling }
  | workerStop {woken exitCv} (calls : state.worker = .calling)
      (lives : serverGone state.main = false) (free : guardHeld state.main = false)
      (notified : notifyOne state.exitCv woken = some exitCv) :
      Steps state (.workerStop woken)
        { state with exit := true, exitCv := exitCv, worker := .reading }
  | stale (calls : state.worker = .calling) (gone : serverGone state.main = true) :
      Steps state (.workerStop none) { state with worker := .reading, stale := true }

variable {state next : Server} {event : Event}

theorem main_proceeds_cases (stepped : mainProceeds state = some next) :
    Steps state .main next := by
  unfold mainProceeds at stepped
  split at stepped
  · next signal rest at_ =>
      cases stepped
      exact .enable at_
  · next at_ =>
      cases stepped
      exact .connect at_
  · next at_ =>
      cases stepped
      exact .construct at_
  · next at_ =>
      cases stepped
      exact .publish at_
  · next at_ =>
      cases stepped
      exact .lock at_
  · next at_ =>
      cases stepped
      exact .allStarted at_
  · next at_ =>
      split_ifs at stepped with exit
      · cases stepped
        exact .proceed at_ exit
      · cases stepped
        exact .wait at_ (Bool.eq_false_iff.mpr exit)
  · next at_ =>
      cases stepped
      exact .unlock at_
  · next at_ =>
      cases stepped
      exact .destroy at_
  · next at_ =>
      cases stepped
      exact .finish at_
  · cases stepped

theorem main_step_cases (stepped : mainStep state = some next) : Steps state .main next := by
  unfold mainStep at stepped
  split_ifs at stepped with calling
  split at stepped
  · next call place goes =>
      cases stepped
      exact .call (by simpa using calling) goes
  · exact main_proceeds_cases stepped

theorem stop_cases {woken : Option Unit} (stopped : stop state woken = some next) :
    guardHeld state.main = false ∧ ∃ exitCv, notifyOne state.exitCv woken = some exitCv ∧
      next = { state with exit := true, exitCv := exitCv } := by
  unfold stop at stopped
  split_ifs at stopped with held
  obtain ⟨exitCv, notified, rfl⟩ := Option.map_eq_some_iff.mp stopped
  exact ⟨Bool.eq_false_iff.mpr held, exitCv, notified, rfl⟩

theorem step_cases (stepped : step state event = some next) : Steps state event next := by
  cases event with
  | main => exact main_step_cases stepped
  | callReturns =>
      simp only [step, callReturns] at stepped
      split_ifs at stepped with calling
      obtain ⟨call, inside⟩ := Option.isSome_iff_exists.mp calling
      cases stepped
      exact .callReturns inside
  | callThrows =>
      simp only [step, callThrows] at stepped
      split_ifs at stepped with calling
      obtain ⟨call, inside⟩ := Option.isSome_iff_exists.mp calling
      obtain ⟨place, unwound, rfl⟩ := Option.map_eq_some_iff.mp stepped
      exact .callThrows inside unwound
  | resume =>
      simp only [step] at stepped
      split_ifs at stepped with at_
      obtain ⟨exitCv, resumed, rfl⟩ := Option.map_eq_some_iff.mp stepped
      exact .resume at_ resumed
  | wakeSpuriously =>
      obtain ⟨exitCv, woke, rfl⟩ := Option.map_eq_some_iff.mp stepped
      exact .wakeSpuriously woke
  | deliver signal =>
      simp only [step] at stepped
      split_ifs at stepped with enabled
      cases stepped
      exact .deliver enabled
  | stop woken =>
      simp only [step] at stepped
      split_ifs at stepped with lives
      obtain ⟨free, exitCv, notified, rfl⟩ := stop_cases stepped
      exact .stop lives free notified
  | read =>
      simp only [step] at stepped
      split at stepped
      · next signal rest reads channel =>
          cases stepped
          exact .read reads channel
      · cases stepped
  | emit =>
      simp only [step] at stepped
      split at stepped
      · next signal emits =>
          split_ifs at stepped with connected
          · cases stepped
            exact .handled emits connected
          · cases stepped
            exact .dropped emits (Bool.eq_false_iff.mpr connected)
      · cases stepped
  | found =>
      simp only [step] at stepped
      split_ifs at stepped with ready
      cases stepped
      exact .found ready.1 ready.2
  | workerStop woken =>
      simp only [step, workerStop] at stepped
      split_ifs at stepped with calls gone none_
      · cases stepped
        subst none_
        exact .stale calls gone
      · obtain ⟨after, stopped, rfl⟩ := Option.map_eq_some_iff.mp stepped
        obtain ⟨free, exitCv, notified, rfl⟩ := stop_cases stopped
        exact .workerStop calls (Bool.eq_false_iff.mpr gone) free notified

section Invariants

def pastPublishing : MainAt → Bool
  | .enabling _ | .constructing _ _ | .publishing | .releasing _ | .returned => false
  | _ => true

/-- Only the main thread waits, it is woken once `exit` is set, and it goes past the loop
only then. -/
structure Sound (state : Server) : Prop where
  waits : threads state.exitCv = if state.main = .waiting then [()] else []
  woken : state.exit = true → state.main = .waiting → Awake state.exitCv ()
  leaves : ∀ components, state.main = .stopping components → state.exit = true
  published : pastPublishing state.main = true → state.published = true

theorem started_sound : Sound started where
  waits := rfl
  woken := nofun
  leaves := nofun
  published := nofun

theorem Sound.move (sound : Sound state) (sameCv : next.exitCv = state.exitCv)
    (before : state.main ≠ .waiting) (after : next.main ≠ .waiting)
    (leaves : ∀ components, next.main = .stopping components → next.exit = true)
    (published : pastPublishing next.main = true → next.published = true) : Sound next where
  waits := by rw [sameCv, sound.waits, if_neg before, if_neg after]
  woken := fun _ waiting => absurd waiting after
  leaves := leaves
  published := published

theorem Sound.go (sound : Sound state) (sameCv : next.exitCv = state.exitCv)
    (samePublished : next.published = state.published) (before : state.main ≠ .waiting)
    (after : next.main ≠ .waiting)
    (leaves : ∀ components, next.main = .stopping components → next.exit = true)
    (past : pastPublishing next.main = true → pastPublishing state.main = true) :
    Sound next := by
  apply sound.move sameCv before after leaves
  intro beyond
  rw [samePublished]
  exact sound.published (past beyond)

theorem Sound.stopped (sound : Sound state) {woken : Option Unit} {exitCv : WaitSet Unit}
    (notified : notifyOne state.exitCv woken = some exitCv)
    (sameMain : next.main = state.main) (sameCv : next.exitCv = exitCv)
    (samePublished : next.published = state.published) (exit : next.exit = true) :
    Sound next where
  waits := by
    have same := threads_notify_one notified
    rw [sound.waits] at same
    rw [sameMain, sameCv]
    split_ifs at same ⊢
    · exact List.perm_singleton.mp same
    · exact List.perm_nil.mp same
  woken := by
    intro _ waiting
    have only := sound.waits
    rw [sameMain] at waiting
    rw [if_pos waiting] at only
    rw [sameCv]
    exact awake_notify_one only notified
  leaves := fun _ _ => exit
  published := by
    rw [sameMain, samePublished]
    exact sound.published

theorem Sound.same (sound : Sound state) (sameMain : next.main = state.main)
    (sameCv : next.exitCv = state.exitCv) (sameExit : next.exit = state.exit)
    (samePublished : next.published = state.published) : Sound next where
  waits := by rw [sameMain, sameCv, sound.waits]
  woken := by
    rw [sameExit, sameMain, sameCv]
    exact sound.woken
  leaves := by
    rw [sameExit, sameMain]
    exact sound.leaves
  published := by
    rw [sameMain, samePublished]
    exact sound.published

theorem next_call_places {main place : MainAt} {call : ComponentCall}
    (goes : nextCall main = some (call, place)) :
    main ≠ .waiting ∧ place ≠ .waiting ∧
      (∀ components, place = .stopping components → ∃ earlier, main = .stopping earlier) ∧
      (pastPublishing place = true → pastPublishing main = true) ∧
      serverGone place = serverGone main := by
  unfold nextCall at goes
  split at goes <;> cases goes <;> simp [pastPublishing, serverGone]

theorem unwinds_places {main place : MainAt} (unwound : unwinds main = some place) :
    main ≠ .waiting ∧ place ≠ .waiting ∧ (∀ components, place ≠ .stopping components) ∧
      (pastPublishing place = true → pastPublishing main = true) ∧ serverGone main = false := by
  unfold unwinds at unwound
  split at unwound <;> cases unwound <;> simp [pastPublishing, serverGone]

theorem step_sound (sound : Sound state) (stepped : step state event = some next) :
    Sound next := by
  cases step_cases stepped with
  | publish at_ => exact sound.move rfl (by simp [at_]) nofun nofun fun _ => rfl
  | proceed at_ exit =>
      exact sound.go rfl rfl (by simp [at_]) nofun (fun _ _ => exit)
        (by simp [at_, pastPublishing])
  | call idle goes =>
      obtain ⟨before, after, stays, past, -⟩ := next_call_places goes
      refine sound.go rfl rfl before after ?_ past
      intro components stops
      obtain ⟨earlier, at_⟩ := stays components stops
      exact sound.leaves earlier at_
  | callThrows calling unwound =>
      obtain ⟨before, after, stays, past, -⟩ := unwinds_places unwound
      exact sound.go rfl rfl before after
        (fun components stops => absurd stops (stays components)) past
  | wait at_ going =>
      have nobody := sound.waits
      simp only [at_, reduceCtorEq, if_false] at nobody
      constructor
      · have waits := threads_wait state.exitCv ()
        rw [nobody] at waits
        exact List.perm_singleton.mp waits
      · intro exit
        rw [going] at exit
        cases exit
      · nofun
      · intro _
        exact sound.published (by rw [at_]; rfl)
  | resume at_ resumed =>
      have only := sound.waits
      rw [if_pos at_] at only
      have left := threads_resume resumed
      rw [only, List.singleton_perm, List.cons.injEq] at left
      constructor
      · exact left.2.symm
      · nofun
      · nofun
      · intro _
        exact sound.published (by rw [at_]; rfl)
  | wakeSpuriously woke =>
      have same := threads_wake_spuriously woke
      constructor
      · have only := sound.waits
        rw [only] at same
        split_ifs at same ⊢
        · exact List.perm_singleton.mp same
        · exact List.perm_nil.mp same
      · intro exit waiting
        exact awake_wake_spuriously (sound.woken exit waiting) woke
      · exact sound.leaves
      · exact sound.published
  | stop lives free notified | workerStop calls lives free notified =>
      exact sound.stopped notified rfl rfl rfl rfl
  | callReturns | deliver | read | handled | dropped | found | stale =>
      exact sound.same rfl rfl rfl rfl
  | _ =>
      rename_i at_
      exact sound.go rfl rfl (by simp [at_]) nofun nofun (by simp [at_, pastPublishing])

theorem run_sound {events : List Event} (ran : run step started events = some state) :
    Sound state :=
  run_invariant Sound started_sound (fun _ _ _ sound stepped => step_sound sound stepped) ran

end Invariants

section Progress

/-- The request is on its way to the main thread or has reached it. -/
def Underway (state : Server) : Prop :=
  state.exit = true ∨ serverGone state.main = true ∨
    state.connected = true ∧ (state.channel ≠ [] ∨ state.worker ≠ .reading)

theorem Underway.move (underway : Underway state) (sameExit : next.exit = state.exit)
    (sameWorker : next.worker = state.worker) (sameChannel : next.channel = state.channel)
    (connected : state.connected = true → next.connected = true)
    (gone : serverGone state.main = true → serverGone next.main = true) : Underway next := by
  rcases underway with exit | left | ⟨listening, busy⟩
  · exact .inl (sameExit.trans exit)
  · exact .inr (.inl (gone left))
  · refine .inr (.inr ⟨connected listening, ?_⟩)
    rw [sameWorker, sameChannel]
    exact busy

theorem Underway.pass (underway : Underway state) (sameExit : next.exit = state.exit)
    (sameMain : next.main = state.main)
    (busy : state.connected = true →
      next.connected = true ∧ (next.channel ≠ [] ∨ next.worker ≠ .reading)) :
    Underway next := by
  rcases underway with exit | left | ⟨connected, -⟩
  · exact .inl (sameExit.trans exit)
  · exact .inr (.inl (sameMain ▸ left))
  · exact .inr (.inr (busy connected))

def returningCalls (count : Nat) : List Event :=
  (List.replicate count [.main, .callReturns]).flatten ++ [.main]

def setUp : List Event :=
  [[.main, .main, .main], returningCalls 5, [.main], returningCalls 1, [.main]].flatten

end Progress

end Mir.ServerShutdown
