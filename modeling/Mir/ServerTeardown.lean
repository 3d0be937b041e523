import Mir.ServerShutdown

/-!
# What the server does with its components

The order of making, starting, stopping and releasing the components is fixed by `run` and by
the declaration of the members; only where an exception ends it is open. The published address
outlives the server, which is harmless unless a signal is still to be handled then.
-/

namespace Mir.ServerTeardown

open Mir.TransitionRuns Mir.ServerShutdown

set_option autoImplicit false

variable {state next : Server} {event : Event}

def opening : List ComponentCall := members.map .make ++ [.init]

def running : List ComponentCall := starts.map .start ++ stops.map .stop

def teardown : List ComponentCall := .shutdown :: members.reverse.map .release

def Begun (threw : Prop) (begun : List ComponentCall) : Prop :=
  begun = running ∨ threw ∧ begun <+: running

def Complete (threw : Prop) (calls : List ComponentCall) : Prop :=
  (∃ begun, Begun threw begun ∧ calls = opening ++ begun ++ teardown) ∨
    threw ∧ ∃ made failed later, members = made ++ failed :: later ∧
      calls = made.map .make ++ .make failed :: made.reverse.map .release

/-- The calls that have been made when the main thread is at a place. -/
def CallsAt (threw : Prop) (calls : List ComponentCall) : MainAt → Prop
  | .enabling _ => calls = []
  | .constructing built rest => calls = built.reverse.map .make ∧ built.reverse ++ rest = members
  | .publishing | .preparing => calls = members.map .make
  | .locking => calls = opening
  | .starting components => ∃ begun, calls = opening ++ begun ∧
      begun ++ components.map .start = starts.map .start
  | .checking | .waiting => calls = opening ++ starts.map .start
  | .stopping components => ∃ begun, calls = opening ++ begun ∧
      begun ++ components.map .stop = running
  | .leaving => ∃ begun, Begun threw begun ∧ calls = opening ++ begun
  | .destroying => ∃ begun, Begun threw begun ∧ calls = opening ++ begun ++ [.shutdown]
  | .releasing components => Complete threw (calls ++ components.map .release)
  | .returned => Complete threw calls

section Calls

variable {threw later : Prop} {calls : List ComponentCall}

theorem Begun.mono (implies : threw → later) {begun : List ComponentCall}
    (left : Begun threw begun) : Begun later begun :=
  left.imp id (And.imp_left implies)

theorem Complete.mono (implies : threw → later) (complete : Complete threw calls) :
    Complete later calls := by
  rcases complete with ⟨begun, left, whole⟩ | ⟨thrown, unwound⟩
  · exact .inl ⟨begun, left.mono implies, whole⟩
  · exact .inr ⟨implies thrown, unwound⟩

theorem CallsAt.mono (implies : threw → later) {place : MainAt}
    (made : CallsAt threw calls place) : CallsAt later calls place := by
  cases place with
  | leaving =>
      obtain ⟨begun, left, whole⟩ := made
      exact ⟨begun, left.mono implies, whole⟩
  | destroying =>
      obtain ⟨begun, left, whole⟩ := made
      exact ⟨begun, left.mono implies, whole⟩
  | releasing components => exact Complete.mono implies made
  | returned => exact Complete.mono implies made
  | _ => exact made

theorem next_call_made {main place : MainAt} {call : ComponentCall}
    (goes : nextCall main = some (call, place)) (made : CallsAt threw calls main) :
    CallsAt threw (calls ++ [call]) place := by
  unfold nextCall at goes
  split at goes
  case h_1 built component rest =>
    cases goes
    obtain ⟨rfl, all⟩ := made
    simpa [CallsAt] using all
  case h_2 =>
    cases goes
    change calls = members.map .make at made
    change calls ++ [.init] = opening
    rw [made, opening]
  case h_3 component rest =>
    cases goes
    obtain ⟨begun, rfl, all⟩ := made
    exact ⟨begun ++ [.start component], by simp, by simpa using all⟩
  case h_4 component rest =>
    cases goes
    obtain ⟨begun, rfl, all⟩ := made
    exact ⟨begun ++ [.stop component], by simp, by simpa using all⟩
  case h_5 =>
    cases goes
    obtain ⟨begun, left, rfl⟩ := made
    exact ⟨begun, left, rfl⟩
  case h_6 component rest =>
    cases goes
    simpa [CallsAt] using made
  case h_7 => cases goes

/-- An exception ends the calls of the constructor or those of `run` early. -/
theorem unwound_made {main place : MainAt} (unwound : unwinds main = some place)
    (made : CallsAt threw calls main) : CallsAt True calls place := by
  unfold unwinds at unwound
  split at unwound
  case h_1 component built rest =>
    cases unwound
    obtain ⟨rfl, all⟩ := made
    refine .inr ⟨trivial, built.reverse, component, rest, ?_, ?_⟩
    · simpa using all.symm
    · simp
  case h_2 =>
    cases unwound
    exact ⟨[], .inr ⟨trivial, List.nil_prefix⟩, by rw [List.append_nil]; exact made⟩
  case h_3 components =>
    cases unwound
    obtain ⟨begun, rfl, all⟩ := made
    refine ⟨begun, .inr ⟨trivial, components.map .start ++ stops.map .stop, ?_⟩, rfl⟩
    rw [← List.append_assoc, all, running]
  case h_4 components =>
    cases unwound
    obtain ⟨begun, rfl, all⟩ := made
    exact ⟨begun, .inr ⟨trivial, components.map .stop, all⟩, rfl⟩
  case h_5 => cases unwound

end Calls

theorem step_calls {threw : Prop} (made : CallsAt threw state.calls state.main)
    (stepped : step state event = some next) :
    CallsAt (threw ∨ event = .callThrows) next.calls next.main := by
  have same := made.mono (fun before => Or.inl before : threw → threw ∨ event = .callThrows)
  cases step_cases stepped with
  | call idle goes => exact next_call_made goes same
  | callThrows calling unwound =>
      exact (unwound_made unwound made).mono fun _ => .inr rfl
  | connect at_ =>
      rw [at_] at same
      exact ⟨same, rfl⟩
  | construct at_ =>
      rw [at_] at same
      obtain ⟨calls, all⟩ := same
      rw [List.append_nil] at all
      rw [all] at calls
      exact calls
  | lock at_ =>
      rw [at_] at same
      exact ⟨[], by rw [List.append_nil]; exact same, rfl⟩
  | allStarted at_ =>
      rw [at_] at same
      obtain ⟨begun, calls, all⟩ := same
      rw [List.map_nil, List.append_nil] at all
      rw [all] at calls
      exact calls
  | proceed at_ exit =>
      rw [at_] at same
      exact ⟨starts.map .start, same, rfl⟩
  | unlock at_ =>
      rw [at_] at same
      obtain ⟨begun, calls, all⟩ := same
      rw [List.map_nil, List.append_nil] at all
      exact ⟨begun, .inl all, calls⟩
  | destroy at_ =>
      rw [at_] at same
      obtain ⟨begun, left, calls⟩ := same
      refine .inl ⟨begun, left, ?_⟩
      rw [calls, teardown, List.append_assoc]
      rfl
  | finish at_ =>
      rw [at_] at same
      change Complete _ (state.calls ++ []) at same
      rw [List.append_nil] at same
      exact same
  | enable at_ | publish at_ | wait at_ | resume at_ =>
      rw [at_] at same
      exact same
  | _ => exact same

def beyondLoop : MainAt → Bool
  | .stopping _ | .leaving | .destroying | .releasing _ | .returned => true
  | _ => false

/-- The loop of `run` is left for `exit` or by an exception, and the address stays published. -/
structure Ordered (history : List Event) (state : Server) : Prop where
  sound : Sound state
  calls : CallsAt (.callThrows ∈ history) state.calls state.main
  beyond : beyondLoop state.main = true → state.exit = true ∨ .callThrows ∈ history
  kept : serverGone state.main = true → state.published = true ∨ .callThrows ∈ history
  stopped : ∀ component, .stop component ∈ state.calls → state.exit = true

theorem next_call_beyond {main place : MainAt} {call : ComponentCall}
    (goes : nextCall main = some (call, place)) :
    beyondLoop place = beyondLoop main ∧
      ∀ component, call = .stop component → ∃ components, main = .stopping components := by
  unfold nextCall at goes
  split at goes <;> cases goes <;> simp [beyondLoop]

theorem step_beyond {threw : Prop}
    (beyond : beyondLoop state.main = true → state.exit = true ∨ threw)
    (stepped : step state event = some next) :
    beyondLoop next.main = true → next.exit = true ∨ threw ∨ event = .callThrows := by
  have same : beyondLoop state.main = true → state.exit = true ∨ threw ∨ event = .callThrows :=
    fun past => (beyond past).imp id Or.inl
  cases step_cases stepped with
  | proceed at_ exit => exact fun _ => .inl exit
  | callThrows => exact fun _ => .inr (.inr rfl)
  | stop => exact fun _ => .inl rfl
  | workerStop => exact fun _ => .inl rfl
  | call idle goes => exact fun past => same ((next_call_beyond goes).1.symm.trans past)
  | unlock at_ | destroy at_ | finish at_ => exact fun _ => same (by rw [at_]; rfl)
  | callReturns | wakeSpuriously | deliver | read | handled | dropped | found | stale => exact same
  | _ => simp [beyondLoop]

theorem step_kept {threw : Prop} (sound : Sound state)
    (kept : serverGone state.main = true → state.published = true ∨ threw)
    (stepped : step state event = some next) :
    serverGone next.main = true → next.published = true ∨ threw ∨ event = .callThrows := by
  have same : serverGone state.main = true →
      state.published = true ∨ threw ∨ event = .callThrows :=
    fun gone => (kept gone).imp id Or.inl
  cases step_cases stepped with
  | callThrows => exact fun _ => .inr (.inr rfl)
  | call idle goes =>
      obtain ⟨-, -, -, -, stays⟩ := next_call_places goes
      exact fun gone => same (stays.symm.trans gone)
  | destroy at_ => exact fun _ => .inl (sound.published (by rw [at_]; rfl))
  | finish at_ => exact fun _ => same (by rw [at_]; rfl)
  | callReturns | wakeSpuriously | deliver | read | handled | dropped | found | stop | workerStop
  | stale => exact same
  | _ => simp [serverGone]

theorem step_stopped (sound : Sound state)
    (stopped : ∀ component, .stop component ∈ state.calls → state.exit = true)
    (stepped : step state event = some next) (component : Component)
    (called : .stop component ∈ next.calls) : next.exit = true := by
  cases step_cases stepped with
  | call idle goes =>
      rcases List.mem_append.mp called with before | now
      · exact stopped component before
      · obtain ⟨components, at_⟩ :=
          (next_call_beyond goes).2 component (List.mem_singleton.mp now).symm
        exact sound.leaves components at_
  | stop => rfl
  | workerStop => rfl
  | _ => exact stopped component called

theorem run_ordered {events : List Event} (ran : run step started events = some state) :
    Ordered events state := by
  apply run_history_invariant Ordered _ _ ran
  · exact ⟨started_sound, rfl, by simp [started, beyondLoop], by simp [started, serverGone],
      by simp [started]⟩
  · intro history last event after ordered stepped
    have threw : (.callThrows ∈ history ∨ event = .callThrows) ↔
        .callThrows ∈ history ++ [event] := by
      simp [eq_comm]
    refine ⟨step_sound ordered.sound stepped, ?_, ?_, ?_,
      step_stopped ordered.sound ordered.stopped stepped⟩
    · exact (step_calls ordered.calls stepped).mono threw.mp
    · intro past
      exact (step_beyond ordered.beyond stepped past).imp id threw.mp
    · intro gone
      exact (step_kept ordered.sound ordered.kept stepped gone).imp id threw.mp

def isRequest : Event → Bool
  | .deliver _ | .stop _ => true
  | _ => false

/-- The requests that the worker has still to pass on. -/
def pending (state : Server) : Nat :=
  state.channel.length + if state.worker = .reading then 0 else 1

/-- Each request is under way, has set `exit`, or has been dropped. -/
theorem step_counted {count : Nat} (enough : pending state + state.exit.toNat ≤ count)
    (stepped : step state event = some next) :
    pending next + next.exit.toNat ≤ count + (isRequest event).toNat := by
  unfold pending at enough ⊢
  cases step_cases stepped with
  | deliver =>
      simp only [List.length_append, List.length_singleton, isRequest, Bool.toNat_true]
      omega
  | stop =>
      simp only [isRequest, Bool.toNat_true]
      omega
  | read reads channel =>
      simp only [reads, channel, List.length_cons, if_true] at enough
      simp only [reduceCtorEq, if_false, isRequest, Bool.toNat_false]
      omega
  | handled emits =>
      simp only [emits, reduceCtorEq, if_false] at enough
      simpa [isRequest] using enough
  | dropped emits =>
      simp only [emits, reduceCtorEq, if_false] at enough
      simp only [if_true, isRequest, Bool.toNat_false]
      omega
  | found spins =>
      simp only [spins, reduceCtorEq, if_false] at enough
      simpa [isRequest] using enough
  | workerStop calls =>
      simp only [calls, reduceCtorEq, if_false] at enough
      simp only [if_true, isRequest, Bool.toNat_false, Bool.toNat_true]
      omega
  | stale calls =>
      simp only [calls, reduceCtorEq, if_false] at enough
      simp only [if_true, isRequest, Bool.toNat_false]
      omega
  | _ => simpa [isRequest] using enough

theorem run_counted {events : List Event} (ran : run step started events = some state) :
    pending state + state.exit.toNat ≤ events.countP isRequest := by
  apply run_history_invariant
    (fun history last => pending last + last.exit.toNat ≤ history.countP isRequest) _ _ ran
  · exact Nat.le_refl 0
  · intro history last event after enough stepped
    have counted := step_counted enough stepped
    rw [List.countP_append, List.countP_singleton]
    cases request : isRequest event with
    | true => simpa [request] using counted
    | false => simpa [request] using counted

/-- The address of the server stays published after `run_mir` has returned. As long as
nothing throws it is used then only if there have been two requests to stop: the first one
brings the server down and a signal is still to be handled. -/
theorem stale_stop_needs_two_requests (events : List Event) (state : Server)
    (ran : run step started events = some state) (calm : .callThrows ∉ events) :
    (state.main = .returned → state.published = true) ∧
      (state.stale = true → 2 ≤ events.countP isRequest) := by
  constructor
  · intro gone
    exact ((run_ordered ran).kept (by rw [gone]; rfl)).resolve_right calm
  · revert calm
    apply run_reached_invariant
      (fun history last => .callThrows ∉ history → last.stale = true →
        2 ≤ history.countP isRequest) _ _ ran
    · intro _ stale
      cases stale
    · intro history last event after reached holds stepped calm stale
      rw [List.mem_append, not_or] at calm
      have more : history.countP isRequest ≤ (history ++ [event]).countP isRequest := by
        rw [List.countP_append]
        exact Nat.le_add_right _ _
      have before : last.stale = true → 2 ≤ (history ++ [event]).countP isRequest :=
        fun was => Nat.le_trans (holds calm.1 was) more
      cases step_cases stepped with
      | stale calls gone =>
          -- the main thread has left the loop, and this signal is a second request
          have past : beyondLoop last.main = true := by
            revert gone
            cases last.main <;> simp [serverGone, beyondLoop]
          have exit := ((run_ordered reached).beyond past).resolve_right calm.1
          have counted := run_counted reached
          simp only [pending, calls, reduceCtorEq, if_false, exit, Bool.toNat_true] at counted
          omega
      | _ => exact before stale

/-- The server is interrupted twice, and the worker comes to the second signal late. -/
def interruptedTwice : List Event :=
  [setUp, [.callReturns], returningCalls 2, [.main, .deliver .interrupt, .deliver .interrupt,
    .read, .emit, .found, .workerStop (some ()), .resume, .main], returningCalls 2,
    returningCalls 1, returningCalls 5, [.read, .emit, .found, .workerStop none]].flatten

theorem interrupted_twice_stale :
    ∃ state, run step started interruptedTwice = some state ∧ state.main = .returned ∧
      state.published = true ∧ state.stale = true ∧ 2 ≤ interruptedTwice.countP isRequest := by
  have seen : (run step started interruptedTwice).map (fun state => (state.main, state.stale)) =
      some (.returned, true) := by
    decide +kernel
  obtain ⟨state, ran, seen⟩ := Option.map_eq_some_iff.mp seen
  obtain ⟨gone, stale⟩ := Prod.mk.inj seen
  have late := stale_stop_needs_two_requests interruptedTwice state ran (by decide)
  exact ⟨state, ran, gone, late.1 gone, stale, late.2 stale⟩

end Mir.ServerTeardown
