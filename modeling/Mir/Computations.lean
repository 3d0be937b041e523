import Mathlib.Tactic.TypeStar

/-!
# Computations that throw and that may go wrong

State that outlives an exception, exceptions, and undefined behaviour: a computation
without a result has gone wrong, which no handler can catch. A `Triple` says that this
does not happen and what holds after the computation, whether it returns or throws.
-/

namespace Mir.Computations

set_option autoImplicit false

abbrev Computation (Failure State : Type) := ExceptT Failure (StateT State Option)

/-- Code that always returns or throws, on a state of its own. -/
abbrev Call (Failure State : Type) := ExceptT Failure (StateM State)

variable {Failure State Part Value Result : Type}

def execute (code : Computation Failure State Value) (state : State) :
    Option (Except Failure Value × State) :=
  code.run.run state

def undefined : Computation Failure State Value := fun _ => none

def readState : Computation Failure State State := fun state => some (.ok state, state)

def update (change : State → State) : Computation Failure State Unit :=
  fun state => some (.ok (), change state)

/-- A call on the part of the state that `view` shows. -/
def within (view : State → Part) (put : Part → State → State) (call : Call Failure Part Value) :
    Computation Failure State Value :=
  fun state =>
    let (outcome, part) := call.run.run (view state)
    some (outcome, put part state)

/-- From a state in `before` the computation has a result, and the state is then
in `returned` or in `thrown`. -/
def Triple (before : State → Prop) (code : Computation Failure State Value)
    (returned : Value → State → Prop) (thrown : Failure → State → Prop) : Prop :=
  ∀ state, before state → ∃ outcome after, execute code state = some (outcome, after) ∧
    match outcome with
    | .ok value => returned value after
    | .error failure => thrown failure after

section Outcomes

theorem except_map_ok {outcome : Except Failure Value} {change : Value → Result} {result : Result}
    (mapped : outcome.map change = .ok result) :
    ∃ value, outcome = .ok value ∧ change value = result := by
  cases outcome with
  | error failure => cases mapped
  | ok value => exact ⟨value, rfl, Except.ok.inj mapped⟩

theorem except_bind_ok {outcome : Except Failure Value} {rest : Value → Except Failure Result}
    {result : Result} (bound : outcome.bind rest = .ok result) :
    ∃ value, outcome = .ok value ∧ rest value = .ok result := by
  cases outcome with
  | error failure => cases bound
  | ok value => exact ⟨value, rfl, bound⟩

end Outcomes

section Repetition

/-- The values that so many calls return, each made on the result of the one before. -/
def successive (call : Value → Except Failure Value) :
    Nat → Value → Except Failure (List Value)
  | 0, _ => .ok []
  | count + 1, value =>
      (call value).bind fun next => (successive call count next).map fun later => next :: later

theorem successive_orbit {call : Value → Except Failure Value} (orbit : Nat → Value)
    (follows : ∀ index, call (orbit index) = .ok (orbit (index + 1))) (count start : Nat) :
    successive call count (orbit start) =
      .ok ((List.range' (start + 1) count).map orbit) := by
  induction count generalizing start with
  | zero => rfl
  | succ count ih =>
      rw [List.range'_succ, List.map_cons, successive, follows start]
      change (successive call count (orbit (start + 1))).map _ = _
      rw [ih (start + 1)]
      rfl

/-- What is seen of a state through `view` moves as the calls on it do. -/
theorem successive_view {Thrown : Type} {call : State → Except Failure State}
    {seen : Value → Except Thrown Value} {view : State → Value} (kept : State → Prop)
    (follows : ∀ state next, kept state → seen (view state) = .ok next →
      ∃ after, call state = .ok after ∧ view after = next ∧ kept after)
    {count : Nat} {state : State} {values : List Value} (holds : kept state)
    (ran : successive seen count (view state) = .ok values) :
    ∃ states, successive call count state = .ok states ∧ states.map view = values := by
  induction count generalizing state values with
  | zero =>
      cases ran
      exact ⟨[], rfl, rfl⟩
  | succ count ih =>
      obtain ⟨next, first, mapped⟩ := except_bind_ok ran
      obtain ⟨later, rest, rfl⟩ := except_map_ok mapped
      obtain ⟨after, called, same, stays⟩ := follows state next holds first
      rw [← same] at rest
      obtain ⟨states, repeated, viewed⟩ := ih stays rest
      refine ⟨after :: states, ?_, by rw [List.map_cons, same, viewed]⟩
      rw [successive, called]
      change (successive call count after).map _ = _
      rw [repeated]
      rfl

end Repetition

section Rules

variable {before : State → Prop} {returned : Value → State → Prop}
  {thrown : Failure → State → Prop}

theorem triple_pure {value : Value} (holds : ∀ state, before state → returned value state) :
    Triple before (pure value : Computation Failure State Value) returned thrown := by
  intro state start
  exact ⟨.ok value, state, rfl, holds state start⟩

theorem triple_throw {failure : Failure} (holds : ∀ state, before state → thrown failure state) :
    Triple before (throw failure : Computation Failure State Value) returned thrown := by
  intro state start
  exact ⟨.error failure, state, rfl, holds state start⟩

theorem execute_bind (first : Computation Failure State Value)
    (rest : Value → Computation Failure State Result) (state : State) :
    execute (first >>= rest) state =
      (execute first state).bind fun (outcome, reached) => match outcome with
        | .ok value => execute (rest value) reached
        | .error failure => some (.error failure, reached) := by
  change (first.run.run state).bind _ = (first.run.run state).bind _
  congr 1
  funext pair
  rcases pair with ⟨outcome, reached⟩
  cases outcome <;> rfl

theorem triple_bind {first : Computation Failure State Value}
    {rest : Value → Computation Failure State Result} {after : Result → State → Prop}
    (starts : Triple before first returned thrown)
    (continues : ∀ value, Triple (returned value) (rest value) after thrown) :
    Triple before (first >>= rest) after thrown := by
  intro state start
  obtain ⟨outcome, reached, ran, holds⟩ := starts state start
  rw [execute_bind, ran, Option.bind_some]
  cases outcome with
  | ok value => exact continues value reached holds
  | error failure => exact ⟨.error failure, reached, rfl, holds⟩

theorem execute_catch (code : Computation Failure State Value)
    (handler : Failure → Computation Failure State Value) (state : State) :
    execute (tryCatch code handler) state =
      (execute code state).bind fun (outcome, reached) => match outcome with
        | .ok value => some (.ok value, reached)
        | .error failure => execute (handler failure) reached := by
  change (code.run.run state).bind _ = (code.run.run state).bind _
  congr 1
  funext pair
  rcases pair with ⟨outcome, reached⟩
  cases outcome <;> rfl

theorem triple_catch {code : Computation Failure State Value}
    {handler : Failure → Computation Failure State Value} {caught : Failure → State → Prop}
    (runs : Triple before code returned caught)
    (handles : ∀ failure, Triple (caught failure) (handler failure) returned thrown) :
    Triple before (tryCatch code handler) returned thrown := by
  intro state start
  obtain ⟨outcome, reached, ran, holds⟩ := runs state start
  rw [execute_catch, ran, Option.bind_some]
  cases outcome with
  | ok value => exact ⟨.ok value, reached, rfl, holds⟩
  | error failure => exact handles failure reached holds

theorem triple_implies {code : Computation Failure State Value} {reached after : State → Prop}
    (runs : Triple before code (fun _ => reached) (fun _ => reached))
    (implies : ∀ state, reached state → after state) :
    Triple before code (fun _ => after) (fun _ => after) := by
  intro state start
  obtain ⟨outcome, finish, ran, holds⟩ := runs state start
  refine ⟨outcome, finish, ran, ?_⟩
  cases outcome with
  | ok value => exact implies finish holds
  | error failure => exact implies finish holds

theorem triple_update {change : State → State} {after : Unit → State → Prop}
    (holds : ∀ state, before state → after () (change state)) :
    Triple before (update change : Computation Failure State Unit) after thrown := by
  intro state start
  exact ⟨.ok (), change state, rfl, holds state start⟩

theorem triple_within {view : State → Part} {put : Part → State → State}
    {call : Call Failure Part Value}
    (returns : ∀ state value part, before state →
      call.run.run (view state) = (.ok value, part) → returned value (put part state))
    (throws : ∀ state failure part, before state →
      call.run.run (view state) = (.error failure, part) → thrown failure (put part state)) :
    Triple before (within view put call) returned thrown := by
  intro state start
  rcases ran : call.run.run (view state) with ⟨outcome, part⟩
  have executed : execute (within view put call) state = some (outcome, put part state) := by
    simp only [execute, within, ExceptT.run, StateT.run] at ran ⊢
    rw [ran]
  refine ⟨outcome, put part state, executed, ?_⟩
  cases outcome with
  | ok value => exact returns state value part start ran
  | error failure => exact throws state failure part start ran

end Rules

section Invariants

/-- The computation has a result, and the invariant holds after it if it did before. -/
def Keeps (invariant : State → Prop) (code : Computation Failure State Value) : Prop :=
  Triple invariant code (fun _ => invariant) (fun _ => invariant)

variable {invariant : State → Prop}

theorem keeps_pure (value : Value) :
    Keeps invariant (pure value : Computation Failure State Value) :=
  triple_pure fun _ holds => holds

theorem keeps_throw (failure : Failure) :
    Keeps invariant (throw failure : Computation Failure State Value) :=
  triple_throw fun _ holds => holds

theorem keeps_bind {first : Computation Failure State Value}
    {rest : Value → Computation Failure State Result} (starts : Keeps invariant first)
    (continues : ∀ value, Keeps invariant (rest value)) : Keeps invariant (first >>= rest) :=
  triple_bind starts continues

theorem keeps_catch {code : Computation Failure State Value}
    {handler : Failure → Computation Failure State Value} (runs : Keeps invariant code)
    (handles : ∀ failure, Keeps invariant (handler failure)) :
    Keeps invariant (tryCatch code handler) :=
  triple_catch runs handles

theorem keeps_update {change : State → State}
    (kept : ∀ state, invariant state → invariant (change state)) :
    Keeps invariant (update change : Computation Failure State Unit) :=
  triple_update kept

theorem keeps_within {view : State → Part} {put : Part → State → State}
    {call : Call Failure Part Value}
    (kept : ∀ state, invariant state → invariant (put (call.run.run (view state)).2 state)) :
    Keeps invariant (within view put call) := by
  apply triple_within
  · intro state value part holds ran
    have after := kept state holds
    rwa [ran] at after
  · intro state failure part holds ran
    have after := kept state holds
    rwa [ran] at after

end Invariants

section PartialCorrectness

/-- If the computation has a result from a state in `before`, the state is then in `returned`
or in `thrown`. -/
def Ensures (before : State → Prop) (code : Computation Failure State Value)
    (returned : Value → State → Prop) (thrown : Failure → State → Prop) : Prop :=
  ∀ state outcome after, before state → execute code state = some (outcome, after) →
    match outcome with
    | .ok value => returned value after
    | .error failure => thrown failure after

variable {before : State → Prop} {returned : Value → State → Prop}
  {thrown : Failure → State → Prop}

theorem ensures_pure {value : Value} (holds : ∀ state, before state → returned value state) :
    Ensures before (pure value : Computation Failure State Value) returned thrown := by
  intro state outcome after start ran
  cases ran
  exact holds state start

theorem ensures_throw {failure : Failure} (holds : ∀ state, before state → thrown failure state) :
    Ensures before (throw failure : Computation Failure State Value) returned thrown := by
  intro state outcome after start ran
  cases ran
  exact holds state start

theorem ensures_undefined :
    Ensures before (undefined : Computation Failure State Value) returned thrown := by
  intro state outcome after start ran
  cases ran

theorem ensures_update {change : State → State} {after : Unit → State → Prop}
    (holds : ∀ state, before state → after () (change state)) :
    Ensures before (update change : Computation Failure State Unit) after thrown := by
  intro state outcome finish start ran
  cases ran
  exact holds state start

theorem ensures_bind {first : Computation Failure State Value}
    {rest : Value → Computation Failure State Result} {after : Result → State → Prop}
    (starts : Ensures before first returned thrown)
    (continues : ∀ value, Ensures (returned value) (rest value) after thrown) :
    Ensures before (first >>= rest) after thrown := by
  intro state outcome finish start ran
  rw [execute_bind, Option.bind_eq_some_iff] at ran
  obtain ⟨⟨early, reached⟩, ended, ran⟩ := ran
  have holds := starts state early reached start ended
  cases early with
  | ok value => exact continues value reached outcome finish holds ran
  | error failure =>
      cases ran
      exact holds

theorem ensures_fixed {code : Computation Failure State Value}
    (runs : ∀ state, before state → Ensures (· = state) code returned thrown) :
    Ensures before code returned thrown := by
  intro state outcome after start ran
  exact runs state start state outcome after rfl ran

/-- The code that follows a look at the state may use that the state has not changed yet. -/
theorem ensures_read {rest : State → Computation Failure State Result}
    {after : Result → State → Prop}
    (continues : ∀ state, before state → Ensures (· = state) (rest state) after thrown) :
    Ensures before (readState >>= rest) after thrown := by
  intro state outcome finish start ran
  exact continues state start state outcome finish rfl ran

theorem ensures_starts {code : Computation Failure State Value} {earlier : State → Prop}
    (runs : Ensures before code returned thrown)
    (implies : ∀ state, earlier state → before state) :
    Ensures earlier code returned thrown := by
  intro state outcome after start ran
  exact runs state outcome after (implies state start) ran

end PartialCorrectness

end Mir.Computations
