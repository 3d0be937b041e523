import Mathlib.Data.List.Induction

/-!
# Runs of guarded step functions

A system is a step function `State → Label → Option State`: `none` says that
the label is not enabled. Every choice the environment makes (which thread
moves, which value an operation returned) is part of the label, so a run is a
list of labels and nothing else has to be remembered to replay it.
-/

namespace Mir.TransitionRuns

set_option autoImplicit false

variable {State Label Abstract Move Answer : Type*}

def run (step : State → Label → Option State) (start : State) (labels : List Label) :
    Option State :=
  labels.foldlM step start

@[simp] theorem run_nil (step : State → Label → Option State) (start : State) :
    run step start [] = some start := rfl

theorem run_cons (step : State → Label → Option State) (start : State)
    (label : Label) (rest : List Label) :
    run step start (label :: rest) =
      (step start label).bind fun next => run step next rest := rfl

theorem run_append (step : State → Label → Option State) (start : State)
    (first second : List Label) :
    run step start (first ++ second) =
      (run step start first).bind fun middle => run step middle second := by
  unfold run
  rw [List.foldlM_append]
  rfl

theorem run_single (step : State → Label → Option State) (start : State) (label : Label) :
    run step start [label] = step start label := by
  rw [run_cons]
  cases step start label <;> rfl

theorem run_snoc (step : State → Label → Option State) (start : State)
    (labels : List Label) (label : Label) :
    run step start (labels ++ [label]) =
      (run step start labels).bind fun last => step last label := by
  rw [run_append]
  congr 1
  funext middle
  exact run_single step middle label

theorem run_snoc_some {step : State → Label → Option State} {start finish : State}
    {labels : List Label} {label : Label}
    (ran : run step start (labels ++ [label]) = some finish) :
    ∃ last, run step start labels = some last ∧ step last label = some finish := by
  rw [run_snoc, Option.bind_eq_some_iff] at ran
  exact ran

theorem run_append_some {step : State → Label → Option State} {start finish : State}
    {first second : List Label} (ran : run step start (first ++ second) = some finish) :
    ∃ middle, run step start first = some middle ∧ run step middle second = some finish := by
  rw [run_append, Option.bind_eq_some_iff] at ran
  exact ran

theorem run_cons_some {step : State → Label → Option State} {start finish : State}
    {label : Label} {rest : List Label} (ran : run step start (label :: rest) = some finish) :
    ∃ next, step start label = some next ∧ run step next rest = some finish := by
  rw [run_cons, Option.bind_eq_some_iff] at ran
  exact ran

theorem run_trans {step : State → Label → Option State} {start middle finish : State}
    {first second : List Label} (before : run step start first = some middle)
    (after : run step middle second = some finish) :
    run step start (first ++ second) = some finish := by
  rw [run_append, before]
  exact after

/-- The induction every safety result goes through. The invariant may mention
the labels executed so far, which makes history variables unnecessary. -/
theorem run_history_invariant {step : State → Label → Option State} {start : State}
    (invariant : List Label → State → Prop) (initial : invariant [] start)
    (preserved : ∀ history state label next, invariant history state →
      step state label = some next → invariant (history ++ [label]) next)
    {labels : List Label} {finish : State} (ran : run step start labels = some finish) :
    invariant labels finish := by
  induction labels using List.reverseRecOn generalizing finish with
  | nil =>
      have same : start = finish := by simpa using ran
      exact same ▸ initial
  | append_singleton history label ih =>
      obtain ⟨last, reached, stepped⟩ := run_snoc_some ran
      exact preserved history last label finish (ih reached) stepped

theorem run_reached_invariant {step : State → Label → Option State} {start : State}
    (invariant : List Label → State → Prop) (initial : invariant [] start)
    (preserved : ∀ history state label next, run step start history = some state →
      invariant history state → step state label = some next →
      invariant (history ++ [label]) next)
    {labels : List Label} {finish : State} (ran : run step start labels = some finish) :
    invariant labels finish := by
  have both : run step start labels = some finish ∧ invariant labels finish := by
    apply run_history_invariant
      (fun history state => run step start history = some state ∧ invariant history state)
      ⟨rfl, initial⟩ _ ran
    rintro history state label next ⟨reached, holds⟩ stepped
    refine ⟨?_, preserved history state label next reached holds stepped⟩
    rw [run_snoc, reached]
    exact stepped
  exact both.2

theorem run_invariant {step : State → Label → Option State} {start : State}
    (invariant : State → Prop) (initial : invariant start)
    (preserved : ∀ state label next, invariant state →
      step state label = some next → invariant next)
    {labels : List Label} {finish : State} (ran : run step start labels = some finish) :
    invariant finish :=
  run_history_invariant (fun _ => invariant) initial
    (fun _ state label next holds stepped => preserved state label next holds stepped) ran

theorem split_last {history earlier later : List Label} {label event : Label}
    (split : history ++ [label] = earlier ++ event :: later) :
    later = [] ∧ history = earlier ∧ label = event ∨
      ∃ rest, later = rest ++ [label] ∧ history = earlier ++ event :: rest := by
  rcases List.eq_nil_or_concat later with rfl | ⟨rest, last, rfl⟩
  · obtain ⟨same, events⟩ := List.append_inj' split rfl
    exact .inl ⟨rfl, same, (List.cons.inj events).1⟩
  · rw [List.concat_eq_append, ← List.cons_append, ← List.append_assoc] at split
    obtain ⟨same, events⟩ := List.append_inj' split rfl
    cases events
    exact .inr ⟨rest, List.concat_eq_append, same⟩

/-- At every moment of a run. -/
def Always (step : State → Label → Option State) (start : State) (good : State → Prop)
    (labels : List Label) : Prop :=
  ∀ earlier later state, labels = earlier ++ later →
    run step start earlier = some state → good state

/-- No such step is taken in a run. -/
def Never (step : State → Label → Option State) (start : State) (bad : State → Label → Prop)
    (labels : List Label) : Prop :=
  ∀ earlier label later state next, labels = earlier ++ label :: later →
    run step start earlier = some state → step state label = some next → ¬bad state label

theorem never_snoc {step : State → Label → Option State} {start : State}
    {bad : State → Label → Prop} {history : List Label} {label : Label} {last next : State}
    (reached : run step start history = some last) (stepped : step last label = some next) :
    Never step start bad (history ++ [label]) ↔
      Never step start bad history ∧ ¬bad last label := by
  constructor
  · intro never
    constructor
    · intro earlier event later state after split
      exact never earlier event (later ++ [label]) state after (by rw [split]; simp)
    · exact never history label [] last next rfl reached stepped
  · rintro ⟨never, fine⟩ earlier event later state after split ran taken
    rcases split_last split with ⟨rfl, rfl, rfl⟩ | ⟨rest, -, sooner⟩
    · have same : last = state := Option.some.inj (reached.symm.trans ran)
      exact same ▸ fine
    · exact never earlier event rest state after sooner ran taken

/-- The bad steps are exactly the ones that break what should always hold. `sound` is an
invariant that only a bad step ends. -/
theorem always_iff_never {step : State → Label → Option State} {start : State}
    {good : State → Prop} {bad : State → Label → Prop} (sound : State → Prop)
    (initial : sound start) (implied : ∀ state, sound state → good state)
    (kept : ∀ history state label next, run step start history = some state → sound state →
      step state label = some next → ¬bad state label → sound next)
    (broken : ∀ history state label next, run step start history = some state → sound state →
      step state label = some next → bad state label → ¬good next)
    (labels : List Label) :
    Always step start good labels ↔ Never step start bad labels := by
  have reached : ∀ {history : List Label} {state : State}, run step start history = some state →
      Never step start bad history → sound state := by
    intro history state ran
    apply run_reached_invariant (fun past last => Never step start bad past → sound last)
      (fun _ => initial) _ ran
    intro past last label next before holds stepped never
    obtain ⟨sooner, fine⟩ := (never_snoc before stepped).mp never
    exact kept past last label next before (holds sooner) stepped fine
  constructor
  · intro always
    induction labels using List.reverseRecOn with
    | nil =>
        intro earlier event later state next split
        simp at split
    | append_singleton history label ih =>
        have before : Never step start bad history := by
          apply ih
          intro earlier later state split
          exact always earlier (later ++ [label]) state (by rw [split, List.append_assoc])
        intro earlier event later state next split ran stepped
        rcases split_last split with ⟨rfl, rfl, rfl⟩ | ⟨rest, -, sooner⟩
        · intro loses
          apply broken history state label next ran (reached ran before) stepped loses
          apply always (history ++ [label]) [] next (by simp)
          rw [run_snoc, ran]
          exact stepped
        · exact before earlier event rest state next sooner ran stepped
  · rintro never earlier later state rfl ran
    apply implied state
    apply reached ran
    intro first event rest middle after split
    exact never first event (rest ++ later) middle after (by rw [split]; simp)

/-- A discipline that the callers keep: labels it does not allow are disabled. -/
def restrict (allowed : State → Label → Bool) (step : State → Label → Option State)
    (state : State) (label : Label) : Option State :=
  if allowed state label then step state label else none

theorem restrict_some {allowed : State → Label → Bool} {step : State → Label → Option State}
    {state next : State} {label : Label} :
    restrict allowed step state label = some next ↔
      allowed state label = true ∧ step state label = some next := by
  unfold restrict
  split_ifs with permitted <;> simp [permitted]

/-- Forward simulation in which one label may stand for several abstract moves.
`view` is the abstraction, and `good` is an invariant already known of the run. -/
theorem run_simulates {step : State → Label → Option State}
    (abstractStep : Abstract → Move → Option Abstract)
    (good : State → Prop) (view : State → Abstract) (moves : Label → List Move)
    (preserved : ∀ state label next, good state →
      step state label = some next → good next)
    (simulated : ∀ state label next, good state → step state label = some next →
      run abstractStep (view state) (moves label) = some (view next))
    {start finish : State} (initial : good start) {labels : List Label}
    (ran : run step start labels = some finish) :
    run abstractStep (view start) (labels.flatMap moves) = some (view finish) ∧ good finish := by
  apply run_history_invariant
    (fun history state =>
      run abstractStep (view start) (history.flatMap moves) = some (view state) ∧ good state)
    ⟨by simp, initial⟩ _ ran
  rintro history state label next ⟨matched, holds⟩ stepped
  refine ⟨?_, preserved state label next holds stepped⟩
  rw [List.flatMap_append]
  apply run_trans matched
  simpa using simulated state label next holds stepped

/-- Calls on an object, together with the answers they have given so far. -/
def recording (call : State → Label → Option (Answer × State))
    (recorded : State × List Answer) (label : Label) : Option (State × List Answer) :=
  (call recorded.1 label).map fun result => (result.2, recorded.2 ++ [result.1])

theorem recording_some {call : State → Label → Option (Answer × State)}
    {recorded next : State × List Answer} {label : Label} :
    recording call recorded label = some next ↔
      ∃ answer, call recorded.1 label = some (answer, next.1) ∧
        next.2 = recorded.2 ++ [answer] := by
  rw [recording, Option.map_eq_some_iff]
  constructor
  · rintro ⟨⟨answer, after⟩, called, rfl⟩
    exact ⟨answer, called, rfl⟩
  · rintro ⟨answer, called, answers⟩
    exact ⟨(answer, next.1), called, by rw [← answers]⟩

section Refinement

/-! An object and the calls it is specified by. `refines` relates the two, and `bad` are
the calls on which the object does not do what is specified. -/

variable {call : State → Label → Option (Answer × State)}
  {specified : Abstract → Label → Option (Answer × Abstract)}
  {refines : State → Abstract → Prop} {bad : Abstract → Label → Prop}
  {start : State} {abstract : Abstract} (initial : refines start abstract)
  (kept : ∀ state view label answer after, refines state view →
    specified view label = some (answer, after) → ¬bad view label →
    ∃ next, call state label = some (answer, next) ∧ refines next after)
  (broken : ∀ state view label, refines state view → bad view label → call state label = none)
  {labels : List Label} {finish : Abstract × List Answer}
  (ran : run (recording specified) (abstract, []) labels = some finish)

include initial kept ran

theorem refines_while_never
    (never : Never (recording specified) (abstract, []) (fun view => bad view.1) labels) :
    ∃ last, run (recording call) (start, []) labels = some (last, finish.2) ∧
      refines last finish.1 := by
  induction labels using List.reverseRecOn generalizing finish with
  | nil =>
      cases ran
      exact ⟨start, rfl, initial⟩
  | append_singleton history label ih =>
      obtain ⟨view, reached, stepped⟩ := run_snoc_some ran
      obtain ⟨before, fine⟩ := (never_snoc reached stepped).mp never
      obtain ⟨state, matched, related⟩ := ih reached before
      obtain ⟨answer, answered, answers⟩ := recording_some.mp stepped
      obtain ⟨next, called, still⟩ := kept state view.1 label answer finish.1 related answered fine
      refine ⟨next, ?_, still⟩
      rw [run_snoc, matched]
      exact recording_some.mpr ⟨answer, called, answers⟩

include broken

theorem never_of_performed {performed : State × List Answer}
    (performs : run (recording call) (start, []) labels = some performed) :
    Never (recording specified) (abstract, []) (fun view => bad view.1) labels := by
  induction labels using List.reverseRecOn generalizing finish performed with
  | nil =>
      intro earlier event later state next split
      simp at split
  | append_singleton history label ih =>
      obtain ⟨view, reached, stepped⟩ := run_snoc_some ran
      obtain ⟨middle, before, taken⟩ := run_snoc_some performs
      have never := ih reached before
      -- up to here the object has followed, so that a bad call would have had no result
      obtain ⟨state, matched, related⟩ := refines_while_never initial kept reached never
      refine (never_snoc reached stepped).mpr ⟨never, ?_⟩
      intro loses
      obtain ⟨answer, called, -⟩ := recording_some.mp taken
      have same : middle = (state, view.2) := Option.some.inj (before.symm.trans matched)
      rw [same, broken state view.1 label related loses] at called
      cases called

/-- The object refines its specification on exactly the sequences without a bad call. -/
theorem refines_iff_never :
    (∃ last, run (recording call) (start, []) labels = some (last, finish.2) ∧
      refines last finish.1) ↔
      Never (recording specified) (abstract, []) (fun view => bad view.1) labels := by
  constructor
  · rintro ⟨last, performs, -⟩
    exact never_of_performed initial kept broken ran performs
  · exact refines_while_never initial kept ran

end Refinement

end Mir.TransitionRuns
