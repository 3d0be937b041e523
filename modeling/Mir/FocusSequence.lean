import Mathlib.Data.List.Cycle
import Mir.Computations
import Mir.SessionFocus

/-!
# The order in which the focus goes round

`RegistrationOrderFocusSequence` on pointers: the callbacks of its loops compare and
keep shared pointers, and a null pointer in a variable means that nothing has been kept.
-/

namespace Mir.FocusSequence

open Mir.Computations Mir.SwapperModel
open Mir.ShellSessions hiding focusNext

set_option autoImplicit false

section Searches

/-- The variables of the loop in `predecessor_of`. -/
structure BackwardSearch where
  result : SessionPointer
  last : SessionPointer
  found : Bool

def searchPredecessor (focusedApp : SessionPointer) (search : BackwardSearch)
    (session : SessionPointer) : BackwardSearch :=
  if focusedApp = session then { search with last := session, found := true }
  else if search.found then { search with last := session }
  else { search with last := session, result := session }

def predecessorOf (apps : List SessionPointer) (focusedApp : SessionPointer) :
    Except LogicError SessionPointer :=
  let search := apps.foldl (searchPredecessor focusedApp) ⟨none, none, false⟩
  if search.result.isSome then .ok search.result
  else if search.found then .ok search.last
  else .error ⟨"Invalid session"⟩

end Searches

section Loops

variable {focusedApp : SessionPointer} {apps : List SessionPointer}

/-- The pointer that a loop has seen last. -/
def lastPointer (apps : List SessionPointer) : SessionPointer := apps.getLast?.join

theorem search_predecessor_before (unseen : focusedApp ∉ apps) :
    apps.foldl (searchPredecessor focusedApp) ⟨none, none, false⟩ =
      ⟨lastPointer apps, lastPointer apps, false⟩ := by
  induction apps using List.reverseRecOn with
  | nil => rfl
  | append_singleton initial last ih =>
      simp only [List.mem_append, List.mem_singleton, not_or] at unseen
      rw [List.foldl_append, ih unseen.1]
      simp [searchPredecessor, unseen.2, lastPointer]

theorem search_predecessor_after (search : BackwardSearch) (met : search.found = true) :
    apps.foldl (searchPredecessor focusedApp) search =
      ⟨search.result, apps.getLast?.getD search.last, true⟩ := by
  induction apps using List.reverseRecOn with
  | nil =>
      rcases search with ⟨result, last, found⟩
      cases met
      rfl
  | append_singleton initial last ih =>
      rw [List.foldl_append, ih]
      by_cases same : focusedApp = last
      · simp [searchPredecessor, same]
      · simp [searchPredecessor, same]

variable {before after : List SessionPointer}

theorem predecessor_of_split (unseen : focusedApp ∉ before) :
    predecessorOf (before ++ focusedApp :: after) focusedApp =
      .ok (if (lastPointer before).isSome then lastPointer before
        else after.getLast?.getD focusedApp) := by
  have met : (before ++ focusedApp :: after).foldl (searchPredecessor focusedApp)
      ⟨none, none, false⟩ =
        ⟨lastPointer before, after.getLast?.getD focusedApp, true⟩ := by
    rw [List.foldl_append, search_predecessor_before unseen, List.foldl_cons,
      search_predecessor_after _ (by simp [searchPredecessor])]
    simp [searchPredecessor]
  unfold predecessorOf
  rw [met]
  cases previous : lastPointer before with
  | none => simp
  | some session => simp

theorem predecessor_of_unknown (unseen : focusedApp ∉ apps) :
    predecessorOf apps focusedApp =
      if (lastPointer apps).isSome then .ok (lastPointer apps)
      else .error ⟨"Invalid session"⟩ := by
  unfold predecessorOf
  rw [search_predecessor_before unseen]
  rfl

theorem predecessor_of_known (member : focusedApp ∈ apps) :
    ∃ session, predecessorOf apps focusedApp = .ok session := by
  obtain ⟨before, after, rfl, unseen⟩ := List.eq_append_cons_of_mem member
  exact ⟨_, predecessor_of_split unseen⟩

end Loops

section UnknownSessions

def Throws (outcome : Except LogicError SessionPointer) : Prop :=
  ∃ thrown, outcome = .error thrown

variable {focusedApp : SessionPointer} {apps : List SessionPointer}

theorem not_throws_ok {outcome : Except LogicError SessionPointer}
    (returned : ∃ session, outcome = .ok session) : ¬Throws outcome := by
  rintro ⟨thrown, failed⟩
  obtain ⟨session, succeeded⟩ := returned
  rw [succeeded] at failed
  cases failed

theorem successor_throws_iff : Throws (successorOf apps focusedApp) ↔ focusedApp ∉ apps := by
  constructor
  · intro thrown member
    exact not_throws_ok (successor_of_known member) thrown
  · intro unseen
    exact ⟨_, successor_of_unknown unseen⟩

/-- `predecessor_of` has kept the last session when it has not met the given one, and
tests that first. -/
theorem predecessor_throws_iff :
    Throws (predecessorOf apps focusedApp) ↔ focusedApp ∉ apps ∧ lastPointer apps = none := by
  constructor
  · intro thrown
    have unseen : focusedApp ∉ apps := by
      intro member
      exact not_throws_ok (predecessor_of_known member) thrown
    refine ⟨unseen, ?_⟩
    rw [predecessor_of_unknown unseen] at thrown
    cases last : lastPointer apps with
    | none => rfl
    | some session =>
        rw [last] at thrown
        exact absurd thrown (not_throws_ok ⟨_, rfl⟩)
  · rintro ⟨unseen, missing⟩
    rw [predecessor_of_unknown unseen, missing]
    exact ⟨_, rfl⟩

theorem unknown_session_rejected_iff (apps : List SessionPointer) (focusedApp : SessionPointer) :
    ((Throws (successorOf apps focusedApp) ↔ focusedApp ∉ apps) ∧
        (Throws (predecessorOf apps focusedApp) ↔ focusedApp ∉ apps)) ↔
      focusedApp ∈ apps ∨ lastPointer apps = none := by
  rw [successor_throws_iff, predecessor_throws_iff]
  tauto

/-- Of one session that is open, another session and a null pointer have it as predecessor. -/
theorem predecessor_of_unknown_session :
    some 1 ∉ [some 0] ∧ successorOf [some 0] (some 1) = .error ⟨"Invalid session"⟩ ∧
      predecessorOf [some 0] (some 1) = .ok (some 0) ∧
      predecessorOf [some 0] none = .ok (some 0) :=
  ⟨by decide, rfl, rfl, rfl⟩

end UnknownSessions

section Cycle

variable {apps : List SessionKey} {session : SessionKey}

theorem first_session_pointers : firstSession (pointers apps) = apps.head? := by
  cases apps <;> rfl

theorem last_pointer_pointers : lastPointer (pointers apps) = apps.getLast? := by
  unfold lastPointer pointers
  rw [List.getLast?_map]
  cases apps.getLast? <;> rfl

theorem unseen_before {before after : List SessionKey}
    (distinct : (before ++ session :: after).Nodup) : session ∉ before := by
  intro earlier
  exact (List.nodup_append.mp distinct).2.2 session earlier session (by simp) rfl

theorem place_of_split {before after : List SessionKey} (unseen : session ∉ before) :
    (before ++ session :: after).idxOf session = before.length := by
  rw [List.idxOf_append_of_notMem unseen, List.idxOf_cons_self, Nat.add_zero]

theorem successor_of_eq_next (distinct : apps.Nodup) (member : session ∈ apps) :
    successorOf (pointers apps) (some session) = .ok (some (apps.next session member)) := by
  obtain ⟨before, after, rfl⟩ := List.append_of_mem member
  have unseen := unseen_before distinct
  rw [pointers_split, successor_of_split (mem_pointers.not.mpr unseen), first_session_pointers]
  congr 1
  rw [List.next_eq_getElem member, ← List.getElem?_eq_getElem, place_of_split unseen]
  cases after with
  | nil =>
      have whole : pointers before ++ [some session] = pointers (before ++ [session]) := by
        simp [pointers]
      simp [whole, first_session_pointers, List.head?_eq_getElem?]
  | cons next rest =>
      have inside : before.length + 1 < (before ++ session :: next :: rest).length := by simp
      rw [Nat.mod_eq_of_lt inside]
      simp

theorem predecessor_of_eq_prev (distinct : apps.Nodup) (member : session ∈ apps) :
    predecessorOf (pointers apps) (some session) = .ok (some (apps.prev session member)) := by
  obtain ⟨before, after, rfl⟩ := List.append_of_mem member
  have unseen := unseen_before distinct
  rw [pointers_split, predecessor_of_split (mem_pointers.not.mpr unseen), last_pointer_pointers]
  congr 1
  rw [List.prev_eq_getElem member, ← List.getElem?_eq_getElem, place_of_split unseen]
  cases before using List.reverseRecOn with
  | nil =>
      have last : (pointers after).getLast?.getD (some session) = (session :: after).getLast? := by
        cases after using List.reverseRecOn with
        | nil => rfl
        | append_singleton rest last _ => simp [pointers, List.getLast?_cons]
      change (pointers after).getLast?.getD (some session) = _
      rw [last, List.getLast?_eq_getElem?]
      simp
  | append_singleton rest previous _ =>
      have wraps : (rest ++ [previous]).length +
          ((rest ++ [previous] ++ session :: after).length - 1) =
            rest.length + (rest ++ [previous] ++ session :: after).length := by
        simp only [List.length_append, List.length_cons, List.length_nil]
        omega
      have inside : rest.length < (rest ++ [previous] ++ session :: after).length := by
        simp only [List.length_append, List.length_cons]
        omega
      rw [wraps, Nat.add_mod_right, Nat.mod_eq_of_lt inside]
      simp

/-- The sessions that follow one in the order of registration, from the first one again
after the last, up to itself. -/
def roundFrom (apps : List SessionKey) (session : SessionKey) : List SessionKey :=
  apps.rotate (apps.idxOf session + 1)

theorem round_split {before after : List SessionKey} (unseen : session ∉ before) :
    roundFrom (before ++ session :: after) session = after ++ (before ++ [session]) := by
  have whole : before ++ session :: after = before ++ [session] ++ after := by simp
  unfold roundFrom
  rw [place_of_split unseen, whole, ← List.rotate_append_length_eq (before ++ [session]) after,
    List.length_append]
  rfl

theorem round_complete (member : session ∈ apps) :
    (roundFrom apps session).getLast? = some session ∧ (roundFrom apps session).Perm apps := by
  constructor
  · obtain ⟨before, after, rfl, unseen⟩ := List.eq_append_cons_of_mem member
    rw [round_split unseen]
    simp
  · exact List.rotate_perm apps _

theorem successor_of_get (distinct : apps.Nodup) (positive : 0 < apps.length) (index : Nat) :
    successorOf (pointers apps) (some (apps.get ⟨index % apps.length, Nat.mod_lt _ positive⟩)) =
      .ok (some (apps.get ⟨(index + 1) % apps.length, Nat.mod_lt _ positive⟩)) := by
  rw [successor_of_eq_next distinct (List.get_mem _ _)]
  simp only [List.get_eq_getElem]
  rw [List.next_getElem apps distinct]
  simp

theorem successive_successors (distinct : apps.Nodup) (member : session ∈ apps) :
    successive (successorOf (pointers apps)) apps.length (some session) =
      .ok (pointers (roundFrom apps session)) := by
  have positive : 0 < apps.length := List.length_pos_of_mem member
  have place : apps.idxOf session < apps.length := List.idxOf_lt_length_of_mem member
  have orbit := successive_orbit
    (fun index => some (apps.get ⟨index % apps.length, Nat.mod_lt _ positive⟩))
    (successor_of_get distinct positive) apps.length (apps.idxOf session)
  have start : apps.get ⟨apps.idxOf session % apps.length, Nat.mod_lt _ positive⟩ = session := by
    simp [Nat.mod_eq_of_lt place]
  rw [start] at orbit
  rw [orbit]
  congr 1
  apply List.ext_getElem
  · simp [pointers, roundFrom]
  · intro index _ _
    simp [pointers, roundFrom, List.getElem_rotate, Nat.add_comm]

/-- What the sequence is for: at a session of the container it goes forth and back, and
a round of it meets every session. -/
structure Cyclic (apps : List SessionKey) (session : SessionKey) : Prop where
  forth : ∃ next ∈ apps, successorOf (pointers apps) (some session) = .ok (some next) ∧
    predecessorOf (pointers apps) (some next) = .ok (some session)
  back : ∃ previous ∈ apps, predecessorOf (pointers apps) (some session) = .ok (some previous) ∧
    successorOf (pointers apps) (some previous) = .ok (some session)
  round : successive (successorOf (pointers apps)) apps.length (some session) =
    .ok (pointers (roundFrom apps session))
  returns : (roundFrom apps session).getLast? = some session
  complete : (roundFrom apps session).Perm apps

theorem focus_sequence_cyclic (distinct : apps.Nodup) (member : session ∈ apps) :
    Cyclic apps session where
  forth := by
    refine ⟨apps.next session member, List.next_mem _ _ _, ?_, ?_⟩
    · exact successor_of_eq_next distinct member
    · rw [predecessor_of_eq_prev distinct (List.next_mem _ _ _), List.prev_next apps distinct]
  back := by
    refine ⟨apps.prev session member, List.prev_mem _ _ _, ?_, ?_⟩
    · exact predecessor_of_eq_prev distinct member
    · rw [successor_of_eq_next distinct (List.prev_mem _ _ _), List.next_prev apps distinct]
  round := successive_successors distinct member
  returns := (round_complete member).1
  complete := (round_complete member).2

end Cycle

section Rounds

open Mir.TransitionRuns
open Mir.SessionFocus (SessionManager noSessions focusNext)

def focused (manager : SessionManager) : SessionPointer := manager.shell.focusApplication

/-- While a session is focused, `focus_next` moves the focus as `successor_of` says. -/
theorem focus_next_follows {apps : List SessionKey} {manager : SessionManager}
    {next : SessionPointer} (listed : manager.shell.apps = apps)
    (succeeded : successorOf (pointers apps) (focused manager) = .ok next) :
    ∃ after, focusNext manager = .ok after ∧ focused after = next ∧ after.shell.apps = apps := by
  unfold focused at succeeded
  cases focus : manager.shell.focusApplication with
  | none =>
      have unseen : none ∉ pointers apps := by simp [pointers]
      rw [focus, successor_of_unknown unseen] at succeeded
      cases succeeded
  | some session =>
      rw [focus] at succeeded
      refine ⟨{ manager with shell := setFocusTo manager.shell next }, ?_, rfl, listed⟩
      simp [focusNext, ShellSessions.focusNext, focus, listed, succeeded, Except.map]

theorem focus_goes_round :
    (∀ (apps : List SessionKey) (session : SessionKey), apps.Nodup → session ∈ apps →
        Cyclic apps session) ∧
      (∀ apps, defaultFocus apps = apps.getLast?) ∧
      (∀ (operations : List SessionFocus.Operation) (manager : SessionManager),
        run (restrict SessionFocus.givenOpen SessionFocus.step) noSessions operations =
          some manager → manager.shell.apps.Nodup) ∧
      ∀ (manager : SessionManager) (session : SessionKey), manager.shell.apps.Nodup →
        session ∈ manager.shell.apps → focused manager = some session →
        ∃ managers, successive focusNext manager.shell.apps.length manager = .ok managers ∧
          managers.map focused = pointers (roundFrom manager.shell.apps session) := by
  refine ⟨fun apps session => focus_sequence_cyclic, default_focus_eq, ?_, ?_⟩
  · intro operations manager ran
    rw [(SessionFocus.run_kept ran).listed]
    exact SessionFocus.open_sessions_nodup operations
  · intro manager session distinct member focus
    have round := successive_successors distinct member
    rw [← focus] at round
    exact successive_view (fun state => state.shell.apps = manager.shell.apps)
      (fun state next listed => focus_next_follows listed) rfl round

/-- Three sessions, with the focus on the second. -/
theorem three_sessions_go_round :
    Cyclic [0, 1, 2] 1 ∧ ∃ manager managers,
      run (restrict SessionFocus.givenOpen SessionFocus.step) noSessions
        [.openSession, .openSession, .openSession, .focusNext, .focusNext] = some manager ∧
      successive focusNext 3 manager = .ok managers ∧
      managers.map focused = [some 2, some 0, some 1] := by
  obtain ⟨cyclic, -, distinct, rounds⟩ := focus_goes_round
  obtain ⟨manager, ran, listed, focus⟩ : ∃ manager,
      run (restrict SessionFocus.givenOpen SessionFocus.step) noSessions
        [.openSession, .openSession, .openSession, .focusNext, .focusNext] = some manager ∧
      manager.shell.apps = [0, 1, 2] ∧ focused manager = some 1 := ⟨_, rfl, rfl, rfl⟩
  obtain ⟨managers, called, visited⟩ :=
    rounds manager 1 (distinct _ manager ran) (by simp [listed]) focus
  rw [listed] at called visited
  exact ⟨cyclic [0, 1, 2] 1 (by decide) (by decide), manager, managers, ran, called, visited⟩

end Rounds

end Mir.FocusSequence
