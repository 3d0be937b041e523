import Mathlib.Data.List.Rotate
import Mir.Circulation

/-!
# The cyclic order of a circulation

With one producer and one consumer, each holding one item at most, the four
places read in the order `ready`, `shown`, `posted`, `drawn` form one cyclic
list. Only a `take` moves the point at which the cycle is cut, so the producer is
handed the items in turn, whatever the consumer does.
-/

namespace Mir.CirculationRotation

open Mir.TransitionRuns Mir.Circulation

set_option autoImplicit false

variable {Item : Type*}

section Turns

/-- The sequence goes through `items` in order, over and over again. -/
def InTurn (items sequence : List Item) : Prop :=
  ∀ index < sequence.length, sequence[index]? = items[index % items.length]?

theorem in_turn_nil (items : List Item) : InTurn items [] := by
  intro index inside
  simp at inside

theorem in_turn_snoc {items sequence : List Item} {item : Item} :
    InTurn items (sequence ++ [item]) ↔
      InTurn items sequence ∧ items[sequence.length % items.length]? = some item := by
  constructor
  · intro turns
    constructor
    · intro index inside
      have same := turns index (by simp only [List.length_append]; omega)
      rwa [List.getElem?_append_left inside] at same
    · have same := turns sequence.length (by simp)
      simpa using same.symm
  · rintro ⟨turns, last⟩ index inside
    rw [List.length_append, List.length_singleton] at inside
    rcases Nat.lt_succ_iff_lt_or_eq.mp inside with earlier | rfl
    · rw [List.getElem?_append_left earlier]
      exact turns index earlier
    · rw [last]
      simp

theorem in_turn_map {Image : Type*} (f : Item → Image) {items sequence : List Item}
    (turns : InTurn items sequence) : InTurn (items.map f) (sequence.map f) := by
  intro index inside
  rw [List.length_map] at inside
  rw [List.getElem?_map, List.getElem?_map, List.length_map, turns index inside]

theorem in_turn_initial {items first sequence : List Item} (initial : first <+: sequence)
    (turns : InTurn items sequence) : InTurn items first := by
  intro index inside
  rw [← turns index (inside.trans_le initial.length_le), List.getElem?_eq_getElem inside]
  exact (List.prefix_iff_getElem?.mp initial index inside).symm

theorem turn_eq_iff {items : List Item} (distinct : items.Nodup) (nonempty : items ≠ [])
    (left right : Nat) :
    items[left % items.length]? = items[right % items.length]? ↔
      left % items.length = right % items.length := by
  have positive := List.length_pos_iff.mpr nonempty
  rw [List.getElem?_eq_getElem (Nat.mod_lt left positive),
    List.getElem?_eq_getElem (Nat.mod_lt right positive), Option.some_inj, distinct.getElem_inj_iff]

theorem in_turn_fresh {items sequence : List Item} {item : Item} (distinct : items.Nodup)
    (turns : InTurn items (sequence ++ [item])) (early : sequence.length < items.length) :
    item ∉ sequence := by
  intro member
  obtain ⟨index, found⟩ := List.mem_iff_getElem?.mp member
  obtain ⟨inside, -⟩ := List.getElem?_eq_some_iff.mp found
  obtain ⟨before, last⟩ := in_turn_snoc.mp turns
  have nonempty : items ≠ [] := List.length_pos_iff.mp (by omega)
  have same := (before index inside).symm.trans (found.trans last.symm)
  rw [turn_eq_iff distinct nonempty, Nat.mod_eq_of_lt (by omega), Nat.mod_eq_of_lt early] at same
  omega

/-- After the first round each item comes back one round after its last turn. -/
theorem in_turn_back [DecidableEq Item] {items sequence : List Item} {item : Item}
    (distinct : items.Nodup) (nonempty : items ≠ [])
    (turns : InTurn items (sequence ++ [item])) (late : items.length ≤ sequence.length) :
    sequence.reverse.idxOf item + 1 = items.length := by
  obtain ⟨before, last⟩ := in_turn_snoc.mp turns
  have positive := List.length_pos_iff.mpr nonempty
  have backwards : ∀ index < items.length, sequence.reverse[index]? =
      items[(sequence.length - 1 - index) % items.length]? := by
    intro index inside
    rw [List.getElem?_reverse (by omega)]
    exact before _ (by omega)
  have position : sequence.reverse.idxOf item = items.length - 1 := by
    have bound : items.length - 1 < sequence.reverse.length := by
      rw [List.length_reverse]
      omega
    rw [List.idxOf, List.findIdx_eq bound]
    constructor
    · have same := backwards (items.length - 1) (by omega)
      rw [show sequence.length - 1 - (items.length - 1) = sequence.length - items.length by omega,
        ← Nat.mod_eq_sub_mod late, last, List.getElem?_eq_getElem bound, Option.some_inj] at same
      exact beq_iff_eq.mpr same
    · intro index inside
      rw [beq_eq_false_iff_ne]
      intro same
      have there := backwards index (by omega)
      rw [List.getElem?_eq_getElem (by omega), same, ← last, eq_comm,
        turn_eq_iff distinct nonempty] at there
      have gap := Nat.sub_mod_eq_zero_of_mod_eq there.symm
      rw [show sequence.length - (sequence.length - 1 - index) = index + 1 by omega] at gap
      rw [Nat.mod_eq_of_lt (by omega)] at gap
      omega
  omega

end Turns

section Cycle

variable [DecidableEq Item]

def cycle (state : Stock Item) : List Item :=
  state.ready ++ state.shown ++ state.posted ++ state.drawn

/-- One producer, one consumer, and nothing posted is taken back. -/
def alternating (state : Stock Item) (move : Move Item) : Bool :=
  singleConsumer state move && singleProducer state move && move != .reclaim

theorem moved_cycle {limit : Nat} {state next : Stock Item} {move : Move Item}
    (moved : Moved limit state move next) (allowed : alternating state move = true)
    (oneDrawn : state.drawn.length ≤ 1) (oneShown : state.shown.length ≤ 1) :
    match move with
    | .take item => (cycle state).head? = some item ∧ cycle next = (cycle state).rotate 1
    | _ => cycle next = cycle state := by
  simp only [alternating, Bool.and_eq_true] at allowed
  obtain ⟨⟨consumer, producer⟩, kept⟩ := allowed
  cases moved with
  | take room =>
      simp only [singleProducer, List.isEmpty_iff] at producer
      subst producer
      simp [cycle, List.rotate_cons_succ]
  | @post item ready posted drawn shown held =>
      have only : drawn = [item] := by
        rcases drawn with _ | ⟨first, rest⟩
        · simp at held
        · simp_all
      subst only
      simp [cycle]
  | presentNext =>
      simp only [singleConsumer, List.isEmpty_iff] at consumer
      subst consumer
      simp [cycle]
  | presentAgain =>
      simp only [singleConsumer, List.isEmpty_iff] at consumer
      subst consumer
      simp [cycle]
  | @retire item ready posted drawn shown held =>
      have only : shown = [item] := by
        rcases shown with _ | ⟨first, rest⟩
        · simp at held
        · simp_all
      subst only
      simp [cycle]
  | reclaimPosted => simp at kept
  | reclaimIdle => simp at kept

def taken (moves : List (Move Item)) : List Item :=
  moves.filterMap fun
    | .take item => some item
    | _ => none

theorem run_in_turn {items : List Item} {limit : Nat} {moves : List (Move Item)}
    {finish : Stock Item} (nonempty : items ≠ [])
    (ran : run (restrict alternating (step limit)) (start items) moves = some finish) :
    InTurn items (taken moves) := by
  have cycled := run_history_invariant
    (fun history state => InTurn items (taken history) ∧
      cycle state = items.rotate (taken history).length ∧
      state.drawn.length ≤ 1 ∧ state.shown.length ≤ 1)
    ⟨in_turn_nil items, by simp [cycle, start, taken], by simp [start], by simp [start]⟩
    (fun history state move next cycled stepped => by
      obtain ⟨turns, rotated, oneDrawn, oneShown⟩ := cycled
      obtain ⟨allowed, moved⟩ := restrict_some.mp stepped
      have turned := moved_cycle (step_moved moved) allowed oneDrawn oneShown
      simp only [alternating, Bool.and_eq_true] at allowed
      have single := moved_single_producer (step_moved moved) allowed.1.2 oneDrawn
      have alone := moved_single_consumer (step_moved moved) allowed.1.1 oneShown
      cases move with
      | take item =>
          have positive := List.length_pos_iff.mpr nonempty
          have handed : items[(taken history).length % items.length]? = some item := by
            have first := List.getElem?_rotate (n := (taken history).length) positive
            rw [Nat.zero_add, ← rotated, ← List.head?_eq_getElem?, turned.1] at first
            exact first.symm
          have longer : taken (history ++ [.take item]) = taken history ++ [item] := by
            simp [taken]
          rw [longer]
          refine ⟨in_turn_snoc.mpr ⟨turns, handed⟩, ?_, single, alone⟩
          rw [turned.2, rotated, List.rotate_rotate, List.length_append, List.length_singleton]
      | post item => simpa [taken, turned, single, alone] using ⟨turns, rotated⟩
      | present item => simpa [taken, turned, single, alone] using ⟨turns, rotated⟩
      | retire item => simpa [taken, turned, single, alone] using ⟨turns, rotated⟩
      | reclaim => simpa [taken, turned, single, alone] using ⟨turns, rotated⟩)
    ran
  exact cycled.1

end Cycle

end Mir.CirculationRotation
