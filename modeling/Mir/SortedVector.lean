import Mathlib.Algebra.Group.Nat.Defs
import Mir.OrderedSets
import Mir.TransitionRuns

/-!
# The std-based `SortedVector`

`mir_input::SortedVector`, a `std::vector` in which every item has one place, and the
finite set that its operations are about. A `size_t` has `width` bits: `removeItemsAt`
adds its two arguments before it looks at the sum. What the standard leaves undefined, to
read `*end()` or to erase a range that is none of the vector, is an error here, because
nothing is known of the vector afterwards.
-/

namespace Mir.SortedVector

open Mir.TransitionRuns Mir.OrderedSets

set_option autoImplicit false

/-- `-ENOENT`. -/
def nameNotFound : Int := -2

/-- `-EINVAL`. -/
def badValue : Int := -22

inductive Undefined where
  | readPastEnd
  | eraseOutside
  deriving DecidableEq, Repr

inductive Operation (width : ℕ) (Value : Type*) where
  | indexOf (item : Value)
  | itemAt (index : BitVec width)
  | add (item : Value)
  | remove (item : Value)
  | removeItemsAt (index count : BitVec width)

/-- An operation returns an `ssize_t`, and `itemAt` a reference to an item. -/
inductive Answer (Value : Type*) where
  | number (result : Int)
  | item (value : Value)
  deriving DecidableEq

variable {width : ℕ} {Value : Type*}

section Operations

variable [LT Value] [DecidableLT Value] [DecidableEq Value]

def indexOf (items : List Value) (item : Value) : Int :=
  let p := lowerBound items item
  if p ≠ items.length ∧ items[p]? = some item then p else nameNotFound

def itemAt (items : List Value) (index : BitVec width) : Except Undefined Value :=
  match items[index.toNat]? with
  | some value => .ok value
  | none => .error .readPastEnd

def add (items : List Value) (item : Value) : Int × List Value :=
  let pos := lowerBound items item
  if pos = items.length ∨ ¬items[pos]? = some item then (pos, items.insertIdx pos item)
  -- `*pos = item`, which changes nothing in a total order
  else (pos, items.set pos item)

def remove (items : List Value) (item : Value) : Except Undefined (Int × List Value) :=
  let removePos := lowerBound items item
  match items[removePos]? with
  | none => .error .readPastEnd
  | some found =>
      if found = item then .ok (removePos, items.eraseIdx removePos)
      else .ok (nameNotFound, items)

/-- `erase` of the items from `first` on and before `last`. -/
def eraseRange (items : List Value) (first last : ℕ) : Except Undefined (List Value) :=
  if first ≤ last ∧ last ≤ items.length then .ok (items.take first ++ items.drop last)
  else .error .eraseOutside

def removeItemsAt (items : List Value) (index count : BitVec width) :
    Except Undefined (Int × List Value) :=
  -- the sum is a `size_t` and may wrap around, the positions that are erased do not
  if (index + count).toNat > items.length then .ok (badValue, items)
  else do
    let i := index.toNat
    let rest ← eraseRange items i (i + count.toNat)
    return (i, rest)

/-- The assignment `editItemAt(index) = item`. -/
def editItemAt (items : List Value) (index : BitVec width) (item : Value) :
    Except Undefined (List Value) :=
  if index.toNat < items.length then .ok (items.set index.toNat item)
  else .error .readPastEnd

def perform (items : List Value) :
    Operation width Value → Except Undefined (Answer Value × List Value)
  | .indexOf item => .ok (.number (indexOf items item), items)
  | .itemAt index => do
      let value ← itemAt items index
      return (.item value, items)
  | .add item =>
      let (result, next) := add items item
      .ok (.number result, next)
  | .remove item => do
      let (result, next) ← remove items item
      return (.number result, next)
  | .removeItemsAt index count => do
      let (result, next) ← removeItemsAt items index count
      return (.number result, next)

/-- The answer and the vector after an operation, if they are defined. -/
def performed (items : List Value) (operation : Operation width Value) :
    Option (Answer Value × List Value) :=
  (perform items operation).toOption

end Operations

variable [LinearOrder Value]

/-- What the operations are for: a finite set, whose members are counted in their order. An
index that `itemAt` is given has to be one of the set. -/
def specified (set : Finset Value) :
    Operation width Value → Option (Answer Value × Finset Value)
  | .indexOf item => some (.number (if item ∈ set then rank set item else nameNotFound), set)
  | .itemAt index =>
      (set.sort (· ≤ ·))[index.toNat]?.map fun value => (.item value, set)
  | .add item => some (.number (rank set item), insert item set)
  | .remove item =>
      if item ∈ set then some (.number (rank set item), set.erase item)
      else some (.number nameNotFound, set)
  | .removeItemsAt index count =>
      let first := index.toNat
      let last := first + count.toNat
      if last ≤ set.card then
        some (.number first,
          set.filter fun value => ¬(first ≤ rank set value ∧ rank set value < last))
      else some (.number badValue, set)

/-- The calls that leave the vector: to remove an item that is larger than all of the set,
and a range beyond the end whose bounds have a sum that wraps around to within the vector. -/
def Overruns (set : Finset Value) : Operation width Value → Prop
  | .remove item => ∀ member ∈ set, member < item
  | .removeItemsAt index count =>
      set.card < index.toNat + count.toNat ∧ (index + count).toNat ≤ set.card
  | _ => False

variable {items : List Value} {set : Finset Value}

theorem index_of_eq (lists : Lists items set) (item : Value) :
    indexOf items item = if item ∈ set then (rank set item : Int) else nameNotFound := by
  simp only [indexOf, lists.lower_bound_eq, lists.get_rank_iff]
  by_cases present : item ∈ set
  · have inside : rank set item ≠ items.length := by
      rw [lists.length_eq]
      exact (rank_lt_card present).ne
    rw [if_pos ⟨inside, present⟩, if_pos present]
  · rw [if_neg (fun both => present both.2), if_neg present]

omit [LinearOrder Value] in
theorem assign_same {position : ℕ} {item : Value} (stands : items[position]? = some item) :
    items.set position item = items := by
  obtain ⟨inside, rfl⟩ := List.getElem?_eq_some_iff.mp stands
  exact List.set_getElem_self inside

theorem add_lists (lists : Lists items set) (item : Value) :
    ∃ next, add items item = ((rank set item : Int), next) ∧ Lists next (insert item set) := by
  simp only [add, lists.lower_bound_eq, lists.get_rank_iff]
  by_cases present : item ∈ set
  · have inside : rank set item ≠ items.length := by
      rw [lists.length_eq]
      exact (rank_lt_card present).ne
    rw [if_neg (not_or.mpr ⟨inside, not_not.mpr present⟩)]
    rw [assign_same ((lists.get_rank_iff item).mpr present), Finset.insert_eq_of_mem present]
    exact ⟨items, rfl, lists⟩
  · rw [if_pos (.inr present)]
    exact ⟨_, rfl, lists.insert present⟩

theorem remove_present (lists : Lists items set) {item : Value} (present : item ∈ set) :
    ∃ next, remove items item = .ok ((rank set item : Int), next) ∧
      Lists next (set.erase item) := by
  have stands := (lists.get_rank_iff item).mpr present
  refine ⟨items.eraseIdx (rank set item), ?_, lists.erase present⟩
  simp only [remove, lists.lower_bound_eq, stands, if_true]

/-- The item is not there, but a larger one is: this is what `remove` finds. -/
theorem remove_absent (lists : Lists items set) {item larger : Value} (absent : item ∉ set)
    (member : larger ∈ set) (above : item ≤ larger) :
    remove items item = .ok (nameNotFound, items) := by
  have inside : rank set item < items.length := by
    rw [lists.length_eq]
    apply Finset.card_lt_card
    rw [Finset.filter_ssubset]
    exact ⟨larger, member, not_lt.mpr above⟩
  have stands : items[rank set item]? = some items[rank set item] :=
    List.getElem?_eq_getElem inside
  have other : items[rank set item] ≠ item := by
    intro same
    rw [same] at stands
    exact absent ((lists.get_rank_iff item).mp stands)
  simp only [remove, lists.lower_bound_eq, stands, if_neg other]

theorem remove_past_end (lists : Lists items set) {item : Value}
    (largest : ∀ member ∈ set, member < item) :
    remove items item = .error .readPastEnd := by
  have beyond : rank set item = items.length := by
    rw [rank, Finset.filter_true_of_mem largest, lists.length_eq]
  have nothing : items[rank set item]? = none := by
    rw [beyond]
    exact List.getElem?_eq_none le_rfl
  simp only [remove, lists.lower_bound_eq, nothing]

omit [LinearOrder Value] in
theorem sum_of_inside {index count : BitVec width}
    (inside : index.toNat + count.toNat ≤ items.length) :
    (index + count).toNat ≤ items.length := by
  rw [BitVec.toNat_add]
  exact (Nat.mod_le _ _).trans inside

theorem remove_items_at_inside (lists : Lists items set) {index count : BitVec width}
    (inside : index.toNat + count.toNat ≤ set.card) :
    ∃ next, removeItemsAt items index count = .ok ((index.toNat : Int), next) ∧
      Lists next (set.filter fun value =>
        ¬(index.toNat ≤ rank set value ∧ rank set value < index.toNat + count.toNat)) := by
  have ordered : index.toNat ≤ index.toNat + count.toNat := Nat.le_add_right _ _
  refine ⟨_, ?_, lists.erase_range ordered⟩
  rw [← lists.length_eq] at inside
  simp only [removeItemsAt, if_neg (not_lt.mpr (sum_of_inside inside)), eraseRange,
    if_pos (And.intro ordered inside)]
  rfl

theorem remove_items_at_outside (lists : Lists items set) {index count : BitVec width}
    (seen : set.card < (index + count).toNat) :
    removeItemsAt items index count = .ok (badValue, items) := by
  rw [← lists.length_eq] at seen
  rw [removeItemsAt, if_pos seen]

theorem remove_items_at_wrapped (lists : Lists items set) {index count : BitVec width}
    (outside : set.card < index.toNat + count.toNat) (wrapped : (index + count).toNat ≤ set.card) :
    removeItemsAt items index count = .error .eraseOutside := by
  rw [← lists.length_eq] at outside wrapped
  have invalid : ¬(index.toNat ≤ index.toNat + count.toNat ∧
      index.toNat + count.toNat ≤ items.length) := fun both => absurd both.2 (not_le.mpr outside)
  simp only [removeItemsAt, if_neg (not_lt.mpr wrapped), eraseRange, if_neg invalid]
  rfl

theorem performed_remove {item : Value} {result : Int} {next : List Value}
    (removed : remove items item = .ok (result, next)) :
    performed items (.remove item : Operation width Value) = some (.number result, next) := by
  simp only [performed, perform, removed]
  rfl

theorem performed_remove_items_at {index count : BitVec width} {result : Int}
    {next : List Value} (removed : removeItemsAt items index count = .ok (result, next)) :
    performed items (.removeItemsAt index count) = some (.number result, next) := by
  simp only [performed, perform, removed]
  rfl

theorem performed_lists {operation : Operation width Value} {answer : Answer Value}
    {after : Finset Value} (lists : Lists items set)
    (specifies : specified set operation = some (answer, after))
    (within : ¬Overruns set operation) :
    ∃ next, performed items operation = some (answer, next) ∧ Lists next after := by
  cases operation with
  | indexOf item =>
      cases specifies
      refine ⟨items, ?_, lists⟩
      rw [← index_of_eq lists]
      rfl
  | itemAt index =>
      simp only [specified, ← lists.eq_sort, Option.map_eq_some_iff] at specifies
      obtain ⟨value, stands, same⟩ := specifies
      cases same
      refine ⟨items, ?_, lists⟩
      simp only [performed, perform, itemAt, stands]
      rfl
  | add item =>
      cases specifies
      obtain ⟨next, added, still⟩ := add_lists lists item
      refine ⟨next, ?_, still⟩
      simp only [performed, perform, added]
      rfl
  | remove item =>
      simp only [specified] at specifies
      split_ifs at specifies with present
      · cases specifies
        obtain ⟨next, removed, still⟩ := remove_present lists present
        exact ⟨next, performed_remove removed, still⟩
      · cases specifies
        simp only [Overruns, not_forall, not_lt] at within
        obtain ⟨larger, member, above⟩ := within
        exact ⟨items, performed_remove (remove_absent lists present member above), lists⟩
  | removeItemsAt index count =>
      simp only [specified] at specifies
      split_ifs at specifies with inside
      · cases specifies
        obtain ⟨next, removed, still⟩ := remove_items_at_inside lists inside
        exact ⟨next, performed_remove_items_at removed, still⟩
      · cases specifies
        have seen : set.card < (index + count).toNat := by
          by_contra wrapped
          exact within ⟨not_le.mp inside, not_lt.mp wrapped⟩
        exact ⟨items, performed_remove_items_at (remove_items_at_outside lists seen), lists⟩

theorem performed_overrun {operation : Operation width Value} (lists : Lists items set)
    (overruns : Overruns set operation) : performed items operation = none := by
  cases operation with
  | indexOf | itemAt | add => exact overruns.elim
  | remove item =>
      simp only [performed, perform, remove_past_end lists overruns]
      rfl
  | removeItemsAt index count =>
      simp only [performed, perform, remove_items_at_wrapped lists overruns.1 overruns.2]
      rfl

/-- A sequence of operations on a vector that is empty at first works on it as on a finite
set, with the same answers, if and only if none of them leaves the vector. -/
theorem sorted_vector_is_set_iff {operations : List (Operation width Value)}
    {final : Finset Value} {answers : List (Answer Value)}
    (specifies : run (recording specified) (∅, []) operations = some (final, answers)) :
    (∃ last : List Value,
      run (recording performed) ([], []) operations = some (last, answers) ∧
      last.SortedLT ∧ last.toFinset = final) ↔
      Never (recording specified) (∅, []) (fun state => Overruns state.1) operations := by
  have refines : (∃ last : List Value,
      run (recording performed) ([], []) operations = some (last, answers) ∧
      Lists last final) ↔
      Never (recording specified) (∅, []) (fun state => Overruns state.1) operations := by
    apply refines_iff_never lists_nil _ _ specifies
    · intro items set operation answer after
      exact performed_lists
    · intro items set operation
      exact performed_overrun
  rw [← refines]
  constructor
  · rintro ⟨last, ran, increasing, members⟩
    exact ⟨last, ran, increasing, members⟩
  · rintro ⟨last, ran, lists⟩
    exact ⟨last, ran, lists.increasing, lists.members⟩

/-- With 64 bits: an item larger than all of the vector, and a range whose bounds have
the sum zero. -/
theorem removals_leave_vector :
    run (recording specified) (∅, []) ([.add 3, .remove 4] : List (Operation 64 ℕ)) =
      some ({3}, [.number 0, .number nameNotFound]) ∧
    remove [3] 4 = .error .readPastEnd ∧
    run (recording performed) ([], []) ([.add 3, .remove 4] : List (Operation 64 ℕ)) = none ∧
    run (recording specified) (∅, [])
      ([.add 3, .removeItemsAt 1 (-1)] : List (Operation 64 ℕ)) =
      some ({3}, [.number 0, .number badValue]) ∧
    removeItemsAt [3] (1 : BitVec 64) (-1) = .error .eraseOutside ∧
    run (recording performed) ([], [])
      ([.add 3, .removeItemsAt 1 (-1)] : List (Operation 64 ℕ)) = none := by
  decide

theorem small_vector_is_set :
    Never (recording specified) (∅, []) (fun state => Overruns state.1)
      ([.add 3, .add 1, .add 3, .remove 2, .indexOf 3, .removeItemsAt 0 1, .remove 1] :
        List (Operation 64 ℕ)) := by
  have answers : run (recording specified) (∅, [])
      ([.add 3, .add 1, .add 3, .remove 2, .indexOf 3, .removeItemsAt 0 1, .remove 1] :
        List (Operation 64 ℕ)) =
      some ({3}, [.number 0, .number 0, .number 1, .number nameNotFound, .number 1, .number 0,
        .number nameNotFound]) := by
    decide
  exact (sorted_vector_is_set_iff answers).mp ⟨[3], by decide, by decide, by decide⟩

/-- The rule that `editItemAt` leaves to its callers: the new item has to stand between the
same neighbours. -/
theorem edit_item_at_increasing_iff (lists : Lists items set) {index : BitVec width}
    (inside : index.toNat < items.length) (item : Value) :
    ∃ next, editItemAt items index item = .ok next ∧
      (next.SortedLT ↔ ∀ value ∈ set,
        (rank set value < index.toNat → value < item) ∧
        (index.toNat + 1 ≤ rank set value → item < value)) := by
  refine ⟨items.set index.toNat item, if_pos inside, ?_⟩
  have parts : items = items.take index.toNat ++ items.drop index.toNat :=
    (List.take_append_drop _ _).symm
  have ordered := lists.increasing.pairwise
  rw [parts, List.drop_eq_getElem_cons inside, List.pairwise_append, List.pairwise_cons] at ordered
  obtain ⟨before, ⟨-, after⟩, across⟩ := ordered
  rw [List.set_eq_take_append_cons_drop, if_pos inside, List.sortedLT_iff_pairwise,
    List.pairwise_append, List.pairwise_cons]
  constructor
  · rintro ⟨-, ⟨larger, -⟩, smaller⟩ value member
    constructor
    · intro less
      exact smaller value ((lists.mem_take_iff _ value).mpr ⟨member, less⟩) item List.mem_cons_self
    · intro more
      exact larger value ((lists.mem_drop_iff _ value).mpr ⟨member, more⟩)
  · intro between
    refine ⟨before, ⟨?_, after⟩, ?_⟩
    · intro value later
      obtain ⟨member, more⟩ := (lists.mem_drop_iff _ value).mp later
      exact (between value member).2 more
    · intro value sooner other later
      rcases List.mem_cons.mp later with rfl | beyond
      · obtain ⟨member, less⟩ := (lists.mem_take_iff _ value).mp sooner
        exact (between value member).1 less
      · exact across value sooner other (List.mem_cons_of_mem _ beyond)

end Mir.SortedVector
