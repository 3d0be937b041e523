import Mathlib.Data.Finset.Sort
import Mathlib.Data.List.TakeWhile

/-!
# Finite sets as strictly increasing lists

A finite set of a linear order is listed by exactly one strictly increasing list, and the
position of a member in it is its rank, the number of smaller members. This is what
`std::lower_bound` finds, whether the item it is given is a member or not.
-/

namespace Mir.OrderedSets

set_option autoImplicit false

variable {Value : Type*}

/-- `std::lower_bound`: the furthest position with only smaller values before it. -/
def lowerBound [LT Value] [DecidableLT Value] (items : List Value) (item : Value) : ℕ :=
  (items.takeWhile (· < item)).length

variable [LinearOrder Value]

def rank (set : Finset Value) (item : Value) : ℕ :=
  (set.filter (· < item)).card

theorem rank_lt_card {set : Finset Value} {item : Value} (member : item ∈ set) :
    rank set item < set.card := by
  apply Finset.card_lt_card
  rw [Finset.filter_ssubset]
  exact ⟨item, member, lt_irrefl item⟩

structure Lists (items : List Value) (set : Finset Value) : Prop where
  increasing : items.SortedLT
  members : items.toFinset = set

theorem lists_nil : Lists ([] : List Value) ∅ where
  increasing := List.Pairwise.nil.sortedLT
  members := rfl

theorem Lists.mem_iff {items : List Value} {set : Finset Value} (lists : Lists items set)
    (value : Value) : value ∈ items ↔ value ∈ set := by
  rw [← lists.members, List.mem_toFinset]

theorem Lists.length_eq {items : List Value} {set : Finset Value} (lists : Lists items set) :
    items.length = set.card := by
  rw [← lists.members, List.toFinset_card_of_nodup lists.increasing.nodup]

theorem Lists.eq_sort {items : List Value} {set : Finset Value} (lists : Lists items set) :
    items = set.sort (· ≤ ·) := by
  rw [← lists.members]
  exact ((List.toFinset_sort (· ≤ ·) lists.increasing.nodup).mpr
    lists.increasing.sortedLE.pairwise).symm

theorem rank_of_split {below above : List Value} {set : Finset Value} {item : Value}
    (lists : Lists (below ++ above) set) (smaller : ∀ value ∈ below, value < item)
    (larger : ∀ value ∈ above, item ≤ value) : rank set item = below.length := by
  have distinct : below.Nodup := (List.nodup_append.mp lists.increasing.nodup).1
  have counted : set.filter (· < item) = below.toFinset := by
    ext value
    rw [Finset.mem_filter, ← lists.mem_iff, List.mem_append, List.mem_toFinset]
    constructor
    · rintro ⟨before | after, less⟩
      · exact before
      · exact absurd less (not_lt.mpr (larger value after))
    · intro before
      exact ⟨.inl before, smaller value before⟩
  rw [rank, counted, List.toFinset_card_of_nodup distinct]

/-- What `lower_bound` does to a strictly increasing list. -/
theorem Lists.split {items : List Value} {set : Finset Value} (lists : Lists items set)
    (item : Value) : ∃ below above, items = below ++ above ∧
      (∀ value ∈ below, value < item) ∧ (∀ value ∈ above, item ≤ value) ∧
      lowerBound items item = below.length ∧ rank set item = below.length := by
  have joined : items = items.takeWhile (· < item) ++ items.dropWhile (· < item) :=
    List.takeWhile_append_dropWhile.symm
  have smaller : ∀ value ∈ items.takeWhile (· < item), value < item := by
    intro value before
    simpa using List.mem_takeWhile_imp before
  have larger : ∀ value ∈ items.dropWhile (· < item), item ≤ value := by
    cases rest : items.dropWhile (· < item) with
    | nil => simp
    | cons head tail =>
        have stops : ¬head < item := by
          have found := List.head?_dropWhile_not (· < item) items
          simpa [rest] using found
        have ordered : (head :: tail).Pairwise (· < ·) := by
          rw [← rest]
          exact lists.increasing.pairwise.sublist (List.dropWhile_sublist _)
        intro value after
        rcases List.mem_cons.mp after with rfl | later
        · exact not_lt.mp stops
        · exact (not_lt.mp stops).trans ((List.pairwise_cons.mp ordered).1 value later).le
  have ranked := rank_of_split (joined ▸ lists) smaller larger
  exact ⟨_, _, joined, smaller, larger, rfl, ranked⟩

theorem Lists.lower_bound_eq {items : List Value} {set : Finset Value} (lists : Lists items set)
    (item : Value) : lowerBound items item = rank set item := by
  obtain ⟨below, above, -, -, -, found, ranked⟩ := lists.split item
  rw [found, ranked]

theorem Lists.rank_get {items : List Value} {set : Finset Value} (lists : Lists items set)
    {position : ℕ} {value : Value} (stands : items[position]? = some value) :
    rank set value = position := by
  obtain ⟨inside, rfl⟩ := List.getElem?_eq_some_iff.mp stands
  have joined : items = items.take position ++ items.drop position :=
    (List.take_append_drop position items).symm
  have ordered := lists.increasing.pairwise
  rw [joined, List.pairwise_append] at ordered
  have ahead : items.drop position = items[position] :: items.drop (position + 1) :=
    List.drop_eq_getElem_cons inside
  rw [rank_of_split (joined ▸ lists), List.length_take_of_le inside.le]
  · intro smaller before
    exact ordered.2.2 smaller before _ (ahead ▸ List.mem_cons_self)
  · intro larger after
    rw [ahead] at after ordered
    rcases List.mem_cons.mp after with rfl | later
    · exact le_rfl
    · exact ((List.pairwise_cons.mp ordered.2.1).1 larger later).le

theorem Lists.get_iff {items : List Value} {set : Finset Value} (lists : Lists items set)
    {position : ℕ} {value : Value} :
    items[position]? = some value ↔ value ∈ set ∧ rank set value = position := by
  constructor
  · intro stands
    exact ⟨(lists.mem_iff value).mp (List.mem_of_getElem? stands), lists.rank_get stands⟩
  · rintro ⟨member, rfl⟩
    obtain ⟨position, stands⟩ := List.mem_iff_getElem?.mp ((lists.mem_iff value).mpr member)
    rw [lists.rank_get stands]
    exact stands

omit [LinearOrder Value] in
theorem insert_at_seam (below above : List Value) (item : Value) :
    (below ++ above).insertIdx below.length item = below ++ item :: above := by
  induction below with
  | nil => rfl
  | cons head tail ih => exact congrArg (List.cons head) ih

theorem Lists.get_rank_iff {items : List Value} {set : Finset Value} (lists : Lists items set)
    (item : Value) : items[rank set item]? = some item ↔ item ∈ set := by
  rw [lists.get_iff]
  exact and_iff_left rfl

theorem Lists.insert {items : List Value} {set : Finset Value} (lists : Lists items set)
    {item : Value} (absent : item ∉ set) :
    Lists (items.insertIdx (rank set item) item) (insert item set) := by
  obtain ⟨below, above, rfl, smaller, larger, -, ranked⟩ := lists.split item
  rw [ranked, insert_at_seam]
  constructor
  · have ordered := List.pairwise_append.mp lists.increasing.pairwise
    apply List.Pairwise.sortedLT
    apply List.pairwise_append.mpr
    refine ⟨ordered.1, ?_, ?_⟩
    · apply List.pairwise_cons.mpr
      refine ⟨?_, ordered.2.1⟩
      intro value after
      have different : item ≠ value := by
        rintro rfl
        exact absent ((lists.mem_iff item).mp (List.mem_append_right below after))
      exact lt_of_le_of_ne (larger value after) different
    · intro value before other after
      rcases List.mem_cons.mp after with rfl | later
      · exact smaller value before
      · exact ordered.2.2 value before other later
  · rw [← lists.members]
    ext value
    simp only [List.mem_toFinset, List.mem_append, List.mem_cons, Finset.mem_insert]
    tauto

theorem Lists.mem_take_iff {items : List Value} {set : Finset Value} (lists : Lists items set)
    (bound : ℕ) (value : Value) :
    value ∈ items.take bound ↔ value ∈ set ∧ rank set value < bound := by
  simp only [List.mem_iff_getElem?, List.getElem?_take, Option.ite_none_right_eq_some,
    lists.get_iff]
  constructor
  · rintro ⟨position, inside, member, rfl⟩
    exact ⟨member, inside⟩
  · rintro ⟨member, inside⟩
    exact ⟨rank set value, inside, member, rfl⟩

theorem Lists.mem_drop_iff {items : List Value} {set : Finset Value} (lists : Lists items set)
    (bound : ℕ) (value : Value) :
    value ∈ items.drop bound ↔ value ∈ set ∧ bound ≤ rank set value := by
  simp only [List.mem_iff_getElem?, List.getElem?_drop, lists.get_iff]
  constructor
  · rintro ⟨position, member, ranked⟩
    exact ⟨member, by omega⟩
  · rintro ⟨member, outside⟩
    exact ⟨rank set value - bound, member, by omega⟩

theorem Lists.erase_range {items : List Value} {set : Finset Value} (lists : Lists items set)
    {first last : ℕ} (ordered : first ≤ last) :
    Lists (items.take first ++ items.drop last)
      (set.filter fun value => ¬(first ≤ rank set value ∧ rank set value < last)) := by
  constructor
  · have tail : (items.drop last).Sublist (items.drop first) :=
      List.drop_sublist_drop_left items ordered
    have kept : (items.take first ++ items.drop last).Sublist items := by
      have joined := tail.append_left (items.take first)
      rwa [List.take_append_drop] at joined
    exact (lists.increasing.pairwise.sublist kept).sortedLT
  · ext value
    rw [List.mem_toFinset, List.mem_append, lists.mem_take_iff, lists.mem_drop_iff,
      Finset.mem_filter]
    constructor
    · rintro (⟨member, before⟩ | ⟨member, after⟩)
      · exact ⟨member, by omega⟩
      · exact ⟨member, by omega⟩
    · rintro ⟨member, outside⟩
      by_cases before : rank set value < first
      · exact .inl ⟨member, before⟩
      · exact .inr ⟨member, by omega⟩

theorem Lists.erase {items : List Value} {set : Finset Value} (lists : Lists items set)
    {item : Value} (present : item ∈ set) :
    Lists (items.eraseIdx (rank set item)) (set.erase item) := by
  have removed := lists.erase_range (Nat.le_succ (rank set item))
  rw [← List.eraseIdx_eq_take_drop_succ] at removed
  have same : (set.filter fun value =>
      ¬(rank set item ≤ rank set value ∧ rank set value < (rank set item).succ)) =
      set.erase item := by
    ext value
    rw [Finset.mem_filter, Finset.mem_erase]
    constructor
    · rintro ⟨member, outside⟩
      refine ⟨?_, member⟩
      rintro rfl
      exact outside ⟨le_rfl, Nat.lt_succ_self _⟩
    · rintro ⟨different, member⟩
      refine ⟨member, ?_⟩
      intro inside
      have ranks : rank set value = rank set item := by omega
      have first := lists.get_iff.mpr ⟨member, ranks⟩
      have second := lists.get_iff.mpr ⟨present, rfl⟩
      exact different (Option.some.inj (first.symm.trans second))
  rw [← same]
  exact removed

end Mir.OrderedSets
