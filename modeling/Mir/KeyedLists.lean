import Mathlib.Data.List.Nodup

/-!
# Lists with distinct keys

A list that is searched from the front for the first entry with a key. As long as no key stands
twice, removing what is found leaves the entries with the other keys.
-/

namespace Mir.KeyedLists

set_option autoImplicit false

variable {Item Key : Type} (key : Item → Key) {items : List Item} {wanted : Key} {index : Nat}

theorem map_modify_key {change : Item → Item} (same : ∀ item, key (change item) = key item) :
    (items.modify index change).map key = items.map key := by
  induction items generalizing index with
  | nil => simp
  | cons item rest ih =>
      cases index with
      | zero => simp [same]
      | succ later => simp [ih]

theorem nodup_filter_key {keep : Item → Bool} (distinct : (items.map key).Nodup) :
    ((items.filter keep).map key).Nodup :=
  distinct.sublist (List.filter_sublist.map key)

variable [DecidableEq Key]

theorem filter_missing (missing : wanted ∉ items.map key) :
    items.filter (fun item => key item ≠ wanted) = items := by
  apply List.filter_eq_self.mpr
  intro item member
  have different : key item ≠ wanted := fun same => missing (List.mem_map.mpr ⟨item, member, same⟩)
  exact decide_eq_true different

theorem found_key (found : items.findIdx? (fun item => key item = wanted) = some index) :
    wanted ∈ items.map key := by
  have matching := List.findIdx?_eq_some_iff_getElem.mp found
  obtain ⟨bound, same, -⟩ := matching
  exact List.mem_map.mpr ⟨items[index], List.getElem_mem bound, of_decide_eq_true same⟩

theorem missing_key (missing : items.findIdx? (fun item => key item = wanted) = none) :
    wanted ∉ items.map key := by
  intro member
  obtain ⟨item, listed, same⟩ := List.mem_map.mp member
  have other := List.findIdx?_eq_none_iff.mp missing item listed
  exact of_decide_eq_false other same

theorem erase_found (distinct : (items.map key).Nodup)
    (found : items.findIdx? (fun item => key item = wanted) = some index) :
    items.eraseIdx index = items.filter (fun item => key item ≠ wanted) := by
  induction items generalizing index with
  | nil => cases found
  | cons item rest ih =>
      have apart := List.nodup_cons.mp distinct
      rw [List.findIdx?_cons] at found
      by_cases same : key item = wanted
      · rw [if_pos (decide_eq_true same)] at found
        cases found
        have gone : wanted ∉ rest.map key := same ▸ apart.1
        rw [List.eraseIdx_zero, List.tail_cons, List.filter_cons_of_neg (by simpa using same),
          filter_missing key gone]
      · rw [if_neg (by simpa using same)] at found
        obtain ⟨later, searched, rfl⟩ := Option.map_eq_some_iff.mp found
        rw [List.eraseIdx_cons_succ, List.filter_cons_of_pos (by simpa using same),
          ih apart.2 searched]

theorem mem_filter_key {other : Key} :
    other ∈ (items.filter (fun item => key item ≠ wanted)).map key ↔
      other ≠ wanted ∧ other ∈ items.map key := by
  simp only [List.mem_map, List.mem_filter, decide_eq_true_eq]
  constructor
  · rintro ⟨item, ⟨member, different⟩, rfl⟩
    exact ⟨different, item, member, rfl⟩
  · rintro ⟨different, item, member, rfl⟩
    exact ⟨item, ⟨member, different⟩, rfl⟩

/-- The entries with none of the keys. -/
def avoids (keys : List Key) (item : Item) : Bool := keys.all fun other => key item ≠ other

theorem avoids_iff {keys : List Key} {item : Item} :
    avoids key keys item = true ↔ key item ∉ keys := by
  simp only [avoids, List.all_eq_true, decide_eq_true_eq]
  exact ⟨fun different member => different _ member rfl,
    fun missing other member same => missing (same ▸ member)⟩

theorem filter_others (first : Key) (rest : List Key) :
    (items.filter fun item => key item ≠ first).filter (avoids key rest) =
      items.filter (avoids key (first :: rest)) := by
  rw [List.filter_filter]
  apply List.filter_congr
  intro item _
  exact Bool.and_comm _ _

/-- Removing by their keys the entries that a test picks leaves those that it does not. -/
theorem filter_picked {picks : Item → Bool} (distinct : (items.map key).Nodup) :
    items.filter (avoids key ((items.filter picks).map key)) =
      items.filter (fun item => !picks item) := by
  apply List.filter_congr
  intro item member
  rw [Bool.eq_iff_iff, avoids_iff, Bool.not_eq_true']
  cases picked : picks item with
  | true =>
      have chosen : key item ∈ (items.filter picks).map key :=
        List.mem_map_of_mem (List.mem_filter.mpr ⟨member, picked⟩)
      exact ⟨fun spared => absurd chosen spared, fun unpicked => by cases unpicked⟩
  | false =>
      have spared : key item ∉ (items.filter picks).map key := by
        intro chosen
        obtain ⟨other, listed, same⟩ := List.mem_map.mp chosen
        have chosen := List.mem_filter.mp listed
        have equal := List.inj_on_of_nodup_map distinct chosen.1 member same
        rw [equal, picked] at chosen
        cases chosen.2
      exact ⟨fun _ => rfl, fun _ => spared⟩

end Mir.KeyedLists
