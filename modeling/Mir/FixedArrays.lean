import Mathlib.Data.List.Basic

/-!
# Copies into arrays of a fixed size

A write outside of an array is undefined behaviour, and the copy has no result then.
-/

namespace Mir.FixedArrays

set_option autoImplicit false

variable {Value : Type} {size : Nat}

def store (array : Vector Value size) (index : Nat) (value : Value) :
    Option (Vector Value size) :=
  if inside : index < size then some (array.set index value inside) else none

/-- The values are stored one after another from an offset on. -/
def storeAll (array : Vector Value size) (offset : Nat) :
    List Value → Option (Vector Value size)
  | [] => some array
  | value :: rest =>
      (store array offset value).bind fun written => storeAll written (offset + 1) rest

/-- So many values from an offset on. -/
def loadAll (array : Vector Value size) (offset : Nat) : Nat → Option (List Value)
  | 0 => some []
  | count + 1 =>
      array[offset]?.bind fun value =>
        (loadAll array (offset + 1) count).map fun rest => value :: rest

theorem store_inside (array : Vector Value size) {index : Nat} (inside : index < size)
    (value : Value) :
    ∃ written, store array index value = some written ∧
      written.toList = array.toList.take index ++ value :: array.toList.drop (index + 1) := by
  refine ⟨array.set index value inside, dif_pos inside, ?_⟩
  rw [Vector.toList_set, List.set_eq_take_append_cons_drop, if_pos (by simpa using inside)]

theorem store_all_some (array : Vector Value size) {offset : Nat} {values : List Value}
    (room : offset + values.length ≤ size) :
    ∃ written, storeAll array offset values = some written ∧
      written.toList = array.toList.take offset ++ values ++
        array.toList.drop (offset + values.length) := by
  induction values generalizing array offset with
  | nil => exact ⟨array, rfl, by simp⟩
  | cons value rest ih =>
      rw [List.length_cons] at room
      obtain ⟨first, stored, same⟩ := store_inside array (show offset < size by omega) value
      obtain ⟨written, later, whole⟩ := ih first (show offset + 1 + rest.length ≤ size by omega)
      refine ⟨written, ?_, ?_⟩
      · rw [storeAll, stored]
        exact later
      · have long : (array.toList.take offset ++ [value]).length = offset + 1 := by
          rw [List.length_append, List.length_take, Vector.length_toList, List.length_singleton]
          omega
        have parts : first.toList =
            (array.toList.take offset ++ [value]) ++ array.toList.drop (offset + 1) := by
          rw [same, List.append_assoc]
          rfl
        have after : first.toList.drop (offset + 1 + rest.length) =
            array.toList.drop (offset + (rest.length + 1)) := by
          rw [← List.drop_drop, parts, List.drop_left' long, List.drop_drop]
          congr 1
          omega
        rw [whole, after, parts, List.take_left' long, List.length_cons]
        simp

theorem store_all_none (array : Vector Value size) {offset : Nat} {values : List Value}
    (beyond : size < offset + values.length) (valid : offset ≤ size) :
    storeAll array offset values = none := by
  induction values generalizing array offset with
  | nil =>
      rw [List.length_nil] at beyond
      omega
  | cons value rest ih =>
      rw [List.length_cons] at beyond
      unfold storeAll store
      by_cases inside : offset < size
      · rw [dif_pos inside]
        exact ih _ (by omega) inside
      · rw [dif_neg inside]
        rfl

theorem load_all_some (array : Vector Value size) {offset count : Nat}
    (room : offset + count ≤ size) :
    loadAll array offset count = some ((array.toList.drop offset).take count) := by
  induction count generalizing offset with
  | zero => simp [loadAll]
  | succ count ih =>
      have inside : offset < size := by omega
      rw [loadAll, ih (by omega), Vector.getElem?_eq_getElem inside]
      have head : array.toList.drop offset = array[offset] :: array.toList.drop (offset + 1) := by
        rw [List.drop_eq_getElem_cons (by simpa using inside), Vector.getElem_toList]
      rw [head]
      rfl

end Mir.FixedArrays
