import Mathlib.Data.List.Nodup
import Mir.TransitionRuns

/-!
# Locks and releases in order

What is held after a sequence of locks and releases, when nothing is locked twice and
nothing is released that is not held.
-/

namespace Mir.LockHistories

open Mir.TransitionRuns

set_option autoImplicit false

inductive LockCall (Item : Type) where
  | lock (item : Item)
  | release (item : Item)
  deriving DecidableEq, Repr

variable {Item : Type} [DecidableEq Item]

def makeCall (held : List Item) : LockCall Item → Option (List Item)
  | .lock item => if item ∈ held then none else some (item :: held)
  | .release item => if item ∈ held then some (held.erase item) else none

def locks (item : Item) (calls : List (LockCall Item)) : Nat := calls.count (.lock item)

def releases (item : Item) (calls : List (LockCall Item)) : Nat := calls.count (.release item)

/-- The locks of an item that have not been released. -/
structure Counted (calls : List (LockCall Item)) (held : List Item) : Prop where
  distinct : held.Nodup
  balance : ∀ item, locks item calls = releases item calls + held.count item

theorem call_counted {calls : List (LockCall Item)} {held next : List Item}
    {call : LockCall Item} (counted : Counted calls held)
    (made : makeCall held call = some next) : Counted (calls ++ [call]) next := by
  cases call with
  | lock item =>
      simp only [makeCall] at made
      split_ifs at made with member
      cases made
      refine ⟨List.nodup_cons.mpr ⟨member, counted.distinct⟩, ?_⟩
      intro other
      have balance := counted.balance other
      by_cases same : item = other
      · subst same
        simp [locks, releases] at balance ⊢
        omega
      · simpa [locks, releases, same] using balance
  | release item =>
      simp only [makeCall] at made
      split_ifs at made with member
      cases made
      refine ⟨counted.distinct.erase item, ?_⟩
      intro other
      have balance := counted.balance other
      by_cases same : item = other
      · subst same
        have held : 0 < held.count item := List.count_pos_iff.mpr member
        simp [locks, releases] at balance ⊢
        omega
      · simpa [locks, releases, same, List.count_erase_of_ne (Ne.symm same)] using balance

theorem calls_counted {calls : List (LockCall Item)} {held : List Item}
    (made : run makeCall [] calls = some held) : Counted calls held :=
  run_history_invariant Counted ⟨List.nodup_nil, fun _ => rfl⟩
    (fun _ _ _ _ counted called => call_counted counted called) made

theorem calls_matched {calls earlier later : List (LockCall Item)} {held : List Item}
    (made : run makeCall [] calls = some held) (split : calls = earlier ++ later) (item : Item) :
    releases item earlier ≤ locks item earlier ∧
      locks item earlier ≤ releases item earlier + 1 := by
  rw [split] at made
  obtain ⟨between, before, -⟩ := run_append_some made
  have counted := calls_counted before
  have balance := counted.balance item
  have once := List.nodup_iff_count_le_one.mp counted.distinct item
  omega

end Mir.LockHistories
