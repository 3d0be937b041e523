import Mathlib.Data.Finset.Basic

/-!
# Lifetimes of objects

Straight-line programs whose actions use, create and delete objects. A program is safe for a
heap if each of its actions finds the objects that it uses. Programs can be put one after the
other, and a program stays safe while nothing that it uses is deleted.
-/

namespace Mir.ObjectLifetimes

set_option autoImplicit false

variable {Action Object : Type}

structure Effects (Action Object : Type) where
  uses : Action → List Object
  creates : Action → List Object
  deletes : Action → Object → Bool

variable (effects : Effects Action Object)

/-- A program deletes an object at some point. -/
def Dooms (program : List Action) (object : Object) : Prop :=
  ∃ action ∈ program, effects.deletes action object = true

def Uses (program : List Action) (object : Object) : Prop :=
  ∃ action ∈ program, object ∈ effects.uses action

section Programs

variable {effects} {program later : List Action} {action : Action} {object : Object}

theorem dooms_cons : Dooms effects (action :: later) object ↔
    effects.deletes action object = true ∨ Dooms effects later object := by
  simp [Dooms]

theorem dooms_append : Dooms effects (program ++ later) object ↔
    Dooms effects program object ∨ Dooms effects later object := by
  simp only [Dooms, List.mem_append]
  grind

theorem uses_cons : Uses effects (action :: later) object ↔
    object ∈ effects.uses action ∨ Uses effects later object := by
  simp [Uses]

end Programs

variable [DecidableEq Object]

def after (heap : Finset Object) (action : Action) : Finset Object :=
  (heap ∪ (effects.creates action).toFinset).filter fun object => !effects.deletes action object

def afterAll (heap : Finset Object) (program : List Action) : Finset Object :=
  program.foldl (after effects) heap

def Safe : Finset Object → List Action → Prop
  | _, [] => True
  | heap, action :: later =>
      (∀ object ∈ effects.uses action, object ∈ heap) ∧ Safe (after effects heap action) later

variable {effects} {heap : Finset Object} {program later : List Action} {action : Action}
  {object : Object}

theorem mem_after : object ∈ after effects heap action ↔
    (object ∈ heap ∨ object ∈ effects.creates action) ∧
      effects.deletes action object = false := by
  simp [after]

theorem after_unchanged (creates : effects.creates action = [])
    (deletes : ∀ object, effects.deletes action object = false) :
    after effects heap action = heap := by
  ext object
  simp [mem_after, creates, deletes]

theorem mem_after_all (alive : object ∈ heap) (kept : ¬Dooms effects program object) :
    object ∈ afterAll effects heap program := by
  induction program generalizing heap with
  | nil => exact alive
  | cons action later induction =>
      rw [dooms_cons, not_or, Bool.not_eq_true] at kept
      exact induction (mem_after.mpr ⟨.inl alive, kept.1⟩) kept.2

theorem safe_append : Safe effects heap (program ++ later) ↔
    Safe effects heap program ∧ Safe effects (afterAll effects heap program) later := by
  induction program generalizing heap with
  | nil => simp [Safe, afterAll]
  | cons action rest induction =>
      rw [List.cons_append, Safe, Safe, induction, and_assoc]
      rfl

/-- A program only depends on the objects that it uses. -/
theorem safe_transfer {other : Finset Object} (safe : Safe effects heap program)
    (there : ∀ object, Uses effects program object → object ∈ heap → object ∈ other) :
    Safe effects other program := by
  induction program generalizing heap other with
  | nil => trivial
  | cons action later induction =>
      refine ⟨?_, induction safe.2 ?_⟩
      · intro object used
        exact there object (uses_cons.mpr (.inl used)) (safe.1 object used)
      · intro object used alive
        obtain ⟨present, kept⟩ := mem_after.mp alive
        refine mem_after.mpr ⟨?_, kept⟩
        rcases present with old | created
        · exact .inl (there object (uses_cons.mpr (.inr used)) old)
        · exact .inr created

/-- A program can be put behind another one that deletes nothing it uses. -/
theorem safe_after (first : Safe effects heap program) (second : Safe effects heap later)
    (apart : ∀ object, Uses effects later object → ¬Dooms effects program object) :
    Safe effects heap (program ++ later) := by
  refine safe_append.mpr ⟨first, safe_transfer second ?_⟩
  intro object used alive
  exact mem_after_all alive (apart object used)

end Mir.ObjectLifetimes
