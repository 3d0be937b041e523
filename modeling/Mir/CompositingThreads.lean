import Mathlib.Data.Fintype.Card
import Mir.SwapperOwnership

/-!
# One surface and several compositing threads

`MultiThreadedCompositor::start` runs one thread for every display buffer that
`for_each_display_buffer` enumerates. In each pass `DefaultCompositingStrategy`
lets a `RenderingOperator` take the region of every visible surface; the regions
are saved in the operator and released when it goes out of scope, after
`post_update` has returned. The surface list's `guard` is only held while the
regions are taken, so passes of different threads overlap.
-/

namespace Mir.CompositingThreads

open Mir.TransitionRuns Mir.SwapperModel Mir.SwapperOwnership

set_option autoImplicit false

/-- One surface's swapper, and the region of that surface that each thread's pass
has saved. -/
structure Composition (displays : Nat) (Buffer : Type) where
  ownership : Ownership Buffer
  saved : Fin displays → Option BufferID

inductive Action (displays : Nat) where
  | clientAcquire (dequeuedBuffer : BufferID)
  | clientRelease (queuedBuffer : BufferID)
  | graphicRegion (thread : Fin displays) (acquiredBuffer : BufferID)
  | passFinished (thread : Fin displays)
  deriving DecidableEq

variable {displays : Nat} {Buffer : Type}

def step (state : Composition displays Buffer) :
    Action displays → Option (Composition displays Buffer)
  | .clientAcquire key =>
      if state.ownership.clientHeld = [] then
        (SwapperOwnership.step state.ownership (.clientAcquire key)).map fun ownership =>
          { state with ownership := ownership }
      else none
  | .clientRelease key =>
      (SwapperOwnership.step state.ownership (.clientRelease key)).map fun ownership =>
        { state with ownership := ownership }
  | .graphicRegion thread key => match state.saved thread with
      | some _ => none
      | none =>
          (SwapperOwnership.step state.ownership (.compositorAcquire key)).map fun ownership =>
            { ownership := ownership
              saved := Function.update state.saved thread (some key) }
  | .passFinished thread => match state.saved thread with
      | none => none
      | some key =>
          (SwapperOwnership.step state.ownership (.compositorRelease key)).map fun ownership =>
            { ownership := ownership
              saved := Function.update state.saved thread none }

def started (id : Buffer → BufferID) (bufferList : List Buffer) :
    Composition displays Buffer where
  ownership := constructed id bufferList
  saved := fun _ => none

def busy (saved : Fin displays → Option BufferID) : Finset (Fin displays) :=
  Finset.univ.filter fun thread => (saved thread).isSome = true

theorem busy_update_some (saved : Fin displays → Option BufferID) (thread : Fin displays)
    (key : BufferID) (idle : saved thread = none) :
    (busy (Function.update saved thread (some key))).card = (busy saved).card + 1 := by
  have grown : busy (Function.update saved thread (some key)) =
      insert thread (busy saved) := by
    ext other
    by_cases same : other = thread <;> simp [busy, Function.update, same]
  rw [grown, Finset.card_insert_of_notMem (by simp [busy, idle])]

theorem busy_update_none (saved : Fin displays → Option BufferID) (thread : Fin displays)
    (key : BufferID) (holds : saved thread = some key) :
    (busy (Function.update saved thread none)).card + 1 = (busy saved).card := by
  have shrunk : busy (Function.update saved thread none) = (busy saved).erase thread := by
    ext other
    by_cases same : other = thread <;> simp [busy, Function.update, same]
  rw [shrunk, Finset.card_erase_add_one (by simp [busy, holds])]

structure Composed (id : Buffer → BufferID) (bufferList : List Buffer)
    (state : Composition displays Buffer) : Prop where
  accounted : Accounted id bufferList state.ownership
  oneClient : state.ownership.clientHeld.length ≤ 1
  passes : state.ownership.compositorHeld.length = (busy state.saved).card

variable {id : Buffer → BufferID} {bufferList : List Buffer}

theorem started_composed :
    Composed id bufferList (started id bufferList : Composition displays Buffer) where
  accounted := constructed_accounted
  oneClient := by simp [started, constructed]
  passes := by simp [started, constructed, busy]

theorem step_composed (several : 2 ≤ bufferList.length) (distinct : (bufferList.map id).Nodup)
    {state next : Composition displays Buffer} {action : Action displays}
    (composed : Composed id bufferList state) (stepped : step state action = some next) :
    Composed id bufferList next := by
  obtain ⟨accounted, oneClient, passes⟩ := composed
  cases action with
  | clientAcquire key =>
      simp only [step] at stepped
      split_ifs at stepped with nothing
      obtain ⟨ownership, acquired, rfl⟩ := Option.map_eq_some_iff.mp stepped
      obtain ⟨clients, compositors⟩ := step_held acquired
      exact ⟨step_accounted several distinct accounted acquired, by simp [clients, nothing],
        by simpa [compositors] using passes⟩
  | clientRelease key =>
      obtain ⟨ownership, released, rfl⟩ := Option.map_eq_some_iff.mp stepped
      obtain ⟨held, clients, compositors⟩ := step_held released
      refine ⟨step_accounted several distinct accounted released, ?_,
        by simpa [compositors] using passes⟩
      simp only [clients, List.length_erase_of_mem held]
      omega
  | graphicRegion thread key =>
      simp only [step] at stepped
      split at stepped
      · cases stepped
      · next idle =>
          obtain ⟨ownership, acquired, rfl⟩ := Option.map_eq_some_iff.mp stepped
          obtain ⟨clients, compositors⟩ := step_held acquired
          refine ⟨step_accounted several distinct accounted acquired,
            by simpa [clients] using oneClient, ?_⟩
          rw [busy_update_some state.saved thread key idle, compositors, List.length_append,
            passes, List.length_singleton]
  | passFinished thread =>
      simp only [step] at stepped
      split at stepped
      · cases stepped
      · next key holds =>
          obtain ⟨ownership, released, rfl⟩ := Option.map_eq_some_iff.mp stepped
          obtain ⟨held, clients, compositors⟩ := step_held released
          refine ⟨step_accounted several distinct accounted released,
            by simpa [clients] using oneClient, ?_⟩
          have fewer := busy_update_none state.saved thread key holds
          simp only [compositors, List.length_erase_of_mem held]
          omega

theorem run_composed (several : 2 ≤ bufferList.length) (distinct : (bufferList.map id).Nodup)
    {actions : List (Action displays)} {finish : Composition displays Buffer}
    (ran : run step (started id bufferList) actions = some finish) :
    Composed id bufferList finish :=
  run_invariant (Composed id bufferList) started_composed
    (fun _ _ _ composed stepped => step_composed several distinct composed stepped) ran

/-- The client takes a buffer and then one thread after the other takes a region,
while there are threads and buffers left. -/
theorem saturate (displays : Nat) (several : 2 ≤ bufferList.length)
    (distinct : (bufferList.map id).Nodup) (count : Nat) (buffers : count < bufferList.length)
    (threads : count ≤ displays) :
    ∃ actions, ∃ state : Composition displays Buffer,
      run step (started id bufferList) actions = some state ∧
        state.ownership.clientHeld.length = 1 ∧
        state.ownership.compositorHeld.length = count ∧
        ∀ thread : Fin displays, count ≤ thread.val → state.saved thread = none := by
  induction count with
  | zero =>
      have nonempty : (constructed id bufferList).swapper.clientQueue ≠ [] := by
        rw [← List.length_pos_iff]
        simp only [constructed, fill_client_queue, List.length_map]
        omega
      obtain ⟨key, ownership, acquired⟩ := client_acquire_enabled several distinct
        constructed_accounted nonempty (by simp only [constructed, List.length_nil]; omega)
      obtain ⟨clients, compositors⟩ := step_held acquired
      refine ⟨[.clientAcquire key], { started id bufferList with ownership := ownership },
        ?_, ?_, ?_, fun _ _ => rfl⟩
      · rw [run_single]
        simp [step, started, acquired]
        rfl
      · simp [clients, constructed]
      · simp [compositors, constructed]
  | succ count ih =>
      obtain ⟨actions, state, ran, clients, compositors, idle⟩ := ih (by omega) (by omega)
      have composed := run_composed several distinct ran
      have defined := (compositor_acquire_defined_iff several distinct composed.accounted).mpr
        (by omega)
      obtain ⟨key, ownership, acquired⟩ :=
        (compositor_acquire_step state.ownership).mp defined
      obtain ⟨sameClients, moreCompositors⟩ := step_held acquired
      let thread : Fin displays := ⟨count, by omega⟩
      have free : state.saved thread = none := idle thread (le_refl _)
      refine ⟨actions ++ [.graphicRegion thread key],
        { ownership := ownership, saved := Function.update state.saved thread (some key) },
        ?_, ?_, ?_, ?_⟩
      · rw [run_snoc, ran]
        simp [step, free, acquired]
      · rw [sameClients, clients]
      · simp [moreCompositors, compositors]
      · intro other later
        have different : other ≠ thread := by
          rintro rfl
          exact absurd later (by simp [thread])
        exact (Function.update_of_ne different _ _).trans (idle other (by omega))

/-- The limit in `client_acquire` reserves one buffer for the compositing side as
a whole. It leaves every thread a buffer to show, in every interleaving, exactly
when there are fewer display buffers than the surface has buffers. -/
theorem every_pass_finds_a_buffer_iff (id : Buffer → BufferID) (bufferList : List Buffer)
    (several : 2 ≤ bufferList.length) (distinct : (bufferList.map id).Nodup)
    (displays : Nat) :
    (∀ (actions : List (Action displays)) (state : Composition displays Buffer),
      run step (started id bufferList) actions = some state →
        ∀ thread, state.saved thread = none →
          (compositorAcquire state.ownership.swapper).isSome = true) ↔
      displays < bufferList.length := by
  constructor
  · intro always
    by_contra many
    obtain ⟨actions, state, ran, clients, compositors, idle⟩ :=
      saturate displays several distinct (bufferList.length - 1) (by omega) (by omega)
    have composed := run_composed several distinct ran
    let thread : Fin displays := ⟨bufferList.length - 1, by omega⟩
    have found := always actions state ran thread (idle thread (le_refl _))
    rw [compositor_acquire_defined_iff several distinct composed.accounted] at found
    omega
  · intro few actions state ran thread free
    have composed := run_composed several distinct ran
    rw [compositor_acquire_defined_iff several distinct composed.accounted, composed.passes]
    -- the asking thread is not among the busy ones
    have others : (busy state.saved).card < displays := by
      have fewer : busy state.saved ⊂ Finset.univ := by
        rw [Finset.ssubset_univ_iff]
        intro all
        have member : thread ∈ busy state.saved := by simp [all]
        simp [busy, free] at member
      simpa using Finset.card_lt_card fewer
    have oneClient := composed.oneClient
    omega

/-- The default of two buffers serves one display buffer. -/
theorem single_display_finds_a_buffer :
    1 < [(⟨1⟩ : BufferID), ⟨2⟩].length ∧
      ∀ (actions : List (Action 1)) (state : Composition 1 BufferID),
        run step (started (fun key => key) [⟨1⟩, ⟨2⟩]) actions = some state →
          ∀ thread, state.saved thread = none →
            (compositorAcquire state.ownership.swapper).isSome = true := by
  constructor
  · decide
  · exact (every_pass_finds_a_buffer_iff (fun key : BufferID => key) [⟨1⟩, ⟨2⟩]
      (by decide) (by decide) 1).mpr (by decide)

/-- Two display buffers: the client holds one of the two buffers, the first
thread's pass the other, and the second thread begins its pass. -/
def overlappingPasses : List (Action 2) := [.clientAcquire ⟨1⟩, .graphicRegion 0 ⟨2⟩]

theorem second_display_pops_empty_queue :
    initializeQueues (fun key : BufferID => key) [⟨1⟩, ⟨2⟩] =
        .ok (fillQueues (fun key => key) [⟨1⟩, ⟨2⟩]) ∧
      ∃ state : Composition 2 BufferID,
        run step (started (fun key => key) [⟨1⟩, ⟨2⟩]) overlappingPasses = some state ∧
          state.saved 1 = none ∧ state.ownership.swapper.clientQueue = [] ∧
          compositorAcquire state.ownership.swapper = none :=
  ⟨rfl, _, rfl, rfl, rfl, rfl⟩

end Mir.CompositingThreads
