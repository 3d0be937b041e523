import Mir.CirculationFrames
import Mir.SwapperOwnership

/-!
# Frames reach the compositor in order

`client_release` number `k` is submission `k`. What a `compositor_acquire` shows
is the latest submission of the buffer it returns. The runs here have any number
of client holders, one compositor that releases before it acquires again, and no
`shutdown`: a shutdown may hand a submitted but unseen buffer back to the client.
-/

namespace Mir.SwapperFrameOrder

open Mir.TransitionRuns Mir.SwapperModel Mir.SwapperOwnership Mir.CirculationFrames
open Mir.Circulation (Move)

set_option autoImplicit false

variable {Buffer : Type}

def withoutShutdown (state : Ownership Buffer) (call : Call) : Bool :=
  singleCompositor state call && call != .shutdown

def clientReleases (history : List Call) : List BufferID :=
  submissions (history.map Call.move)

/-- The submission number shown by each `compositor_acquire`, zero for a buffer
that no client had submitted yet. -/
def framesComposited (history : List Call) : List Nat :=
  framesShown (history.map Call.move)

def submissionsComposited (history : List Call) : Nat :=
  submissionsShown (history.map Call.move)

def callsSince (history : List Call) (number : Nat) : List (Move BufferID) :=
  sinceSubmission (history.map Call.move) (number - 1)

theorem without_shutdown_disciplined :
    (restrict withoutShutdown step : Ownership Buffer → Call → Option (Ownership Buffer)) =
      disciplined inOrder := by
  have same : (withoutShutdown : Ownership Buffer → Call → Bool) =
      fun state call => inOrder (view state) call.move := by
    funext state call
    cases call <;> rfl
  rw [disciplined, same]

variable {id : Buffer → BufferID} {bufferList : List Buffer}

theorem run_presents (several : 2 ≤ bufferList.length) (distinct : (bufferList.map id).Nodup)
    {history : List Call} {state : Ownership Buffer}
    (ran : run (restrict withoutShutdown step) (constructed id bufferList) history =
      some state) :
    Presented (bufferList.map id) (history.map Call.move) (submissionsComposited history)
        (view state) ∧
      Accounted id bufferList state := by
  rw [without_shutdown_disciplined] at ran
  obtain ⟨circulated, accounted⟩ := run_refines several distinct _ ran
  refine ⟨run_presented distinct ?_, accounted⟩
  rw [List.length_map]
  exact circulated

/-- Each `compositor_acquire` shows the next submission if one is waiting, and
otherwise the one shown last, which no client took back in between. -/
theorem compositor_shows_submissions_in_order (id : Buffer → BufferID)
    (bufferList : List Buffer) (several : 2 ≤ bufferList.length)
    (distinct : (bufferList.map id).Nodup) (history : List Call) (state : Ownership Buffer)
    (ran : run (restrict withoutShutdown step) (constructed id bufferList) history =
      some state)
    (shown : BufferID) (next : Ownership Buffer)
    (composited : restrict withoutShutdown step state (.compositorAcquire shown) = some next) :
    (state.swapper.compositorQueue ≠ [] →
        (clientReleases history)[submissionsComposited history]? = some shown) ∧
      (state.swapper.compositorQueue = [] → 1 ≤ submissionsComposited history →
        (clientReleases history)[submissionsComposited history - 1]? = some shown ∧
          (framesComposited history).getLast? = some (submissionsComposited history) ∧
          .take shown ∉ callsSince history (submissionsComposited history)) ∧
      (0 :: framesComposited (history ++ [.compositorAcquire shown])).IsChain
        fun frame following => following = frame ∨ following = frame + 1 := by
  obtain ⟨presented, accounted⟩ := run_presents several distinct ran
  obtain ⟨permitted, stepped⟩ := restrict_some.mp composited
  have allowed : inOrder (view state) (.present shown) = true := permitted
  have moved := step_moved several distinct accounted stepped
  rw [← List.length_map (f := id)] at moved
  obtain ⟨fresh, repeats⟩ := presented_item distinct moved allowed presented
  obtain ⟨count, after⟩ := moved_presented distinct moved allowed presented
  refine ⟨fresh, ?_, ?_⟩
  · intro nothing positive
    obtain ⟨submitted, untouched⟩ := repeats nothing positive
    exact ⟨submitted, counts_up_last presented.frames positive, untouched⟩
  · rw [framesComposited, List.map_append]
    exact after.frames.chain

/-- Triple buffering: two clients submit in the opposite order of their
acquisitions, and the compositor has shown the first submission. -/
def twoSubmissions : List Call :=
  [.clientAcquire ⟨1⟩, .clientAcquire ⟨2⟩, .clientRelease ⟨2⟩, .clientRelease ⟨1⟩,
    .compositorAcquire ⟨2⟩, .compositorRelease ⟨2⟩]

theorem second_submission_follows_first :
    ∃ state next, run (restrict withoutShutdown step)
        (constructed (fun key : BufferID => key) [⟨1⟩, ⟨2⟩, ⟨3⟩]) twoSubmissions = some state ∧
      restrict withoutShutdown step state (.compositorAcquire ⟨1⟩) = some next ∧
      (0 :: framesComposited (twoSubmissions ++ [.compositorAcquire ⟨1⟩])).IsChain
        fun frame following => following = frame ∨ following = frame + 1 := by
  obtain ⟨next, ran⟩ := Option.isSome_iff_exists.mp
    (show (run (restrict withoutShutdown step)
      (constructed (fun key : BufferID => key) [⟨1⟩, ⟨2⟩, ⟨3⟩])
      (twoSubmissions ++ [.compositorAcquire ⟨1⟩])).isSome = true by decide)
  obtain ⟨state, reached, composited⟩ := run_snoc_some ran
  have shows := compositor_shows_submissions_in_order (fun key : BufferID => key)
    [⟨1⟩, ⟨2⟩, ⟨3⟩] (by decide) (by decide) _ state reached ⟨1⟩ next composited
  exact ⟨state, next, reached, composited, shows.2.2⟩

end Mir.SwapperFrameOrder
