import Mir.SwapperOwnership

/-!
# A swapper driven by one surface

`ms::Surface` keeps the client's buffer in `client_buffer_resource`, one buffer
at most, and `advance_client_buffer` resets it before it secures the next one. A
compositing pass keeps what `graphic_region` returned among its saved resources
until `post_update` has returned. `shutdown` reaches the swapper from
`SessionManager::shutdown` and from `~Surface`, in the latter case while
`client_buffer_resource` is still alive and a pass may not have finished.
-/

namespace Mir.SurfaceBuffers

open Mir.TransitionRuns Mir.SwapperModel Mir.SwapperOwnership

set_option autoImplicit false

variable {Buffer : Type}

def surfaceDriven (state : Ownership Buffer) (call : Call) : Bool :=
  singleCompositor state call &&
    match call with
    | .clientAcquire _ => state.clientHeld.isEmpty
    | _ => true

theorem surface_driven_disciplined :
    (restrict surfaceDriven step : Ownership Buffer → Call → Option (Ownership Buffer)) =
      disciplined fun stock move =>
        Circulation.singleConsumer stock move && Circulation.singleProducer stock move := by
  have same : (surfaceDriven : Ownership Buffer → Call → Bool) =
      fun state call => Circulation.singleConsumer (view state) call.move &&
        Circulation.singleProducer (view state) call.move := by
    funext state call
    cases call <;> rfl
  rw [disciplined, same]

variable {id : Buffer → BufferID} {bufferList : List Buffer}

structure Driven (id : Buffer → BufferID) (bufferList : List Buffer)
    (state : Ownership Buffer) : Prop where
  accounted : Accounted id bufferList state
  oneClient : state.clientHeld.length ≤ 1
  onePass : state.compositorHeld.length ≤ 1

theorem run_driven (several : 2 ≤ bufferList.length) (distinct : (bufferList.map id).Nodup)
    {calls : List Call} {finish : Ownership Buffer}
    (ran : run (restrict surfaceDriven step) (constructed id bufferList) calls = some finish) :
    Driven id bufferList finish := by
  rw [surface_driven_disciplined] at ran
  obtain ⟨circulated, accounted⟩ := run_refines several distinct _ ran
  have single := run_invariant
    (fun stock => stock.drawn.length ≤ 1 ∧ stock.shown.length ≤ 1)
    (by simp [Circulation.start])
    (fun _ _ _ single stepped => by
      obtain ⟨allowed, stocked⟩ := restrict_some.mp stepped
      obtain ⟨consumer, producer⟩ := Bool.and_eq_true_iff.mp allowed
      have moved := Circulation.step_moved stocked
      exact ⟨Circulation.moved_single_producer moved producer single.1,
        Circulation.moved_single_consumer moved consumer single.2⟩)
    circulated
  exact ⟨accounted, single.1, single.2⟩

section Shutdown

theorem shutdown_defined_iff (swapper : BufferSwapperMulti Buffer) :
    (shutdown swapper).isSome = true ↔
      swapper.clientQueue ≠ [] ∨ swapper.compositorQueue ≠ [] := by
  unfold shutdown
  cases swapper.clientQueue <;> cases swapper.compositorQueue <;> simp

theorem driven_shutdown_iff {state : Ownership Buffer} (driven : Driven id bufferList state)
    (several : 2 ≤ bufferList.length) :
    (shutdown state.swapper).isSome = true ↔
      2 < bufferList.length ∨ state.clientHeld = [] ∨ state.compositorHeld = [] := by
  obtain ⟨accounted, oneClient, onePass⟩ := driven
  have available := Circulation.conserved_available accounted.conserved
  simp only [view, List.length_map] at available
  rw [shutdown_defined_iff, available, ← List.length_eq_zero_iff, ← List.length_eq_zero_iff]
  omega

/-- A surface can be shut down in every state, except that with two buffers it
must not happen while the client and a compositing pass hold one each: then both
queues are empty and `shutdown` takes the front of an empty deque. -/
theorem shutdown_safe_iff (id : Buffer → BufferID) (bufferList : List Buffer)
    (several : 2 ≤ bufferList.length) (distinct : (bufferList.map id).Nodup)
    (calls : List Call) (state : Ownership Buffer)
    (ran : run (restrict surfaceDriven step) (constructed id bufferList) calls = some state) :
    (∃ swapper, shutdown state.swapper = some swapper ∧
        (swapper.clientQueue ++ swapper.compositorQueue ++
          state.clientHeld ++ state.compositorHeld).Perm (bufferList.map id)) ↔
      2 < bufferList.length ∨ state.clientHeld = [] ∨ state.compositorHeld = [] := by
  have driven := run_driven several distinct ran
  rw [← driven_shutdown_iff driven several, Option.isSome_iff_exists]
  constructor
  · intro ⟨swapper, succeeded, _⟩
    exact ⟨swapper, succeeded⟩
  · intro ⟨swapper, succeeded⟩
    have called : step state .shutdown = some { state with swapper := swapper } := by
      simp [step, succeeded]
    have after := step_accounted several distinct driven.accounted called
    exact ⟨swapper, succeeded, after.conserved.partition⟩

/-- With two buffers a surface that only the client uses can be shut down. -/
theorem shutdown_safe_between_passes :
    ∃ state, run (restrict surfaceDriven step)
        (constructed (fun key : BufferID => key) [⟨1⟩, ⟨2⟩]) [.clientAcquire ⟨1⟩] = some state ∧
      ∃ swapper, shutdown state.swapper = some swapper ∧
        (swapper.clientQueue ++ swapper.compositorQueue ++
          state.clientHeld ++ state.compositorHeld).Perm [⟨1⟩, ⟨2⟩] := by
  obtain ⟨state, ran, idle⟩ : ∃ state, run (restrict surfaceDriven step)
      (constructed (fun key : BufferID => key) [⟨1⟩, ⟨2⟩]) [.clientAcquire ⟨1⟩] = some state ∧
        state.compositorHeld = [] := ⟨_, rfl, rfl⟩
  refine ⟨state, ran, ?_⟩
  exact (shutdown_safe_iff (fun key : BufferID => key) [⟨1⟩, ⟨2⟩] (by decide) (by decide)
    [.clientAcquire ⟨1⟩] state ran).mpr (.inr (.inr idle))

/-- A surface is created, a pass begins, and the surface is destroyed. -/
def destroyedDuringPass : List Call := [.clientAcquire ⟨1⟩, .compositorAcquire ⟨2⟩]

theorem shutdown_pops_empty_queue :
    initializeQueues (fun key : BufferID => key) [⟨1⟩, ⟨2⟩] =
        .ok (fillQueues (fun key => key) [⟨1⟩, ⟨2⟩]) ∧
      ∃ state, run (restrict surfaceDriven step)
          (constructed (fun key : BufferID => key) [⟨1⟩, ⟨2⟩]) destroyedDuringPass =
            some state ∧
        shutdown state.swapper = none :=
  ⟨rfl, _, rfl, rfl⟩

end Shutdown

section AfterShutdown

def resetClientBuffer (state : Ownership Buffer) : Ownership Buffer :=
  match state.clientHeld with
  | [] => state
  | key :: rest =>
      { state with swapper := clientRelease state.swapper key, clientHeld := rest }

/-- `advance_client_buffer`, with no result when `client_acquire` has to wait. -/
def advanceClientBuffer (state : Ownership Buffer) : Option (Ownership Buffer) :=
  (clientAcquire (resetClientBuffer state).swapper).map fun acquired =>
    { resetClientBuffer state with
      swapper := acquired.swapper
      clientHeld := (resetClientBuffer state).clientHeld ++ [acquired.dequeuedBuffer] }

/-- `count` requests of one client, one after the other, that find nobody else
using the swapper. A client that is already blocked in `client_acquire` holds
nothing, and its blocked call is then the first of them. -/
def serveRequests : Nat → Ownership Buffer → Option (Ownership Buffer)
  | 0, state => some state
  | count + 1, state => (advanceClientBuffer state).bind (serveRequests count)

theorem reset_driven (several : 2 ≤ bufferList.length) (distinct : (bufferList.map id).Nodup)
    {state : Ownership Buffer} (driven : Driven id bufferList state) :
    Driven id bufferList (resetClientBuffer state) ∧
      (resetClientBuffer state).clientHeld = [] ∧
      (resetClientBuffer state).swapper.clientQueue = state.swapper.clientQueue := by
  obtain ⟨accounted, oneClient, onePass⟩ := driven
  unfold resetClientBuffer
  split
  · next nothing => exact ⟨⟨accounted, oneClient, onePass⟩, nothing, rfl⟩
  · next key rest held =>
      have only : rest = [] := by
        rw [held, List.length_cons] at oneClient
        exact List.length_eq_zero_iff.mp (by omega)
      have released : step state (.clientRelease key) = some
          { state with swapper := clientRelease state.swapper key, clientHeld := rest } := by
        simp [step, held]
      have after := step_accounted several distinct accounted released
      exact ⟨⟨after, by simp [only], onePass⟩, only, rfl⟩

theorem advance_of_acquire {state next : Ownership Buffer} {key : BufferID}
    (acquired : step (resetClientBuffer state) (.clientAcquire key) = some next) :
    advanceClientBuffer state = some next := by
  obtain ⟨result, succeeded, handed⟩ := Option.bind_eq_some_iff.mp acquired
  split_ifs at handed with same
  cases handed
  simp [advanceClientBuffer, succeeded, same]

theorem acquire_ready (several : 2 ≤ bufferList.length) (distinct : (bufferList.map id).Nodup)
    {state : Ownership Buffer} (driven : Driven id bufferList state)
    (nothing : state.clientHeld = []) {front : BufferID} {rest : List BufferID}
    (queue : state.swapper.clientQueue = front :: rest) :
    ∃ next, step state (.clientAcquire front) = some next ∧ Driven id bufferList next ∧
      next.swapper.clientQueue = rest := by
  have acquired := client_acquire_front several distinct driven.accounted queue
    (by simp only [nothing, List.length_nil]; omega)
  have called : step state (.clientAcquire front) = some
      { state with
        swapper := { state.swapper with
          clientQueue := rest
          inUseByClient := state.swapper.inUseByClient + 1 }
        clientHeld := state.clientHeld ++ [front] } := by
    simp [step, acquired]
  exact ⟨_, called, ⟨step_accounted several distinct driven.accounted called, by simp [nothing],
    driven.onePass⟩, rfl⟩

/-- A request is served without waiting exactly when a buffer is ready, and each
one served leaves one buffer less: only the compositor makes buffers ready. -/
theorem advance_uses_ready (several : 2 ≤ bufferList.length)
    (distinct : (bufferList.map id).Nodup) {state : Ownership Buffer}
    (driven : Driven id bufferList state) :
    match state.swapper.clientQueue with
    | [] => advanceClientBuffer state = none
    | _ :: rest => ∃ next, advanceClientBuffer state = some next ∧
        Driven id bufferList next ∧ next.swapper.clientQueue = rest := by
  rcases reset_driven several distinct driven with ⟨reset, nothing, sameQueue⟩
  cases queue : state.swapper.clientQueue with
  | nil =>
      have waits := (accounted_must_wait several distinct reset.accounted).mpr
        (.inl (sameQueue.trans queue))
      simp [advanceClientBuffer, clientAcquire, waits]
  | cons front rest =>
      rcases acquire_ready several distinct reset nothing (sameQueue.trans queue) with
        ⟨next, called, after, shorter⟩
      exact ⟨next, advance_of_acquire called, after, shorter⟩

theorem serve_requests_iff (several : 2 ≤ bufferList.length)
    (distinct : (bufferList.map id).Nodup) (count : Nat) {state : Ownership Buffer}
    (driven : Driven id bufferList state) :
    (serveRequests count state).isSome = true ↔ count ≤ state.swapper.clientQueue.length := by
  induction count generalizing state with
  | zero => simp [serveRequests]
  | succ count ih =>
      have used := advance_uses_ready several distinct driven
      cases queue : state.swapper.clientQueue with
      | nil =>
          simp only [queue] at used
          simp [serveRequests, used]
      | cons front rest =>
          simp only [queue] at used
          obtain ⟨next, served, after, shorter⟩ := used
          simp only [serveRequests, served, Option.bind_some, ih after, shorter,
            List.length_cons, Nat.succ_le_succ_iff]

/-- After the compositor has been stopped and the surface shut down, the client's
next requests are served without waiting up to the number of buffers that are
ready then, and the one after that waits for good. -/
theorem requests_after_shutdown_iff (id : Buffer → BufferID) (bufferList : List Buffer)
    (several : 2 ≤ bufferList.length) (distinct : (bufferList.map id).Nodup)
    (calls : List Call) (state : Ownership Buffer)
    (ran : run (restrict surfaceDriven step) (constructed id bufferList) calls = some state)
    (stopped : state.compositorHeld = []) :
    ∃ after, step state .shutdown = some after ∧
      ∀ count, (serveRequests count after).isSome = true ↔
        count ≤ max 1 state.swapper.clientQueue.length := by
  have driven := run_driven several distinct ran
  obtain ⟨swapper, succeeded⟩ := Option.isSome_iff_exists.mp
    ((driven_shutdown_iff driven several).mpr (.inr (.inr stopped)))
  have called : step state .shutdown = some { state with swapper := swapper } := by
    simp [step, succeeded]
  refine ⟨_, called, fun count => ?_⟩
  have ready := Circulation.moved_ready_length
    (step_moved several distinct driven.accounted called)
  simp only [Call.move, view] at ready
  have after : Driven id bufferList { state with swapper := swapper } :=
    ⟨step_accounted several distinct driven.accounted called, driven.oneClient, driven.onePass⟩
  rw [serve_requests_iff several distinct count after, ready]

/-- A client of a double-buffered surface has two frames waiting for a compositor
that has been stopped, and is blocked in its next request. -/
def blockedClient : List Call :=
  [.clientAcquire ⟨1⟩, .clientRelease ⟨1⟩, .clientAcquire ⟨2⟩, .clientRelease ⟨2⟩]

theorem blocked_client_served_once :
    ∃ state, run (restrict surfaceDriven step)
        (constructed (fun key : BufferID => key) [⟨1⟩, ⟨2⟩]) blockedClient = some state ∧
      ∃ after, step state .shutdown = some after ∧
        ∀ count, (serveRequests count after).isSome = true ↔
          count ≤ max 1 state.swapper.clientQueue.length := by
  obtain ⟨state, ran, idle⟩ : ∃ state, run (restrict surfaceDriven step)
      (constructed (fun key : BufferID => key) [⟨1⟩, ⟨2⟩]) blockedClient = some state ∧
        state.compositorHeld = [] := ⟨_, rfl, rfl⟩
  exact ⟨state, ran, requests_after_shutdown_iff (fun key : BufferID => key) [⟨1⟩, ⟨2⟩]
    (by decide) (by decide) blockedClient state ran idle⟩

theorem second_request_waits_after_shutdown :
    ∃ state after, run (restrict surfaceDriven step)
        (constructed (fun key : BufferID => key) [⟨1⟩, ⟨2⟩]) blockedClient = some state ∧
      state.compositorHeld = [] ∧ clientMustWait state.swapper = true ∧
      step state .shutdown = some after ∧
      (serveRequests 1 after).isSome = true ∧ serveRequests 2 after = none :=
  ⟨_, _, rfl, rfl, rfl, rfl, rfl, rfl⟩

end AfterShutdown

end Mir.SurfaceBuffers
