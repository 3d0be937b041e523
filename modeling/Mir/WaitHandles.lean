import Mir.ProtocolMessages
import Mir.TransitionRuns

/-!
# Wait handles of a `MirSurface`

The requests that an application thread makes of one surface, their replies in
order, and `mir_wait_for`. `next_buffer` and `configure` have one handle each, that
all of their requests return. A `waitFor` is the moment when `wait_for_result`
returns: the application thread does nothing else before, and spurious wake-ups
only test the condition once more.
-/

namespace Mir.WaitHandles

open Mir.ProtocolMessages Mir.TransitionRuns

set_option autoImplicit false

/-- Both counters are an `int`, so that they have no value past `intMax`. -/
structure MirWaitHandle where
  expecting : Nat
  received : Nat
  deriving DecidableEq, Repr

def intMax : Nat := 2 ^ 31 - 1

def expectResult (handle : MirWaitHandle) : MirWaitHandle :=
  { handle with expecting := handle.expecting + 1 }

def resultReceived (handle : MirWaitHandle) : MirWaitHandle :=
  { handle with received := handle.received + 1 }

/-- The condition of the loop in `wait_for_result`. -/
def waits (handle : MirWaitHandle) : Bool :=
  (handle.expecting = 0 && handle.received = 0) || handle.received < handle.expecting

inductive Request where
  | nextBuffer
  | configure
  deriving DecidableEq, Repr

/-- `missed` are the requests whose reply came without a call of `result_received`. -/
structure Client where
  surfaceId : Int32
  surfaceType : Int32
  nextBufferWaitHandle : MirWaitHandle
  configureWaitHandle : MirWaitHandle
  awaited : List Request
  missed : List Request
  deriving DecidableEq, Repr

def created (surfaceId : Int32) : Client where
  surfaceId := surfaceId
  surfaceType := 0
  nextBufferWaitHandle := ⟨0, 0⟩
  configureWaitHandle := ⟨0, 0⟩
  awaited := []
  missed := []

inductive Event where
  | nextBuffer
  | configure
  | newBuffer
  | onConfigured (configureResult : SurfaceSetting)
  | waitFor (request : Request)
  deriving DecidableEq, Repr

/-- `mir_surface_attrib_type` has the value 0; any other attribute fails the assertion. -/
def onConfigured (client : Client) (configureResult : SurfaceSetting) : Option Client :=
  if configureResult.surfaceid.isSome ∧
      (configureResult.surfaceid.getD {}).value.getD 0 = client.surfaceId ∧
      configureResult.attrib.isSome then
    if configureResult.attrib = some 0 ∧ client.configureWaitHandle.received < intMax then
      some { client with
        surfaceType := configureResult.ivalue.getD client.surfaceType
        configureWaitHandle := resultReceived client.configureWaitHandle }
    else none
  else some { client with missed := client.missed ++ [.configure] }

def reply (client : Client) (request : Request) (complete : Client → Option Client) :
    Option Client :=
  match client.awaited with
  | [] => none
  | oldest :: later =>
      if oldest = request then complete { client with awaited := later } else none

/-- The run ends where a counter overflows. -/
def step (client : Client) : Event → Option Client
  | .nextBuffer => some { client with awaited := client.awaited ++ [.nextBuffer] }
  | .configure =>
      if client.configureWaitHandle.expecting < intMax then
        some { client with
          configureWaitHandle := expectResult client.configureWaitHandle
          awaited := client.awaited ++ [.configure] }
      else none
  | .newBuffer => reply client .nextBuffer fun client =>
      if client.nextBufferWaitHandle.received < intMax then
        some { client with nextBufferWaitHandle := resultReceived client.nextBufferWaitHandle }
      else none
  | .onConfigured configureResult =>
      reply client .configure fun client => onConfigured client configureResult
  | .waitFor .nextBuffer =>
      if waits client.nextBufferWaitHandle then none
      else some { client with nextBufferWaitHandle := ⟨0, 0⟩ }
  | .waitFor .configure =>
      if waits client.configureWaitHandle then none
      else some { client with configureWaitHandle := ⟨0, 0⟩ }

/-- `result_received` has been called for every request that returned this handle. -/
def Completed (client : Client) (request : Request) : Prop :=
  request ∉ client.awaited ∧ request ∉ client.missed

/-- The calls of `next_buffer` since its handle was last waited for. -/
def unwaited (events : List Event) : Nat :=
  events.foldl
    (fun count event => match event with
      | .nextBuffer => count + 1
      | .waitFor .nextBuffer => 0
      | _ => count)
    0

/-- The application never makes more than `limit` calls of `next_buffer` between waits. -/
def AtMost (limit : Nat) (events : List Event) : Prop :=
  ∀ earlier later, events = earlier ++ later → unwaited earlier ≤ limit

section Steps

variable {client next : Client}

def outstanding (client : Client) (request : Request) : Nat :=
  client.awaited.count request + client.missed.count request

theorem completed_iff {request : Request} :
    Completed client request ↔ outstanding client request = 0 := by
  simp [Completed, outstanding, List.count_eq_zero]

theorem reply_some {request : Request} {complete : Client → Option Client}
    (replied : reply client request complete = some next) :
    ∃ later, client.awaited = request :: later ∧
      complete { client with awaited := later } = some next := by
  unfold reply at replied
  split at replied
  · cases replied
  · next oldest later queue =>
      split_ifs at replied with same
      exact ⟨later, same ▸ queue, replied⟩

theorem on_configured_some {configureResult : SurfaceSetting}
    (configured : onConfigured client configureResult = some next) :
    (∃ surfaceType, next = { client with
        surfaceType := surfaceType
        configureWaitHandle := resultReceived client.configureWaitHandle }) ∨
      next = { client with missed := client.missed ++ [.configure] } := by
  unfold onConfigured at configured
  split_ifs at configured with matched fits
  · cases configured
    exact .inl ⟨_, rfl⟩
  · cases configured
    exact .inr rfl

theorem wait_returns {handle : MirWaitHandle} (returned : ¬waits handle = true) :
    handle.expecting ≤ handle.received ∧ 0 < handle.received := by
  simp only [waits, Bool.or_eq_true, Bool.and_eq_true, decide_eq_true_eq] at returned
  omega

def Effect (client next : Client) : Event → Prop
  | .nextBuffer =>
      next.nextBufferWaitHandle = client.nextBufferWaitHandle ∧
      next.configureWaitHandle = client.configureWaitHandle ∧
      outstanding next .nextBuffer = outstanding client .nextBuffer + 1 ∧
      outstanding next .configure = outstanding client .configure
  | .configure =>
      next.nextBufferWaitHandle = client.nextBufferWaitHandle ∧
      next.configureWaitHandle = expectResult client.configureWaitHandle ∧
      outstanding next .nextBuffer = outstanding client .nextBuffer ∧
      outstanding next .configure = outstanding client .configure + 1
  | .newBuffer =>
      next.nextBufferWaitHandle = resultReceived client.nextBufferWaitHandle ∧
      next.configureWaitHandle = client.configureWaitHandle ∧
      outstanding next .nextBuffer + 1 = outstanding client .nextBuffer ∧
      outstanding next .configure = outstanding client .configure
  | .onConfigured _ =>
      next.nextBufferWaitHandle = client.nextBufferWaitHandle ∧
      outstanding next .nextBuffer = outstanding client .nextBuffer ∧
      (next.configureWaitHandle = resultReceived client.configureWaitHandle ∧
          outstanding next .configure + 1 = outstanding client .configure ∨
        next.configureWaitHandle = client.configureWaitHandle ∧
          outstanding next .configure = outstanding client .configure)
  | .waitFor .nextBuffer =>
      ¬waits client.nextBufferWaitHandle = true ∧
      next = { client with nextBufferWaitHandle := ⟨0, 0⟩ }
  | .waitFor .configure =>
      ¬waits client.configureWaitHandle = true ∧
      next = { client with configureWaitHandle := ⟨0, 0⟩ }

theorem step_effect {event : Event} (stepped : step client event = some next) :
    Effect client next event := by
  cases event with
  | nextBuffer =>
      cases stepped
      simp [Effect, outstanding, Nat.add_right_comm]
  | configure =>
      simp only [step] at stepped
      split_ifs at stepped
      cases stepped
      simp [Effect, outstanding, Nat.add_right_comm]
  | newBuffer =>
      simp only [step] at stepped
      obtain ⟨later, queue, completed⟩ := reply_some stepped
      split_ifs at completed
      cases completed
      simp [Effect, outstanding, queue, Nat.add_right_comm]
  | onConfigured configureResult =>
      simp only [step] at stepped
      obtain ⟨later, queue, configured⟩ := reply_some stepped
      rcases on_configured_some configured with ⟨surfaceType, rfl⟩ | rfl
      · simp [Effect, outstanding, queue, Nat.add_right_comm]
      · simp [Effect, outstanding, queue, Nat.add_right_comm, Nat.add_assoc]
  | waitFor request =>
      cases request with
      | nextBuffer =>
          simp only [step] at stepped
          split_ifs at stepped with waiting
          exact ⟨waiting, (Option.some.inj stepped).symm⟩
      | configure =>
          simp only [step] at stepped
          split_ifs at stepped with waiting
          exact ⟨waiting, (Option.some.inj stepped).symm⟩

end Steps

section Configure

variable {client next : Client}

/-- Every `configure` is expected, so it is either received or open. -/
def ConfigureCounted (client : Client) : Prop :=
  client.configureWaitHandle.expecting =
    client.configureWaitHandle.received + outstanding client .configure

theorem step_configure_counted {event : Event} (counted : ConfigureCounted client)
    (stepped : step client event = some next) : ConfigureCounted next := by
  have effect := step_effect stepped
  unfold ConfigureCounted at counted ⊢
  cases event with
  | nextBuffer =>
      obtain ⟨-, handle, -, same⟩ := effect
      rw [handle, same, counted]
  | configure =>
      obtain ⟨-, handle, -, more⟩ := effect
      rw [handle, expectResult, counted, more]
      rfl
  | newBuffer =>
      obtain ⟨-, handle, -, same⟩ := effect
      rw [handle, same, counted]
  | onConfigured configureResult =>
      obtain ⟨-, -, ⟨handle, fewer⟩ | ⟨handle, same⟩⟩ := effect
      · simp only [handle, resultReceived]
        omega
      · rw [handle, same, counted]
  | waitFor request =>
      cases request with
      | nextBuffer =>
          obtain ⟨-, rfl⟩ := effect
          exact counted
      | configure =>
          obtain ⟨returned, rfl⟩ := effect
          have bounds := wait_returns returned
          change 0 = 0 + outstanding client .configure
          omega

theorem configure_waits_completed {surfaceId : Int32} {events : List Event}
    (ran : run step (created surfaceId) (events ++ [.waitFor .configure]) = some client) :
    Completed client .configure := by
  obtain ⟨before, reached, stepped⟩ := run_snoc_some ran
  have counted : ConfigureCounted before := by
    apply run_invariant ConfigureCounted _ _ reached
    · rfl
    · intro state event after counted moved
      exact step_configure_counted counted moved
  obtain ⟨returned, rfl⟩ := step_effect stepped
  have bounds := wait_returns returned
  rw [completed_iff]
  change outstanding before .configure = 0
  unfold ConfigureCounted at counted
  omega

end Configure

section NextBuffer

variable {client next : Client}

/-- Without `expect_result` the handle only says how many results have come. -/
structure NextBufferCounted (events : List Event) (client : Client) : Prop where
  unexpected : client.nextBufferWaitHandle.expecting = 0
  counted : unwaited events =
    client.nextBufferWaitHandle.received + outstanding client .nextBuffer

theorem at_most_snoc {limit : Nat} {events : List Event} {event : Event}
    (few : AtMost limit (events ++ [event])) : AtMost limit events := by
  intro earlier later split
  apply few earlier (later ++ [event])
  rw [split, List.append_assoc]

theorem unwaited_snoc (events : List Event) (event : Event) :
    unwaited (events ++ [event]) = match event with
      | .nextBuffer => unwaited events + 1
      | .waitFor .nextBuffer => 0
      | _ => unwaited events := by
  rw [unwaited, List.foldl_append]
  rfl

theorem step_next_buffer_counted {events : List Event} {event : Event}
    (few : unwaited events ≤ 1) (holds : NextBufferCounted events client)
    (stepped : step client event = some next) : NextBufferCounted (events ++ [event]) next := by
  obtain ⟨unexpected, counted⟩ := holds
  have effect := step_effect stepped
  cases event with
  | nextBuffer =>
      obtain ⟨handle, -, more, -⟩ := effect
      refine ⟨by rw [handle, unexpected], ?_⟩
      rw [unwaited_snoc, handle, more, counted]
      rfl
  | configure =>
      obtain ⟨handle, -, same, -⟩ := effect
      refine ⟨by rw [handle, unexpected], ?_⟩
      rw [unwaited_snoc, handle, same]
      exact counted
  | newBuffer =>
      obtain ⟨handle, -, fewer, -⟩ := effect
      refine ⟨by rw [handle]; exact unexpected, ?_⟩
      simp only [unwaited_snoc, handle, resultReceived]
      omega
  | onConfigured configureResult =>
      obtain ⟨handle, same, -⟩ := effect
      refine ⟨by rw [handle, unexpected], ?_⟩
      rw [unwaited_snoc, handle, same]
      exact counted
  | waitFor request =>
      cases request with
      | nextBuffer =>
          obtain ⟨returned, rfl⟩ := effect
          have bounds := wait_returns returned
          refine ⟨rfl, ?_⟩
          rw [unwaited_snoc]
          change 0 = 0 + outstanding client .nextBuffer
          omega
      | configure =>
          obtain ⟨-, rfl⟩ := effect
          refine ⟨unexpected, ?_⟩
          rw [unwaited_snoc]
          exact counted

theorem next_buffer_waits_completed {surfaceId : Int32} {events : List Event}
    (ran : run step (created surfaceId) (events ++ [.waitFor .nextBuffer]) = some client)
    (few : AtMost 1 events) : Completed client .nextBuffer := by
  obtain ⟨before, reached, stepped⟩ := run_snoc_some ran
  have holds : NextBufferCounted events before := by
    apply run_history_invariant
      (fun history state => AtMost 1 history → NextBufferCounted history state) _ _ reached few
    · intro _
      exact ⟨rfl, rfl⟩
    · intro history state event after counted moved bound
      have earlier := at_most_snoc bound
      have small := earlier history [] (List.append_nil _).symm
      exact step_next_buffer_counted small (counted earlier) moved
  obtain ⟨returned, rfl⟩ := step_effect stepped
  have bounds := wait_returns returned
  have counted := holds.counted
  have small := few events [] (List.append_nil _).symm
  rw [completed_iff]
  change outstanding before .nextBuffer = 0
  omega

end NextBuffer

section Waiting

theorem at_most_mono {limit more : Nat} {events : List Event} (le : limit ≤ more)
    (few : AtMost limit events) : AtMost more events :=
  fun earlier later split => (few earlier later split).trans le

def overlappingCalls : List Event := [.nextBuffer, .nextBuffer, .newBuffer]

theorem unwaited_le_count (events : List Event) : unwaited events ≤ events.count .nextBuffer := by
  induction events using List.reverseRecOn with
  | nil => rfl
  | append_singleton earlier event ih =>
      rw [unwaited_snoc, List.count_append]
      split
      · rw [List.count_singleton_self]
        omega
      · omega
      · omega

theorem overlapping_calls_at_most : AtMost 2 overlappingCalls := by
  intro earlier later split
  have total : overlappingCalls.count .nextBuffer = 2 := rfl
  have bound := unwaited_le_count earlier
  rw [split, List.count_append] at total
  omega

/-- A wait for `configure` is always right. A wait for `next_buffer` is, in an
application that calls it at most `limit` times between two waits, exactly if that
is never more than once. -/
theorem waiting_means_completed_iff (surfaceId : Int32) (limit : Nat) :
    (∀ events client,
      run step (created surfaceId) (events ++ [.waitFor .configure]) = some client →
        Completed client .configure) ∧
    ((∀ events client,
      run step (created surfaceId) (events ++ [.waitFor .nextBuffer]) = some client →
        AtMost limit events → Completed client .nextBuffer) ↔ limit ≤ 1) := by
  refine ⟨fun events client ran => configure_waits_completed ran, ?_, ?_⟩
  · intro completes
    by_contra several
    have more : 2 ≤ limit := by omega
    have completed := completes overlappingCalls _ rfl
      (at_most_mono more overlapping_calls_at_most)
    exact completed.1 (by simp)
  · intro single events client ran few
    exact next_buffer_waits_completed ran (at_most_mono single few)

theorem wait_returns_before_reply :
    ∃ client, run step (created 1) (overlappingCalls ++ [.waitFor .nextBuffer]) = some client ∧
      client.awaited = [.nextBuffer] ∧ ¬Completed client .nextBuffer :=
  ⟨_, rfl, rfl, by simp [Completed]⟩

end Waiting

end Mir.WaitHandles
