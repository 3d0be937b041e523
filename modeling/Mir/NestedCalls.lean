import Mir.PendingCalls

/-!
# Calls made from completion closures

`PendingCallCache` with its mutex and the threads that lock it. `complete_response`
runs on the thread of the I/O service and holds the mutex while the closure runs. The
closure ends in application code that may call the channel again, on the same thread.
The calls that a closure makes are part of the call it completes, so a call is a tree.
-/

namespace Mir.NestedCalls

open Mir.PendingCalls Mir.ProtocolMessages Mir.TransitionRuns

set_option autoImplicit false

inductive Thread where
  | ioService
  | application (index : Nat)
  deriving DecidableEq, Repr

/-- A call of `CallMethod`, with the calls that its closure makes. -/
inductive Call where
  | method (response : Address) (request : Text) (nested : List Call)

def Call.response : Call → Address
  | .method response _ _ => response

def Call.request : Call → Text
  | .method _ request _ => request

def Call.nested : Call → List Call
  | .method _ _ nested => nested

/-- Where a thread is in `CallMethod`. -/
inductive Phase where
  | saving (id : Int32) (call : Call)
  | sending (id : Int32) (call : Call)

def Phase.call : Phase → Call
  | .saving _ call => call
  | .sending _ call => call

/-- `closures` is what the saved completion details run, and `running` is the closure that
the thread of the I/O service runs now, with the calls it still has to make. -/
structure Client (Message : Type) where
  channel : Channel Message
  mutex : Option Thread
  closures : Int32 → List Call
  running : Option (Int32 × List Call)
  calling : Thread → Option Phase
  sent : List (Int32 × Call)
  finished : List Int32

inductive Event (Message : Type) where
  | invoke (index : Nat) (call : Call)
  | invokeNested
  | saveCompletionDetails (thread : Thread)
  | sendMessage (thread : Thread)
  | completeResponse (result : WireResult)
  | eraseCall
  | store (address : Address) (message : Message)

variable {Message : Type}

def created (messages : Address → Message) : Client Message where
  channel := PendingCalls.created messages
  mutex := none
  closures := fun _ => []
  running := none
  calling := fun _ => none
  sent := []
  finished := []

section Steps

variable (parse : Address → Text → Message)

/-- `CallMethod` up to the call of `save_completion_details`. -/
def invocationFor (client : Client Message) (thread : Thread) (call : Call) :
    Option (Client Message) :=
  let id := client.channel.nextMessageId
  match client.calling thread with
  | some _ => none
  | none => (PendingCalls.step parse client.channel (.nextId id)).map fun channel =>
      { client with
        channel := channel
        calling := Function.update client.calling thread (some (.saving id call)) }

/-- `complete_response` up to the return of the closure: the lock, the look-up, and the
parsed response. -/
def beginResponse (client : Client Message) (result : WireResult) : Client Message :=
  match client.channel.pendingCalls.lookup (callOf result) with
  | none => client
  | some completion =>
      let messages := Function.update client.channel.messages completion.response
        (parse completion.response (result.response.getD []))
      { client with
        mutex := some .ioService
        channel := { client.channel with
          messages := messages
          completions := client.channel.completions ++
            [⟨callOf result, completion.response, messages completion.response⟩] }
        running := some (callOf result, client.closures (callOf result)) }

def endResponse (client : Client Message) (id : Int32) : Client Message :=
  { client with
    mutex := none
    channel := { client.channel with pendingCalls := client.channel.pendingCalls.erase id }
    running := none
    finished := client.finished ++ [id] }

def step (client : Client Message) : Event Message → Option (Client Message)
  | .invoke index call => invocationFor parse client (.application index) call
  | .invokeNested => match client.running with
      | some (id, call :: rest) =>
          invocationFor parse { client with running := some (id, rest) } .ioService call
      | _ => none
  | .saveCompletionDetails thread => match client.calling thread, client.mutex with
      | some (.saving id call), none =>
          (PendingCalls.step parse client.channel
              (.saveCompletionDetails id call.response)).map fun channel =>
            { client with
              channel := channel
              closures := Function.update client.closures id call.nested
              calling := Function.update client.calling thread (some (.sending id call)) }
      -- a mutex that is held is waited for, also by the thread that holds it
      | _, _ => none
  | .sendMessage thread => match client.calling thread with
      | some (.sending id call) =>
          (PendingCalls.step parse client.channel (.sendMessage id call.request)).map
            fun channel =>
              { client with
                channel := channel
                calling := Function.update client.calling thread none
                sent := client.sent ++ [(id, call)] }
      | _ => none
  | .completeResponse result => match client.running, client.mutex with
      | none, none => some (beginResponse parse client result)
      | _, _ => none
  | .eraseCall => match client.running, client.calling .ioService with
      | some (id, []), none => some (endResponse client id)
      | _, _ => none
  | .store address message =>
      (PendingCalls.step parse client.channel (.store address message)).map fun channel =>
        { client with channel := channel }

end Steps

/-- A thread is about to lock the mutex that it holds. -/
def LocksItself (client : Client Message) (thread : Thread) : Prop :=
  client.mutex = some thread ∧ ∃ id call, client.calling thread = some (.saving id call)

def Issues (issues : Call → Prop) (events : List (Event Message)) : Prop :=
  ∀ index call, .invoke index call ∈ events → issues call

/-- In every run of such an application no thread locks itself out, and every closure that
has begun can run to its end, with all its calls saved and sent. -/
structure RunsToEnd (parse : Address → Text → Message) (messages : Address → Message)
    (issues : Call → Prop) : Prop where
  unlocked : ∀ events client, Issues issues events →
    run (step parse) (created messages) events = some client →
    ∀ thread, ¬LocksItself client thread
  completed : ∀ events client id nested, Issues issues events →
    run (step parse) (created messages) events = some client →
    client.running = some (id, nested) →
    ∃ later finish, run (step parse) client later = some finish ∧ id ∈ finish.finished ∧
      ∀ call ∈ nested, ∃ other, (other, call) ∈ finish.sent

section Responses

variable (parse : Address → Text → Message) (client : Client Message)

/-- A closure that makes no call leaves the channel as if `complete_response` were one
step. -/
theorem end_begin_response {result : WireResult}
    (pending : (client.channel.pendingCalls.lookup (callOf result)).isSome) :
    (endResponse (beginResponse parse client result) (callOf result)).channel =
      PendingCalls.completeResponse parse client.channel result := by
  obtain ⟨completion, found⟩ := Option.isSome_iff_exists.mp pending
  simp only [beginResponse, PendingCalls.completeResponse, found, endResponse]

theorem begin_response_cases (result : WireResult) :
    beginResponse parse client result = client ∨
      (beginResponse parse client result).mutex = some .ioService ∧
      (beginResponse parse client result).calling = client.calling ∧
      (beginResponse parse client result).closures = client.closures ∧
      (beginResponse parse client result).running =
        some (callOf result, client.closures (callOf result)) := by
  unfold beginResponse
  cases client.channel.pendingCalls.lookup (callOf result) with
  | none => exact .inl rfl
  | some completion => exact .inr ⟨rfl, rfl, rfl, rfl⟩

end Responses

section Flat

variable {parse : Address → Text → Message} {client next : Client Message}

/-- Only the application is in `CallMethod`, with calls whose closures make none. -/
structure PlainPhases (calling : Thread → Option Phase) : Prop where
  service : calling .ioService = none
  plain : ∀ thread phase, calling thread = some phase → phase.call.nested = []

theorem plain_phases_update {calling : Thread → Option Phase} (phases : PlainPhases calling)
    (index : Nat) {phase : Option Phase}
    (plain : ∀ entered, phase = some entered → entered.call.nested = []) :
    PlainPhases (Function.update calling (.application index) phase) := by
  constructor
  · rw [Function.update_of_ne (by simp)]
    exact phases.service
  · intro thread entered called
    by_cases same : thread = .application index
    · subst same
      rw [Function.update_self] at called
      exact plain entered called
    · rw [Function.update_of_ne same] at called
      exact phases.plain thread entered called

theorem plain_phases_application {calling : Thread → Option Phase} (phases : PlainPhases calling)
    {thread : Thread} {phase : Phase} (called : calling thread = some phase) :
    ∃ index, thread = .application index := by
  cases thread with
  | ioService => simp [phases.service] at called
  | application index => exact ⟨index, rfl⟩

structure Flat (client : Client Message) : Prop where
  calling : PlainPhases client.calling
  closures : ∀ id, client.closures id = []
  running : ∀ id nested, client.running = some (id, nested) → nested = []
  holder : ∀ thread, client.mutex = some thread → thread = .ioService

theorem created_flat (messages : Address → Message) : Flat (created messages) where
  calling := ⟨rfl, by simp [created]⟩
  closures := fun _ => rfl
  running := by simp [created]
  holder := by simp [created]

theorem invocation_for_some {thread : Thread} {call : Call}
    (invoked : invocationFor parse client thread call = some next) :
    ∃ id channel, next = { client with
      channel := channel
      calling := Function.update client.calling thread (some (.saving id call)) } := by
  unfold invocationFor at invoked
  cases busy : client.calling thread with
  | some phase => simp [busy] at invoked
  | none =>
      simp only [busy] at invoked
      obtain ⟨channel, -, rfl⟩ := Option.map_eq_some_iff.mp invoked
      exact ⟨_, channel, rfl⟩

theorem step_flat {event : Event Message} (flat : Flat client)
    (plain : ∀ index call, event = .invoke index call → call.nested = [])
    (stepped : step parse client event = some next) : Flat next := by
  cases event with
  | invoke index call =>
      obtain ⟨id, channel, rfl⟩ := invocation_for_some stepped
      refine ⟨plain_phases_update flat.calling index ?_, flat.closures, flat.running, flat.holder⟩
      rintro entered ⟨⟩
      exact plain index call rfl
  | invokeNested =>
      simp only [step] at stepped
      split at stepped
      · next id call rest running => simpa using flat.running id _ running
      · cases stepped
  | saveCompletionDetails thread =>
      simp only [step] at stepped
      split at stepped
      · next id call called free =>
          obtain ⟨channel, -, rfl⟩ := Option.map_eq_some_iff.mp stepped
          obtain ⟨index, rfl⟩ := plain_phases_application flat.calling called
          have nested : call.nested = [] := flat.calling.plain _ _ called
          refine ⟨plain_phases_update flat.calling index ?_, ?_, flat.running, flat.holder⟩
          · rintro entered ⟨⟩
            exact nested
          · intro other
            by_cases same : other = id
            · subst same
              simp [nested]
            · simp [Function.update_of_ne same, flat.closures]
      · cases stepped
  | sendMessage thread =>
      simp only [step] at stepped
      split at stepped
      · next id call called =>
          obtain ⟨channel, -, rfl⟩ := Option.map_eq_some_iff.mp stepped
          obtain ⟨index, rfl⟩ := plain_phases_application flat.calling called
          exact ⟨plain_phases_update flat.calling index (by simp), flat.closures, flat.running,
            flat.holder⟩
      · cases stepped
  | completeResponse result =>
      simp only [step] at stepped
      split at stepped
      · cases stepped
        rcases begin_response_cases parse client result with same |
          ⟨mutex, calling, closures, running⟩
        · rw [same]
          exact flat
        · refine ⟨calling ▸ flat.calling, closures ▸ flat.closures, ?_, ?_⟩
          · intro id nested begun
            rw [running, flat.closures] at begun
            cases begun
            rfl
          · intro thread held
            rw [mutex] at held
            cases held
            rfl
      · cases stepped
  | eraseCall =>
      simp only [step] at stepped
      split at stepped
      · cases stepped
        exact ⟨flat.calling, flat.closures, by simp [endResponse], by simp [endResponse]⟩
      · cases stepped
  | store address message =>
      cases stepped
      exact ⟨flat.calling, flat.closures, flat.running, flat.holder⟩

theorem run_flat {messages : Address → Message} {issues : Call → Prop}
    (plain : ∀ call, issues call → call.nested = []) {events : List (Event Message)}
    (issued : Issues issues events)
    (ran : run (step parse) (created messages) events = some client) : Flat client := by
  apply run_history_invariant (fun history state => Issues issues history → Flat state)
    (fun _ => created_flat messages) _ ran issued
  intro history state event after flat stepped issued
  apply step_flat (flat fun index call member => issued index call (by simp [member])) _ stepped
  rintro index call rfl
  exact plain call (issued index call (by simp))

theorem flat_unlocked (flat : Flat client) (thread : Thread) : ¬LocksItself client thread := by
  rintro ⟨held, id, call, called⟩
  rw [flat.holder thread held, flat.calling.service] at called
  cases called

theorem flat_completes (flat : Flat client) {id : Int32} {nested : List Call}
    (running : client.running = some (id, nested)) :
    step parse client .eraseCall = some (endResponse client id) := by
  rw [flat.running id nested running] at running
  simp only [step, running, flat.calling.service]

end Flat

section Deadlock

variable {parse : Address → Text → Message} {client next : Client Message}

/-- The closure waits for the mutex that its own thread holds. -/
structure Deadlocked (client : Client Message) : Prop where
  locked : LocksItself client .ioService
  begun : client.running.isSome

theorem step_deadlocked {event : Event Message} (deadlocked : Deadlocked client)
    (stepped : step parse client event = some next) :
    Deadlocked next ∧ next.finished = client.finished := by
  obtain ⟨⟨held, id, call, called⟩, begun⟩ := deadlocked
  cases event with
  | invoke index other =>
      obtain ⟨drawn, channel, rfl⟩ := invocation_for_some stepped
      refine ⟨⟨⟨held, id, call, ?_⟩, begun⟩, rfl⟩
      simp [called]
  | invokeNested =>
      simp only [step] at stepped
      split at stepped
      · simp [invocationFor, called] at stepped
      · cases stepped
  | saveCompletionDetails thread => simp [step, held] at stepped
  | sendMessage thread =>
      simp only [step] at stepped
      split at stepped
      · next sent other sending =>
          obtain ⟨channel, -, rfl⟩ := Option.map_eq_some_iff.mp stepped
          have different : Thread.ioService ≠ thread := by
            rintro rfl
            simp [called] at sending
          refine ⟨⟨⟨held, id, call, ?_⟩, begun⟩, rfl⟩
          simp [Function.update_of_ne different, called]
      · cases stepped
  | completeResponse result => simp [step, held] at stepped
  | eraseCall => simp [step, called] at stepped
  | store address message =>
      cases stepped
      exact ⟨⟨⟨held, id, call, called⟩, begun⟩, rfl⟩

theorem run_deadlocked {events : List (Event Message)} (deadlocked : Deadlocked client)
    (ran : run (step parse) client events = some next) : next.finished = client.finished := by
  have kept : Deadlocked next ∧ next.finished = client.finished := by
    apply run_invariant (fun state => Deadlocked state ∧ state.finished = client.finished)
      ⟨deadlocked, rfl⟩ _ ran
    rintro state event after ⟨before, same⟩ stepped
    obtain ⟨again, unchanged⟩ := step_deadlocked before stepped
    exact ⟨again, unchanged.trans same⟩
  exact kept.2

end Deadlock

section Callbacks

/-- The call is answered, and its closure makes the first of its own calls. -/
def callback (call : Call) : List (Event Message) :=
  [.invoke 0 call, .saveCompletionDetails (.application 0), .sendMessage (.application 0),
    .completeResponse ⟨some 0, some []⟩, .invokeNested]

theorem callback_locks_itself (parse : Address → Text → Message) (messages : Address → Message)
    (response : Address) (request : Text) (first : Call) (rest : List Call) :
    ∃ client, run (step parse) (created messages)
        (callback (.method response request (first :: rest))) = some client ∧
      client.running = some (0, rest) ∧ LocksItself client .ioService :=
  ⟨_, rfl, rfl, rfl, 1, first, rfl⟩

theorem runs_to_end_iff (parse : Address → Text → Message) (messages : Address → Message)
    (issues : Call → Prop) :
    RunsToEnd parse messages issues ↔ ∀ call, issues call → call.nested = [] := by
  constructor
  · rintro safe ⟨response, request, nested⟩ issued
    cases nested with
    | nil => rfl
    | cons first rest =>
        obtain ⟨client, ran, -, locked⟩ :=
          callback_locks_itself parse messages response request first rest
        refine absurd locked (safe.unlocked _ client ?_ ran _)
        intro index call member
        simp only [callback, List.mem_cons, Event.invoke.injEq, reduceCtorEq, List.not_mem_nil,
          or_false] at member
        exact member.2 ▸ issued
  · intro plain
    constructor
    · intro events client issued ran thread
      exact flat_unlocked (run_flat plain issued ran) thread
    · intro events client id nested issued ran running
      have flat := run_flat plain issued ran
      refine ⟨[.eraseCall], endResponse client id, ?_, ?_, ?_⟩
      · rw [run_single, flat_completes flat running]
      · simp [endResponse]
      · simp [flat.running id nested running]

/-- A callback of `mir_surface_create` that calls `mir_surface_next_buffer`. -/
def createThenNextBuffer : Call := .method 10 [1] [.method 20 [2] []]

theorem callback_never_returns :
    ∃ client, run (step fun _ text => text) (created fun _ => [])
        (callback createThenNextBuffer) = some client ∧
      LocksItself client .ioService ∧
      ∀ later finish, run (step fun _ text => text) client later = some finish →
        finish.finished = [] := by
  obtain ⟨client, ran, deadlocked, unfinished⟩ : ∃ client,
      run (step fun _ text => text) (created fun _ => []) (callback createThenNextBuffer) =
        some client ∧ Deadlocked client ∧ client.finished = [] :=
    ⟨_, rfl, ⟨⟨rfl, 1, .method 20 [2] [], rfl⟩, rfl⟩, rfl⟩
  refine ⟨client, ran, deadlocked.locked, ?_⟩
  intro later finish continued
  exact (run_deadlocked deadlocked continued).trans unfinished

end Callbacks

end Mir.NestedCalls
