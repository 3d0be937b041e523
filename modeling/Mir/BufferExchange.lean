import Mir.ClientSurface
import Mir.SwapperOwnership

/-!
# One surface between its client, the server and the compositor

A `MirSurface`, the `SessionMediator` requests it makes, the server's surface
with its swapper, and one compositing thread. A request is handled in three steps
that other threads may run between: `advance_client_buffer` lets go of the old
buffer, it secures the next one (which may have to wait), and the handler fills in
the reply from `client_buffer()` and sends it. Requests and replies travel in
order; the transport itself is in `Mir.ResponseStream`.
-/

namespace Mir.BufferExchange

open Mir.TransitionRuns Mir.SwapperModel Mir.SwapperOwnership Mir.ClientSurface
open Mir.ProtocolMessages (bufferId)

set_option autoImplicit false

structure BufferIPCPackage where
  ipcData : List Int32
  ipcFds : List Int32
  stride : Int32

/-- What `create_surface` reports about the new surface besides its buffer. -/
structure SurfaceAttributes where
  id : Int32
  width : UInt32
  height : UInt32
  pixelFormat : Int32
  bufferUsage : Int32
  clientInputFd : Option Int32

/-- The environment: what the allocator's buffers and the new surface are like. -/
structure Server (Buffer : Type) where
  id : Buffer → BufferID
  getIpcPackage : Buffer → BufferIPCPackage
  attributes : SurfaceAttributes

/-- `TemporaryClientBuffer`: the reference and the id its destructor releases. -/
structure TemporaryClientBuffer (Buffer : Type) where
  buffer : Option Buffer
  bufferId : BufferID

inductive Request where
  | createSurface
  | nextBuffer
  deriving DecidableEq

inductive Reply where
  | surface (response : ProtocolMessages.Surface)
  | buffer (response : ProtocolMessages.Buffer)
  deriving DecidableEq

/-- Where the thread that handles this client's requests is. -/
inductive Handler where
  | idle
  | securing (request : Request)
  | secured (request : Request)
  deriving DecidableEq

variable {Buffer Content : Type}

section Replies

variable (server : Server Buffer)

/-- The buffer fields that `next_buffer` and `create_surface` both fill in. -/
def bufferResponse (buffer : Buffer) : ProtocolMessages.Buffer where
  bufferId := some (bufferId (server.id buffer))
  data := (server.getIpcPackage buffer).ipcData
  fd := (server.getIpcPackage buffer).ipcFds
  stride := some (server.getIpcPackage buffer).stride

def reply (buffer : Buffer) : Request → Reply
  | .nextBuffer => .buffer (bufferResponse server buffer)
  | .createSurface => .surface
      { id := some ⟨some server.attributes.id⟩
        width := some server.attributes.width.toInt32
        height := some server.attributes.height.toInt32
        pixelFormat := some server.attributes.pixelFormat
        bufferUsage := some server.attributes.bufferUsage
        fd := server.attributes.clientInputFd.toList
        buffer := some (bufferResponse server buffer) }

end Replies

structure Exchange (Buffer Content : Type) where
  client : MirSurface Content
  outstanding : Option Request
  requests : List Request
  handler : Handler
  clientBufferResource : Option (TemporaryClientBuffer Buffer)
  ownership : Ownership Buffer
  replies : List Reply

inductive Action (Content : Type) where
  | requestNextBuffer
  | resetClientBuffer
  | secureClientBuffer (dequeuedBuffer : BufferID)
  | sendReply
  | deliverReply (createBuffer : ClientBufferFactory Content)
  | graphicRegion (acquiredBuffer : BufferID)
  | passFinished (releasedBuffer : BufferID)

/-- `MirSurface::MirSurface` has sent `create_surface`. -/
def started (server : Server Buffer) (bufferList : List Buffer) : Exchange Buffer Content where
  client := requested
  outstanding := some .createSurface
  requests := [.createSurface]
  handler := .idle
  clientBufferResource := none
  ownership := constructed server.id bufferList
  replies := []

def receive (createBuffer : ClientBufferFactory Content) (client : MirSurface Content) :
    Reply → MirSurface Content
  | .surface response => created createBuffer response client
  | .buffer response => newBuffer createBuffer response client

def step (server : Server Buffer) (state : Exchange Buffer Content) :
    Action Content → Option (Exchange Buffer Content)
  | .requestNextBuffer =>
      if state.outstanding = none then
        some { state with
          client := nextBuffer state.client
          outstanding := some .nextBuffer
          requests := state.requests ++ [.nextBuffer] }
      else none
  | .resetClientBuffer => match state.handler, state.requests with
      | .idle, request :: rest => match state.clientBufferResource with
          | none => some { state with handler := .securing request, requests := rest }
          | some resource =>
              (SwapperOwnership.step state.ownership (.clientRelease resource.bufferId)).map
                fun ownership =>
                  { state with
                    handler := .securing request
                    requests := rest
                    clientBufferResource := none
                    ownership := ownership }
      | _, _ => none
  | .secureClientBuffer key => match state.handler with
      | .securing request => (clientAcquire state.ownership.swapper).bind fun acquired =>
          (SwapperOwnership.step state.ownership (.clientAcquire key)).map fun ownership =>
            { state with
              handler := .secured request
              clientBufferResource := some ⟨acquired.bufferReference, key⟩
              ownership := ownership }
      | _ => none
  | .sendReply => match state.handler, state.clientBufferResource with
      | .secured request, some ⟨some buffer, _⟩ => some { state with
          handler := .idle
          replies := state.replies ++ [reply server buffer request] }
      | _, _ => none
  | .deliverReply createBuffer => match state.replies with
      | [] => none
      | response :: rest => some { state with
          client := receive createBuffer state.client response
          outstanding := none
          replies := rest }
  | .graphicRegion key =>
      if state.ownership.compositorHeld = [] then
        (SwapperOwnership.step state.ownership (.compositorAcquire key)).map fun ownership =>
          { state with ownership := ownership }
      else none
  | .passFinished key =>
      (SwapperOwnership.step state.ownership (.compositorRelease key)).map fun ownership =>
        { state with ownership := ownership }

/-- The id of the buffer that a reply names. -/
def Reply.names : Reply → Option Int32
  | .surface response => (response.buffer.getD {}).bufferId
  | .buffer response => response.bufferId

theorem reply_names (server : Server Buffer) (buffer : Buffer) (request : Request) :
    (reply server buffer request).names = some (bufferId (server.id buffer)) := by
  cases request <;> rfl

theorem receive_draws_into (createBuffer : ClientBufferFactory Content)
    (client : MirSurface Content) {response : Reply} {id : Int32}
    (named : response.names = some id) : DrawsInto id (receive createBuffer client response) := by
  cases response with
  | surface response => exact process_draws_into createBuffer named
  | buffer response => exact process_draws_into createBuffer named

section Invariant

/-- The one request of the client is in exactly one place, and the surface has no
buffer of the client only while the handler is securing one. -/
inductive Phase (server : Server Buffer) (state : Exchange Buffer Content) : Prop where
  | idle (resource : TemporaryClientBuffer Buffer)
      (requester : state.outstanding = none) (sent : state.requests = [])
      (handling : state.handler = .idle) (answered : state.replies = [])
      (held : state.clientBufferResource = some resource)
      (draws : DrawsInto (bufferId resource.bufferId) state.client)
  | requested (request : Request)
      (requester : state.outstanding = some request) (sent : state.requests = [request])
      (handling : state.handler = .idle) (answered : state.replies = [])
  | securing (request : Request)
      (requester : state.outstanding = some request) (sent : state.requests = [])
      (handling : state.handler = .securing request) (answered : state.replies = [])
      (held : state.clientBufferResource = none)
  | secured (request : Request) (resource : TemporaryClientBuffer Buffer)
      (requester : state.outstanding = some request) (sent : state.requests = [])
      (handling : state.handler = .secured request) (answered : state.replies = [])
      (held : state.clientBufferResource = some resource)
  | replied (request : Request) (resource : TemporaryClientBuffer Buffer) (response : Reply)
      (requester : state.outstanding = some request) (sent : state.requests = [])
      (handling : state.handler = .idle) (answered : state.replies = [response])
      (held : state.clientBufferResource = some resource)
      (named : response.names = some (bufferId resource.bufferId))

structure Exchanged (server : Server Buffer) (bufferList : List Buffer)
    (state : Exchange Buffer Content) : Prop where
  accounted : Accounted server.id bufferList state.ownership
  held : state.ownership.clientHeld =
    (state.clientBufferResource.map TemporaryClientBuffer.bufferId).toList
  reference : ∀ resource, state.clientBufferResource = some resource →
    ∃ buffer, resource.buffer = some buffer ∧ server.id buffer = resource.bufferId
  phase : Phase server state

variable {server : Server Buffer} {bufferList : List Buffer}

theorem started_exchanged :
    Exchanged server bufferList (started server bufferList : Exchange Buffer Content) where
  accounted := constructed_accounted
  held := rfl
  reference := by simp [started]
  phase := .requested .createSurface rfl rfl rfl rfl

theorem phase_frame {state : Exchange Buffer Content} (phase : Phase server state)
    (ownership : Ownership Buffer) : Phase server { state with ownership := ownership } := by
  cases phase with
  | idle resource requester sent handling answered held draws =>
      exact .idle resource requester sent handling answered held draws
  | requested request requester sent handling answered =>
      exact .requested request requester sent handling answered
  | securing request requester sent handling answered held =>
      exact .securing request requester sent handling answered held
  | secured request resource requester sent handling answered held =>
      exact .secured request resource requester sent handling answered held
  | replied request resource response requester sent handling answered held named =>
      exact .replied request resource response requester sent handling answered held named

theorem phase_idle {state : Exchange Buffer Content} (phase : Phase server state)
    (free : state.outstanding = none) :
    state.requests = [] ∧ state.handler = .idle ∧ state.replies = [] ∧
      ∃ resource, state.clientBufferResource = some resource ∧
        DrawsInto (bufferId resource.bufferId) state.client := by
  cases phase with
  | idle resource requester sent handling answered held draws =>
      exact ⟨sent, handling, answered, resource, held, draws⟩
  | requested => simp_all
  | securing => simp_all
  | secured => simp_all
  | replied => simp_all

theorem phase_requested {state : Exchange Buffer Content} (phase : Phase server state)
    {request : Request} {rest : List Request} (received : state.requests = request :: rest) :
    rest = [] ∧ state.outstanding = some request ∧ state.replies = [] := by
  cases phase with
  | requested pending requester sent handling answered =>
      rw [sent, List.cons.injEq] at received
      exact ⟨received.2.symm, received.1 ▸ requester, answered⟩
  | idle => simp_all
  | securing => simp_all
  | secured => simp_all
  | replied => simp_all

theorem phase_securing {state : Exchange Buffer Content} (phase : Phase server state)
    {request : Request} (busy : state.handler = .securing request) :
    state.outstanding = some request ∧ state.requests = [] ∧ state.replies = [] ∧
      state.clientBufferResource = none := by
  cases phase with
  | securing pending requester sent handling answered held =>
      rw [busy, Handler.securing.injEq] at handling
      exact ⟨handling ▸ requester, sent, answered, held⟩
  | idle => simp_all
  | requested => simp_all
  | secured => simp_all
  | replied => simp_all

theorem phase_secured {state : Exchange Buffer Content} (phase : Phase server state)
    {request : Request} (busy : state.handler = .secured request) :
    state.outstanding = some request ∧ state.requests = [] ∧ state.replies = [] := by
  cases phase with
  | secured pending resource requester sent handling answered held =>
      rw [busy, Handler.secured.injEq] at handling
      exact ⟨handling ▸ requester, sent, answered⟩
  | idle => simp_all
  | requested => simp_all
  | securing => simp_all
  | replied => simp_all

theorem phase_replied {state : Exchange Buffer Content} (phase : Phase server state)
    {response : Reply} {rest : List Reply} (arrived : state.replies = response :: rest) :
    rest = [] ∧ state.requests = [] ∧ state.handler = .idle ∧
      ∃ resource, state.clientBufferResource = some resource ∧
        response.names = some (bufferId resource.bufferId) := by
  cases phase with
  | replied pending resource sentReply requester sent handling answered held named =>
      rw [answered, List.cons.injEq] at arrived
      exact ⟨arrived.2.symm, sent, handling, resource, held, arrived.1 ▸ named⟩
  | idle => simp_all
  | requested => simp_all
  | securing => simp_all
  | secured => simp_all

theorem acquired_reference (distinct : (bufferList.map server.id).Nodup)
    {ownership : Ownership Buffer} (accounted : Accounted server.id bufferList ownership)
    {acquired : Acquired Buffer} (succeeded : clientAcquire ownership.swapper = some acquired) :
    ∃ buffer, acquired.bufferReference = some buffer ∧
      server.id buffer = acquired.dequeuedBuffer := by
  obtain ⟨-, reference, rest, queue, -⟩ := client_acquire_spec succeeded
  have registered : acquired.dequeuedBuffer ∈ bufferList.map server.id := by
    apply accounted.conserved.partition.mem_iff.mp
    simp [Circulation.contents, view, queue]
  obtain ⟨buffer, member, same⟩ := List.mem_map.mp registered
  have found := fill_lookup server.id bufferList distinct buffer member
  rw [← accounted.registry, same] at found
  rw [subscript_found found] at reference
  exact ⟨buffer, reference, same⟩

theorem compositor_exchanged (several : 2 ≤ bufferList.length)
    (distinct : (bufferList.map server.id).Nodup) {state : Exchange Buffer Content}
    (exchanged : Exchanged server bufferList state) {call : Call} {ownership : Ownership Buffer}
    (called : SwapperOwnership.step state.ownership call = some ownership)
    (untouched : ownership.clientHeld = state.ownership.clientHeld) :
    Exchanged server bufferList { state with ownership := ownership } where
  accounted := step_accounted several distinct exchanged.accounted called
  held := untouched.trans exchanged.held
  reference := exchanged.reference
  phase := phase_frame exchanged.phase ownership

theorem request_exchanged {state next : Exchange Buffer Content}
    (exchanged : Exchanged server bufferList state)
    (stepped : step server state .requestNextBuffer = some next) :
    Exchanged server bufferList next := by
  simp only [step] at stepped
  split_ifs at stepped with free
  cases stepped
  rcases phase_idle exchanged.phase free with ⟨sent, handling, answered, -⟩
  exact ⟨exchanged.accounted, exchanged.held, exchanged.reference,
    .requested .nextBuffer rfl (by simp [sent]) handling answered⟩

theorem reset_exchanged (several : 2 ≤ bufferList.length)
    (distinct : (bufferList.map server.id).Nodup) {state next : Exchange Buffer Content}
    (exchanged : Exchanged server bufferList state)
    (stepped : step server state .resetClientBuffer = some next) :
    Exchanged server bufferList next := by
  simp only [step] at stepped
  split at stepped
  case h_2 => cases stepped
  next request rest free received =>
    rcases phase_requested exchanged.phase received with ⟨rfl, requester, answered⟩
    split at stepped
    · next nothing =>
        cases stepped
        exact ⟨exchanged.accounted, exchanged.held, exchanged.reference,
          .securing request requester rfl rfl answered nothing⟩
    · next resource current =>
        rcases Option.map_eq_some_iff.mp stepped with ⟨ownership, released, rfl⟩
        rcases step_held released with ⟨-, clients, -⟩
        constructor
        · exact step_accounted several distinct exchanged.accounted released
        · simp [clients, exchanged.held, current]
        · simp
        · exact .securing request requester rfl rfl answered rfl

theorem secure_exchanged (several : 2 ≤ bufferList.length)
    (distinct : (bufferList.map server.id).Nodup) {state next : Exchange Buffer Content}
    {key : BufferID} (exchanged : Exchanged server bufferList state)
    (stepped : step server state (.secureClientBuffer key) = some next) :
    Exchanged server bufferList next := by
  simp only [step] at stepped
  split at stepped
  case h_2 => cases stepped
  next request busy =>
    rcases Option.bind_eq_some_iff.mp stepped with ⟨acquired, succeeded, handed⟩
    rcases Option.map_eq_some_iff.mp handed with ⟨ownership, taken, rfl⟩
    rcases phase_securing exchanged.phase busy with ⟨requester, sent, answered, nothing⟩
    rcases step_held taken with ⟨clients, -⟩
    have same : acquired.dequeuedBuffer = key := by
      simp only [SwapperOwnership.step, succeeded, Option.bind_some] at taken
      split_ifs at taken with same
      exact same
    constructor
    · exact step_accounted several distinct exchanged.accounted taken
    · simp [clients, exchanged.held, nothing]
    · intro resource current
      cases current
      rw [← same]
      exact acquired_reference distinct exchanged.accounted succeeded
    · exact .secured request _ requester sent rfl answered rfl

theorem reply_exchanged {state next : Exchange Buffer Content}
    (exchanged : Exchanged server bufferList state)
    (stepped : step server state .sendReply = some next) :
    Exchanged server bufferList next := by
  simp only [step] at stepped
  split at stepped
  case h_2 => cases stepped
  next request buffer key busy current =>
    cases stepped
    rcases phase_secured exchanged.phase busy with ⟨requester, sent, answered⟩
    rcases exchanged.reference _ current with ⟨named, reference, sameId⟩
    cases reference
    have names : (reply server buffer request).names = some (bufferId key) := by
      rw [reply_names, sameId]
    exact ⟨exchanged.accounted, exchanged.held, exchanged.reference,
      .replied request _ _ requester sent rfl (by simp [answered]) current names⟩

theorem deliver_exchanged {state next : Exchange Buffer Content}
    {createBuffer : ClientBufferFactory Content} (exchanged : Exchanged server bufferList state)
    (stepped : step server state (.deliverReply createBuffer) = some next) :
    Exchanged server bufferList next := by
  simp only [step] at stepped
  split at stepped
  · cases stepped
  · next response rest arrived =>
      cases stepped
      rcases phase_replied exchanged.phase arrived with
        ⟨rfl, sent, handling, resource, held, named⟩
      have draws := receive_draws_into createBuffer state.client named
      exact ⟨exchanged.accounted, exchanged.held, exchanged.reference,
        .idle resource rfl sent handling rfl held draws⟩

theorem step_exchanged (several : 2 ≤ bufferList.length)
    (distinct : (bufferList.map server.id).Nodup) {state next : Exchange Buffer Content}
    {action : Action Content} (exchanged : Exchanged server bufferList state)
    (stepped : step server state action = some next) : Exchanged server bufferList next := by
  cases action with
  | requestNextBuffer => exact request_exchanged exchanged stepped
  | resetClientBuffer => exact reset_exchanged several distinct exchanged stepped
  | secureClientBuffer key => exact secure_exchanged several distinct exchanged stepped
  | sendReply => exact reply_exchanged exchanged stepped
  | deliverReply createBuffer => exact deliver_exchanged exchanged stepped
  | graphicRegion key =>
      simp only [step] at stepped
      split_ifs at stepped
      obtain ⟨ownership, acquired, rfl⟩ := Option.map_eq_some_iff.mp stepped
      obtain ⟨clients, -⟩ := step_held acquired
      exact compositor_exchanged several distinct exchanged acquired clients
  | passFinished key =>
      obtain ⟨ownership, released, rfl⟩ := Option.map_eq_some_iff.mp stepped
      obtain ⟨-, clients, -⟩ := step_held released
      exact compositor_exchanged several distinct exchanged released clients

theorem run_exchanged (several : 2 ≤ bufferList.length)
    (distinct : (bufferList.map server.id).Nodup) {actions : List (Action Content)}
    {finish : Exchange Buffer Content}
    (ran : run (step server) (started server bufferList) actions = some finish) :
    Exchanged server bufferList finish :=
  run_invariant (Exchanged server bufferList) started_exchanged
    (fun _ _ _ exchanged stepped => step_exchanged several distinct exchanged stepped) ran

end Invariant

/-- Whenever the client has no request outstanding, the buffer it draws into is the
one the server holds for it, and neither a queue nor the compositing pass has it. -/
theorem idle_client_has_its_buffer_alone (server : Server Buffer) (bufferList : List Buffer)
    (several : 2 ≤ bufferList.length) (distinct : (bufferList.map server.id).Nodup)
    (actions : List (Action Content)) (state : Exchange Buffer Content)
    (ran : run (step server) (started server bufferList) actions = some state)
    (free : state.outstanding = none) :
    ∃ buffer key, state.clientBufferResource = some ⟨some buffer, key⟩ ∧
      server.id buffer = key ∧
      (∀ current, state.client.bufferDepository.currentBufferIter = some current →
        current = bufferId (server.id buffer)) ∧
      (state.client.errorLog = [] →
        state.client.bufferDepository.currentBufferIter = some (bufferId (server.id buffer))) ∧
      key ∉ state.ownership.swapper.clientQueue ∧
      key ∉ state.ownership.swapper.compositorQueue ∧
      key ∉ state.ownership.compositorHeld := by
  have exchanged := run_exchanged several distinct ran
  rcases phase_idle exchanged.phase free with ⟨-, -, -, ⟨reference, key⟩, current, draws⟩
  rcases exchanged.reference _ current with ⟨buffer, rfl, rfl⟩
  have held : state.ownership.clientHeld = [server.id buffer] := by
    rw [exchanged.held, current]
    rfl
  have apart := Circulation.conserved_nodup exchanged.accounted.conserved distinct
  simp only [Circulation.contents, view, held, List.nodup_append, List.mem_append,
    List.mem_singleton] at apart
  refine ⟨buffer, server.id buffer, current, rfl, draws.current, draws.denoted, ?_, ?_, ?_⟩
  · intro queued
    exact apart.1.2.2 _ (.inl queued) _ rfl rfl
  · intro queued
    exact apart.1.2.2 _ (.inr queued) _ rfl rfl
  · intro shown
    exact apart.2.2 _ (.inr rfl) _ shown rfl

def smallServer : Server BufferID where
  id := fun key => key
  getIpcPackage := fun _ => ⟨[], [5], 2560⟩
  attributes := ⟨0, 640, 480, 1, 1, none⟩

/-- A surface is created and shows its first frame, with a pass that is still busy
with the other buffer when the request arrives and one that shows the frame. -/
def firstFrame : List (Action Unit) :=
  [.resetClientBuffer, .secureClientBuffer ⟨1⟩, .graphicRegion ⟨2⟩, .sendReply,
    .deliverReply fun _ _ _ => .ok (), .requestNextBuffer, .resetClientBuffer,
    .passFinished ⟨2⟩, .secureClientBuffer ⟨2⟩, .graphicRegion ⟨1⟩, .sendReply,
    .deliverReply fun _ _ _ => .ok ()]

theorem second_buffer_is_the_clients_alone :
    ∃ state, run (step smallServer) (started smallServer [⟨1⟩, ⟨2⟩]) firstFrame = some state ∧
      state.outstanding = none ∧ state.client.errorLog = [] ∧
      ∃ buffer key, state.clientBufferResource = some ⟨some buffer, key⟩ ∧
        state.client.bufferDepository.currentBufferIter =
          some (bufferId (smallServer.id buffer)) ∧
        key ∉ state.ownership.swapper.clientQueue ∧
        key ∉ state.ownership.swapper.compositorQueue ∧
        key ∉ state.ownership.compositorHeld := by
  obtain ⟨state, ran, idle, silent⟩ : ∃ state,
      run (step smallServer) (started smallServer [⟨1⟩, ⟨2⟩]) firstFrame = some state ∧
        state.outstanding = none ∧ state.client.errorLog = [] := ⟨_, rfl, rfl, rfl⟩
  obtain ⟨buffer, key, held, -, -, denoted, apart⟩ :=
    idle_client_has_its_buffer_alone smallServer [⟨1⟩, ⟨2⟩] (by decide) (by decide) firstFrame
      state ran idle
  exact ⟨state, ran, idle, silent, buffer, key, held, denoted silent, apart⟩

end Mir.BufferExchange
