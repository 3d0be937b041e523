import Mir.MessageFraming
import Mir.PendingCalls
import Mir.RequestReplies

/-!
# A connection from end to end

A client with its `MirSocketRpcChannel`, the `SocketSession` and the message processor of the
server, and the two byte streams between them. The client makes calls without waiting for the
results, and each side reads when there is something to read. It is taken that the writes of
the client do not overlap, so its requests are in the stream one after the other.
-/

namespace Mir.RemoteCalls

open Mir.TransitionRuns Mir.ProtocolMessages Mir.RequestMessages Mir.ResponseStream
open Mir.MessageFraming Mir.MessageProcessor Mir.SessionMediator
open Mir.PendingCalls (firstIds id_succ id_of_nat_injective)

set_option autoImplicit false

structure Call where
  method : Method
  parameters : Text
  deriving DecidableEq, Repr

def methodName : Method → String
  | .connect => "connect"
  | .createSurface => "create_surface"
  | .nextBuffer => "next_buffer"
  | .releaseSurface => "release_surface"
  | .testFileDescriptors => "test_file_descriptors"
  | .drmAuthMagic => "drm_auth_magic"
  | .selectFocusByLightdmId => "select_focus_by_lightdm_id"
  | .configureSurface => "configure_surface"
  | .disconnect => "disconnect"

/-- The response message that a stub of the client gives to `CallMethod`. -/
def resultType : Method → ResultType
  | .connect => .connection
  | .createSurface => .surface
  | .nextBuffer => .buffer
  | .releaseSurface => .void
  | .testFileDescriptors => .buffer
  | .drmAuthMagic => .drmAuthMagicStatus
  | .selectFocusByLightdmId => .void
  | .configureSurface => .surfaceSetting
  | .disconnect => .void

/-- The generated code for `wire::Invocation`, as the client writes it and the server reads it. -/
structure Wire (protobuf : Protobuf) where
  invocationBody : UInt32 → String → Text → Text
  parse_invocation : ∀ id name parameters,
    protobuf.parser.invocation (invocationBody id name parameters) =
      ⟨some id, some (ascii name), some parameters⟩

/-- `requests` are the bytes that the server has not read, and the bytes that the client has
not read are the stream of its channel. -/
structure Link (Server Resource : Type) where
  nextMessageId : Int32
  requests : Text
  displayServer : Server
  resources : ResourceCache Resource
  reading : Bool
  channel : ResponseStream.Channel

inductive Event where
  | call (call : Call)
  | serve (key : MessageAddress)
  | receive

variable {Server Resource : Type}

def linked (origin : Server) : Link Server Resource where
  nextMessageId := 0
  requests := []
  displayServer := origin
  resources := ∅
  reading := true
  channel := ⟨[], ∅, [], []⟩

/-- `on_read_size` and what `on_new_message` finds in the buffer. -/
def readRequest (unread : Text) : Option (Text × Text) :=
  let size := onReadSize (unread.take 2)
  if 2 + size ≤ unread.length then some ((unread.drop 2).take size, unread.drop (2 + size))
  else none

def sentItems (effects : List (Effect Resource)) : List Item :=
  effects.filterMap fun effect => match effect with
    | .sent item => some item
    | _ => none

section Steps

variable {protobuf : Protobuf} (wire : Wire protobuf)
  (displayServer : DisplayServer Server Resource)

def requestBody (id : Int32) (call : Call) : Text :=
  wire.invocationBody id.toUInt32 (methodName call.method) call.parameters

def callMethod (link : Link Server Resource) (call : Call) : Link Server Resource :=
  let id := link.nextMessageId
  { link with
    nextMessageId := id + 1
    requests := link.requests ++ wholeMessage headerBytes (requestBody wire id call)
    channel := { link.channel with
      pendingCalls := link.channel.pendingCalls.insert id (resultType call.method) } }

variable (protobuf) in
/-- `on_new_message`: the session reads on if `process_message` says so. -/
def onNewMessage (link : Link Server Resource) (key : MessageAddress) :
    Option (Link Server Resource) := do
  let (body, unread) ← readRequest link.requests
  let (more, after) ← processMessage protobuf displayServer body key
    ⟨link.displayServer, link.resources, []⟩
  let written ← writeItems (sentItems after.effects)
  some { link with
    requests := unread
    displayServer := after.displayServer
    resources := after.resources
    reading := more
    channel := { link.channel with stream := link.channel.stream ++ written } }

def step (link : Link Server Resource) : Event → Option (Link Server Resource)
  | .call call => some (callMethod wire link call)
  | .serve key => if link.reading then onNewMessage protobuf displayServer link key else none
  | .receive => (readMessage protobuf.codec link.channel).map fun channel =>
      { link with channel := channel }

end Steps

section Local

variable (protobuf : Protobuf) (displayServer : DisplayServer Server Resource)

/-- The same call without a connection: the method itself, with its exception as an error. -/
def localCall (call : Call) (server : Server) : Option (Response × Server) :=
  (handle protobuf displayServer call.method call.parameters server).map fun handled =>
    (answer protobuf handled, handled.displayServer)

def localCalls (calls : List Call) (server : Server) : Option (List Response × Server) :=
  calls.foldlM
    (fun past call => (localCall protobuf displayServer call past.2).map fun result =>
      (past.1 ++ [result.1], result.2))
    ([], server)

def counted {Message : Type} [FdMessage Message] (message : Message) : Message :=
  FdMessage.withFds message (FdMessage.fd message)
    (some (Int32.ofNat (FdMessage.fd message).length))

/-- A response with the descriptors counted that go on the side channel. -/
def countedResponse : Response → Response
  | .buffer message => .buffer (counted message)
  | .connection message => .connection { message with platform := message.platform.map counted }
  | .surface message => .surface { message with buffer := message.buffer.map counted }
  | response => response

/-- A call is completed under its number with the response of the local call, which has its
descriptors. Only a surface comes without those of its own, which are not sent. -/
structure Completes (answer : Response × Nat) (completion : Int32 × Response) : Prop where
  id : completion.1 = Int32.ofNat answer.2
  whole : ownFds answer.1 = [] → completion.2 = countedResponse answer.1
  surface : ∀ message, answer.1 = .surface message →
    completion.2 = countedResponse (.surface { message with fd := [] })

end Local

section Requests

theorem method_of_name (method : Method) : methodOf (ascii (methodName method)) = some method := by
  cases method <;> decide

theorem read_request_message {body : Text} (short : body.length < 65536) (unread : Text) :
    readRequest (wholeMessage headerBytes body ++ unread) = some (body, unread) := by
  have said : onReadSize (headerBytes body.length) = body.length := header_round_trip _ short
  have front : (wholeMessage headerBytes body ++ unread).take 2 = headerBytes body.length := by
    rw [wholeMessage, List.append_assoc, List.take_left' (header_bytes_length _)]
  have behind : (wholeMessage headerBytes body ++ unread).drop 2 = body ++ unread := by
    rw [wholeMessage, List.append_assoc, List.drop_left' (header_bytes_length _)]
  have later : (wholeMessage headerBytes body ++ unread).drop (2 + body.length) = unread := by
    rw [← List.drop_drop, behind, List.drop_left]
  have enough : 2 + body.length ≤ (wholeMessage headerBytes body ++ unread).length := by
    rw [wholeMessage, List.length_append, List.length_append, header_bytes_length]
    omega
  rw [readRequest, front, said, if_pos enough, behind, later, List.take_left]

theorem read_request_nothing : readRequest [] = none := rfl

variable {protobuf : Protobuf} (displayServer : DisplayServer Server Resource)

theorem handle_type {method : Method} {parameters : Text} {server : Server}
    {handled : Handled Server Resource Response}
    (called : handle protobuf displayServer method parameters server = some handled) :
    handled.response.resultType = resultType method := by
  cases method <;>
    (obtain ⟨inner, -, rfl⟩ := Option.map_eq_some_iff.mp called; rfl)

theorem sent_items_reply (id : UInt32) (key : MessageAddress)
    (handled : Handled Server Resource Response) (state : Processor Server Resource)
    (quiet : state.effects = []) :
    sentItems (reply protobuf id key handled state).effects =
      ResponseStream.sendResponse protobuf.codec id (answer protobuf handled) := by
  have frees : sentItems (if isFreed (answer protobuf handled) then [.freed key] else [] :
      List (Effect Resource)) = [] := by
    split <;> rfl
  have saves : sentItems (handled.saved.map (.saved key : Resource → Effect Resource)) = [] := by
    simp [sentItems]
  have sends : ∀ items : List Item,
      sentItems (items.map (.sent : Item → Effect Resource)) = items := by
    intro items
    simp [sentItems]
  rw [reply_effects, quiet, List.nil_append]
  simp only [sentItems, List.filterMap_append] at frees saves sends ⊢
  rw [frees, saves, sends, List.nil_append, List.append_nil]

end Requests

section Replies

variable {protobuf : Protobuf}

theorem receive_delivered (response : Response) (unset : SideChannelUnset response)
    (written unread : Stream)
    (sent : writeItems (sendFds (prepareResponse response).1) = some written) :
    receiveFileDescriptors (written ++ unread) (prepareResponse response).2 =
      some (countedResponse (withoutOwnFds response), unread,
        sendFds (prepareResponse response).1) := by
  cases response with
  | connection message =>
      rcases message with ⟨_ | platform, displayInfo, error⟩
      · cases written_nothing sent
        rfl
      · have reads : receiveFds (extractFdsFrom platform).2 (written ++ unread) =
            some (counted platform, unread, sendFds (extractFdsFrom platform).1) :=
          receive_extracted platform written unread sent
        simp only [prepareResponse, receiveFileDescriptors, reads]
        rfl
  | surface message =>
      rcases message with ⟨id, width, height, pixelFormat, bufferUsage, _ | buffer, fd, count, error⟩
      · cases unset
        cases written_nothing sent
        rfl
      · cases unset
        have reads : receiveFds (extractFdsFrom buffer).2 (written ++ unread) =
            some (counted buffer, unread, sendFds (extractFdsFrom buffer).1) :=
          receive_extracted buffer written unread sent
        have own := receive_unset
          (⟨id, width, height, pixelFormat, bufferUsage, some (extractFdsFrom buffer).2, fd, none,
            error⟩ : Surface) (written ++ unread) rfl
        simp only [prepareResponse, receiveFileDescriptors, own, FdMessage.withFds,
          Option.bind_eq_bind, Option.bind_some, reads]
        rfl
  | buffer message =>
      have reads : receiveFds (extractFdsFrom message).2 (written ++ unread) =
          some (counted message, unread, sendFds (extractFdsFrom message).1) :=
        receive_extracted message written unread sent
      simp only [prepareResponse, receiveFileDescriptors, reads]
      rfl
  | surfaceSetting message =>
      cases written_nothing sent
      rfl
  | void message =>
      cases written_nothing sent
      rfl
  | drmAuthMagicStatus message =>
      cases written_nothing sent
      rfl

theorem read_message_opens (id : UInt32) (response : Response) (channel : Channel)
    (unread : Stream) (short : (resultBody protobuf.codec id response).length < 65536)
    (arrived : channel.stream = (headerBytes (resultBody protobuf.codec id response).length ++
      resultBody protobuf.codec id response).map (fun byte => ⟨byte, []⟩) ++ unread) :
    readMessage protobuf.codec channel =
      completeResponse protobuf.codec
        ⟨some id, some (protobuf.codec.serialize (prepareResponse response).2)⟩
        { channel with
          stream := unread
          received := channel.received ++ [.message (resultBody protobuf.codec id response)] } := by
  have header : readBytes 2 channel.stream = some
      (headerBytes (resultBody protobuf.codec id response).length,
        (resultBody protobuf.codec id response).map (fun byte => ⟨byte, []⟩) ++ unread) := by
    rw [arrived, List.map_append, List.append_assoc]
    exact read_bytes_append (headerBytes _) _
  have body := read_bytes_append (resultBody protobuf.codec id response) unread
  have parsed : protobuf.codec.parseResult (resultBody protobuf.codec id response) =
      ⟨some id, some (protobuf.codec.serialize (prepareResponse response).2)⟩ :=
    protobuf.codec.parse_serialize_result _
  simp only [readMessage, header, Option.bind_eq_bind, Option.bind_some,
    header_round_trip _ short, body, parsed]

theorem read_message_delivers (id : UInt32) (response : Response) (channel : Channel)
    (written unread : Stream) (unset : SideChannelUnset response)
    (short : (resultBody protobuf.codec id response).length < 65536)
    (answers : channel.pendingCalls.lookup id.toInt32 = some response.resultType)
    (sent : writeItems (ResponseStream.sendResponse protobuf.codec id response) = some written)
    (arrived : channel.stream = written ++ unread) :
    readMessage protobuf.codec channel = some
      { stream := unread
        pendingCalls := channel.pendingCalls.erase id.toInt32
        received := channel.received ++ ResponseStream.sendResponse protobuf.codec id response
        completed := channel.completed ++
          [(id.toInt32, countedResponse (withoutOwnFds response))] } := by
  simp only [ResponseStream.sendResponse, writeItems, Item.write, Option.bind_eq_bind,
    Option.bind_some, Option.bind_eq_some_iff, Option.some.injEq] at sent
  obtain ⟨fdBytes, fdsSent, rfl⟩ := sent
  rw [List.append_assoc] at arrived
  have message : protobuf.codec.parse response.resultType
      (protobuf.codec.serialize (prepareResponse response).2) = (prepareResponse response).2 := by
    rw [← prepared_type response]
    exact protobuf.codec.parse_serialize _
  have reads := receive_delivered response unset fdBytes unread fdsSent
  rw [read_message_opens id response channel _ short arrived]
  simp only [completeResponse, Option.getD_some, answers, message, reads]
  simp [ResponseStream.sendResponse]

end Replies

section Transparency

variable {protobuf : Protobuf} (wire : Wire protobuf)
  (displayServer : DisplayServer Server Resource)

def callsOf (events : List Event) : List Call :=
  events.filterMap fun event => match event with
    | .call call => some call
    | _ => none

/-- The bytes of requests, of which the first one has the number `start`. -/
def requestStream (start : Nat) (calls : List Call) : Text :=
  (calls.zipIdx start).flatMap fun (call, index) =>
    wholeMessage headerBytes (requestBody wire (Int32.ofNat index) call)

def replyItems (codec : Codec) (start : Nat) (responses : List Response) : List Item :=
  (responses.zipIdx start).flatMap fun (response, index) =>
    ResponseStream.sendResponse codec (Int32.ofNat index).toUInt32 response

def completions (responses : List Response) : List (Int32 × Response) :=
  responses.zipIdx.map fun (response, index) =>
    (Int32.ofNat index, countedResponse (withoutOwnFds response))

/-- Every request, and every answer that the methods give to them, fits into a message, and
there are fewer calls than numbers for them. -/
structure Fitting (origin : Server) (calls : List Call) : Prop where
  few : calls.length < 2 ^ 32
  requests : ∀ index call, calls[index]? = some call →
    (requestBody wire (Int32.ofNat index) call).length < 65536
  replies : ∀ served responses after, served <+: calls →
    localCalls protobuf displayServer served origin = some (responses, after) →
    ∀ index response, responses[index]? = some response → SideChannelUnset response ∧
      (resultBody protobuf.codec (Int32.ofNat index).toUInt32 response).length < 65536

/-- The calls up to `responses.length` have been served as if they had been made locally, and
`received` of their responses have come back. The rest is on its way, in order. -/
structure Transparent (origin : Server) (calls : List Call) (responses : List Response)
    (received : Nat) (link : Link Server Resource) : Prop where
  arrived : received ≤ responses.length
  served : responses.length ≤ calls.length
  same : localCalls protobuf displayServer (calls.take responses.length) origin =
    some (responses, link.displayServer)
  types : ∀ (index : Nat) (response : Response) (call : Call),
    responses[index]? = some response →
    calls[index]? = some call → response.resultType = resultType call.method
  next : link.nextMessageId = Int32.ofNat calls.length
  requests : link.requests =
    requestStream wire responses.length (calls.drop responses.length)
  replies : writeItems (replyItems protobuf.codec received (responses.drop received)) =
    some link.channel.stream
  pending : ∀ (index : Nat) (call : Call), received ≤ index → calls[index]? = some call →
    link.channel.pendingCalls.lookup (Int32.ofNat index) = some (resultType call.method)
  settled : ∀ id, id ∈ link.channel.pendingCalls →
    ∃ index, received ≤ index ∧ index < calls.length ∧ id = Int32.ofNat index
  completed : link.channel.completed = completions (responses.take received)
  reading : link.reading = true ↔ ∀ call ∈ calls.take responses.length, call.method ≠ .disconnect

variable {wire displayServer} {origin : Server} {calls : List Call} {responses : List Response}
  {received : Nat} {link next : Link Server Resource}

theorem linked_transparent :
    Transparent wire displayServer origin [] [] 0 (linked origin) where
  arrived := Nat.le_refl 0
  served := Nat.le_refl 0
  same := rfl
  types := by simp
  next := rfl
  requests := rfl
  replies := rfl
  pending := by simp
  settled := by simp [linked]
  completed := rfl
  reading := by simp [linked]

theorem call_transparent (transparent : Transparent wire displayServer origin calls responses
    received link) (few : calls.length < 2 ^ 32) (call : Call) :
    Transparent wire displayServer origin (calls ++ [call]) responses received
      (callMethod wire link call) where
  arrived := transparent.arrived
  served := by
    rw [List.length_append]
    exact Nat.le_add_right_of_le transparent.served
  same := by
    rw [List.take_append_of_le_length transparent.served]
    exact transparent.same
  types := by
    intro index response made answered asked
    have bound := (List.getElem?_eq_some_iff.mp answered).1
    rw [List.getElem?_append_left (Nat.lt_of_lt_of_le bound transparent.served)] at asked
    exact transparent.types index response made answered asked
  next := by
    rw [List.length_append, List.length_singleton, ← id_succ, ← transparent.next]
    rfl
  requests := by
    have place : responses.length + (calls.drop responses.length).length = calls.length := by
      rw [List.length_drop]
      exact Nat.add_sub_cancel' transparent.served
    rw [List.drop_append_of_le_length transparent.served, requestStream, List.zipIdx_append,
      List.flatMap_append, place]
    simp only [callMethod, transparent.requests, transparent.next, requestStream,
      List.zipIdx_cons, List.zipIdx_nil, List.flatMap_cons, List.flatMap_nil, List.append_nil]
  replies := transparent.replies
  pending := by
    intro index made after asked
    by_cases last : index = calls.length
    · subst last
      rw [List.getElem?_append_right (Nat.le_refl _), Nat.sub_self] at asked
      cases asked
      simp only [callMethod, transparent.next]
      exact AList.lookup_insert _
    · have bound := (List.getElem?_eq_some_iff.mp asked).1
      rw [List.length_append, List.length_singleton] at bound
      have earlier : index < calls.length := by omega
      rw [List.getElem?_append_left earlier] at asked
      have different : Int32.ofNat index ≠ Int32.ofNat calls.length := by
        intro equal
        exact last (id_of_nat_injective (Nat.lt_trans earlier few) few equal)
      simp only [callMethod, transparent.next]
      rw [AList.lookup_insert_ne different]
      exact transparent.pending index made after asked
  settled := by
    intro id waiting
    rw [List.length_append, List.length_singleton]
    rcases (AList.mem_insert _).mp waiting with rfl | earlier
    · have after := Nat.le_trans transparent.arrived transparent.served
      exact ⟨calls.length, after, Nat.lt_succ_self _, transparent.next⟩
    · obtain ⟨index, after, bound, rfl⟩ := transparent.settled id earlier
      exact ⟨index, after, Nat.lt_succ_of_lt bound, rfl⟩
  completed := transparent.completed
  reading := by
    rw [List.take_append_of_le_length transparent.served]
    exact transparent.reading

theorem local_calls_snoc {call : Call} {server after : Server} {response : Response}
    (before : localCalls protobuf displayServer calls origin = some (responses, server))
    (called : localCall protobuf displayServer call server = some (response, after)) :
    localCalls protobuf displayServer (calls ++ [call]) origin =
      some (responses ++ [response], after) := by
  rw [localCalls] at before ⊢
  rw [List.foldlM_append, before]
  simp [called]

theorem request_stream_cons (start : Nat) (call : Call) (later : List Call) :
    requestStream wire start (call :: later) =
      wholeMessage headerBytes (requestBody wire (Int32.ofNat start) call) ++
        requestStream wire (start + 1) later := by
  rw [requestStream, List.zipIdx_cons, List.flatMap_cons]
  rfl

theorem reply_items_cons (codec : Codec) (start : Nat) (response : Response)
    (later : List Response) :
    replyItems codec start (response :: later) =
      ResponseStream.sendResponse codec (Int32.ofNat start).toUInt32 response ++
        replyItems codec (start + 1) later := by
  rw [replyItems, List.zipIdx_cons, List.flatMap_cons]
  rfl

theorem reply_items_snoc (codec : Codec) (start : Nat) (responses : List Response)
    (response : Response) :
    replyItems codec start (responses ++ [response]) =
      replyItems codec start responses ++ ResponseStream.sendResponse codec
        (Int32.ofNat (start + responses.length)).toUInt32 response := by
  rw [replyItems, List.zipIdx_append, List.flatMap_append]
  simp [replyItems]

theorem completions_complete (responses : List Response) :
    List.Forall₂ Completes responses.zipIdx (completions responses) := by
  rw [completions, List.forall₂_map_right_iff, List.forall₂_same]
  rintro ⟨response, index⟩ -
  refine ⟨rfl, ?_, ?_⟩
  · intro none_own
    cases response with
    | surface message =>
        have same : { message with fd := [] } = message := by
          cases message
          cases none_own
          rfl
        simp only [withoutOwnFds, same]
    | _ => rfl
  · rintro message ⟨⟩
    rfl

theorem completions_snoc (responses : List Response) (response : Response) :
    completions (responses ++ [response]) =
      completions responses ++
        [(Int32.ofNat responses.length, countedResponse (withoutOwnFds response))] := by
  simp [completions, List.zipIdx_append]

variable (protobuf) in
def afterServing (link : Link Server Resource) (unread : Text) (key : MessageAddress) (index : Nat)
    (call : Call) (handled : Handled Server Resource Response) (written : Stream) :
    Link Server Resource :=
  { link with
    requests := unread
    displayServer := handled.displayServer
    resources := (reply protobuf (Int32.ofNat index).toUInt32 key handled
      ⟨link.displayServer, link.resources, []⟩).resources
    reading := decide (call.method ≠ .disconnect)
    channel := { link.channel with stream := link.channel.stream ++ written } }

/-- The request that the server reads next is that of the first call that is not served. -/
theorem serve_opens (transparent : Transparent wire displayServer origin calls responses
    received link) (fitting : Fitting wire displayServer origin calls) (key : MessageAddress) :
    onNewMessage protobuf displayServer link key =
      calls[responses.length]?.bind fun call =>
        (handle protobuf displayServer call.method call.parameters link.displayServer).bind
          fun handled =>
            (writeItems (ResponseStream.sendResponse protobuf.codec
              (Int32.ofNat responses.length).toUInt32 (answer protobuf handled))).map
              (afterServing protobuf link
                (requestStream wire (responses.length + 1) (calls.drop (responses.length + 1)))
                key responses.length call handled) := by
  cases waiting : calls[responses.length]? with
  | none =>
      have short : calls.length ≤ responses.length := List.getElem?_eq_none_iff.mp waiting
      have nothing : link.requests = [] := by
        rw [transparent.requests, List.drop_eq_nil_of_le short]
        rfl
      rw [onNewMessage, nothing, read_request_nothing]
      rfl
  | some call =>
      obtain ⟨bound, got⟩ := List.getElem?_eq_some_iff.mp waiting
      have split : link.requests =
          wholeMessage headerBytes (requestBody wire (Int32.ofNat responses.length) call) ++
            requestStream wire (responses.length + 1) (calls.drop (responses.length + 1)) := by
        rw [transparent.requests, List.drop_eq_getElem_cons bound, got, request_stream_cons]
      have named : (protobuf.parser.invocation
          (requestBody wire (Int32.ofNat responses.length) call)).method = some call.method := by
        rw [requestBody, wire.parse_invocation]
        exact method_of_name call.method
      have read := read_request_message (fitting.requests _ call waiting)
        (requestStream wire (responses.length + 1) (calls.drop (responses.length + 1)))
      rw [onNewMessage, split, read]
      simp only [Option.bind_eq_bind, Option.bind_some, processMessage,
        dispatch_known protobuf displayServer named]
      rw [requestBody, wire.parse_invocation]
      simp only [Option.getD_some]
      cases called : handle protobuf displayServer call.method call.parameters
          link.displayServer with
      | none => rfl
      | some handled =>
          simp only [Option.map_some, Option.bind_some, sent_items_reply, reply_server]
          rw [Option.map_eq_bind]
          rfl

theorem serve_transparent (transparent : Transparent wire displayServer origin calls responses
    received link) (fitting : Fitting wire displayServer origin calls) {key : MessageAddress}
    (open_ : link.reading = true)
    (stepped : onNewMessage protobuf displayServer link key = some next) :
    ∃ response, Transparent wire displayServer origin calls (responses ++ [response]) received
      next := by
  rw [serve_opens transparent fitting key] at stepped
  obtain ⟨call, waiting, handling⟩ := Option.bind_eq_some_iff.mp stepped
  obtain ⟨handled, called, writing⟩ := Option.bind_eq_some_iff.mp handling
  obtain ⟨written, sent, rfl⟩ := Option.map_eq_some_iff.mp writing
  obtain ⟨bound, got⟩ := List.getElem?_eq_some_iff.mp waiting
  have longer : (responses ++ [answer protobuf handled]).length = responses.length + 1 := by
    rw [List.length_append, List.length_singleton]
  have taken : calls.take (responses.length + 1) = calls.take responses.length ++ [call] := by
    rw [← got, List.take_concat_get']
  refine ⟨answer protobuf handled, ?_, ?_, ?_, ?_, transparent.next, ?_, ?_, transparent.pending,
    transparent.settled, ?_, ?_⟩
  · rw [longer]
    exact Nat.le_succ_of_le transparent.arrived
  · rw [longer]
    exact bound
  · rw [longer, taken]
    apply local_calls_snoc transparent.same
    rw [localCall, called]
    rfl
  · intro index response made answered asked
    by_cases last : index = responses.length
    · subst last
      rw [List.getElem?_append_right (Nat.le_refl _), Nat.sub_self] at answered
      cases answered
      cases waiting.symm.trans asked
      rw [RequestReplies.answer_type, handle_type displayServer called]
    · have inside := (List.getElem?_eq_some_iff.mp answered).1
      rw [longer] at inside
      have earlier : index < responses.length := by omega
      rw [List.getElem?_append_left earlier] at answered
      exact transparent.types index response made answered asked
  · rw [longer]
    rfl
  · rw [List.drop_append_of_le_length transparent.arrived, reply_items_snoc, List.length_drop,
      Nat.add_sub_cancel' transparent.arrived, write_items_append, transparent.replies, sent]
    rfl
  · rw [List.take_append_of_le_length transparent.arrived]
    exact transparent.completed
  · rw [longer, taken]
    have before := transparent.reading.mp open_
    simp only [afterServing, decide_eq_true_eq, List.mem_append, List.mem_singleton]
    constructor
    · rintro goes_on other (earlier | rfl)
      · exact before other earlier
      · exact goes_on
    · intro all
      exact all call (.inr rfl)

theorem reply_read (transparent : Transparent wire displayServer origin calls responses
    received link) (fitting : Fitting wire displayServer origin calls) {response : Response}
    (reply : responses[received]? = some response) :
    ∃ unread items, writeItems (replyItems protobuf.codec (received + 1)
        (responses.drop (received + 1))) = some unread ∧
      readMessage protobuf.codec link.channel = some
        { stream := unread
          pendingCalls := link.channel.pendingCalls.erase (Int32.ofNat received)
          received := items
          completed := link.channel.completed ++
            [(Int32.ofNat received, countedResponse (withoutOwnFds response))] } := by
  obtain ⟨waiting, got⟩ := List.getElem?_eq_some_iff.mp reply
  obtain ⟨call, asked⟩ : ∃ call, calls[received]? = some call :=
    ⟨_, List.getElem?_eq_getElem (Nat.lt_of_lt_of_le waiting transparent.served)⟩
  have sent := transparent.replies
  rw [List.drop_eq_getElem_cons waiting, got, reply_items_cons, write_items_append] at sent
  obtain ⟨first, firstSent, others⟩ := Option.bind_eq_some_iff.mp sent
  obtain ⟨unread, restSent, whole⟩ := Option.map_eq_some_iff.mp others
  obtain ⟨unset, short⟩ := fitting.replies _ responses link.displayServer
    (List.take_prefix _ _) transparent.same received response reply
  have answers : link.channel.pendingCalls.lookup (Int32.ofNat received).toUInt32.toInt32 =
      some response.resultType := by
    rw [transparent.types received response call reply asked]
    exact transparent.pending received call (Nat.le_refl _) asked
  exact ⟨unread, _, restSent, read_message_delivers _ response link.channel first unread unset
    short answers firstSent whole.symm⟩

theorem receive_transparent (transparent : Transparent wire displayServer origin calls responses
    received link) (fitting : Fitting wire displayServer origin calls)
    {channel : ResponseStream.Channel}
    (read : readMessage protobuf.codec link.channel = some channel) :
    Transparent wire displayServer origin calls responses (received + 1)
      { link with channel := channel } := by
  cases reply : responses[received]? with
  | none =>
      -- nothing has been sent that is not received
      have empty : link.channel.stream = [] := by
        have sent := transparent.replies
        rw [List.drop_eq_nil_of_le (List.getElem?_eq_none_iff.mp reply)] at sent
        exact (Option.some.inj sent).symm
      rw [readMessage, empty] at read
      cases read
  | some response =>
      obtain ⟨waiting, got⟩ := List.getElem?_eq_some_iff.mp reply
      obtain ⟨unread, items, sent, reads⟩ := reply_read transparent fitting reply
      cases reads.symm.trans read
      refine ⟨waiting, transparent.served, transparent.same, transparent.types, transparent.next,
        transparent.requests, sent, ?_, ?_, ?_, transparent.reading⟩
      · intro index made after other
        have bound := (List.getElem?_eq_some_iff.mp other).1
        have different : Int32.ofNat index ≠ Int32.ofNat received := by
          intro equal
          have few := fitting.few
          have same := id_of_nat_injective (by omega) (by omega) equal
          omega
        rw [AList.lookup_erase_ne different]
        exact transparent.pending index made (by omega) other
      · intro id remains
        obtain ⟨other, old⟩ := AList.mem_erase.mp remains
        obtain ⟨index, after, bound, rfl⟩ := transparent.settled id old
        have later : received ≠ index := by
          rintro rfl
          exact other rfl
        exact ⟨index, by omega, bound, rfl⟩
      · have taken : responses.take (received + 1) = responses.take received ++ [response] := by
          rw [← got, List.take_concat_get']
        have length : (responses.take received).length = received :=
          List.length_take_of_le transparent.arrived
        rw [taken, completions_snoc, length, ← transparent.completed]

end Transparency

section Results

variable {protobuf : Protobuf} {wire : Wire protobuf}
  {displayServer : DisplayServer Server Resource} {origin : Server}

theorem Fitting.earlier {calls later : List Call}
    (fitting : Fitting wire displayServer origin (calls ++ later)) :
    Fitting wire displayServer origin calls where
  few := by
    have few := fitting.few
    rw [List.length_append] at few
    omega
  requests := by
    intro index call asked
    have bound := (List.getElem?_eq_some_iff.mp asked).1
    exact fitting.requests index call ((List.getElem?_append_left bound).trans asked)
  replies := by
    intro served responses after begins
    exact fitting.replies served responses after (begins.trans (List.prefix_append calls later))

def serves (events : List Event) : Nat :=
  events.countP fun event => match event with
    | .serve _ => true
    | _ => false

def receives (events : List Event) : Nat :=
  events.countP fun event => match event with
    | .receive => true
    | _ => false

theorem run_transparent {events : List Event} {link : Link Server Resource}
    (ran : run (step wire displayServer) (linked origin) events = some link)
    (fitting : Fitting wire displayServer origin (callsOf events)) :
    ∃ responses, responses.length = serves events ∧
      Transparent wire displayServer origin (callsOf events) responses (receives events) link := by
  revert fitting
  apply run_history_invariant (fun history state =>
    Fitting wire displayServer origin (callsOf history) → ∃ responses,
      responses.length = serves history ∧
        Transparent wire displayServer origin (callsOf history) responses (receives history) state)
    (fun _ => ⟨[], rfl, linked_transparent⟩) _ ran
  intro history state event next holds stepped fitting
  have counted : serves (history ++ [event]) = serves history + serves [event] :=
    List.countP_append
  have read : receives (history ++ [event]) = receives history + receives [event] :=
    List.countP_append
  have made : callsOf (history ++ [event]) = callsOf history ++ callsOf [event] :=
    List.filterMap_append
  rw [made] at fitting ⊢
  rw [counted, read]
  obtain ⟨responses, served, transparent⟩ := holds fitting.earlier
  cases event with
  | call call =>
      cases stepped
      exact ⟨responses, served, call_transparent transparent fitting.earlier.few call⟩
  | serve key =>
      have same : callsOf history ++ callsOf [.serve key] = callsOf history := List.append_nil _
      rw [same] at fitting ⊢
      rw [step] at stepped
      split at stepped
      · rename_i open_
        obtain ⟨response, after⟩ := serve_transparent transparent fitting open_ stepped
        refine ⟨responses ++ [response], ?_, after⟩
        rw [List.length_append, served]
        rfl
      · cases stepped
  | receive =>
      have same : callsOf history ++ callsOf [.receive] = callsOf history := List.append_nil _
      rw [same] at fitting ⊢
      obtain ⟨channel, reads, rfl⟩ := Option.map_eq_some_iff.mp stepped
      exact ⟨responses, served, receive_transparent transparent fitting reads⟩

/-- However the calls and the reading of both sides interleave, the server has handled the
calls as if they had been made one after the other without a connection, and the client has
their results in this order, each under the number of its call, but for the descriptors of
surfaces. -/
theorem remote_calls_are_local_calls {events : List Event} {link : Link Server Resource}
    (ran : run (step wire displayServer) (linked origin) events = some link)
    (fitting : Fitting wire displayServer origin (callsOf events)) :
    receives events ≤ serves events ∧ serves events ≤ (callsOf events).length ∧
      ∃ responses,
        localCalls protobuf displayServer ((callsOf events).take (serves events)) origin =
          some (responses, link.displayServer) ∧
        List.Forall₂ Completes (responses.take (receives events)).zipIdx
          link.channel.completed := by
  obtain ⟨responses, served, transparent⟩ := run_transparent ran fitting
  rw [← served]
  refine ⟨transparent.arrived, transparent.served, responses, transparent.same, ?_⟩
  rw [transparent.completed]
  exact completions_complete _

theorem local_calls_begin {calls : List Call} {past : List Response × Server}
    {all : List Response} {after : Server}
    (called : calls.foldlM (fun past call =>
      (localCall protobuf displayServer call past.2).map fun result =>
        (past.1 ++ [result.1], result.2)) past = some (all, after)) : past.1 <+: all := by
  induction calls generalizing past with
  | nil =>
      cases called
      exact List.prefix_rfl
  | cons call later induction =>
      rw [List.foldlM_cons] at called
      obtain ⟨middle, first, rest⟩ := Option.bind_eq_some_iff.mp called
      obtain ⟨result, -, rfl⟩ := Option.map_eq_some_iff.mp first
      exact (List.prefix_append past.1 [result.1]).trans (induction rest)

theorem local_calls_next {calls later : List Call} {call : Call} {responses all : List Response}
    {server after : Server}
    (before : localCalls protobuf displayServer calls origin = some (responses, server))
    (called : localCalls protobuf displayServer (calls ++ call :: later) origin =
      some (all, after)) :
    ∃ response next, localCall protobuf displayServer call server = some (response, next) ∧
      response ∈ all := by
  rw [localCalls] at before called
  rw [List.foldlM_append, before, Option.bind_eq_bind, Option.bind_some, List.foldlM_cons]
    at called
  obtain ⟨middle, first, rest⟩ := Option.bind_eq_some_iff.mp called
  obtain ⟨⟨response, next⟩, made, rfl⟩ := Option.map_eq_some_iff.mp first
  refine ⟨response, next, made, ?_⟩
  exact (local_calls_begin rest).mem (List.mem_append_right _ (List.mem_singleton_self _))

theorem response_written (codec : Codec) (id : UInt32) {response : Response}
    (few : (prepareResponse response).1.length ≤ ancilMaxNFds) :
    ∃ written, writeItems (ResponseStream.sendResponse codec id response) = some written := by
  obtain ⟨fdBytes, sent⟩ := Option.isSome_iff_exists.mp ((write_send_fds _).mpr few)
  simp only [ResponseStream.sendResponse, writeItems, Item.write, sent]
  exact ⟨_, rfl⟩

theorem received_all {calls : List Call} {responses : List Response} {received : Nat}
    {link : Link Server Resource}
    (transparent : Transparent wire displayServer origin calls responses received link)
    (fitting : Fitting wire displayServer origin calls)
    (quiet : readMessage protobuf.codec link.channel = none) : received = responses.length := by
  by_contra behind
  have waiting : received < responses.length := by
    have arrived := transparent.arrived
    omega
  obtain ⟨unread, items, -, reads⟩ :=
    reply_read transparent fitting (List.getElem?_eq_getElem waiting)
  rw [reads] at quiet
  cases quiet

theorem served_all {calls : List Call} {responses all : List Response} {received : Nat}
    {link : Link Server Resource} {after : Server}
    (transparent : Transparent wire displayServer origin calls responses received link)
    (fitting : Fitting wire displayServer origin calls)
    (called : localCalls protobuf displayServer calls origin = some (all, after))
    (few : ∀ response ∈ all, (prepareResponse response).1.length ≤ ancilMaxNFds)
    (key : MessageAddress) (quiet : onNewMessage protobuf displayServer link key = none) :
    responses.length = calls.length := by
  by_contra behind
  have waiting : responses.length < calls.length := by
    have served := transparent.served
    omega
  have split : calls.take responses.length ++ calls[responses.length] ::
      calls.drop (responses.length + 1) = calls := by
    rw [← List.drop_eq_getElem_cons waiting, List.take_append_drop]
  rw [← split] at called
  obtain ⟨response, next, made, inside⟩ := local_calls_next transparent.same called
  obtain ⟨handled, handles, given⟩ := Option.map_eq_some_iff.mp made
  obtain ⟨rfl, rfl⟩ := Prod.mk.inj given
  obtain ⟨written, sent⟩ := response_written protobuf.codec
    (Int32.ofNat responses.length).toUInt32 (few _ inside)
  rw [serve_opens transparent fitting key, List.getElem?_eq_getElem waiting, Option.bind_some,
    handles, Option.bind_some, sent] at quiet
  cases quiet

/-- No call is lost. When nothing is left to read on either side, then every call has been
completed with the result of the local call, but for the descriptors of surfaces. -/
theorem quiet_connection_has_completed {events : List Event} {link : Link Server Resource}
    {responses : List Response} {after : Server}
    (ran : run (step wire displayServer) (linked origin) events = some link)
    (fitting : Fitting wire displayServer origin (callsOf events))
    (called : localCalls protobuf displayServer (callsOf events) origin = some (responses, after))
    (few : ∀ response ∈ responses, (prepareResponse response).1.length ≤ ancilMaxNFds)
    (stays : ∀ call ∈ (callsOf events).dropLast, call.method ≠ .disconnect)
    (noRequest : ∀ key, step wire displayServer link (.serve key) = none)
    (noResult : step wire displayServer link .receive = none) :
    List.Forall₂ Completes responses.zipIdx link.channel.completed ∧
      link.displayServer = after ∧ ∀ id, id ∉ link.channel.pendingCalls := by
  obtain ⟨answers, -, transparent⟩ := run_transparent ran fitting
  have received := received_all transparent fitting (Option.map_eq_none_iff.mp noResult)
  have served : answers.length = (callsOf events).length := by
    by_contra behind
    have waiting : answers.length < (callsOf events).length := by
      have served := transparent.served
      omega
    have reading : link.reading = true := by
      apply transparent.reading.mpr
      intro call earlier
      apply stays call
      rw [List.dropLast_eq_take]
      exact List.take_subset_take_left _ (Nat.le_pred_of_lt waiting) earlier
    have quiet := noRequest 0
    rw [step, if_pos reading] at quiet
    exact behind (served_all transparent fitting called few 0 quiet)
  have same := transparent.same
  rw [served, List.take_length, called] at same
  obtain ⟨rfl, rfl⟩ := Prod.mk.inj (Option.some.inj same)
  refine ⟨?_, rfl, ?_⟩
  · rw [transparent.completed, received, List.take_length]
    exact completions_complete _
  · intro id waiting
    obtain ⟨index, after, bound, -⟩ := transparent.settled id waiting
    omega

/-- For calls that can be made, the answers to all of them say whether they fit. -/
theorem Fitting.of_answered {calls : List Call} {all : List Response} {after : Server}
    (few : calls.length < 2 ^ 32)
    (requests : ∀ index call, calls[index]? = some call →
      (requestBody wire (Int32.ofNat index) call).length < 65536)
    (called : localCalls protobuf displayServer calls origin = some (all, after))
    (replies : ∀ index response, all[index]? = some response → SideChannelUnset response ∧
      (resultBody protobuf.codec (Int32.ofNat index).toUInt32 response).length < 65536) :
    Fitting wire displayServer origin calls where
  few := few
  requests := requests
  replies := by
    rintro served responses server ⟨later, rfl⟩ before index response answered
    rw [localCalls] at before called
    rw [List.foldlM_append, before, Option.bind_eq_bind, Option.bind_some] at called
    obtain ⟨rest, whole⟩ := local_calls_begin called
    apply replies index response
    rw [← whole]
    exact (List.getElem?_append_left (List.getElem?_eq_some_iff.mp answered).1).trans answered

end Results

def plainWire : Wire plainProtobuf := ⟨invocationBody, parse_invocation_body⟩

/-- A client connects, swaps a buffer before it has a surface, and leaves. -/
def hasty : List Call := [⟨.connect, []⟩, ⟨.nextBuffer, []⟩, ⟨.disconnect, []⟩]

/-- It makes two of the calls before the first one is served. -/
def hastily : List Event :=
  [.call ⟨.connect, []⟩, .call ⟨.nextBuffer, []⟩, .serve 1, .serve 2, .call ⟨.disconnect, []⟩,
    .receive, .serve 3, .receive, .receive]

abbrev smallMediator := sessionMediator .gbm smallFrontend

def hastyResponses : List Response :=
  [.connection ⟨some ⟨[4], [], none, none⟩, some ⟨some 1024, some 768, [1, 2]⟩, none⟩,
    .buffer ⟨some 7, [6], [], none, some 2560, none⟩, .void ⟨none⟩]

theorem hasty_called :
    localCalls plainProtobuf smallMediator hasty ⟨none, ()⟩ =
      some (hastyResponses, ⟨none, ()⟩) := rfl

theorem hasty_fits : Fitting plainWire smallMediator ⟨none, ()⟩ hasty := by
  apply Fitting.of_answered (by decide) ?_ hasty_called
  · intro index response answered
    match index with
    | 0 => cases answered; exact ⟨trivial, by decide +kernel⟩
    | 1 => cases answered; exact ⟨trivial, by decide +kernel⟩
    | 2 => cases answered; exact ⟨trivial, by decide +kernel⟩
    | _ + 3 => cases answered
  · intro index call asked
    match index with
    | 0 => cases asked; decide +kernel
    | 1 => cases asked; decide +kernel
    | 2 => cases asked; decide +kernel
    | _ + 3 => cases asked

theorem hasty_calls_are_local :
    ∃ link, run (step plainWire smallMediator) (linked ⟨none, ()⟩) (hastily.take 6) = some link ∧
      ∃ responses,
        localCalls plainProtobuf smallMediator (hasty.take 2) ⟨none, ()⟩ =
          some (responses, link.displayServer) ∧
        List.Forall₂ Completes (responses.take 1).zipIdx link.channel.completed := by
  have ran : ∃ link,
      run (step plainWire smallMediator) (linked ⟨none, ()⟩) (hastily.take 6) = some link :=
    ⟨_, rfl⟩
  obtain ⟨link, ran⟩ := ran
  exact ⟨link, ran, (remote_calls_are_local_calls ran hasty_fits).2.2⟩

theorem hasty_calls_complete :
    ∃ link, run (step plainWire smallMediator) (linked ⟨none, ()⟩) hastily = some link ∧
      List.Forall₂ Completes hastyResponses.zipIdx link.channel.completed := by
  have quiet : ∃ link,
      run (step plainWire smallMediator) (linked ⟨none, ()⟩) hastily = some link ∧
      (∀ key, step plainWire smallMediator link (.serve key) = none) ∧
      step plainWire smallMediator link .receive = none :=
    ⟨_, rfl, fun _ => rfl, rfl⟩
  obtain ⟨link, ran, noRequest, noResult⟩ := quiet
  refine ⟨link, ran, ?_⟩
  exact (quiet_connection_has_completed ran hasty_fits hasty_called (by decide) (by decide)
    noRequest noResult).1

end Mir.RemoteCalls
