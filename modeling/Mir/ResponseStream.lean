import Mathlib.Data.List.AList
import Mir.MessageEncoding
import Mir.TransitionRuns

/-!
# Responses from the server's writer to the client's reader

`ProtobufMessageProcessor::send_response` with `SocketSession` on one side,
`MirSocketRpcChannel` with `PendingCallCache` on the other, and the socket between
them. Descriptors travel as control data of one byte, which `libancillary` sends
and receives separately: a reader that takes that byte for message data, or message
data for that byte, is out of step from there on.

The generated protobuf code is a parameter. `sendmsg` is taken to succeed, since
`send_fds` does not look at the result of `ancil_send_fds`, and descriptors keep the
numbers they have in the server.
-/

namespace Mir.ResponseStream

open Mir.ProtocolMessages Mir.TransitionRuns

set_option autoImplicit false

/-- A byte in the socket, with the `SCM_RIGHTS` control data that was sent with it. -/
structure StreamByte where
  byte : UInt8
  fds : List Int32
  deriving DecidableEq, Repr

abbrev Stream := List StreamByte

section Ancillary

def ancilMaxNFds : Nat := 960

/-- The byte is `'!'`. There is no result when the assertion fails. -/
def ancilSendFds (fds : List Int32) (count : Nat) : Option Stream :=
  if count ≤ ancilMaxNFds then some [⟨33, fds.take count⟩] else none

/-- Waits for a byte. If it comes without control data, the descriptors are the
`-1` the buffer was filled with, and the count is the one asked for. -/
def ancilRecvFds (count : Nat) : Stream → Option (List Int32 × Stream)
  | [] => none
  | item :: unread =>
      if count ≤ ancilMaxNFds then
        some (if item.fds = [] then List.replicate count (-1) else item.fds.take count, unread)
      else none

/-- A read without a control buffer drops the control data. -/
def readBytes (count : Nat) (stream : Stream) : Option (Text × Stream) :=
  if count ≤ stream.length then
    some ((stream.take count).map StreamByte.byte, stream.drop count)
  else none

end Ancillary

section DescriptorFields

/-- The messages with the fields `fd` and `fds_on_side_channel`. -/
class FdMessage (Message : Type) where
  fd : Message → List Int32
  fdsOnSideChannel : Message → Option Int32
  withFds : Message → List Int32 → Option Int32 → Message
  count_with_fds : ∀ message fds count, fdsOnSideChannel (withFds message fds count) = count

instance : FdMessage Buffer where
  fd := Buffer.fd
  fdsOnSideChannel := Buffer.fdsOnSideChannel
  withFds := fun message fds count => { message with fd := fds, fdsOnSideChannel := count }
  count_with_fds := fun _ _ _ => rfl

instance : FdMessage Platform where
  fd := Platform.fd
  fdsOnSideChannel := Platform.fdsOnSideChannel
  withFds := fun message fds count => { message with fd := fds, fdsOnSideChannel := count }
  count_with_fds := fun _ _ _ => rfl

instance : FdMessage Surface where
  fd := Surface.fd
  fdsOnSideChannel := Surface.fdsOnSideChannel
  withFds := fun message fds count => { message with fd := fds, fdsOnSideChannel := count }
  count_with_fds := fun _ _ _ => rfl

open FdMessage (fd fdsOnSideChannel withFds)

variable {Message : Type} [FdMessage Message]

def extractFdsFrom (message : Message) : List Int32 × Message :=
  (fd message, withFds message [] (some (Int32.ofNat (fd message).length)))

/-- What a side does at one place of the stream: it sends or reads a body, or it
makes an ancillary call for `count` descriptors, which carries `fds`. -/
inductive Item where
  | message (body : Text)
  | descriptors (count : Nat) (fds : List Int32)
  deriving DecidableEq, Repr

def receiveFds (message : Message) (stream : Stream) : Option (Message × Stream × List Item) :=
  let expected := ((fdsOnSideChannel message).getD 0).toInt
  if 0 < expected then
    (ancilRecvFds expected.toNat stream).map fun (received, unread) =>
      (withFds message received (fdsOnSideChannel message), unread,
        [.descriptors expected.toNat received])
  else some (withFds message [] (fdsOnSideChannel message), stream, [])

end DescriptorFields

section Server

/-- The overloads of `send_response`: which descriptors are taken out of the
message, and what is serialised. A surface's own descriptors stay in the body. -/
def prepareResponse : Response → List Int32 × Response
  | .buffer message => ((extractFdsFrom message).1, .buffer (extractFdsFrom message).2)
  | .connection message => match message.platform with
      | some platform => ((extractFdsFrom platform).1,
          .connection { message with platform := some (extractFdsFrom platform).2 })
      | none => ([], .connection message)
  | .surface message => match message.buffer with
      | some buffer => ((extractFdsFrom buffer).1,
          .surface { message with buffer := some (extractFdsFrom buffer).2 })
      | none => ([], .surface message)
  | .surfaceSetting message => ([], .surfaceSetting message)
  | .void message => ([], .void message)
  | .drmAuthMagicStatus message => ([], .drmAuthMagicStatus message)

def sendFds (fds : List Int32) : List Item :=
  if 0 < fds.length then [.descriptors fds.length fds] else []

variable (codec : Codec)

def resultBody (id : UInt32) (response : Response) : Text :=
  codec.serializeResult ⟨some id, some (codec.serialize (prepareResponse response).2)⟩

def sendResponse (id : UInt32) (response : Response) : List Item :=
  .message (resultBody codec id response) :: sendFds (prepareResponse response).1

def headerBytes (size : Nat) : Text :=
  [UInt8.ofNat (size >>> 8 &&& 0xff), UInt8.ofNat (size >>> 0 &&& 0xff)]

def Item.write : Item → Option Stream
  | .message body => some ((headerBytes body.length ++ body).map fun byte => ⟨byte, []⟩)
  | .descriptors count fds => ancilSendFds fds count

def writeItems : List Item → Option Stream
  | [] => some []
  | item :: rest => do
      let first ← item.write
      let more ← writeItems rest
      some (first ++ more)

end Server

section Client

/-- The client's end: what it has not read yet, the calls that wait for a result,
what it has read, and the responses its callers have got. -/
structure Channel where
  stream : Stream
  pendingCalls : AList fun _ : Int32 => ResultType
  received : List Item
  completed : List (Int32 × Response)

def readMessageHeader (header : Text) : Nat :=
  match header with
  | [high, low] => (high.toNat <<< 8) + low.toNat
  | _ => 0

def receiveFileDescriptors (stream : Stream) :
    Response → Option (Response × Stream × List Item)
  | .surface message => do
      let (message, unread, own) ← receiveFds message stream
      match message.buffer with
      | none => some (.surface message, unread, own)
      | some buffer =>
          let (buffer, unread, more) ← receiveFds buffer unread
          some (.surface { message with buffer := some buffer }, unread, own ++ more)
  | .buffer message => do
      let (message, unread, items) ← receiveFds message stream
      some (.buffer message, unread, items)
  | .connection message => match message.platform with
      | none => some (.connection message, stream, [])
      | some platform => do
          let (platform, unread, items) ← receiveFds platform stream
          some (.connection { message with platform := some platform }, unread, items)
  | .surfaceSetting message => some (.surfaceSetting message, stream, [])
  | .void message => some (.void message, stream, [])
  | .drmAuthMagicStatus message => some (.drmAuthMagicStatus message, stream, [])

variable (codec : Codec)

/-- `PendingCallCache::complete_response`. An orphaned result changes nothing. -/
def completeResponse (result : WireResult) (channel : Channel) : Option Channel :=
  let call := (result.id.getD 0).toInt32
  match channel.pendingCalls.lookup call with
  | none => some channel
  | some resultType => do
      let (response, unread, items) ← receiveFileDescriptors channel.stream
        (codec.parse resultType (result.response.getD []))
      some
        { stream := unread
          pendingCalls := channel.pendingCalls.erase call
          received := channel.received ++ items
          completed := channel.completed ++ [(call, response)] }

/-- `on_header_read` and `read_message`; no result while bytes are missing. -/
def readMessage (channel : Channel) : Option Channel := do
  let (header, afterHeader) ← readBytes 2 channel.stream
  let (body, afterBody) ← readBytes (readMessageHeader header) afterHeader
  completeResponse codec (codec.parseResult body)
    { channel with
      stream := afterBody
      received := channel.received ++ [.message body] }

inductive Event where
  | call (id : UInt32) (resultType : ResultType)
  | response (id : UInt32) (response : Response)

def step (channel : Channel) : Event → Option Channel
  | .call id resultType => some
      { channel with pendingCalls := channel.pendingCalls.insert id.toInt32 resultType }
  | .response _ _ => readMessage codec channel

end Client

def sendEvents (codec : Codec) (events : List Event) : List Item :=
  events.flatMap fun event => match event with
    | .call _ _ => []
    | .response id response => sendResponse codec id response

/-- Every response answers a call that is pending when it is read. -/
def AnswersPending : AList (fun _ : Int32 => ResultType) → List Event → Prop
  | _, [] => True
  | pending, .call id resultType :: events =>
      AnswersPending (pending.insert id.toInt32 resultType) events
  | pending, .response id response :: events =>
      pending.lookup id.toInt32 = some response.resultType ∧
        AnswersPending (pending.erase id.toInt32) events

/-- A handler that leaves the count of a surface's own descriptors alone. The
counts in buffers and platforms are overwritten before the message is sent. -/
def SideChannelUnset : Response → Prop
  | .surface message => message.fdsOnSideChannel = none
  | _ => True

def fdFields : Response → List (List Int32)
  | .surface message => message.fd :: (message.buffer.map Buffer.fd).toList
  | .buffer message => [message.fd]
  | .connection message => (message.platform.map Platform.fd).toList
  | .surfaceSetting _ | .void _ | .drmAuthMagicStatus _ => []

/-- `Surface.fd`, which no overload takes out of the message. -/
def ownFds : Response → List Int32
  | .surface message => message.fd
  | _ => []

def withoutOwnFds : Response → Response
  | .surface message => .surface { message with fd := [] }
  | response => response

section Agreement

theorem header_size (size : Nat) : readMessageHeader (headerBytes size) = size % 65536 := by
  have low : size &&& 0xff = size % 256 := Nat.and_two_pow_sub_one_eq_mod size 8
  have high : size >>> 8 &&& 0xff = size / 256 % 256 := by
    rw [Nat.shiftRight_eq_div_pow, Nat.and_two_pow_sub_one_eq_mod _ 8]
  simp only [readMessageHeader, headerBytes, high, low, Nat.shiftRight_zero,
    UInt8.toNat_ofNat', Nat.shiftLeft_eq]
  omega

theorem header_round_trip (size : Nat) (short : size < 65536) :
    readMessageHeader (headerBytes size) = size := by
  rw [header_size, Nat.mod_eq_of_lt short]

theorem read_bytes_append (bytes : Text) (unread : Stream) :
    readBytes bytes.length (bytes.map (fun byte => ⟨byte, []⟩) ++ unread) =
      some (bytes, unread) := by
  simp [readBytes, Function.comp_def]

theorem write_items_append (left right : List Item) :
    writeItems (left ++ right) =
      (writeItems left).bind fun first => (writeItems right).map (first ++ ·) := by
  induction left with
  | nil => simp [writeItems]
  | cons item left induction =>
      simp only [List.cons_append, writeItems, induction]
      cases item.write <;> cases writeItems left <;> cases writeItems right <;> simp

theorem write_send_fds (fds : List Int32) :
    (writeItems (sendFds fds)).isSome ↔ fds.length ≤ ancilMaxNFds := by
  by_cases some_fds : 0 < fds.length
  · by_cases few : fds.length ≤ ancilMaxNFds <;>
      simp [sendFds, some_fds, writeItems, Item.write, ancilSendFds, few]
  · have none_left : fds.length = 0 := by omega
    simp [sendFds, none_left, writeItems]

theorem send_nothing : sendFds [] = [] := rfl

theorem written_nothing {written : Stream} (sent : writeItems (sendFds []) = some written) :
    written = [] := (Option.some.inj sent).symm

section Fields

variable {Message : Type} [FdMessage Message]

theorem receive_extracted (message : Message) (written unread : Stream)
    (sent : writeItems (sendFds (extractFdsFrom message).1) = some written) :
    receiveFds (extractFdsFrom message).2 (written ++ unread) =
      some (FdMessage.withFds (extractFdsFrom message).2 (FdMessage.fd message)
        (FdMessage.fdsOnSideChannel (extractFdsFrom message).2), unread,
        sendFds (extractFdsFrom message).1) := by
  have few : (FdMessage.fd message).length ≤ ancilMaxNFds :=
    (write_send_fds _).mp (Option.isSome_of_eq_some sent)
  have bounded : (FdMessage.fd message).length ≤ 960 := few
  have count : (Int32.ofNat (FdMessage.fd message).length).toInt =
      (FdMessage.fd message).length := Int32.toInt_ofNat_of_lt (by omega)
  simp only [extractFdsFrom] at sent ⊢
  simp only [receiveFds, FdMessage.count_with_fds, Option.getD_some, count, Int.toNat_natCast,
    Int.natCast_pos]
  by_cases some_fds : 0 < (FdMessage.fd message).length
  · have carried : FdMessage.fd message ≠ [] := List.ne_nil_of_length_pos some_fds
    simp only [sendFds, if_pos some_fds, writeItems, Item.write, ancilSendFds, if_pos few,
      List.take_length] at sent ⊢
    have same : written = [⟨33, FdMessage.fd message⟩] := by simpa using sent.symm
    subst same
    simp [ancilRecvFds, few, carried]
  · have nothing : FdMessage.fd message = [] :=
      List.eq_nil_of_length_eq_zero (Nat.eq_zero_of_not_pos some_fds)
    simp only [sendFds, if_neg some_fds, writeItems, Option.some.injEq] at sent ⊢
    subst sent
    simp [nothing]

theorem receive_unset (message : Message) (stream : Stream)
    (unset : FdMessage.fdsOnSideChannel message = none) :
    receiveFds message stream = some (FdMessage.withFds message [] none, stream, []) := by
  simp [receiveFds, unset]

end Fields

theorem prepared_type (response : Response) :
    (prepareResponse response).2.resultType = response.resultType := by
  cases response with
  | connection message => cases platform : message.platform <;>
      simp [prepareResponse, platform, Response.resultType]
  | surface message => cases buffer : message.buffer <;>
      simp [prepareResponse, buffer, Response.resultType]
  | _ => rfl

/-- The chain of casts in the reader agrees with the overloads of the writer, except that
it clears the descriptors that a surface has of its own. -/
theorem receive_prepared (response : Response) (unset : SideChannelUnset response)
    (written unread : Stream)
    (sent : writeItems (sendFds (prepareResponse response).1) = some written) :
    ∃ received, receiveFileDescriptors (written ++ unread) (prepareResponse response).2 =
      some (received, unread, sendFds (prepareResponse response).1) ∧
      fdFields received = fdFields (withoutOwnFds response) := by
  cases response with
  | connection message =>
      cases platform : message.platform with
      | none =>
          simp only [prepareResponse, platform] at sent ⊢
          simp [written_nothing sent, receiveFileDescriptors, platform, send_nothing, fdFields,
            withoutOwnFds]
      | some platformMessage =>
          simp only [prepareResponse, platform] at sent ⊢
          have reads := receive_extracted platformMessage written unread sent
          simp [receiveFileDescriptors, reads, fdFields, withoutOwnFds, platform,
            FdMessage.withFds, FdMessage.fd]
  | surface message =>
      cases buffer : message.buffer with
      | none =>
          simp only [prepareResponse, buffer] at sent ⊢
          have own := receive_unset message unread unset
          simp [written_nothing sent, receiveFileDescriptors, own, FdMessage.withFds, buffer,
            send_nothing, fdFields, withoutOwnFds]
      | some bufferMessage =>
          simp only [prepareResponse, buffer] at sent ⊢
          have reads := receive_extracted bufferMessage written unread sent
          have own := receive_unset
            ({ message with buffer := some (extractFdsFrom bufferMessage).2 } : Surface)
            (written ++ unread) unset
          simp [receiveFileDescriptors, own, FdMessage.withFds, reads, fdFields, withoutOwnFds,
            buffer, FdMessage.fd]
  | buffer message =>
      have reads := receive_extracted message written unread sent
      simp only [prepareResponse]
      simp [receiveFileDescriptors, reads, fdFields, withoutOwnFds, FdMessage.withFds,
        FdMessage.fd]
  | surfaceSetting message =>
      simp [written_nothing sent, prepareResponse, receiveFileDescriptors, send_nothing,
        withoutOwnFds]
  | void message =>
      simp [written_nothing sent, prepareResponse, receiveFileDescriptors, send_nothing,
        withoutOwnFds]
  | drmAuthMagicStatus message =>
      simp [written_nothing sent, prepareResponse, receiveFileDescriptors, send_nothing,
        withoutOwnFds]

end Agreement

section Runs

variable (codec : Codec)

theorem complete_of_response (id : UInt32) (response : Response) (channel : Channel)
    (fdBytes unread : Stream) (unset : SideChannelUnset response)
    (answers : channel.pendingCalls.lookup id.toInt32 = some response.resultType)
    (sent : writeItems (sendFds (prepareResponse response).1) = some fdBytes)
    (arrived : channel.stream = fdBytes ++ unread) :
    ∃ received, completeResponse codec
        ⟨some id, some (codec.serialize (prepareResponse response).2)⟩ channel = some
      { stream := unread
        pendingCalls := channel.pendingCalls.erase id.toInt32
        received := channel.received ++ sendFds (prepareResponse response).1
        completed := channel.completed ++ [(id.toInt32, received)] } := by
  have message : codec.parse response.resultType
      (codec.serialize (prepareResponse response).2) = (prepareResponse response).2 := by
    rw [← prepared_type response]
    exact codec.parse_serialize _
  rcases receive_prepared response unset fdBytes unread sent with ⟨received, reads, -⟩
  exists received
  simp only [completeResponse, Option.getD_some, answers, message, arrived, reads]
  rfl

theorem read_message_of_response (id : UInt32) (response : Response) (channel : Channel)
    (written unread : Stream) (unset : SideChannelUnset response)
    (short : (resultBody codec id response).length < 65536)
    (answers : channel.pendingCalls.lookup id.toInt32 = some response.resultType)
    (sent : writeItems (sendResponse codec id response) = some written)
    (arrived : channel.stream = written ++ unread) :
    ∃ received, readMessage codec channel = some
      { stream := unread
        pendingCalls := channel.pendingCalls.erase id.toInt32
        received := channel.received ++ sendResponse codec id response
        completed := channel.completed ++ [(id.toInt32, received)] } := by
  simp only [sendResponse, writeItems, Item.write, Option.bind_eq_bind, Option.bind_some,
    Option.bind_eq_some_iff, Option.some.injEq] at sent
  rcases sent with ⟨fdBytes, fdsSent, whole⟩
  have start : channel.stream =
      (headerBytes (resultBody codec id response).length).map (fun byte => ⟨byte, []⟩) ++
        ((resultBody codec id response).map (fun byte => ⟨byte, []⟩) ++ (fdBytes ++ unread)) := by
    rw [arrived, ← whole, List.map_append]
    simp only [List.append_assoc]
  have header : readBytes 2 channel.stream = some
      (headerBytes (resultBody codec id response).length,
        (resultBody codec id response).map (fun byte => ⟨byte, []⟩) ++ (fdBytes ++ unread)) := by
    rw [start]
    exact read_bytes_append (headerBytes _) _
  have body := read_bytes_append (resultBody codec id response) (fdBytes ++ unread)
  have parsed : codec.parseResult (resultBody codec id response) =
      ⟨some id, some (codec.serialize (prepareResponse response).2)⟩ :=
    codec.parse_serialize_result _
  let atBody : Channel :=
    { channel with
      stream := fdBytes ++ unread
      received := channel.received ++ [.message (resultBody codec id response)] }
  rcases complete_of_response codec id response atBody fdBytes unread unset answers fdsSent rfl
    with ⟨received, completes⟩
  exists received
  simp only [readMessage, header, Option.bind_eq_bind, Option.bind_some,
    header_round_trip _ short, body, parsed]
  rw [completes]
  simp [atBody, sendResponse]

theorem run_reads_events (events : List Event) (channel : Channel)
    (answers : AnswersPending channel.pendingCalls events)
    (unset : ∀ id response, .response id response ∈ events → SideChannelUnset response)
    (short : ∀ id response, .response id response ∈ events →
      (resultBody codec id response).length < 65536)
    (sent : writeItems (sendEvents codec events) = some channel.stream) :
    ∃ finish, run (step codec) channel events = some finish ∧ finish.stream = [] ∧
      finish.received = channel.received ++ sendEvents codec events := by
  induction events generalizing channel with
  | nil =>
      have empty : channel.stream = [] := (Option.some.inj sent).symm
      exact ⟨channel, rfl, empty, (List.append_nil _).symm⟩
  | cons event events induction =>
      have unsetLater := fun id response member =>
        unset id response (List.mem_cons_of_mem event member)
      have shortLater := fun id response member =>
        short id response (List.mem_cons_of_mem event member)
      cases event with
      | call id resultType =>
          exact induction
            { channel with pendingCalls := channel.pendingCalls.insert id.toInt32 resultType }
            answers unsetLater shortLater sent
      | response id response =>
          have here : Event.response id response ∈ .response id response :: events :=
            List.mem_cons_self
          have split : writeItems (sendResponse codec id response ++
              sendEvents codec events) = some channel.stream := sent
          rw [write_items_append] at split
          simp only [Option.bind_eq_some_iff, Option.map_eq_some_iff] at split
          rcases split with ⟨first, firstSent, unread, restSent, whole⟩
          rcases read_message_of_response codec id response channel first unread
            (unset id response here) (short id response here) answers.1 firstSent whole.symm
            with ⟨received, reads⟩
          let next : Channel :=
            { stream := unread
              pendingCalls := channel.pendingCalls.erase id.toInt32
              received := channel.received ++ sendResponse codec id response
              completed := channel.completed ++ [(id.toInt32, received)] }
          have reached : step codec channel (.response id response) = some next := reads
          rcases induction next answers.2 unsetLater shortLater restSent with
            ⟨finish, later, left, items⟩
          apply Exists.intro finish
          constructor
          · rw [run_cons, reached, Option.bind_some]
            exact later
          · constructor
            · exact left
            · rw [items]
              exact List.append_assoc _ _ _

/-- The only responses the server fails to send are those with more descriptors
than `libancillary` accepts. -/
theorem events_sent_iff (events : List Event) :
    (writeItems (sendEvents codec events)).isSome ↔
      ∀ id response, .response id response ∈ events →
        (prepareResponse response).1.length ≤ ancilMaxNFds := by
  induction events with
  | nil => simp [sendEvents, writeItems]
  | cons event events induction =>
      cases event with
      | call id resultType =>
          have same : sendEvents codec (.call id resultType :: events) =
            sendEvents codec events := rfl
          simp [same, induction]
      | response id response =>
          have split : sendEvents codec (.response id response :: events) =
              sendResponse codec id response ++ sendEvents codec events := rfl
          have first : (writeItems (sendResponse codec id response)).isSome ↔
              (prepareResponse response).1.length ≤ ancilMaxNFds := by
            rw [← write_send_fds]
            cases sent : writeItems (sendFds (prepareResponse response).1) <;>
              simp [sendResponse, writeItems, Item.write, sent]
          have both : (writeItems (sendEvents codec (.response id response :: events))).isSome ↔
              (writeItems (sendResponse codec id response)).isSome ∧
                (writeItems (sendEvents codec events)).isSome := by
            rw [split, write_items_append]
            cases writeItems (sendResponse codec id response) <;> simp
          rw [both, first, induction]
          simp only [List.mem_cons, Event.response.injEq]
          constructor
          · intro bounds otherId other member
            rcases member with ⟨rfl, rfl⟩ | member
            · exact bounds.1
            · exact bounds.2 otherId other member
          · intro bounds
            exact ⟨bounds id response (Or.inl ⟨rfl, rfl⟩),
              fun otherId other member => bounds otherId other (Or.inr member)⟩

/-- Writer and reader agree on the whole stream. Unless a response has more
descriptors than one ancillary call takes, there is a stream, and the client reads
it to its end with the server's items in the server's order: the same bodies, and
an ancillary call where there was one, for as many descriptors. -/
theorem client_reads_what_the_server_wrote (events : List Event)
    (pending : AList fun _ : Int32 => ResultType)
    (answers : AnswersPending pending events)
    (unset : ∀ id response, .response id response ∈ events → SideChannelUnset response)
    (short : ∀ id response, .response id response ∈ events →
      (resultBody codec id response).length < 65536) :
    ((writeItems (sendEvents codec events)).isSome ↔
      ∀ id response, .response id response ∈ events →
        (prepareResponse response).1.length ≤ ancilMaxNFds) ∧
    ∀ stream, writeItems (sendEvents codec events) = some stream →
      ∃ finish, run (step codec) ⟨stream, pending, [], []⟩ events = some finish ∧
        finish.stream = [] ∧ finish.received = sendEvents codec events := by
  constructor
  · exact events_sent_iff codec events
  · intro stream sent
    exact run_reads_events codec events ⟨stream, pending, [], []⟩ answers unset short sent

end Runs

section Session

open Mir.MessageEncoding

/-- A client connects, creates a surface while the connection's reply is on its way,
asks for a buffer and is told off. -/
def session : List Event :=
  [.call 0 .connection, .call 1 .surface,
    .response 0 (.connection { platform := some { fd := [7], data := [1, 2] } }),
    .response 1 (.surface
      { id := some { value := some 1 }, fd := [5],
        buffer := some { bufferId := some 1, fd := [8, 9], stride := some 64 } }),
    .call 2 .buffer, .call 3 .void,
    .response 2 (.buffer { bufferId := some 2 }),
    .response 3 (.void { error := some [110, 111] })]

theorem session_is_read_to_its_end :
    ∃ stream, writeItems (sendEvents protobufCodec session) = some stream ∧
      ∃ finish, run (step protobufCodec) ⟨stream, ∅, [], []⟩ session = some finish ∧
        finish.stream = [] ∧ finish.received = sendEvents protobufCodec session := by
  have fitting : ∀ id response, .response id response ∈ session →
      SideChannelUnset response ∧ (resultBody protobufCodec id response).length < 65536 := by
    intro id response member
    simp only [session, List.mem_cons, List.not_mem_nil, or_false, reduceCtorEq, false_or,
      Event.response.injEq] at member
    rcases member with ⟨rfl, rfl⟩ | ⟨rfl, rfl⟩ | ⟨rfl, rfl⟩ | ⟨rfl, rfl⟩ <;>
      exact ⟨by trivial, by decide⟩
  have answers : AnswersPending ∅ session := by
    refine ⟨?_, ?_, ?_, ?_, trivial⟩ <;> decide
  have agreement := client_reads_what_the_server_wrote protobufCodec session ∅ answers
    (fun id response member => (fitting id response member).1)
    (fun id response member => (fitting id response member).2)
  have written : (writeItems (sendEvents protobufCodec session)).isSome = true := by decide
  rcases Option.isSome_iff_exists.mp written with ⟨stream, sent⟩
  exact ⟨stream, sent, agreement.2 stream sent⟩

/-- A buffer with one descriptor more than `libancillary` accepts. -/
def crowdedSession : List Event :=
  [.call 0 .buffer, .response 0 (.buffer { fd := List.replicate 961 5 })]

theorem crowded_session_is_not_sent :
    AnswersPending ∅ crowdedSession ∧
      (∀ id response, .response id response ∈ crowdedSession →
        SideChannelUnset response ∧ (resultBody protobufCodec id response).length < 65536) ∧
      writeItems (sendEvents protobufCodec crowdedSession) = none := by
  refine ⟨⟨by decide, trivial⟩, ?_, ?_⟩
  · intro id response member
    simp only [crowdedSession, List.mem_cons, List.not_mem_nil, or_false, reduceCtorEq, false_or,
      Event.response.injEq] at member
    obtain ⟨rfl, rfl⟩ := member
    exact ⟨trivial, by decide +kernel⟩
  · have crowded : ¬ (writeItems (sendEvents protobufCodec crowdedSession)).isSome := by
      rw [events_sent_iff]
      intro few
      have most : (List.replicate 961 (5 : Int32)).length ≤ ancilMaxNFds :=
        few 0 (.buffer { fd := List.replicate 961 5 }) (.tail _ (.head _))
      rw [List.length_replicate] at most
      exact absurd most (by decide)
    simpa using crowded

end Session

end Mir.ResponseStream
