import Mir.RequestMessages
import Mir.ResponseStream
import Mir.SessionFocus

/-!
# From a message of the client to its reply

`ProtobufMessageProcessor` with the `ResourceCache`. The display server is any
implementation of the service whose methods run `done` once as their last action or
throw a `std::exception` before; a method without a result has gone wrong. Sends succeed.
The reports are left out.
-/

namespace Mir.MessageProcessor

open Mir.ProtocolMessages Mir.RequestMessages Mir.MessageEncoding Mir.ResponseStream
open Mir.SessionFocus (StdException)

set_option autoImplicit false

/-- A `google::protobuf::Message*`. -/
abbrev MessageAddress := Nat

/-- An `RpcController`, with the reason it has been given. -/
structure RpcController where
  failure : Option String
  deriving DecidableEq, Repr

variable {Server Resource Request Message : Type}

section DisplayServers

/-- What a method has done when it runs `done` or throws: `saved` are the values it
passed to `save_resource` with its response as the key. -/
structure Handled (Server Resource Message : Type) where
  displayServer : Server
  response : Message
  saved : List Resource
  thrown : Option StdException

abbrev Handler (Server Resource Request Message : Type) :=
  Option RpcController → Request → Server → Option (Handled Server Resource Message)

structure DisplayServer (Server Resource : Type) where
  connect : Handler Server Resource ConnectParameters Connection
  disconnect : Handler Server Resource Void Void
  createSurface : Handler Server Resource SurfaceParameters Surface
  nextBuffer : Handler Server Resource SurfaceId Buffer
  releaseSurface : Handler Server Resource SurfaceId Void
  selectFocusByLightdmId : Handler Server Resource LightdmId Void
  drmAuthMagic : Handler Server Resource DRMMagic DRMAuthMagicStatus
  testFileDescriptors : Handler Server Resource Void Buffer
  configureSurface : Handler Server Resource SurfaceSetting SurfaceSetting

/-- The generated body of a method that the class does not override: it calls
`SetFailed` on its controller and runs `done`. -/
def notImplemented (response : Message) : Handler Server Resource Request Message
  | none, _, _ => none
  | some _, _, displayServer => some ⟨displayServer, response, [], none⟩

end DisplayServers

section Cache

abbrev ResourceCache (Resource : Type) := AList fun _ : MessageAddress => Resource

/-- What the processor and its display server do, in the order they do it. -/
inductive Effect (Resource : Type) where
  | saved (key : MessageAddress) (value : Resource)
  | sent (item : Item)
  | freed (key : MessageAddress)
  deriving DecidableEq

structure Processor (Server Resource : Type) where
  displayServer : Server
  resources : ResourceCache Resource
  effects : List (Effect Resource)

def saveResource (key : MessageAddress) (state : Processor Server Resource) (value : Resource) :
    Processor Server Resource :=
  { state with
    resources := state.resources.insert key value
    effects := state.effects ++ [.saved key value] }

def freeResource (key : MessageAddress) (state : Processor Server Resource) :
    Processor Server Resource :=
  { state with
    resources := state.resources.erase key
    effects := state.effects ++ [.freed key] }

def send (items : List Item) (state : Processor Server Resource) : Processor Server Resource :=
  { state with effects := state.effects ++ items.map .sent }

end Cache

section Replies

def setError (text : Text) : Response → Response
  | .connection message => .connection { message with error := some text }
  | .surface message => .surface { message with error := some text }
  | .buffer message => .buffer { message with error := some text }
  | .surfaceSetting message => .surfaceSetting { message with error := some text }
  | .void message => .void { message with error := some text }
  | .drmAuthMagicStatus message => .drmAuthMagicStatus { message with error := some text }

def error : Response → Option Text
  | .connection message => message.error
  | .surface message => message.error
  | .buffer message => message.error
  | .surfaceSetting message => message.error
  | .void message => message.error
  | .drmAuthMagicStatus message => message.error

/-- The generated code and `boost::diagnostic_information`. -/
structure Protobuf where
  codec : Codec
  parser : RequestParser
  diagnosticInformation : StdException → Text

/-- The wire format, and exceptions without a text. -/
def plainProtobuf : Protobuf := ⟨protobufCodec, protobufParser, fun _ => []⟩

variable (protobuf : Protobuf)

/-- The overloads of `send_response`. The template for the other messages does not
free what was saved for them. -/
def sendResponse (id : UInt32) (key : MessageAddress) (response : Response)
    (state : Processor Server Resource) : Processor Server Resource :=
  let sent := send (ResponseStream.sendResponse protobuf.codec id response) state
  match response with
  | .buffer _ | .connection _ | .surface _ => freeResource key sent
  | .surfaceSetting _ | .void _ | .drmAuthMagicStatus _ => sent

/-- `invoke`, for a method whose result message is at the address `key`. The controller
is always null. -/
def invoke (handler : Handler Server Resource Request Message) (parse : Text → Request)
    (response : Message → Response) (invocation : Invocation) (key : MessageAddress)
    (state : Processor Server Resource) : Option (Processor Server Resource) :=
  (handler none (parse (invocation.parameters.getD [])) state.displayServer).map fun handled =>
    let called := handled.saved.foldl (saveResource key)
      { state with displayServer := handled.displayServer }
    match handled.thrown with
    | none => sendResponse protobuf (invocation.id.getD 0) key (response handled.response) called
    | some thrown => sendResponse protobuf (invocation.id.getD 0) key
        (setError (protobuf.diagnosticInformation thrown) (response handled.response)) called

variable (displayServer : DisplayServer Server Resource)

def dispatch (invocation : Invocation) (key : MessageAddress)
    (state : Processor Server Resource) : Option (Bool × Processor Server Resource) :=
  let parser := protobuf.parser
  match invocation.method with
  | some .connect => (invoke protobuf displayServer.connect parser.connectParameters
      .connection invocation key state).map fun after => (true, after)
  | some .createSurface => (invoke protobuf displayServer.createSurface parser.surfaceParameters
      .surface invocation key state).map fun after => (true, after)
  | some .nextBuffer => (invoke protobuf displayServer.nextBuffer parser.surfaceId
      .buffer invocation key state).map fun after => (true, after)
  | some .releaseSurface => (invoke protobuf displayServer.releaseSurface parser.surfaceId
      .void invocation key state).map fun after => (true, after)
  | some .testFileDescriptors => (invoke protobuf displayServer.testFileDescriptors parser.void
      .buffer invocation key state).map fun after => (true, after)
  | some .drmAuthMagic => (invoke protobuf displayServer.drmAuthMagic parser.drmMagic
      .drmAuthMagicStatus invocation key state).map fun after => (true, after)
  | some .selectFocusByLightdmId => (invoke protobuf displayServer.selectFocusByLightdmId
      parser.lightdmId .void invocation key state).map fun after => (true, after)
  | some .configureSurface => (invoke protobuf displayServer.configureSurface
      parser.surfaceSetting .surfaceSetting invocation key state).map fun after => (true, after)
  | some .disconnect => (invoke protobuf displayServer.disconnect parser.void
      .void invocation key state).map fun after => (false, after)
  | none => some (false, state)

def processMessage (body : Text) (key : MessageAddress) (state : Processor Server Resource) :
    Option (Bool × Processor Server Resource) :=
  dispatch protobuf displayServer (protobuf.parser.invocation body) key state

end Replies

section Dispatched

variable (protobuf : Protobuf) (displayServer : DisplayServer Server Resource)

def Handled.withResponse (response : Message → Response)
    (handled : Handled Server Resource Message) : Handled Server Resource Response :=
  ⟨handled.displayServer, response handled.response, handled.saved, handled.thrown⟩

def handle (method : Method) (parameters : Text) (server : Server) :
    Option (Handled Server Resource Response) :=
  let parser := protobuf.parser
  match method with
  | .connect => (displayServer.connect none (parser.connectParameters parameters) server).map
      (Handled.withResponse .connection)
  | .createSurface => (displayServer.createSurface none
      (parser.surfaceParameters parameters) server).map (Handled.withResponse .surface)
  | .nextBuffer => (displayServer.nextBuffer none (parser.surfaceId parameters) server).map
      (Handled.withResponse .buffer)
  | .releaseSurface => (displayServer.releaseSurface none
      (parser.surfaceId parameters) server).map (Handled.withResponse .void)
  | .testFileDescriptors => (displayServer.testFileDescriptors none
      (parser.void parameters) server).map (Handled.withResponse .buffer)
  | .drmAuthMagic => (displayServer.drmAuthMagic none (parser.drmMagic parameters) server).map
      (Handled.withResponse .drmAuthMagicStatus)
  | .selectFocusByLightdmId => (displayServer.selectFocusByLightdmId none
      (parser.lightdmId parameters) server).map (Handled.withResponse .void)
  | .configureSurface => (displayServer.configureSurface none
      (parser.surfaceSetting parameters) server).map (Handled.withResponse .surfaceSetting)
  | .disconnect => (displayServer.disconnect none (parser.void parameters) server).map
      (Handled.withResponse .void)

def answer (handled : Handled Server Resource Response) : Response :=
  match handled.thrown with
  | none => handled.response
  | some thrown => setError (protobuf.diagnosticInformation thrown) handled.response

def reply (id : UInt32) (key : MessageAddress) (handled : Handled Server Resource Response)
    (state : Processor Server Resource) : Processor Server Resource :=
  sendResponse protobuf id key (answer protobuf handled)
    (handled.saved.foldl (saveResource key) { state with displayServer := handled.displayServer })

theorem invoke_reply (handler : Handler Server Resource Request Message) (parse : Text → Request)
    (response : Message → Response) (invocation : Invocation) (key : MessageAddress)
    (state : Processor Server Resource) :
    invoke protobuf handler parse response invocation key state =
      ((handler none (parse (invocation.parameters.getD [])) state.displayServer).map
        (Handled.withResponse response)).map fun handled =>
          reply protobuf (invocation.id.getD 0) key handled state := by
  unfold invoke
  rw [Option.map_map]
  congr 1
  funext handled
  rcases handled with ⟨server, message, saved, thrown⟩
  cases thrown <;> rfl

theorem dispatch_known {invocation : Invocation} {method : Method}
    (named : invocation.method = some method) (key : MessageAddress)
    (state : Processor Server Resource) :
    dispatch protobuf displayServer invocation key state =
      (handle protobuf displayServer method (invocation.parameters.getD [])
        state.displayServer).map fun handled =>
          (decide (method ≠ .disconnect),
            reply protobuf (invocation.id.getD 0) key handled state) := by
  unfold dispatch
  rw [named]
  cases method <;> simp only [invoke_reply, Option.map_map, handle] <;> rfl

theorem dispatch_unknown {invocation : Invocation} (unnamed : invocation.method = none)
    (key : MessageAddress) (state : Processor Server Resource) :
    dispatch protobuf displayServer invocation key state = some (false, state) := by
  unfold dispatch
  rw [unnamed]

end Dispatched

section Effects

/-- The responses whose overload of `send_response` frees what was saved for them. -/
def isFreed : Response → Bool
  | .buffer _ | .connection _ | .surface _ => true
  | .surfaceSetting _ | .void _ | .drmAuthMagicStatus _ => false

theorem saves_effects (key : MessageAddress) (saved : List Resource)
    (state : Processor Server Resource) :
    (saved.foldl (saveResource key) state).effects = state.effects ++ saved.map (.saved key) := by
  induction saved generalizing state with
  | nil => simp
  | cons value rest ih => simp [ih, saveResource]

theorem saves_server (key : MessageAddress) (saved : List Resource)
    (state : Processor Server Resource) :
    (saved.foldl (saveResource key) state).displayServer = state.displayServer := by
  induction saved generalizing state with
  | nil => rfl
  | cons value rest ih => exact ih (saveResource key state value)

theorem saves_cached (key other : MessageAddress) (saved : List Resource)
    (state : Processor Server Resource) :
    other ∈ (saved.foldl (saveResource key) state).resources ↔
      (other = key ∧ saved ≠ []) ∨ other ∈ state.resources := by
  induction saved generalizing state with
  | nil => simp
  | cons value rest ih =>
      rw [List.foldl_cons, ih]
      simp [saveResource]
      tauto

variable (protobuf : Protobuf)

theorem send_response_effects (id : UInt32) (key : MessageAddress) (response : Response)
    (state : Processor Server Resource) :
    (sendResponse protobuf id key response state).effects =
      state.effects ++ (ResponseStream.sendResponse protobuf.codec id response).map .sent ++
        (if isFreed response then [.freed key] else []) := by
  cases response <;> simp [sendResponse, isFreed, freeResource, send]

theorem send_response_cached (id : UInt32) (key other : MessageAddress) (response : Response)
    (state : Processor Server Resource) :
    other ∈ (sendResponse protobuf id key response state).resources ↔
      (other = key → isFreed response = false) ∧ other ∈ state.resources := by
  cases response <;> simp [sendResponse, isFreed, freeResource, send]

theorem reply_effects (id : UInt32) (key : MessageAddress)
    (handled : Handled Server Resource Response) (state : Processor Server Resource) :
    (reply protobuf id key handled state).effects =
      state.effects ++ handled.saved.map (.saved key) ++
        (ResponseStream.sendResponse protobuf.codec id (answer protobuf handled)).map .sent ++
        (if isFreed (answer protobuf handled) then [.freed key] else []) := by
  unfold reply
  rw [send_response_effects, saves_effects]

theorem reply_server (id : UInt32) (key : MessageAddress)
    (handled : Handled Server Resource Response) (state : Processor Server Resource) :
    (reply protobuf id key handled state).displayServer = handled.displayServer := by
  have sending : ∀ response before, (sendResponse protobuf id key response before).displayServer =
      (before : Processor Server Resource).displayServer := by
    intro response before
    cases response <;> rfl
  unfold reply
  rw [sending, saves_server]

theorem answer_error {handled : Handled Server Resource Response}
    (unset : error handled.response = none) :
    (error (answer protobuf handled)).isSome = handled.thrown.isSome := by
  unfold answer
  cases handled.thrown with
  | none => simp [unset]
  | some thrown => cases handled.response <;> rfl

theorem answer_freed (handled : Handled Server Resource Response) :
    isFreed (answer protobuf handled) = isFreed handled.response := by
  unfold answer
  cases handled.thrown with
  | none => rfl
  | some thrown => cases handled.response <;> rfl

theorem reply_cached (id : UInt32) (key other : MessageAddress)
    (handled : Handled Server Resource Response) (state : Processor Server Resource) :
    other ∈ (reply protobuf id key handled state).resources ↔
      (other = key → isFreed handled.response = false) ∧
        ((other = key ∧ handled.saved ≠ []) ∨ other ∈ state.resources) := by
  unfold reply
  rw [send_response_cached, saves_cached, answer_freed]

end Effects

end Mir.MessageProcessor
