import Mir.BufferExchange
import Mir.Computations
import Mir.MessageProcessor

/-!
# The session mediator

`SessionMediator` with both versions of `drm_auth_magic`. The shell, its sessions and
surfaces, the buffers, the platform and the allocator are behind `FrontendCall`: each
call returns a value or throws a `std::exception`, and what it does to the rest of the
server is up to the `Frontend`. The mediator's own session pointer may be null; using
it then is undefined. The reports are left out, but not the `session->name()` that is
evaluated for them.
-/

namespace Mir.SessionMediator

open Mir.ProtocolMessages Mir.RequestMessages Mir.Computations Mir.MessageProcessor
open Mir.SwapperModel (BufferID)
open Mir.ShellSessions (SessionKey)
open Mir.SessionFocus (StdException)
open Mir.BufferExchange (BufferIPCPackage)

set_option autoImplicit false

structure PlatformIPCPackage where
  ipcData : List Int32
  ipcFds : List Int32

/-- The packages that are kept until their descriptors have been sent. -/
inductive Package where
  | platform (package : PlatformIPCPackage)
  | buffer (package : BufferIPCPackage)

structure SurfaceCreationParameters where
  name : Text
  width : UInt32
  height : UInt32
  bufferUsage : Int32
  pixelFormat : Int32

/-- The calls that the mediator makes, with the type of the value they return. -/
inductive FrontendCall (SurfaceRef BufferRef : Type) : Type → Type where
  | openSession (name : Text) : FrontendCall SurfaceRef BufferRef SessionKey
  | closeSession (session : SessionKey) : FrontendCall SurfaceRef BufferRef Unit
  | createSurfaceFor (session : SessionKey) (params : SurfaceCreationParameters) :
      FrontendCall SurfaceRef BufferRef Int32
  | tagSessionWithLightdmId (session : SessionKey) (id : Int32) :
      FrontendCall SurfaceRef BufferRef Unit
  | focusSessionWithLightdmId (id : Int32) : FrontendCall SurfaceRef BufferRef Unit
  | getSurface (session : SessionKey) (id : Int32) : FrontendCall SurfaceRef BufferRef SurfaceRef
  | destroySurface (session : SessionKey) (id : Int32) : FrontendCall SurfaceRef BufferRef Unit
  | configureSurface (session : SessionKey) (id : Int32) (attrib : Int32) (value : Int32) :
      FrontendCall SurfaceRef BufferRef Int32
  | size (surface : SurfaceRef) : FrontendCall SurfaceRef BufferRef (UInt32 × UInt32)
  | pixelFormat (surface : SurfaceRef) : FrontendCall SurfaceRef BufferRef Int32
  | supportsInput (surface : SurfaceRef) : FrontendCall SurfaceRef BufferRef Bool
  | clientInputFd (surface : SurfaceRef) : FrontendCall SurfaceRef BufferRef Int32
  | advanceClientBuffer (surface : SurfaceRef) : FrontendCall SurfaceRef BufferRef Unit
  | clientBuffer (surface : SurfaceRef) : FrontendCall SurfaceRef BufferRef BufferRef
  | bufferId (buffer : BufferRef) : FrontendCall SurfaceRef BufferRef BufferID
  | bufferIpcPackage (buffer : BufferRef) : FrontendCall SurfaceRef BufferRef BufferIPCPackage
  | platformIpcPackage : FrontendCall SurfaceRef BufferRef PlatformIPCPackage
  | viewArea : FrontendCall SurfaceRef BufferRef (UInt32 × UInt32)
  | supportedPixelFormats : FrontendCall SurfaceRef BufferRef (List UInt32)
  | drmAuthMagic (magic : UInt32) : FrontendCall SurfaceRef BufferRef Unit

abbrev Frontend (World SurfaceRef BufferRef : Type) :=
  ∀ Value : Type, FrontendCall SurfaceRef BufferRef Value → Call StdException World Value

/-- The state a request works on: the mediator's member, the server, the response and
what has been saved for it. -/
structure Handling (World Message : Type) where
  session : Option SessionKey
  world : World
  response : Message
  saved : List Package

abbrev Body (World Message : Type) := Computation StdException (Handling World Message)

variable {World SurfaceRef BufferRef Message : Type}

section Steps

variable (frontend : Frontend World SurfaceRef BufferRef)

def call {Value : Type} (request : FrontendCall SurfaceRef BufferRef Value) :
    Body World Message Value :=
  within Handling.world (fun world state => { state with world := world }) (frontend Value request)

def respond (fill : Message → Message) : Body World Message Unit :=
  update fun state => { state with response := fill state.response }

def saveResource (package : Package) : Body World Message Unit :=
  update fun state => { state with saved := state.saved ++ [package] }

def setSession (session : Option SessionKey) : Body World Message Unit :=
  update fun state => { state with session := session }

/-- The check at the start of the requests. -/
def checkSession : Body World Message Unit := do
  let state ← readState
  match state.session with
  | none => throw ⟨"Invalid application session", none⟩
  | some _ => pure ()

def theSession : Body World Message SessionKey := do
  let state ← readState
  match state.session with
  | none => undefined
  | some session => pure session

end Steps

section Requests

variable (frontend : Frontend World SurfaceRef BufferRef)

/-- `connect` from `get_ipc_package` on. -/
def describeServer (request : ConnectParameters) : Body World Connection Unit := do
  let ipcPackage ← call frontend .platformIpcPackage
  respond fun response =>
    { response with
      platform := some
        { response.platform.getD {} with
          data := (response.platform.getD {}).data ++ ipcPackage.ipcData
          fd := (response.platform.getD {}).fd ++ ipcPackage.ipcFds }
      displayInfo := some (response.displayInfo.getD {}) }
  let viewArea ← call frontend .viewArea
  respond fun response =>
    { response with
      displayInfo := response.displayInfo.map fun info =>
        { info with width := some viewArea.1.toInt32, height := some viewArea.2.toInt32 } }
  let supportedPixelFormats ← call frontend .supportedPixelFormats
  respond fun response =>
    { response with
      displayInfo := response.displayInfo.map fun info =>
        { info with
          supportedPixelFormat := info.supportedPixelFormat ++ supportedPixelFormats } }
  saveResource (.platform ipcPackage)
  match request.lightdmId with
  | some id => do
      let session ← theSession
      call frontend (.tagSessionWithLightdmId session id)
  | none => pure ()

def connect (request : ConnectParameters) : Body World Connection Unit := do
  let session ← call frontend (.openSession (request.applicationName.getD []))
  setSession (some session)
  describeServer frontend request

/-- The buffer fields that two requests fill in. -/
def fillBuffer (id : BufferID) (ipcPackage : BufferIPCPackage) (buffer : Buffer) : Buffer :=
  { buffer with
    bufferId := some (ProtocolMessages.bufferId id)
    data := buffer.data ++ ipcPackage.ipcData
    fd := buffer.fd ++ ipcPackage.ipcFds
    stride := some ipcPackage.stride }

/-- The client buffer of a surface is advanced and packed. -/
def packClientBuffer (surface : SurfaceRef) : Body World Message (BufferID × BufferIPCPackage) := do
  call frontend (.advanceClientBuffer surface)
  let buffer ← call frontend (.clientBuffer surface)
  let id ← call frontend (.bufferId buffer)
  let ipcPackage ← call frontend (.bufferIpcPackage buffer)
  pure (id, ipcPackage)

def addInputFd (surface : SurfaceRef) : Body World Surface Unit := do
  let supportsInput ← call frontend (.supportsInput surface)
  if supportsInput then
    let clientInputFd ← call frontend (.clientInputFd surface)
    respond fun response => { response with fd := response.fd ++ [clientInputFd] }
  else pure ()

def createSurface (request : SurfaceParameters) : Body World Surface Unit := do
  checkSession
  let session ← theSession
  let id ← call frontend (.createSurfaceFor session
    { name := request.surfaceName.getD []
      width := (request.width.getD 0).toUInt32
      height := (request.height.getD 0).toUInt32
      bufferUsage := request.bufferUsage.getD 0
      pixelFormat := request.pixelFormat.getD 0 })
  let session ← theSession
  let surface ← call frontend (.getSurface session id)
  respond fun response => { response with id := some ⟨some id⟩ }
  let size ← call frontend (.size surface)
  respond fun response => { response with width := some size.1.toInt32 }
  let size ← call frontend (.size surface)
  respond fun response => { response with height := some size.2.toInt32 }
  let pixelFormat ← call frontend (.pixelFormat surface)
  respond fun response =>
    { response with
      pixelFormat := some pixelFormat
      bufferUsage := some (request.bufferUsage.getD 0) }
  addInputFd frontend surface
  let packed ← packClientBuffer frontend surface
  respond fun response =>
    { response with buffer := some (fillBuffer packed.1 packed.2 (response.buffer.getD {})) }
  saveResource (.buffer packed.2)

def nextBuffer (request : SurfaceId) : Body World Buffer Unit := do
  checkSession
  let session ← theSession
  let surface ← call frontend (.getSurface session (request.value.getD 0))
  let packed ← packClientBuffer frontend surface
  respond (fillBuffer packed.1 packed.2)
  saveResource (.buffer packed.2)

def selectFocusByLightdmId (request : LightdmId) : Body World Void Unit := do
  checkSession
  call frontend (.focusSessionWithLightdmId (request.value.getD 0))

def releaseSurface (request : SurfaceId) : Body World Void Unit := do
  checkSession
  let session ← theSession
  call frontend (.destroySurface session (request.value.getD 0))

def disconnect : Body World Void Unit := do
  checkSession
  let session ← theSession
  call frontend (.closeSession session)
  setSession none

def configureSurface (request : SurfaceSetting) : Body World SurfaceSetting Unit := do
  respond fun response =>
    { response with
      surfaceid := some (request.surfaceid.getD {})
      attrib := some (request.attrib.getD 0) }
  checkSession
  let session ← theSession
  let newvalue ← call frontend (.configureSurface session
    ((request.surfaceid.getD {}).value.getD 0) (request.attrib.getD 0) (request.ivalue.getD 0))
  respond fun response => { response with ivalue := some newvalue }

/-- The platform the server is built for. -/
inductive Build where
  | gbm
  | android
  deriving DecidableEq, Repr

def drmAuthMagic (request : DRMMagic) : Build → Body World DRMAuthMagicStatus Unit
  | .gbm => do
      checkSession
      let _ ← theSession
      tryCatch
        (do
          call frontend (.drmAuthMagic (request.magic.getD 0))
          respond fun response => { response with statusCode := some 0 })
        (fun thrown => match thrown.errno with
          | some errno => respond fun response => { response with statusCode := some errno }
          | none => throw thrown)
  | .android => do
      checkSession
      let _ ← theSession
      throw ⟨"drm_auth_magic request not supported by the Android platform", none⟩

end Requests

section Service

structure Mediator (World : Type) where
  session : Option SessionKey
  world : World

/-- A request from the start, with `response` as the new result message. -/
def perform (body : Body World Message Unit) (response : Message) (mediator : Mediator World) :
    Option (Handled (Mediator World) Package Message) :=
  (execute body ⟨mediator.session, mediator.world, response, []⟩).map fun (outcome, state) =>
    { displayServer := ⟨state.session, state.world⟩
      response := state.response
      saved := state.saved
      thrown := match outcome with
        | .ok _ => none
        | .error thrown => some thrown }

/-- `test_file_descriptors` is not among the methods that the class overrides. -/
def sessionMediator (build : Build) (frontend : Frontend World SurfaceRef BufferRef) :
    DisplayServer (Mediator World) Package where
  connect := fun _ request => perform (connect frontend request) {}
  disconnect := fun _ _ => perform (disconnect frontend) {}
  createSurface := fun _ request => perform (createSurface frontend request) {}
  nextBuffer := fun _ request => perform (nextBuffer frontend request) {}
  releaseSurface := fun _ request => perform (releaseSurface frontend request) {}
  selectFocusByLightdmId := fun _ request => perform (selectFocusByLightdmId frontend request) {}
  drmAuthMagic := fun _ request => perform (drmAuthMagic frontend request build) {}
  testFileDescriptors := notImplemented {}
  configureSurface := fun _ request => perform (configureSurface frontend request) {}

end Service

/-- A server with one session, whose surface takes input. -/
def smallFrontend : Frontend Unit Unit Unit := fun _ request => match request with
  | .openSession _ => pure 0
  | .closeSession _ => pure ()
  | .createSurfaceFor _ _ => pure 0
  | .tagSessionWithLightdmId _ _ => pure ()
  | .focusSessionWithLightdmId _ => pure ()
  | .getSurface _ id => if id = 0 then pure () else throw ⟨"Invalid SurfaceId", none⟩
  | .destroySurface _ id => if id = 0 then pure () else throw ⟨"Invalid SurfaceId", none⟩
  | .configureSurface _ _ _ value => pure value
  | .size _ => pure (640, 480)
  | .pixelFormat _ => pure 1
  | .supportsInput _ => pure true
  | .clientInputFd _ => pure 5
  | .advanceClientBuffer _ => pure ()
  | .clientBuffer _ => pure ()
  | .bufferId _ => pure ⟨7⟩
  | .bufferIpcPackage _ => pure ⟨[], [6], 2560⟩
  | .platformIpcPackage => pure ⟨[], [4]⟩
  | .viewArea => pure (1024, 768)
  | .supportedPixelFormats => pure [1, 2]
  | .drmAuthMagic _ => throw ⟨"drmAuthMagic", some 13⟩

section Invariant

/-- The calls that open or close a session. -/
def changesSessions {Value : Type} : FrontendCall SurfaceRef BufferRef Value → Bool
  | .openSession _ | .closeSession _ => true
  | _ => false

/-- The other calls keep a property of the server. -/
def Preserves (frontend : Frontend World SurfaceRef BufferRef) (property : World → Prop) : Prop :=
  ∀ (Value : Type) (request : FrontendCall SurfaceRef BufferRef Value),
    changesSessions request = false →
      ∀ world, property world → property ((frontend Value request).run.run world).2

/-- The calls that change the shell or the surfaces of its sessions. -/
def changesShell {Value : Type} : FrontendCall SurfaceRef BufferRef Value → Bool
  | .openSession _ | .closeSession _ | .createSurfaceFor _ _ | .tagSessionWithLightdmId _ _
  | .focusSessionWithLightdmId _ | .destroySurface _ _ => true
  | _ => false

/-- The calls that leave the shell alone keep a property of the server. -/
def Undisturbed (frontend : Frontend World SurfaceRef BufferRef) (property : World → Prop) :
    Prop :=
  ∀ (Value : Type) (request : FrontendCall SurfaceRef BufferRef Value),
    changesShell request = false →
      ∀ world, property world → property ((frontend Value request).run.run world).2

theorem undisturbed_of_preserves {frontend : Frontend World SurfaceRef BufferRef}
    {property : World → Prop} (preserves : Preserves frontend property) :
    Undisturbed frontend property := by
  intro Value request unchanged
  apply preserves Value request
  cases request <;> first | rfl | cases unchanged

/-- Between two steps of a request: whose session it works for, what is true of the
server, of the response and of what has been saved. -/
structure Ready (session : Option SessionKey) (property : World → Prop)
    (filled : Message → Prop) (kept : List Package → Prop) (state : Handling World Message) :
    Prop where
  session : state.session = session
  world : property state.world
  response : filled state.response
  saved : kept state.saved

variable {frontend : Frontend World SurfaceRef BufferRef} {session : Option SessionKey}
  {property : World → Prop} {filled : Message → Prop} {kept : List Package → Prop}

theorem call_keeps {Value : Type} {request : FrontendCall SurfaceRef BufferRef Value}
    (holds : ∀ world, property world → property ((frontend Value request).run.run world).2) :
    Keeps (Ready session property filled kept) (call frontend request) := by
  apply keeps_within
  intro state ready
  exact { ready with world := holds state.world ready.world }

theorem respond_keeps {fill : Message → Message}
    (fills : ∀ response, filled response → filled (fill response)) :
    Keeps (Ready session property filled kept) (respond fill : Body World Message Unit) := by
  apply keeps_update
  intro state ready
  exact { ready with response := fills state.response ready.response }

theorem save_keeps (package : Package) :
    Keeps (Ready session property filled fun _ => True) (saveResource package) := by
  apply keeps_update
  intro state ready
  exact { ready with saved := trivial }

theorem execute_check (state : Handling World Message) :
    execute checkSession state = match state.session with
      | none => some (.error ⟨"Invalid application session", none⟩, state)
      | some _ => some (.ok (), state) := by
  rcases state with ⟨session, world, response, saved⟩
  cases session <;> rfl

theorem execute_the_session (state : Handling World Message) :
    execute theSession state = state.session.map fun session => (.ok session, state) := by
  rcases state with ⟨session, world, response, saved⟩
  cases session <;> rfl

variable {Value : Type}

theorem execute_call {request : FrontendCall SurfaceRef BufferRef Value}
    {state : Handling World Message} {outcome : Except StdException Value} {after : World}
    (called : (frontend Value request).run.run state.world = (outcome, after)) :
    execute (call frontend request) state = some (outcome, { state with world := after }) := by
  change some (((frontend Value request).run.run state.world).1,
    { state with world := ((frontend Value request).run.run state.world).2 }) = _
  rw [called]

/-- After the check the request works for a session, and the pointer can be used. -/
theorem checked_triple {rest : Body World Message Value}
    {returned : Value → Handling World Message → Prop}
    {thrown : StdException → Handling World Message → Prop}
    (null : session = none → ∀ failure state, Ready session property filled kept state →
      thrown failure state)
    (continues : ∀ key, session = some key →
      Triple (Ready session property filled kept) rest returned thrown) :
    Triple (Ready session property filled kept) (do checkSession; rest) returned thrown := by
  intro state ready
  rw [execute_bind, execute_check, ready.session]
  cases session with
  | none => exact ⟨_, state, rfl, null rfl _ state ready⟩
  | some key => exact continues key rfl state ready

theorem used_triple {key : SessionKey} {rest : SessionKey → Body World Message Value}
    {returned : Value → Handling World Message → Prop}
    {thrown : StdException → Handling World Message → Prop}
    (continues : Triple (Ready (some key) property filled kept) (rest key) returned thrown) :
    Triple (Ready (some key) property filled kept) (theSession >>= rest) returned thrown := by
  intro state ready
  rw [execute_bind, execute_the_session, ready.session]
  exact continues state ready

theorem checked_keeps {rest : Body World Message Value}
    (continues : ∀ key, session = some key → Keeps (Ready session property filled kept) rest) :
    Keeps (Ready session property filled kept) (do checkSession; rest) :=
  checked_triple (fun _ _ _ ready => ready) continues

theorem used_keeps {key : SessionKey} {rest : SessionKey → Body World Message Value}
    (continues : Keeps (Ready (some key) property filled kept) (rest key)) :
    Keeps (Ready (some key) property filled kept) (theSession >>= rest) :=
  used_triple continues

theorem called_keeps {Result : Type} {request : FrontendCall SurfaceRef BufferRef Result}
    (holds : ∀ world, property world → property ((frontend Result request).run.run world).2)
    {rest : Result → Body World Message Value}
    (continues : ∀ result, Keeps (Ready session property filled kept) (rest result)) :
    Keeps (Ready session property filled kept) (call frontend request >>= rest) :=
  keeps_bind (call_keeps holds) continues

end Invariant

section Kept

variable {frontend : Frontend World SurfaceRef BufferRef} {session : Option SessionKey}
  {property : World → Prop} {filled : Message → Prop} {kept : List Package → Prop}

theorem pack_keeps (undisturbed : Undisturbed frontend property) (surface : SurfaceRef) :
    Keeps (Ready session property filled kept) (packClientBuffer frontend surface) := by
  apply called_keeps (undisturbed _ _ rfl)
  intro _
  apply called_keeps (undisturbed _ _ rfl)
  intro buffer
  apply called_keeps (undisturbed _ _ rfl)
  intro id
  apply called_keeps (undisturbed _ _ rfl)
  intro ipcPackage
  exact keeps_pure _

theorem responded_keeps {fill : Message → Message} {Value : Type}
    {rest : Body World Message Value}
    (fills : ∀ response, filled response → filled (fill response))
    (continues : Keeps (Ready session property filled kept) rest) :
    Keeps (Ready session property filled kept) (do respond fill; rest) :=
  keeps_bind (respond_keeps fills) fun _ => continues

/-- No request sets the error of its response. -/
def unset (error : Message → Option Text) (response : Message) : Prop := error response = none

/-- `create_surface` does not set the count of its own descriptors either. -/
def uncounted (response : Surface) : Prop :=
  response.error = none ∧ response.fdsOnSideChannel = none

theorem add_input_fd_keeps (undisturbed : Undisturbed frontend property) (surface : SurfaceRef) :
    Keeps (Ready session property uncounted kept) (addInputFd frontend surface) := by
  apply called_keeps (undisturbed _ _ rfl)
  intro supportsInput
  cases supportsInput with
  | false => exact keeps_pure _
  | true =>
      apply called_keeps (undisturbed _ _ rfl)
      intro clientInputFd
      exact respond_keeps fun _ before => before

def creationParameters (request : SurfaceParameters) : SurfaceCreationParameters where
  name := request.surfaceName.getD []
  width := (request.width.getD 0).toUInt32
  height := (request.height.getD 0).toUInt32
  bufferUsage := request.bufferUsage.getD 0
  pixelFormat := request.pixelFormat.getD 0

/-- `create_surface` works on the surface that `create_surface_for` made, whatever happens
later; if that threw, or there is no session, there is no surface. -/
def Created (session : Option SessionKey) (created failed : World → Prop)
    (state : Handling World Surface) : Prop :=
  Ready session created uncounted (fun _ => True) state ∨
    Ready session failed uncounted (fun _ => True) state

theorem create_surface_creates (request : SurfaceParameters) {before created failed : World → Prop}
    (undisturbed : Undisturbed frontend created)
    (null : session = none → ∀ world, before world → failed world)
    (returns : ∀ key, session = some key → ∀ world id after, before world →
      (frontend _ (.createSurfaceFor key (creationParameters request))).run.run world =
        (.ok id, after) → created after)
    (throws : ∀ key, session = some key → ∀ world thrown after, before world →
      (frontend _ (.createSurfaceFor key (creationParameters request))).run.run world =
        (.error thrown, after) → failed after) :
    Triple (Ready session before uncounted fun _ => True) (createSurface frontend request)
      (fun _ => Created session created failed) (fun _ => Created session created failed) := by
  apply checked_triple
  · intro missing _ state ready
    exact Or.inr { ready with world := null missing state.world ready.world }
  rintro key rfl
  have creating : Triple (Ready (some key) before uncounted fun _ => True)
      (call frontend (.createSurfaceFor key (creationParameters request)))
      (fun _ => Ready (some key) created uncounted fun _ => True)
      (fun _ => Created (some key) created failed) := by
    apply triple_within
    · intro state id after ready ran
      exact { ready with world := returns key rfl state.world id after ready.world ran }
    · intro state thrown after ready ran
      exact Or.inr
        { ready with world := throws key rfl state.world thrown after ready.world ran }
  apply used_triple
  refine triple_bind creating fun id => ?_
  refine triple_implies (show Keeps (Ready (some key) created uncounted fun _ => True) _ from ?_)
    fun state ready => Or.inl ready
  apply used_keeps
  apply called_keeps (undisturbed _ _ rfl)
  intro surface
  apply responded_keeps
  · exact fun _ before => before
  apply called_keeps (undisturbed _ _ rfl)
  intro size
  apply responded_keeps
  · exact fun _ before => before
  apply called_keeps (undisturbed _ _ rfl)
  intro size
  apply responded_keeps
  · exact fun _ before => before
  apply called_keeps (undisturbed _ _ rfl)
  intro pixelFormat
  apply responded_keeps
  · exact fun _ before => before
  apply keeps_bind (add_input_fd_keeps undisturbed surface)
  intro _
  apply keeps_bind (pack_keeps undisturbed surface)
  intro packed
  apply responded_keeps
  · exact fun _ before => before
  exact save_keeps _

theorem create_surface_keeps (preserves : Preserves frontend property)
    (request : SurfaceParameters) :
    Keeps (Ready session property uncounted fun _ => True)
      (createSurface frontend request) := by
  have kept : ∀ key world outcome after, property world →
      (frontend _ (.createSurfaceFor key (creationParameters request))).run.run world =
        (outcome, after) → property after := by
    intro key world outcome after holds ran
    have left := preserves _ (.createSurfaceFor key (creationParameters request)) rfl world holds
    rwa [ran] at left
  refine triple_implies (create_surface_creates request (undisturbed_of_preserves preserves)
    (fun _ _ holds => holds) (fun key _ world _ after => kept key world _ after)
    (fun key _ world _ after => kept key world _ after)) ?_
  intro state made
  exact made.elim id id

theorem next_buffer_keeps (undisturbed : Undisturbed frontend property) (request : SurfaceId) :
    Keeps (Ready session property (unset Buffer.error) fun _ => True)
      (nextBuffer frontend request) := by
  apply checked_keeps
  rintro key rfl
  apply used_keeps
  apply called_keeps (undisturbed _ _ rfl)
  intro surface
  apply keeps_bind (pack_keeps undisturbed surface)
  intro packed
  apply responded_keeps
  · exact fun _ before => before
  exact save_keeps _

theorem select_focus_keeps (preserves : Preserves frontend property) (request : LightdmId) :
    Keeps (Ready session property (unset Void.error) fun saved => saved = [])
      (selectFocusByLightdmId frontend request) := by
  apply checked_keeps
  intro _ _
  exact call_keeps (preserves _ _ rfl)

theorem release_surface_keeps (preserves : Preserves frontend property) (request : SurfaceId) :
    Keeps (Ready session property (unset Void.error) fun saved => saved = [])
      (releaseSurface frontend request) := by
  apply checked_keeps
  rintro key rfl
  apply used_keeps
  exact call_keeps (preserves _ _ rfl)

theorem configure_surface_keeps (undisturbed : Undisturbed frontend property)
    (request : SurfaceSetting) :
    Keeps (Ready session property (unset SurfaceSetting.error) fun saved => saved = [])
      (configureSurface frontend request) := by
  apply responded_keeps
  · exact fun _ before => before
  apply checked_keeps
  rintro key rfl
  apply used_keeps
  apply called_keeps (undisturbed _ _ rfl)
  intro newvalue
  exact respond_keeps fun _ before => before

theorem drm_auth_magic_keeps (undisturbed : Undisturbed frontend property) (request : DRMMagic)
    (build : Build) :
    Keeps (Ready session property (unset DRMAuthMagicStatus.error) fun saved => saved = [])
      (drmAuthMagic frontend request build) := by
  cases build with
  | gbm =>
      apply checked_keeps
      rintro key rfl
      apply used_keeps
      apply keeps_catch
      · apply called_keeps (undisturbed _ _ rfl)
        intro _
        exact respond_keeps fun _ before => before
      · intro thrown
        cases thrown.errno with
        | some errno => exact respond_keeps fun _ before => before
        | none => exact keeps_throw thrown
  | android =>
      apply checked_keeps
      rintro key rfl
      apply used_keeps
      exact keeps_throw _

end Kept

section Sessions

variable {frontend : Frontend World SurfaceRef BufferRef} {session : Option SessionKey}

theorem describe_keeps {property : World → Prop} (preserves : Preserves frontend property)
    (request : ConnectParameters) (key : SessionKey) :
    Keeps (Ready (some key) property (unset Connection.error) fun _ => True)
      (describeServer frontend request) := by
  apply called_keeps (preserves _ _ rfl)
  intro ipcPackage
  apply responded_keeps
  · exact fun _ before => before
  apply called_keeps (preserves _ _ rfl)
  intro viewArea
  apply responded_keeps
  · exact fun _ before => before
  apply called_keeps (preserves _ _ rfl)
  intro supportedPixelFormats
  apply responded_keeps
  · exact fun _ before => before
  apply keeps_bind (save_keeps _)
  intro _
  cases request.lightdmId with
  | some id =>
      apply used_keeps
      exact call_keeps (preserves _ _ rfl)
  | none => exact keeps_pure _

variable {before failed : World → Prop}

/-- After `connect` the mediator has the session that `open_session` returned, whatever
happened later; if that threw, it has the session it had. -/
def Connected (session : Option SessionKey) (opened : SessionKey → World → Prop)
    (failed : World → Prop) (state : Handling World Connection) : Prop :=
  Ready session failed (unset Connection.error) (fun _ => True) state ∨ ∃ key,
    Ready (some key) (opened key) (unset Connection.error) (fun _ => True) state

theorem connect_opens (request : ConnectParameters) {opened : SessionKey → World → Prop}
    (preserves : ∀ key, Preserves frontend (opened key))
    (returns : ∀ world key after, before world →
      (frontend _ (.openSession (request.applicationName.getD []))).run.run world =
        (.ok key, after) → opened key after)
    (throws : ∀ world thrown after, before world →
      (frontend _ (.openSession (request.applicationName.getD []))).run.run world =
        (.error thrown, after) → failed after) :
    Triple (Ready session before (unset Connection.error) fun _ => True)
      (connect frontend request)
      (fun _ => Connected session opened failed) (fun _ => Connected session opened failed) := by
  have opening : Triple (Ready session before (unset Connection.error) fun _ => True)
      (call frontend (.openSession (request.applicationName.getD [])))
      (fun key => Ready session (opened key) (unset Connection.error) fun _ => True)
      (fun _ => Connected session opened failed) := by
    apply triple_within
    · intro state key after ready ran
      exact { ready with world := returns state.world key after ready.world ran }
    · intro state thrown after ready ran
      exact Or.inl { ready with world := throws state.world thrown after ready.world ran }
  have setting : ∀ key,
      Triple (Ready session (opened key) (unset Connection.error) fun _ => True)
        (setSession (some key))
        (fun _ => Ready (some key) (opened key) (unset Connection.error) fun _ => True)
        (fun _ => Connected session opened failed) := by
    intro key
    apply triple_update
    intro state ready
    exact { ready with session := rfl }
  refine triple_bind opening fun key => triple_bind (setting key) fun _ => ?_
  apply triple_implies (describe_keeps (preserves key) request key)
  exact fun state ready => Or.inr ⟨key, ready⟩

/-- The session of the mediator is closed and forgotten, unless there is none or
`close_session` throws. -/
def Disconnected (session : Option SessionKey) (before closed failed : World → Prop)
    (state : Handling World Void) : Prop :=
  (session = none ∧ Ready session before (unset Void.error) (fun saved => saved = []) state) ∨
    ∃ key, session = some key ∧
      (Ready none closed (unset Void.error) (fun saved => saved = []) state ∨
        Ready session failed (unset Void.error) (fun saved => saved = []) state)

theorem disconnect_closes {closed : World → Prop}
    (returns : ∀ world key after, session = some key → before world →
      (frontend _ (.closeSession key)).run.run world = (.ok (), after) → closed after)
    (throws : ∀ world key thrown after, session = some key → before world →
      (frontend _ (.closeSession key)).run.run world = (.error thrown, after) → failed after) :
    Triple (Ready session before (unset Void.error) fun saved => saved = [])
      (disconnect frontend)
      (fun _ => Disconnected session before closed failed)
      (fun _ => Disconnected session before closed failed) := by
  apply checked_triple
  · intro null _ state ready
    exact Or.inl ⟨null, ready⟩
  · rintro key rfl
    have closing : Triple (Ready (some key) before (unset Void.error) fun saved => saved = [])
        (call frontend (.closeSession key))
        (fun _ => Ready (some key) closed (unset Void.error) fun saved => saved = [])
        (fun _ => Disconnected (some key) before closed failed) := by
      apply triple_within
      · intro state _ after ready ran
        exact { ready with world := returns state.world key after rfl ready.world ran }
      · intro state thrown after ready ran
        refine Or.inr ⟨key, rfl, Or.inr { ready with world := ?_ }⟩
        exact throws state.world key thrown after rfl ready.world ran
    have resetting : Triple (Ready (some key) closed (unset Void.error) fun saved => saved = [])
        (setSession none)
        (fun _ => Disconnected (some key) before closed failed)
        (fun _ => Disconnected (some key) before closed failed) := by
      apply triple_update
      intro state ready
      exact Or.inr ⟨key, rfl, Or.inl { ready with session := rfl }⟩
    apply used_triple
    exact triple_bind closing fun _ => resetting

end Sessions

section Outcomes

theorem perform_of_triple {body : Body World Message Unit}
    {before after : Handling World Message → Prop}
    (runs : Triple before body (fun _ => after) (fun _ => after))
    (response : Message) (mediator : Mediator World)
    (start : before ⟨mediator.session, mediator.world, response, []⟩) :
    ∃ handled, perform body response mediator = some handled ∧
      after ⟨handled.displayServer.session, handled.displayServer.world, handled.response,
        handled.saved⟩ := by
  obtain ⟨outcome, state, ran, holds⟩ := runs _ start
  unfold perform
  rw [ran]
  refine ⟨_, rfl, ?_⟩
  cases outcome with
  | ok value => exact holds
  | error thrown => exact holds

/-- The session that a request leaves to the mediator, and the server behind it. -/
def Leaves (handled : Handled (Mediator World) Package Response) (session : Option SessionKey)
    (property : World → Prop) : Prop :=
  handled.displayServer.session = session ∧ property handled.displayServer.world

theorem handled_of_triple {body : Body World Message Unit}
    {before after : Handling World Message → Prop}
    (runs : Triple before body (fun _ => after) (fun _ => after)) {response : Message}
    {mediator : Mediator World} {wrap : Message → Response}
    {handled : Handled (Mediator World) Package Response}
    (called : (perform body response mediator).map (Handled.withResponse wrap) = some handled)
    (start : before ⟨mediator.session, mediator.world, response, []⟩) :
    ∃ message, after ⟨handled.displayServer.session, handled.displayServer.world, message,
      handled.saved⟩ := by
  obtain ⟨performed, same, holds⟩ := perform_of_triple runs response mediator start
  rw [same] at called
  cases called
  exact ⟨performed.response, holds⟩

theorem kept_leaves {body : Body World Message Unit} {property : World → Prop}
    {filled : Message → Prop} {kept : List Package → Prop} {mediator : Mediator World}
    (keeps : Keeps (Ready mediator.session property filled kept) body) {response : Message}
    {wrap : Message → Response} {handled : Handled (Mediator World) Package Response}
    (called : (perform body response mediator).map (Handled.withResponse wrap) = some handled)
    (holds : property mediator.world) (start : filled response) (empty : kept []) :
    Leaves handled mediator.session property := by
  obtain ⟨message, ready⟩ := handled_of_triple keeps called ⟨rfl, holds, start, empty⟩
  exact ⟨ready.session, ready.world⟩

variable {frontend : Frontend World SurfaceRef BufferRef} {protobuf : Protobuf} {build : Build}

/-- The requests that neither open nor close a session keep the mediator's own, and what
the other calls preserve. -/
theorem ordinary_request_leaves {property : World → Prop}
    (preserves : Preserves frontend property) {method : Method} (opening : method ≠ .connect)
    (closing : method ≠ .disconnect) {parameters : Text} {mediator : Mediator World}
    {handled : Handled (Mediator World) Package Response}
    (called : handle protobuf (sessionMediator build frontend) method parameters mediator =
      some handled)
    (holds : property mediator.world) : Leaves handled mediator.session property := by
  have undisturbed := undisturbed_of_preserves preserves
  cases method with
  | connect => exact absurd rfl opening
  | createSurface =>
      exact kept_leaves (create_surface_keeps preserves _) called holds ⟨rfl, rfl⟩ trivial
  | nextBuffer => exact kept_leaves (next_buffer_keeps undisturbed _) called holds rfl trivial
  | releaseSurface => exact kept_leaves (release_surface_keeps preserves _) called holds rfl rfl
  | testFileDescriptors => cases called
  | drmAuthMagic => exact kept_leaves (drm_auth_magic_keeps undisturbed _ _) called holds rfl rfl
  | selectFocusByLightdmId =>
      exact kept_leaves (select_focus_keeps preserves _) called holds rfl rfl
  | configureSurface =>
      exact kept_leaves (configure_surface_keeps undisturbed _) called holds rfl rfl
  | disconnect => exact absurd rfl closing

end Outcomes

end Mir.SessionMediator
