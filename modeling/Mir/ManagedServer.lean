import Mir.SessionMediator

/-!
# The session manager behind the mediator

A `Frontend` whose shell is `SessionManager` with `ApplicationSession`. The surface
factory, the surfaces, the buffers, the platform and the allocator are `Devices`: they
answer calls in any way and keep a state of their own.
-/

namespace Mir.ManagedServer

open Mir.Computations Mir.SessionMediator Mir.SessionFocus Mir.ShellSessions
open Mir.SwapperModel (BufferID)

set_option autoImplicit false

structure ServerState (Devices : Type) where
  manager : SessionManager
  devices : Devices

/-- A surface is found by its session and its id. -/
abbrev SurfaceRef := SessionKey × SurfaceKey

variable {Devices BufferRef Value : Type}

/-- `checked_find`, for an id that is an `int`. -/
def checkedFind (manager : SessionManager) (session : SessionKey) (id : Int32) :
    Except StdException SurfaceKey :=
  if 0 ≤ id ∧ ((manager.shell.sessions session).surfaces id.toInt.toNat).isSome then
    .ok id.toInt.toNat
  else .error ⟨"Invalid SurfaceId", none⟩

section Calls

def onManager (change : SessionManager → Except StdException SessionManager) :
    Call StdException (ServerState Devices) Unit :=
  fun state => match change state.manager with
    | .ok manager => (.ok (), { state with manager := manager })
    | .error thrown => (.error thrown, state)

def onDevices (call : Call StdException Devices Value) :
    Call StdException (ServerState Devices) Value :=
  fun state => ((call.run.run state.devices).1,
    { state with devices := (call.run.run state.devices).2 })

/-- The factory makes the surface, or it throws, before the manager is changed. -/
def createSurfaceFor (factory : Call StdException Devices (List BufferID)) (session : SessionKey) :
    Call StdException (ServerState Devices) Int32 :=
  fun state =>
    let devices := (factory.run.run state.devices).2
    let id := (state.manager.shell.sessions session).nextSurfaceId
    match SessionFocus.createSurfaceFor state.manager session
      (factory.run.run state.devices).1 with
    | .ok manager => (.ok (Int32.ofNat id), ⟨manager, devices⟩)
    | .error thrown => (.error thrown, ⟨state.manager, devices⟩)

def onSurface (session : SessionKey) (id : Int32)
    (call : SurfaceKey → Call StdException (ServerState Devices) Value) :
    Call StdException (ServerState Devices) Value :=
  fun state => match checkedFind state.manager session id with
    | .ok key => call key state
    | .error thrown => (.error thrown, state)

variable (factory : SurfaceCreationParameters → Call StdException Devices (List BufferID))
  (devices : Frontend Devices SurfaceRef BufferRef)

def managed : Frontend (ServerState Devices) SurfaceRef BufferRef :=
  fun _ request => match request with
  | .openSession _ => fun state =>
      (.ok state.manager.nextSession, { state with manager := openSession state.manager })
  | .closeSession session => onManager fun manager => closeSession manager session
  | .createSurfaceFor session params => createSurfaceFor (factory params) session
  | .tagSessionWithLightdmId session id => onManager fun manager =>
      .ok (tagSessionWithLightdmId manager session id)
  | .focusSessionWithLightdmId id => onManager fun manager =>
      .ok (focusSessionWithLightdmId manager id)
  | .getSurface session id => onSurface session id fun key state => (.ok (session, key), state)
  | .destroySurface session id => onSurface session id fun key =>
      onManager fun manager => destroySurface manager session key
  | .configureSurface session id attrib value => onSurface session id fun _ =>
      onDevices (devices _ (.configureSurface session id attrib value))
  | request => onDevices (devices _ request)

end Calls

section Sessions

def Holds (apps : List SessionKey) (opened : SessionKey) (state : ServerState Devices) : Prop :=
  state.manager.shell.apps = apps ∧ state.manager.nextSession = opened

variable {apps : List SessionKey} {opened : SessionKey} {state : ServerState Devices}

theorem on_manager_holds {operation : Operation} (unopened : opens operation = 0)
    (unclosed : closedSession operation = none) (holds : Holds apps opened state) :
    Holds apps opened ((onManager fun manager => SessionFocus.perform manager operation)
      state).2 := by
  simp only [onManager]
  cases performed : SessionFocus.perform state.manager operation with
  | ok next =>
      obtain ⟨sameApps, sameCount⟩ := perform_keeps_sessions unopened unclosed performed
      exact ⟨sameApps.trans holds.1, sameCount.trans holds.2⟩
  | error thrown => exact holds

theorem on_surface_holds {session : SessionKey} {id : Int32}
    {call : SurfaceKey → Call StdException (ServerState Devices) Value}
    (kept : ∀ key, Holds apps opened (call key state).2) (holds : Holds apps opened state) :
    Holds apps opened ((onSurface session id call) state).2 := by
  unfold onSurface
  cases checkedFind state.manager session id with
  | ok key => exact kept key
  | error thrown => exact holds

variable (factory : SurfaceCreationParameters → Call StdException Devices (List BufferID))
  (devices : Frontend Devices SurfaceRef BufferRef)

theorem create_surface_holds (session : SessionKey)
    (created : Call StdException Devices (List BufferID)) (holds : Holds apps opened state) :
    Holds apps opened ((createSurfaceFor created session) state).2 := by
  simp only [createSurfaceFor, SessionFocus.createSurfaceFor]
  cases (created.run.run state.devices).1 with
  | ok bufferList => exact holds
  | error thrown => exact holds

theorem close_session_holds {key : SessionKey} (holds : Holds apps opened state)
    (listed : key ∈ apps) :
    ∃ after, (onManager fun manager => closeSession manager key) state = (.ok (), after) ∧
      Holds (apps.erase key) opened after := by
  have member : key ∈ state.manager.shell.apps := holds.1 ▸ listed
  simp only [onManager, SessionFocus.closeSession, ShellSessions.closeSession, if_pos member]
  refine ⟨_, rfl, ?_, holds.2⟩
  exact congrArg (fun sessions => sessions.erase key) holds.1

theorem managed_preserves (apps : List SessionKey) (opened : SessionKey) :
    Preserves (managed factory devices) (Holds apps opened) := by
  intro Value request ordinary state holds
  cases request with
  | openSession name => cases ordinary
  | closeSession session => cases ordinary
  | createSurfaceFor session params => exact create_surface_holds session (factory params) holds
  | tagSessionWithLightdmId session id =>
      have tagging : opens (.tagSessionWithLightdmId session id) = 0 := rfl
      exact on_manager_holds tagging rfl holds
  | focusSessionWithLightdmId id =>
      have focusing : opens (.focusSessionWithLightdmId id) = 0 := rfl
      exact on_manager_holds focusing rfl holds
  | getSurface session id => exact on_surface_holds (fun _ => holds) holds
  | destroySurface session id =>
      apply on_surface_holds _ holds
      intro key
      have destroying : opens (.destroySurface session key) = 0 := rfl
      exact on_manager_holds destroying rfl holds
  | configureSurface session id attrib value => exact on_surface_holds (fun _ => holds) holds
  | _ => exact holds

end Sessions

section Requests

open Mir.MessageProcessor Mir.RequestMessages Mir.ProtocolMessages

variable {factory : SurfaceCreationParameters → Call StdException Devices (List BufferID)}
  {devices : Frontend Devices SurfaceRef BufferRef} {protobuf : Protobuf} {build : Build}
  {parameters : Text} {mediator : Mediator (ServerState Devices)}
  {handled : Handled (Mediator (ServerState Devices)) Package Response}
  {apps : List SessionKey} {opened : SessionKey}

/-- `connect` opens one more session, also if it fails later on. -/
theorem managed_connect
    (called : handle protobuf (sessionMediator build (managed factory devices)) .connect parameters
      mediator = some handled)
    (holds : Holds apps opened mediator.world) :
    Leaves handled (some opened) (Holds (apps ++ [opened]) (opened + 1)) := by
  have opens : Triple
      (Ready mediator.session (Holds apps opened) (unset Connection.error) fun _ => True)
      (connect (managed factory devices) (protobuf.parser.connectParameters parameters))
      (fun _ => Connected mediator.session
        (fun key state => key = opened ∧ Holds (apps ++ [opened]) (opened + 1) state)
        fun _ => False)
      (fun _ => Connected mediator.session
        (fun key state => key = opened ∧ Holds (apps ++ [opened]) (opened + 1) state)
        fun _ => False) := by
    apply connect_opens
    · intro key Value request ordinary state kept
      exact ⟨kept.1, managed_preserves factory devices _ _ Value request ordinary state kept.2⟩
    · rintro state key after ⟨sameApps, sameCount⟩ ⟨⟩
      refine ⟨sameCount, ?_, ?_⟩
      · simp [SessionFocus.openSession, ShellSessions.openSession, setFocusTo, sameApps, sameCount]
      · simp [SessionFocus.openSession, sameCount]
    · rintro state thrown after _ ⟨⟩
  obtain ⟨message, connected⟩ := handled_of_triple opens called ⟨rfl, holds, rfl, trivial⟩
  rcases connected with ready | ⟨key, ready⟩
  · exact ready.world.elim
  · obtain ⟨rfl, kept⟩ := ready.world
    exact ⟨ready.session, kept⟩

theorem managed_disconnect
    (called : handle protobuf (sessionMediator build (managed factory devices)) .disconnect
      parameters mediator = some handled)
    (holds : Holds apps opened mediator.world)
    (listed : ∀ key, mediator.session = some key → key ∈ apps) :
    Leaves handled none
      (Holds (match mediator.session with
        | some key => apps.erase key
        | none => apps) opened) := by
  have closes : Triple
      (Ready mediator.session (Holds apps opened) (unset Void.error) fun saved => saved = [])
      (disconnect (managed factory devices))
      (fun _ => Disconnected mediator.session (Holds apps opened)
        (fun state => ∀ key, mediator.session = some key → Holds (apps.erase key) opened state)
        fun _ => False)
      (fun _ => Disconnected mediator.session (Holds apps opened)
        (fun state => ∀ key, mediator.session = some key → Holds (apps.erase key) opened state)
        fun _ => False) := by
    apply disconnect_closes
    · intro state key after named kept ran other same
      obtain ⟨closed, succeeded, left⟩ := close_session_holds kept (listed key named)
      cases ran.symm.trans succeeded
      cases named.symm.trans same
      exact left
    · intro state key thrown after named kept ran
      obtain ⟨closed, succeeded, -⟩ := close_session_holds kept (listed key named)
      cases ran.symm.trans succeeded
  obtain ⟨message, disconnected⟩ := handled_of_triple closes called ⟨rfl, holds, rfl, rfl⟩
  rcases disconnected with ⟨null, ready⟩ | ⟨key, same, ready | ready⟩
  · refine ⟨ready.session.trans null, ?_⟩
    rw [null]
    exact ready.world
  · refine ⟨ready.session, ?_⟩
    rw [same]
    exact ready.world key same
  · exact ready.world.elim

end Requests

end Mir.ManagedServer
