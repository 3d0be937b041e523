import Mir.DesktopSurfaces
import Mir.ManagedServer

/-!
# Requests that fail

What a request that ends in an exception leaves of the shell. A call of the session
manager that throws leaves the manager as it was. `connect` and `create_surface` go on
with other calls after theirs has returned, and undo nothing when one of these throws.
-/

namespace Mir.RequestFailures

open Mir.Computations Mir.TransitionRuns Mir.MessageProcessor Mir.RequestMessages
open Mir.ProtocolMessages Mir.SessionMediator Mir.ManagedServer
open Mir.ShellSessions (SessionKey SurfaceKey)
open Mir.SessionFocus (StdException SessionManager)
open Mir.SwapperModel (BufferID)
open Mir.DesktopSurfaces (Present)

set_option autoImplicit false

section Numbers

/-- Sessions and surfaces are numbered in the order in which they are made. -/
structure Numbered (manager : SessionManager) : Prop where
  sessions : ∀ session ∈ manager.shell.apps, session < manager.nextSession
  surfaces : DesktopSurfaces.Keyed manager.shell

variable {manager next : SessionManager} {operation : SessionFocus.Operation}

theorem numbered_set_focus (numbered : Numbered manager) (nextFocus : Option SessionKey) :
    Numbered { manager with shell := ShellSessions.setFocusTo manager.shell nextFocus } :=
  ⟨numbered.sessions, DesktopSurfaces.keyed_set_focus numbered.surfaces nextFocus⟩

theorem numbered_open (numbered : Numbered manager) :
    Numbered (SessionFocus.openSession manager) where
  sessions := by
    intro session member
    rcases List.mem_append.mp member with earlier | last
    · exact Nat.lt_succ_of_lt (numbered.sessions session earlier)
    · rw [List.mem_singleton.mp last]
      exact Nat.lt_succ_self _
  surfaces := DesktopSurfaces.keyed_open manager.nextSession numbered.surfaces

theorem perform_numbered (numbered : Numbered manager)
    (performed : SessionFocus.perform manager operation = .ok next) : Numbered next := by
  cases operation with
  | openSession =>
      cases performed
      exact numbered_open numbered
  | closeSession session =>
      rcases SessionFocus.close_session_cases manager session with ⟨_, closed⟩ | ⟨_, closed⟩
      · cases closed.symm.trans performed
        have erased : Numbered { manager with
            shell := { manager.shell with apps := manager.shell.apps.erase session }
            tags := manager.tags.filter fun tag => tag.2 ≠ session } :=
          ⟨fun other member => numbered.sessions other (List.mem_of_mem_erase member),
            numbered.surfaces⟩
        exact numbered_set_focus erased _
      · cases closed.symm.trans performed
  | createSurfaceFor session created =>
      cases created with
      | error thrown => cases performed
      | ok bufferList =>
          cases performed
          exact ⟨numbered.sessions,
            DesktopSurfaces.keyed_create session numbered.surfaces bufferList⟩
  | tagSessionWithLightdmId session id =>
      cases performed
      exact ⟨numbered.sessions, numbered.surfaces⟩
  | focusSessionWithLightdmId id =>
      cases performed
      unfold SessionFocus.focusSessionWithLightdmId
      split
      · exact numbered_set_focus numbered _
      · exact numbered
  | focusNext =>
      obtain ⟨nextFocus, rfl⟩ := SessionFocus.focus_next_some performed
      exact numbered_set_focus numbered nextFocus
  | destroySurface session key =>
      simp only [SessionFocus.perform, SessionFocus.destroySurface] at performed
      split_ifs at performed
      cases performed
      exact ⟨numbered.sessions, DesktopSurfaces.keyed_destroy session key numbered.surfaces⟩

theorem run_numbered {operations : List SessionFocus.Operation}
    (ran : run SessionFocus.step SessionFocus.noSessions operations = some manager) :
    Numbered manager := by
  refine run_invariant Numbered
    ⟨by simp [SessionFocus.noSessions],
      by simp [DesktopSurfaces.Keyed, Present, SessionFocus.noSessions]⟩ ?_ ran
  intro before operation after numbered stepped
  unfold SessionFocus.step at stepped
  split at stepped
  · next performed =>
      cases stepped
      exact perform_numbered numbered performed
  · cases stepped
    exact numbered

end Numbers

section Calls

variable {Devices BufferRef Value : Type}
  {factory : SurfaceCreationParameters → Call StdException Devices (List BufferID)}
  {devices : Frontend Devices SurfaceRef BufferRef}
  {request : FrontendCall SurfaceRef BufferRef Value} {state after : ServerState Devices}
  {thrown : StdException}

theorem on_manager_throws {change : SessionManager → Except StdException SessionManager}
    (ran : onManager change state = (.error thrown, after)) : after.manager = state.manager := by
  simp only [onManager] at ran
  split at ran
  · cases ran
  · cases ran
    rfl

theorem on_devices_leaves {call : Call StdException Devices Value}
    {outcome : Except StdException Value}
    (ran : onDevices call state = (outcome, after)) : after.manager = state.manager := by
  cases ran
  rfl

theorem on_surface_throws {session : SessionKey} {id : Int32}
    {call : SurfaceKey → Call StdException (ServerState Devices) Value}
    (leaves : ∀ key, call key state = (.error thrown, after) → after.manager = state.manager)
    (ran : onSurface session id call state = (.error thrown, after)) :
    after.manager = state.manager := by
  unfold onSurface at ran
  split at ran
  · exact leaves _ ran
  · cases ran
    rfl

/-- Whichever collaborator throws, the session manager is as it was before the call. -/
theorem throwing_call_leaves
    (ran : (managed factory devices Value request).run.run state = (.error thrown, after)) :
    after.manager = state.manager := by
  cases request with
  | openSession name => cases ran
  | closeSession session =>
      change onManager (fun manager => SessionFocus.closeSession manager session) state = _ at ran
      exact on_manager_throws ran
  | createSurfaceFor session params =>
      change createSurfaceFor (factory params) session state = _ at ran
      simp only [createSurfaceFor] at ran
      split at ran
      · cases ran
      · cases ran
        rfl
  | tagSessionWithLightdmId session id => cases ran
  | focusSessionWithLightdmId id => cases ran
  | getSurface session id => exact on_surface_throws (fun _ found => by cases found) ran
  | destroySurface session id => exact on_surface_throws (fun _ => on_manager_throws) ran
  | configureSurface session id attrib value =>
      exact on_surface_throws (fun _ => on_devices_leaves) ran
  | _ => exact on_devices_leaves ran

theorem quiet_call_leaves (quiet : changesShell request = false) :
    ((managed factory devices Value request).run.run state).2.manager = state.manager := by
  cases request with
  | openSession | closeSession | createSurfaceFor | tagSessionWithLightdmId
  | focusSessionWithLightdmId | destroySurface => cases quiet
  | getSurface session id =>
      change (onSurface session id _ state).2.manager = state.manager
      unfold onSurface
      split <;> rfl
  | configureSurface session id attrib value =>
      change (onSurface session id _ state).2.manager = state.manager
      unfold onSurface
      split <;> rfl
  | _ => rfl

variable (factory devices) in
theorem managed_undisturbed (property : SessionManager → Prop) :
    Undisturbed (managed factory devices) fun state => property state.manager := by
  intro Value request quiet state holds
  rw [quiet_call_leaves quiet]
  exact holds

end Calls

section Failures

variable {Devices BufferRef : Type}

/-- The same sessions are open and have the same surfaces, the same session has the focus,
and the mediator has the same session. -/
structure Unchanged (before after : Mediator (ServerState Devices)) : Prop where
  sessions : ∀ session, session ∈ after.world.manager.shell.apps ↔
    session ∈ before.world.manager.shell.apps
  surfaces : ∀ session key, Present after.world.manager.shell session key ↔
    Present before.world.manager.shell session key
  focus : after.world.manager.shell.focusApplication =
    before.world.manager.shell.focusApplication
  session : after.session = before.session

variable {factory : SurfaceCreationParameters → Call StdException Devices (List BufferID)}
  {devices : Frontend Devices SurfaceRef BufferRef} {protobuf : Protobuf} {build : Build}
  {parameters : Text} {mediator : Mediator (ServerState Devices)}
  {handled : Handled (Mediator (ServerState Devices)) Package Response} {thrown : StdException}

theorem unchanged_of_leaves
    (leaves : Leaves handled mediator.session fun state =>
      state.manager = mediator.world.manager) :
    Unchanged mediator handled.displayServer := by
  obtain ⟨sameSession, sameManager⟩ := leaves
  constructor
  · intro session
    rw [sameManager]
  · intro session key
    rw [sameManager]
  · rw [sameManager]
  · exact sameSession

theorem failed_of_triple {World Message : Type} {body : Body World Message Unit}
    {before : Handling World Message → Prop} {returned : Unit → Handling World Message → Prop}
    {failing : StdException → Handling World Message → Prop}
    (runs : Triple before body returned failing) {response : Message}
    {mediator : Mediator World} {wrap : Message → Response}
    {handled : Handled (Mediator World) Package Response}
    (called : (perform body response mediator).map (Handled.withResponse wrap) = some handled)
    (failed : handled.thrown = some thrown)
    (start : before ⟨mediator.session, mediator.world, response, []⟩) :
    ∃ message, failing thrown ⟨handled.displayServer.session, handled.displayServer.world,
      message, handled.saved⟩ := by
  obtain ⟨outcome, state, ran, holds⟩ := runs _ start
  unfold perform at called
  rw [ran] at called
  cases called
  cases outcome with
  | ok value => cases failed
  | error failure =>
      cases failed
      exact ⟨state.response, holds⟩

/-- The mediator's session and the session manager, between two steps of a request. -/
abbrev Untouched {Message : Type} (session : Option SessionKey) (manager : SessionManager) :
    Handling (ServerState Devices) Message → Prop :=
  Ready session (fun state => state.manager = manager) (fun _ => True) fun _ => True

variable {session : Option SessionKey} {manager : SessionManager} {Message Value : Type}

theorem throwing_call_untouched (request : FrontendCall SurfaceRef BufferRef Value) :
    Triple (Untouched session manager) (call (managed factory devices) request)
      (fun _ (_ : Handling (ServerState Devices) Message) => True)
      (fun _ => Untouched session manager) := by
  apply triple_within
  · intros
    trivial
  · intro state thrown after ready ran
    exact { ready with world := (throwing_call_leaves ran).trans ready.world }

theorem release_surface_fails (request : SurfaceId) :
    Triple (Untouched session manager) (releaseSurface (managed factory devices) request)
      (fun _ _ => True) (fun _ => Untouched session manager) := by
  apply checked_triple
  · exact fun _ _ _ ready => ready
  · rintro key rfl
    apply used_triple
    exact throwing_call_untouched _

theorem select_focus_fails (request : LightdmId) :
    Triple (Untouched session manager) (selectFocusByLightdmId (managed factory devices) request)
      (fun _ _ => True) (fun _ => Untouched session manager) := by
  apply checked_triple
  · exact fun _ _ _ ready => ready
  · intro _ _
    exact throwing_call_untouched _

theorem disconnect_fails :
    Triple (Untouched session manager) (disconnect (managed factory devices))
      (fun _ _ => True) (fun _ => Untouched session manager) := by
  apply checked_triple
  · exact fun _ _ _ ready => ready
  · rintro key rfl
    apply used_triple
    refine triple_bind (throwing_call_untouched _) fun _ => ?_
    apply triple_update
    intros
    trivial

theorem unchanged_of_triple {body : Body (ServerState Devices) Message Unit}
    {returned : Unit → Handling (ServerState Devices) Message → Prop}
    (runs : Triple (Untouched mediator.session mediator.world.manager) body returned
      fun _ => Untouched mediator.session mediator.world.manager)
    {response : Message} {wrap : Message → Response}
    (called : (perform body response mediator).map (Handled.withResponse wrap) = some handled)
    (failed : handled.thrown = some thrown) : Unchanged mediator handled.displayServer := by
  obtain ⟨message, untouched⟩ := failed_of_triple runs called failed ⟨rfl, rfl, trivial, trivial⟩
  exact unchanged_of_leaves ⟨untouched.session, untouched.world⟩

/-- The surface factory makes the surface that a request asks for. -/
def Makes (factory : SurfaceCreationParameters → Call StdException Devices (List BufferID))
    (request : SurfaceParameters) (mediator : Mediator (ServerState Devices))
    (session : SessionKey) (bufferList : List BufferID) : Prop :=
  mediator.session = some session ∧
    ((factory (creationParameters request)).run.run mediator.world.devices).1 = .ok bufferList

/-- The session manager with the surface that was made. -/
def HasMade (factory : SurfaceCreationParameters → Call StdException Devices (List BufferID))
    (request : SurfaceParameters) (mediator : Mediator (ServerState Devices))
    (manager : SessionManager) : Prop :=
  ∃ session bufferList, Makes factory request mediator session bufferList ∧
    manager = { mediator.world.manager with
      shell := ShellSessions.createSurfaceFor bufferList mediator.world.manager.shell session }

/-- A surface that has been made stays, however `create_surface` ends. -/
theorem create_surface_leaves
    (called : handle protobuf (sessionMediator build (managed factory devices)) .createSurface
      parameters mediator = some handled) :
    let request := protobuf.parser.surfaceParameters parameters
    HasMade factory request mediator handled.displayServer.world.manager ∨
      (¬ ∃ session bufferList, Makes factory request mediator session bufferList) ∧
        Leaves handled mediator.session fun state =>
          state.manager = mediator.world.manager := by
  intro request
  let failed (state : ServerState Devices) : Prop :=
    (¬ ∃ session bufferList, Makes factory request mediator session bufferList) ∧
      state.manager = mediator.world.manager
  have creates : Triple
      (Ready mediator.session (fun state => state = mediator.world) uncounted fun _ => True)
      (createSurface (managed factory devices) request)
      (fun _ => Created mediator.session
        (fun state => HasMade factory request mediator state.manager) failed)
      (fun _ => Created mediator.session
        (fun state => HasMade factory request mediator state.manager) failed) := by
    apply create_surface_creates
    · exact managed_undisturbed factory devices _
    · rintro null state rfl
      refine ⟨?_, rfl⟩
      rintro ⟨session, bufferList, named, -⟩
      cases null.symm.trans named
    · rintro session named state id after rfl ran
      change ManagedServer.createSurfaceFor (factory _) session mediator.world = _ at ran
      simp only [ManagedServer.createSurfaceFor, SessionFocus.createSurfaceFor] at ran
      cases created : ((factory (creationParameters request)).run.run
        mediator.world.devices).1 with
      | ok bufferList =>
          rw [created] at ran
          cases ran
          exact ⟨session, bufferList, ⟨named, created⟩, rfl⟩
      | error thrown =>
          rw [created] at ran
          cases ran
    · rintro session named state thrown after rfl ran
      refine ⟨?_, throwing_call_leaves ran⟩
      rintro ⟨other, bufferList, -, created⟩
      change ManagedServer.createSurfaceFor (factory _) session mediator.world = _ at ran
      simp only [ManagedServer.createSurfaceFor, SessionFocus.createSurfaceFor] at ran
      rw [created] at ran
      cases ran
  obtain ⟨message, made | failed⟩ := handled_of_triple creates called
    ⟨rfl, rfl, ⟨rfl, rfl⟩, trivial⟩
  · exact .inl made.world
  · exact .inr ⟨failed.world.1, failed.session, failed.world.2⟩

/-- The request has opened a session or made a surface by the time it fails. -/
def Commits (protobuf : Protobuf)
    (factory : SurfaceCreationParameters → Call StdException Devices (List BufferID))
    (parameters : Text) (mediator : Mediator (ServerState Devices)) : Method → Prop
  | .connect => True
  | .createSurface => ∃ session bufferList,
      Makes factory (protobuf.parser.surfaceParameters parameters) mediator session bufferList
  | _ => False

theorem connect_changes (numbered : Numbered mediator.world.manager)
    (called : handle protobuf (sessionMediator build (managed factory devices)) .connect
      parameters mediator = some handled) : ¬ Unchanged mediator handled.displayServer := by
  obtain ⟨_, apps, _⟩ := managed_connect called ⟨rfl, rfl⟩
  intro unchanged
  have opened : mediator.world.manager.nextSession ∈
      handled.displayServer.world.manager.shell.apps := by
    rw [apps]
    exact List.mem_append_right _ (List.mem_singleton_self _)
  have before := numbered.sessions _ ((unchanged.sessions _).mp opened)
  exact lt_irrefl _ before

theorem create_surface_changes (numbered : Numbered mediator.world.manager)
    {request : SurfaceParameters}
    (made : HasMade factory request mediator handled.displayServer.world.manager) :
    ¬ Unchanged mediator handled.displayServer := by
  obtain ⟨session, bufferList, _, manager⟩ := made
  intro unchanged
  have present : Present handled.displayServer.world.manager.shell session
      (mediator.world.manager.shell.sessions session).nextSurfaceId := by
    rw [manager]
    exact (DesktopSurfaces.present_create _ _ _ _ bufferList).mpr (.inr ⟨rfl, rfl⟩)
  have before := numbered.surfaces _ _ ((unchanged.surfaces _ _).mp present)
  exact lt_irrefl _ before

/-- A request that fails leaves the shell and the mediator's session as they were, unless it
has opened a session or made a surface before. -/
theorem failed_request_unchanged_iff {method : Method}
    (numbered : Numbered mediator.world.manager)
    (called : handle protobuf (sessionMediator build (managed factory devices)) method
      parameters mediator = some handled)
    (failed : handled.thrown = some thrown) :
    Unchanged mediator handled.displayServer ↔
      ¬ Commits protobuf factory parameters mediator method := by
  have undisturbed := managed_undisturbed factory devices
    fun manager => manager = mediator.world.manager
  cases method with
  | connect => exact iff_of_false (connect_changes numbered called) (not_not_intro trivial)
  | createSurface =>
      rcases create_surface_leaves called with made | ⟨unmade, leaves⟩
      · refine iff_of_false (create_surface_changes numbered made) (not_not_intro ?_)
        obtain ⟨session, bufferList, makes, _⟩ := made
        exact ⟨session, bufferList, makes⟩
      · exact iff_of_true (unchanged_of_leaves leaves) unmade
  | nextBuffer =>
      refine iff_of_true (unchanged_of_leaves ?_) id
      exact kept_leaves (next_buffer_keeps undisturbed _) called rfl rfl trivial
  | configureSurface =>
      refine iff_of_true (unchanged_of_leaves ?_) id
      exact kept_leaves (configure_surface_keeps undisturbed _) called rfl rfl rfl
  | drmAuthMagic =>
      refine iff_of_true (unchanged_of_leaves ?_) id
      exact kept_leaves (drm_auth_magic_keeps undisturbed _ _) called rfl rfl rfl
  | releaseSurface =>
      exact iff_of_true (unchanged_of_triple (release_surface_fails _) called failed) id
  | selectFocusByLightdmId =>
      exact iff_of_true (unchanged_of_triple (select_focus_fails _) called failed) id
  | disconnect => exact iff_of_true (unchanged_of_triple disconnect_fails called failed) id
  | testFileDescriptors => cases called

end Failures

section Traces

/-- A server whose devices fail, and which can make surfaces all the same. -/
def failingServer : Frontend (ServerState Unit) SurfaceRef Unit :=
  managed (fun _ => pure [⟨1⟩, ⟨2⟩])
    fun _ _ => throw ⟨"Failed to open DRM device for authenticated fd", none⟩

def twoSessions : SessionManager :=
  SessionFocus.openSession (SessionFocus.openSession SessionFocus.noSessions)

def handleFailing (method : Method) (mediator : Mediator (ServerState Unit)) :
    Option (Handled (Mediator (ServerState Unit)) Package Response) :=
  handle plainProtobuf (sessionMediator .gbm failingServer) method [] mediator

theorem two_sessions_numbered : Numbered twoSessions :=
  run_numbered (show run SessionFocus.step SessionFocus.noSessions
    [.openSession, .openSession] = some twoSessions from rfl)

theorem failing_requests_unchanged_iff :
    (∃ handled, handleFailing .releaseSurface ⟨some 0, ⟨twoSessions, ()⟩⟩ = some handled ∧
      handled.thrown = some ⟨"Invalid SurfaceId", none⟩ ∧
      Unchanged ⟨some 0, ⟨twoSessions, ()⟩⟩ handled.displayServer) ∧
    ∃ handled, handleFailing .connect ⟨some 0, ⟨twoSessions, ()⟩⟩ = some handled ∧
      handled.thrown.isSome ∧
      ¬ Unchanged ⟨some 0, ⟨twoSessions, ()⟩⟩ handled.displayServer := by
  constructor
  · obtain ⟨handled, called, failed⟩ : ∃ handled,
        handleFailing .releaseSurface ⟨some 0, ⟨twoSessions, ()⟩⟩ = some handled ∧
          handled.thrown = some ⟨"Invalid SurfaceId", none⟩ := ⟨_, rfl, rfl⟩
    have unchanged := failed_request_unchanged_iff two_sessions_numbered called failed
    exact ⟨handled, called, failed, unchanged.mpr id⟩
  · obtain ⟨handled, called, failed⟩ : ∃ handled,
        handleFailing .connect ⟨some 0, ⟨twoSessions, ()⟩⟩ = some handled ∧
          handled.thrown = some ⟨"Failed to open DRM device for authenticated fd", none⟩ :=
      ⟨_, rfl, rfl⟩
    have unchanged := failed_request_unchanged_iff two_sessions_numbered called failed
    exact ⟨handled, called, by rw [failed]; rfl, fun same => unchanged.mp same trivial⟩

/-- The session of a failed `connect` is open, focused and kept by the mediator. The surface
of a failed `create_surface` is there, and its session has taken the focus. -/
theorem failed_requests_leave_traces :
    (∃ handled, handleFailing .connect ⟨none, ⟨SessionFocus.noSessions, ()⟩⟩ = some handled ∧
      handled.thrown.isSome ∧ handled.displayServer.session = some 0 ∧
      handled.displayServer.world.manager.shell.apps = [0] ∧
      handled.displayServer.world.manager.shell.focusApplication = some 0) ∧
    ∃ handled, handleFailing .createSurface ⟨some 0, ⟨twoSessions, ()⟩⟩ = some handled ∧
      handled.thrown.isSome ∧
      ¬ Present twoSessions.shell 0 0 ∧ Present handled.displayServer.world.manager.shell 0 0 ∧
      twoSessions.shell.focusApplication = some 1 ∧
      handled.displayServer.world.manager.shell.focusApplication = some 0 := by
  constructor
  · exact ⟨_, rfl, rfl, rfl, rfl, rfl⟩
  · exact ⟨_, rfl, rfl, nofun, rfl, rfl, rfl⟩

end Traces

end Mir.RequestFailures
