import Mir.ManagedServer
import Mir.WaitHandles

/-!
# The type of a surface on both sides

`mir_surface_set_type` with the cache of the client and the `type_value` of the server's
surface. Requests and replies are queues; the server handles a request, and the client a
reply, whenever it likes. What the requests look like on the wire is left out.
-/

namespace Mir.SurfaceTypes

open Mir.TransitionRuns Mir.Computations Mir.ProtocolMessages Mir.SessionMediator
open Mir.MessageProcessor Mir.ManagedServer
open Mir.SwapperModel (BufferID)
open Mir.SessionFocus (StdException)
open Mir.ShellSessions (SessionKey)
open Mir.WaitHandles (Client MirWaitHandle resultReceived)

set_option autoImplicit false

section Server

def mirSurfaceAttribType : Int32 := 0

def mirSurfaceTypeNormal : Int32 := 0

def mirSurfaceTypeArraysize : Int32 := 6

def isSurfaceType (t : Int32) : Bool := 0 ≤ t && t < mirSurfaceTypeArraysize

def setType (typeValue t : Int32) : Bool × Int32 :=
  if isSurfaceType t then (true, t) else (false, typeValue)

def configure (typeValue attrib value : Int32) : Except StdException Int32 × Int32 :=
  if attrib = mirSurfaceAttribType then
    let (valid, type) := setType typeValue value
    if valid then (.ok type, type) else (.error ⟨"Invalid surface type.", none⟩, type)
  else (.error ⟨"Invalid surface attribute.", none⟩, typeValue)

/-- The shell's surfaces with their types, and everything else the requests use. -/
structure TypedDevices (Devices : Type) where
  typeValue : SessionKey → Int32 → Int32
  others : Devices

variable {Devices BufferRef : Type}

def typed (devices : Frontend Devices SurfaceRef BufferRef) :
    Frontend (TypedDevices Devices) SurfaceRef BufferRef :=
  fun _ request => match request with
  | .configureSurface session id attrib value => fun state =>
      let (outcome, type) := configure (state.typeValue session id) attrib value
      (outcome, { state with
        typeValue := Function.update state.typeValue session
          (Function.update (state.typeValue session) id type) })
  | request => fun state =>
      let (outcome, others) := (devices _ request).run.run state.others
      (outcome, { state with others := others })

end Server

section System

variable {Devices BufferRef : Type}

structure System (Devices : Type) where
  client : Client
  requests : List SurfaceSetting
  replies : List Text
  mediator : Mediator (ServerState (TypedDevices Devices))

inductive Event where
  | setType (value : Int32)
  | configureSurface
  | onConfigured
  | waitFor
  deriving DecidableEq, Repr

/-- The message of `MirSurface::configure`. -/
def setting (surfaceId value : Int32) : SurfaceSetting where
  surfaceid := some ⟨some surfaceId⟩
  attrib := some mirSurfaceAttribType
  ivalue := some value

variable (protobuf : Protobuf)
  (factory : SurfaceCreationParameters → Call StdException (TypedDevices Devices) (List BufferID))
  (devices : Frontend Devices SurfaceRef BufferRef)

def step (system : System Devices) : Event → Option (System Devices)
  | .setType value => (WaitHandles.step system.client .configure).map fun client =>
      { system with
        client := client
        requests := system.requests ++ [setting system.client.surfaceId value] }
  | .configureSurface => match system.requests with
      | [] => none
      | request :: later =>
          (perform (configureSurface (managed factory (typed devices)) request) {}
            system.mediator).map fun handled =>
              { system with
                requests := later
                mediator := handled.displayServer
                replies := system.replies ++ [protobuf.codec.serialize
                  (answer protobuf (handled.withResponse .surfaceSetting))] }
  | .onConfigured => match system.replies with
      | [] => none
      | reply :: later => match protobuf.codec.parse .surfaceSetting reply with
          | .surfaceSetting configureResult =>
              (WaitHandles.step system.client (.onConfigured configureResult)).map fun client =>
                { system with client := client, replies := later }
          | _ => none
  | .waitFor => (WaitHandles.step system.client (.waitFor .configure)).map fun client =>
      { system with client := client }

/-- A session has just got the surface, and its client knows. -/
structure Live (session : SessionKey) (surfaceId : Int32)
    (mediator : Mediator (ServerState (TypedDevices Devices))) : Prop where
  connected : mediator.session = some session
  found : ∃ key, checkedFind mediator.world.manager session surfaceId = .ok key

def typeOf (session : SessionKey) (surfaceId : Int32) (system : System Devices) : Int32 :=
  system.mediator.world.devices.typeValue session surfaceId

def started (surfaceId : Int32) (mediator : Mediator (ServerState (TypedDevices Devices))) :
    System Devices where
  client := WaitHandles.created surfaceId
  requests := []
  replies := []
  mediator := mediator

end System

section Handling

variable {BufferRef World SurfaceObject : Type}

/-- The fields that `configure_surface` sets before anything can throw. -/
def requiredFields (surfaceId : Int32) : SurfaceSetting where
  surfaceid := some ⟨some surfaceId⟩
  attrib := some mirSurfaceAttribType

theorem execute_configure_surface (frontend : Frontend World SurfaceObject BufferRef)
    (session : SessionKey) (surfaceId value : Int32) (world : World) :
    execute (configureSurface frontend (setting surfaceId value)) ⟨some session, world, {}, []⟩ =
      execute (call frontend
        (.configureSurface session surfaceId mirSurfaceAttribType value) >>= fun newvalue =>
          respond fun response => { response with ivalue := some newvalue })
        ⟨some session, world, requiredFields surfaceId, []⟩ := rfl

variable {frontend : Frontend World SurfaceObject BufferRef} {session : SessionKey}
  {surfaceId value : Int32} {world after : World}

theorem configure_surface_returns {newvalue : Int32}
    (called : (frontend _ (.configureSurface session surfaceId mirSurfaceAttribType value)).run.run
      world = (.ok newvalue, after)) :
    perform (configureSurface frontend (setting surfaceId value)) {} ⟨some session, world⟩ =
      some ⟨⟨some session, after⟩, setting surfaceId newvalue, [], none⟩ := by
  unfold perform
  rw [execute_configure_surface, execute_bind, execute_call called]
  rfl

theorem configure_surface_throws {thrown : StdException}
    (called : (frontend _ (.configureSurface session surfaceId mirSurfaceAttribType value)).run.run
      world = (.error thrown, after)) :
    perform (configureSurface frontend (setting surfaceId value)) {} ⟨some session, world⟩ =
      some ⟨⟨some session, after⟩, requiredFields surfaceId, [], some thrown⟩ := by
  unfold perform
  rw [execute_configure_surface, execute_bind, execute_call called]
  rfl

end Handling

section Types

variable {Devices BufferRef : Type} {protobuf : Protobuf}
  {factory : SurfaceCreationParameters → Call StdException (TypedDevices Devices) (List BufferID)}
  {devices : Frontend Devices SurfaceRef BufferRef}
  {session : SessionKey} {surfaceId : Int32}

def withType (world : ServerState (TypedDevices Devices)) (session : SessionKey)
    (surfaceId type : Int32) : ServerState (TypedDevices Devices) :=
  { world with
    devices := { world.devices with
      typeValue := Function.update world.devices.typeValue session
        (Function.update (world.devices.typeValue session) surfaceId type) } }

variable (factory devices) in
theorem managed_configure {world : ServerState (TypedDevices Devices)} {key : Nat}
    (found : checkedFind world.manager session surfaceId = .ok key) (attrib value : Int32) :
    (managed factory (typed devices) _
        (.configureSurface session surfaceId attrib value)).run.run world =
      ((configure (world.devices.typeValue session surfaceId) attrib value).1,
        withType world session surfaceId
          (configure (world.devices.typeValue session surfaceId) attrib value).2) := by
  change onSurface session surfaceId _ world = _
  simp only [onSurface, found]
  rfl

theorem configure_type (typeValue value : Int32) :
    configure typeValue mirSurfaceAttribType value =
      if isSurfaceType value then (.ok value, value)
      else (.error ⟨"Invalid surface type.", none⟩, typeValue) := by
  unfold configure setType
  rw [if_pos rfl]
  cases isSurfaceType value <;> rfl

/-- What the server sends for a value. -/
def replyTo (protobuf : Protobuf) (surfaceId value : Int32) : SurfaceSetting :=
  if isSurfaceType value then setting surfaceId value
  else { requiredFields surfaceId with
    error := some (protobuf.diagnosticInformation ⟨"Invalid surface type.", none⟩) }

def typeAfter (type : Int32) (values : List Int32) : Int32 :=
  values.foldl (fun type value => (setType type value).2) type

theorem type_after_snoc (type value : Int32) (values : List Int32) :
    typeAfter type (values ++ [value]) = (setType (typeAfter type values) value).2 := by
  simp [typeAfter]

variable (protobuf factory devices) in
theorem request_handled {mediator : Mediator (ServerState (TypedDevices Devices))}
    (live : Live session surfaceId mediator) (value : Int32) :
    ∃ handled, perform (configureSurface (managed factory (typed devices))
        (setting surfaceId value)) {} mediator = some handled ∧
      answer protobuf (handled.withResponse .surfaceSetting) =
        .surfaceSetting (replyTo protobuf surfaceId value) ∧
      Live session surfaceId handled.displayServer ∧
      handled.displayServer.world.devices.typeValue session surfaceId =
        (setType (mediator.world.devices.typeValue session surfaceId) value).2 := by
  obtain ⟨connected, key, found⟩ := live
  rcases mediator with ⟨_, world⟩
  subst connected
  have called := managed_configure factory devices found mirSurfaceAttribType value
  rw [configure_type] at called
  cases accepted : isSurfaceType value with
  | true =>
      rw [accepted] at called
      refine ⟨_, configure_surface_returns called, ?_, ⟨rfl, key, found⟩, ?_⟩
      · simp [answer, Handled.withResponse, replyTo, accepted]
      · simp [withType, setType, accepted]
  | false =>
      rw [accepted] at called
      refine ⟨_, configure_surface_throws called, ?_, ⟨rfl, key, found⟩, ?_⟩
      · simp [answer, Handled.withResponse, replyTo, accepted, setError]
      · simp [withType, setType, accepted]

/-- A reply sets the cache as the value has set the type, and is counted once. -/
theorem reply_received {client : Client} (same : client.surfaceId = surfaceId)
    (fits : client.configureWaitHandle.received < WaitHandles.intMax) (value : Int32) :
    WaitHandles.onConfigured client (replyTo protobuf surfaceId value) =
      some { client with
        surfaceType := (setType client.surfaceType value).2
        configureWaitHandle := resultReceived client.configureWaitHandle } := by
  subst same
  unfold WaitHandles.onConfigured replyTo setType
  cases isSurfaceType value <;> simp [setting, requiredFields, mirSurfaceAttribType, fits]

end Types

section Runs

/-- The values whose reply has been received, those that have been answered only, and those
that the server has not handled. -/
structure Progress where
  received : List Int32
  answered : List Int32
  asked : List Int32

def advance (progress : Progress) : Event → Progress
  | .setType value => { progress with asked := progress.asked ++ [value] }
  | .configureSurface => { progress with
      answered := progress.answered ++ progress.asked.take 1
      asked := progress.asked.drop 1 }
  | .onConfigured => { progress with
      received := progress.received ++ progress.answered.take 1
      answered := progress.answered.drop 1 }
  | .waitFor => progress

def progressOf (events : List Event) : Progress := events.foldl advance ⟨[], [], []⟩

theorem progress_of_snoc (history : List Event) (event : Event) :
    progressOf (history ++ [event]) = advance (progressOf history) event := by
  simp [progressOf]

variable {Devices BufferRef : Type} (protobuf : Protobuf) (session : SessionKey)
  (surfaceId : Int32)

structure Tracked (progress : Progress) (system : System Devices) : Prop where
  live : Live session surfaceId system.mediator
  requests : system.requests = progress.asked.map (setting surfaceId)
  replies : system.replies = progress.answered.map fun value =>
    protobuf.codec.serialize (.surfaceSetting (replyTo protobuf surfaceId value))
  type : typeOf session surfaceId system =
    typeAfter mirSurfaceTypeNormal (progress.received ++ progress.answered)
  cache : system.client.surfaceType = typeAfter mirSurfaceTypeNormal progress.received
  known : system.client.surfaceId = surfaceId
  awaited : system.client.awaited =
    List.replicate (progress.answered.length + progress.asked.length) .configure
  balance : system.client.configureWaitHandle.expecting =
    system.client.configureWaitHandle.received +
      (progress.answered.length + progress.asked.length)
  -- so that a result that is expected can be counted
  bounded : system.client.configureWaitHandle.expecting ≤ WaitHandles.intMax

variable {protobuf session surfaceId}
  {factory : SurfaceCreationParameters → Call StdException (TypedDevices Devices) (List BufferID)}
  {devices : Frontend Devices SurfaceRef BufferRef}
  {progress : Progress} {system next : System Devices}

theorem set_type_tracked (tracked : Tracked protobuf session surfaceId progress system)
    {value : Int32} (stepped : step protobuf factory devices system (.setType value) = some next) :
    Tracked protobuf session surfaceId (advance progress (.setType value)) next := by
  simp only [step, WaitHandles.step] at stepped
  split_ifs at stepped with fits
  · cases stepped
    refine ⟨tracked.live, ?_, tracked.replies, tracked.type, tracked.cache, tracked.known, ?_, ?_,
      fits⟩
    · simp [advance, tracked.requests, tracked.known]
    · simp [advance, tracked.awaited, List.replicate_succ', ← Nat.add_assoc]
    · simp [advance, WaitHandles.expectResult, tracked.balance]
      omega
  · cases stepped

theorem configure_enabled (tracked : Tracked protobuf session surfaceId progress system)
    {value : Int32} {asked : List Int32} (oldest : progress.asked = value :: asked) :
    ∃ mediator, step protobuf factory devices system .configureSurface = some { system with
        requests := asked.map (setting surfaceId)
        mediator := mediator
        replies := system.replies ++ [protobuf.codec.serialize
          (.surfaceSetting (replyTo protobuf surfaceId value))] } ∧
      Live session surfaceId mediator ∧
      mediator.world.devices.typeValue session surfaceId =
        (setType (typeOf session surfaceId system) value).2 := by
  have requests := tracked.requests
  rw [oldest, List.map_cons] at requests
  obtain ⟨handled, performed, sent, live, type⟩ :=
    request_handled protobuf factory devices tracked.live value
  refine ⟨handled.displayServer, ?_, live, type⟩
  simp only [step, requests, performed, sent, Option.map_some]

theorem configure_tracked (tracked : Tracked protobuf session surfaceId progress system)
    (stepped : step protobuf factory devices system .configureSurface = some next) :
    Tracked protobuf session surfaceId (advance progress .configureSurface) next := by
  cases oldest : progress.asked with
  | nil =>
      have requests := tracked.requests
      rw [oldest] at requests
      simp [step, requests] at stepped
  | cons value asked =>
      obtain ⟨mediator, enabled, live, type⟩ :=
        configure_enabled tracked oldest
      rw [enabled] at stepped
      cases stepped
      refine ⟨live, ?_, ?_, ?_, tracked.cache, tracked.known, ?_, ?_, tracked.bounded⟩
      · simp [advance, oldest]
      · simp [advance, oldest, tracked.replies]
      · rw [tracked.type] at type
        simpa [advance, oldest, typeOf, ← List.append_assoc, type_after_snoc] using type
      · have awaited := tracked.awaited
        rw [oldest] at awaited
        simpa [advance, oldest, Nat.add_assoc, Nat.add_comm 1] using awaited
      · have balance := tracked.balance
        rw [oldest, List.length_cons] at balance
        simp [advance, oldest, balance]
        omega

theorem on_configured_enabled (tracked : Tracked protobuf session surfaceId progress system)
    {value : Int32} {answered : List Int32} (oldest : progress.answered = value :: answered) :
    step protobuf factory devices system .onConfigured = some { system with
      client := { system.client with
        surfaceType := (setType system.client.surfaceType value).2
        configureWaitHandle := resultReceived system.client.configureWaitHandle
        awaited := List.replicate (answered.length + progress.asked.length) .configure }
      replies := answered.map fun value =>
        protobuf.codec.serialize (.surfaceSetting (replyTo protobuf surfaceId value)) } := by
  have replies := tracked.replies
  have awaited := tracked.awaited
  rw [oldest] at replies awaited
  rw [List.length_cons, Nat.add_right_comm, List.replicate_succ] at awaited
  have parsed : protobuf.codec.parse .surfaceSetting
      (protobuf.codec.serialize (.surfaceSetting (replyTo protobuf surfaceId value))) =
        .surfaceSetting (replyTo protobuf surfaceId value) :=
    protobuf.codec.parse_serialize (.surfaceSetting (replyTo protobuf surfaceId value))
  have known : ({ system.client with
      awaited := List.replicate (answered.length + progress.asked.length) .configure } :
        Client).surfaceId = surfaceId := tracked.known
  have fits : ({ system.client with
      awaited := List.replicate (answered.length + progress.asked.length) .configure } :
        Client).configureWaitHandle.received < WaitHandles.intMax := by
    have balance := tracked.balance
    have bounded := tracked.bounded
    rw [oldest, List.length_cons] at balance
    change system.client.configureWaitHandle.received < WaitHandles.intMax
    omega
  simp only [step, replies, List.map_cons, parsed, WaitHandles.step, WaitHandles.reply, awaited,
    reply_received known fits, Option.map_some, if_true]

theorem on_configured_tracked (tracked : Tracked protobuf session surfaceId progress system)
    (stepped : step protobuf factory devices system .onConfigured = some next) :
    Tracked protobuf session surfaceId (advance progress .onConfigured) next := by
  cases oldest : progress.answered with
  | nil =>
      have replies := tracked.replies
      rw [oldest] at replies
      simp [step, replies] at stepped
  | cons value answered =>
      rw [on_configured_enabled tracked oldest] at stepped
      cases stepped
      refine ⟨tracked.live, tracked.requests, ?_, ?_, ?_, tracked.known, ?_, ?_,
        tracked.bounded⟩
      · simp [advance, oldest]
      · have type := tracked.type
        rw [oldest] at type
        simpa [advance, oldest, typeOf] using type
      · simp [advance, oldest, type_after_snoc, tracked.cache]
      · simp [advance, oldest]
      · have balance := tracked.balance
        rw [oldest, List.length_cons] at balance
        simp [advance, oldest, resultReceived, balance]
        omega

theorem wait_tracked (tracked : Tracked protobuf session surfaceId progress system)
    (stepped : step protobuf factory devices system .waitFor = some next) :
    Tracked protobuf session surfaceId (advance progress .waitFor) next := by
  simp only [step, WaitHandles.step] at stepped
  split_ifs at stepped with waiting
  · cases stepped
  · cases stepped
    obtain ⟨enough, -⟩ := WaitHandles.wait_returns waiting
    have balance := tracked.balance
    refine ⟨tracked.live, tracked.requests, tracked.replies, tracked.type, tracked.cache,
      tracked.known, tracked.awaited, ?_, Nat.zero_le _⟩
    change 0 = 0 + (progress.answered.length + progress.asked.length)
    omega

theorem run_tracked {mediator : Mediator (ServerState (TypedDevices Devices))}
    (live : Live session surfaceId mediator)
    (normal : mediator.world.devices.typeValue session surfaceId = mirSurfaceTypeNormal)
    {events : List Event}
    (ran : run (step protobuf factory devices) (started surfaceId mediator) events =
      some system) :
    Tracked protobuf session surfaceId (progressOf events) system := by
  apply run_history_invariant
    (fun history system => Tracked protobuf session surfaceId (progressOf history) system) _ _ ran
  · exact ⟨live, rfl, rfl, normal, rfl, rfl, rfl, rfl, Nat.zero_le _⟩
  · intro history before event after tracked stepped
    rw [progress_of_snoc]
    cases event with
    | setType value => exact set_type_tracked tracked stepped
    | configureSurface => exact configure_tracked tracked stepped
    | onConfigured => exact on_configured_tracked tracked stepped
    | waitFor => exact wait_tracked tracked stepped

end Runs

/-- Both sides have the type of the last value they have accepted, every reply is counted
once on the handle, and what the handle lacks is outstanding. -/
theorem surface_type_agrees {Devices BufferRef : Type} {protobuf : Protobuf}
    {factory : SurfaceCreationParameters →
      Call StdException (TypedDevices Devices) (List BufferID)}
    {devices : Frontend Devices SurfaceRef BufferRef} {session : SessionKey} {surfaceId : Int32}
    {mediator : Mediator (ServerState (TypedDevices Devices))}
    (live : Live session surfaceId mediator)
    (normal : mediator.world.devices.typeValue session surfaceId = mirSurfaceTypeNormal)
    {events : List Event} {system : System Devices}
    (ran : run (step protobuf factory devices) (started surfaceId mediator) events =
      some system) :
    (system.requests = [] → system.replies = [] →
        system.client.surfaceType = typeOf session surfaceId system) ∧
      typeOf session surfaceId system = typeAfter mirSurfaceTypeNormal
        ((progressOf events).received ++ (progressOf events).answered) ∧
      system.client.surfaceType = typeAfter mirSurfaceTypeNormal (progressOf events).received ∧
      (system.requests ≠ [] → ∃ next,
        step protobuf factory devices system .configureSurface = some next ∧
        next.replies.length = system.replies.length + 1) ∧
      (system.replies ≠ [] → ∃ next,
        step protobuf factory devices system .onConfigured = some next ∧
        next.client.configureWaitHandle = resultReceived system.client.configureWaitHandle) ∧
      system.client.configureWaitHandle.expecting =
        system.client.configureWaitHandle.received +
          (system.replies.length + system.requests.length) := by
  have tracked := run_tracked live normal ran
  refine ⟨?_, tracked.type, tracked.cache, ?_, ?_, ?_⟩
  · intro _ unanswered
    have answered : (progressOf events).answered = [] := by
      have replies := tracked.replies
      rw [unanswered] at replies
      exact List.map_eq_nil_iff.mp replies.symm
    rw [tracked.cache, tracked.type, answered, List.append_nil]
  · intro unhandled
    cases oldest : (progressOf events).asked with
    | nil =>
        have requests := tracked.requests
        rw [oldest] at requests
        exact absurd requests unhandled
    | cons value asked =>
        obtain ⟨mediator, enabled, -, -⟩ := configure_enabled tracked oldest
        exact ⟨_, enabled, by simp⟩
  · intro some_reply
    cases oldest : (progressOf events).answered with
    | nil =>
        have replies := tracked.replies
        rw [oldest] at replies
        exact absurd replies some_reply
    | cons value answered => exact ⟨_, on_configured_enabled tracked oldest, rfl⟩
  · rw [tracked.balance, tracked.replies, tracked.requests, List.length_map, List.length_map]

section Witness

/-- A session with one surface, on a server whose devices are never asked for anything. -/
def oneSurface : Mediator (ServerState (TypedDevices Unit)) where
  session := some 0
  world :=
    { manager :=
        { SessionFocus.openSession SessionFocus.noSessions with
          shell := ShellSessions.createSurfaceFor [⟨1⟩, ⟨2⟩]
            (SessionFocus.openSession SessionFocus.noSessions).shell 0 }
      devices := ⟨fun _ _ => mirSurfaceTypeNormal, ()⟩ }

def noDevices : Frontend Unit SurfaceRef Unit := fun _ _ => throw ⟨"no device", none⟩

def noFactory (_ : SurfaceCreationParameters) :
    Call StdException (TypedDevices Unit) (List BufferID) :=
  throw ⟨"no surface", none⟩

/-- Accepted and rejected values, some of them asked for without waiting. -/
def mixedTypes : List Event :=
  [.setType 3, .setType (-1), .configureSurface, .setType 2, .configureSurface, .onConfigured,
    .configureSurface, .onConfigured, .onConfigured, .waitFor, .setType 100, .configureSurface,
    .onConfigured]

theorem mixed_types_agree :
    ∃ system, run (step plainProtobuf noFactory noDevices) (started 0 oneSurface) mixedTypes =
        some system ∧
      system.client.surfaceType = 2 ∧ typeOf 0 0 system = 2 ∧
      system.client.configureWaitHandle = ⟨1, 1⟩ := by
  have live : Live 0 0 oneSurface := ⟨rfl, 0, rfl⟩
  obtain ⟨system, ran, requests, replies, handle⟩ : ∃ system,
      run (step plainProtobuf noFactory noDevices) (started 0 oneSurface) mixedTypes =
          some system ∧
        system.requests = [] ∧ system.replies = [] ∧
        system.client.configureWaitHandle = ⟨1, 1⟩ := ⟨_, rfl, rfl, rfl, rfl⟩
  obtain ⟨agrees, -, cache, -⟩ := surface_type_agrees live rfl ran
  have two : system.client.surfaceType = 2 := cache.trans rfl
  exact ⟨system, ran, two, (agrees requests replies).symm.trans two, handle⟩

end Witness

end Mir.SurfaceTypes
