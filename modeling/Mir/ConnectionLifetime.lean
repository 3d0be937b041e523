import Mir.ManagedServer

/-!
# The sessions of one connection

A client's messages, one after the other, until `process_message` returns `false` or the
socket reports an error. The `SocketSession` is then dropped with its processor and its
mediator; none of them has a destructor that closes a session. In between the manager
serves the other connections, which have no pointer to a session opened through this one.
A message opens or closes one session at most, so nothing is missed between two events.
-/

namespace Mir.ConnectionLifetime

open Mir.TransitionRuns Mir.Computations Mir.ProtocolMessages Mir.RequestMessages
open Mir.MessageProcessor Mir.SessionMediator Mir.ManagedServer
open Mir.SwapperModel (BufferID)
open Mir.ShellSessions (SessionKey)
open Mir.SessionFocus (StdException Operation SessionManager noSessions)

set_option autoImplicit false

variable {Devices BufferRef : Type}

/-- `opened` are the sessions that were opened through the connection. -/
structure ClientConnection (Devices : Type) where
  processor : Processor (Mediator (ServerState Devices)) Package
  opened : List SessionKey
  ended : Bool

/-- `elsewhere` is an operation for another connection, which may change the devices too. -/
inductive Event (Devices : Type) where
  | message (body : Text) (key : MessageAddress)
  | socketError
  | elsewhere (operation : Operation) (devices : Devices)

def ClientConnection.manager (connection : ClientConnection Devices) : SessionManager :=
  connection.processor.displayServer.world.manager

def ClientConnection.session (connection : ClientConnection Devices) : Option SessionKey :=
  connection.processor.displayServer.session

def accepted (devices : Devices) : ClientConnection Devices where
  processor := ⟨⟨none, ⟨noSessions, devices⟩⟩, ∅, []⟩
  opened := []
  ended := false

def withServer (connection : ClientConnection Devices) (manager : SessionManager)
    (devices : Devices) : ClientConnection Devices :=
  { connection with
    processor :=
      { connection.processor with displayServer := ⟨connection.session, ⟨manager, devices⟩⟩ } }

/-- The operation does not close a session of this connection. -/
def foreign (connection : ClientConnection Devices) : Operation → Bool
  | .closeSession session => decide (session ∉ connection.opened)
  | _ => true

section Steps

variable (protobuf : Protobuf) (build : Build)
  (factory : SurfaceCreationParameters → Call StdException Devices (List BufferID))
  (devices : Frontend Devices SurfaceRef BufferRef)

def openedSince (before after : SessionManager) : List SessionKey :=
  List.range' before.nextSession (after.nextSession - before.nextSession)

def step (connection : ClientConnection Devices) : Event Devices → Option (ClientConnection Devices)
  | .message body key =>
      if connection.ended then none
      else (processMessage protobuf (sessionMediator build (managed factory devices)) body key
          connection.processor).map fun (result, after) =>
        { processor := after
          opened := connection.opened ++
            openedSince connection.manager after.displayServer.world.manager
          ended := !result }
  | .socketError => if connection.ended then none else some { connection with ended := true }
  | .elsewhere operation changed =>
      if foreign connection operation then
        (SessionFocus.step connection.manager operation).map fun manager =>
          withServer connection manager changed
      else none

end Steps

/-- The sessions of the connection that are in the container. -/
def present (connection : ClientConnection Devices) : List SessionKey :=
  connection.opened.filter fun session => session ∈ connection.manager.shell.apps

section Counts

variable (protobuf : Protobuf)

def names (method : Method) : Event Devices → Bool
  | .message body _ => (protobuf.parser.invocation body).method = some method
  | _ => false

def connects (events : List (Event Devices)) : Nat := events.countP (names protobuf .connect)

def disconnects (events : List (Event Devices)) : Bool := events.any (names protobuf .disconnect)

end Counts

section Numbering

def Numbered (sessions : List SessionKey) (next : SessionKey) : Prop :=
  sessions.Nodup ∧ ∀ session ∈ sessions, session < next

variable {sessions : List SessionKey} {next : SessionKey}

theorem numbered_open (numbered : Numbered sessions next) :
    Numbered (sessions ++ [next]) (next + 1) := by
  obtain ⟨distinct, below⟩ := numbered
  constructor
  · rw [List.nodup_append]
    refine ⟨distinct, List.nodup_singleton next, ?_⟩
    rintro session member other single rfl
    exact lt_irrefl _ ((below session member).trans_eq (List.mem_singleton.mp single).symm)
  · intro session member
    rcases List.mem_append.mp member with before | last
    · exact (below session before).trans (Nat.lt_succ_self next)
    · rw [List.mem_singleton.mp last]
      exact Nat.lt_succ_self next

theorem numbered_erase (numbered : Numbered sessions next) (session : SessionKey) :
    Numbered (sessions.erase session) next :=
  ⟨numbered.1.erase session, fun other member => numbered.2 other (List.mem_of_mem_erase member)⟩

end Numbering

section Invariant

variable {protobuf : Protobuf} {history : List (Event Devices)}
  {connection next : ClientConnection Devices}

/-- The container has the sessions of the connection, without the last one if a
`disconnect` was handled: the mediator knows no other. -/
structure Kept (protobuf : Protobuf) (history : List (Event Devices))
    (connection : ClientConnection Devices) : Prop where
  opened : Numbered connection.opened connection.manager.nextSession
  apps : Numbered connection.manager.shell.apps connection.manager.nextSession
  counted : connection.opened.length = connects protobuf history
  before : disconnects protobuf history = false →
    connection.session = connection.opened.getLast? ∧ present connection = connection.opened
  after : disconnects protobuf history = true →
    connection.ended = true ∧ present connection = connection.opened.dropLast

theorem accepted_kept (devices : Devices) : Kept protobuf [] (accepted devices) where
  opened := ⟨List.nodup_nil, by simp [accepted]⟩
  apps := ⟨List.nodup_nil, by simp [accepted, ClientConnection.manager, noSessions]⟩
  counted := rfl
  before := fun _ => ⟨rfl, rfl⟩
  after := by simp [disconnects]

theorem connects_snoc (event : Event Devices) :
    connects protobuf (history ++ [event]) =
      connects protobuf history + if names protobuf .connect event then 1 else 0 := by
  simp [connects, List.countP_append, List.countP_singleton]

theorem disconnects_snoc (event : Event Devices) :
    disconnects protobuf (history ++ [event]) =
      (disconnects protobuf history || names protobuf .disconnect event) := by
  simp [disconnects]

theorem undisturbed_kept (kept : Kept protobuf history connection) {event : Event Devices}
    (opening : names protobuf .connect event = false)
    (closing : names protobuf .disconnect event = false)
    (opened : next.opened = connection.opened) (session : next.session = connection.session)
    (ended : connection.ended = true → next.ended = true)
    (count : connection.manager.nextSession ≤ next.manager.nextSession)
    (apps : Numbered next.manager.shell.apps next.manager.nextSession)
    (listed : ∀ session ∈ connection.opened,
      session ∈ next.manager.shell.apps ↔ session ∈ connection.manager.shell.apps) :
    Kept protobuf (history ++ [event]) next := by
  have same : present next = present connection := by
    unfold present
    rw [opened]
    apply List.filter_congr
    intro session member
    rw [decide_eq_decide]
    exact listed session member
  refine ⟨?_, apps, ?_, ?_, ?_⟩
  · rw [opened]
    exact ⟨kept.opened.1, fun session member => (kept.opened.2 session member).trans_le count⟩
  · rw [opened, kept.counted, connects_snoc, opening]
    rfl
  · rw [disconnects_snoc, closing, Bool.or_false, opened, session, same]
    exact kept.before
  · rw [disconnects_snoc, closing, Bool.or_false, opened, same]
    exact fun done => ⟨ended (kept.after done).1, (kept.after done).2⟩

theorem connect_kept (kept : Kept protobuf history connection) {event : Event Devices}
    (opening : names protobuf .connect event = true)
    (closing : names protobuf .disconnect event = false)
    (alive : disconnects protobuf history = false)
    (opened : next.opened = connection.opened ++ [connection.manager.nextSession])
    (session : next.session = some connection.manager.nextSession)
    (holds : Holds (connection.manager.shell.apps ++ [connection.manager.nextSession])
      (connection.manager.nextSession + 1) next.processor.displayServer.world) :
    Kept protobuf (history ++ [event]) next := by
  have apps : next.manager.shell.apps =
    connection.manager.shell.apps ++ [connection.manager.nextSession] := holds.1
  have count : next.manager.nextSession = connection.manager.nextSession + 1 := holds.2
  have same : present next = present connection ++ [connection.manager.nextSession] := by
    unfold present
    rw [opened, List.filter_append, apps]
    congr 1
    · apply List.filter_congr
      intro session member
      have earlier : session ≠ connection.manager.nextSession :=
        (kept.opened.2 session member).ne
      simp [earlier]
    · simp
  refine ⟨?_, ?_, ?_, ?_, ?_⟩
  · rw [opened, count]
    exact numbered_open kept.opened
  · rw [apps, count]
    exact numbered_open kept.apps
  · rw [opened, connects_snoc, opening, List.length_append, kept.counted]
    rfl
  · intro _
    rw [session, same, opened, (kept.before alive).2]
    simp
  · rw [disconnects_snoc, alive, closing]
    exact fun done => nomatch done

theorem before_disconnect (kept : Kept protobuf history connection)
    (active : ¬ connection.ended = true) : disconnects protobuf history = false := by
  rw [Bool.eq_false_iff]
  exact fun done => active (kept.after done).1

theorem listed_before_disconnect (kept : Kept protobuf history connection)
    (alive : disconnects protobuf history = false) :
    ∀ session ∈ connection.opened, session ∈ connection.manager.shell.apps := by
  have all := (kept.before alive).2
  unfold present at all
  rw [List.filter_eq_self] at all
  exact fun session member => of_decide_eq_true (all session member)

/-- The session that is closed is the last one, and it was in the container once. -/
theorem present_of_erase (kept : Kept protobuf history connection)
    (alive : disconnects protobuf history = false) {front : List SessionKey} {last : SessionKey}
    (split : connection.opened = front ++ [last])
    (opened : next.opened = connection.opened)
    (apps : next.manager.shell.apps = connection.manager.shell.apps.erase last) :
    present next = front := by
  have listed := listed_before_disconnect kept alive
  rw [split] at listed
  have distinct : last ∉ front := by
    have nodup := kept.opened.1
    rw [split, List.nodup_append] at nodup
    exact fun member => nodup.2.2 last member last (List.mem_singleton_self last) rfl
  have gone : last ∉ connection.manager.shell.apps.erase last := kept.apps.1.not_mem_erase
  unfold present
  rw [opened, split, apps, List.filter_append, List.filter_singleton]
  simp only [gone, decide_false, cond_false, List.append_nil]
  rw [List.filter_eq_self]
  intro session member
  have other : session ≠ last := fun same => distinct (same ▸ member)
  rw [decide_eq_true_eq, List.mem_erase_of_ne other]
  exact listed session (List.mem_append_left _ member)

theorem disconnect_kept (kept : Kept protobuf history connection) {event : Event Devices}
    (opening : names protobuf .connect event = false)
    (closing : names protobuf .disconnect event = true)
    (alive : disconnects protobuf history = false)
    (opened : next.opened = connection.opened) (ended : next.ended = true)
    (holds : Holds (match connection.session with
        | some key => connection.manager.shell.apps.erase key
        | none => connection.manager.shell.apps)
      connection.manager.nextSession next.processor.displayServer.world) :
    Kept protobuf (history ++ [event]) next := by
  have count : next.manager.nextSession = connection.manager.nextSession := holds.2
  have known := (kept.before alive).1
  have left : Numbered next.manager.shell.apps connection.manager.nextSession ∧
      present next = connection.opened.dropLast := by
    have listed := holds.1
    rcases List.eq_nil_or_concat connection.opened with none | ⟨front, last, split⟩
    · rw [known, none] at listed
      have apps : next.manager.shell.apps = connection.manager.shell.apps := listed
      rw [apps]
      refine ⟨kept.apps, ?_⟩
      simp [present, opened, none]
    · rw [List.concat_eq_append] at split
      rw [known, split, List.getLast?_append] at listed
      have apps : next.manager.shell.apps = connection.manager.shell.apps.erase last := listed
      rw [split, List.dropLast_concat]
      refine ⟨?_, present_of_erase kept alive split opened apps⟩
      rw [apps]
      exact numbered_erase kept.apps last
  refine ⟨?_, ?_, ?_, ?_, ?_⟩
  · rw [opened, count]
    exact kept.opened
  · rw [count]
    exact left.1
  · rw [opened, kept.counted, connects_snoc, opening]
    rfl
  · rw [disconnects_snoc, closing, Bool.or_true]
    exact fun undone => nomatch undone
  · intro _
    rw [opened]
    exact ⟨ended, left.2⟩

variable {build : Build}
  {factory : SurfaceCreationParameters → Call StdException Devices (List BufferID)}
  {devices : Frontend Devices SurfaceRef BufferRef}

theorem foreign_operation (kept : Kept protobuf history connection) {operation : Operation}
    (allowed : foreign connection operation = true) {manager : SessionManager}
    (performed : SessionFocus.perform connection.manager operation = .ok manager) :
    connection.manager.nextSession ≤ manager.nextSession ∧
      Numbered manager.shell.apps manager.nextSession ∧ ∀ session ∈ connection.opened,
        session ∈ manager.shell.apps ↔ session ∈ connection.manager.shell.apps := by
  have unchanged (unopened : SessionFocus.opens operation = 0)
      (unclosed : SessionFocus.closedSession operation = none) :
      connection.manager.nextSession ≤ manager.nextSession ∧
        Numbered manager.shell.apps manager.nextSession ∧ ∀ session ∈ connection.opened,
          session ∈ manager.shell.apps ↔ session ∈ connection.manager.shell.apps := by
    obtain ⟨apps, count⟩ := SessionFocus.perform_keeps_sessions unopened unclosed performed
    rw [apps, count]
    exact ⟨le_rfl, kept.apps, fun _ _ => Iff.rfl⟩
  cases operation with
  | openSession =>
      cases performed
      refine ⟨Nat.le_succ _, numbered_open kept.apps, ?_⟩
      intro session member
      have earlier := (kept.opened.2 session member).ne
      simp [SessionFocus.openSession, ShellSessions.openSession, ShellSessions.setFocusTo, earlier]
  | closeSession closed =>
      have apart : closed ∉ connection.opened := of_decide_eq_true allowed
      simp only [SessionFocus.perform, SessionFocus.closeSession,
        ShellSessions.closeSession] at performed
      split_ifs at performed
      cases performed
      refine ⟨le_rfl, numbered_erase kept.apps closed, ?_⟩
      intro session member
      exact List.mem_erase_of_ne fun same => apart (same ▸ member)
  | _ => exact unchanged rfl rfl

theorem elsewhere_kept (kept : Kept protobuf history connection) {operation : Operation}
    {changed : Devices}
    (stepped : step protobuf build factory devices connection (.elsewhere operation changed) =
      some next) : Kept protobuf (history ++ [.elsewhere operation changed]) next := by
  simp only [step, Option.ite_none_right_eq_some, Option.map_eq_some_iff] at stepped
  obtain ⟨allowed, manager, moved, rfl⟩ := stepped
  unfold SessionFocus.step at moved
  cases performed : SessionFocus.perform connection.manager operation with
  | error thrown =>
      rw [performed] at moved
      cases moved
      exact undisturbed_kept kept rfl rfl rfl rfl id le_rfl kept.apps fun _ _ => Iff.rfl
  | ok changedManager =>
      rw [performed] at moved
      cases moved
      obtain ⟨count, apps, listed⟩ := foreign_operation kept allowed performed
      exact undisturbed_kept kept rfl rfl rfl rfl id count apps listed

theorem opened_since_none {before after : SessionManager}
    (count : after.nextSession = before.nextSession) : openedSince before after = [] := by
  simp [openedSince, count]

theorem opened_since_one {before after : SessionManager}
    (count : after.nextSession = before.nextSession + 1) :
    openedSince before after = [before.nextSession] := by
  simp [openedSince, count]

theorem ordinary_kept (kept : Kept protobuf history connection) (active : ¬ connection.ended = true)
    {event : Event Devices} (opening : names protobuf .connect event = false)
    (closing : names protobuf .disconnect event = false) {result : Bool}
    {after : Processor (Mediator (ServerState Devices)) Package}
    (session : after.displayServer.session = connection.session)
    (holds : Holds connection.manager.shell.apps connection.manager.nextSession
      after.displayServer.world) :
    Kept protobuf (history ++ [event])
      ⟨after, connection.opened ++ openedSince connection.manager
        after.displayServer.world.manager, !result⟩ := by
  refine undisturbed_kept kept opening closing ?_ session ?_ ?_ ?_ ?_
  · rw [opened_since_none holds.2, List.append_nil]
  · exact fun ended => absurd ended active
  · exact holds.2.ge
  · have apps := kept.apps
    rw [← holds.1, ← holds.2] at apps
    exact apps
  · intro _ _
    rw [← holds.1]
    exact Iff.rfl

theorem request_kept (kept : Kept protobuf history connection) (active : ¬ connection.ended = true)
    {body : Text} {key : MessageAddress} {method : Method} {parameters : Text}
    (named : (protobuf.parser.invocation body).method = some method)
    {handled : Handled (Mediator (ServerState Devices)) Package Response}
    (called : handle protobuf (sessionMediator build (managed factory devices)) method parameters
      connection.processor.displayServer = some handled)
    {after : Processor (Mediator (ServerState Devices)) Package}
    (server : after.displayServer = handled.displayServer) :
    Kept protobuf (history ++ [.message body key])
      ⟨after, connection.opened ++ openedSince connection.manager
        after.displayServer.world.manager, !decide (method ≠ .disconnect)⟩ := by
  have alive := before_disconnect kept active
  have start : Holds connection.manager.shell.apps connection.manager.nextSession
      connection.processor.displayServer.world := ⟨rfl, rfl⟩
  by_cases opening : method = .connect
  · subst opening
    obtain ⟨session, holds⟩ := managed_connect called start
    rw [← server] at session holds
    refine connect_kept kept ?_ ?_ alive ?_ session holds
    · simp [names, named]
    · simp [names, named]
    · rw [opened_since_one holds.2]
  by_cases closing : method = .disconnect
  · subst closing
    have listed : ∀ session, connection.session = some session →
        session ∈ connection.manager.shell.apps := by
      intro session known
      rw [(kept.before alive).1] at known
      exact listed_before_disconnect kept alive session (List.mem_of_getLast? known)
    obtain ⟨-, holds⟩ := managed_disconnect called start listed
    rw [← server] at holds
    refine disconnect_kept kept ?_ ?_ alive ?_ rfl holds
    · simp [names, named]
    · simp [names, named]
    · rw [opened_since_none holds.2, List.append_nil]
  · obtain ⟨session, holds⟩ := ordinary_request_leaves (managed_preserves factory devices _ _)
      opening closing called start
    rw [← server] at session holds
    refine ordinary_kept kept active ?_ ?_ session holds
    · simp [names, named, opening]
    · simp [names, named, closing]

theorem message_kept (kept : Kept protobuf history connection) {body : Text}
    {key : MessageAddress}
    (stepped : step protobuf build factory devices connection (.message body key) =
      some next) : Kept protobuf (history ++ [.message body key]) next := by
  simp only [step, Option.ite_none_left_eq_some, Option.map_eq_some_iff] at stepped
  obtain ⟨active, ⟨result, after⟩, processed, rfl⟩ := stepped
  unfold processMessage at processed
  cases named : (protobuf.parser.invocation body).method with
  | none =>
      rw [dispatch_unknown _ _ named] at processed
      cases processed
      refine ordinary_kept kept active ?_ ?_ rfl ⟨rfl, rfl⟩
      · simp [names, named]
      · simp [names, named]
  | some method =>
      rw [dispatch_known _ _ named, Option.map_eq_some_iff] at processed
      obtain ⟨handled, called, replied⟩ := processed
      cases replied
      exact request_kept kept active named called (reply_server _ _ _ _ _)

theorem run_kept {start : Devices} {events : List (Event Devices)}
    (ran : run (step protobuf build factory devices) (accepted start) events = some connection) :
    Kept protobuf events connection := by
  apply run_history_invariant (Kept protobuf) (accepted_kept start) _ ran
  intro history state event next kept stepped
  cases event with
  | message body key => exact message_kept kept stepped
  | elsewhere operation changed => exact elsewhere_kept kept stepped
  | socketError =>
      simp only [step, Option.ite_none_left_eq_some] at stepped
      obtain ⟨active, same⟩ := stepped
      cases same
      exact undisturbed_kept kept rfl rfl rfl rfl (fun _ => rfl) le_rfl kept.apps
        fun _ _ => Iff.rfl

end Invariant

/-- At most one session of the connection is in the container, and none once it ended. -/
def FollowsConnection (connection : ClientConnection Devices) : Prop :=
  (present connection).length ≤ 1 ∧ (connection.ended = true → present connection = [])

/-- It does in the runs with one `connect` at most that end, after a `connect`, with a
`disconnect`. -/
theorem session_follows_connection_iff {protobuf : Protobuf} {build : Build}
    {factory : SurfaceCreationParameters → Call StdException Devices (List BufferID)}
    {devices : Frontend Devices SurfaceRef BufferRef} {start : Devices}
    {events : List (Event Devices)} {connection : ClientConnection Devices}
    (ran : run (step protobuf build factory devices) (accepted start) events = some connection) :
    FollowsConnection connection ↔
      connects protobuf events ≤ 1 ∧ (connection.ended = true →
        connects protobuf events = 0 ∨ disconnects protobuf events = true) := by
  have kept := run_kept ran
  have counted := kept.counted
  unfold FollowsConnection
  rw [← List.length_eq_zero_iff]
  cases done : disconnects protobuf events with
  | false =>
      rw [(kept.before done).2, counted]
      simp
  | true =>
      obtain ⟨ended, left⟩ := kept.after done
      rw [left, List.length_dropLast, counted, ended]
      simp
      omega

section SmallServer

def smallFactory (_ : SurfaceCreationParameters) : Call StdException Unit (List BufferID) :=
  pure [⟨1⟩, ⟨2⟩]

def smallDevices : Frontend Unit SurfaceRef Unit := fun _ request => match request with
  | .platformIpcPackage => pure ⟨[], [4]⟩
  | .viewArea => pure (1024, 768)
  | .supportedPixelFormats => pure [1, 2]
  | _ => throw ⟨"no surfaces", none⟩

def smallStep : ClientConnection Unit → Event Unit → Option (ClientConnection Unit) :=
  step plainProtobuf .gbm smallFactory smallDevices

/-- A client that connects, asks for a surface and disconnects, beside another one. -/
def politeClient : List (Event Unit) :=
  [.elsewhere .openSession (), .message (invocationBody 0 "connect" []) 1,
    .elsewhere (.closeSession 0) (), .message (invocationBody 1 "create_surface" []) 2,
    .message (invocationBody 2 "disconnect" []) 3]

theorem polite_client_leaves_no_session :
    ∃ connection, run smallStep (accepted ()) politeClient = some connection ∧
      connection.opened = [1] ∧ FollowsConnection connection := by
  obtain ⟨connection, ran, opened⟩ : ∃ connection,
      run smallStep (accepted ()) politeClient = some connection ∧ connection.opened = [1] :=
    ⟨_, rfl, rfl⟩
  refine ⟨connection, ran, opened, (session_follows_connection_iff ran).mpr ?_⟩
  exact ⟨by decide, fun _ => Or.inr (by decide)⟩

/-- One client goes away without a word, the other connects twice before it disconnects. -/
theorem careless_clients_leave_a_session :
    (∃ connection,
      run smallStep (accepted ())
        [.message (invocationBody 0 "connect" []) 1, .socketError] = some connection ∧
      connection.ended = true ∧ present connection = [0]) ∧
    ∃ connection,
      run smallStep (accepted ())
        [.message (invocationBody 0 "connect" []) 1, .message (invocationBody 1 "connect" []) 2,
          .message (invocationBody 2 "disconnect" []) 3] = some connection ∧
      connection.ended = true ∧ present connection = [0] :=
  ⟨⟨_, rfl, rfl, rfl⟩, _, rfl, rfl, rfl⟩

end SmallServer

end Mir.ConnectionLifetime
