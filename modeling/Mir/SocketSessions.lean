import Mathlib.Algebra.Group.Nat.Defs
import Mathlib.Data.Finset.Basic
import Mir.TransitionRuns

/-!
# The connections of the server

`ProtobufSocketCommunicator::on_new_connection`, the callbacks of `SocketSession` and
`ConnectedSessions`. A session is known by its id, an `int` that counts up and must not
overflow. `ConnectedSessions` owns the session: the callbacks are bound to `this`. The
exception that `on_new_message` throws after it has removed the session leaves the io
service; it is not followed any further.
-/

namespace Mir.SocketSessions

open Mir.TransitionRuns

set_option autoImplicit false

abbrev SocketId := Nat

/-- What a session waits for, or that its message is being processed. -/
inductive Activity where
  | none
  | readingSize
  | readingMessage
  | processing
  deriving DecidableEq, Repr

/-- `accepting` is the session that waits for the next client. -/
structure Communicator where
  nextSessionId : SocketId
  accepting : SocketId
  shellList : Finset SocketId
  activity : SocketId → Activity

/-- The completions of the io service, each with whether it reports an error, and
the return of `process_message`. -/
inductive Completion where
  | newConnection (error : Bool)
  | readSize (session : SocketId) (error : Bool)
  | newMessage (session : SocketId) (error : Bool)
  | processed (session : SocketId) (result : Bool)
  deriving DecidableEq, Repr

/-- After the constructor has called `start_accept`. -/
def listening : Communicator where
  nextSessionId := 1
  accepting := 0
  shellList := ∅
  activity := fun _ => .none

section Callbacks

variable (state : Communicator)

def add (session : SocketId) : Communicator :=
  { state with shellList := insert session state.shellList }

def remove (session : SocketId) : Communicator :=
  { state with shellList := state.shellList.erase session }

def become (session : SocketId) (activity : Activity) : Communicator :=
  { state with activity := Function.update state.activity session activity }

/-- `next_id` has no result when the `int` overflows. -/
def startAccept : Option Communicator :=
  if state.nextSessionId + 1 < 2 ^ 31 then
    some { state with
      nextSessionId := state.nextSessionId + 1
      accepting := state.nextSessionId }
  else none

def onNewConnection (error : Bool) : Option Communicator :=
  if error then startAccept state
  else startAccept (become (add state state.accepting) state.accepting .readingSize)

def onReadSize (session : SocketId) (error : Bool) : Communicator :=
  if error then become state session .none
  else become state session .readingMessage

def onNewMessage (session : SocketId) (error : Bool) : Communicator :=
  if error then become (remove state session) session .none
  else become state session .processing

def onProcessed (session : SocketId) (result : Bool) : Communicator :=
  if result then become state session .readingSize
  else become (remove state session) session .none

def step : Completion → Option Communicator
  | .newConnection error => onNewConnection state error
  | .readSize session error =>
      if state.activity session = .readingSize then some (onReadSize state session error)
      else none
  | .newMessage session error =>
      if state.activity session = .readingMessage then some (onNewMessage state session error)
      else none
  | .processed session result =>
      if state.activity session = .processing then some (onProcessed state session result)
      else none

end Callbacks

/-- The session is in `ConnectedSessions` exactly while it reads or processes. -/
def RegisteredWhileActive (state : Communicator) (session : SocketId) : Prop :=
  session ∈ state.shellList ↔ state.activity session ≠ .none

section Bookkeeping

def subject (state : Communicator) : Completion → SocketId
  | .newConnection _ => state.accepting
  | .readSize session _ | .newMessage session _ | .processed session _ => session

variable {state next : Communicator} {event : Completion} {history : List Completion}

theorem start_accept_some (started : startAccept state = some next) :
    next = { state with
      nextSessionId := state.nextSessionId + 1
      accepting := state.nextSessionId } := by
  unfold startAccept at started
  split_ifs at started
  exact (Option.some.inj started).symm

theorem step_cases (stepped : step state event = some next) :
    (∃ error, event = .newConnection error ∧ onNewConnection state error = some next) ∨
    (∃ session error, event = .readSize session error ∧
      state.activity session = .readingSize ∧ next = onReadSize state session error) ∨
    (∃ session error, event = .newMessage session error ∧
      state.activity session = .readingMessage ∧ next = onNewMessage state session error) ∨
    (∃ session result, event = .processed session result ∧
      state.activity session = .processing ∧ next = onProcessed state session result) := by
  cases event with
  | newConnection error => exact Or.inl ⟨error, rfl, stepped⟩
  | readSize session error =>
      simp only [step] at stepped
      split_ifs at stepped with reading
      exact Or.inr (Or.inl ⟨session, error, rfl, reading, (Option.some.inj stepped).symm⟩)
  | newMessage session error =>
      simp only [step] at stepped
      split_ifs at stepped with reading
      exact Or.inr (Or.inr (Or.inl
        ⟨session, error, rfl, reading, (Option.some.inj stepped).symm⟩))
  | processed session result =>
      simp only [step] at stepped
      split_ifs at stepped with processing
      exact Or.inr (Or.inr (Or.inr
        ⟨session, result, rfl, processing, (Option.some.inj stepped).symm⟩))

theorem step_others (stepped : step state event = some next) {other : SocketId}
    (apart : other ≠ subject state event) :
    (other ∈ next.shellList ↔ other ∈ state.shellList) ∧
      next.activity other = state.activity other := by
  rcases step_cases stepped with ⟨error, rfl, connected⟩ | ⟨session, error, rfl, -, rfl⟩ |
    ⟨session, error, rfl, -, rfl⟩ | ⟨session, result, rfl, -, rfl⟩
  · cases error with
    | true =>
        rw [start_accept_some connected]
        exact ⟨Iff.rfl, rfl⟩
    | false =>
        have apart' : other ≠ state.accepting := apart
        rw [start_accept_some connected]
        simp [become, add, apart']
  · cases error <;> simp_all [onReadSize, become, subject]
  · cases error <;> simp_all [onNewMessage, become, remove, subject]
  · cases result <;> simp_all [onProcessed, become, remove, subject]

/-- Its session stays registered while it goes on, and after a failed header read. -/
theorem step_subject (stepped : step state event = some next)
    (idle : state.activity state.accepting = .none ∧ state.accepting ∉ state.shellList)
    (listed : ∀ session, state.activity session ≠ .none → session ∈ state.shellList) :
    (subject state event ∈ next.shellList ↔ next.activity (subject state event) ≠ .none ∨
      event = .readSize (subject state event) true) ∧
    (event = .readSize (subject state event) true →
      next.activity (subject state event) = .none) := by
  rcases step_cases stepped with ⟨error, rfl, connected⟩ | ⟨session, error, rfl, active, rfl⟩ |
    ⟨session, error, rfl, active, rfl⟩ | ⟨session, result, rfl, active, rfl⟩
  · cases error with
    | true =>
        rw [start_accept_some connected]
        simp [subject, idle]
    | false =>
        rw [start_accept_some connected]
        simp [subject, become, add]
  · have member : session ∈ state.shellList := listed session (by simp [active])
    cases error <;> simp [onReadSize, become, subject, member]
  · have member : session ∈ state.shellList := listed session (by simp [active])
    cases error <;> simp [onNewMessage, become, remove, subject, member]
  · have member : session ∈ state.shellList := listed session (by simp [active])
    cases result <;> simp [onProcessed, become, remove, subject, member]

theorem step_accepting (stepped : step state event = some next)
    (successor : state.nextSessionId = state.accepting + 1)
    (unused : ∀ session, state.accepting ≤ session → state.activity session = .none) :
    next.nextSessionId = next.accepting + 1 ∧ state.accepting ≤ next.accepting ∧
      subject state event < next.accepting := by
  have used : ∀ session, state.activity session ≠ .none → session < state.accepting := by
    intro session active
    by_contra above
    exact active (unused session (not_lt.mp above))
  rcases step_cases stepped with ⟨error, rfl, connected⟩ | ⟨session, error, rfl, active, rfl⟩ |
    ⟨session, error, rfl, active, rfl⟩ | ⟨session, result, rfl, active, rfl⟩
  · cases error with
    | true =>
        rw [start_accept_some connected]
        simp [subject, successor]
    | false =>
        rw [start_accept_some connected]
        simp [subject, become, add, successor]
  · have below : session < state.accepting := used session (by simp [active])
    cases error <;> exact ⟨successor, le_refl _, below⟩
  · have below : session < state.accepting := used session (by simp [active])
    cases error <;> exact ⟨successor, le_refl _, below⟩
  · have below : session < state.accepting := used session (by simp [active])
    cases result <;> exact ⟨successor, le_refl _, below⟩

/-- Besides the active sessions the list holds those whose header read has failed. -/
structure Kept (history : List Completion) (state : Communicator) : Prop where
  listed : ∀ session, session ∈ state.shellList ↔
    state.activity session ≠ .none ∨ .readSize session true ∈ history
  failed : ∀ session, .readSize session true ∈ history → state.activity session = .none
  fresh : ∀ session, state.accepting ≤ session →
    state.activity session = .none ∧ .readSize session true ∉ history
  successor : state.nextSessionId = state.accepting + 1

theorem listening_kept : Kept [] listening where
  listed := by simp [listening]
  failed := by simp
  fresh := by simp [listening]
  successor := rfl

theorem subject_unfailed (kept : Kept history state) (stepped : step state event = some next) :
    .readSize (subject state event) true ∉ history := by
  have active : ∀ session, state.activity session ≠ .none →
      .readSize session true ∉ history :=
    fun session active failure => active (kept.failed session failure)
  rcases step_cases stepped with ⟨error, rfl, -⟩ | ⟨session, error, rfl, reading, -⟩ |
    ⟨session, error, rfl, reading, -⟩ | ⟨session, result, rfl, reading, -⟩
  · exact (kept.fresh state.accepting (le_refl _)).2
  all_goals exact active session (by simp [reading])

theorem failure_subject {session : SocketId} (failure : event = .readSize session true) :
    subject state event = session := by
  rw [failure]
  rfl

theorem step_kept (kept : Kept history state) (stepped : step state event = some next) :
    Kept (history ++ [event]) next := by
  have unfailed := subject_unfailed kept stepped
  have idle := kept.fresh state.accepting (le_refl _)
  have unlisted : state.accepting ∉ state.shellList := by
    simp [kept.listed, idle]
  obtain ⟨own, stopped⟩ := step_subject stepped ⟨idle.1, unlisted⟩
    (fun session active => (kept.listed session).mpr (Or.inl active))
  obtain ⟨successor, later, below⟩ := step_accepting stepped kept.successor
    (fun session above => (kept.fresh session above).1)
  have member : ∀ session, .readSize session true ∈ history ++ [event] ↔
      .readSize session true ∈ history ∨ event = .readSize session true := by
    simp [eq_comm]
  -- Every field is about one session: the one of the completion or another one.
  refine ⟨?_, ?_, ?_, successor⟩
  · intro session
    rw [member]
    by_cases same : session = subject state event
    · rw [same, own]
      simp [unfailed]
    · have frame := step_others stepped same
      have elsewhere : event ≠ .readSize session true :=
        fun failure => same (failure_subject failure).symm
      simp [frame, kept.listed session, elsewhere]
  · intro session failure
    rw [member] at failure
    rcases failure with failure | failure
    · have apart : session ≠ subject state event := by
        rintro rfl
        exact unfailed failure
      rw [(step_others stepped apart).2]
      exact kept.failed session failure
    · have same : subject state event = session := failure_subject failure
      rw [← same] at failure ⊢
      exact stopped failure
  · intro session above
    have apart : session ≠ subject state event := by
      intro same
      rw [same] at above
      exact absurd below (not_lt.mpr above)
    have elsewhere : event ≠ .readSize session true :=
      fun failure => apart (failure_subject failure).symm
    have before := kept.fresh session (le_trans later above)
    rw [member, (step_others stepped apart).2]
    simp [before, elsewhere]

theorem run_kept {events : List Completion} (ran : run step listening events = some state) :
    Kept events state :=
  run_history_invariant Kept listening_kept
    (fun _ _ _ _ kept stepped => step_kept kept stepped) ran

end Bookkeeping

theorem registered_while_active_iff {events : List Completion} {state : Communicator}
    (ran : run step listening events = some state) (session : SocketId) :
    RegisteredWhileActive state session ↔ .readSize session true ∉ events := by
  have kept := run_kept ran
  constructor
  · intro registered failure
    have member : session ∈ state.shellList := (kept.listed session).mpr (Or.inr failure)
    exact registered.mp member (kept.failed session failure)
  · intro unfailed
    unfold RegisteredWhileActive
    simp [kept.listed session, unfailed]

/-- Two clients: the first asks to disconnect, the second hangs up in a message. -/
def twoClients : List Completion :=
  [.newConnection false, .readSize 0 false, .newConnection false, .newMessage 0 false,
    .readSize 1 false, .processed 0 true, .readSize 0 false, .newMessage 1 true,
    .newMessage 0 false, .processed 0 false]

theorem two_clients_are_unregistered :
    ∃ state, run step listening twoClients = some state ∧ state.shellList = ∅ ∧
      RegisteredWhileActive state 0 ∧ RegisteredWhileActive state 1 := by
  obtain ⟨state, ran, empty⟩ : ∃ state, run step listening twoClients = some state ∧
      state.shellList = ∅ := ⟨_, rfl, rfl⟩
  refine ⟨state, ran, empty, ?_, ?_⟩
  · exact (registered_while_active_iff ran 0).mpr (by decide)
  · exact (registered_while_active_iff ran 1).mpr (by decide)

/-- A client that hangs up between two messages. -/
theorem closed_client_stays_registered :
    ∃ state, run step listening [.newConnection false, .readSize 0 true] = some state ∧
      0 ∈ state.shellList ∧ state.activity 0 = .none ∧ ¬ RegisteredWhileActive state 0 :=
  ⟨_, rfl, by decide, rfl, fun registered => registered.mp (by decide) rfl⟩

end Mir.SocketSessions
