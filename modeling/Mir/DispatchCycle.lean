import Mathlib.Data.List.Nodup
import Mathlib.Logic.Function.Basic
import Mir.InputStates
import Mir.TransitionRuns

/-!
# The dispatch cycle of a connection

The part of `InputDispatcher` that brings events to one client: `enqueueDispatchEntryLocked`,
`startDispatchCycleLocked`, the cancelation events, the finished signals of the client and the end
of the connection. A step is a stretch of code that holds the lock. The policy of the server is
asked about a key with the lock released, so that the other threads may run in between, and any
of them may run the commands that are queued. The client sends what it likes.
-/

namespace Mir.DispatchCycle

open Mir.InputEvents Mir.InputStates Mir.TransitionRuns
open scoped List

set_option autoImplicit false

inductive Status where
  | normal
  | broken
  | zombie
  deriving DecidableEq, Repr

def flagForeground : UInt32 := 0x1
def flagTargetIsObscured : UInt32 := 0x2
def flagZeroCoords : UInt32 := 0x8
def flagDispatchMask : UInt32 := 0x3f00

def modeFlag : DispatchMode → UInt32
  | .asIs => 0x100
  | .outside => 0x200
  | .hoverEnter => 0x400
  | .hoverExit => 0x800
  | .slipperyExit => 0x1000
  | .slipperyEnter => 0x2000

structure InputTarget where
  flags : UInt32
  xOffset : Float32
  yOffset : Float32
  scaleFactor : Float32

structure DispatchEntry where
  seq : UInt32
  event : Resolved
  targetFlags : UInt32
  xOffset : Float32
  yOffset : Float32
  scaleFactor : Float32
  deliveryTime : Int
  resolvedFlags : Int32

def hasForegroundTarget (entry : DispatchEntry) : Bool := entry.targetFlags &&& flagForeground ≠ 0

/-- What of an entry does not change while it is dispatched. -/
def DispatchEntry.ticket (entry : DispatchEntry) : UInt32 × Resolved := (entry.seq, entry.event)

structure Connection where
  status : Status
  inputState : InputState
  inputPublisherBlocked : Bool
  outboundQueue : List DispatchEntry
  waitQueue : List DispatchEntry

def Connection.new : Connection := ⟨.normal, InputState.new, false, [], []⟩

/-- What a thread has asked the policy, with the lock released. -/
inductive Question where
  | cancelFallback (originalKeyCode fallbackKeyCode : Int32)
  | unhandledKey (originalKeyCode fallbackKeyCode : Int32) (initialDown : Bool) (up : Bool)
  deriving DecidableEq

structure Asking where
  seq : UInt32
  question : Question
  deriving DecidableEq

inductive Command where
  | dispatchCycleFinished (seq : UInt32) (handled : Bool)
  | inputChannelBroken
  deriving DecidableEq

/-- `sNextSeq` counts the increments of `sNextSeqAtomic`. The last three fields are histories: the
entries that were queued, those that were published, and those that were released. -/
structure Server (Thread : Type) where
  connection : Connection
  registered : Bool
  sNextSeq : Nat
  commands : List Command
  asking : Thread → Option Asking
  toClient : List InputMessage
  toServer : List InputMessage
  enqueued : List DispatchEntry
  published : List DispatchEntry
  released : List DispatchEntry

/-- After `registerInputChannel`. -/
def registering {Thread : Type} (sNextSeq : Nat) : Server Thread :=
  ⟨.new, true, sNextSeq, [], fun _ => none, [], [], [], [], []⟩

/-- The number 0 is never returned. -/
def nextSeq (counter : Nat) : UInt32 × Nat :=
  if UInt32.ofNat counter = 0 then (UInt32.ofNat (counter + 1), counter + 2)
  else (UInt32.ofNat counter, counter + 1)

/-! ## Messages of entries -/

def geometry (entry : DispatchEntry) (source : UInt32) :
    Float32 × Float32 × (PointerCoords → PointerCoords) :=
  if isPointer source = true ∧ entry.targetFlags &&& flagZeroCoords = 0 then
    (entry.xOffset * entry.scaleFactor, entry.yOffset * entry.scaleFactor,
      fun coords => if entry.scaleFactor != 1 then coords.scale entry.scaleFactor else coords)
  else
    (0, 0, fun coords =>
      if entry.targetFlags &&& flagZeroCoords ≠ 0 then coords.clear else coords)

def publishKeyEvent (entry : DispatchEntry) (event : KeyEntry) (action : KeyAction) :
    Option InputMessage :=
  if entry.seq = 0 then none
  else some (.key {
    seq := entry.seq
    eventTime := event.eventTime
    deviceId := event.deviceId
    source := event.source
    action := action
    flags := entry.resolvedFlags
    keyCode := event.keyCode
    scanCode := event.scanCode
    metaState := event.metaState
    repeatCount := event.repeatCount
    downTime := event.downTime })

def publishMotionEvent (entry : DispatchEntry) (event : MotionEntry) (action : Action) :
    Option InputMessage :=
  if entry.seq = 0 then none
  else if maxPointers < event.pointers.length ∨ event.pointers.length < 1 then none
  else
    let (xOffset, yOffset, usingCoords) := geometry entry event.source
    some (.motion {
      seq := entry.seq
      eventTime := event.eventTime
      deviceId := event.deviceId
      source := event.source
      action := action
      flags := entry.resolvedFlags
      metaState := event.metaState
      buttonState := event.buttonState
      edgeFlags := event.edgeFlags
      downTime := event.downTime
      xOffset := xOffset
      yOffset := yOffset
      xPrecision := event.xPrecision
      yPrecision := event.yPrecision
      pointers := event.pointers.map fun pointer =>
        { pointer with coords := usingCoords pointer.coords } })

/-- The message that is sent for an entry, unless it is refused as a bad value. -/
def message (entry : DispatchEntry) : Option InputMessage :=
  match entry.event with
  | .key event action => publishKeyEvent entry event action
  | .motion event action => publishMotionEvent entry event action

/-! ## The functions of the dispatcher -/

inductive SendError where
  | wouldBlock
  | other
  deriving DecidableEq

/-- The socket takes `room` more messages, and then answers with `refusal`. -/
structure Socket where
  room : Nat
  refusal : SendError

section Functions

variable {Thread : Type}

def drain (server : Server Thread) : Server Thread :=
  let connection := server.connection
  { server with
    connection := { connection with outboundQueue := [], waitQueue := [] }
    released := server.released ++ connection.outboundQueue ++ connection.waitQueue }

def abortBrokenDispatchCycle (notify : Bool) (server : Server Thread) : Server Thread :=
  let server := drain server
  if server.connection.status = .normal then
    { server with
      connection := { server.connection with status := .broken }
      commands := if notify then server.commands ++ [.inputChannelBroken] else server.commands }
  else server

/-- The loop of `startDispatchCycleLocked`: the entries that are published, those that are left,
and the error that has stopped it. -/
def publishing (currentTime : Int) (refusal : SendError) :
    Nat → List DispatchEntry → List DispatchEntry × List DispatchEntry × Option SendError
  | _, [] => ([], [], none)
  | room, entry :: rest =>
      let entry := { entry with deliveryTime := currentTime }
      match message entry, room with
      | none, _ => ([], entry :: rest, some .other)
      | some _, 0 => ([], entry :: rest, some refusal)
      | some _, room + 1 =>
          let (sent, left, error) := publishing currentTime refusal room rest
          (entry :: sent, left, error)

def startDispatchCycle (currentTime : Int) (socket : Socket) (server : Server Thread) :
    Server Thread :=
  let connection := server.connection
  if connection.status = .normal then
    let (sent, left, error) :=
      publishing currentTime socket.refusal socket.room connection.outboundQueue
    let connection :=
      { connection with outboundQueue := left, waitQueue := connection.waitQueue ++ sent }
    let server :=
      { server with
        connection := connection
        toClient := server.toClient ++ sent.filterMap message
        published := server.published ++ sent }
    match error with
    | none => server
    | some .wouldBlock =>
        -- Nothing is on the way, so that the pipe should have been empty.
        if connection.waitQueue = [] then abortBrokenDispatchCycle true server
        else { server with connection := { connection with inputPublisherBlocked := true } }
    | some .other => abortBrokenDispatchCycle true server
  else server

def resolvedFlags (targetFlags : UInt32) : EventEntry → Int32
  | .key entry => entry.flags
  | .motion entry =>
      if targetFlags &&& flagTargetIsObscured ≠ 0 then entry.flags ||| flagWindowIsObscured
      else entry.flags

def newDispatchEntry (seq : UInt32) (inputState : InputState) (event : EventEntry)
    (target : InputTarget) (mode : DispatchMode) : DispatchEntry :=
  let targetFlags := target.flags &&& ~~~flagDispatchMask ||| modeFlag mode
  { seq := seq
    event := resolve inputState mode event
    targetFlags := targetFlags
    xOffset := target.xOffset
    yOffset := target.yOffset
    scaleFactor := target.scaleFactor
    deliveryTime := 0
    resolvedFlags := resolvedFlags targetFlags event }

def enqueueDispatchEntry (event : EventEntry) (target : InputTarget) (mode : DispatchMode)
    (server : Server Thread) : Server Thread :=
  if target.flags &&& modeFlag mode = 0 then server
  else
    let connection := server.connection
    let (seq, sNextSeq) := nextSeq server.sNextSeq
    let entry := newDispatchEntry seq connection.inputState event target mode
    let (deliver, inputState) := track connection.inputState entry.resolvedFlags entry.event
    if deliver then
      { server with
        connection := { connection with
          inputState := inputState
          outboundQueue := connection.outboundQueue ++ [entry] }
        sNextSeq := sNextSeq
        enqueued := server.enqueued ++ [entry] }
    -- An inconsistent event is skipped.
    else { server with sNextSeq := sNextSeq }

def enqueueDispatchEntries (currentTime : Int) (event : EventEntry) (target : InputTarget)
    (socket : Socket) (server : Server Thread) : Server Thread :=
  let wasEmpty := server.connection.outboundQueue.isEmpty
  let server := [DispatchMode.hoverExit, .outside, .hoverEnter, .asIs, .slipperyExit,
    .slipperyEnter].foldl (fun server mode => enqueueDispatchEntry event target mode server) server
  if wasEmpty && !server.connection.outboundQueue.isEmpty then
    startDispatchCycle currentTime socket server
  else server

/-- For a target that is not split. -/
def prepareDispatchCycle (currentTime : Int) (event : EventEntry) (target : InputTarget)
    (socket : Socket) (server : Server Thread) : Server Thread :=
  if server.connection.status = .normal then
    enqueueDispatchEntries currentTime event target socket server
  else server

/-- `target` has the offsets of the window. -/
def synthesizeCancelationEventsForConnection (currentTime : Int) (options : CancelationOptions)
    (target : InputTarget) (socket : Socket) (server : Server Thread) : Server Thread :=
  if server.connection.status = .broken then server
  else
    let events := synthesizeCancelationEvents currentTime options server.connection.inputState
    if events.isEmpty then server
    else
      startDispatchCycle currentTime socket (events.foldl (fun server event =>
        enqueueDispatchEntry event { target with flags := modeFlag .asIs } .asIs server) server)

def finishDispatchCycle (seq : UInt32) (handled : Bool) (server : Server Thread) : Server Thread :=
  let server :=
    { server with connection := { server.connection with inputPublisherBlocked := false } }
  if server.connection.status = .normal then
    { server with commands := server.commands ++ [.dispatchCycleFinished seq handled] }
  else server

/-- The loop of `handleReceiveCallback`, which a message of another kind ends. -/
def receiving : List InputMessage → Server Thread → Server Thread
  | [], server => { server with toServer := [] }
  | .finished seq handled :: rest, server => receiving rest (finishDispatchCycle seq handled server)
  | _ :: rest, server => { server with toServer := rest }

def findWaitQueueEntry (connection : Connection) (seq : UInt32) : Option DispatchEntry :=
  connection.waitQueue.find? fun entry => entry.seq = seq

/-! ### Keys that the client has not handled -/

def keyCodeUnknown : Int32 := 0

/-- The policy of the server has no fallback keys. -/
def dispatchUnhandledKey : Bool := false

/-- `afterKeyEventLockedInterruptible` up to the release of the lock. -/
def beforePolicy (inputState : InputState) (entry : DispatchEntry) (event : KeyEntry)
    (handled : Bool) : InputState × Option Question :=
  if event.flags &&& flagFallback ≠ 0 then (inputState, none)
  else
    let fallbackKeyCode := getFallbackKey inputState event.keyCode
    let inputState :=
      if event.action = .up then removeFallbackKey inputState event.keyCode else inputState
    if handled || !hasForegroundTarget entry then
      if fallbackKeyCode ≠ -1 then
        (inputState, some (.cancelFallback event.keyCode fallbackKeyCode))
      else (inputState, none)
    else
      let initialDown := event.action = .down ∧ event.repeatCount = 0
      if fallbackKeyCode = -1 ∧ ¬initialDown then (inputState, none)
      else (inputState,
        some (.unhandledKey event.keyCode fallbackKeyCode initialDown (event.action = .up)))

def afterEvent (inputState : InputState) (entry : DispatchEntry) (handled : Bool) :
    InputState × Option Question :=
  match entry.event with
  | .key event _ => beforePolicy inputState entry event handled
  | .motion _ _ => (inputState, none)

def setInputState (server : Server Thread) (inputState : InputState) : Server Thread :=
  { server with connection := { server.connection with inputState := inputState } }

def cancelFallbackKey (currentTime : Int) (keyCode : Int32) (target : InputTarget)
    (socket : Socket) (server : Server Thread) : Server Thread :=
  synthesizeCancelationEventsForConnection currentTime ⟨.fallbackEvents, keyCode, -1⟩ target socket
    server

/-- `afterKeyEventLockedInterruptible` after the answer of the policy. -/
def afterPolicy (currentTime : Int) (target : InputTarget) (socket : Socket)
    (server : Server Thread) : Question → Server Thread
  | .cancelFallback originalKeyCode fallbackKeyCode =>
      let server :=
        if fallbackKeyCode ≠ keyCodeUnknown then
          cancelFallbackKey currentTime fallbackKeyCode target socket server
        else server
      setInputState server (removeFallbackKey server.connection.inputState originalKeyCode)
  | .unhandledKey originalKeyCode fallbackKeyCode initialDown up =>
      if server.connection.status ≠ .normal then
        setInputState server (removeFallbackKey server.connection.inputState originalKeyCode)
      else
        let (server, fallbackKeyCode) :=
          if initialDown then
            (setInputState server
              (setFallbackKey server.connection.inputState originalKeyCode keyCodeUnknown),
              keyCodeUnknown)
          else (server, fallbackKeyCode)
        if fallbackKeyCode ≠ keyCodeUnknown ∧ dispatchUnhandledKey = false then
          let server := cancelFallbackKey currentTime fallbackKeyCode target socket server
          if up then server
          else setInputState server
            (setFallbackKey server.connection.inputState originalKeyCode keyCodeUnknown)
        else server

/-- The end of `doDispatchCycleFinishedLockedInterruptible`. The entry is known by its number, which
comes back only when the counter has wrapped. -/
def completeDispatch (currentTime : Int) (socket : Socket) (seq : UInt32)
    (server : Server Thread) : Server Thread :=
  let connection := server.connection
  let server := match findWaitQueueEntry connection seq with
    | some entry =>
        { server with
          connection := { connection with
            waitQueue := connection.waitQueue.eraseP fun entry => entry.seq = seq }
          released := server.released ++ [entry] }
    | none => server
  startDispatchCycle currentTime socket server

variable [DecidableEq Thread]

/-- `doDispatchCycleFinishedLockedInterruptible` until it asks the policy or ends. -/
def beginFinished (thread : Thread) (currentTime : Int) (socket : Socket) (seq : UInt32)
    (handled : Bool) (server : Server Thread) : Server Thread :=
  match findWaitQueueEntry server.connection seq with
  | none => server
  | some entry =>
      let (inputState, question) := afterEvent server.connection.inputState entry handled
      let server := setInputState server inputState
      match question with
      | none => completeDispatch currentTime socket seq server
      | some question =>
          { server with asking := Function.update server.asking thread (some ⟨seq, question⟩) }

def runCommand (thread : Thread) (currentTime : Int) (socket : Socket) (server : Server Thread) :
    Option (Server Thread) :=
  match server.commands with
  | [] => none
  | .inputChannelBroken :: rest => some { server with commands := rest }
  | .dispatchCycleFinished seq handled :: rest =>
      some (beginFinished thread currentTime socket seq handled { server with commands := rest })

def answered (thread : Thread) (currentTime : Int) (target : InputTarget) (socket : Socket)
    (server : Server Thread) : Option (Server Thread) :=
  match server.asking thread with
  | none => none
  | some asking =>
      let server := { server with asking := Function.update server.asking thread none }
      some (completeDispatch currentTime socket asking.seq
        (afterPolicy currentTime target socket server asking.question))

end Functions

/-! ## The system -/

/-- `numbered` is an entry of another connection. `unregister` is the first half of
`unregisterInputChannelLocked` and `zombie` what it does after the commands. -/
inductive Event (Thread : Type) where
  | dispatch (currentTime : Int) (event : EventEntry) (target : InputTarget) (socket : Socket)
  | cancel (currentTime : Int) (options : CancelationOptions) (target : InputTarget)
      (socket : Socket)
  | numbered
  | receive
  | runCommand (thread : Thread) (currentTime : Int) (socket : Socket)
  | answered (thread : Thread) (currentTime : Int) (target : InputTarget) (socket : Socket)
  | unregister (notify : Bool)
  | zombie
  | clientReads (count : Nat)
  | clientSends (message : InputMessage)

def step {Thread : Type} [DecidableEq Thread] (server : Server Thread) :
    Event Thread → Option (Server Thread)
  | .dispatch currentTime event target socket =>
      if server.registered then
        some (prepareDispatchCycle currentTime event target socket server)
      else none
  | .cancel currentTime options target socket =>
      if server.registered then
        some (synthesizeCancelationEventsForConnection currentTime options target socket server)
      else none
  | .numbered => some { server with sNextSeq := (nextSeq server.sNextSeq).2 }
  | .receive =>
      if server.registered = true ∧ server.toServer ≠ [] then
        some (receiving server.toServer server)
      else none
  | .runCommand thread currentTime socket =>
      if server.asking thread = none then runCommand thread currentTime socket server else none
  | .answered thread currentTime target socket =>
      answered thread currentTime target socket server
  | .unregister notify =>
      if server.registered then
        some (abortBrokenDispatchCycle notify { server with registered := false })
      else none
  | .zombie =>
      if server.registered then none
      else some { server with connection := { server.connection with status := .zombie } }
  | .clientReads count =>
      if count ≤ server.toClient.length then
        some { server with toClient := server.toClient.drop count }
      else none
  | .clientSends message => some { server with toServer := server.toServer ++ [message] }

/-! ## The books of the entries -/

/-- What the entries of a connection are accounted by. -/
structure Books where
  status : Status
  inputState : InputState
  outbound : List DispatchEntry
  wait : List DispatchEntry
  registered : Bool
  sNextSeq : Nat
  toClient : List InputMessage
  enqueued : List DispatchEntry
  published : List DispatchEntry
  released : List DispatchEntry

def books {Thread : Type} (server : Server Thread) : Books :=
  ⟨server.connection.status, server.connection.inputState, server.connection.outboundQueue,
    server.connection.waitQueue, server.registered, server.sNextSeq, server.toClient,
    server.enqueued, server.published, server.released⟩

def tickets (entries : List DispatchEntry) : List (UInt32 × Resolved) :=
  entries.map DispatchEntry.ticket

theorem tickets_append (first second : List DispatchEntry) :
    tickets (first ++ second) = tickets first ++ tickets second := List.map_append

/-- `numbers` holds until the counter wraps. -/
structure Core (books : Books) : Prop where
  distinct : Distinct books.inputState
  follows : run View.follow View.empty (books.enqueued.map DispatchEntry.event) =
    some (viewOf books.inputState)
  accounts : (tickets books.outbound ++ tickets books.wait ++ tickets books.released).Perm
    (tickets books.enqueued)
  begun : tickets books.published <+: tickets books.enqueued
  normal : books.status = .normal → books.registered = true ∧
    tickets books.published ++ tickets books.outbound = tickets books.enqueued
  stopped : books.status ≠ .normal → books.outbound = [] ∧ books.wait = []
  live : books.registered = true → books.status ≠ .zombie
  waits : (tickets books.wait).Sublist (tickets books.published)
  wire : books.toClient <:+ books.published.filterMap message
  unlatched : ∀ pair ∈ books.inputState.fallbackKeys, pair.2 = keyCodeUnknown
  numbers : books.sNextSeq ≤ UInt32.size →
    (books.enqueued.map fun entry => entry.seq.toNat).Pairwise (· < ·) ∧
      ∀ entry ∈ books.enqueued, 0 < entry.seq.toNat ∧ entry.seq.toNat < books.sNextSeq

/-- Between two stretches of locked code an entry that is queued has others before it that the
client is to finish. -/
structure Sound (books : Books) : Prop extends Core books where
  going : books.outbound ≠ [] → books.wait ≠ []

theorem next_seq_fresh {counter : Nat} (bounded : (nextSeq counter).2 ≤ UInt32.size) :
    0 < (nextSeq counter).1.toNat ∧ counter ≤ (nextSeq counter).1.toNat ∧
      (nextSeq counter).1.toNat < (nextSeq counter).2 := by
  have size : UInt32.size = 4294967296 := rfl
  unfold nextSeq at bounded ⊢
  split at bounded
  · rename_i zero
    rw [if_pos zero]
    dsimp only at bounded ⊢
    have value : (UInt32.ofNat (counter + 1)).toNat = counter + 1 := by
      rw [UInt32.toNat_ofNat']
      omega
    rw [value]
    omega
  · rename_i nonzero
    rw [if_neg nonzero]
    dsimp only at bounded ⊢
    have value : (UInt32.ofNat counter).toNat = counter := by
      rw [UInt32.toNat_ofNat']
      omega
    have positive : counter ≠ 0 := by
      intro zero
      exact nonzero (by rw [zero]; rfl)
    rw [value]
    omega

theorem next_seq_grows (counter : Nat) : counter < (nextSeq counter).2 := by
  unfold nextSeq
  split
  · exact Nat.lt_add_of_pos_right (by decide)
  · exact Nat.lt_succ_self counter

theorem registering_sound {Thread : Type} (sNextSeq : Nat) :
    Sound (books (registering sNextSeq : Server Thread)) := by
  constructor
  case going => exact fun waiting => absurd rfl waiting
  constructor
  case distinct => exact new_distinct
  case follows => rfl
  case accounts => exact List.Perm.nil
  case begun => exact List.prefix_rfl
  case normal => exact fun _ => ⟨rfl, rfl⟩
  case stopped => exact fun _ => ⟨rfl, rfl⟩
  case live => exact fun _ => nofun
  case waits => exact List.Sublist.refl _
  case wire => exact List.suffix_rfl
  case unlatched => exact List.forall_mem_nil _
  case numbers => exact fun _ => ⟨List.Pairwise.nil, List.forall_mem_nil _⟩

section Entries

variable {Thread : Type} {server : Server Thread} {currentTime : Int} {socket : Socket}

theorem core_numbered {books : Books} (core : Core books) {sNextSeq : Nat}
    (later : books.sNextSeq ≤ sNextSeq) : Core { books with sNextSeq := sNextSeq } where
  distinct := core.distinct
  follows := core.follows
  accounts := core.accounts
  begun := core.begun
  normal := core.normal
  stopped := core.stopped
  live := core.live
  waits := core.waits
  wire := core.wire
  unlatched := core.unlatched
  numbers := by
    intro bounded
    obtain ⟨sorted, below⟩ := core.numbers (Nat.le_trans later bounded)
    exact ⟨sorted, fun entry member =>
      ⟨(below entry member).1, Nat.lt_of_lt_of_le (below entry member).2 later⟩⟩

theorem enqueue_cases (server : Server Thread) (event : EventEntry) (target : InputTarget)
    (mode : DispatchMode) :
    enqueueDispatchEntry event target mode server = server ∨
    enqueueDispatchEntry event target mode server =
      { server with sNextSeq := (nextSeq server.sNextSeq).2 } ∨
    ∃ entry inputState, entry.seq = (nextSeq server.sNextSeq).1 ∧
      entry.event = resolve server.connection.inputState mode event ∧
      track server.connection.inputState entry.resolvedFlags entry.event = (true, inputState) ∧
      enqueueDispatchEntry event target mode server =
        { server with
          connection := { server.connection with
            inputState := inputState
            outboundQueue := server.connection.outboundQueue ++ [entry] }
          sNextSeq := (nextSeq server.sNextSeq).2
          enqueued := server.enqueued ++ [entry] } := by
  unfold enqueueDispatchEntry
  split
  · exact Or.inl rfl
  · right
    dsimp only
    split
    · rename_i delivered
      right
      exact ⟨newDispatchEntry _ _ event target mode, _, rfl, rfl, Prod.ext delivered rfl, rfl⟩
    · exact Or.inl rfl

theorem track_fallbacks (state : InputState) (flags : Int32) (event : Resolved) :
    ∀ pair ∈ (track state flags event).2.fallbackKeys, pair ∈ state.fallbackKeys := by
  intro pair member
  cases event with
  | key entry action =>
      have kept : ∀ pair ∈ (removeFallbacks state entry).fallbackKeys,
          pair ∈ state.fallbackKeys := by
        intro pair member
        rw [removeFallbacks] at member
        split at member
        · exact (List.mem_filter.mp member).1
        · exact member
      cases action with
      | down =>
          simp only [track, trackKey] at member
          split at member <;> exact member
      | up =>
          simp only [track, trackKey] at member
          split at member <;> exact kept pair member
  | motion entry action =>
      simp only [track, trackMotion] at member
      repeat' split at member
      all_goals exact member

theorem core_enqueued {books : Books} {entry : DispatchEntry} {inputState : InputState}
    (core : Core books) (normal : books.status = .normal)
    (seq : entry.seq = (nextSeq books.sNextSeq).1)
    (shown : Shown books.inputState entry.event)
    (tracked : track books.inputState entry.resolvedFlags entry.event = (true, inputState)) :
    Core { books with
      inputState := inputState
      outbound := books.outbound ++ [entry]
      sNextSeq := (nextSeq books.sNextSeq).2
      enqueued := books.enqueued ++ [entry] } := by
  obtain ⟨followed, distinct⟩ := track_delivered core.distinct shown tracked
  constructor
  case distinct => exact distinct
  case follows =>
    rw [List.map_append, run_append, core.follows]
    exact (run_single View.follow _ _).trans followed
  case accounts =>
    dsimp only
    rw [tickets_append, tickets_append]
    calc tickets books.outbound ++ tickets [entry] ++ tickets books.wait ++ tickets books.released
      _ = tickets books.outbound ++
          entry.ticket :: (tickets books.wait ++ tickets books.released) := by simp [tickets]
      _ ~ entry.ticket :: (tickets books.outbound ++
          (tickets books.wait ++ tickets books.released)) := List.perm_middle
      _ ~ entry.ticket :: tickets books.enqueued := by
          rw [← List.append_assoc]
          exact core.accounts.cons _
      _ ~ tickets books.enqueued ++ tickets [entry] :=
          (List.perm_append_singleton entry.ticket _).symm
  case begun =>
    dsimp only
    rw [tickets_append]
    exact core.begun.trans (List.prefix_append _ _)
  case normal =>
    intro same
    obtain ⟨registered, complete⟩ := core.normal same
    refine ⟨registered, ?_⟩
    dsimp only
    rw [tickets_append, tickets_append, ← List.append_assoc, complete]
  case stopped => exact fun other => absurd normal other
  case live => exact core.live
  case waits => exact core.waits
  case wire => exact core.wire
  case unlatched =>
    have fallbacks := track_fallbacks books.inputState entry.resolvedFlags entry.event
    rw [tracked] at fallbacks
    exact fun pair member => core.unlatched pair (fallbacks pair member)
  case numbers =>
    intro bounded
    have fresh := next_seq_fresh bounded
    rw [← seq] at fresh
    have smaller := Nat.le_of_lt (next_seq_grows books.sNextSeq)
    obtain ⟨sorted, below⟩ := core.numbers (Nat.le_trans smaller bounded)
    constructor
    · dsimp only
      rw [List.map_append]
      apply List.pairwise_append.mpr
      refine ⟨sorted, List.pairwise_singleton _ _, ?_⟩
      intro earlier member last newest
      obtain ⟨old, listed, rfl⟩ := List.mem_map.mp member
      cases List.mem_singleton.mp newest
      exact Nat.lt_of_lt_of_le (below old listed).2 fresh.2.1
    · intro other member
      rcases List.mem_append.mp member with old | new
      · exact ⟨(below other old).1, Nat.lt_of_lt_of_le (below other old).2 smaller⟩
      · cases List.mem_singleton.mp new
        exact ⟨fresh.1, fresh.2.2⟩

theorem enqueue_core (event : EventEntry) (target : InputTarget) (mode : DispatchMode)
    (core : Core (books server)) (normal : server.connection.status = .normal) :
    Core (books (enqueueDispatchEntry event target mode server)) := by
  rcases enqueue_cases server event target mode with
    same | skipped | ⟨entry, inputState, seq, resolved, tracked, queued⟩
  · rw [same]
    exact core
  · rw [skipped]
    exact core_numbered core (Nat.le_of_lt (next_seq_grows server.sNextSeq))
  · have shown : Shown server.connection.inputState entry.event :=
      resolved ▸ resolve_shown server.connection.inputState mode event
    rw [queued]
    exact core_enqueued core normal seq shown tracked

/-- The loop publishes from the front, and only an error leaves entries behind. -/
theorem publishing_splits {currentTime : Int} {refusal : SendError} {room : Nat}
    {entries sent left : List DispatchEntry} {error : Option SendError}
    (published : publishing currentTime refusal room entries = (sent, left, error)) :
    tickets sent ++ tickets left = tickets entries ∧ (error = none → left = []) := by
  induction entries generalizing room sent left error with
  | nil =>
      rw [publishing] at published
      cases published
      exact ⟨rfl, fun _ => rfl⟩
  | cons entry rest ih =>
      unfold publishing at published
      dsimp only at published
      split at published
      · cases published
        exact ⟨rfl, nofun⟩
      · cases published
        exact ⟨rfl, nofun⟩
      · cases later : publishing currentTime refusal _ rest with
        | mk sent rests =>
            obtain ⟨tickets, complete⟩ := ih later
            rw [later] at published
            cases published
            exact ⟨congrArg (List.cons entry.ticket) tickets, complete⟩

theorem core_published {books : Books} {sent left : List DispatchEntry} (core : Core books)
    (normal : books.status = .normal)
    (splits : tickets sent ++ tickets left = tickets books.outbound) :
    Core { books with
      outbound := left
      wait := books.wait ++ sent
      toClient := books.toClient ++ sent.filterMap message
      published := books.published ++ sent } := by
  have complete := (core.normal normal).2
  rw [← splits] at complete
  constructor
  case distinct => exact core.distinct
  case follows => exact core.follows
  case accounts =>
    dsimp only
    rw [tickets_append]
    have moved : tickets left ++ (tickets books.wait ++ tickets sent) ~
        tickets sent ++ tickets left ++ tickets books.wait := by
      rw [← List.append_assoc, List.append_assoc (tickets sent)]
      exact List.perm_append_comm
    have accounts := core.accounts
    rw [← splits] at accounts
    exact (moved.append_right _).trans accounts
  case begun =>
    dsimp only
    rw [tickets_append, ← complete]
    exact (List.prefix_append_right_inj _).mpr (List.prefix_append _ _)
  case normal =>
    refine fun _ => ⟨(core.normal normal).1, ?_⟩
    dsimp only
    rw [tickets_append, List.append_assoc, complete]
  case stopped => exact fun other => absurd normal other
  case live => exact core.live
  case waits =>
    dsimp only
    rw [tickets_append, tickets_append]
    exact core.waits.append (List.Sublist.refl _)
  case wire =>
    dsimp only
    rw [List.filterMap_append]
    obtain ⟨before, sofar⟩ := core.wire
    exact ⟨before, by rw [← List.append_assoc, sofar]⟩
  case unlatched => exact core.unlatched
  case numbers => exact core.numbers

theorem core_drained {books : Books} {status : Status} (core : Core books)
    (stopped : status ≠ .normal) (live : books.registered = true → status ≠ .zombie) :
    Core { books with
      status := status
      outbound := []
      wait := []
      released := books.released ++ books.outbound ++ books.wait } where
  distinct := core.distinct
  follows := core.follows
  accounts := by
    have accounts := core.accounts
    show tickets (books.released ++ books.outbound ++ books.wait) ~ tickets books.enqueued
    rw [tickets_append, tickets_append, List.append_assoc]
    exact List.perm_append_comm.trans accounts
  begun := core.begun
  normal := fun normal => absurd normal stopped
  stopped := fun _ => ⟨rfl, rfl⟩
  live := live
  waits := List.nil_sublist _
  wire := core.wire
  unlatched := core.unlatched
  numbers := core.numbers

theorem abort_sound (notify : Bool) (core : Core (books server)) :
    Sound (books (abortBrokenDispatchCycle notify server)) := by
  unfold abortBrokenDispatchCycle
  dsimp only [drain]
  split
  · exact ⟨core_drained core nofun fun _ => nofun, fun waiting => absurd rfl waiting⟩
  · rename_i other
    exact ⟨core_drained core other core.live, fun waiting => absurd rfl waiting⟩

theorem start_sound (currentTime : Int) (socket : Socket) (core : Core (books server)) :
    Sound (books (startDispatchCycle currentTime socket server)) := by
  unfold startDispatchCycle
  dsimp only
  split
  · rename_i normal
    cases published : publishing currentTime socket.refusal socket.room
        server.connection.outboundQueue with
    | mk sent rests =>
        obtain ⟨left, error⟩ := rests
        obtain ⟨splits, complete⟩ := publishing_splits published
        have after := core_published core normal splits
        dsimp only
        cases error with
        | none =>
            cases complete rfl
            exact ⟨after, fun waiting => absurd rfl waiting⟩
        | some refusal =>
            cases refusal with
            | other => exact abort_sound true after
            | wouldBlock =>
                dsimp only
                split
                · exact abort_sound true after
                · rename_i waiting
                  exact ⟨after, fun _ => waiting⟩
  · rename_i other
    exact ⟨core, fun waiting => absurd (core.stopped other).1 waiting⟩

/-- Queueing an event leaves alone what is not about the queue. -/
structure Queues (server next : Server Thread) : Prop where
  status : next.connection.status = server.connection.status
  waits : next.connection.waitQueue = server.connection.waitQueue
  asking : next.asking = server.asking
  commands : next.commands = server.commands
  toServer : next.toServer = server.toServer
  published : next.published = server.published
  later : server.sNextSeq ≤ next.sNextSeq

theorem enqueue_queues (server : Server Thread) (event : EventEntry) (target : InputTarget)
    (mode : DispatchMode) : Queues server (enqueueDispatchEntry event target mode server) := by
  have later := Nat.le_of_lt (next_seq_grows server.sNextSeq)
  rcases enqueue_cases server event target mode with
    same | skipped | ⟨entry, inputState, -, -, -, queued⟩
  · rw [same]
    exact ⟨rfl, rfl, rfl, rfl, rfl, rfl, Nat.le_refl _⟩
  · rw [skipped]
    exact ⟨rfl, rfl, rfl, rfl, rfl, rfl, later⟩
  · rw [queued]
    exact ⟨rfl, rfl, rfl, rfl, rfl, rfl, later⟩

/-! Both loops that queue events, over the modes of one event and over cancelation events, are of
this form. -/

theorem enqueue_all_queues {Item : Type} (event : Item → EventEntry) (mode : Item → DispatchMode)
    (target : InputTarget) (items : List Item) (server : Server Thread) :
    Queues server (items.foldl
      (fun server item => enqueueDispatchEntry (event item) target (mode item) server)
        server) := by
  induction items generalizing server with
  | nil => exact ⟨rfl, rfl, rfl, rfl, rfl, rfl, Nat.le_refl _⟩
  | cons item rest ih =>
      have first := enqueue_queues server (event item) target (mode item)
      have others := ih (enqueueDispatchEntry (event item) target (mode item) server)
      exact ⟨others.status.trans first.status, others.waits.trans first.waits,
        others.asking.trans first.asking, others.commands.trans first.commands,
        others.toServer.trans first.toServer, others.published.trans first.published,
        first.later.trans others.later⟩

theorem enqueue_all {Item : Type} (event : Item → EventEntry) (mode : Item → DispatchMode)
    (target : InputTarget) (items : List Item) (core : Core (books server))
    (normal : server.connection.status = .normal) :
    Core (books (items.foldl
      (fun server item => enqueueDispatchEntry (event item) target (mode item) server)
        server)) := by
  induction items generalizing server with
  | nil => exact core
  | cons item rest ih =>
      have status := (enqueue_queues server (event item) target (mode item)).status
      exact ih (enqueue_core (event item) target (mode item) core normal) (status.trans normal)

theorem start_asking (currentTime : Int) (socket : Socket) (server : Server Thread) :
    (startDispatchCycle currentTime socket server).asking = server.asking := by
  unfold startDispatchCycle abortBrokenDispatchCycle drain
  dsimp only
  repeat' split
  all_goals rfl

/-- What dispatching an event can do: queue it for its modes, and start the cycle unless the queue
was not empty. -/
theorem prepare_cases (currentTime : Int) (event : EventEntry) (target : InputTarget)
    (socket : Socket) (server : Server Thread) :
    let next := prepareDispatchCycle currentTime event target socket server
    next = server ∨ ∃ queued, Queues server queued ∧
      (Core (books server) → Core (books queued)) ∧
      (next = startDispatchCycle currentTime socket queued ∨
        next = queued ∧ (queued.connection.outboundQueue ≠ [] →
          server.connection.outboundQueue ≠ [])) := by
  unfold prepareDispatchCycle enqueueDispatchEntries
  dsimp only
  split
  · rename_i normal
    right
    let modes := [DispatchMode.hoverExit, .outside, .hoverEnter, .asIs, .slipperyExit,
      .slipperyEnter]
    refine ⟨_, enqueue_all_queues (fun _ => event) id target modes server,
      fun core => enqueue_all (fun _ => event) id target modes core normal, ?_⟩
    split
    · exact Or.inl rfl
    · rename_i idle
      refine Or.inr ⟨rfl, fun queued empty => idle ?_⟩
      rw [Bool.and_eq_true, List.isEmpty_iff, Bool.not_eq_true', List.isEmpty_eq_false_iff]
      exact ⟨empty, queued⟩
  · exact Or.inl rfl

theorem cancel_cases (currentTime : Int) (options : CancelationOptions) (target : InputTarget)
    (socket : Socket) (server : Server Thread) :
    let next := synthesizeCancelationEventsForConnection currentTime options target socket server
    next = server ∨ ∃ queued, Queues server queued ∧
      (server.connection.status ≠ .zombie → Core (books server) → Core (books queued)) ∧
      next = startDispatchCycle currentTime socket queued := by
  unfold synthesizeCancelationEventsForConnection
  dsimp only
  split
  · exact Or.inl rfl
  · rename_i unbroken
    split
    · exact Or.inl rfl
    · right
      let events := synthesizeCancelationEvents currentTime options server.connection.inputState
      refine ⟨_, enqueue_all_queues id (fun _ => DispatchMode.asIs)
        { target with flags := modeFlag .asIs } events server, fun live core => ?_, rfl⟩
      have normal : server.connection.status = .normal := by
        cases status : server.connection.status with
        | normal => rfl
        | broken => exact absurd status unbroken
        | zombie => exact absurd status live
      exact enqueue_all id (fun _ => DispatchMode.asIs) { target with flags := modeFlag .asIs }
        events core normal

theorem prepare_sound (currentTime : Int) (event : EventEntry) (target : InputTarget)
    (socket : Socket) (sound : Sound (books server)) :
    Sound (books (prepareDispatchCycle currentTime event target socket server)) := by
  rcases prepare_cases currentTime event target socket server with
    same | ⟨queued, queues, core, started | ⟨stayed, going⟩⟩
  · rw [same]
    exact sound
  · rw [started]
    exact start_sound currentTime socket (core sound.toCore)
  · rw [stayed]
    refine ⟨core sound.toCore, fun waiting => ?_⟩
    have before := sound.going (going waiting)
    exact fun none => before (queues.waits.symm.trans none)

theorem cancel_sound (currentTime : Int) (options : CancelationOptions) (target : InputTarget)
    (socket : Socket) (sound : Sound (books server)) (live : server.connection.status ≠ .zombie) :
    Sound (books (synthesizeCancelationEventsForConnection currentTime options target socket
      server)) := by
  rcases cancel_cases currentTime options target socket server with
    same | ⟨queued, queues, core, started⟩
  · rw [same]
    exact sound
  · rw [started]
    exact start_sound currentTime socket (core live sound.toCore)

/-! ## The finished signals -/

theorem core_finished {books : Books} {entry : DispatchEntry} {seq : UInt32} (core : Core books)
    (found : books.wait.find? (fun entry => entry.seq = seq) = some entry) :
    Core { books with
      wait := books.wait.eraseP fun entry => entry.seq = seq
      released := books.released ++ [entry] } := by
  obtain ⟨named, before, after, split, earlier⟩ := List.find?_eq_some_iff_append.mp found
  have rest : books.wait.eraseP (fun entry => entry.seq = seq) = before ++ after := by
    rw [split, List.eraseP_append_right _ (by simpa using earlier)]
    simp only [List.eraseP_cons, named, cond_true]
  constructor
  case distinct => exact core.distinct
  case follows => exact core.follows
  case accounts =>
    have accounts := core.accounts
    rw [split] at accounts
    dsimp only
    rw [rest]
    refine List.Perm.trans ?_ accounts
    calc tickets books.outbound ++ tickets (before ++ after) ++ tickets (books.released ++ [entry])
      _ = tickets books.outbound ++ tickets (before ++ after) ++ tickets books.released ++
          [entry.ticket] := by simp [tickets]
      _ ~ entry.ticket :: (tickets books.outbound ++ tickets (before ++ after) ++
          tickets books.released) := List.perm_append_singleton _ _
      _ = entry.ticket :: (tickets books.outbound ++ tickets before ++
          (tickets after ++ tickets books.released)) := by simp [tickets]
      _ ~ tickets books.outbound ++ tickets before ++
          entry.ticket :: (tickets after ++ tickets books.released) := List.perm_middle.symm
      _ = tickets books.outbound ++ tickets (before ++ entry :: after) ++
          tickets books.released := by simp [tickets]
  case begun => exact core.begun
  case normal => exact core.normal
  case stopped =>
    intro other
    obtain ⟨none, empty⟩ := core.stopped other
    rw [empty] at found
    cases found
  case live => exact core.live
  case waits =>
    have shorter : (books.wait.eraseP fun entry => entry.seq = seq).Sublist books.wait :=
      List.eraseP_sublist
    exact (shorter.map DispatchEntry.ticket).trans core.waits
  case wire => exact core.wire
  case unlatched => exact core.unlatched
  case numbers => exact core.numbers

theorem complete_sound (currentTime : Int) (socket : Socket) (seq : UInt32)
    (core : Core (books server)) :
    Sound (books (completeDispatch currentTime socket seq server)) := by
  unfold completeDispatch
  dsimp only
  split
  · rename_i entry found
    exact start_sound currentTime socket (core_finished core found)
  · exact start_sound currentTime socket core

theorem complete_asking (currentTime : Int) (socket : Socket) (seq : UInt32)
    (server : Server Thread) :
    (completeDispatch currentTime socket seq server).asking = server.asking := by
  unfold completeDispatch
  dsimp only
  split <;> exact start_asking currentTime socket _

end Entries

end Mir.DispatchCycle
