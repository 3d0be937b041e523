import Mir.DispatchCycle

/-!
# What a client gets of its input

The runs of `Mir.DispatchCycle`, whatever the client sends and however the threads of the server
interleave. What is published fits what was published before, no entry is lost, and a cancelation
closes what it names. As the policy of the server never gives a fallback key, the table of the
fallback keys plays no part in this.
-/

namespace Mir.InputDelivery

open Mir.InputEvents Mir.InputStates Mir.DispatchCycle Mir.KeyedLists Mir.TransitionRuns
open scoped List

set_option autoImplicit false

section Fallbacks

/-! ## Keys that the client has not handled -/

/-- The policy has given no fallback key, so that there is none to be canceled. -/
def Settled : Question → Prop
  | .cancelFallback _ fallbackKeyCode => fallbackKeyCode = keyCodeUnknown
  | .unhandledKey _ fallbackKeyCode initialDown _ =>
      initialDown = true ∨ fallbackKeyCode = keyCodeUnknown

def Latched (fallbackKeys : List (Int32 × Int32)) : Prop :=
  ∀ pair ∈ fallbackKeys, pair.2 = keyCodeUnknown

variable {Thread : Type} {inputState : InputState}

theorem latched_remove (latched : Latched inputState.fallbackKeys) (keyCode : Int32) :
    Latched (removeFallbackKey inputState keyCode).fallbackKeys :=
  fun pair member => latched pair (List.mem_filter.mp member).1

theorem latched_set (latched : Latched inputState.fallbackKeys) (keyCode : Int32) :
    Latched (setFallbackKey inputState keyCode keyCodeUnknown).fallbackKeys := by
  intro pair member
  rcases List.mem_cons.mp member with rfl | old
  · rfl
  · exact latched pair (List.mem_filter.mp old).1

theorem latched_key {keyCode : Int32} (latched : Latched inputState.fallbackKeys)
    (present : getFallbackKey inputState keyCode ≠ -1) :
    getFallbackKey inputState keyCode = keyCodeUnknown := by
  unfold getFallbackKey at present ⊢
  cases found : inputState.fallbackKeys.lookup keyCode with
  | none =>
      rw [found] at present
      exact absurd rfl present
  | some value =>
      obtain ⟨before, after, split, -⟩ := List.lookup_eq_some_iff.mp found
      have member : (keyCode, value) ∈ inputState.fallbackKeys := by simp [split]
      exact latched _ member

/-- Two states that differ at most in their fallback keys. -/
def SameMementos (first second : InputState) : Prop :=
  first.keyMementos = second.keyMementos ∧ first.motionMementos = second.motionMementos

theorem before_policy (entry : DispatchEntry) (event : KeyEntry) (handled : Bool)
    (latched : Latched inputState.fallbackKeys) :
    let result := beforePolicy inputState entry event handled
    SameMementos result.1 inputState ∧ Latched result.1.fallbackKeys ∧
      ∀ question, result.2 = some question → Settled question := by
  unfold beforePolicy
  dsimp only
  generalize kept : (if event.action = .up then removeFallbackKey inputState event.keyCode
    else inputState) = state
  have mementos : SameMementos state inputState ∧ Latched state.fallbackKeys := by
    subst kept
    split
    · exact ⟨⟨rfl, rfl⟩, latched_remove latched event.keyCode⟩
    · exact ⟨⟨rfl, rfl⟩, latched⟩
  obtain ⟨same, kept⟩ := mementos
  split_ifs with fallback finished present idle
  · exact ⟨⟨rfl, rfl⟩, latched, fun _ asked => by cases asked⟩
  · refine ⟨same, kept, ?_⟩
    intro question asked
    cases asked
    exact latched_key latched present
  · exact ⟨same, kept, fun _ asked => by cases asked⟩
  · exact ⟨same, kept, fun _ asked => by cases asked⟩
  · refine ⟨same, kept, ?_⟩
    intro question asked
    cases asked
    by_cases initial : event.action = .down ∧ event.repeatCount = 0
    · exact Or.inl (decide_eq_true initial)
    · exact Or.inr (latched_key latched fun missing => idle ⟨missing, initial⟩)

theorem after_event (entry : DispatchEntry) (handled : Bool)
    (latched : Latched inputState.fallbackKeys) :
    let result := afterEvent inputState entry handled
    SameMementos result.1 inputState ∧ Latched result.1.fallbackKeys ∧
      ∀ question, result.2 = some question → Settled question := by
  unfold afterEvent
  split
  · exact before_policy entry _ handled latched
  · exact ⟨⟨rfl, rfl⟩, latched, fun _ asked => by cases asked⟩

/-- No fallback key is ever canceled: the answer of the policy only moves the table. -/
theorem after_policy (server : Server Thread) (currentTime : Int) (target : InputTarget)
    (socket : Socket) {question : Question} (settled : Settled question)
    (latched : Latched server.connection.inputState.fallbackKeys) :
    ∃ inputState, SameMementos inputState server.connection.inputState ∧
      Latched inputState.fallbackKeys ∧
      afterPolicy currentTime target socket server question = setInputState server inputState := by
  have unmoved : server = setInputState server server.connection.inputState := rfl
  cases question with
  | cancelFallback originalKeyCode fallbackKeyCode =>
      have none : ¬fallbackKeyCode ≠ keyCodeUnknown := not_not.mpr settled
      simp only [afterPolicy, if_neg none]
      exact ⟨removeFallbackKey server.connection.inputState originalKeyCode, ⟨rfl, rfl⟩,
        latched_remove latched originalKeyCode, rfl⟩
  | unhandledKey originalKeyCode fallbackKeyCode initialDown up =>
      simp only [afterPolicy]
      split
      · exact ⟨removeFallbackKey server.connection.inputState originalKeyCode, ⟨rfl, rfl⟩,
        latched_remove latched originalKeyCode, rfl⟩
      · cases initialDown with
        | true =>
            simp only [if_true, ne_eq, not_true, false_and, if_false]
            exact ⟨setFallbackKey server.connection.inputState originalKeyCode keyCodeUnknown,
              ⟨rfl, rfl⟩, latched_set latched originalKeyCode, rfl⟩
        | false =>
            have none : fallbackKeyCode = keyCodeUnknown := settled.resolve_left (by simp)
            simp only [none, Bool.false_eq_true, ne_eq, not_true, false_and, if_false]
            exact ⟨server.connection.inputState, ⟨rfl, rfl⟩, latched, unmoved⟩

theorem core_relatched {books : Books} (core : Core books)
    (same : SameMementos inputState books.inputState) (latched : Latched inputState.fallbackKeys) :
    Core { books with inputState := inputState } := by
  obtain ⟨keys, motions⟩ := same
  constructor
  case distinct => exact ⟨keys ▸ core.distinct.keys, motions ▸ core.distinct.gestures⟩
  case follows =>
    have unchanged : viewOf inputState = viewOf books.inputState :=
      view_same keys (congrArg _ motions)
    dsimp only
    rw [unchanged]
    exact core.follows
  case accounts => exact core.accounts
  case begun => exact core.begun
  case normal => exact core.normal
  case stopped => exact core.stopped
  case live => exact core.live
  case waits => exact core.waits
  case wire => exact core.wire
  case unlatched => exact latched
  case numbers => exact core.numbers

end Fallbacks

section Steps

/-! ## One step -/

variable {Thread : Type} {server : Server Thread}

/-- Every thread that asks the policy asks about a key without a fallback. -/
structure Steady (server : Server Thread) : Prop where
  sound : Sound (books server)
  settled : ∀ thread asking, server.asking thread = some asking → Settled asking.question

theorem finish_books (seq : UInt32) (handled : Bool) (server : Server Thread) :
    books (finishDispatchCycle seq handled server) = books server ∧
      (finishDispatchCycle seq handled server).asking = server.asking := by
  unfold finishDispatchCycle
  dsimp only
  split <;> exact ⟨rfl, rfl⟩

theorem receiving_books (messages : List InputMessage) (server : Server Thread) :
    books (receiving messages server) = books server ∧
      (receiving messages server).asking = server.asking := by
  induction messages generalizing server with
  | nil => exact ⟨rfl, rfl⟩
  | cons message rest ih =>
      cases message with
      | finished seq handled =>
          obtain ⟨noted, asking⟩ := finish_books seq handled server
          obtain ⟨later, still⟩ := ih (finishDispatchCycle seq handled server)
          exact ⟨later.trans noted, still.trans asking⟩
      | key body => exact ⟨rfl, rfl⟩
      | motion body => exact ⟨rfl, rfl⟩

theorem prepare_asking (currentTime : Int) (event : EventEntry) (target : InputTarget)
    (socket : Socket) (server : Server Thread) :
    (prepareDispatchCycle currentTime event target socket server).asking = server.asking := by
  rcases prepare_cases currentTime event target socket server with
    same | ⟨queued, queues, -, started | ⟨stayed, -⟩⟩
  · rw [same]
  · rw [started, start_asking]
    exact queues.asking
  · rw [stayed]
    exact queues.asking

theorem cancel_asking (currentTime : Int) (options : CancelationOptions) (target : InputTarget)
    (socket : Socket) (server : Server Thread) :
    (synthesizeCancelationEventsForConnection currentTime options target socket server).asking =
      server.asking := by
  rcases cancel_cases currentTime options target socket server with
    same | ⟨queued, queues, -, started⟩
  · rw [same]
  · rw [started, start_asking]
    exact queues.asking

/-- A thread that begins with a finished signal has its answer, or asks about a key that has no
fallback. -/
theorem begin_steady [DecidableEq Thread] (thread : Thread) (currentTime : Int) (socket : Socket)
    (seq : UInt32) (handled : Bool) (steady : Steady server) :
    Steady (beginFinished thread currentTime socket seq handled server) := by
  have core := steady.sound.toCore
  unfold beginFinished
  split
  · exact steady
  · rename_i entry found
    obtain ⟨same, latched, settled⟩ := after_event entry handled core.unlatched
    have relatched := core_relatched core same latched
    dsimp only
    split
    · refine ⟨complete_sound currentTime socket seq relatched, ?_⟩
      rw [complete_asking]
      exact steady.settled
    · rename_i question asked
      refine ⟨⟨relatched, steady.sound.going⟩, ?_⟩
      intro other asking present
      dsimp only at present
      by_cases own : other = thread
      · rw [own, Function.update_self] at present
        cases present
        exact settled question asked
      · rw [Function.update_of_ne own] at present
        exact steady.settled other asking present

theorem answered_steady [DecidableEq Thread] {thread : Thread} {currentTime : Int}
    {target : InputTarget} {socket : Socket} {next : Server Thread} (steady : Steady server)
    (stepped : answered thread currentTime target socket server = some next) : Steady next := by
  unfold answered at stepped
  split at stepped
  · cases stepped
  · rename_i asking present
    cases stepped
    obtain ⟨inputState, same, latched, after⟩ := after_policy
      { server with asking := Function.update server.asking thread none } currentTime target socket
      (steady.settled thread asking present) steady.sound.unlatched
    rw [after]
    refine ⟨complete_sound currentTime socket asking.seq
      (core_relatched steady.sound.toCore same latched), ?_⟩
    rw [complete_asking]
    intro other question asked
    by_cases own : other = thread
    · rw [own] at asked
      exact absurd asked (by simp [setInputState])
    · have kept : server.asking other = some question := by
        simpa [setInputState, Function.update_of_ne own] using asked
      exact steady.settled other question kept

theorem abort_status (notify : Bool) (server : Server Thread) :
    (abortBrokenDispatchCycle notify server).connection.status ≠ .normal := by
  unfold abortBrokenDispatchCycle
  dsimp only
  split
  · exact Status.noConfusion
  · assumption

theorem abort_asking (notify : Bool) (server : Server Thread) :
    (abortBrokenDispatchCycle notify server).asking = server.asking := by
  unfold abortBrokenDispatchCycle drain
  dsimp only
  split <;> rfl

theorem sound_unregistered {books : Books} (sound : Sound books)
    (stopped : books.status ≠ .normal) :
    Sound { books with registered := false } where
  distinct := sound.distinct
  follows := sound.follows
  accounts := sound.accounts
  begun := sound.begun
  normal := fun normal => absurd normal stopped
  stopped := sound.stopped
  live := fun registered => absurd registered Bool.false_ne_true
  waits := sound.waits
  wire := sound.wire
  unlatched := sound.unlatched
  numbers := sound.numbers
  going := sound.going

theorem unregister_books (notify : Bool) (server : Server Thread) :
    books (abortBrokenDispatchCycle notify { server with registered := false }) =
      { books (abortBrokenDispatchCycle notify server) with registered := false } := by
  unfold abortBrokenDispatchCycle
  dsimp only [drain]
  split <;> rfl

theorem sound_zombie {books : Books} (sound : Sound books) (left : books.registered = false) :
    Sound { books with status := .zombie } := by
  have other : books.status ≠ .normal := by
    intro normal
    rw [(sound.normal normal).1] at left
    cases left
  refine ⟨?_, fun waiting => absurd (sound.stopped other).1 waiting⟩
  constructor
  case distinct => exact sound.distinct
  case follows => exact sound.follows
  case accounts => exact sound.accounts
  case begun => exact sound.begun
  case normal => exact Status.noConfusion
  case stopped => exact fun _ => sound.stopped other
  case live => exact fun registered => absurd (left.symm.trans registered) Bool.false_ne_true
  case waits => exact sound.waits
  case wire => exact sound.wire
  case unlatched => exact sound.unlatched
  case numbers => exact sound.numbers

theorem sound_read {books : Books} (sound : Sound books) (count : Nat) :
    Sound { books with toClient := books.toClient.drop count } where
  distinct := sound.distinct
  follows := sound.follows
  accounts := sound.accounts
  begun := sound.begun
  normal := sound.normal
  stopped := sound.stopped
  live := sound.live
  waits := sound.waits
  wire := (List.drop_suffix count books.toClient).trans sound.wire
  unlatched := sound.unlatched
  numbers := sound.numbers
  going := sound.going

theorem step_steady [DecidableEq Thread] {event : Event Thread} {next : Server Thread}
    (steady : Steady server) (stepped : step server event = some next) : Steady next := by
  cases event with
  | dispatch currentTime event target socket =>
      obtain ⟨-, taken⟩ := Option.ite_none_right_eq_some.mp stepped
      cases taken
      refine ⟨prepare_sound currentTime event target socket steady.sound, ?_⟩
      rw [prepare_asking]
      exact steady.settled
  | cancel currentTime options target socket =>
      obtain ⟨registered, taken⟩ := Option.ite_none_right_eq_some.mp stepped
      cases taken
      refine ⟨cancel_sound currentTime options target socket steady.sound
        (steady.sound.live registered), ?_⟩
      rw [cancel_asking]
      exact steady.settled
  | numbered =>
      cases stepped
      have later := Nat.le_of_lt (next_seq_grows server.sNextSeq)
      exact ⟨⟨core_numbered steady.sound.toCore later, steady.sound.going⟩, steady.settled⟩
  | receive =>
      obtain ⟨-, taken⟩ := Option.ite_none_right_eq_some.mp stepped
      cases taken
      obtain ⟨same, asking⟩ := receiving_books server.toServer server
      exact ⟨same ▸ steady.sound, asking ▸ steady.settled⟩
  | runCommand thread currentTime socket =>
      obtain ⟨-, ran⟩ := Option.ite_none_right_eq_some.mp stepped
      unfold runCommand at ran
      split at ran
      · cases ran
      · cases ran
        exact ⟨steady.sound, steady.settled⟩
      · cases ran
        exact begin_steady thread currentTime socket _ _ ⟨steady.sound, steady.settled⟩
  | answered thread currentTime target socket => exact answered_steady steady stepped
  | unregister notify =>
      obtain ⟨-, taken⟩ := Option.ite_none_right_eq_some.mp stepped
      cases taken
      refine ⟨?_, ?_⟩
      · rw [unregister_books]
        exact sound_unregistered (abort_sound notify steady.sound.toCore)
          (abort_status notify server)
      · rw [abort_asking]
        exact steady.settled
  | zombie =>
      obtain ⟨left, taken⟩ := Option.ite_none_left_eq_some.mp stepped
      cases taken
      exact ⟨sound_zombie steady.sound (Bool.eq_false_of_not_eq_true left), steady.settled⟩
  | clientReads count =>
      obtain ⟨-, taken⟩ := Option.ite_none_right_eq_some.mp stepped
      cases taken
      exact ⟨sound_read steady.sound count, steady.settled⟩
  | clientSends message =>
      cases stepped
      exact ⟨steady.sound, steady.settled⟩

theorem run_steady [DecidableEq Thread] {sNextSeq : Nat} {events : List (Event Thread)}
    {finish : Server Thread} (ran : run step (registering sNextSeq) events = some finish) :
    Steady finish := by
  apply run_invariant Steady _ _ ran
  · exact ⟨registering_sound sNextSeq, fun _ _ asked => by cases asked⟩
  · exact fun _ _ _ steady stepped => step_steady steady stepped

end Steps

section Cancelation

/-! ## What a cancelation closes -/

variable {Thread : Type} {server : Server Thread}

/-- What the options leave. -/
def uncanceled (options : CancelationOptions) (state : InputState) : InputState :=
  { state with
    keyMementos := state.keyMementos.filter fun memento => !shouldCancelKey options memento
    motionMementos := state.motionMementos.filter fun memento =>
      !shouldCancelMotion options memento }

theorem enqueue_tracked {event : EventEntry} {target : InputTarget} {mode : DispatchMode}
    {next : InputState} (targeted : target.flags &&& modeFlag mode ≠ 0)
    (tracked : ∀ flags, track server.connection.inputState flags
      (resolve server.connection.inputState mode event) = (true, next)) :
    (enqueueDispatchEntry event target mode server).connection.inputState = next := by
  simp only [enqueueDispatchEntry, if_neg targeted, newDispatchEntry, tracked, if_true]

theorem cancel_keys (currentTime : Int) (target : InputTarget) (mementos : List KeyMemento)
    (targeted : target.flags &&& modeFlag .asIs ≠ 0)
    (distinct : Distinct server.connection.inputState) :
    let next := (mementos.map fun memento =>
      EventEntry.key (keyCancelation currentTime memento)).foldl
        (fun server event => enqueueDispatchEntry event target .asIs server) server
    Distinct next.connection.inputState ∧
      next.connection.inputState.keyMementos = server.connection.inputState.keyMementos.filter
        (avoids KeyMemento.id (mementos.map KeyMemento.id)) ∧
      next.connection.inputState.motionMementos =
        server.connection.inputState.motionMementos := by
  induction mementos generalizing server with
  | nil => exact ⟨distinct, (List.filter_eq_self.mpr fun _ _ => rfl).symm, rfl⟩
  | cons memento rest ih =>
      have tracked := enqueue_tracked targeted fun flags =>
        track_key_cancelation currentTime memento flags distinct
      have removed := remove_fallbacks_mementos server.connection.inputState
        (keyCancelation currentTime memento)
      obtain ⟨after, keys, motions⟩ := ih (tracked ▸ without_key_distinct
        (remove_fallbacks_distinct distinct _) memento.id)
      rw [tracked] at keys motions
      refine ⟨after, keys.trans ?_, motions.trans removed.2⟩
      rw [withoutKey, removed.1]
      exact filter_others KeyMemento.id memento.id (rest.map KeyMemento.id)

theorem cancel_motions (currentTime : Int) (target : InputTarget) (mementos : List MotionMemento)
    (targeted : target.flags &&& modeFlag .asIs ≠ 0)
    (distinct : Distinct server.connection.inputState)
    (apart : (mementos.map MotionMemento.gesture).Nodup)
    (opened : ∀ gesture ∈ mementos.map MotionMemento.gesture,
      gesture ∈ server.connection.inputState.motionMementos.map MotionMemento.gesture) :
    let next := (mementos.map fun memento =>
      EventEntry.motion (motionCancelation currentTime memento)).foldl
        (fun server event => enqueueDispatchEntry event target .asIs server) server
    next.connection.inputState.keyMementos = server.connection.inputState.keyMementos ∧
      next.connection.inputState.motionMementos =
        server.connection.inputState.motionMementos.filter
          (avoids MotionMemento.gesture (mementos.map MotionMemento.gesture)) := by
  induction mementos generalizing server with
  | nil => exact ⟨rfl, (List.filter_eq_self.mpr fun _ _ => rfl).symm⟩
  | cons memento rest ih =>
      obtain ⟨fresh, later⟩ := List.nodup_cons.mp apart
      have tracked := enqueue_tracked targeted fun flags =>
        track_motion_cancelation currentTime memento flags distinct (opened _ List.mem_cons_self)
      have still : ∀ gesture ∈ rest.map MotionMemento.gesture,
          gesture ∈ (withoutGesture server.connection.inputState
            memento.gesture).motionMementos.map MotionMemento.gesture := by
        intro gesture member
        apply (mem_filter_key MotionMemento.gesture).mpr
        exact ⟨fun same => fresh (same ▸ member), opened _ (List.mem_cons_of_mem _ member)⟩
      obtain ⟨keys, motions⟩ := ih (tracked ▸ without_gesture_distinct distinct memento.gesture)
        later (by rw [tracked]; exact still)
      rw [tracked] at keys motions
      refine ⟨keys, motions.trans ?_⟩
      exact filter_others MotionMemento.gesture memento.gesture (rest.map MotionMemento.gesture)

theorem start_input_state (currentTime : Int) (socket : Socket) (server : Server Thread) :
    (startDispatchCycle currentTime socket server).connection.inputState =
      server.connection.inputState := by
  unfold startDispatchCycle abortBrokenDispatchCycle drain
  dsimp only
  repeat' split
  all_goals rfl

theorem cancel_mementos (currentTime : Int) (options : CancelationOptions) (target : InputTarget)
    (socket : Socket) (distinct : Distinct server.connection.inputState)
    (unbroken : server.connection.status ≠ .broken) :
    SameMementos
      (synthesizeCancelationEventsForConnection currentTime options target socket
        server).connection.inputState
      (uncanceled options server.connection.inputState) := by
  have targeted : modeFlag .asIs &&& modeFlag .asIs ≠ 0 := by decide
  have looped : ∀ next, next = (synthesizeCancelationEvents currentTime options
      server.connection.inputState).foldl (fun server event =>
        enqueueDispatchEntry event { target with flags := modeFlag .asIs } .asIs server) server →
      SameMementos next.connection.inputState
        (uncanceled options server.connection.inputState) := by
    rintro next rfl
    rw [synthesizeCancelationEvents, List.foldl_append]
    obtain ⟨after, keys, motions⟩ := cancel_keys currentTime { target with flags := modeFlag .asIs }
      (server.connection.inputState.keyMementos.filter (shouldCancelKey options)) targeted distinct
    have listed : ∀ gesture ∈ (server.connection.inputState.motionMementos.filter
        (shouldCancelMotion options)).map MotionMemento.gesture,
        gesture ∈ server.connection.inputState.motionMementos.map MotionMemento.gesture :=
      fun _ member => (List.filter_sublist.map MotionMemento.gesture).subset member
    obtain ⟨still, gestures⟩ := cancel_motions currentTime
      { target with flags := modeFlag .asIs }
      (server.connection.inputState.motionMementos.filter (shouldCancelMotion options)) targeted
      after (nodup_filter_key MotionMemento.gesture distinct.gestures) (motions ▸ listed)
    constructor
    · exact still.trans (keys.trans (filter_picked KeyMemento.id distinct.keys))
    · rw [motions] at gestures
      exact gestures.trans (filter_picked MotionMemento.gesture distinct.gestures)
  unfold synthesizeCancelationEventsForConnection
  rw [if_neg unbroken]
  dsimp only
  split
  · rename_i none
    apply looped
    rw [List.isEmpty_iff.mp none]
    rfl
  · rw [start_input_state]
    exact looped _ rfl

end Cancelation

section Runs

/-! ## Whole runs -/

variable {Thread : Type} [DecidableEq Thread] {sNextSeq : Nat} {events : List (Event Thread)}
variable {finish : Server Thread}

def stream (entries : List DispatchEntry) : List Resolved := entries.map DispatchEntry.event

theorem stream_tickets (entries : List DispatchEntry) :
    stream entries = (tickets entries).map Prod.snd := by
  rw [stream, tickets, List.map_map]
  rfl

theorem seq_tickets (entries : List DispatchEntry) :
    entries.map DispatchEntry.seq = (tickets entries).map Prod.fst := by
  rw [tickets, List.map_map]
  rfl

theorem enqueued_apart {books : Books} (core : Core books)
    (bounded : books.sNextSeq ≤ UInt32.size) :
    (books.enqueued.map DispatchEntry.seq).Nodup := by
  have sorted := (core.numbers bounded).1
  rw [List.pairwise_map] at sorted
  rw [List.Nodup, List.pairwise_map]
  exact sorted.imp fun smaller same => Nat.ne_of_lt smaller (congrArg UInt32.toNat same)

/-- While the connection works, nothing that is queued is missing from what is published and what
is to be. -/
theorem normal_stream {books : Books} (core : Core books) (normal : books.status = .normal) :
    stream books.published ++ stream books.outbound = stream books.enqueued := by
  simp only [stream_tickets]
  rw [← List.map_append, (core.normal normal).2]

def backKey (action : KeyAction) (eventTime : Int) : KeyEntry where
  eventTime := eventTime
  deviceId := 1
  source := 0x101
  policyFlags := 0
  action := action
  flags := 0
  keyCode := 4
  scanCode := 158
  metaState := 0
  repeatCount := 0
  downTime := 10

def foreground : InputTarget := ⟨flagForeground ||| modeFlag .asIs, 0, 0, 1⟩

/-- The client has been told of the key, and its pipe is full when the key goes up and down. -/
def heldKey : List (Event Unit) :=
  [.dispatch 10 (.key (backKey .down 10)) foreground ⟨1, .wouldBlock⟩,
    .dispatch 20 (.key (backKey .up 20)) foreground ⟨0, .wouldBlock⟩,
    .dispatch 30 (.key (backKey .down 30)) foreground ⟨0, .wouldBlock⟩]

theorem held_key_runs : ∃ finish, run step (registering 1) heldKey = some finish := by
  apply Option.isSome_iff_exists.mp
  decide +kernel

/-- No entry is lost and none is taken twice, and as long as the counter has not wrapped no two
have the same number. -/
theorem entries_accounted_for (ran : run step (registering sNextSeq) events = some finish) :
    let kept := finish.connection.outboundQueue ++ finish.connection.waitQueue ++ finish.released
    tickets kept ~ tickets finish.enqueued ∧
      tickets finish.published <+: tickets finish.enqueued ∧
      (finish.sNextSeq ≤ UInt32.size → (kept.map DispatchEntry.seq).Nodup) := by
  intro kept
  have core := (run_steady ran).sound.toCore
  have accounts : tickets kept ~ tickets finish.enqueued := by
    have places : tickets kept = tickets finish.connection.outboundQueue ++
        tickets finish.connection.waitQueue ++ tickets finish.released := by
      simp only [kept, tickets_append]
    rw [places]
    exact core.accounts
  refine ⟨accounts, core.begun, fun bounded => ?_⟩
  have apart := enqueued_apart core bounded
  rw [seq_tickets] at apart ⊢
  exact (accounts.map Prod.fst).nodup_iff.mpr apart

theorem held_key_accounted : ∃ finish, run step (registering 1) heldKey = some finish ∧
    let kept := finish.connection.outboundQueue ++ finish.connection.waitQueue ++ finish.released
    tickets kept ~ tickets finish.enqueued ∧
      tickets finish.published <+: tickets finish.enqueued ∧
      (finish.sNextSeq ≤ UInt32.size → (kept.map DispatchEntry.seq).Nodup) := by
  obtain ⟨finish, ran⟩ := held_key_runs
  exact ⟨finish, ran, entries_accounted_for ran⟩

theorem uncanceled_all (state : InputState) :
    viewOf (uncanceled ⟨.allEvents, -1, -1⟩ state) = View.empty := by
  simp [viewOf, uncanceled, shouldCancelKey, shouldCancelMotion, View.empty]

/-- A cancelation closes in the stream of the client what the options name and leaves the rest
open. -/
theorem cancelation_closes {currentTime : Int} {options : CancelationOptions}
    {target : InputTarget} {socket : Socket} {next : Server Thread}
    (ran : run step (registering sNextSeq) events = some finish)
    (unbroken : finish.connection.status ≠ .broken)
    (canceled : step finish (.cancel currentTime options target socket) = some next) :
    run View.follow View.empty (stream next.enqueued) =
        some (viewOf (uncanceled options finish.connection.inputState)) ∧
      (next.connection.status = .normal →
        stream next.published ++ stream next.connection.outboundQueue = stream next.enqueued) ∧
      (options = ⟨.allEvents, -1, -1⟩ →
        run View.follow View.empty (stream next.enqueued) = some View.empty) := by
  have before := run_steady ran
  have after := (step_steady before canceled).sound.toCore
  obtain ⟨-, taken⟩ := Option.ite_none_right_eq_some.mp canceled
  cases taken
  obtain ⟨keys, motions⟩ := cancel_mementos currentTime options target socket
    before.sound.distinct unbroken
  have followed : run View.follow View.empty (stream (synthesizeCancelationEventsForConnection
      currentTime options target socket finish).enqueued) =
        some (viewOf (uncanceled options finish.connection.inputState)) := by
    have view := view_same keys (congrArg (List.map MotionMemento.gesture) motions)
    rw [← view]
    exact after.follows
  refine ⟨followed, normal_stream after, ?_⟩
  intro all
  rw [followed, all, uncanceled_all]

/-- The window loses the focus while the key is down. -/
theorem held_key_canceled : ∃ finish next, run step (registering 1) heldKey = some finish ∧
    finish.connection.status ≠ .broken ∧
    step finish (.cancel 40 ⟨.allEvents, -1, -1⟩ foreground ⟨4, .wouldBlock⟩) = some next ∧
    run View.follow View.empty (stream next.enqueued) = some View.empty := by
  have state : (run step (registering 1) heldKey).map (fun finish =>
      (finish.connection.status, finish.registered)) = some (.normal, true) := by
    decide +kernel
  obtain ⟨finish, ran, facts⟩ := Option.map_eq_some_iff.mp state
  injection facts with normal registered
  have unbroken : finish.connection.status ≠ .broken := by
    rw [normal]
    exact Status.noConfusion
  exact ⟨finish, _, ran, unbroken, if_pos registered,
    (cancelation_closes ran unbroken (if_pos registered)).2.2 rfl⟩

end Runs

end Mir.InputDelivery
