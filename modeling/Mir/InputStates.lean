import Mathlib.Data.Finset.Basic
import Mathlib.Data.List.Nodup
import Mir.InputEvents
import Mir.KeyedLists

/-!
# What a connection remembers of its input

`InputDispatcher::InputState`: a memento for each key that is down and for each pointer device
that is down or hovers. The abstract side is a `View`, the state of a reader that follows the
stream of events and refuses one that does not fit. Every tracked event moves the mementos as the
reader moves, so that the cancelation events made of the mementos close what is open in the
stream and nothing else.
-/

namespace Mir.InputStates

open Mir.InputEvents Mir.KeyedLists

set_option autoImplicit false

structure KeyId where
  deviceId : Int32
  source : UInt32
  keyCode : Int32
  scanCode : Int32
  deriving DecidableEq, Repr

structure SourceId where
  deviceId : Int32
  source : UInt32
  deriving DecidableEq, Repr

def keyOf (entry : KeyEntry) : KeyId :=
  ⟨entry.deviceId, entry.source, entry.keyCode, entry.scanCode⟩

def sourceOf (entry : MotionEntry) : SourceId := ⟨entry.deviceId, entry.source⟩

structure KeyMemento where
  deviceId : Int32
  source : UInt32
  keyCode : Int32
  scanCode : Int32
  metaState : Int32
  flags : Int32
  downTime : Int
  policyFlags : UInt32
  deriving DecidableEq, Repr

structure MotionMemento where
  deviceId : Int32
  source : UInt32
  flags : Int32
  xPrecision : Float32
  yPrecision : Float32
  downTime : Int
  pointers : List Pointer
  hovering : Bool
  policyFlags : UInt32
  deriving Repr

def KeyMemento.id (memento : KeyMemento) : KeyId :=
  ⟨memento.deviceId, memento.source, memento.keyCode, memento.scanCode⟩

/-- The source, and whether it hovers. -/
def MotionMemento.gesture (memento : MotionMemento) : SourceId × Bool :=
  (⟨memento.deviceId, memento.source⟩, memento.hovering)

/-- `fallbackKeys` maps the key code of an unhandled key to that of its fallback. -/
structure InputState where
  keyMementos : List KeyMemento
  motionMementos : List MotionMemento
  fallbackKeys : List (Int32 × Int32)
  deriving Repr

def InputState.new : InputState := ⟨[], [], []⟩

def isHovering (state : InputState) (source : SourceId) : Bool :=
  state.motionMementos.any fun memento => memento.gesture = (source, true)

def findKeyMemento (state : InputState) (entry : KeyEntry) : Option Nat :=
  state.keyMementos.findIdx? fun memento => memento.id = keyOf entry

def findMotionMemento (state : InputState) (entry : MotionEntry) (hovering : Bool) :
    Option Nat :=
  state.motionMementos.findIdx? fun memento => memento.gesture = (sourceOf entry, hovering)

def newKeyMemento (entry : KeyEntry) (flags : Int32) : KeyMemento where
  deviceId := entry.deviceId
  source := entry.source
  keyCode := entry.keyCode
  scanCode := entry.scanCode
  metaState := entry.metaState
  flags := flags
  downTime := entry.downTime
  policyFlags := entry.policyFlags

def newMotionMemento (entry : MotionEntry) (flags : Int32) (hovering : Bool) : MotionMemento where
  deviceId := entry.deviceId
  source := entry.source
  flags := flags
  xPrecision := entry.xPrecision
  yPrecision := entry.yPrecision
  downTime := entry.downTime
  pointers := entry.pointers
  hovering := hovering
  policyFlags := entry.policyFlags

def addKeyMemento (state : InputState) (entry : KeyEntry) (flags : Int32) : InputState :=
  { state with keyMementos := state.keyMementos ++ [newKeyMemento entry flags] }

def addMotionMemento (state : InputState) (entry : MotionEntry) (flags : Int32)
    (hovering : Bool) : InputState :=
  { state with
    motionMementos := state.motionMementos ++ [newMotionMemento entry flags hovering] }

def removeKeyAt (state : InputState) (index : Nat) : InputState :=
  { state with keyMementos := state.keyMementos.eraseIdx index }

def removeMotionAt (state : InputState) (index : Nat) : InputState :=
  { state with motionMementos := state.motionMementos.eraseIdx index }

def setPointers (entry : MotionEntry) (memento : MotionMemento) : MotionMemento :=
  { memento with pointers := entry.pointers }

/-- The fallback keys of which the key that goes up is the fallback. -/
def removeFallbacks (state : InputState) (entry : KeyEntry) : InputState :=
  if entry.flags &&& flagFallback ≠ 0 then
    { state with fallbackKeys := state.fallbackKeys.filter fun pair => pair.2 ≠ entry.keyCode }
  else state

/-- The result says if the event is to be delivered. -/
def trackKey (state : InputState) (entry : KeyEntry) (action : KeyAction) (flags : Int32) :
    Bool × InputState :=
  match action with
  | .up =>
      let state := removeFallbacks state entry
      match findKeyMemento state entry with
      | some index => (true, removeKeyAt state index)
      -- An up without its down is let through, for popups that a held key has opened.
      | none => (true, state)
  | .down =>
      match findKeyMemento state entry with
      | some index => (true, addKeyMemento (removeKeyAt state index) entry flags)
      | none => (true, addKeyMemento state entry flags)

/-- Joysticks and trackballs move without a down. -/
def movesFreely (source : UInt32) : Bool :=
  source &&& (sourceClassJoystick ||| sourceClassNavigation) ≠ 0

def trackMotion (state : InputState) (entry : MotionEntry) (action : Action) (flags : Int32) :
    Bool × InputState :=
  match action.masked with
  | .up | .cancel =>
      match findMotionMemento state entry false with
      | some index => (true, removeMotionAt state index)
      | none => (false, state)
  | .down =>
      match findMotionMemento state entry false with
      | some index => (true, addMotionMemento (removeMotionAt state index) entry flags false)
      | none => (true, addMotionMemento state entry flags false)
  | .pointerUp | .pointerDown | .move =>
      match findMotionMemento state entry false with
      | some index =>
          (true, { state with
            motionMementos := state.motionMementos.modify index (setPointers entry) })
      | none => (action.masked = .move ∧ movesFreely entry.source = true, state)
  | .hoverExit =>
      match findMotionMemento state entry true with
      | some index => (true, removeMotionAt state index)
      | none => (false, state)
  | .hoverEnter | .hoverMove =>
      match findMotionMemento state entry true with
      | some index => (true, addMotionMemento (removeMotionAt state index) entry flags true)
      | none => (true, addMotionMemento state entry flags true)
  | .outside | .scroll => (true, state)

/-! ## Cancelation -/

inductive CancelMode where
  | allEvents
  | pointerEvents
  | nonPointerEvents
  | fallbackEvents
  deriving DecidableEq, Repr

/-- A key code or a device of -1 stands for any. -/
structure CancelationOptions where
  mode : CancelMode
  keyCode : Int32
  deviceId : Int32
  deriving Repr

def isPointer (source : UInt32) : Bool := source &&& sourceClassPointer ≠ 0

def shouldCancelKey (options : CancelationOptions) (memento : KeyMemento) : Bool :=
  if options.keyCode ≠ -1 ∧ memento.keyCode ≠ options.keyCode then false
  else if options.deviceId ≠ -1 ∧ memento.deviceId ≠ options.deviceId then false
  else match options.mode with
    | .allEvents | .nonPointerEvents => true
    | .fallbackEvents => memento.flags &&& flagFallback ≠ 0
    | .pointerEvents => false

def shouldCancelMotion (options : CancelationOptions) (memento : MotionMemento) : Bool :=
  if options.deviceId ≠ -1 ∧ memento.deviceId ≠ options.deviceId then false
  else match options.mode with
    | .allEvents => true
    | .pointerEvents => isPointer memento.source
    | .nonPointerEvents => !isPointer memento.source
    | .fallbackEvents => false

def keyCancelation (currentTime : Int) (memento : KeyMemento) : KeyEntry where
  eventTime := currentTime
  deviceId := memento.deviceId
  source := memento.source
  policyFlags := memento.policyFlags
  action := .up
  flags := memento.flags ||| flagCanceled
  keyCode := memento.keyCode
  scanCode := memento.scanCode
  metaState := memento.metaState
  repeatCount := 0
  downTime := memento.downTime

def motionCancelation (currentTime : Int) (memento : MotionMemento) : MotionEntry where
  eventTime := currentTime
  deviceId := memento.deviceId
  source := memento.source
  policyFlags := memento.policyFlags
  action := if memento.hovering then MotionAction.hoverExit.plain else MotionAction.cancel.plain
  flags := memento.flags
  metaState := 0
  buttonState := 0
  edgeFlags := 0
  xPrecision := memento.xPrecision
  yPrecision := memento.yPrecision
  downTime := memento.downTime
  pointers := memento.pointers

def synthesizeCancelationEvents (currentTime : Int) (options : CancelationOptions)
    (state : InputState) : List EventEntry :=
  (state.keyMementos.filter (shouldCancelKey options)).map
      (fun memento => .key (keyCancelation currentTime memento)) ++
    (state.motionMementos.filter (shouldCancelMotion options)).map
      (fun memento => .motion (motionCancelation currentTime memento))

/-! ## Fallback keys -/

/-- -1 if there is none. -/
def getFallbackKey (state : InputState) (originalKeyCode : Int32) : Int32 :=
  (state.fallbackKeys.lookup originalKeyCode).getD (-1)

def setFallbackKey (state : InputState) (originalKeyCode fallbackKeyCode : Int32) : InputState :=
  { state with fallbackKeys := (originalKeyCode, fallbackKeyCode) ::
      state.fallbackKeys.filter fun pair => pair.1 ≠ originalKeyCode }

def removeFallbackKey (state : InputState) (originalKeyCode : Int32) : InputState :=
  { state with
    fallbackKeys := state.fallbackKeys.filter fun pair => pair.1 ≠ originalKeyCode }

/-! ## Dispatch modes -/

inductive DispatchMode where
  | asIs
  | outside
  | hoverEnter
  | hoverExit
  | slipperyExit
  | slipperyEnter
  deriving DecidableEq, Repr

/-- An event with the action that it is delivered with. -/
inductive Resolved where
  | key (entry : KeyEntry) (action : KeyAction)
  | motion (entry : MotionEntry) (action : Action)
  deriving Repr

def resolvedAction (state : InputState) (entry : MotionEntry) (mode : DispatchMode) : Action :=
  let action := match mode with
    | .outside => MotionAction.outside.plain
    | .hoverExit => MotionAction.hoverExit.plain
    | .hoverEnter => MotionAction.hoverEnter.plain
    | .slipperyExit => MotionAction.cancel.plain
    | .slipperyEnter => MotionAction.down.plain
    | .asIs => entry.action
  if action = MotionAction.hoverMove.plain ∧ isHovering state (sourceOf entry) = false then
    MotionAction.hoverEnter.plain
  else action

def resolve (state : InputState) (mode : DispatchMode) : EventEntry → Resolved
  | .key entry => .key entry entry.action
  | .motion entry => .motion entry (resolvedAction state entry mode)

def track (state : InputState) (flags : Int32) : Resolved → Bool × InputState
  | .key entry action => trackKey state entry action flags
  | .motion entry action => trackMotion state entry action flags

/-! ## The reader of the stream -/

/-- The keys that are down, and the sources that are down or hover. -/
structure View where
  keys : Finset KeyId
  gestures : Finset (SourceId × Bool)
  deriving DecidableEq

def View.empty : View := ⟨∅, ∅⟩

/-- What a reader makes of the next event, unless it does not fit. -/
def View.follow (view : View) : Resolved → Option View
  | .key entry .down => some { view with keys := insert (keyOf entry) view.keys }
  | .key entry .up => some { view with keys := view.keys.erase (keyOf entry) }
  | .motion entry action =>
      let touch := (sourceOf entry, false)
      let hover := (sourceOf entry, true)
      match action.masked with
      | .down => some { view with gestures := insert touch view.gestures }
      | .up | .cancel =>
          if touch ∈ view.gestures then
            some { view with gestures := view.gestures.erase touch }
          else none
      | .pointerUp | .pointerDown => if touch ∈ view.gestures then some view else none
      | .move => if touch ∈ view.gestures ∨ movesFreely entry.source then some view else none
      | .hoverEnter => some { view with gestures := insert hover view.gestures }
      | .hoverMove =>
          if hover ∈ view.gestures ∨ action.pointerIndex ≠ 0 then
            some { view with gestures := insert hover view.gestures }
          else none
      | .hoverExit =>
          if hover ∈ view.gestures then
            some { view with gestures := view.gestures.erase hover }
          else none
      | .outside | .scroll => some view

def viewOf (state : InputState) : View :=
  ⟨(state.keyMementos.map KeyMemento.id).toFinset,
    (state.motionMementos.map MotionMemento.gesture).toFinset⟩

/-- No key and no gesture has two mementos. -/
structure Distinct (state : InputState) : Prop where
  keys : (state.keyMementos.map KeyMemento.id).Nodup
  gestures : (state.motionMementos.map MotionMemento.gesture).Nodup

theorem new_distinct : Distinct InputState.new := ⟨List.nodup_nil, List.nodup_nil⟩

section Tracking

variable {state : InputState} {entry : MotionEntry} {flags : Int32} {hovering : Bool}

/-! ## One event -/

def withoutKey (state : InputState) (key : KeyId) : InputState :=
  { state with keyMementos := state.keyMementos.filter fun memento => memento.id ≠ key }

def withoutGesture (state : InputState) (gesture : SourceId × Bool) : InputState :=
  { state with
    motionMementos := state.motionMementos.filter fun memento => memento.gesture ≠ gesture }

theorem without_key_distinct (distinct : Distinct state) (key : KeyId) :
    Distinct (withoutKey state key) :=
  ⟨nodup_filter_key KeyMemento.id distinct.keys, distinct.gestures⟩

theorem without_gesture_distinct (distinct : Distinct state) (gesture : SourceId × Bool) :
    Distinct (withoutGesture state gesture) :=
  ⟨distinct.keys, nodup_filter_key MotionMemento.gesture distinct.gestures⟩

theorem view_without_key (key : KeyId) :
    viewOf (withoutKey state key) =
      { viewOf state with keys := (viewOf state).keys.erase key } := by
  have keys : (viewOf (withoutKey state key)).keys = (viewOf state).keys.erase key := by
    ext other
    simp only [viewOf, withoutKey, List.mem_toFinset, Finset.mem_erase, mem_filter_key]
  rw [← keys]
  rfl

theorem view_without_gesture (gesture : SourceId × Bool) :
    viewOf (withoutGesture state gesture) =
      { viewOf state with gestures := (viewOf state).gestures.erase gesture } := by
  have gestures : (viewOf (withoutGesture state gesture)).gestures =
      (viewOf state).gestures.erase gesture := by
    ext other
    simp only [viewOf, withoutGesture, List.mem_toFinset, Finset.mem_erase, mem_filter_key]
  rw [← gestures]
  rfl

theorem remove_fallbacks_mementos (state : InputState) (entry : KeyEntry) :
    (removeFallbacks state entry).keyMementos = state.keyMementos ∧
      (removeFallbacks state entry).motionMementos = state.motionMementos := by
  unfold removeFallbacks
  split <;> exact ⟨rfl, rfl⟩

theorem track_key_up {entry : KeyEntry} (distinct : Distinct state) :
    trackKey state entry .up flags =
      (true, withoutKey (removeFallbacks state entry) (keyOf entry)) := by
  have same := (remove_fallbacks_mementos state entry).1
  have keys : ((removeFallbacks state entry).keyMementos.map KeyMemento.id).Nodup := by
    rw [same]
    exact distinct.keys
  simp only [trackKey]
  split
  case h_1 index found => rw [removeKeyAt, erase_found KeyMemento.id keys found, withoutKey]
  case h_2 missing =>
    rw [withoutKey, filter_missing KeyMemento.id (missing_key KeyMemento.id missing)]

theorem track_key_down {entry : KeyEntry} (distinct : Distinct state) :
    trackKey state entry .down flags =
      (true, addKeyMemento (withoutKey state (keyOf entry)) entry flags) := by
  simp only [trackKey]
  split
  case h_1 index found =>
    rw [removeKeyAt, erase_found KeyMemento.id distinct.keys found, withoutKey]
  case h_2 missing =>
    rw [withoutKey, filter_missing KeyMemento.id (missing_key KeyMemento.id missing)]

theorem add_key_distinct {entry : KeyEntry} (distinct : Distinct state) :
    Distinct (addKeyMemento (withoutKey state (keyOf entry)) entry flags) := by
  have others := without_key_distinct distinct (keyOf entry)
  refine ⟨?_, distinct.gestures⟩
  have fresh : keyOf entry ∉ (withoutKey state (keyOf entry)).keyMementos.map KeyMemento.id :=
    fun member => ((mem_filter_key KeyMemento.id).mp member).1 rfl
  rw [addKeyMemento, List.map_append]
  exact others.keys.append (List.nodup_singleton _) (List.disjoint_singleton.mpr fresh)

theorem add_gesture_distinct (distinct : Distinct state) :
    Distinct (addMotionMemento (withoutGesture state (sourceOf entry, hovering)) entry flags
      hovering) := by
  have others := without_gesture_distinct distinct (sourceOf entry, hovering)
  refine ⟨distinct.keys, ?_⟩
  have fresh : (sourceOf entry, hovering) ∉
      (withoutGesture state (sourceOf entry, hovering)).motionMementos.map MotionMemento.gesture :=
    fun member => ((mem_filter_key MotionMemento.gesture).mp member).1 rfl
  rw [addMotionMemento, List.map_append]
  exact others.gestures.append (List.nodup_singleton _) (List.disjoint_singleton.mpr fresh)

theorem view_add_key {entry : KeyEntry} :
    viewOf (addKeyMemento (withoutKey state (keyOf entry)) entry flags) =
      { viewOf state with keys := insert (keyOf entry) (viewOf state).keys } := by
  have keys : (viewOf (addKeyMemento (withoutKey state (keyOf entry)) entry flags)).keys =
      insert (keyOf entry) (viewOf state).keys := by
    ext other
    have new : (newKeyMemento entry flags).id = keyOf entry := rfl
    simp only [viewOf, addKeyMemento, withoutKey, List.map_append, List.map_cons, List.map_nil, new,
      List.mem_toFinset, List.mem_append, mem_filter_key, List.mem_singleton, Finset.mem_insert]
    tauto
  rw [← keys]
  rfl

theorem view_add_gesture :
    viewOf (addMotionMemento (withoutGesture state (sourceOf entry, hovering)) entry flags
      hovering) =
      { viewOf state with
        gestures := insert (sourceOf entry, hovering) (viewOf state).gestures } := by
  have gestures : (viewOf (addMotionMemento (withoutGesture state (sourceOf entry, hovering)) entry
      flags hovering)).gestures =
        insert (sourceOf entry, hovering) (viewOf state).gestures := by
    ext other
    have new : (newMotionMemento entry flags hovering).gesture = (sourceOf entry, hovering) := rfl
    simp only [viewOf, addMotionMemento, withoutGesture, List.map_append, List.map_cons,
      List.map_nil, new, List.mem_toFinset, List.mem_append, mem_filter_key, List.mem_singleton,
      Finset.mem_insert]
    tauto
  rw [← gestures]
  rfl

theorem found_gesture {index : Nat} (distinct : Distinct state)
    (found : findMotionMemento state entry hovering = some index) :
    (sourceOf entry, hovering) ∈ (viewOf state).gestures ∧
      removeMotionAt state index = withoutGesture state (sourceOf entry, hovering) := by
  constructor
  · exact List.mem_toFinset.mpr (found_key MotionMemento.gesture found)
  · rw [removeMotionAt, erase_found MotionMemento.gesture distinct.gestures found, withoutGesture]

theorem missing_gesture (missing : findMotionMemento state entry hovering = none) :
    (sourceOf entry, hovering) ∉ (viewOf state).gestures ∧
      withoutGesture state (sourceOf entry, hovering) = state := by
  have absent := missing_key MotionMemento.gesture missing
  constructor
  · exact fun member => absent (List.mem_toFinset.mp member)
  · rw [withoutGesture, filter_missing MotionMemento.gesture absent]

theorem is_hovering_view {source : SourceId} :
    isHovering state source = true ↔ (source, true) ∈ (viewOf state).gestures := by
  simp [isHovering, viewOf]

theorem track_opens {action : Action} (distinct : Distinct state)
    (opens : action.masked = .down ∧ hovering = false ∨
      (action.masked = .hoverEnter ∨ action.masked = .hoverMove) ∧ hovering = true) :
    trackMotion state entry action flags =
      (true, addMotionMemento (withoutGesture state (sourceOf entry, hovering)) entry flags
        hovering) := by
  have tracked : trackMotion state entry action flags =
      match findMotionMemento state entry hovering with
      | some index => (true, addMotionMemento (removeMotionAt state index) entry flags hovering)
      | none => (true, addMotionMemento state entry flags hovering) := by
    rcases opens with ⟨down, rfl⟩ | ⟨hover | hover, rfl⟩
    · simp only [trackMotion, down]
    · simp only [trackMotion, hover]
    · simp only [trackMotion, hover]
  rw [tracked]
  cases found : findMotionMemento state entry hovering with
  | some index => simp only [(found_gesture distinct found).2]
  | none => simp only [(missing_gesture found).2]

theorem track_closes {action : Action} (distinct : Distinct state)
    (closes : (action.masked = .up ∨ action.masked = .cancel) ∧ hovering = false ∨
      action.masked = .hoverExit ∧ hovering = true) :
    trackMotion state entry action flags =
      if (sourceOf entry, hovering) ∈ (viewOf state).gestures then
        (true, withoutGesture state (sourceOf entry, hovering))
      else (false, state) := by
  have tracked : trackMotion state entry action flags =
      match findMotionMemento state entry hovering with
      | some index => (true, removeMotionAt state index)
      | none => (false, state) := by
    rcases closes with ⟨up | up, rfl⟩ | ⟨hover, rfl⟩
    · simp only [trackMotion, up]
    · simp only [trackMotion, up]
    · simp only [trackMotion, hover]
  rw [tracked]
  cases found : findMotionMemento state entry hovering with
  | some index =>
      obtain ⟨member, removed⟩ := found_gesture distinct found
      simp only [removed, if_pos member]
  | none => simp only [if_neg (missing_gesture found).1]

theorem track_moves (state : InputState) (entry : MotionEntry) (flags : Int32) {action : Action}
    (moves : action.masked = .move ∨ action.masked = .pointerUp ∨ action.masked = .pointerDown) :
    (trackMotion state entry action flags).1 =
        decide ((sourceOf entry, false) ∈ (viewOf state).gestures ∨
          action.masked = .move ∧ movesFreely entry.source = true) ∧
      (trackMotion state entry action flags).2.keyMementos = state.keyMementos ∧
      (trackMotion state entry action flags).2.motionMementos.map MotionMemento.gesture =
        state.motionMementos.map MotionMemento.gesture := by
  have tracked : trackMotion state entry action flags =
      match findMotionMemento state entry false with
      | some index =>
          (true, { state with
            motionMementos := state.motionMementos.modify index (setPointers entry) })
      | none => (decide (action.masked = .move ∧ movesFreely entry.source = true), state) := by
    rcases moves with move | up | down
    · simp only [trackMotion, move]
    · simp only [trackMotion, up]
    · simp only [trackMotion, down]
  rw [tracked]
  cases found : findMotionMemento state entry false with
  | some index =>
      have member := List.mem_toFinset.mpr (found_key MotionMemento.gesture found)
      refine ⟨(decide_eq_true (Or.inl member)).symm, rfl, ?_⟩
      exact map_modify_key MotionMemento.gesture fun _ => rfl
  | none =>
      have absent := (missing_gesture found).1
      refine ⟨?_, rfl, rfl⟩
      simp only [absent, false_or]

theorem view_same {other : InputState} (keys : other.keyMementos = state.keyMementos)
    (gestures : other.motionMementos.map MotionMemento.gesture =
      state.motionMementos.map MotionMemento.gesture) : viewOf other = viewOf state := by
  rw [viewOf, viewOf, keys, gestures]

/-- A plain hover move is tracked only for a source that hovers. -/
def Shown (state : InputState) (event : Resolved) : Prop :=
  ∀ entry, event = .motion entry MotionAction.hoverMove.plain →
    isHovering state (sourceOf entry) = true

theorem resolve_shown (state : InputState) (mode : DispatchMode) (event : EventEntry) :
    Shown state (resolve state mode event) := by
  intro entry moved
  cases event with
  | key other => cases moved
  | motion other =>
      injection moved with same moved
      subst same
      cases hovers : isHovering state (sourceOf other) with
      | true => rfl
      | false =>
          simp only [resolvedAction, hovers, and_true] at moved
          split_ifs at moved with kept
          · cases moved
          · exact absurd moved kept

theorem motion_follows {action : Action} (distinct : Distinct state)
    (shown : Shown state (.motion entry action)) :
    (viewOf state).follow (.motion entry action) =
      if (trackMotion state entry action flags).1 then
        some (viewOf (trackMotion state entry action flags).2)
      else none := by
  cases kind : action.masked with
  | down =>
      rw [track_opens distinct (Or.inl ⟨kind, rfl⟩), if_pos rfl, view_add_gesture]
      simp only [View.follow, kind]
  | hoverEnter =>
      rw [track_opens distinct (Or.inr ⟨Or.inl kind, rfl⟩), if_pos rfl, view_add_gesture]
      simp only [View.follow, kind]
  | hoverMove =>
      have fits : (sourceOf entry, true) ∈ (viewOf state).gestures ∨ action.pointerIndex ≠ 0 := by
        by_cases first : action.pointerIndex = 0
        · have plain : action = MotionAction.hoverMove.plain := by
            cases action
            cases kind
            cases first
            rfl
          exact Or.inl (is_hovering_view.mp (shown entry (plain ▸ rfl)))
        · exact Or.inr first
      rw [track_opens distinct (Or.inr ⟨Or.inr kind, rfl⟩), if_pos rfl, view_add_gesture]
      simp only [View.follow, kind, if_pos fits]
  | up | cancel =>
      rw [track_closes distinct (Or.inl ⟨by simp [kind], rfl⟩)]
      simp only [View.follow, kind]
      split
      · rw [if_pos rfl, view_without_gesture]
      · rfl
  | hoverExit =>
      rw [track_closes distinct (Or.inr ⟨kind, rfl⟩)]
      simp only [View.follow, kind]
      split
      · rw [if_pos rfl, view_without_gesture]
      · rfl
  | move =>
      obtain ⟨fits, keys, gestures⟩ := track_moves state entry flags (Or.inl kind)
      rw [view_same keys gestures, fits]
      simp [View.follow, kind]
  | pointerUp =>
      obtain ⟨fits, keys, gestures⟩ := track_moves state entry flags (Or.inr (Or.inl kind))
      rw [view_same keys gestures, fits]
      simp [View.follow, kind]
  | pointerDown =>
      obtain ⟨fits, keys, gestures⟩ := track_moves state entry flags (Or.inr (Or.inr kind))
      rw [view_same keys gestures, fits]
      simp [View.follow, kind]
  | outside | scroll => simp [View.follow, trackMotion, kind]

theorem view_remove_fallbacks (state : InputState) (entry : KeyEntry) :
    viewOf (removeFallbacks state entry) = viewOf state := by
  obtain ⟨keys, motions⟩ := remove_fallbacks_mementos state entry
  rw [viewOf, viewOf, keys, motions]

theorem remove_fallbacks_distinct (distinct : Distinct state) (entry : KeyEntry) :
    Distinct (removeFallbacks state entry) := by
  obtain ⟨keys, motions⟩ := remove_fallbacks_mementos state entry
  refine ⟨?_, ?_⟩
  · rw [keys]
    exact distinct.keys
  · rw [motions]
    exact distinct.gestures

/-- The mementos follow the stream: an event is delivered exactly if it fits, and then they stand
for what the reader has made of it. -/
theorem track_follows {event : Resolved} (distinct : Distinct state)
    (shown : Shown state event) :
    (viewOf state).follow event =
      if (track state flags event).1 then some (viewOf (track state flags event).2) else none := by
  cases event with
  | motion entry action => exact motion_follows distinct shown
  | key entry action =>
      cases action with
      | down =>
          rw [track, track_key_down distinct, if_pos rfl, view_add_key]
          rfl
      | up =>
          rw [track, track_key_up distinct, if_pos rfl, view_without_key, view_remove_fallbacks]
          rfl

theorem motion_distinct {action : Action} (distinct : Distinct state) :
    Distinct (trackMotion state entry action flags).2 := by
  cases kind : action.masked with
  | down =>
      rw [track_opens distinct (Or.inl ⟨kind, rfl⟩)]
      exact add_gesture_distinct distinct
  | hoverEnter =>
      rw [track_opens distinct (Or.inr ⟨Or.inl kind, rfl⟩)]
      exact add_gesture_distinct distinct
  | hoverMove =>
      rw [track_opens distinct (Or.inr ⟨Or.inr kind, rfl⟩)]
      exact add_gesture_distinct distinct
  | up | cancel =>
      rw [track_closes distinct (Or.inl ⟨by simp [kind], rfl⟩)]
      split
      · exact without_gesture_distinct distinct _
      · exact distinct
  | hoverExit =>
      rw [track_closes distinct (Or.inr ⟨kind, rfl⟩)]
      split
      · exact without_gesture_distinct distinct _
      · exact distinct
  | move =>
      obtain ⟨-, keys, gestures⟩ := track_moves state entry flags (Or.inl kind)
      exact ⟨keys ▸ distinct.keys, gestures ▸ distinct.gestures⟩
  | pointerUp =>
      obtain ⟨-, keys, gestures⟩ := track_moves state entry flags (Or.inr (Or.inl kind))
      exact ⟨keys ▸ distinct.keys, gestures ▸ distinct.gestures⟩
  | pointerDown =>
      obtain ⟨-, keys, gestures⟩ := track_moves state entry flags (Or.inr (Or.inr kind))
      exact ⟨keys ▸ distinct.keys, gestures ▸ distinct.gestures⟩
  | outside | scroll =>
      rw [trackMotion, kind]
      exact distinct

theorem track_distinct {event : Resolved} (distinct : Distinct state) :
    Distinct (track state flags event).2 := by
  cases event with
  | motion entry action => exact motion_distinct distinct
  | key entry action =>
      cases action with
      | down =>
          rw [track, track_key_down distinct]
          exact add_key_distinct distinct
      | up =>
          rw [track, track_key_up distinct]
          exact without_key_distinct (remove_fallbacks_distinct distinct entry) _

theorem track_delivered {next : InputState} {event : Resolved} (distinct : Distinct state)
    (shown : Shown state event) (tracked : track state flags event = (true, next)) :
    (viewOf state).follow event = some (viewOf next) ∧ Distinct next := by
  have follows : (viewOf state).follow event =
      if (track state flags event).1 then some (viewOf (track state flags event).2) else none :=
    track_follows distinct shown
  have after : Distinct (track state flags event).2 := track_distinct distinct
  rw [tracked] at follows after
  exact ⟨follows, after⟩

/-! ## Cancelation events -/

theorem track_key_cancelation (currentTime : Int) (memento : KeyMemento) (flags : Int32)
    (distinct : Distinct state) :
    let event := EventEntry.key (keyCancelation currentTime memento)
    track state flags (resolve state .asIs event) =
      (true, withoutKey (removeFallbacks state (keyCancelation currentTime memento))
        memento.id) := by
  intro event
  rw [resolve, keyCancelation, track, track_key_up distinct]
  rfl

theorem motion_cancelation_resolved {currentTime : Int} {memento : MotionMemento} :
    resolve state .asIs (.motion (motionCancelation currentTime memento)) =
      .motion (motionCancelation currentTime memento)
        (motionCancelation currentTime memento).action := by
  have other : (motionCancelation currentTime memento).action ≠ MotionAction.hoverMove.plain := by
    cases hovers : memento.hovering <;>
      simp [motionCancelation, hovers, MotionAction.plain]
  simp [resolve, resolvedAction, other]

theorem track_motion_cancelation (currentTime : Int) (memento : MotionMemento) (flags : Int32)
    (distinct : Distinct state)
    (going_on : memento.gesture ∈ state.motionMementos.map MotionMemento.gesture) :
    let event := EventEntry.motion (motionCancelation currentTime memento)
    track state flags (resolve state .asIs event) =
      (true, withoutGesture state memento.gesture) := by
  intro event
  have closes : trackMotion state (motionCancelation currentTime memento)
      (motionCancelation currentTime memento).action flags =
        if memento.gesture ∈ (viewOf state).gestures then
          (true, withoutGesture state memento.gesture)
        else (false, state) := by
    apply track_closes distinct
    cases hovers : memento.hovering <;> simp [motionCancelation, hovers, MotionAction.plain]
  have member : memento.gesture ∈ (viewOf state).gestures := List.mem_toFinset.mpr going_on
  rw [motion_cancelation_resolved, track, closes, if_pos member]

end Tracking

end Mir.InputStates
