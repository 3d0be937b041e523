import Mathlib.Data.Nat.Notation

/-!
# Input events

The entries of `InputDispatcher` and the messages of `InputTransport`. An action is split into the
code under `AMOTION_EVENT_ACTION_MASK` and the pointer index above it. Times are in nanoseconds.
-/

namespace Mir.InputEvents

set_option autoImplicit false

/-- What `validateKeyEvent` lets through. -/
inductive KeyAction where
  | down
  | up
  deriving DecidableEq, Repr

inductive MotionAction where
  | down
  | up
  | move
  | cancel
  | outside
  | pointerDown
  | pointerUp
  | hoverMove
  | scroll
  | hoverEnter
  | hoverExit
  deriving DecidableEq, Repr

structure Action where
  masked : MotionAction
  pointerIndex : Nat
  deriving DecidableEq, Repr

def MotionAction.plain (action : MotionAction) : Action := ⟨action, 0⟩

def flagCanceled : Int32 := 0x20
def flagFallback : Int32 := 0x400
def flagWindowIsObscured : Int32 := 0x1

def sourceClassPointer : UInt32 := 0x2
def sourceClassNavigation : UInt32 := 0x4
def sourceClassJoystick : UInt32 := 0x10

def maxPointers : Nat := 16
def maxAxes : Nat := 14

/-! ## Pointers -/

/-- `values` are those of the axes in `bits`, in the order of the axes. -/
structure PointerCoords where
  bits : UInt64
  values : List Float32
  deriving Repr

def popcount (bits : UInt64) : Nat :=
  (List.range 64).countP fun axis => bits >>> axis.toUInt64 &&& 1 == 1

def axisBit (axis : Fin 64) : UInt64 := 1 <<< axis.val.toUInt64

def axisX : Fin 64 := 0
def axisY : Fin 64 := 1
def axisTouchMajor : Fin 64 := 4
def axisTouchMinor : Fin 64 := 5
def axisToolMajor : Fin 64 := 6
def axisToolMinor : Fin 64 := 7

namespace PointerCoords

def clear (coords : PointerCoords) : PointerCoords := { coords with bits := 0, values := [] }

def index (coords : PointerCoords) (axis : Fin 64) : Nat :=
  popcount (coords.bits &&& (axisBit axis - 1))

def getAxisValue (coords : PointerCoords) (axis : Fin 64) : Float32 :=
  if coords.bits &&& axisBit axis = 0 then 0 else coords.values.getD (coords.index axis) 0

/-- An axis that finds no place is left out. -/
def setAxisValue (coords : PointerCoords) (axis : Fin 64) (value : Float32) : PointerCoords :=
  if coords.bits &&& axisBit axis ≠ 0 then
    { coords with values := coords.values.set (coords.index axis) value }
  else if value == 0 then coords
  else if maxAxes ≤ popcount coords.bits then coords
  else ⟨coords.bits ||| axisBit axis, coords.values.insertIdx (coords.index axis) value⟩

def scaleAxisValue (scaleFactor : Float32) (coords : PointerCoords) (axis : Fin 64) :
    PointerCoords :=
  let value := coords.getAxisValue axis
  if value != 0 then coords.setAxisValue axis (value * scaleFactor) else coords

def scale (coords : PointerCoords) (scaleFactor : Float32) : PointerCoords :=
  [axisX, axisY, axisTouchMajor, axisTouchMinor, axisToolMajor, axisToolMinor].foldl
    (scaleAxisValue scaleFactor) coords

end PointerCoords

structure PointerProperties where
  id : Int32
  toolType : Int32
  deriving DecidableEq, Repr

structure Pointer where
  properties : PointerProperties
  coords : PointerCoords
  deriving Repr

/-! ## Entries of the dispatcher -/

structure KeyEntry where
  eventTime : Int
  deviceId : Int32
  source : UInt32
  policyFlags : UInt32
  action : KeyAction
  flags : Int32
  keyCode : Int32
  scanCode : Int32
  metaState : Int32
  repeatCount : Int32
  downTime : Int
  deriving DecidableEq, Repr

structure MotionEntry where
  eventTime : Int
  deviceId : Int32
  source : UInt32
  policyFlags : UInt32
  action : Action
  flags : Int32
  metaState : Int32
  buttonState : Int32
  edgeFlags : Int32
  xPrecision : Float32
  yPrecision : Float32
  downTime : Int
  pointers : List Pointer
  deriving Repr

/-- The entries that are sent to a client. -/
inductive EventEntry where
  | key (entry : KeyEntry)
  | motion (entry : MotionEntry)
  deriving Repr

/-! ## Messages -/

namespace InputMessage

structure Key where
  seq : UInt32
  eventTime : Int
  deviceId : Int32
  source : UInt32
  action : KeyAction
  flags : Int32
  keyCode : Int32
  scanCode : Int32
  metaState : Int32
  repeatCount : Int32
  downTime : Int
  deriving DecidableEq, Repr

structure Motion where
  seq : UInt32
  eventTime : Int
  deviceId : Int32
  source : UInt32
  action : Action
  flags : Int32
  metaState : Int32
  buttonState : Int32
  edgeFlags : Int32
  downTime : Int
  xOffset : Float32
  yOffset : Float32
  xPrecision : Float32
  yPrecision : Float32
  pointers : List Pointer
  deriving Repr

end InputMessage

inductive InputMessage where
  | key (body : InputMessage.Key)
  | motion (body : InputMessage.Motion)
  | finished (seq : UInt32) (handled : Bool)
  deriving Repr

end Mir.InputEvents
