import Mir.DesktopSurfaces
import Mir.LockHistories

/-!
# The input focus in the dispatcher

`InputManager::set_input_focus_to` of the android build with the parts of `InputDispatcher`
that it sets: the registered channels, the windows and the focused application. A handle is
known by the number of calls that have made one before.
-/

namespace Mir.DispatcherFocus

open Mir.TransitionRuns Mir.LockHistories Mir.ShellSessions
open Mir.SessionFocus (StdException)
open Mir.DesktopSurfaces (SurfaceObject)

set_option autoImplicit false

structure InputApplicationHandle where
  handle : Nat
  session : SessionKey
  deriving DecidableEq

structure InputChannel where
  handle : Nat
  fd : Int32
  deriving DecidableEq

structure InputWindowHandle where
  inputApplicationHandle : InputApplicationHandle
  surface : SurfaceObject
  inputChannel : InputChannel
  deriving DecidableEq

/-- What the getters of a surface do when `updateInfo` calls them. Of the size and the name
only matters whether they throw. -/
structure Readings where
  size : Except StdException Unit
  name : Except StdException Unit

/-- A `SurfaceTarget`, as the constructor of the window handle and then the dispatcher
find it. -/
structure SurfaceTarget where
  surface : SurfaceObject
  serverInputFd : Except StdException Int32
  constructed : Readings
  updated : Readings

def updateInfo (readings : Readings) : Except StdException Unit :=
  readings.size.bind fun _ => readings.name

/-- The first `updateInfo` of a handle, which also makes the channel. -/
def firstInfo (target : SurfaceTarget) : Except StdException Int32 :=
  target.serverInputFd.bind fun fd => (updateInfo target.constructed).map fun _ => fd

def newWindowHandle (application : InputApplicationHandle) (target : SurfaceTarget) :
    Except StdException InputWindowHandle :=
  (firstInfo target).map fun fd =>
    ⟨application, target.surface, ⟨application.handle, fd⟩⟩

section Dispatcher

structure InputDispatcher where
  connectionsByFd : List InputChannel
  windowHandles : List InputWindowHandle
  focusedApplicationHandle : Option InputApplicationHandle

variable (dispatcher : InputDispatcher)

/-- `getConnectionIndexLocked`: the connection of the descriptor is one of this channel. -/
def isRegistered (channel : InputChannel) : Bool :=
  dispatcher.connectionsByFd.find? (fun connection => connection.fd = channel.fd) = some channel

def otherConnections (channel : InputChannel) : List InputChannel :=
  dispatcher.connectionsByFd.filter fun connection => connection.fd ≠ channel.fd

def registerInputChannel (channel : InputChannel) : InputDispatcher :=
  if isRegistered dispatcher channel then dispatcher
  else { dispatcher with connectionsByFd := channel :: otherConnections dispatcher channel }

def unregisterInputChannel (channel : InputChannel) : InputDispatcher :=
  if isRegistered dispatcher channel then
    { dispatcher with connectionsByFd := otherConnections dispatcher channel }
  else dispatcher

def setFocusedApplication (application : InputApplicationHandle) : InputDispatcher :=
  { dispatcher with focusedApplicationHandle := some application }

/-- The list is set before the windows in it are updated. -/
def setInputWindows (windows : List (InputWindowHandle × Readings)) :
    Except StdException Unit × InputDispatcher :=
  (windows.forM fun window => updateInfo window.2,
    { dispatcher with windowHandles := windows.map Prod.fst })

end Dispatcher

section Manager

/-- The input manager with its dispatcher, and the registrations made and undone so far. -/
structure InputManager where
  dispatcher : InputDispatcher
  focusedWindowHandle : Option InputWindowHandle
  focusedApplicationHandle : Option InputApplicationHandle
  registrations : List (LockCall InputChannel)
  made : Nat

def started : InputManager where
  dispatcher := ⟨[], [], none⟩
  focusedWindowHandle := none
  focusedApplicationHandle := none
  registrations := []
  made := 0

/-- The first block of `set_input_focus_to`. -/
def unfocus (manager : InputManager) : InputManager :=
  match manager.focusedWindowHandle with
  | some window =>
      { manager with
        dispatcher := unregisterInputChannel manager.dispatcher window.inputChannel
        registrations := manager.registrations ++ [.release window.inputChannel]
        focusedWindowHandle := none
        focusedApplicationHandle := none }
  | none => manager

/-- The rest of the block for a surface, once the window handle is there. -/
def focusWindow (manager : InputManager) (window : InputWindowHandle) : InputManager :=
  { manager with
    focusedWindowHandle := some window
    dispatcher := registerInputChannel
      (setFocusedApplication manager.dispatcher window.inputApplicationHandle)
      window.inputChannel
    registrations := manager.registrations ++ [.lock window.inputChannel] }

def showWindows (manager : InputManager) (windows : List (InputWindowHandle × Readings)) :
    Except StdException Unit × InputManager :=
  let (outcome, dispatcher) := setInputWindows manager.dispatcher windows
  (outcome, { manager with dispatcher := dispatcher })

def setInputFocusTo (manager : InputManager) (session : SessionKey)
    (surface : Option SurfaceTarget) : Except StdException Unit × InputManager :=
  let cleared := unfocus manager
  match surface with
  | none => showWindows cleared []
  | some target =>
      let application : InputApplicationHandle := ⟨cleared.made, session⟩
      let named := { cleared with
        focusedApplicationHandle := some application
        made := cleared.made + 1 }
      match newWindowHandle application target with
      | .error thrown => (.error thrown, named)
      | .ok window => showWindows (focusWindow named window) [(window, target.updated)]

structure FocusCall where
  session : SessionKey
  surface : Option SurfaceTarget

def focusAfter (calls : List FocusCall) : InputManager :=
  calls.foldl (fun manager call => (setInputFocusTo manager call.session call.surface).2) started

def focuses (call : FocusCall) : Bool :=
  match call.surface with
  | none => false
  | some target => (firstInfo target).isOk

end Manager

def focusedChannel (manager : InputManager) : List InputChannel :=
  (manager.focusedWindowHandle.map InputWindowHandle.inputChannel).toList

/-- The dispatcher has what the manager has given the focus to. -/
structure Agrees (manager : InputManager) : Prop where
  channels : manager.dispatcher.connectionsByFd = focusedChannel manager
  windows : manager.dispatcher.windowHandles = manager.focusedWindowHandle.toList
  application : manager.dispatcher.focusedApplicationHandle =
    manager.focusedWindowHandle.map InputWindowHandle.inputApplicationHandle

def AgreesAfterEach (calls : List FocusCall) : Prop :=
  ∀ earlier later, calls = earlier ++ later → Agrees (focusAfter earlier)

/-- At each time every registration but the current one has been undone once. -/
def UnregisteredOnce (calls : List FocusCall) : Prop :=
  ∀ earlier later, calls = earlier ++ later →
    Counted (focusAfter earlier).registrations (focusedChannel (focusAfter earlier))

/-- After a call that focuses a window every call does. -/
def KeepsFocusing (calls : List FocusCall) : Prop :=
  calls.Pairwise fun before after => focuses before = true → focuses after = true

section Calls

variable {manager : InputManager}

/-- The channels are those of the registrations, and of the focused window. -/
structure Registered (manager : InputManager) : Prop where
  channels : manager.dispatcher.connectionsByFd = focusedChannel manager
  called : run makeCall [] manager.registrations = some (focusedChannel manager)

theorem unfocus_registered (registered : Registered manager) :
    (unfocus manager).focusedWindowHandle = none ∧ Registered (unfocus manager) ∧
      (unfocus manager).dispatcher.windowHandles = manager.dispatcher.windowHandles ∧
      (unfocus manager).dispatcher.focusedApplicationHandle =
        manager.dispatcher.focusedApplicationHandle := by
  have channels := registered.channels
  have called := registered.called
  unfold focusedChannel at channels called
  unfold unfocus
  cases focus : manager.focusedWindowHandle with
  | none => exact ⟨focus, registered, rfl, rfl⟩
  | some window =>
      rw [focus] at channels called
      have present : isRegistered manager.dispatcher window.inputChannel = true := by
        simp [isRegistered, channels]
      refine ⟨rfl, ⟨?_, ?_⟩, ?_, ?_⟩
      · simp [unregisterInputChannel, present, otherConnections, channels, focusedChannel]
      · apply run_trans called
        rw [run_single]
        simp [makeCall, focusedChannel]
      · simp [unregisterInputChannel, present]
      · simp [unregisterInputChannel, present]

theorem new_window_handle_cases (application : InputApplicationHandle) (target : SurfaceTarget) :
    (∃ fd, newWindowHandle application target =
        .ok ⟨application, target.surface, ⟨application.handle, fd⟩⟩ ∧
      (firstInfo target).isOk = true) ∨
    ∃ thrown, newWindowHandle application target = .error thrown ∧
      (firstInfo target).isOk = false := by
  unfold newWindowHandle
  cases firstInfo target with
  | error thrown => exact .inr ⟨thrown, rfl, rfl⟩
  | ok fd => exact .inl ⟨fd, rfl, rfl⟩

inductive Leaves (manager : InputManager) (call : FocusCall) (after : InputManager) : Prop where
  | window (window : InputWindowHandle) (focusing : focuses call = true)
      (focus : after.focusedWindowHandle = some window)
      (windows : after.dispatcher.windowHandles = [window])
      (application : after.dispatcher.focusedApplicationHandle =
        some window.inputApplicationHandle)
  | nothing (unfocusing : focuses call = false) (focus : after.focusedWindowHandle = none)
      (windows : after.dispatcher.windowHandles = [] ∨
        after.dispatcher.windowHandles = manager.dispatcher.windowHandles)
      (application : after.dispatcher.focusedApplicationHandle =
        manager.dispatcher.focusedApplicationHandle)

theorem focus_window_registered (registered : Registered manager)
    (unfocused : manager.focusedWindowHandle = none) (window : InputWindowHandle) :
    Registered (focusWindow manager window) := by
  have channels := registered.channels
  have called := registered.called
  simp only [focusedChannel, unfocused] at channels called
  constructor
  · simp [focusWindow, registerInputChannel, setFocusedApplication, isRegistered,
      otherConnections, channels, focusedChannel]
  · apply run_trans called
    rw [run_single]
    simp [makeCall, focusWindow, focusedChannel]

theorem focus_window_application (window : InputWindowHandle) :
    (focusWindow manager window).dispatcher.focusedApplicationHandle =
      some window.inputApplicationHandle := by
  simp only [focusWindow, registerInputChannel]
  split_ifs <;> rfl

theorem call_leaves (call : FocusCall) (registered : Registered manager) :
    Registered (setInputFocusTo manager call.session call.surface).2 ∧
      Leaves manager call (setInputFocusTo manager call.session call.surface).2 := by
  obtain ⟨unfocused, cleared, windows, application⟩ := unfocus_registered registered
  rcases call with ⟨session, surface⟩
  cases surface with
  | none =>
      refine ⟨⟨cleared.channels, cleared.called⟩, ?_⟩
      exact .nothing rfl unfocused (.inl rfl) application
  | some target =>
      have named : Registered { unfocus manager with
          focusedApplicationHandle := some ⟨(unfocus manager).made, session⟩
          made := (unfocus manager).made + 1 } := ⟨cleared.channels, cleared.called⟩
      simp only [setInputFocusTo]
      rcases new_window_handle_cases ⟨(unfocus manager).made, session⟩ target with
        ⟨fd, built, focusing⟩ | ⟨thrown, failed, unfocusing⟩
      · have focused := focus_window_registered named unfocused
          ⟨⟨(unfocus manager).made, session⟩, target.surface, ⟨(unfocus manager).made, fd⟩⟩
        rw [built]
        refine ⟨⟨focused.channels, focused.called⟩, ?_⟩
        exact .window _ focusing rfl rfl (focus_window_application _)
      · rw [failed]
        exact ⟨named, .nothing unfocusing unfocused (.inr windows) application⟩

/-- The handles, and the sessions of the applications, as the desktop sees them. -/
def handles (manager : InputManager) : DesktopSurfaces.InputManager where
  focusedWindowHandle := manager.focusedWindowHandle.map InputWindowHandle.surface
  focusedApplicationHandle :=
    manager.focusedApplicationHandle.map InputApplicationHandle.session
  dispatcherApplicationHandle :=
    manager.dispatcher.focusedApplicationHandle.map InputApplicationHandle.session

theorem handles_unfocus (manager : InputManager) :
    handles (unfocus manager) =
      if (handles manager).focusedWindowHandle.isSome then
        { handles manager with focusedWindowHandle := none, focusedApplicationHandle := none }
      else handles manager := by
  unfold unfocus
  cases focus : manager.focusedWindowHandle with
  | none => simp [handles, focus]
  | some window =>
      simp only [handles, focus, unregisterInputChannel]
      split_ifs with registered seen unseen
      · rfl
      · simp at seen
      · rfl
      · simp at unseen

theorem handles_follow (call : FocusCall)
    (built : ∀ target, call.surface = some target → (firstInfo target).isOk = true) :
    handles (setInputFocusTo manager call.session call.surface).2 =
      DesktopSurfaces.setInputFocusTo .android (handles manager) call.session
        (call.surface.map SurfaceTarget.surface) := by
  rcases call with ⟨session, surface⟩
  cases surface with
  | none => exact handles_unfocus manager
  | some target =>
      simp only [setInputFocusTo]
      rcases new_window_handle_cases ⟨(unfocus manager).made, session⟩ target with
        ⟨fd, made, -⟩ | ⟨thrown, -, failed⟩
      · rw [made]
        simp only [showWindows, setInputWindows, handles, DesktopSurfaces.setInputFocusTo,
          focus_window_application]
        rfl
      · rw [built target rfl] at failed
        cases failed

end Calls

section Histories

variable {history : List FocusCall} {call : FocusCall}

/-- After the calls: the channels, and whether a window has ever been focused. -/
structure Tracked (history : List FocusCall) (manager : InputManager) : Prop where
  registered : Registered manager
  ever : manager.dispatcher.focusedApplicationHandle = none ↔
    ∀ call ∈ history, focuses call = false
  never : manager.dispatcher.focusedApplicationHandle = none →
    manager.dispatcher.windowHandles = []

theorem focus_after_snoc :
    focusAfter (history ++ [call]) =
      (setInputFocusTo (focusAfter history) call.session call.surface).2 := by
  simp [focusAfter]

theorem call_tracked {manager : InputManager} (tracked : Tracked history manager) :
    Tracked (history ++ [call]) (setInputFocusTo manager call.session call.surface).2 := by
  obtain ⟨registered, leaves⟩ := call_leaves call tracked.registered
  refine ⟨registered, ?_, ?_⟩
  · cases leaves with
    | window window focusing focus windows application => simp [application, focusing]
    | nothing unfocusing focus windows application =>
        rw [application, tracked.ever]
        simp [or_imp, forall_and, unfocusing]
  · intro missing
    cases leaves with
    | window window focusing focus windows application =>
        rw [application] at missing
        cases missing
    | nothing unfocusing focus windows application =>
        rcases windows with empty | same
        · exact empty
        · rw [same]
          exact tracked.never (application ▸ missing)

theorem history_tracked (history : List FocusCall) : Tracked history (focusAfter history) := by
  induction history using List.reverseRecOn with
  | nil => exact ⟨⟨rfl, rfl⟩, by simp [focusAfter, started], fun _ => rfl⟩
  | append_singleton history call ih =>
      rw [focus_after_snoc]
      exact call_tracked ih

theorem agrees_snoc_iff :
    Agrees (focusAfter (history ++ [call])) ↔
      ∀ before ∈ history, focuses before = true → focuses call = true := by
  have tracked := history_tracked history
  rw [focus_after_snoc]
  obtain ⟨registered, leaves⟩ := call_leaves call tracked.registered
  cases leaves with
  | window window focusing focus windows application =>
      refine ⟨fun _ _ _ _ => focusing, fun _ => ⟨registered.channels, ?_, ?_⟩⟩
      · rw [windows, focus]
        rfl
      · rw [application, focus]
        rfl
  | nothing unfocusing focus windows application =>
      constructor
      · intro agrees before member focused
        have missing := agrees.application
        rw [application, focus] at missing
        have unfocused := tracked.ever.mp missing before member
        rw [focused] at unfocused
        cases unfocused
      · intro unfocused
        have missing := tracked.ever.mpr fun before member => by
          by_contra focused
          have focusing := unfocused before member (by simpa using focused)
          rw [unfocusing] at focusing
          cases focusing
        refine ⟨registered.channels, ?_, ?_⟩
        · rw [focus]
          rcases windows with empty | same
          · exact empty
          · exact same.trans (tracked.never missing)
        · rw [application, focus]
          exact missing

theorem agrees_after_each_iff (calls : List FocusCall) :
    AgreesAfterEach calls ↔ KeepsFocusing calls := by
  induction calls using List.reverseRecOn with
  | nil =>
      refine ⟨fun _ => List.Pairwise.nil, ?_⟩
      rintro - earlier later split
      obtain ⟨rfl, -⟩ := List.append_eq_nil_iff.mp split.symm
      exact ⟨rfl, rfl, rfl⟩
  | append_singleton history call ih =>
      have splits : AgreesAfterEach (history ++ [call]) ↔
          AgreesAfterEach history ∧ Agrees (focusAfter (history ++ [call])) := by
        constructor
        · intro agrees
          refine ⟨?_, agrees _ [] (by simp)⟩
          rintro earlier later rfl
          exact agrees earlier (later ++ [call]) (by simp)
        · rintro ⟨before, now⟩ earlier later split
          rcases List.eq_nil_or_concat later with rfl | ⟨rest, last, rfl⟩
          · rw [List.append_nil] at split
            exact split ▸ now
          · rw [List.concat_eq_append, ← List.append_assoc] at split
            obtain ⟨same, -⟩ := List.append_inj' split rfl
            exact before earlier rest same
      unfold KeepsFocusing at ih ⊢
      rw [splits, ih, agrees_snoc_iff, List.pairwise_append]
      simp

theorem unregistered_once (calls : List FocusCall) : UnregisteredOnce calls := by
  intro earlier _ _
  exact calls_counted (history_tracked earlier).registered.called

end Histories

/-- The dispatcher follows the focus, and each channel is unregistered once for each
registration, exactly if no call after one that focuses a window has no surface or throws
while it builds the window handle. -/
theorem dispatcher_agrees_iff (calls : List FocusCall) :
    (AgreesAfterEach calls ∧ UnregisteredOnce calls) ↔ KeepsFocusing calls := by
  rw [agrees_after_each_iff]
  exact and_iff_left (unregistered_once calls)

def reads (outcome : Except StdException Unit) : Readings := ⟨outcome, outcome⟩

def openSurface : SurfaceTarget := ⟨7, .ok 20, reads (.ok ()), reads (.ok ())⟩

def deafSurface : SurfaceTarget :=
  ⟨8, .error ⟨"Surface does not support input", none⟩, reads (.ok ()), reads (.ok ())⟩

/-- The focused application stays when the focus goes to no surface, and the window stays too
when the handle of the next one cannot be built. -/
theorem dispatcher_keeps_the_old_focus :
    ((focusAfter [⟨1, some openSurface⟩, ⟨2, none⟩]).focusedWindowHandle = none ∧
        (focusAfter [⟨1, some openSurface⟩, ⟨2, none⟩]).dispatcher.focusedApplicationHandle =
          some ⟨0, 1⟩ ∧
        ¬AgreesAfterEach [⟨1, some openSurface⟩, ⟨2, none⟩]) ∧
      (focusAfter [⟨1, some openSurface⟩, ⟨2, some deafSurface⟩]).focusedWindowHandle = none ∧
        (focusAfter [⟨1, some openSurface⟩, ⟨2, some deafSurface⟩]).dispatcher.windowHandles =
          [⟨⟨0, 1⟩, 7, ⟨0, 20⟩⟩] ∧
        ¬AgreesAfterEach [⟨1, some openSurface⟩, ⟨2, some deafSurface⟩] := by
  refine ⟨⟨rfl, rfl, ?_⟩, rfl, rfl, ?_⟩
  · intro agrees
    have stale := (agrees _ [] (List.append_nil _).symm).application
    cases stale
  · intro agrees
    have stale := (agrees _ [] (List.append_nil _).symm).windows
    cases stale

end Mir.DispatcherFocus
