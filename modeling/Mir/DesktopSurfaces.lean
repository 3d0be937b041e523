import Mir.SessionFocus

/-!
# The surface stack and the input focus behind the session manager

`SurfaceStack` with the shell surfaces that refer to it, and the input manager that
`SingleVisibilityFocusMechanism` calls. A surface of the stack is known by the number
of surfaces created before it; a session object ends, and destroys its surfaces, when
nothing refers to it any more.
-/

namespace Mir.DesktopSurfaces

open Mir.TransitionRuns Mir.SwapperModel Mir.ShellSessions Mir.SessionFocus

set_option autoImplicit false

abbrev SurfaceObject := Nat

/-- Which `create_input_manager` is linked. -/
inductive InputBuild where
  | dummy
  | android
  deriving DecidableEq, Repr

/-- The handles of the android `InputManager`, and the `mFocusedApplicationHandle` of its
dispatcher. An application handle shares the ownership of its session. -/
structure InputManager where
  focusedWindowHandle : Option SurfaceObject
  focusedApplicationHandle : Option SessionKey
  dispatcherApplicationHandle : Option SessionKey

structure Desktop where
  manager : SessionManager
  /-- The surface of the stack that a shell surface refers to. -/
  surfaceOf : SessionKey → SurfaceKey → SurfaceObject
  stack : List SurfaceObject
  created : SurfaceObject
  /-- The session objects whose destructor has not run. -/
  alive : List SessionKey
  input : InputManager
  /-- The surface of the last call of `set_input_focus_to`. -/
  handed : Option SurfaceObject

def started : Desktop where
  manager := noSessions
  surfaceOf := fun _ _ => 0
  stack := []
  created := 0
  alive := []
  input := ⟨none, none, none⟩
  handed := none

section Operations

variable (build : InputBuild) (desktop : Desktop)

def setInputFocusTo (input : InputManager) (session : SessionKey)
    (surface : Option SurfaceObject) : InputManager :=
  match build with
  | .dummy => input
  | .android =>
      let cleared := if input.focusedWindowHandle.isSome then
        { input with focusedWindowHandle := none, focusedApplicationHandle := none }
      else input
      match surface with
      | some window => ⟨some window, some session, some session⟩
      | none => cleared

/-- `surfaces.begin()` of a session, or none. -/
def defaultSurface (session : SessionKey) : Option SurfaceObject :=
  let app := desktop.manager.shell.sessions session
  ((List.range app.nextSurfaceId).find? fun key => (app.surfaces key).isSome).map
    (desktop.surfaceOf session)

/-- The part of `SingleVisibilityFocusMechanism::set_focus_to` that is about input: the
selector is called when the loop meets the session with the focus. -/
def refocus : Desktop :=
  match desktop.manager.shell.focusApplication with
  | some session =>
      if session ∈ desktop.manager.shell.apps then
        { desktop with
          input := setInputFocusTo build desktop.input session (defaultSurface desktop session)
          handed := defaultSurface desktop session }
      else desktop
  | none => desktop

/-- The operations that call `set_focus_to`. -/
def focuses (manager : SessionManager) : Operation → Bool
  | .openSession | .closeSession _ | .createSurfaceFor _ _ | .focusNext => true
  | .focusSessionWithLightdmId id => (manager.tags.find? fun tag => tag.1 = id).isSome
  | .tagSessionWithLightdmId _ _ | .destroySurface _ _ => false

/-- What an operation that succeeds does to the stack and to the objects. -/
def handle : Operation → Desktop
  | .openSession => { desktop with alive := desktop.alive ++ [desktop.manager.nextSession] }
  | .createSurfaceFor session _ =>
      { desktop with
        surfaceOf := Function.update desktop.surfaceOf session
          (Function.update (desktop.surfaceOf session)
            (desktop.manager.shell.sessions session).nextSurfaceId desktop.created)
        stack := desktop.stack ++ [desktop.created]
        created := desktop.created + 1 }
  | .destroySurface session key =>
      { desktop with stack := desktop.stack.erase (desktop.surfaceOf session key) }
  | .closeSession _ | .tagSessionWithLightdmId _ _ | .focusSessionWithLightdmId _
  | .focusNext => desktop

/-- Somebody shares the ownership of the session. -/
def referenced (session : SessionKey) : Bool :=
  decide (session ∈ desktop.manager.shell.apps ∨
    session ∈ desktop.manager.tags.map Prod.snd ∨
    desktop.input.focusedApplicationHandle = some session ∨
    desktop.input.dispatcherApplicationHandle = some session)

def sessionSurfaces (session : SessionKey) : List SurfaceObject :=
  let app := desktop.manager.shell.sessions session
  ((List.range app.nextSurfaceId).filter fun key => (app.surfaces key).isSome).map
    (desktop.surfaceOf session)

/-- `~ApplicationSession` of the sessions that nothing refers to. -/
def release : Desktop :=
  { desktop with
    alive := desktop.alive.filter (referenced desktop)
    stack := desktop.stack.diff
      ((desktop.alive.filter fun session => !referenced desktop session).flatMap
        (sessionSurfaces desktop)) }

/-- Before the focus is set: the manager part of the operation gave `manager`. -/
def handled (manager : SessionManager) (operation : Operation) : Desktop :=
  { handle desktop operation with manager := manager }

def performed (manager : SessionManager) (operation : Operation) : Desktop :=
  release (if focuses desktop.manager operation then
      refocus build (handled desktop manager operation)
    else handled desktop manager operation)

def perform (operation : Operation) : Except StdException Desktop :=
  (SessionFocus.perform desktop.manager operation).map fun manager =>
    performed build desktop manager operation

def givenOpen (operation : Operation) : Bool := SessionFocus.givenOpen desktop.manager operation

def step (operation : Operation) : Option Desktop :=
  match perform build desktop operation with
  | .ok next => some next
  | .error _ => some desktop

end Operations

section Presence

def Present (shell : Shell) (session : SessionKey) (key : SurfaceKey) : Prop :=
  ((shell.sessions session).surfaces key).isSome = true

variable (shell : Shell) (session other : SessionKey) (key otherKey : SurfaceKey)

@[simp] theorem present_set_focus (nextFocus : Option SessionKey) :
    Present (setFocusTo shell nextFocus) session key ↔ Present shell session key := by
  by_cases member : session ∈ shell.apps <;> simp [Present, setFocusTo, setHidden, member]

@[simp] theorem next_id_set_focus (nextFocus : Option SessionKey) :
    ((setFocusTo shell nextFocus).sessions session).nextSurfaceId =
      (shell.sessions session).nextSurfaceId := by
  by_cases member : session ∈ shell.apps <;> simp [setFocusTo, setHidden, member]

theorem present_open :
    Present (ShellSessions.openSession shell session) other key ↔
      other ≠ session ∧ Present shell other key := by
  rw [ShellSessions.openSession, present_set_focus]
  by_cases same : other = session <;> simp [Present, same]

theorem next_id_open :
    ((ShellSessions.openSession shell session).sessions other).nextSurfaceId =
      if other = session then 0 else (shell.sessions other).nextSurfaceId := by
  rw [ShellSessions.openSession, next_id_set_focus]
  by_cases same : other = session <;> simp [same]

theorem present_create (bufferList : List BufferID) :
    Present (ShellSessions.createSurfaceFor bufferList shell session) other key ↔
      Present shell other key ∨
        other = session ∧ key = (shell.sessions session).nextSurfaceId := by
  rw [ShellSessions.createSurfaceFor, present_set_focus]
  by_cases same : other = session
  · subst same
    by_cases sameKey : key = (shell.sessions other).nextSurfaceId
    · simp [Present, createSurface, sameKey]
    · simp [Present, createSurface, sameKey]
  · simp [Present, same]

theorem next_id_create (bufferList : List BufferID) :
    ((ShellSessions.createSurfaceFor bufferList shell session).sessions other).nextSurfaceId =
      if other = session then (shell.sessions session).nextSurfaceId + 1
      else (shell.sessions other).nextSurfaceId := by
  rw [ShellSessions.createSurfaceFor, next_id_set_focus]
  by_cases same : other = session <;> simp [same, createSurface]

theorem present_destroy :
    Present (updateSurface shell session key none) other otherKey ↔
      Present shell other otherKey ∧ ¬(other = session ∧ otherKey = key) := by
  by_cases same : other = session
  · subst same
    by_cases sameKey : otherKey = key
    · simp [Present, updateSurface, sameKey]
    · simp [Present, updateSurface, sameKey]
  · simp [Present, update_surface_other shell key none same, same]

theorem next_id_destroy :
    ((updateSurface shell session key none).sessions other).nextSurfaceId =
      (shell.sessions other).nextSurfaceId := by
  by_cases same : other = session <;> simp [updateSurface, same]

/-- The keys of the surfaces have been given out. -/
def Keyed (shell : Shell) : Prop :=
  ∀ session key, Present shell session key → key < (shell.sessions session).nextSurfaceId

variable {shell}

theorem keyed_set_focus (keyed : Keyed shell) (nextFocus : Option SessionKey) :
    Keyed (setFocusTo shell nextFocus) := by
  intro session key present
  rw [present_set_focus] at present
  rw [next_id_set_focus]
  exact keyed session key present

theorem keyed_open (keyed : Keyed shell) : Keyed (ShellSessions.openSession shell session) := by
  intro other key present
  obtain ⟨different, before⟩ := (present_open shell session other key).mp present
  rw [next_id_open, if_neg different]
  exact keyed other key before

theorem keyed_create (keyed : Keyed shell) (bufferList : List BufferID) :
    Keyed (ShellSessions.createSurfaceFor bufferList shell session) := by
  intro other key present
  rw [next_id_create]
  rcases (present_create shell session other key bufferList).mp present with before | ⟨rfl, rfl⟩
  · have below := keyed other key before
    split_ifs with same
    · subst same
      exact below.trans (Nat.lt_succ_self _)
    · exact below
  · rw [if_pos rfl]
    exact Nat.lt_succ_self _

theorem keyed_destroy (keyed : Keyed shell) : Keyed (updateSurface shell session key none) := by
  intro other otherKey present
  rw [next_id_destroy]
  exact keyed other otherKey ((present_destroy shell session other key otherKey).mp present).1

end Presence

end Mir.DesktopSurfaces
