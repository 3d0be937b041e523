import Mathlib.Logic.Function.Basic
import Mir.SwapperOwnership

/-!
# Sessions, their surfaces and the focus

`SessionManager` with `SessionContainer`, `RegistrationOrderFocusSequence`,
`SingleVisibilityFocusMechanism` and `ApplicationSession`. A session pointer is a
key; `sessions` gives the object behind it. Each operation is one step here. The
input focus, the names and the lightdm tags are left out: a request that names a
tag is a request that names the tagged session.
-/

namespace Mir.ShellSessions

open Mir.SwapperModel Mir.SwapperOwnership

set_option autoImplicit false

abbrev SessionKey := Nat

abbrev SurfaceKey := Nat

/-- `ms::Surface`, as far as sharing its buffers goes. -/
structure SurfaceState where
  ownership : Ownership BufferID
  isHidden : Bool

structure ApplicationSession where
  surfaces : SurfaceKey → Option SurfaceState
  nextSurfaceId : SurfaceKey

structure Shell where
  apps : List SessionKey
  sessions : SessionKey → ApplicationSession
  focusApplication : Option SessionKey

section FocusSequence

/-- `std::shared_ptr<mf::Session>`. -/
abbrev SessionPointer := Option SessionKey

/-- The variables of the loop in `successor_of`, of which a null pointer has kept nothing. -/
structure Search where
  result : SessionPointer
  first : SessionPointer
  found : Bool

def searchSuccessor (focusedApp : SessionPointer) (search : Search) (session : SessionPointer) :
    Search :=
  { result := if search.found then search.result.or session else search.result
    first := search.first.or session
    found := search.found || focusedApp == session }

def successorOf (apps : List SessionPointer) (focusedApp : SessionPointer) :
    Except LogicError SessionPointer :=
  let search := apps.foldl (searchSuccessor focusedApp) ⟨none, none, false⟩
  if search.result.isSome then .ok search.result
  else if search.found then .ok search.first
  else .error ⟨"Invalid session"⟩

/-- The last session of the loop. -/
def defaultFocus (apps : List SessionKey) : Option SessionKey :=
  apps.foldl (fun _ session => some session) none

theorem default_focus_eq (apps : List SessionKey) : defaultFocus apps = apps.getLast? := by
  induction apps using List.reverseRecOn with
  | nil => rfl
  | append_singleton initial last ih => simp [defaultFocus]

section Loops

variable {focusedApp : SessionPointer} {apps : List SessionPointer}

/-- The first pointer of a list that is not null. -/
def firstSession (apps : List SessionPointer) : SessionPointer :=
  apps.findSome? fun session => session

theorem first_session_append (apps later : List SessionPointer) :
    firstSession (apps ++ later) = (firstSession apps).or (firstSession later) :=
  List.findSome?_append

theorem first_session_single (session : SessionPointer) : firstSession [session] = session := by
  cases session <;> rfl

theorem first_session_mem (nonempty : apps ≠ []) : firstSession apps ∈ apps := by
  induction apps with
  | nil => exact absurd rfl nonempty
  | cons session rest ih =>
      cases session with
      | some key => exact List.mem_cons_self
      | none =>
          by_cases last : rest = []
          · subst last
            exact List.mem_cons_self
          · exact List.mem_cons_of_mem _ (ih last)

theorem search_successor_before (unseen : focusedApp ∉ apps) :
    apps.foldl (searchSuccessor focusedApp) ⟨none, none, false⟩ =
      ⟨none, firstSession apps, false⟩ := by
  induction apps using List.reverseRecOn with
  | nil => rfl
  | append_singleton initial last ih =>
      simp only [List.mem_append, List.mem_singleton, not_or] at unseen
      rw [List.foldl_append, ih unseen.1, first_session_append, first_session_single]
      simp [searchSuccessor, unseen.2]

theorem search_successor_after (search : Search) (met : search.found = true) :
    apps.foldl (searchSuccessor focusedApp) search =
      ⟨search.result.or (firstSession apps), search.first.or (firstSession apps), true⟩ := by
  induction apps using List.reverseRecOn with
  | nil =>
      rcases search with ⟨result, first, found⟩
      cases met
      simp [firstSession]
  | append_singleton initial last ih =>
      rw [List.foldl_append, ih, first_session_append, first_session_single]
      simp [searchSuccessor, Option.or_assoc]

variable {before after : List SessionPointer}

/-- The session after the given one, or the first one. -/
theorem successor_of_split (unseen : focusedApp ∉ before) :
    successorOf (before ++ focusedApp :: after) focusedApp =
      .ok (if (firstSession after).isSome then firstSession after
        else firstSession (before ++ [focusedApp])) := by
  have met : (before ++ focusedApp :: after).foldl (searchSuccessor focusedApp)
      ⟨none, none, false⟩ =
        ⟨firstSession after, (firstSession (before ++ [focusedApp])).or (firstSession after),
          true⟩ := by
    rw [List.foldl_append, search_successor_before unseen, List.foldl_cons,
      search_successor_after _ (by simp [searchSuccessor])]
    simp [searchSuccessor, first_session_append, first_session_single]
  unfold successorOf
  rw [met]
  cases next : firstSession after with
  | none => simp
  | some session => simp

theorem successor_of_unknown (unseen : focusedApp ∉ apps) :
    successorOf apps focusedApp = .error ⟨"Invalid session"⟩ := by
  unfold successorOf
  rw [search_successor_before unseen]
  rfl

theorem successor_of_known (member : focusedApp ∈ apps) :
    ∃ session, successorOf apps focusedApp = .ok session := by
  obtain ⟨before, after, rfl, unseen⟩ := List.eq_append_cons_of_mem member
  exact ⟨_, successor_of_split unseen⟩

theorem successor_of_mem {next : SessionPointer}
    (succeeded : successorOf apps focusedApp = .ok next) : next ∈ apps := by
  by_cases member : focusedApp ∈ apps
  · obtain ⟨before, after, rfl, unseen⟩ := List.eq_append_cons_of_mem member
    rw [successor_of_split unseen] at succeeded
    cases succeeded
    split_ifs with later
    · have nonempty : after ≠ [] := by
        rintro rfl
        cases later
      have met := first_session_mem nonempty
      simp [met]
    · have met : firstSession (before ++ [focusedApp]) ∈ before ++ [focusedApp] :=
        first_session_mem (by simp)
      rw [List.append_cons]
      exact List.mem_append_left _ met
  · rw [successor_of_unknown member] at succeeded
    cases succeeded

end Loops

/-- The sessions of a container, of which none is null. -/
def pointers (apps : List SessionKey) : List SessionPointer := apps.map some

theorem pointers_split {session : SessionKey} (before after : List SessionKey) :
    pointers (before ++ session :: after) =
      pointers before ++ some session :: pointers after := by
  simp [pointers]

theorem mem_pointers {apps : List SessionKey} {session : SessionKey} :
    some session ∈ pointers apps ↔ session ∈ apps := by
  simp [pointers]

theorem successor_of_open {apps : List SessionKey} {session : SessionKey}
    (member : session ∈ apps) :
    ∃ next ∈ apps, successorOf (pointers apps) (some session) = .ok (some next) := by
  obtain ⟨pointer, succeeded⟩ := successor_of_known (mem_pointers.mpr member)
  obtain ⟨next, listed, rfl⟩ := List.mem_map.mp (successor_of_mem succeeded)
  exact ⟨next, listed, succeeded⟩

end FocusSequence

section Operations

/-- `show` and `hide` of a session. -/
def setHidden (hide : Bool) (session : ApplicationSession) : ApplicationSession :=
  { session with
    surfaces := fun key => (session.surfaces key).map fun surface =>
      { surface with isHidden := hide } }

/-- `SessionManager::set_focus_to`: the sessions of the container are shown or
hidden, whatever they were before. -/
def setFocusTo (shell : Shell) (nextFocus : Option SessionKey) : Shell :=
  { shell with
    focusApplication := nextFocus
    sessions := fun key =>
      if key ∈ shell.apps then setHidden (decide (nextFocus ≠ some key)) (shell.sessions key)
      else shell.sessions key }

def openSession (shell : Shell) (newSession : SessionKey) : Shell :=
  setFocusTo
    { shell with
      apps := shell.apps ++ [newSession]
      sessions := Function.update shell.sessions newSession ⟨fun _ => none, 0⟩ }
    (some newSession)

def closeSession (shell : Shell) (session : SessionKey) : Except LogicError Shell :=
  if session ∈ shell.apps then
    .ok (setFocusTo { shell with apps := shell.apps.erase session }
      (defaultFocus (shell.apps.erase session)))
  else .error ⟨"Invalid Session"⟩

def focusNext (shell : Shell) : Except LogicError Shell :=
  match shell.focusApplication with
  | none => .ok (setFocusTo shell (defaultFocus shell.apps))
  | some focus => (successorOf (pointers shell.apps) (some focus)).map (setFocusTo shell)

def updateSurface (shell : Shell) (session : SessionKey) (key : SurfaceKey)
    (surface : Option SurfaceState) : Shell :=
  { shell with
    sessions := Function.update shell.sessions session
      { shell.sessions session with
        surfaces := Function.update (shell.sessions session).surfaces key surface } }

/-- `ApplicationSession::create_surface`, for surfaces with the given buffers. -/
def createSurface (bufferList : List BufferID) (session : ApplicationSession) :
    ApplicationSession where
  surfaces := Function.update session.surfaces session.nextSurfaceId
    (some ⟨constructed (fun key => key) bufferList, false⟩)
  nextSurfaceId := session.nextSurfaceId + 1

def createSurfaceFor (bufferList : List BufferID) (shell : Shell) (session : SessionKey) : Shell :=
  setFocusTo
    { shell with
      sessions := Function.update shell.sessions session
        (createSurface bufferList (shell.sessions session)) }
    (some session)

@[simp] theorem update_surface_self (shell : Shell) (session : SessionKey) (key : SurfaceKey)
    (surface : Option SurfaceState) :
    ((updateSurface shell session key surface).sessions session).surfaces key = surface := by
  simp [updateSurface]

theorem update_surface_other (shell : Shell) {session other : SessionKey} (key : SurfaceKey)
    (surface : Option SurfaceState) (different : other ≠ session) :
    (updateSurface shell session key surface).sessions other = shell.sessions other := by
  simp [updateSurface, Function.update_of_ne different]

theorem set_focus_keeps {shell : Shell} {session : SessionKey} {key : SurfaceKey}
    {surface : SurfaceState} (nextFocus : Option SessionKey)
    (found : (shell.sessions session).surfaces key = some surface) :
    ∃ after, ((setFocusTo shell nextFocus).sessions session).surfaces key = some after ∧
      after.ownership = surface.ownership := by
  by_cases member : session ∈ shell.apps
  · refine ⟨{ surface with isHidden := decide (nextFocus ≠ some session) }, ?_, rfl⟩
    simp [setFocusTo, member, setHidden, found]
  · exact ⟨surface, by simp [setFocusTo, member, found], rfl⟩

theorem focus_next_sets {shell next : Shell} (moved : focusNext shell = .ok next) :
    ∃ nextFocus, next = setFocusTo shell nextFocus := by
  unfold focusNext at moved
  split at moved
  · cases moved
    exact ⟨_, rfl⟩
  · next focus _ =>
      cases successor : successorOf (pointers shell.apps) (some focus) with
      | error thrown => simp [successor, Except.map] at moved
      | ok pointer =>
          simp only [successor, Except.map] at moved
          cases moved
          exact ⟨_, rfl⟩

end Operations

section Visibility

/-- Of the open sessions one has the focus, and its surfaces are not hidden. -/
structure Focused (shell : Shell) : Prop where
  distinct : shell.apps.Nodup
  focus : shell.apps ≠ [] → ∃ session ∈ shell.apps, shell.focusApplication = some session
  shown : ∀ session ∈ shell.apps, ∀ key surface,
    (shell.sessions session).surfaces key = some surface → surface.isHidden = true →
      shell.focusApplication ≠ some session

/-- After `set_focus_to` only the surfaces of the focused session are shown. -/
theorem set_focus_hidden {shell : Shell} {nextFocus : Option SessionKey} {session : SessionKey}
    (member : session ∈ shell.apps) {key : SurfaceKey} {surface : SurfaceState}
    (found : ((setFocusTo shell nextFocus).sessions session).surfaces key = some surface) :
    surface.isHidden = true ↔ nextFocus ≠ some session := by
  simp only [setFocusTo, if_pos member, setHidden, Option.map_eq_some_iff] at found
  rcases found with ⟨before, -, rfl⟩
  simp

theorem set_focus_focused {shell : Shell} {nextFocus : Option SessionKey}
    (distinct : shell.apps.Nodup)
    (focus : shell.apps ≠ [] → ∃ session ∈ shell.apps, nextFocus = some session) :
    Focused (setFocusTo shell nextFocus) where
  distinct := distinct
  focus := focus
  shown := by
    intro session member key surface found hidden
    have opened : session ∈ shell.apps := member
    exact (set_focus_hidden opened found).mp hidden

theorem open_focused {shell : Shell} (focused : Focused shell) {newSession : SessionKey}
    (fresh : newSession ∉ shell.apps) : Focused (openSession shell newSession) := by
  apply set_focus_focused
  · have apart : ∀ session ∈ shell.apps, session ≠ newSession := by
      intro session member same
      exact fresh (same ▸ member)
    simpa [List.nodup_append, focused.distinct] using apart
  · intro _
    exact ⟨newSession, by simp, rfl⟩

theorem close_focused {shell next : Shell} (focused : Focused shell) {session : SessionKey}
    (succeeded : closeSession shell session = .ok next) :
    Focused next ∧ next.apps = shell.apps.erase session := by
  unfold closeSession at succeeded
  split_ifs at succeeded with member
  cases succeeded
  constructor
  · apply set_focus_focused
    · exact focused.distinct.erase session
    · intro nonempty
      rw [default_focus_eq]
      exact ⟨_, List.getLast_mem nonempty, List.getLast?_eq_getLast_of_ne_nil nonempty⟩
  · rfl

theorem focus_next_focused {shell next : Shell} (focused : Focused shell)
    (succeeded : focusNext shell = .ok next) : Focused next ∧ next.apps = shell.apps := by
  unfold focusNext at succeeded
  split at succeeded
  · cases succeeded
    constructor
    · apply set_focus_focused focused.distinct
      intro nonempty
      rw [default_focus_eq]
      exact ⟨_, List.getLast_mem nonempty, List.getLast?_eq_getLast_of_ne_nil nonempty⟩
    · rfl
  · next focus _ =>
      cases successor : successorOf (pointers shell.apps) (some focus) with
      | error err => simp [successor, Except.map] at succeeded
      | ok pointer =>
          simp only [successor, Except.map, Except.ok.injEq] at succeeded
          cases succeeded
          obtain ⟨session, opened, same⟩ := List.mem_map.mp (successor_of_mem successor)
          constructor
          · apply set_focus_focused focused.distinct
            intro _
            exact ⟨session, opened, same.symm⟩
          · rfl

theorem create_focused {bufferList : List BufferID} {shell : Shell} (focused : Focused shell)
    {session : SessionKey} (member : session ∈ shell.apps) :
    Focused (createSurfaceFor bufferList shell session) := by
  apply set_focus_focused
  · exact focused.distinct
  · intro _
    exact ⟨session, member, rfl⟩

theorem update_focused {shell : Shell} (focused : Focused shell) {session : SessionKey}
    {key : SurfaceKey} {next : Option SurfaceState}
    (visibility : ∀ surface, next = some surface → surface.isHidden = true →
      ∃ before, (shell.sessions session).surfaces key = some before ∧ before.isHidden = true) :
    Focused (updateSurface shell session key next) where
  distinct := focused.distinct
  focus := focused.focus
  shown := by
    intro other member otherKey surface changed hidden
    by_cases same : other = session
    · subst same
      by_cases sameKey : otherKey = key
      · subst sameKey
        simp only [updateSurface, Function.update_self] at changed
        rcases visibility surface changed hidden with ⟨before, found, wasHidden⟩
        exact focused.shown other member otherKey before found wasHidden
      · simp only [updateSurface, Function.update_self, Function.update_of_ne sameKey] at changed
        exact focused.shown other member otherKey surface changed hidden
    · simp only [updateSurface, Function.update_of_ne same] at changed
      exact focused.shown other member otherKey surface changed hidden

end Visibility

end Mir.ShellSessions
