import Mir.ShellSessions
import Mir.TransitionRuns

/-!
# The operations of the session manager, one at a time

`SessionManager` with its tags. A session object is known by the number of sessions
opened before it. The surface factory may throw; an exception of any operation leaves
the manager as it was. The input focus is left out: its selector does not throw.
-/

namespace Mir.SessionFocus

open Mir.TransitionRuns Mir.SwapperModel Mir.ShellSessions

set_option autoImplicit false

/-- An exception, with the `errinfo_errno` that may be attached to it. -/
structure StdException where
  what : String
  errno : Option Int32 := none
  deriving DecidableEq, Repr

structure SessionManager where
  shell : Shell
  tags : List (Int32 × SessionKey)
  nextSession : SessionKey

def noSessions : SessionManager where
  shell := ⟨[], fun _ => ⟨fun _ => none, 0⟩, none⟩
  tags := []
  nextSession := 0

section Operations

variable (manager : SessionManager)

def openSession : SessionManager :=
  { manager with
    shell := ShellSessions.openSession manager.shell manager.nextSession
    nextSession := manager.nextSession + 1 }

def closeSession (session : SessionKey) : Except StdException SessionManager :=
  match ShellSessions.closeSession manager.shell session with
  | .ok shell => .ok
      { manager with
        shell := shell
        tags := manager.tags.filter fun tag => tag.2 ≠ session }
  | .error thrown => .error ⟨thrown.what, none⟩

def focusNext : Except StdException SessionManager :=
  match ShellSessions.focusNext manager.shell with
  | .ok shell => .ok { manager with shell := shell }
  | .error thrown => .error ⟨thrown.what, none⟩

def tagSessionWithLightdmId (session : SessionKey) (id : Int32) : SessionManager :=
  { manager with
    tags := (manager.tags.filter fun tag => ¬ (tag.1 = id ∨ tag.2 = session)) ++ [(id, session)] }

def focusSessionWithLightdmId (id : Int32) : SessionManager :=
  match manager.tags.find? fun tag => tag.1 = id with
  | some tag => { manager with shell := setFocusTo manager.shell (some tag.2) }
  | none => manager

/-- `created` is what the surface factory does: the buffers of the new surface. -/
def createSurfaceFor (session : SessionKey) (created : Except StdException (List BufferID)) :
    Except StdException SessionManager :=
  created.map fun bufferList =>
    { manager with shell := ShellSessions.createSurfaceFor bufferList manager.shell session }

def destroySurface (session : SessionKey) (key : SurfaceKey) :
    Except StdException SessionManager :=
  if ((manager.shell.sessions session).surfaces key).isSome then
    .ok { manager with shell := updateSurface manager.shell session key none }
  else .error ⟨"Invalid SurfaceId", none⟩

end Operations

inductive Operation where
  | openSession
  | closeSession (session : SessionKey)
  | createSurfaceFor (session : SessionKey) (created : Except StdException (List BufferID))
  | tagSessionWithLightdmId (session : SessionKey) (id : Int32)
  | focusSessionWithLightdmId (id : Int32)
  | focusNext
  | destroySurface (session : SessionKey) (key : SurfaceKey)

def perform (manager : SessionManager) : Operation → Except StdException SessionManager
  | .openSession => .ok (openSession manager)
  | .closeSession session => closeSession manager session
  | .createSurfaceFor session created => createSurfaceFor manager session created
  | .tagSessionWithLightdmId session id => .ok (tagSessionWithLightdmId manager session id)
  | .focusSessionWithLightdmId id => .ok (focusSessionWithLightdmId manager id)
  | .focusNext => focusNext manager
  | .destroySurface session key => destroySurface manager session key

/-- The session that an operation is given is open. -/
def givenOpen (manager : SessionManager) : Operation → Bool
  | .closeSession session | .createSurfaceFor session _ | .tagSessionWithLightdmId session _
  | .destroySurface session _ => decide (session ∈ manager.shell.apps)
  | .openSession | .focusSessionWithLightdmId _ | .focusNext => true

def step (manager : SessionManager) (operation : Operation) : Option SessionManager :=
  match perform manager operation with
  | .ok next => some next
  | .error _ => some manager

section Invariant

/-- One of the open sessions has the focus, and the surfaces of the others are hidden. -/
structure Arranged (shell : Shell) : Prop where
  empty : shell.focusApplication = none ↔ shell.apps = []
  opened : ∀ session, shell.focusApplication = some session → session ∈ shell.apps
  visible : ∀ session ∈ shell.apps, ∀ key surface,
    (shell.sessions session).surfaces key = some surface →
      (surface.isHidden = true ↔ shell.focusApplication ≠ some session)

/-- The tags relate ids and open sessions one to one. -/
structure OneToOne (manager : SessionManager) : Prop where
  ids : (manager.tags.map Prod.fst).Nodup
  sessions : (manager.tags.map Prod.snd).Nodup
  opened : ∀ tag ∈ manager.tags, tag.2 ∈ manager.shell.apps

theorem set_focus_arranged {shell : Shell} {nextFocus : Option SessionKey}
    (empty : nextFocus = none ↔ shell.apps = [])
    (opened : ∀ session, nextFocus = some session → session ∈ shell.apps) :
    Arranged (setFocusTo shell nextFocus) where
  empty := empty
  opened := opened
  visible := by
    intro session member key surface found
    have listed : session ∈ shell.apps := member
    exact set_focus_hidden listed found

theorem focus_session_arranged {shell : Shell} {session : SessionKey}
    (member : session ∈ shell.apps) : Arranged (setFocusTo shell (some session)) := by
  apply set_focus_arranged
  · simpa using List.ne_nil_of_mem member
  · rintro other ⟨⟩
    exact member

theorem default_focus_arranged (shell : Shell) :
    Arranged (setFocusTo shell (defaultFocus shell.apps)) := by
  rw [default_focus_eq]
  apply set_focus_arranged
  · exact List.getLast?_eq_none_iff
  · intro session last
    exact List.mem_of_getLast? last

theorem focus_next_ok {shell : Shell} (arranged : Arranged shell) :
    ∃ next, ShellSessions.focusNext shell = .ok next ∧ next.apps = shell.apps ∧
      Arranged next := by
  unfold ShellSessions.focusNext
  cases focus : shell.focusApplication with
  | none => exact ⟨_, rfl, rfl, default_focus_arranged shell⟩
  | some session =>
      obtain ⟨successor, opened, succeeded⟩ := successor_of_open (arranged.opened session focus)
      refine ⟨setFocusTo shell (some successor), ?_, rfl, ?_⟩
      · simp [succeeded, Except.map]
      · exact focus_session_arranged opened

theorem update_surface_none {shell : Shell} {session other : SessionKey}
    {key otherKey : SurfaceKey} {surface : SurfaceState}
    (found : ((updateSurface shell session key none).sessions other).surfaces otherKey =
      some surface) :
    (shell.sessions other).surfaces otherKey = some surface := by
  by_cases same : other = session
  · subst same
    by_cases sameKey : otherKey = key
    · subst sameKey
      simp at found
    · simpa [updateSurface, sameKey] using found
  · rwa [update_surface_other shell key none same] at found

theorem destroy_arranged {shell : Shell} (arranged : Arranged shell) (session : SessionKey)
    (key : SurfaceKey) : Arranged (updateSurface shell session key none) where
  empty := arranged.empty
  opened := arranged.opened
  visible := by
    intro other member otherKey surface found
    exact arranged.visible other member otherKey surface (update_surface_none found)

variable {manager next : SessionManager} {operation : Operation}

theorem filter_one_to_one (bijective : OneToOne manager) (keep : Int32 × SessionKey → Bool)
    (shell : Shell) (nextSession : SessionKey)
    (opened : ∀ tag ∈ manager.tags, keep tag = true → tag.2 ∈ shell.apps) :
    OneToOne ⟨shell, manager.tags.filter keep, nextSession⟩ where
  ids := (List.filter_sublist.map Prod.fst).nodup bijective.ids
  sessions := (List.filter_sublist.map Prod.snd).nodup bijective.sessions
  opened := by
    intro tag member
    obtain ⟨before, kept⟩ := List.mem_filter.mp member
    exact opened tag before kept

theorem tag_one_to_one (bijective : OneToOne manager) {session : SessionKey}
    (member : session ∈ manager.shell.apps) (id : Int32) :
    OneToOne (tagSessionWithLightdmId manager session id) := by
  have kept := filter_one_to_one bijective (fun tag => ¬ (tag.1 = id ∨ tag.2 = session))
    manager.shell manager.nextSession (fun tag before _ => bijective.opened tag before)
  constructor
  · simp only [tagSessionWithLightdmId, List.map_append, List.nodup_append]
    refine ⟨kept.ids, by simp, ?_⟩
    simp only [List.mem_map, List.mem_filter, decide_eq_true_eq, not_or]
    rintro other ⟨tag, ⟨-, apart, -⟩, rfl⟩ _ ⟨last, single, rfl⟩
    rw [List.mem_singleton.mp single]
    exact apart
  · simp only [tagSessionWithLightdmId, List.map_append, List.nodup_append]
    refine ⟨kept.sessions, by simp, ?_⟩
    simp only [List.mem_map, List.mem_filter, decide_eq_true_eq, not_or]
    rintro other ⟨tag, ⟨-, -, apart⟩, rfl⟩ _ ⟨last, single, rfl⟩
    rw [List.mem_singleton.mp single]
    exact apart
  · intro tag tagged
    rcases List.mem_append.mp tagged with before | last
    · exact kept.opened tag before
    · rw [List.mem_singleton.mp last]
      exact member

end Invariant

section History

def opens : Operation → Nat
  | .openSession => 1
  | _ => 0

def closedSession : Operation → Option SessionKey
  | .closeSession session => some session
  | _ => none

theorem close_session_cases (manager : SessionManager) (session : SessionKey) :
    session ∈ manager.shell.apps ∧ closeSession manager session = .ok
        { manager with
          shell := setFocusTo { manager.shell with apps := manager.shell.apps.erase session }
            (defaultFocus (manager.shell.apps.erase session))
          tags := manager.tags.filter fun tag => tag.2 ≠ session } ∨
      session ∉ manager.shell.apps ∧
        closeSession manager session = .error ⟨"Invalid Session", none⟩ := by
  by_cases member : session ∈ manager.shell.apps
  · exact .inl ⟨member, by simp only [closeSession, ShellSessions.closeSession, if_pos member]⟩
  · exact .inr ⟨member, by simp only [closeSession, ShellSessions.closeSession, if_neg member]⟩

theorem focus_next_some {manager next : SessionManager} (moved : focusNext manager = .ok next) :
    ∃ nextFocus, next = { manager with shell := setFocusTo manager.shell nextFocus } := by
  unfold focusNext at moved
  cases focused : ShellSessions.focusNext manager.shell with
  | error thrown =>
      simp only [focused] at moved
      cases moved
  | ok shell =>
      simp only [focused] at moved
      cases moved
      obtain ⟨nextFocus, rfl⟩ := focus_next_sets focused
      exact ⟨nextFocus, rfl⟩

theorem perform_keeps_sessions {manager next : SessionManager} {operation : Operation}
    (unopened : opens operation = 0) (unclosed : closedSession operation = none)
    (performed : perform manager operation = .ok next) :
    next.shell.apps = manager.shell.apps ∧ next.nextSession = manager.nextSession := by
  cases operation with
  | openSession => cases unopened
  | closeSession session => cases unclosed
  | createSurfaceFor session created =>
      cases created with
      | error thrown => cases performed
      | ok bufferList =>
          cases performed
          exact ⟨rfl, rfl⟩
  | tagSessionWithLightdmId session id =>
      cases performed
      exact ⟨rfl, rfl⟩
  | focusSessionWithLightdmId id =>
      cases performed
      unfold focusSessionWithLightdmId
      split <;> exact ⟨rfl, rfl⟩
  | focusNext =>
      obtain ⟨nextFocus, rfl⟩ := focus_next_some performed
      exact ⟨rfl, rfl⟩
  | destroySurface session key =>
      simp only [perform, destroySurface] at performed
      split_ifs at performed
      cases performed
      exact ⟨rfl, rfl⟩

def closedSessions (operations : List Operation) : List SessionKey :=
  operations.filterMap closedSession

/-- The sessions that have been opened and not closed, in the order of opening. -/
def openSessions (operations : List Operation) : List SessionKey :=
  (List.range (operations.map opens).sum).filter fun session =>
    session ∉ closedSessions operations

theorem open_sessions_nodup (operations : List Operation) : (openSessions operations).Nodup :=
  List.nodup_range.filter _

variable {history : List Operation}

theorem open_sessions_open
    (used : ∀ session ∈ closedSessions history, session < (history.map opens).sum) :
    openSessions (history ++ [.openSession]) =
      openSessions history ++ [(history.map opens).sum] := by
  have unclosed : (history.map opens).sum ∉ closedSessions history :=
    fun closed => lt_irrefl _ (used _ closed)
  have closed : closedSessions (history ++ [.openSession]) = closedSessions history := by
    simp [closedSessions, closedSession]
  simp [openSessions, closed, opens, List.range_succ, unclosed]

theorem open_sessions_close (session : SessionKey) :
    openSessions (history ++ [.closeSession session]) = (openSessions history).erase session := by
  have closed : closedSessions (history ++ [.closeSession session]) =
      closedSessions history ++ [session] := by
    simp [closedSessions, closedSession]
  have same : ((history ++ [Operation.closeSession session]).map opens).sum =
      (history.map opens).sum := by
    simp [opens]
  rw [(open_sessions_nodup history).erase_eq_filter]
  unfold openSessions
  rw [List.filter_filter, closed, same]
  apply List.filter_congr
  intro other _
  rw [Bool.eq_iff_iff]
  simp [and_comm]

theorem open_sessions_other {operation : Operation} (unopened : opens operation = 0)
    (unclosed : closedSession operation = none) :
    openSessions (history ++ [operation]) = openSessions history := by
  simp [openSessions, closedSessions, unopened, unclosed]

structure Kept (history : List Operation) (manager : SessionManager) : Prop where
  opened : manager.nextSession = (history.map opens).sum
  used : ∀ session ∈ closedSessions history, session < manager.nextSession
  listed : manager.shell.apps = openSessions history
  arranged : Arranged manager.shell
  bijective : OneToOne manager

theorem none_kept : Kept [] noSessions where
  opened := rfl
  used := by simp [closedSessions]
  listed := rfl
  arranged := ⟨by simp [noSessions], by simp [noSessions], by simp [noSessions]⟩
  bijective := ⟨by simp [noSessions], by simp [noSessions], by simp [noSessions]⟩

variable {manager next : SessionManager}

theorem other_kept (kept : Kept history manager) {operation : Operation}
    (unopened : opens operation = 0) (unclosed : closedSession operation = none)
    (counted : next.nextSession = manager.nextSession)
    (listed : next.shell.apps = manager.shell.apps)
    (arranged : Arranged next.shell) (bijective : OneToOne next) :
    Kept (history ++ [operation]) next where
  opened := by simp [counted, kept.opened, unopened]
  used := by simpa [closedSessions, unclosed, counted] using kept.used
  listed := by rw [listed, kept.listed, open_sessions_other unopened unclosed]
  arranged := arranged
  bijective := bijective

theorem shell_kept (kept : Kept history manager) {operation : Operation}
    (unopened : opens operation = 0) (unclosed : closedSession operation = none) {shell : Shell}
    (listed : shell.apps = manager.shell.apps) (arranged : Arranged shell) :
    Kept (history ++ [operation]) { manager with shell := shell } := by
  have bijective : OneToOne { manager with shell := shell } := by
    refine { kept.bijective with opened := ?_ }
    intro tag tagged
    rw [listed]
    exact kept.bijective.opened tag tagged
  exact other_kept kept unopened unclosed rfl listed arranged bijective

theorem failed_kept (kept : Kept history manager) {operation : Operation}
    (unopened : opens operation = 0) (unclosed : closedSession operation = none) :
    Kept (history ++ [operation]) manager :=
  shell_kept kept unopened unclosed rfl kept.arranged

theorem open_kept (kept : Kept history manager) :
    Kept (history ++ [.openSession]) (openSession manager) where
  opened := by simp [openSession, kept.opened, opens]
  used := by
    intro session closed
    have before : session ∈ closedSessions history := by
      simpa [closedSessions, closedSession] using closed
    exact lt_trans (kept.used session before) (Nat.lt_succ_self _)
  listed := by
    have used := kept.used
    rw [kept.opened] at used
    rw [open_sessions_open used, ← kept.listed, ← kept.opened]
    rfl
  arranged := focus_session_arranged (by simp)
  bijective :=
    { kept.bijective with
      opened := fun tag member => List.mem_append_left _ (kept.bijective.opened tag member) }

theorem close_kept (kept : Kept history manager) {session : SessionKey}
    (member : session ∈ manager.shell.apps) :
    ∃ next, closeSession manager session = .ok next ∧
      Kept (history ++ [.closeSession session]) next := by
  have below : session < manager.nextSession := by
    rw [kept.listed, openSessions, List.mem_filter, List.mem_range] at member
    rw [kept.opened]
    exact member.1
  have distinct : manager.shell.apps.Nodup := by
    rw [kept.listed]
    exact open_sessions_nodup history
  simp only [closeSession, ShellSessions.closeSession, if_pos member]
  refine ⟨_, rfl, ?_⟩
  constructor
  · simp [kept.opened, opens]
  · intro other closed
    have known : other ∈ closedSessions history ∨ other = session := by
      simpa [closedSessions, closedSession, or_comm, eq_comm] using closed
    rcases known with before | rfl
    · exact kept.used other before
    · exact below
  · rw [open_sessions_close, ← kept.listed]
    rfl
  · exact default_focus_arranged { manager.shell with apps := manager.shell.apps.erase session }
  · apply filter_one_to_one kept.bijective
    intro tag tagged apart
    have different : tag.2 ≠ session := by simpa using apart
    exact (distinct.mem_erase_iff).mpr ⟨different, kept.bijective.opened tag tagged⟩

theorem focus_next_kept (kept : Kept history manager) :
    ∃ next, focusNext manager = .ok next ∧ Kept (history ++ [.focusNext]) next := by
  obtain ⟨shell, succeeded, same, arranged⟩ := focus_next_ok kept.arranged
  refine ⟨{ manager with shell := shell }, ?_, ?_⟩
  · simp [focusNext, succeeded]
  · exact shell_kept kept rfl rfl same arranged

theorem step_kept {operation : Operation} (kept : Kept history manager)
    (stepped : restrict givenOpen step manager operation = some next) :
    Kept (history ++ [operation]) next := by
  obtain ⟨given, moved⟩ := restrict_some.mp stepped
  unfold step perform at moved
  cases operation with
  | openSession =>
      cases moved
      exact open_kept kept
  | closeSession session =>
      obtain ⟨closed, succeeded, after⟩ := close_kept kept (of_decide_eq_true given)
      simp only [succeeded] at moved
      cases moved
      exact after
  | createSurfaceFor session created =>
      have member : session ∈ manager.shell.apps := of_decide_eq_true given
      cases created with
      | error thrown =>
          cases moved
          exact failed_kept kept rfl rfl
      | ok bufferList =>
          cases moved
          refine shell_kept kept rfl rfl rfl ?_
          exact focus_session_arranged member
  | tagSessionWithLightdmId session id =>
      cases moved
      refine other_kept kept rfl rfl rfl rfl kept.arranged ?_
      exact tag_one_to_one kept.bijective (of_decide_eq_true given) id
  | focusSessionWithLightdmId id =>
      simp only [focusSessionWithLightdmId] at moved
      cases matched : manager.tags.find? fun tag => tag.1 = id with
      | none =>
          simp only [matched] at moved
          cases moved
          exact failed_kept kept rfl rfl
      | some tag =>
          simp only [matched] at moved
          cases moved
          refine shell_kept kept rfl rfl rfl ?_
          apply focus_session_arranged
          exact kept.bijective.opened tag (List.mem_of_find?_eq_some matched)
  | focusNext =>
      obtain ⟨focused, succeeded, after⟩ := focus_next_kept kept
      simp only [succeeded] at moved
      cases moved
      exact after
  | destroySurface session key =>
      simp only [destroySurface] at moved
      split_ifs at moved with found
      · cases moved
        exact shell_kept kept rfl rfl rfl (destroy_arranged kept.arranged session key)
      · cases moved
        exact failed_kept kept rfl rfl

theorem run_kept {operations : List Operation}
    (ran : run (restrict givenOpen step) noSessions operations = some manager) :
    Kept operations manager :=
  run_history_invariant Kept none_kept
    (fun _ _ _ _ kept stepped => step_kept kept stepped) ran

end History

theorem focus_follows_the_sessions {operations : List Operation} {manager : SessionManager}
    (ran : run (restrict givenOpen step) noSessions operations = some manager) :
    manager.shell.apps = openSessions operations ∧ Arranged manager.shell ∧
      OneToOne manager ∧ ∃ next, focusNext manager = .ok next := by
  have kept := run_kept ran
  obtain ⟨next, succeeded, -⟩ := focus_next_kept kept
  exact ⟨kept.listed, kept.arranged, kept.bijective, next, succeeded⟩

/-- The last session is closed while an earlier one is tagged and has a surface. -/
def greeterRun : List Operation :=
  [.openSession, .createSurfaceFor 0 (.ok [⟨1⟩, ⟨2⟩]), .tagSessionWithLightdmId 0 7, .openSession,
    .openSession, .createSurfaceFor 2 (.error ⟨"out of buffers", none⟩), .closeSession 1,
    .focusSessionWithLightdmId 7, .focusNext, .createSurfaceFor 2 (.ok [⟨3⟩, ⟨4⟩, ⟨5⟩]),
    .destroySurface 2 0, .focusNext]

theorem greeter_keeps_the_focus :
    ∃ manager, run (restrict givenOpen step) noSessions greeterRun = some manager ∧
      manager.shell.apps = [0, 2] ∧ manager.shell.focusApplication = some 0 ∧
      Arranged manager.shell ∧ OneToOne manager := by
  obtain ⟨manager, ran, focus⟩ : ∃ manager,
      run (restrict givenOpen step) noSessions greeterRun = some manager ∧
        manager.shell.focusApplication = some 0 := ⟨_, rfl, rfl⟩
  obtain ⟨listed, arranged, bijective, -⟩ := focus_follows_the_sessions ran
  exact ⟨manager, ran, listed, focus, arranged, bijective⟩

end Mir.SessionFocus
