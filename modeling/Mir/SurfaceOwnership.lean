import Mathlib.Data.List.Nodup
import Mir.DesktopSurfaces

/-!
# Who owns the surfaces of the stack

What holds after any operations on the desktop: the stack has the surfaces of the
session objects that are alive, once each and by age. A session that is closed stays
alive while the input manager holds it.
-/

namespace Mir.SurfaceOwnership

open Mir.TransitionRuns Mir.SwapperModel Mir.ShellSessions Mir.DesktopSurfaces
open Mir.SessionFocus hiding perform givenOpen step

set_option autoImplicit false

section Invariant

def Owns (desktop : Desktop) (session : SessionKey) (object : SurfaceObject) : Prop :=
  ∃ key, Present desktop.manager.shell session key ∧ desktop.surfaceOf session key = object

/-- The stack has the surfaces of the living sessions, in the order of their creation. -/
structure Stocked (desktop : Desktop) : Prop where
  keys : ∀ session key, Present desktop.manager.shell session key →
    key < (desktop.manager.shell.sessions session).nextSurfaceId
  counted : ∀ session, (desktop.manager.shell.sessions session).nextSurfaceId ≤ desktop.created
  fresh : ∀ session key, Present desktop.manager.shell session key →
    desktop.surfaceOf session key < desktop.created
  ascending : ∀ session key later, Present desktop.manager.shell session key →
    Present desktop.manager.shell session later → key < later →
    desktop.surfaceOf session key < desktop.surfaceOf session later
  apart : ∀ session other object, Owns desktop session object → Owns desktop other object →
    session = other
  ordered : desktop.stack.Pairwise (· < ·)
  members : ∀ object, object ∈ desktop.stack ↔
    ∃ session ∈ desktop.alive, Owns desktop session object

/-- The sessions that are open or that the input manager holds are alive. -/
structure Lasting (desktop : Desktop) : Prop where
  opened : ∀ session ∈ desktop.manager.shell.apps, session ∈ desktop.alive
  born : ∀ session ∈ desktop.alive, session < desktop.manager.nextSession
  focused : ∀ session, desktop.input.focusedApplicationHandle = some session →
    desktop.input.dispatcherApplicationHandle = some session
  held : ∀ session, desktop.input.dispatcherApplicationHandle = some session →
    session ∈ desktop.alive

theorem started_stocked : Stocked started where
  keys := by simp [Present, started, noSessions]
  counted := by simp [started, noSessions]
  fresh := by simp [Present, started, noSessions]
  ascending := by simp [Present, started, noSessions]
  apart := by simp [Owns, Present, started, noSessions]
  ordered := by simp [started]
  members := by simp [started]

theorem started_lasting : Lasting started where
  opened := by simp [started, noSessions]
  born := by simp [started]
  focused := by simp [started]
  held := by simp [started]

variable {desktop : Desktop}

theorem surface_of_injective (stocked : Stocked desktop) {session other : SessionKey}
    {key otherKey : SurfaceKey} (present : Present desktop.manager.shell session key)
    (otherPresent : Present desktop.manager.shell other otherKey)
    (same : desktop.surfaceOf session key = desktop.surfaceOf other otherKey) :
    session = other ∧ key = otherKey := by
  obtain rfl := stocked.apart session other _ ⟨key, present, same⟩ ⟨otherKey, otherPresent, rfl⟩
  refine ⟨rfl, ?_⟩
  rcases Nat.lt_trichotomy key otherKey with earlier | rfl | later
  · exact absurd same (stocked.ascending session key otherKey present otherPresent earlier).ne
  · rfl
  · exact absurd same (stocked.ascending session otherKey key otherPresent present later).ne'

theorem same_surfaces_stocked (stocked : Stocked desktop) {next : SessionManager}
    (present : ∀ session key, Present next.shell session key ↔
      Present desktop.manager.shell session key)
    (ids : ∀ session, (next.shell.sessions session).nextSurfaceId =
      (desktop.manager.shell.sessions session).nextSurfaceId) :
    Stocked { desktop with manager := next } := by
  have owned : ∀ session object, Owns { desktop with manager := next } session object ↔
      Owns desktop session object := by
    intro session object
    simp only [Owns, present]
  constructor
  · simpa only [present, ids] using stocked.keys
  · simpa only [ids] using stocked.counted
  · simpa only [present] using stocked.fresh
  · simpa only [present] using stocked.ascending
  · simpa only [owned] using stocked.apart
  · exact stocked.ordered
  · simpa only [owned] using stocked.members

theorem opened_owns (desktop : Desktop) (session : SessionKey) (object : SurfaceObject) :
    Owns (handled desktop (SessionFocus.openSession desktop.manager) .openSession) session object ↔
      session ≠ desktop.manager.nextSession ∧ Owns desktop session object := by
  have present : ∀ key, Present (SessionFocus.openSession desktop.manager).shell session key ↔ _ :=
    fun key => present_open desktop.manager.shell desktop.manager.nextSession session key
  constructor
  · rintro ⟨key, found, same⟩
    obtain ⟨different, before⟩ := (present key).mp found
    exact ⟨different, key, before, same⟩
  · rintro ⟨different, key, before, same⟩
    exact ⟨key, (present key).mpr ⟨different, before⟩, same⟩

theorem opened_stocked (stocked : Stocked desktop) (lasting : Lasting desktop) :
    Stocked (handled desktop (SessionFocus.openSession desktop.manager) .openSession) := by
  have present : ∀ {session key},
      Present (SessionFocus.openSession desktop.manager).shell session key →
        session ≠ desktop.manager.nextSession ∧ Present desktop.manager.shell session key :=
    fun found => (present_open desktop.manager.shell _ _ _).mp found
  constructor
  · exact keyed_open desktop.manager.nextSession stocked.keys
  · intro session
    simp only [handled, SessionFocus.openSession, next_id_open]
    split_ifs
    · exact Nat.zero_le _
    · exact stocked.counted session
  · intro session key found
    exact stocked.fresh session key (present found).2
  · intro session key later found laterFound
    exact stocked.ascending session key later (present found).2 (present laterFound).2
  · intro session other object owns otherOwns
    exact stocked.apart session other object ((opened_owns desktop session object).mp owns).2
      ((opened_owns desktop other object).mp otherOwns).2
  · exact stocked.ordered
  · intro object
    refine (stocked.members object).trans ?_
    constructor
    · rintro ⟨session, living, owns⟩
      have different := (lasting.born session living).ne
      exact ⟨session, List.mem_append_left _ living,
        (opened_owns desktop session object).mpr ⟨different, owns⟩⟩
    · rintro ⟨session, living, owns⟩
      obtain ⟨different, before⟩ := (opened_owns desktop session object).mp owns
      rcases List.mem_append.mp living with already | new
      · exact ⟨session, already, before⟩
      · exact absurd (List.mem_singleton.mp new) different

theorem created_surface_of (desktop : Desktop) (session : SessionKey)
    (created : Except StdException (List BufferID)) :
    (handle desktop (.createSurfaceFor session created)).surfaceOf session
      (desktop.manager.shell.sessions session).nextSurfaceId = desktop.created := by
  simp [handle]

theorem handle_surface_of (operation : Operation) {session : SessionKey} {key : SurfaceKey}
    (used : key < (desktop.manager.shell.sessions session).nextSurfaceId) :
    (handle desktop operation).surfaceOf session key = desktop.surfaceOf session key := by
  cases operation with
  | createSurfaceFor other created =>
      by_cases same : session = other
      · subst same
        simp [handle, used.ne]
      · simp [handle, same]
  | _ => rfl

section Creation

variable {session : SessionKey} {bufferList : List BufferID} {next : SessionManager}

theorem created_present
    (made : SessionFocus.createSurfaceFor desktop.manager session (.ok bufferList) = .ok next)
    (other : SessionKey) (key : SurfaceKey) :
    Present next.shell other key ↔ Present desktop.manager.shell other key ∨
      other = session ∧ key = (desktop.manager.shell.sessions session).nextSurfaceId := by
  cases made
  exact present_create desktop.manager.shell session other key bufferList

theorem created_owns (stocked : Stocked desktop)
    (made : SessionFocus.createSurfaceFor desktop.manager session (.ok bufferList) = .ok next)
    (other : SessionKey) (object : SurfaceObject) :
    Owns (handled desktop next (.createSurfaceFor session (.ok bufferList))) other object ↔
      Owns desktop other object ∨ other = session ∧ object = desktop.created := by
  have added := created_surface_of desktop session (.ok bufferList)
  have unchanged : ∀ {key}, key < (desktop.manager.shell.sessions other).nextSurfaceId → _ :=
    fun used => handle_surface_of (.createSurfaceFor session (.ok bufferList)) used
  constructor
  · rintro ⟨key, found, rfl⟩
    rcases (created_present made other key).mp found with before | ⟨rfl, rfl⟩
    · exact .inl ⟨key, before, (unchanged (stocked.keys other key before)).symm⟩
    · exact .inr ⟨rfl, added⟩
  · rintro (⟨key, before, rfl⟩ | ⟨rfl, rfl⟩)
    · exact ⟨key, (created_present made other key).mpr (.inl before),
        unchanged (stocked.keys other key before)⟩
    · exact ⟨_, (created_present made other _).mpr (.inr ⟨rfl, rfl⟩), added⟩

theorem owns_below (stocked : Stocked desktop) {object : SurfaceObject}
    (owns : Owns desktop session object) : object < desktop.created := by
  obtain ⟨key, found, rfl⟩ := owns
  exact stocked.fresh session key found

theorem created_ascending (stocked : Stocked desktop)
    (made : SessionFocus.createSurfaceFor desktop.manager session (.ok bufferList) = .ok next)
    {other : SessionKey} {key later : SurfaceKey} (found : Present next.shell other key)
    (laterFound : Present next.shell other later) (less : key < later) :
    (handle desktop (.createSurfaceFor session (.ok bufferList))).surfaceOf other key <
      (handle desktop (.createSurfaceFor session (.ok bufferList))).surfaceOf other later := by
  rcases (created_present made other key).mp found with before | ⟨rfl, rfl⟩
  · rw [handle_surface_of _ (stocked.keys other key before)]
    rcases (created_present made other later).mp laterFound with laterBefore | ⟨rfl, rfl⟩
    · rw [handle_surface_of _ (stocked.keys other later laterBefore)]
      exact stocked.ascending other key later before laterBefore less
    · rw [created_surface_of]
      exact stocked.fresh other key before
  · rcases (created_present made other later).mp laterFound with laterBefore | ⟨-, rfl⟩
    · exact absurd (stocked.keys other later laterBefore) less.le.not_gt
    · exact absurd less (Nat.lt_irrefl _)

theorem created_stocked (stocked : Stocked desktop) (living : session ∈ desktop.alive)
    (made : SessionFocus.createSurfaceFor desktop.manager session (.ok bufferList) = .ok next) :
    Stocked (handled desktop next (.createSurfaceFor session (.ok bufferList))) := by
  have owned := created_owns stocked made
  have ids : ∀ other, (next.shell.sessions other).nextSurfaceId =
      if other = session then (desktop.manager.shell.sessions session).nextSurfaceId + 1
      else (desktop.manager.shell.sessions other).nextSurfaceId := by
    intro other
    cases made
    exact next_id_create desktop.manager.shell session other bufferList
  constructor
  · cases made
    exact keyed_create session stocked.keys bufferList
  · intro other
    change (next.shell.sessions other).nextSurfaceId ≤ desktop.created + 1
    rw [ids]
    split_ifs
    · exact Nat.succ_le_succ (stocked.counted session)
    · exact (stocked.counted other).trans (Nat.le_succ _)
  · intro other key found
    have owns := (owned other _).mp ⟨key, found, rfl⟩
    rcases owns with before | ⟨-, same⟩
    · exact (owns_below stocked before).trans (Nat.lt_succ_self _)
    · exact same.trans_lt (Nat.lt_succ_self _)
  · intro other key later found laterFound less
    exact created_ascending stocked made found laterFound less
  · intro first second object owns otherOwns
    rcases (owned first object).mp owns with before | ⟨rfl, rfl⟩
    · rcases (owned second object).mp otherOwns with otherBefore | ⟨-, rfl⟩
      · exact stocked.apart first second object before otherBefore
      · exact absurd (owns_below stocked before) (Nat.lt_irrefl _)
    · rcases (owned second _).mp otherOwns with otherBefore | ⟨rfl, -⟩
      · exact absurd (owns_below stocked otherBefore) (Nat.lt_irrefl _)
      · rfl
  · have last : ∀ object ∈ desktop.stack, object < desktop.created := by
      intro object stacked
      obtain ⟨other, -, owns⟩ := (stocked.members object).mp stacked
      exact owns_below stocked owns
    simpa [handled, handle, List.pairwise_append] using ⟨stocked.ordered, last⟩
  · intro object
    have stacked : object ∈ desktop.stack ++ [desktop.created] ↔
        (∃ other ∈ desktop.alive, Owns desktop other object) ∨ object = desktop.created := by
      rw [List.mem_append, List.mem_singleton, stocked.members object]
    refine stacked.trans ?_
    constructor
    · rintro (⟨other, otherLiving, owns⟩ | rfl)
      · exact ⟨other, otherLiving, (owned other object).mpr (.inl owns)⟩
      · exact ⟨session, living, (owned session _).mpr (.inr ⟨rfl, rfl⟩)⟩
    · rintro ⟨other, otherLiving, owns⟩
      rcases (owned other object).mp owns with before | ⟨-, rfl⟩
      · exact .inl ⟨other, otherLiving, before⟩
      · exact .inr rfl

end Creation

section Destruction

variable {session : SessionKey} {key : SurfaceKey} {next : SessionManager}

theorem destroyed_some
    (gone : SessionFocus.destroySurface desktop.manager session key = .ok next) :
    Present desktop.manager.shell session key ∧
      next = { desktop.manager with
        shell := updateSurface desktop.manager.shell session key none } := by
  unfold SessionFocus.destroySurface at gone
  split_ifs at gone with found
  cases gone
  exact ⟨found, rfl⟩

theorem destroyed_present
    (gone : SessionFocus.destroySurface desktop.manager session key = .ok next)
    (other : SessionKey) (otherKey : SurfaceKey) :
    Present next.shell other otherKey ↔
      Present desktop.manager.shell other otherKey ∧ ¬(other = session ∧ otherKey = key) := by
  obtain ⟨-, rfl⟩ := destroyed_some gone
  exact present_destroy desktop.manager.shell session other key otherKey

theorem destroyed_owns (stocked : Stocked desktop)
    (gone : SessionFocus.destroySurface desktop.manager session key = .ok next)
    (other : SessionKey) (object : SurfaceObject) :
    Owns (handled desktop next (.destroySurface session key)) other object ↔
      Owns desktop other object ∧ object ≠ desktop.surfaceOf session key := by
  obtain ⟨found, -⟩ := destroyed_some gone
  constructor
  · rintro ⟨otherKey, remains, rfl⟩
    obtain ⟨before, different⟩ := (destroyed_present gone other otherKey).mp remains
    refine ⟨⟨otherKey, before, rfl⟩, ?_⟩
    intro same
    exact different (surface_of_injective stocked before found same)
  · rintro ⟨⟨otherKey, before, rfl⟩, different⟩
    refine ⟨otherKey, (destroyed_present gone other otherKey).mpr ⟨before, ?_⟩, rfl⟩
    rintro ⟨rfl, rfl⟩
    exact different rfl

theorem destroyed_stocked (stocked : Stocked desktop)
    (gone : SessionFocus.destroySurface desktop.manager session key = .ok next) :
    Stocked (handled desktop next (.destroySurface session key)) := by
  have owned := destroyed_owns stocked gone
  have present : ∀ {other otherKey}, Present next.shell other otherKey →
      Present desktop.manager.shell other otherKey :=
    fun remains => ((destroyed_present gone _ _).mp remains).1
  have ids : ∀ other, (next.shell.sessions other).nextSurfaceId =
      (desktop.manager.shell.sessions other).nextSurfaceId := by
    intro other
    obtain ⟨-, rfl⟩ := destroyed_some gone
    exact next_id_destroy desktop.manager.shell session other key
  have distinct : desktop.stack.Nodup := stocked.ordered.imp Nat.ne_of_lt
  constructor
  · intro other otherKey remains
    exact (stocked.keys other otherKey (present remains)).trans_eq (ids other).symm
  · intro other
    exact (ids other).trans_le (stocked.counted other)
  · intro other otherKey remains
    exact stocked.fresh other otherKey (present remains)
  · intro other otherKey later remains laterRemains
    exact stocked.ascending other otherKey later (present remains) (present laterRemains)
  · intro first second object owns otherOwns
    exact stocked.apart first second object ((owned first object).mp owns).1
      ((owned second object).mp otherOwns).1
  · exact stocked.ordered.sublist List.erase_sublist
  · intro object
    have stacked : object ∈ desktop.stack.erase (desktop.surfaceOf session key) ↔
        object ≠ desktop.surfaceOf session key ∧
          ∃ other ∈ desktop.alive, Owns desktop other object := by
      rw [distinct.mem_erase_iff, stocked.members object]
    refine stacked.trans ?_
    constructor
    · rintro ⟨different, other, living, owns⟩
      exact ⟨other, living, (owned other object).mpr ⟨owns, different⟩⟩
    · rintro ⟨other, living, owns⟩
      obtain ⟨before, different⟩ := (owned other object).mp owns
      exact ⟨different, other, living, before⟩

end Destruction

section Others

/-- The operations that neither make nor destroy a surface or a session. -/
def keepsSurfaces : Operation → Bool
  | .closeSession _ | .tagSessionWithLightdmId _ _ | .focusSessionWithLightdmId _
  | .focusNext => true
  | .openSession | .createSurfaceFor _ _ | .destroySurface _ _ => false

structure SameSurfaces (manager next : SessionManager) : Prop where
  present : ∀ session key, Present next.shell session key ↔ Present manager.shell session key
  ids : ∀ session, (next.shell.sessions session).nextSurfaceId =
    (manager.shell.sessions session).nextSurfaceId
  apps : ∀ session ∈ next.shell.apps, session ∈ manager.shell.apps
  counted : next.nextSession = manager.nextSession

theorem set_focus_same_surfaces {manager next : SessionManager} {apps : List SessionKey}
    (fewer : ∀ session ∈ apps, session ∈ manager.shell.apps) {nextFocus : Option SessionKey}
    (focused : next.shell = setFocusTo { manager.shell with apps := apps } nextFocus)
    (counted : next.nextSession = manager.nextSession) : SameSurfaces manager next where
  present := by
    intro session key
    rw [focused]
    exact present_set_focus _ session key nextFocus
  ids := by
    intro session
    rw [focused]
    exact next_id_set_focus _ session nextFocus
  apps := by
    rw [focused]
    exact fewer
  counted := counted

theorem perform_same_surfaces {manager next : SessionManager} {operation : Operation}
    (keeps : keepsSurfaces operation = true)
    (performed : SessionFocus.perform manager operation = .ok next) :
    SameSurfaces manager next := by
  have unchanged : SameSurfaces manager manager := by constructor <;> simp
  cases operation with
  | openSession => cases keeps
  | createSurfaceFor session created => cases keeps
  | destroySurface session key => cases keeps
  | closeSession session =>
      rcases close_session_cases manager session with ⟨-, closed⟩ | ⟨-, failed⟩
      · cases closed.symm.trans performed
        exact set_focus_same_surfaces (fun _ listed => List.mem_of_mem_erase listed) rfl rfl
      · cases failed.symm.trans performed
  | tagSessionWithLightdmId session id =>
      cases performed
      exact ⟨unchanged.present, unchanged.ids, unchanged.apps, rfl⟩
  | focusSessionWithLightdmId id =>
      cases performed
      unfold SessionFocus.focusSessionWithLightdmId
      split
      · exact set_focus_same_surfaces (fun _ listed => listed) rfl rfl
      · exact unchanged
  | focusNext =>
      obtain ⟨nextFocus, rfl⟩ := focus_next_some performed
      exact set_focus_same_surfaces (fun _ listed => listed) rfl rfl

theorem handled_stocked (stocked : Stocked desktop) (lasting : Lasting desktop)
    {operation : Operation} (given : givenOpen desktop operation = true) {next : SessionManager}
    (performed : SessionFocus.perform desktop.manager operation = .ok next) :
    Stocked (handled desktop next operation) := by
  have others : keepsSurfaces operation = true →
      Stocked { desktop with manager := next } := by
    intro keeps
    have same := perform_same_surfaces keeps performed
    exact same_surfaces_stocked stocked same.present same.ids
  cases operation with
  | openSession =>
      cases performed
      exact opened_stocked stocked lasting
  | createSurfaceFor session created =>
      cases created with
      | error thrown => cases performed
      | ok bufferList =>
          exact created_stocked stocked (lasting.opened session (of_decide_eq_true given)) performed
  | destroySurface session key => exact destroyed_stocked stocked performed
  | closeSession session => exact others rfl
  | tagSessionWithLightdmId session id => exact others rfl
  | focusSessionWithLightdmId id => exact others rfl
  | focusNext => exact others rfl

theorem opens_other {operation : Operation} (opening : operation ≠ .openSession) :
    opens operation = 0 := by
  cases operation <;> first | rfl | exact absurd rfl opening

theorem closed_other {operation : Operation} (keeps : ¬keepsSurfaces operation = true) :
    closedSession operation = none := by
  cases operation <;> first | rfl | exact absurd rfl keeps

theorem handled_lasting (lasting : Lasting desktop) {operation : Operation} {next : SessionManager}
    (performed : SessionFocus.perform desktop.manager operation = .ok next) :
    Lasting (handled desktop next operation) := by
  by_cases opening : operation = .openSession
  · subst opening
    cases performed
    refine ⟨?_, ?_, lasting.focused, ?_⟩
    · intro session listed
      rcases List.mem_append.mp listed with before | new
      · exact List.mem_append_left _ (lasting.opened session before)
      · exact List.mem_append_right _ new
    · intro session living
      rcases List.mem_append.mp living with before | new
      · exact (lasting.born session before).trans (Nat.lt_succ_self _)
      · rw [List.mem_singleton.mp new]
        exact Nat.lt_succ_self _
    · intro session holds
      exact List.mem_append_left _ (lasting.held session holds)
  · have fewer : (∀ session ∈ next.shell.apps, session ∈ desktop.manager.shell.apps) ∧
        next.nextSession = desktop.manager.nextSession := by
      by_cases keeps : keepsSurfaces operation = true
      · have same := perform_same_surfaces keeps performed
        exact ⟨same.apps, same.counted⟩
      · obtain ⟨sameApps, sameCount⟩ :=
          perform_keeps_sessions (opens_other opening) (closed_other keeps) performed
        exact ⟨fun session listed => sameApps ▸ listed, sameCount⟩
    have living : (handle desktop operation).alive = desktop.alive := by
      cases operation <;> first | rfl | exact absurd rfl opening
    have input : (handle desktop operation).input = desktop.input := by
      cases operation <;> rfl
    constructor
    · intro session listed
      change session ∈ (handle desktop operation).alive
      rw [living]
      exact lasting.opened session (fewer.1 session listed)
    · intro session alive
      change session ∈ (handle desktop operation).alive at alive
      rw [living] at alive
      exact (lasting.born session alive).trans_eq fewer.2.symm
    · simpa only [handled, input] using lasting.focused
    · simpa only [handled, input, living] using lasting.held

end Others

section Focus

variable (build : InputBuild)

theorem refocus_eq (desktop : Desktop) :
    refocus build desktop = { desktop with
      input := (refocus build desktop).input
      handed := (refocus build desktop).handed } := by
  unfold refocus
  split
  · split_ifs <;> rfl
  · rfl

theorem refocus_stocked (stocked : Stocked desktop) : Stocked (refocus build desktop) := by
  rw [refocus_eq]
  exact ⟨stocked.keys, stocked.counted, stocked.fresh, stocked.ascending, stocked.apart,
    stocked.ordered, stocked.members⟩

variable {build} {input : InputManager} {session other : SessionKey}
  {surface : Option SurfaceObject}

theorem set_input_focus_focused
    (focused : input.focusedApplicationHandle = some other →
      input.dispatcherApplicationHandle = some other)
    (holds : (setInputFocusTo build input session surface).focusedApplicationHandle = some other) :
    (setInputFocusTo build input session surface).dispatcherApplicationHandle = some other := by
  cases build with
  | dummy => exact focused holds
  | android =>
      cases surface with
      | some window => exact holds
      | none =>
          simp only [setInputFocusTo] at holds ⊢
          split_ifs at holds ⊢
          exact focused holds

theorem set_input_focus_held
    (holds : (setInputFocusTo build input session surface).dispatcherApplicationHandle =
      some other) :
    input.dispatcherApplicationHandle = some other ∨ other = session := by
  cases build with
  | dummy => exact .inl holds
  | android =>
      cases surface with
      | some window => exact .inr (Option.some.inj holds).symm
      | none =>
          left
          simp only [setInputFocusTo] at holds
          split_ifs at holds <;> exact holds

theorem refocus_lasting (lasting : Lasting desktop) : Lasting (refocus build desktop) := by
  unfold refocus
  split
  · next session _ =>
      split_ifs with listed
      · refine ⟨lasting.opened, lasting.born, ?_, ?_⟩
        · intro other holds
          exact set_input_focus_focused (lasting.focused other) holds
        · intro other holds
          rcases set_input_focus_held holds with before | rfl
          · exact lasting.held other before
          · exact lasting.opened other listed
      · exact lasting
  · exact lasting

end Focus

section Release

theorem default_surface_some (stocked : Stocked desktop) (session : SessionKey)
    (object : SurfaceObject) :
    defaultSurface desktop session = some object ↔
      Owns desktop session object ∧ ∀ other, Owns desktop session other → object ≤ other := by
  simp only [defaultSurface, Option.map_eq_some_iff, List.find?_range_eq_some]
  constructor
  · rintro ⟨key, ⟨found, -, first⟩, rfl⟩
    refine ⟨⟨key, found, rfl⟩, ?_⟩
    rintro other ⟨otherKey, otherFound, rfl⟩
    rcases Nat.lt_trichotomy key otherKey with earlier | rfl | later
    · exact (stocked.ascending session key otherKey found otherFound earlier).le
    · exact Nat.le_refl _
    · have absent := first otherKey later
      rw [show ((desktop.manager.shell.sessions session).surfaces otherKey).isSome = true from
        otherFound] at absent
      cases absent
  · rintro ⟨⟨key, found, rfl⟩, oldest⟩
    refine ⟨key, ⟨found, List.mem_range.mpr (stocked.keys session key found), ?_⟩, rfl⟩
    intro otherKey earlier
    by_contra present
    have otherFound : Present desktop.manager.shell session otherKey := by
      simpa [Present, Option.isSome_iff_ne_none] using present
    have younger := oldest _ ⟨otherKey, otherFound, rfl⟩
    exact absurd (stocked.ascending session otherKey key otherFound found earlier) younger.not_gt

theorem mem_session_surfaces (stocked : Stocked desktop) (session : SessionKey)
    (object : SurfaceObject) :
    object ∈ sessionSurfaces desktop session ↔ Owns desktop session object := by
  simp only [sessionSurfaces, List.mem_map, List.mem_filter, List.mem_range]
  constructor
  · rintro ⟨key, ⟨-, found⟩, same⟩
    exact ⟨key, found, same⟩
  · rintro ⟨key, found, same⟩
    exact ⟨key, ⟨stocked.keys session key found, found⟩, same⟩

theorem release_stocked (stocked : Stocked desktop) : Stocked (release desktop) := by
  have distinct : desktop.stack.Nodup := stocked.ordered.imp Nat.ne_of_lt
  refine ⟨stocked.keys, stocked.counted, stocked.fresh, stocked.ascending, stocked.apart,
    stocked.ordered.sublist (List.diff_sublist _ _), ?_⟩
  intro object
  have stacked : object ∈ (release desktop).stack ↔
      (∃ session ∈ desktop.alive, Owns desktop session object) ∧
        ¬∃ session ∈ desktop.alive, referenced desktop session = false ∧
          Owns desktop session object := by
    simp only [release]
    rw [distinct.mem_sdiff_iff, stocked.members object]
    simp [mem_session_surfaces stocked, and_assoc]
  refine stacked.trans ?_
  constructor
  · rintro ⟨⟨session, living, owns⟩, kept⟩
    refine ⟨session, List.mem_filter.mpr ⟨living, ?_⟩, owns⟩
    by_contra unreferenced
    exact kept ⟨session, living, Bool.eq_false_iff.mpr unreferenced, owns⟩
  · rintro ⟨session, remains, owns⟩
    obtain ⟨living, refers⟩ := List.mem_filter.mp remains
    refine ⟨⟨session, living, owns⟩, ?_⟩
    rintro ⟨other, -, unreferenced, otherOwns⟩
    obtain rfl := stocked.apart session other object owns otherOwns
    rw [refers] at unreferenced
    cases unreferenced

theorem release_lasting (lasting : Lasting desktop) : Lasting (release desktop) := by
  refine ⟨?_, ?_, lasting.focused, ?_⟩
  · intro session listed
    refine List.mem_filter.mpr ⟨lasting.opened session listed, ?_⟩
    exact decide_eq_true (.inl listed)
  · intro session remains
    exact lasting.born session (List.mem_filter.mp remains).1
  · intro session holds
    refine List.mem_filter.mpr ⟨lasting.held session holds, ?_⟩
    exact decide_eq_true (.inr (.inr (.inr holds)))

/-- Of the sessions that are closed only one can be alive. -/
def Settled (desktop : Desktop) : Prop :=
  ∀ session ∈ desktop.alive, session ∈ desktop.manager.shell.apps ∨
    desktop.input.dispatcherApplicationHandle = some session

theorem release_settled (lasting : Lasting desktop) (bijective : OneToOne desktop.manager) :
    Settled (release desktop) := by
  intro session remains
  obtain ⟨-, refers⟩ := List.mem_filter.mp remains
  rcases of_decide_eq_true refers with listed | tagged | focused | holds
  · exact .inl listed
  · obtain ⟨tag, member, rfl⟩ := List.mem_map.mp tagged
    exact .inl (bijective.opened tag member)
  · exact .inr (lasting.focused session focused)
  · exact .inr holds

end Release

end Invariant

section Runs

structure Sound (desktop : Desktop) : Prop where
  stocked : Stocked desktop
  lasting : Lasting desktop
  settled : Settled desktop

variable {build : InputBuild} {desktop next : Desktop} {operation : Operation}

theorem started_sound : Sound started :=
  ⟨started_stocked, started_lasting, by simp [Settled, started]⟩

theorem step_cases (stepped : step build desktop operation = some next) :
    (∃ manager, SessionFocus.perform desktop.manager operation = .ok manager ∧
        next = performed build desktop manager operation) ∨
      (∃ thrown, SessionFocus.perform desktop.manager operation = .error thrown) ∧
        next = desktop := by
  unfold step perform at stepped
  cases outcome : SessionFocus.perform desktop.manager operation with
  | ok manager =>
      rw [outcome] at stepped
      cases stepped
      exact .inl ⟨manager, rfl, rfl⟩
  | error thrown =>
      rw [outcome] at stepped
      cases stepped
      exact .inr ⟨⟨thrown, rfl⟩, rfl⟩

/-- The focus and the destructors leave the sessions and their surfaces alone. -/
theorem performed_eq (manager : SessionManager) :
    ∃ stack alive input handed, performed build desktop manager operation =
      { handled desktop manager operation with
        stack := stack
        alive := alive
        input := input
        handed := handed } := by
  unfold performed
  split_ifs
  · rw [refocus_eq]
    exact ⟨_, _, _, _, rfl⟩
  · exact ⟨_, _, _, _, rfl⟩

theorem performed_manager (manager : SessionManager) :
    (performed build desktop manager operation).manager = manager := by
  obtain ⟨stack, alive, input, handed, same⟩ : ∃ stack alive input handed,
      performed build desktop manager operation = _ := performed_eq manager
  rw [same]
  rfl

theorem performed_surface_of (manager : SessionManager) :
    (performed build desktop manager operation).surfaceOf =
      (handle desktop operation).surfaceOf := by
  obtain ⟨stack, alive, input, handed, same⟩ : ∃ stack alive input handed,
      performed build desktop manager operation = _ := performed_eq manager
  rw [same]
  rfl

theorem performed_owns (manager : SessionManager) (session : SessionKey) (object : SurfaceObject) :
    Owns (performed build desktop manager operation) session object ↔
      Owns (handled desktop manager operation) session object := by
  obtain ⟨stack, alive, input, handed, same⟩ : ∃ stack alive input handed,
      performed build desktop manager operation = _ := performed_eq manager
  rw [same]
  rfl

theorem step_manager (stepped : step build desktop operation = some next) :
    SessionFocus.step desktop.manager operation = some next.manager := by
  unfold SessionFocus.step
  rcases step_cases stepped with ⟨manager, succeeded, rfl⟩ | ⟨⟨thrown, failed⟩, rfl⟩
  · simp [succeeded, performed_manager]
  · simp [failed]

theorem step_sound (sound : Sound desktop) (given : givenOpen desktop operation = true)
    (stepped : step build desktop operation = some next) (bijective : OneToOne next.manager) :
    Sound next := by
  rcases step_cases stepped with ⟨manager, succeeded, rfl⟩ | ⟨-, rfl⟩
  · have stocked := handled_stocked sound.stocked sound.lasting given succeeded
    have lasting := handled_lasting sound.lasting succeeded
    rw [performed_manager] at bijective
    unfold performed
    split_ifs
    · have same : (refocus build (handled desktop manager operation)).manager = manager := by
        rw [refocus_eq]
        rfl
      exact ⟨release_stocked (refocus_stocked build stocked),
        release_lasting (refocus_lasting lasting),
        release_settled (refocus_lasting lasting) (same.symm ▸ bijective)⟩
    · exact ⟨release_stocked stocked, release_lasting lasting, release_settled lasting bijective⟩
  · exact sound

theorem performed_dummy_input (manager : SessionManager) :
    (performed .dummy desktop manager operation).input = desktop.input := by
  have handled_input : (handled desktop manager operation).input = desktop.input := by
    cases operation <;> rfl
  have kept : (refocus .dummy (handled desktop manager operation)).input =
      (handled desktop manager operation).input := by
    unfold refocus
    split
    · split_ifs <;> rfl
    · rfl
  unfold performed
  split_ifs
  · exact kept.trans handled_input
  · exact handled_input

/-- The dummy input manager holds no session. -/
theorem run_dummy_input {operations : List Operation}
    (ran : run (restrict givenOpen (step .dummy)) started operations = some desktop) :
    desktop.input = ⟨none, none, none⟩ := by
  apply run_invariant (fun state => state.input = ⟨none, none, none⟩) rfl _ ran
  intro state operation after empty stepped
  obtain ⟨-, moved⟩ := restrict_some.mp stepped
  rcases step_cases moved with ⟨manager, -, rfl⟩ | ⟨-, rfl⟩
  · rw [performed_dummy_input, empty]
  · exact empty

structure Steady (history : List Operation) (desktop : Desktop) : Prop where
  kept : Kept history desktop.manager
  sound : Sound desktop

theorem run_steady {operations : List Operation}
    (ran : run (restrict givenOpen (step build)) started operations = some desktop) :
    Steady operations desktop := by
  apply run_history_invariant Steady ⟨none_kept, started_sound⟩ _ ran
  intro history state operation after steady stepped
  obtain ⟨given, moved⟩ := restrict_some.mp stepped
  have kept : Kept (history ++ [operation]) after.manager :=
    step_kept steady.kept (restrict_some.mpr ⟨given, step_manager moved⟩)
  exact ⟨kept, step_sound steady.sound given moved kept.bijective⟩

end Runs

end Mir.SurfaceOwnership
