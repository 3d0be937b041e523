import Mathlib.Algebra.Group.Nat.Defs
import Mir.ManagedServer
import Mir.SurfaceOwnership

/-!
# The surface stack under the requests of the clients

Sessions are opened, make and destroy surfaces by the id they were given, and
disconnect. The stack follows the open sessions, except for a session that the android
input manager keeps alive after it has been closed.
-/

namespace Mir.SurfaceStack

open Mir.TransitionRuns Mir.SwapperModel Mir.ShellSessions Mir.DesktopSurfaces
open Mir.SurfaceOwnership Mir.ManagedServer Mir.Computations
open Mir.SessionFocus hiding perform givenOpen step createSurfaceFor

set_option autoImplicit false

inductive Request where
  | openSession
  | createSurfaceFor (session : SessionKey) (created : Except StdException (List BufferID))
  | destroySurface (session : SessionKey) (id : Int32)
  | disconnect (session : SessionKey)

section Requests

variable (build : InputBuild) (desktop : Desktop)

/-- After `disconnect` the session of the mediator is null. -/
def checkedSession (session : SessionKey) : Except StdException SessionKey :=
  if session ∈ desktop.manager.shell.apps then .ok session
  else .error ⟨"Invalid application session", none⟩

def operationOf : Request → Except StdException Operation
  | .openSession => .ok .openSession
  | .createSurfaceFor session created =>
      (checkedSession desktop session).map fun open_ => .createSurfaceFor open_ created
  | .destroySurface session id =>
      (checkedSession desktop session).bind fun open_ =>
        (checkedFind desktop.manager open_ id).map fun key => .destroySurface open_ key
  | .disconnect session => (checkedSession desktop session).map .closeSession

def respond (request : Request) : Except StdException Desktop :=
  (operationOf desktop request).bind (perform build desktop)

def serve (request : Request) : Option Desktop :=
  match respond build desktop request with
  | .ok next => some next
  | .error _ => some desktop

def getSurface (session : SessionKey) (id : Int32) : Except StdException SurfaceObject :=
  (checkedFind desktop.manager session id).map (desktop.surfaceOf session)

end Requests

section Ids

variable {manager : SessionManager} {session : SessionKey} {key : SurfaceKey} {id : Int32}

theorem of_nat_to_nat (nonneg : 0 ≤ id) : Int32.ofNat id.toInt.toNat = id := by
  have atLeast : 0 ≤ id.toInt := Int32.le_iff_toInt_le.mp nonneg
  rw [← Int32.ofInt_eq_ofNat, Int.toNat_of_nonneg atLeast, Int32.ofInt_toInt]

theorem of_nat_injective {other : SurfaceKey} (small : key < 2 ^ 31) (otherSmall : other < 2 ^ 31)
    (same : Int32.ofNat key = Int32.ofNat other) : key = other := by
  have values := congrArg Int32.toInt same
  rw [Int32.toInt_ofNat_of_lt small, Int32.toInt_ofNat_of_lt otherSmall] at values
  exact Int.ofNat.inj values

theorem checked_find_ok (found : checkedFind manager session id = .ok key) :
    Present manager.shell session key ∧ key < 2 ^ 31 ∧ id = Int32.ofNat key := by
  unfold checkedFind at found
  split_ifs at found with known
  cases found
  have below : id.toInt < 2147483648 := Int32.toInt_lt id
  have small : id.toInt.toNat < 2147483648 := by omega
  exact ⟨known.2, small, (of_nat_to_nat known.1).symm⟩

theorem checked_find_present (small : key < 2 ^ 31) (present : Present manager.shell session key) :
    checkedFind manager session (Int32.ofNat key) = .ok key := by
  have value : (Int32.ofNat key).toInt.toNat = key := by
    rw [Int32.toInt_ofNat_of_lt small, Int.toNat_natCast]
  have nonneg : 0 ≤ Int32.ofNat key := by
    rw [Int32.le_iff_toInt_le, Int32.toInt_ofNat_of_lt small]
    exact Int.natCast_nonneg key
  unfold checkedFind
  rw [value, if_pos ⟨nonneg, present⟩]

theorem checked_find_unknown
    (unknown : ∀ key, Present manager.shell session key → Int32.ofNat key ≠ id) :
    checkedFind manager session id = .error ⟨"Invalid SurfaceId", none⟩ := by
  unfold checkedFind
  apply if_neg
  rintro ⟨nonneg, present⟩
  exact unknown _ present (of_nat_to_nat nonneg)

end Ids

section Steps

variable {build : InputBuild} {desktop next : Desktop} {request : Request}
  {operation : Operation}

theorem checked_session_ok {session found : SessionKey}
    (checked : checkedSession desktop session = .ok found) :
    session ∈ desktop.manager.shell.apps ∧ found = session := by
  unfold checkedSession at checked
  split_ifs at checked with listed
  cases checked
  exact ⟨listed, rfl⟩

/-- What a request asks of the manager once its checks are passed. -/
inductive Asks (desktop : Desktop) : Request → Operation → Prop
  | opening : Asks desktop .openSession .openSession
  | creating {session created} (listed : session ∈ desktop.manager.shell.apps) :
      Asks desktop (.createSurfaceFor session created) (.createSurfaceFor session created)
  | destroying {session id key} (listed : session ∈ desktop.manager.shell.apps)
      (found : checkedFind desktop.manager session id = .ok key) :
      Asks desktop (.destroySurface session id) (.destroySurface session key)
  | closing {session} (listed : session ∈ desktop.manager.shell.apps) :
      Asks desktop (.disconnect session) (.closeSession session)

theorem operation_of_asks (asked : operationOf desktop request = .ok operation) :
    Asks desktop request operation := by
  cases request with
  | openSession =>
      cases asked
      exact .opening
  | createSurfaceFor session created =>
      obtain ⟨found, checked, rfl⟩ := except_map_ok asked
      obtain ⟨listed, rfl⟩ := checked_session_ok checked
      exact .creating listed
  | destroySurface session id =>
      obtain ⟨found, checked, rest⟩ := except_bind_ok asked
      obtain ⟨listed, rfl⟩ := checked_session_ok checked
      obtain ⟨key, surface, rfl⟩ := except_map_ok rest
      exact .destroying listed surface
  | disconnect session =>
      obtain ⟨found, checked, rfl⟩ := except_map_ok asked
      obtain ⟨listed, rfl⟩ := checked_session_ok checked
      exact .closing listed

theorem asks_given (asks : Asks desktop request operation) :
    givenOpen desktop operation = true := by
  cases asks with
  | opening => rfl
  | creating listed => exact decide_eq_true listed
  | destroying listed found => exact decide_eq_true listed
  | closing listed => exact decide_eq_true listed

theorem serve_cases (served : serve build desktop request = some next) :
    (∃ operation manager, Asks desktop request operation ∧
        SessionFocus.perform desktop.manager operation = .ok manager ∧
        next = performed build desktop manager operation) ∨
      (∃ thrown, respond build desktop request = .error thrown) ∧ next = desktop := by
  unfold serve at served
  cases outcome : respond build desktop request with
  | error thrown =>
      rw [outcome] at served
      cases served
      exact .inr ⟨⟨thrown, rfl⟩, rfl⟩
  | ok after =>
      rw [outcome] at served
      cases served
      obtain ⟨operation, asked, succeeded⟩ := except_bind_ok outcome
      obtain ⟨manager, moved, rfl⟩ := except_map_ok succeeded
      exact .inl ⟨operation, manager, operation_of_asks asked, moved, rfl⟩

theorem run_serve_steady {requests : List Request}
    (ran : run (serve build) started requests = some desktop) :
    ∃ operations, run (restrict givenOpen (step build)) started operations = some desktop := by
  apply run_invariant
    (fun state => ∃ operations,
      run (restrict givenOpen (step build)) started operations = some state) ⟨[], rfl⟩ _ ran
  rintro state request after ⟨operations, reached⟩ served
  rcases serve_cases served with ⟨operation, manager, asks, moved, rfl⟩ | ⟨-, rfl⟩
  · refine ⟨operations ++ [operation], ?_⟩
    rw [run_snoc, reached]
    refine restrict_some.mpr ⟨asks_given asks, ?_⟩
    simp [step, perform, moved, Except.map]
  · exact ⟨operations, reached⟩

theorem respond_destroy {session : SessionKey} {key : SurfaceKey}
    (listed : session ∈ desktop.manager.shell.apps) (small : key < 2 ^ 31)
    (present : Present desktop.manager.shell session key) :
    ∃ after, respond build desktop (.destroySurface session (Int32.ofNat key)) = .ok after := by
  have asked : operationOf desktop (.destroySurface session (Int32.ofNat key)) =
      .ok (.destroySurface session key) := by
    simp only [operationOf, checkedSession, if_pos listed, Except.bind,
      checked_find_present small present, Except.map]
  unfold Present at present
  simp only [respond, asked, Except.bind, perform, SessionFocus.perform,
    SessionFocus.destroySurface, if_pos present, Except.map]
  exact ⟨_, rfl⟩

theorem respond_unknown {session : SessionKey} {id : Int32}
    (listed : session ∈ desktop.manager.shell.apps)
    (unknown : ∀ key, Present desktop.manager.shell session key → Int32.ofNat key ≠ id) :
    respond build desktop (.destroySurface session id) =
      .error ⟨"Invalid SurfaceId", none⟩ := by
  simp only [respond, operationOf, checkedSession, if_pos listed, Except.bind,
    checked_find_unknown unknown, Except.map]

end Steps

section History

variable {build : InputBuild} {desktop next : Desktop} {request : Request}
  {session : SessionKey} {key : SurfaceKey} {object : SurfaceObject}

/-- A surface that was created and the requests since then. The id is taken until a
request destroys the surface. -/
structure Made (session : SessionKey) (key : SurfaceKey) (object : SurfaceObject)
    (later : List Request) (desktop : Desktop) : Prop where
  born : session < desktop.manager.nextSession
  used : key < (desktop.manager.shell.sessions session).nextSurfaceId
  stands : desktop.surfaceOf session key = object
  present : session ∈ desktop.manager.shell.apps → key < 2 ^ 31 →
    (Present desktop.manager.shell session key ↔
      .destroySurface session (Int32.ofNat key) ∉ later)

theorem perform_used {manager after : SessionManager} {operation : Operation}
    (born : session < manager.nextSession)
    (used : key < (manager.shell.sessions session).nextSurfaceId)
    (performed : SessionFocus.perform manager operation = .ok after) :
    session < after.nextSession ∧ key < (after.shell.sessions session).nextSurfaceId := by
  have others : keepsSurfaces operation = true →
      session < after.nextSession ∧ key < (after.shell.sessions session).nextSurfaceId := by
    intro keeps
    have same := perform_same_surfaces keeps performed
    rw [same.counted, same.ids]
    exact ⟨born, used⟩
  cases operation with
  | openSession =>
      cases performed
      refine ⟨born.trans (Nat.lt_succ_self _), ?_⟩
      simp only [SessionFocus.openSession, next_id_open, if_neg born.ne]
      exact used
  | createSurfaceFor other created =>
      cases created with
      | error thrown => cases performed
      | ok bufferList =>
          cases performed
          refine ⟨born, ?_⟩
          simp only [next_id_create]
          split_ifs with same
          · exact (same ▸ used).trans (Nat.lt_succ_self _)
          · exact used
  | destroySurface other otherKey =>
      simp only [SessionFocus.perform, SessionFocus.destroySurface] at performed
      split_ifs at performed
      cases performed
      refine ⟨born, ?_⟩
      simp only [next_id_destroy]
      exact used
  | closeSession other => exact others rfl
  | tagSessionWithLightdmId other id => exact others rfl
  | focusSessionWithLightdmId id => exact others rfl
  | focusNext => exact others rfl

/-- Only a request with its id removes a surface of a session that stays open. -/
theorem asks_present {operation : Operation} {manager : SessionManager}
    (asks : Asks desktop request operation)
    (performed : SessionFocus.perform desktop.manager operation = .ok manager)
    (born : session < desktop.manager.nextSession)
    (used : key < (desktop.manager.shell.sessions session).nextSurfaceId)
    (listed : session ∈ manager.shell.apps) :
    session ∈ desktop.manager.shell.apps ∧ (key < 2 ^ 31 →
      (Present manager.shell session key ↔ Present desktop.manager.shell session key ∧
        request ≠ .destroySurface session (Int32.ofNat key))) := by
  cases asks with
  | opening =>
      cases performed
      rcases List.mem_append.mp listed with before | new
      · refine ⟨before, fun _ => ?_⟩
        simp only [SessionFocus.openSession, present_open]
        simp [born.ne]
      · exact absurd (List.mem_singleton.mp new) born.ne
  | creating opened =>
      rename_i other created
      cases created with
      | error thrown => cases performed
      | ok bufferList =>
          have sameApps := (perform_keeps_sessions rfl rfl performed).1
          refine ⟨sameApps ▸ listed, fun _ => ?_⟩
          rw [created_present performed]
          constructor
          · rintro (before | ⟨rfl, rfl⟩)
            · exact ⟨before, by simp⟩
            · exact absurd used (Nat.lt_irrefl _)
          · rintro ⟨before, -⟩
            exact .inl before
  | destroying opened found =>
      rename_i other id otherKey
      have sameApps := (perform_keeps_sessions rfl rfl performed).1
      obtain ⟨-, otherSmall, rfl⟩ := checked_find_ok found
      refine ⟨sameApps ▸ listed, fun small => ?_⟩
      rw [destroyed_present performed]
      apply and_congr_right
      intro _
      constructor
      · intro different same
        obtain ⟨sameSession, sameId⟩ := Request.destroySurface.inj same
        exact different ⟨sameSession.symm, of_nat_injective small otherSmall sameId.symm⟩
      · rintro different ⟨rfl, rfl⟩
        exact different rfl
  | closing opened =>
      have same := perform_same_surfaces rfl performed
      refine ⟨same.apps session listed, fun _ => ?_⟩
      rw [same.present]
      simp

theorem serve_made {later : List Request} (made : Made session key object later desktop)
    (served : serve build desktop request = some next) :
    Made session key object (later ++ [request]) next := by
  rcases serve_cases served with ⟨operation, manager, asks, moved, rfl⟩ | ⟨⟨thrown, failed⟩, rfl⟩
  · obtain ⟨born, used⟩ := perform_used made.born made.used moved
    constructor
    · rwa [performed_manager]
    · rwa [performed_manager]
    · rw [performed_surface_of, handle_surface_of _ made.used]
      exact made.stands
    · rw [performed_manager]
      intro listed small
      obtain ⟨before, removed⟩ := asks_present asks moved made.born made.used listed
      rw [removed small, made.present before small, List.mem_append, List.mem_singleton, not_or,
        ne_comm]
  · refine ⟨made.born, made.used, made.stands, ?_⟩
    intro listed small
    rw [made.present listed small, List.mem_append, List.mem_singleton, not_or]
    constructor
    · intro undestroyed
      refine ⟨undestroyed, ?_⟩
      rintro rfl
      obtain ⟨after, succeeded⟩ :=
        respond_destroy listed small ((made.present listed small).mpr undestroyed)
      rw [failed] at succeeded
      cases succeeded
    · exact fun undestroyed => undestroyed.1

theorem created_made {bufferList : List BufferID} (lasting : Lasting desktop)
    (listed : session ∈ desktop.manager.shell.apps)
    (served : serve build desktop (.createSurfaceFor session (.ok bufferList)) = some next) :
    Made session (desktop.manager.shell.sessions session).nextSurfaceId desktop.created []
      next := by
  rcases serve_cases served with ⟨operation, manager, asks, moved, rfl⟩ | ⟨⟨thrown, failed⟩, -⟩
  · cases asks with
    | creating _ =>
        constructor
        · rw [performed_manager]
          cases moved
          exact lasting.born session (lasting.opened session listed)
        · rw [performed_manager]
          cases moved
          simp [next_id_create]
        · rw [performed_surface_of]
          exact created_surface_of desktop session (.ok bufferList)
        · intro _ _
          rw [performed_manager, created_present moved]
          simp
  · simp only [respond, operationOf, checkedSession, if_pos listed, Except.map, Except.bind,
      perform, SessionFocus.perform, SessionFocus.createSurfaceFor] at failed
    cases failed

/-- `get_surface` on the id of a surface that was created earlier, as long as the session
is open. -/
def Retrievable (build : InputBuild) (requests : List Request) (desktop : Desktop) : Prop :=
  ∀ before session bufferList after earlier,
    requests = before ++ .createSurfaceFor session (.ok bufferList) :: after →
    run (serve build) started before = some earlier →
    session ∈ earlier.manager.shell.apps → session ∈ desktop.manager.shell.apps →
    let id := Int32.ofNat (earlier.manager.shell.sessions session).nextSurfaceId
    (.destroySurface session id ∉ after → getSurface desktop session id = .ok earlier.created) ∧
      (.destroySurface session id ∈ after →
        getSurface desktop session id = .error ⟨"Invalid SurfaceId", none⟩)

theorem run_retrievable {requests : List Request}
    (ran : run (serve build) started requests = some desktop)
    (few : ∀ session, (desktop.manager.shell.sessions session).nextSurfaceId ≤ 2 ^ 31) :
    Retrievable build requests desktop := by
  rintro before session bufferList after earlier rfl reached opened listed
  obtain ⟨operations, steps⟩ := run_serve_steady reached
  obtain ⟨middle, again, rest⟩ := run_append_some ran
  cases reached.symm.trans again
  obtain ⟨created, served, finish⟩ := run_cons_some rest
  have start := created_made (run_steady steps).sound.lasting opened served
  have made := run_history_invariant (Made session _ _) start
    (fun _ _ _ _ holds moved => serve_made holds moved) finish
  have small : (earlier.manager.shell.sessions session).nextSurfaceId < 2 ^ 31 :=
    made.used.trans_le (few session)
  refine ⟨?_, ?_⟩
  · intro undestroyed
    have present := (made.present listed small).mpr undestroyed
    simp only [getSurface, checked_find_present small present, Except.map, made.stands]
  · intro destroyed
    obtain ⟨others, reaches⟩ := run_serve_steady ran
    have stocked := (run_steady reaches).sound.stocked
    have unknown : ∀ key, Present desktop.manager.shell session key → Int32.ofNat key ≠
        Int32.ofNat (earlier.manager.shell.sessions session).nextSurfaceId := by
      intro key present same
      have keySmall : key < 2 ^ 31 := (stocked.keys session key present).trans_le (few session)
      cases of_nat_injective keySmall small same
      exact (made.present listed small).mp present destroyed
    simp only [getSurface, checked_find_unknown unknown, Except.map]

end History

section Stack

/-- The stack has the surfaces of the open sessions and no others. -/
def StackExact (desktop : Desktop) : Prop :=
  ∀ object, object ∈ desktop.stack ↔
    ∃ session ∈ desktop.manager.shell.apps, Owns desktop session object

/-- A closed session that the dispatcher of the input manager still refers to. -/
def Lingers (desktop : Desktop) (session : SessionKey) : Prop :=
  session ∉ desktop.manager.shell.apps ∧
    desktop.input.dispatcherApplicationHandle = some session ∧ ∃ object, Owns desktop session object

/-- The ids of a session, its default surface and what a wrong id does. -/
structure Catalogued (build : InputBuild) (desktop : Desktop) (session : SessionKey) : Prop where
  ids : ∀ key other, Present desktop.manager.shell session key →
    Present desktop.manager.shell session other →
    (Int32.ofNat key = Int32.ofNat other ↔
      desktop.surfaceOf session key = desktop.surfaceOf session other)
  oldest : ∀ object, defaultSurface desktop session = some object ↔
    Owns desktop session object ∧ ∀ other, Owns desktop session other → object ≤ other
  unknown : ∀ id, (∀ key, Present desktop.manager.shell session key → Int32.ofNat key ≠ id) →
    respond build desktop (.destroySurface session id) = .error ⟨"Invalid SurfaceId", none⟩ ∧
      serve build desktop (.destroySurface session id) = some desktop

variable {build : InputBuild} {desktop : Desktop}

theorem sound_stack_exact (sound : Sound desktop) :
    StackExact desktop ↔ ∀ session, ¬Lingers desktop session := by
  constructor
  · rintro faithful session ⟨closed, held, object, owns⟩
    have living := sound.lasting.held session held
    have stacked := (sound.stocked.members object).mpr ⟨session, living, owns⟩
    obtain ⟨other, listed, otherOwns⟩ := (faithful object).mp stacked
    obtain rfl := sound.stocked.apart session other object owns otherOwns
    exact closed listed
  · intro none_lingers object
    rw [sound.stocked.members object]
    constructor
    · rintro ⟨session, living, owns⟩
      refine ⟨session, ?_, owns⟩
      by_contra closed
      rcases sound.settled session living with listed | held
      · exact closed listed
      · exact none_lingers session ⟨closed, held, object, owns⟩
    · rintro ⟨session, listed, owns⟩
      exact ⟨session, sound.lasting.opened session listed, owns⟩

theorem stocked_catalogued (stocked : Stocked desktop) {session : SessionKey}
    (listed : session ∈ desktop.manager.shell.apps)
    (few : (desktop.manager.shell.sessions session).nextSurfaceId ≤ 2 ^ 31) :
    Catalogued build desktop session where
  ids := by
    intro key other present otherPresent
    constructor
    · intro same
      have small := (stocked.keys session key present).trans_le few
      have otherSmall := (stocked.keys session other otherPresent).trans_le few
      rw [of_nat_injective small otherSmall same]
    · intro same
      rw [(surface_of_injective stocked present otherPresent same).2]
  oldest := default_surface_some stocked session
  unknown := by
    intro id unknown
    have failed : respond build desktop (.destroySurface session id) = _ :=
      respond_unknown listed unknown
    refine ⟨failed, ?_⟩
    simp only [serve, failed]

/-- The stack is ordered by age and the ids are right after all requests. It has the
surfaces of the open sessions exactly while no closed session lingers. -/
theorem stack_follows_sessions {requests : List Request}
    (ran : run (serve build) started requests = some desktop)
    (few : ∀ session, (desktop.manager.shell.sessions session).nextSurfaceId ≤ 2 ^ 31) :
    desktop.stack.Pairwise (· < ·) ∧
      (StackExact desktop ↔ ∀ session, ¬Lingers desktop session) ∧
      (build = .dummy → StackExact desktop) ∧
      (∀ session ∈ desktop.manager.shell.apps, Catalogued build desktop session) ∧
      Retrievable build requests desktop := by
  obtain ⟨operations, reaches⟩ := run_serve_steady ran
  have sound := (run_steady reaches).sound
  refine ⟨sound.stocked.ordered, sound_stack_exact sound, ?_, ?_, run_retrievable ran few⟩
  · rintro rfl
    apply (sound_stack_exact sound).mpr
    rintro session ⟨-, held, -⟩
    rw [run_dummy_input reaches] at held
    cases held
  · intro session listed
    exact stocked_catalogued sound.stocked listed (few session)

/-- A second session has the input focus when the first one disconnects. -/
def replacedSession : List Request :=
  [.openSession, .createSurfaceFor 0 (.ok [⟨1⟩, ⟨2⟩]), .openSession,
    .createSurfaceFor 1 (.ok [⟨3⟩, ⟨4⟩]), .createSurfaceFor 1 (.ok [⟨5⟩, ⟨6⟩]),
    .destroySurface 1 0, .destroySurface 1 (-7), .disconnect 0]

theorem replaced_session_leaves_stack :
    ∃ desktop, run (serve .android) started replacedSession = some desktop ∧
      desktop.stack = [2] ∧ StackExact desktop ∧
      getSurface desktop 1 1 = .ok 2 := by
  obtain ⟨desktop, ran, stacked, listed, held, created⟩ : ∃ desktop,
      run (serve .android) started replacedSession = some desktop ∧ desktop.stack = [2] ∧
        desktop.manager.shell.apps = [1] ∧
        desktop.input.dispatcherApplicationHandle = some 1 ∧ desktop.created = 3 :=
    ⟨_, rfl, rfl, rfl, rfl, rfl⟩
  obtain ⟨operations, reaches⟩ := run_serve_steady ran
  have few : ∀ session, (desktop.manager.shell.sessions session).nextSurfaceId ≤ 2 ^ 31 := by
    intro session
    apply ((run_steady reaches).sound.stocked.counted session).trans
    rw [created]
    decide
  obtain ⟨-, faithful, -, -, found⟩ := stack_follows_sessions ran few
  refine ⟨desktop, ran, stacked, faithful.mpr ?_, ?_⟩
  · rintro session ⟨closed, refers, -⟩
    cases held.symm.trans refers
    exact closed (by simp [listed])
  · obtain ⟨earlier, reached, opened, next, count⟩ : ∃ earlier,
        run (serve .android) started (replacedSession.take 4) = some earlier ∧
          (1 : SessionKey) ∈ earlier.manager.shell.apps ∧
          (earlier.manager.shell.sessions 1).nextSurfaceId = 1 ∧ earlier.created = 2 :=
      ⟨_, rfl, by decide, rfl, rfl⟩
    have surface := (found _ 1 _ _ earlier rfl reached opened (by simp [listed])).1
    rw [next, count] at surface
    apply surface
    simp

/-- The last session disconnects; the input manager keeps it, and its surface stays. -/
theorem last_session_stays_on_stack :
    ∃ desktop,
      run (serve .android) started
        [.openSession, .createSurfaceFor 0 (.ok [⟨1⟩, ⟨2⟩]), .disconnect 0] = some desktop ∧
      desktop.manager.shell.apps = [] ∧ desktop.stack = [0] ∧ ¬StackExact desktop := by
  obtain ⟨desktop, ran, empty, stacked⟩ : ∃ desktop,
      run (serve .android) started
        [.openSession, .createSurfaceFor 0 (.ok [⟨1⟩, ⟨2⟩]), .disconnect 0] = some desktop ∧
      desktop.manager.shell.apps = [] ∧ desktop.stack = [0] := ⟨_, rfl, rfl, rfl⟩
  refine ⟨desktop, ran, empty, stacked, ?_⟩
  intro faithful
  obtain ⟨session, listed, -⟩ := (faithful 0).mp (by simp [stacked])
  rw [empty] at listed
  cases listed

end Stack

end Mir.SurfaceStack
