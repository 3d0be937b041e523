import Mathlib.Data.List.FinRange
import Mir.SessionFocus

/-!
# The sections of the session manager

The operations of `SessionManager`, cut where its mutex and the guard of the container
let other threads in. A request is handled by one thread from its first section to its
last; a session has at most one request in progress. `open_session` assigns the focus
under the mutex and applies it after the mutex is free again, `create_surface_for` does
both without it, and the others hold the mutex from their first section on.
-/

namespace Mir.FocusSections

open Mir.TransitionRuns Mir.SwapperModel Mir.ShellSessions Mir.SessionFocus

set_option autoImplicit false

/-- Whether a thread holds the mutex, and the session that it closes if it does so. -/
inductive Hold where
  | unlocked
  | locked (closing : Option SessionKey)
  deriving DecidableEq, Repr

/-- What a thread has done of its operation. -/
inductive Phase where
  | idle
  | inserted (newSession : SessionKey)
  | created (session : SessionKey)
  | removed (session : SessionKey)
  | chosen (nextFocus : Option SessionKey) (closing : Option SessionKey)
  | assigned (nextFocus : Option SessionKey) (hold : Hold)
  | applied (closing : Option SessionKey)
  deriving DecidableEq, Repr

structure Sections (threads : Nat) where
  manager : SessionManager
  mutex : Option (Fin threads)
  phase : Fin threads → Phase

inductive Event (threads : Nat) where
  | insertSession (thread : Fin threads)
  | createSurface (thread : Fin threads) (session : SessionKey)
      (created : Except StdException (List BufferID))
  | removeSession (thread : Fin threads) (session : SessionKey)
  | defaultFocus (thread : Fin threads)
  | focusNext (thread : Fin threads)
  | findTag (thread : Fin threads) (id : Int32)
  | tagSession (thread : Fin threads) (session : SessionKey) (id : Int32)
  | destroySurface (thread : Fin threads) (session : SessionKey) (key : SurfaceKey)
  | assignFocus (thread : Fin threads)
  | applyFocus (thread : Fin threads)
  | eraseTags (thread : Fin threads)

variable {threads : Nat}

def quiet (manager : SessionManager) : Sections threads where
  manager := manager
  mutex := none
  phase := fun _ => .idle

section Guards

/-- The session whose request a thread handles. -/
def subject : Phase → Option SessionKey
  | .idle => none
  | .inserted session | .created session | .removed session => some session
  | .chosen _ closing => closing
  | .assigned nextFocus .unlocked => nextFocus
  | .assigned _ (.locked closing) => closing
  | .applied closing => closing

def accepts (state : Sections threads) (thread : Fin threads) (session : SessionKey) : Prop :=
  state.phase thread = .idle ∧ session ∈ state.manager.shell.apps ∧
    ∀ other, subject (state.phase other) ≠ some session

instance (state : Sections threads) (thread : Fin threads) (session : SessionKey) :
    Decidable (accepts state thread session) :=
  inferInstanceAs (Decidable (_ ∧ _ ∧ _))

def locks (state : Sections threads) (thread : Fin threads) : Prop :=
  state.phase thread = .idle ∧ state.mutex = none

instance (state : Sections threads) (thread : Fin threads) : Decidable (locks state thread) :=
  inferInstanceAs (Decidable (_ ∧ _))

end Guards

section Effects

variable (state : Sections threads)

def proceed (thread : Fin threads) (phase : Phase) : Sections threads :=
  { state with phase := Function.update state.phase thread phase }

def withShell (shell : Shell) : Sections threads :=
  { state with manager := { state.manager with shell := shell } }

def insertSession (thread : Fin threads) : Sections threads :=
  let newSession := state.manager.nextSession
  proceed
    { state with
      manager :=
        { state.manager with
          shell :=
            { state.manager.shell with
              apps := state.manager.shell.apps ++ [newSession]
              sessions := Function.update state.manager.shell.sessions newSession
                ⟨fun _ => none, 0⟩ }
          nextSession := newSession + 1 } }
    thread (.inserted newSession)

def createSurface (thread : Fin threads) (session : SessionKey) (bufferList : List BufferID) :
    Sections threads :=
  proceed
    (withShell state
      { state.manager.shell with
        sessions := Function.update state.manager.shell.sessions session
          (ShellSessions.createSurface bufferList (state.manager.shell.sessions session)) })
    thread (.created session)

def removeSession (thread : Fin threads) (session : SessionKey) : Sections threads :=
  proceed
    { withShell state
        { state.manager.shell with apps := state.manager.shell.apps.erase session } with
      mutex := some thread }
    thread (.removed session)

/-- The focus is read and its successor found. `successor_of` may throw. -/
def chooseNext (thread : Fin threads) : Sections threads :=
  let shell := state.manager.shell
  let locked := { state with mutex := some thread }
  match shell.focusApplication with
  | none => proceed locked thread (.chosen (defaultFocus shell.apps) none)
  | some focus => match successorOf (pointers shell.apps) (some focus) with
      | .ok successor => proceed locked thread (.chosen successor none)
      | .error _ => state

def chooseTagged (thread : Fin threads) (id : Int32) : Sections threads :=
  match state.manager.tags.find? fun tag => tag.1 = id with
  | some tag => proceed { state with mutex := some thread } thread (.chosen (some tag.2) none)
  | none => state

def assignFocus (nextFocus : Option SessionKey) : Sections threads :=
  withShell state { state.manager.shell with focusApplication := nextFocus }

/-- `SingleVisibilityFocusMechanism::set_focus_to`. -/
def applyFocus (nextFocus : Option SessionKey) : Sections threads :=
  withShell state
    { state.manager.shell with
      sessions := (setFocusTo state.manager.shell nextFocus).sessions }

def eraseTags (thread : Fin threads) (closing : Option SessionKey) : Sections threads :=
  proceed
    { state with
      manager :=
        { state.manager with tags := state.manager.tags.filter fun tag => some tag.2 ≠ closing }
      mutex := none }
    thread .idle

def step : Event threads → Option (Sections threads)
  | .insertSession thread =>
      if state.phase thread = .idle then some (insertSession state thread) else none
  | .createSurface thread session created =>
      if accepts state thread session then
        match created with
        | .ok bufferList => some (createSurface state thread session bufferList)
        | .error _ => some state
      else none
  | .removeSession thread session =>
      if accepts state thread session ∧ state.mutex = none then
        some (removeSession state thread session)
      else none
  | .defaultFocus thread => match state.phase thread with
      | .removed session => some (proceed state thread
          (.chosen (defaultFocus state.manager.shell.apps) (some session)))
      | _ => none
  | .focusNext thread =>
      if locks state thread then some (chooseNext state thread) else none
  | .findTag thread id =>
      if locks state thread then some (chooseTagged state thread id) else none
  | .tagSession thread session id =>
      if accepts state thread session ∧ state.mutex = none then
        some { state with manager := tagSessionWithLightdmId state.manager session id }
      else none
  | .destroySurface thread session key =>
      if accepts state thread session then
        match SessionFocus.destroySurface state.manager session key with
        | .ok manager => some { state with manager := manager }
        | .error _ => some state
      else none
  | .assignFocus thread => match state.phase thread with
      | .inserted newSession =>
          if state.mutex = none then
            some (proceed (assignFocus state (some newSession)) thread
              (.assigned (some newSession) .unlocked))
          else none
      | .created session => some (proceed (assignFocus state (some session)) thread
          (.assigned (some session) .unlocked))
      | .chosen nextFocus closing => some (proceed (assignFocus state nextFocus) thread
          (.assigned nextFocus (.locked closing)))
      | _ => none
  | .applyFocus thread => match state.phase thread with
      | .assigned nextFocus .unlocked => some (proceed (applyFocus state nextFocus) thread .idle)
      | .assigned nextFocus (.locked closing) =>
          some (proceed (applyFocus state nextFocus) thread (.applied closing))
      | _ => none
  | .eraseTags thread => match state.phase thread with
      | .applied closing => some (eraseTags state thread closing)
      | _ => none

end Effects

/-- The thread has assigned the focus and not applied it yet. -/
def isAssigned : Phase → Bool
  | .assigned _ _ => true
  | _ => false

/-- A thread assigns the focus only while fewer than `limit` others are about to apply theirs. -/
def limited (limit : Nat) (state : Sections threads) : Event threads → Bool
  | .assignFocus _ =>
      decide ((List.finRange threads).countP
        (fun thread => isAssigned (state.phase thread)) < limit)
  | _ => true

/-- The surfaces of the session are shown if it has the focus, and hidden if not. -/
def Agrees (shell : Shell) (session : SessionKey) : Prop :=
  ∀ key surface, (shell.sessions session).surfaces key = some surface →
    (surface.isHidden = true ↔ shell.focusApplication ≠ some session)

def Quiescent (state : Sections threads) : Prop :=
  ∀ thread, state.phase thread = .idle

instance (state : Sections threads) : Decidable (Quiescent state) :=
  inferInstanceAs (Decidable (∀ _, _))

section OneAtATime

/-- The assigned focus is the one about to be applied; once it is applied, only
surfaces that have just been created may not agree with it. -/
structure Aligned (state : Sections threads) : Prop where
  current : ∀ thread nextFocus hold, state.phase thread = .assigned nextFocus hold →
    state.manager.shell.focusApplication = nextFocus
  settled : (∀ thread, isAssigned (state.phase thread) = false) →
    ∀ session ∈ state.manager.shell.apps, (∀ thread, state.phase thread ≠ .created session) →
      Agrees state.manager.shell session

variable {state next : Sections threads} {thread : Fin threads}

theorem quiet_aligned : Aligned (quiet noSessions : Sections threads) where
  current := by simp [quiet]
  settled := by simp [quiet, noSessions]

theorem manager_aligned (aligned : Aligned state) {manager : SessionManager}
    (mutex : Option (Fin threads))
    (focus : manager.shell.focusApplication = state.manager.shell.focusApplication)
    (surfaces : ∀ session ∈ manager.shell.apps, ∀ key surface,
      (manager.shell.sessions session).surfaces key = some surface →
        session ∈ state.manager.shell.apps ∧
          (state.manager.shell.sessions session).surfaces key = some surface) :
    Aligned ⟨manager, mutex, state.phase⟩ where
  current := by
    intro other nextFocus hold assigned
    exact focus.trans (aligned.current other nextFocus hold assigned)
  settled := by
    intro unassigned session member uncreated key surface found
    obtain ⟨before, same⟩ := surfaces session member key surface found
    have agrees := aligned.settled unassigned session before uncreated key surface same
    simpa [focus] using agrees

theorem assigned_before {phase : Phase} (target : isAssigned phase = false) {other : Fin threads}
    {nextFocus : Option SessionKey} {hold : Hold}
    (assigned : (proceed state thread phase).phase other = .assigned nextFocus hold) :
    state.phase other = .assigned nextFocus hold := by
  by_cases same : other = thread
  · subst same
    simp only [proceed, Function.update_self] at assigned
    simp [assigned, isAssigned] at target
  · simpa only [proceed, Function.update_of_ne same] using assigned

theorem phases_before {phase : Phase} (holds : Phase → Prop) (own : holds (state.phase thread))
    (after : ∀ other, holds ((proceed state thread phase).phase other)) (other : Fin threads) :
    holds (state.phase other) := by
  by_cases same : other = thread
  · rw [same]
    exact own
  · have moved := after other
    simpa only [proceed, Function.update_of_ne same] using moved

theorem proceed_aligned (aligned : Aligned state) {phase : Phase}
    (unassigned : isAssigned (state.phase thread) = false)
    (uncreated : ∀ session, state.phase thread ≠ .created session)
    (target : isAssigned phase = false) : Aligned (proceed state thread phase) where
  current := by
    intro other nextFocus hold assigned
    exact aligned.current other nextFocus hold (assigned_before target assigned)
  settled := by
    intro none_assigned session member none_created
    apply aligned.settled
    · exact phases_before (fun phase => isAssigned phase = false) unassigned none_assigned
    · exact member
    · exact phases_before (fun phase => phase ≠ .created session) (uncreated session) none_created

theorem create_aligned (aligned : Aligned state) (idle : state.phase thread = .idle)
    (session : SessionKey) (bufferList : List BufferID) :
    Aligned (createSurface state thread session bufferList) where
  current := by
    intro other nextFocus hold assigned
    exact aligned.current other nextFocus hold (assigned_before rfl assigned)
  settled := by
    intro none_assigned other member none_created key surface found
    have apart : other ≠ session := by
      rintro rfl
      exact none_created thread (by simp [createSurface, proceed])
    have before : (state.manager.shell.sessions other).surfaces key = some surface := by
      simpa [createSurface, proceed, withShell, Function.update_of_ne apart] using found
    have unassigned : isAssigned (state.phase thread) = false := by
      rw [idle]
      rfl
    have uncreated : state.phase thread ≠ .created other := by simp [idle]
    refine aligned.settled ?_ other member ?_ key surface before
    · exact phases_before (fun phase => isAssigned phase = false) unassigned none_assigned
    · exact phases_before (fun phase => phase ≠ .created other) uncreated none_created

theorem assign_aligned (free : ∀ other, isAssigned (state.phase other) = false)
    (nextFocus : Option SessionKey) (hold : Hold) :
    Aligned (proceed (assignFocus state nextFocus) thread (.assigned nextFocus hold)) where
  current := by
    intro other otherFocus otherHold assigned
    by_cases same : other = thread
    · subst same
      simp only [proceed, Function.update_self, Phase.assigned.injEq] at assigned
      exact assigned.1
    · have unassigned := free other
      simp only [proceed, assignFocus, withShell, Function.update_of_ne same] at assigned
      simp [assigned, isAssigned] at unassigned
  settled := by
    intro none_assigned
    have contrary := none_assigned thread
    simp [proceed, isAssigned] at contrary

theorem apply_aligned (aligned : Aligned state) {nextFocus : Option SessionKey} {hold : Hold}
    (assigned : state.phase thread = .assigned nextFocus hold) {phase : Phase}
    (target : isAssigned phase = false) :
    Aligned (proceed (applyFocus state nextFocus) thread phase) where
  current := by
    intro other otherFocus otherHold otherAssigned
    exact aligned.current other otherFocus otherHold (assigned_before target otherAssigned)
  settled := by
    intro _ session member _ key surface found
    have listed : session ∈ state.manager.shell.apps := member
    have focus : state.manager.shell.focusApplication = nextFocus :=
      aligned.current thread nextFocus hold assigned
    have shown : surface.isHidden = true ↔ nextFocus ≠ some session :=
      set_focus_hidden listed found
    rw [shown, ← focus]
    rfl

theorem idle_proceeds (aligned : Aligned state) (idle : state.phase thread = .idle)
    {phase : Phase} (target : isAssigned phase = false) :
    Aligned (proceed state thread phase) :=
  proceed_aligned aligned (by simp [idle, isAssigned]) (by simp [idle]) target

theorem insert_aligned (aligned : Aligned state) (idle : state.phase thread = .idle) :
    Aligned (insertSession state thread) := by
  unfold insertSession
  apply idle_proceeds
  · apply manager_aligned aligned state.mutex
    · rfl
    · intro session member key surface found
      have apart : session ≠ state.manager.nextSession := by
        rintro rfl
        simp at found
      simp only [Function.update_of_ne apart] at found
      exact ⟨by simpa [apart] using member, found⟩
  · exact idle
  · rfl

theorem remove_aligned (aligned : Aligned state) (idle : state.phase thread = .idle)
    (session : SessionKey) : Aligned (removeSession state thread session) := by
  refine idle_proceeds (manager_aligned aligned (some thread) ?_ ?_) idle ?_
  · rfl
  · intro other member key surface found
    exact ⟨List.mem_of_mem_erase member, found⟩
  · rfl

theorem lock_aligned (aligned : Aligned state) (mutex : Option (Fin threads)) :
    Aligned { state with mutex := mutex } :=
  ⟨aligned.current, aligned.settled⟩

theorem choose_next_aligned (aligned : Aligned state) (idle : state.phase thread = .idle) :
    Aligned (chooseNext state thread) := by
  unfold chooseNext
  dsimp only
  split
  · exact idle_proceeds (lock_aligned aligned (some thread)) idle rfl
  · split
    · exact idle_proceeds (lock_aligned aligned (some thread)) idle rfl
    · exact aligned

theorem choose_tagged_aligned (aligned : Aligned state) (idle : state.phase thread = .idle)
    (id : Int32) : Aligned (chooseTagged state thread id) := by
  unfold chooseTagged
  split
  · exact idle_proceeds (lock_aligned aligned (some thread)) idle rfl
  · exact aligned

theorem erase_aligned (aligned : Aligned state) {closing : Option SessionKey}
    (applied : state.phase thread = .applied closing) :
    Aligned (eraseTags state thread closing) := by
  refine proceed_aligned (manager_aligned aligned none ?_ ?_) ?_ ?_ ?_
  · rfl
  · intro session member key surface found
    exact ⟨member, found⟩
  · simp [applied, isAssigned]
  · simp [applied]
  · rfl

theorem none_assigned_of_limited {limit : Nat} (few : limit ≤ 1)
    (allowed : limited limit state (.assignFocus thread) = true) (other : Fin threads) :
    isAssigned (state.phase other) = false := by
  have below : (List.finRange threads).countP
      (fun thread => isAssigned (state.phase thread)) < limit := of_decide_eq_true allowed
  have zero : (List.finRange threads).countP
      (fun thread => isAssigned (state.phase thread)) = 0 := by omega
  have absent := List.countP_eq_zero.mp zero other (List.mem_finRange other)
  simpa using absent

theorem step_aligned {limit : Nat} (few : limit ≤ 1) {event : Event threads}
    (aligned : Aligned state)
    (stepped : restrict (limited limit) step state event = some next) : Aligned next := by
  obtain ⟨allowed, moved⟩ := restrict_some.mp stepped
  cases event with
  | insertSession thread =>
      simp only [step] at moved
      split_ifs at moved with idle
      cases moved
      exact insert_aligned aligned idle
  | createSurface thread session created =>
      simp only [step] at moved
      split_ifs at moved with accepted
      cases created with
      | ok bufferList =>
          cases moved
          exact create_aligned aligned accepted.1 session bufferList
      | error thrown =>
          cases moved
          exact aligned
  | removeSession thread session =>
      simp only [step] at moved
      split_ifs at moved with accepted
      cases moved
      exact remove_aligned aligned accepted.1.1 session
  | defaultFocus thread =>
      simp only [step] at moved
      split at moved
      · next session removed =>
          cases moved
          exact proceed_aligned aligned (by simp [removed, isAssigned]) (by simp [removed]) rfl
      · cases moved
  | focusNext thread =>
      simp only [step] at moved
      split_ifs at moved with locked
      cases moved
      exact choose_next_aligned aligned locked.1
  | findTag thread id =>
      simp only [step] at moved
      split_ifs at moved with locked
      cases moved
      exact choose_tagged_aligned aligned locked.1 id
  | tagSession thread session id =>
      simp only [step] at moved
      split_ifs at moved with accepted
      cases moved
      refine manager_aligned aligned state.mutex rfl ?_
      intro other member key surface found
      exact ⟨member, found⟩
  | destroySurface thread session key =>
      simp only [step] at moved
      split_ifs at moved with accepted
      simp only [SessionFocus.destroySurface] at moved
      split_ifs at moved with known
      · cases moved
        refine manager_aligned aligned state.mutex rfl ?_
        intro other member otherKey surface found
        exact ⟨member, update_surface_none found⟩
      · cases moved
        exact aligned
  | assignFocus thread =>
      have free := none_assigned_of_limited few allowed
      simp only [step] at moved
      split at moved
      · split_ifs at moved
        cases moved
        exact assign_aligned free _ _
      · cases moved
        exact assign_aligned free _ _
      · cases moved
        exact assign_aligned free _ _
      · cases moved
  | applyFocus thread =>
      simp only [step] at moved
      split at moved
      · next assigned =>
          cases moved
          exact apply_aligned aligned assigned rfl
      · next assigned =>
          cases moved
          exact apply_aligned aligned assigned rfl
      · cases moved
  | eraseTags thread =>
      simp only [step] at moved
      split at moved
      · next applied =>
          cases moved
          exact erase_aligned aligned applied
      · cases moved

theorem run_aligned {limit : Nat} (few : limit ≤ 1) {events : List (Event threads)}
    (ran : run (restrict (limited limit) step) (quiet noSessions) events = some state) :
    Aligned state :=
  run_invariant Aligned quiet_aligned
    (fun _ _ _ aligned stepped => step_aligned few aligned stepped) ran

end OneAtATime

section Uninterrupted

/-- The sections that an operation of one thread goes through. -/
def sections (thread : Fin threads) (manager : SessionManager) : Operation → List (Event threads)
  | .openSession => [.insertSession thread, .assignFocus thread, .applyFocus thread]
  | .closeSession session =>
      [.removeSession thread session, .defaultFocus thread, .assignFocus thread,
        .applyFocus thread, .eraseTags thread]
  | .createSurfaceFor session (.ok bufferList) =>
      [.createSurface thread session (.ok bufferList), .assignFocus thread, .applyFocus thread]
  | .createSurfaceFor session (.error thrown) => [.createSurface thread session (.error thrown)]
  | .tagSessionWithLightdmId session id => [.tagSession thread session id]
  | .focusSessionWithLightdmId id => match manager.tags.find? fun tag => tag.1 = id with
      | some _ => [.findTag thread id, .assignFocus thread, .applyFocus thread, .eraseTags thread]
      | none => [.findTag thread id]
  | .focusNext => match SessionFocus.focusNext manager with
      | .ok _ => [.focusNext thread, .assignFocus thread, .applyFocus thread, .eraseTags thread]
      | .error _ => [.focusNext thread]
  | .destroySurface session key => [.destroySurface thread session key]

@[simp] theorem quiet_manager (manager : SessionManager) :
    (quiet manager : Sections threads).manager = manager := rfl

@[simp] theorem quiet_mutex (manager : SessionManager) :
    (quiet manager : Sections threads).mutex = none := rfl

@[simp] theorem quiet_phase (manager : SessionManager) (thread : Fin threads) :
    (quiet manager).phase thread = .idle := rfl

theorem quiet_locks (manager : SessionManager) (thread : Fin threads) :
    locks (quiet manager) thread := ⟨rfl, rfl⟩

theorem quiet_accepts {manager : SessionManager} {session : SessionKey}
    (member : session ∈ manager.shell.apps) (thread : Fin threads) :
    accepts (quiet manager) thread session :=
  ⟨rfl, member, by simp [subject]⟩

section Endings

variable {state : Sections threads} {thread : Fin threads}

theorem created_ending {session : SessionKey} (created : state.phase thread = .created session) :
    run step state [.assignFocus thread, .applyFocus thread] =
      some (proceed (withShell state (setFocusTo state.manager.shell (some session)))
        thread .idle) := by
  simp [run_cons, step, created, proceed, assignFocus, applyFocus, withShell, setFocusTo]

theorem inserted_ending {newSession : SessionKey}
    (inserted : state.phase thread = .inserted newSession) (free : state.mutex = none) :
    run step state [.assignFocus thread, .applyFocus thread] =
      some (proceed (withShell state (setFocusTo state.manager.shell (some newSession)))
        thread .idle) := by
  simp [run_cons, step, inserted, free, proceed, assignFocus, applyFocus, withShell, setFocusTo]

theorem chosen_ending {nextFocus closing : Option SessionKey}
    (chosen : state.phase thread = .chosen nextFocus closing) :
    run step state [.assignFocus thread, .applyFocus thread, .eraseTags thread] =
      some (eraseTags (withShell state (setFocusTo state.manager.shell nextFocus))
        thread closing) := by
  simp [run_cons, step, chosen, proceed, assignFocus, applyFocus, eraseTags, withShell, setFocusTo]

theorem choice_uninterrupted {manager : SessionManager} {nextFocus : Option SessionKey}
    {choice : Event threads}
    (chosen : step (quiet manager) choice = some
      (proceed { quiet manager with mutex := some thread } thread (.chosen nextFocus none))) :
    run step (quiet manager) [choice, .assignFocus thread, .applyFocus thread, .eraseTags thread] =
      some (quiet { manager with shell := setFocusTo manager.shell nextFocus }) := by
  have phase : (proceed { quiet manager with mutex := some thread } thread
      (.chosen nextFocus none)).phase thread = .chosen nextFocus none := by simp [proceed]
  rw [run_cons, chosen, Option.bind_some, chosen_ending phase]
  simp [eraseTags, proceed, withShell, quiet]

end Endings

section Operations

variable (manager : SessionManager) (thread : Fin threads)

theorem open_uninterrupted :
    run step (quiet manager) (sections thread manager .openSession) =
      some (quiet (SessionFocus.openSession manager)) := by
  have first : step (quiet manager) (.insertSession thread) =
      some (insertSession (quiet manager) thread) := by simp [step]
  have inserted : (insertSession (quiet manager) thread).phase thread =
      .inserted manager.nextSession := by simp [insertSession, proceed]
  rw [sections, run_cons, first, Option.bind_some, inserted_ending inserted rfl]
  simp [proceed, insertSession, withShell, quiet, SessionFocus.openSession,
    ShellSessions.openSession]

variable {manager}

theorem close_uninterrupted {session : SessionKey} (member : session ∈ manager.shell.apps) :
    ∃ next, SessionFocus.closeSession manager session = .ok next ∧
      run step (quiet manager) (sections thread manager (.closeSession session)) =
        some (quiet next) := by
  simp only [SessionFocus.closeSession, ShellSessions.closeSession, if_pos member]
  refine ⟨_, rfl, ?_⟩
  have first : step (quiet manager) (.removeSession thread session) =
      some (removeSession (quiet manager) thread session) :=
    if_pos ⟨quiet_accepts member thread, rfl⟩
  have second : step (removeSession (quiet manager) thread session) (.defaultFocus thread) =
      some (proceed (removeSession (quiet manager) thread session) thread
        (.chosen (defaultFocus (manager.shell.apps.erase session)) (some session))) := by
    simp [step, removeSession, proceed, withShell]
  have chosen : (proceed (removeSession (quiet manager) thread session) thread
      (.chosen (defaultFocus (manager.shell.apps.erase session)) (some session))).phase thread =
        .chosen (defaultFocus (manager.shell.apps.erase session)) (some session) := by
    simp [proceed]
  rw [sections, run_cons, first, Option.bind_some, run_cons, second, Option.bind_some,
    chosen_ending chosen]
  simp [eraseTags, proceed, removeSession, withShell, quiet]

theorem create_uninterrupted {session : SessionKey} (member : session ∈ manager.shell.apps)
    (bufferList : List BufferID) :
    run step (quiet manager)
        (sections thread manager (.createSurfaceFor session (.ok bufferList))) =
      some (quiet { manager with
        shell := ShellSessions.createSurfaceFor bufferList manager.shell session }) := by
  have first : step (quiet manager) (.createSurface thread session (.ok bufferList)) =
      some (createSurface (quiet manager) thread session bufferList) :=
    if_pos (quiet_accepts member thread)
  have created : (createSurface (quiet manager) thread session bufferList).phase thread =
      .created session := by simp [createSurface, proceed]
  rw [sections, run_cons, first, Option.bind_some, created_ending created]
  simp [proceed, createSurface, withShell, quiet, ShellSessions.createSurfaceFor]

theorem find_uninterrupted (id : Int32) :
    run step (quiet manager) (sections thread manager (.focusSessionWithLightdmId id)) =
      some (quiet (focusSessionWithLightdmId manager id)) := by
  have first : step (quiet manager) (.findTag thread id) =
      some (chooseTagged (quiet manager) thread id) := by
    simp [step, quiet_locks]
  unfold chooseTagged at first
  simp only [sections, focusSessionWithLightdmId]
  cases tagged : manager.tags.find? fun tag => tag.1 = id with
  | none => simpa [tagged, run_single] using first
  | some tag =>
      simp only [quiet_manager, tagged] at first ⊢
      exact choice_uninterrupted first

theorem choose_next_cases :
    (∃ nextFocus, chooseNext (quiet manager) thread =
        proceed { quiet manager with mutex := some thread } thread (.chosen nextFocus none) ∧
      SessionFocus.focusNext manager =
        .ok { manager with shell := setFocusTo manager.shell nextFocus }) ∨
    (chooseNext (quiet manager) thread = quiet manager ∧
      ∃ thrown, SessionFocus.focusNext manager = .error thrown) := by
  unfold chooseNext SessionFocus.focusNext ShellSessions.focusNext
  simp only [quiet_manager]
  cases manager.shell.focusApplication with
  | none => exact Or.inl ⟨_, rfl, rfl⟩
  | some session =>
      cases successor : successorOf (pointers manager.shell.apps) (some session) with
      | ok nextFocus => exact Or.inl ⟨nextFocus, by simp only [successor], by
          simp [successor, Except.map]⟩
      | error thrown => exact Or.inr ⟨by simp only [successor], by
          simp [successor, Except.map]⟩

theorem focus_next_uninterrupted {next : SessionManager}
    (moved : SessionFocus.step manager .focusNext = some next) :
    run step (quiet manager) (sections thread manager .focusNext) = some (quiet next) := by
  have first : step (quiet manager) (.focusNext thread) =
      some (chooseNext (quiet manager) thread) := by
    simp [step, quiet_locks]
  simp only [SessionFocus.step, perform] at moved
  unfold sections
  rcases choose_next_cases thread with ⟨nextFocus, chosen, succeeded⟩ | ⟨same, thrown, failed⟩
  · rw [chosen] at first
    simp only [succeeded] at moved ⊢
    cases moved
    exact choice_uninterrupted first
  · rw [same] at first
    simp only [failed] at moved ⊢
    cases moved
    rw [run_single, first]

end Operations

/-- Without other threads the sections of an operation do what the operation does. -/
theorem uninterrupted_operation {manager next : SessionManager} {operation : Operation}
    (stepped : restrict givenOpen SessionFocus.step manager operation = some next)
    (thread : Fin threads) :
    run step (quiet manager) (sections thread manager operation) = some (quiet next) := by
  obtain ⟨given, moved⟩ := restrict_some.mp stepped
  cases operation with
  | openSession =>
      cases moved
      exact open_uninterrupted manager thread
  | closeSession session =>
      obtain ⟨closed, succeeded, ran⟩ := close_uninterrupted thread (of_decide_eq_true given)
      simp only [SessionFocus.step, perform, succeeded] at moved
      cases moved
      exact ran
  | createSurfaceFor session created =>
      have member : session ∈ manager.shell.apps := of_decide_eq_true given
      cases created with
      | error thrown =>
          cases moved
          simp [sections, run_single, step, quiet_accepts member]
      | ok bufferList =>
          cases moved
          exact create_uninterrupted thread member bufferList
  | tagSessionWithLightdmId session id =>
      have member : session ∈ manager.shell.apps := of_decide_eq_true given
      cases moved
      simp [sections, run_single, step, quiet_accepts member]
      rfl
  | focusSessionWithLightdmId id =>
      cases moved
      exact find_uninterrupted thread id
  | focusNext => exact focus_next_uninterrupted thread moved
  | destroySurface session key =>
      have member : session ∈ manager.shell.apps := of_decide_eq_true given
      simp only [SessionFocus.step, perform] at moved
      simp only [sections, run_single, step, if_pos (quiet_accepts member thread), quiet_manager]
      cases destroyed : SessionFocus.destroySurface manager session key with
      | error thrown =>
          simp only [destroyed] at moved
          cases moved
          rfl
      | ok left =>
          simp only [destroyed] at moved
          cases moved
          rfl

end Uninterrupted

section Overlapping

/-- Both threads open a session and create a surface for it. The first one has assigned the
focus when the second one assigns and applies it. -/
def overlapping (first second : Fin threads) : List (Event threads) :=
  [.insertSession first, .assignFocus first, .applyFocus first,
    .insertSession second, .assignFocus second, .applyFocus second,
    .createSurface first 0 (.ok [⟨1⟩, ⟨2⟩]), .createSurface second 1 (.ok [⟨3⟩, ⟨4⟩]),
    .assignFocus first, .assignFocus second, .applyFocus second, .applyFocus first]

/-- The second session has the focus and its surface is hidden. -/
theorem overlapping_runs {limit : Nat} (several : 2 ≤ limit) :
    ∃ state : Sections 2,
      run (restrict (limited limit) step) (quiet noSessions) (overlapping 0 1) = some state ∧
      Quiescent state ∧ state.manager.shell.apps = [0, 1] ∧
      state.manager.shell.focusApplication = some 1 ∧
      ∃ surface, (state.manager.shell.sessions 1).surfaces 0 = some surface ∧
        surface.isHidden = true := by
  rcases Nat.exists_eq_add_of_le' several with ⟨more, rfl⟩
  exact ⟨_, rfl, by decide, rfl, rfl, _, rfl, rfl⟩

/-- In a state at rest the surfaces follow the focus on every schedule exactly when no
thread assigns the focus while another one is about to apply its own. -/
theorem focus_agrees_iff (limit : Nat) :
    (∀ (threads : Nat) (events : List (Event threads)) (state : Sections threads),
      run (restrict (limited limit) step) (quiet noSessions) events = some state →
        Quiescent state → ∀ session ∈ state.manager.shell.apps,
          Agrees state.manager.shell session) ↔ limit ≤ 1 := by
  constructor
  · intro agree
    by_contra many
    have several : 2 ≤ limit := by omega
    obtain ⟨state, ran, quiescent, apps, focus, surface, found, hidden⟩ :=
      overlapping_runs several
    have member : 1 ∈ state.manager.shell.apps := by simp [apps]
    exact (agree 2 (overlapping 0 1) state ran quiescent 1 member 0 surface found).mp hidden focus
  · intro few threads events state ran quiescent session member
    apply (run_aligned few ran).settled
    · intro thread
      rw [quiescent thread]
      rfl
    · exact member
    · intro thread
      simp [quiescent thread]

/-- The surfaces are created at the same time, and the focus is set one after the other. -/
def oneAfterTheOther (first second : Fin threads) : List (Event threads) :=
  [.insertSession first, .assignFocus first, .applyFocus first,
    .insertSession second, .assignFocus second, .applyFocus second,
    .createSurface first 0 (.ok [⟨1⟩, ⟨2⟩]), .createSurface second 1 (.ok [⟨3⟩, ⟨4⟩]),
    .assignFocus first, .applyFocus first, .assignFocus second, .applyFocus second]

theorem focus_set_one_after_the_other :
    ∃ state : Sections 2,
      run (restrict (limited 1) step) (quiet noSessions) (oneAfterTheOther 0 1) = some state ∧
      Quiescent state ∧ state.manager.shell.apps = [0, 1] ∧
      ∀ session ∈ state.manager.shell.apps, Agrees state.manager.shell session := by
  obtain ⟨state, ran, quiescent, apps⟩ : ∃ state : Sections 2,
      run (restrict (limited 1) step) (quiet noSessions) (oneAfterTheOther 0 1) = some state ∧
        Quiescent state ∧ state.manager.shell.apps = [0, 1] := ⟨_, rfl, by decide, rfl⟩
  exact ⟨state, ran, quiescent, apps,
    (focus_agrees_iff 1).mpr (le_refl _) 2 (oneAfterTheOther 0 1) state ran quiescent⟩

theorem overlapping_focus_is_hidden :
    ∃ state : Sections 2,
      run step (quiet noSessions) (overlapping 0 1) = some state ∧ Quiescent state ∧
      state.manager.shell.apps = [0, 1] ∧ state.manager.shell.focusApplication = some 1 ∧
      ¬ Agrees state.manager.shell 1 := by
  obtain ⟨state, ran, quiescent, apps, focus, surface, found, hidden⟩ : ∃ state : Sections 2,
      run step (quiet noSessions) (overlapping 0 1) = some state ∧ Quiescent state ∧
        state.manager.shell.apps = [0, 1] ∧ state.manager.shell.focusApplication = some 1 ∧
        ∃ surface, (state.manager.shell.sessions 1).surfaces 0 = some surface ∧
          surface.isHidden = true := ⟨_, rfl, by decide, rfl, rfl, _, rfl, rfl⟩
  exact ⟨state, ran, quiescent, apps, focus, fun agrees =>
    (agrees 0 surface found).mp hidden focus⟩

end Overlapping

end Mir.FocusSections
