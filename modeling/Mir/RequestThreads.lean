import Mathlib.Data.Fintype.Basic
import Mir.ShellSessions
import Mir.SurfaceBuffers

/-!
# The threads that handle requests

`ProtobufSocketCommunicator` runs the io service on a fixed number of threads. A
thread runs a request handler to its end; a connection reads its next request when
the handler of the one before has returned, so each session occupies one thread at
most. `next_buffer` and `create_surface` end in `client_acquire` and keep their
thread while it waits. Only surfaces that are not hidden are composited. Requests
that do not touch sessions, focus or buffers are left out.
-/

namespace Mir.RequestThreads

open Mir.TransitionRuns Mir.SwapperModel Mir.SwapperOwnership Mir.ShellSessions
open Mir.SurfaceBuffers (resetClientBuffer Driven acquire_ready reset_driven)

set_option autoImplicit false

/-- The shell, and for each thread the surface in whose `client_acquire` it is. -/
structure Pool (threads : Nat) where
  shell : Shell
  waiting : Fin threads → Option (SessionKey × SurfaceKey)

inductive Event (threads : Nat) where
  | openSession (thread : Fin threads) (session : SessionKey)
  | closeSession (thread : Fin threads) (session : SessionKey)
  | createSurface (thread : Fin threads) (session : SessionKey)
  | releaseSurface (thread : Fin threads) (session : SessionKey) (surface : SurfaceKey)
  | nextBuffer (thread : Fin threads) (session : SessionKey) (surface : SurfaceKey)
  | clientAcquired (thread : Fin threads) (dequeuedBuffer : BufferID)
  | selectFocus (thread : Fin threads) (session : SessionKey) (target : SessionKey)
  | focusNext
  | graphicRegion (session : SessionKey) (surface : SurfaceKey) (acquiredBuffer : BufferID)
  | passFinished (session : SessionKey) (surface : SurfaceKey) (releasedBuffer : BufferID)

variable {threads : Nat}

def idle : Pool threads where
  shell := ⟨[], fun _ => ⟨fun _ => none, 0⟩, none⟩
  waiting := fun _ => none

def owner (waiting : Fin threads → Option (SessionKey × SurfaceKey)) (thread : Fin threads) :
    Option SessionKey :=
  (waiting thread).map Prod.fst

def accepts (state : Pool threads) (thread : Fin threads) (session : SessionKey) : Prop :=
  state.waiting thread = none ∧ session ∈ state.shell.apps ∧
    ∀ other, owner state.waiting other ≠ some session

instance (state : Pool threads) (thread : Fin threads) (session : SessionKey) :
    Decidable (accepts state thread session) :=
  inferInstanceAs (Decidable (_ ∧ _ ∧ _))

def callSwapper (shell : Shell) (session : SessionKey) (key : SurfaceKey) (call : Call) :
    Option Shell :=
  ((shell.sessions session).surfaces key).bind fun surface =>
    (SwapperOwnership.step surface.ownership call).map fun ownership =>
      updateSurface shell session key (some { surface with ownership := ownership })

/-- `FilterForVisibleRenderablesInRegion`, for the surfaces of open sessions. -/
def composited (shell : Shell) (session : SessionKey) (key : SurfaceKey) : Bool :=
  decide (session ∈ shell.apps) &&
    match (shell.sessions session).surfaces key with
    | none => false
    | some surface => !surface.isHidden

def step (bufferList : List BufferID) (state : Pool threads) :
    Event threads → Option (Pool threads)
  | .openSession thread session =>
      if state.waiting thread = none ∧ session ∉ state.shell.apps then
        some { state with shell := openSession state.shell session }
      else none
  | .closeSession thread session =>
      if accepts state thread session then
        match closeSession state.shell session with
        | .ok shell => some { state with shell := shell }
        | .error _ => none
      else none
  | .createSurface thread session =>
      if accepts state thread session then
        some
          { shell := createSurfaceFor bufferList state.shell session
            waiting := Function.update state.waiting thread
              (some (session, (state.shell.sessions session).nextSurfaceId)) }
      else none
  | .releaseSurface thread session key =>
      if accepts state thread session ∧
          ((state.shell.sessions session).surfaces key).isSome = true then
        some { state with shell := updateSurface state.shell session key none }
      else none
  | .nextBuffer thread session key =>
      if accepts state thread session then
        ((state.shell.sessions session).surfaces key).map fun surface =>
          { shell := updateSurface state.shell session key
              (some { surface with ownership := resetClientBuffer surface.ownership })
            waiting := Function.update state.waiting thread (some (session, key)) }
      else none
  | .clientAcquired thread key => (state.waiting thread).bind fun (session, surface) =>
      (callSwapper state.shell session surface (.clientAcquire key)).map fun shell =>
        { shell := shell
          waiting := Function.update state.waiting thread none }
  | .selectFocus thread session target =>
      if accepts state thread session ∧ target ∈ state.shell.apps then
        some { state with shell := setFocusTo state.shell (some target) }
      else none
  | .focusNext => match focusNext state.shell with
      | .ok shell => some { state with shell := shell }
      | .error _ => none
  | .graphicRegion session surface key =>
      if composited state.shell session surface then
        (callSwapper state.shell session surface (.compositorAcquire key)).map fun shell =>
          { state with shell := shell }
      else none
  | .passFinished session surface key =>
      (callSwapper state.shell session surface (.compositorRelease key)).map fun shell =>
        { state with shell := shell }

/-- At most `limit` sessions are open at a time. -/
def limited (limit : Nat) (state : Pool threads) : Event threads → Bool
  | .openSession _ _ => decide (state.shell.apps.length < limit)
  | _ => true

/-- Every thread waits in `client_acquire` for a buffer of a hidden surface. -/
def Blocked (state : Pool threads) : Prop :=
  ∀ thread, ∃ session key surface, state.waiting thread = some (session, key) ∧
    (state.shell.sessions session).surfaces key = some surface ∧
    surface.isHidden = true ∧ clientMustWait surface.ownership.swapper = true

section Occupation

/-- The busy threads handle requests of different open sessions. -/
structure Occupied (apps : List SessionKey)
    (waiting : Fin threads → Option (SessionKey × SurfaceKey)) : Prop where
  busy : ∀ thread session, owner waiting thread = some session → session ∈ apps
  apart : ∀ first second session, owner waiting first = some session →
    owner waiting second = some session → first = second

variable {apps : List SessionKey} {waiting : Fin threads → Option (SessionKey × SurfaceKey)}

theorem owner_update (waiting : Fin threads → Option (SessionKey × SurfaceKey))
    (thread : Fin threads) (place : Option (SessionKey × SurfaceKey)) :
    owner (Function.update waiting thread place) =
      Function.update (owner waiting) thread (place.map Prod.fst) := by
  funext other
  by_cases same : other = thread
  · simp [owner, same]
  · simp [owner, Function.update_of_ne same]

theorem occupied_take (occupied : Occupied apps waiting) {session : SessionKey}
    (opened : session ∈ apps) (unhandled : ∀ other, owner waiting other ≠ some session)
    (thread : Fin threads) (key : SurfaceKey) :
    Occupied apps (Function.update waiting thread (some (session, key))) := by
  constructor
  · intro other holder handles
    rw [owner_update] at handles
    by_cases same : other = thread
    · rw [same, Function.update_self] at handles
      cases handles
      exact opened
    · rw [Function.update_of_ne same] at handles
      exact occupied.busy other holder handles
  · intro first second holder firstHandles secondHandles
    rw [owner_update] at firstHandles secondHandles
    by_cases sameFirst : first = thread <;> by_cases sameSecond : second = thread
    · rw [sameFirst, sameSecond]
    · rw [sameFirst, Function.update_self] at firstHandles
      cases firstHandles
      rw [Function.update_of_ne sameSecond] at secondHandles
      exact absurd secondHandles (unhandled second)
    · rw [sameSecond, Function.update_self] at secondHandles
      cases secondHandles
      rw [Function.update_of_ne sameFirst] at firstHandles
      exact absurd firstHandles (unhandled first)
    · rw [Function.update_of_ne sameFirst] at firstHandles
      rw [Function.update_of_ne sameSecond] at secondHandles
      exact occupied.apart first second holder firstHandles secondHandles

theorem occupied_return (occupied : Occupied apps waiting) (thread : Fin threads) :
    Occupied apps (Function.update waiting thread none) := by
  have kept : ∀ other session, owner (Function.update waiting thread none) other = some session →
      owner waiting other = some session := by
    intro other session handles
    rw [owner_update] at handles
    by_cases same : other = thread
    · rw [same, Function.update_self] at handles
      cases handles
    · rwa [Function.update_of_ne same] at handles
  constructor
  · intro other session handles
    exact occupied.busy other session (kept other session handles)
  · intro first second session firstHandles secondHandles
    exact occupied.apart first second session (kept first session firstHandles)
      (kept second session secondHandles)

theorem occupied_apps {others : List SessionKey} (occupied : Occupied apps waiting)
    (opened : ∀ thread session, owner waiting thread = some session → session ∈ apps →
      session ∈ others) : Occupied others waiting where
  busy := by
    intro thread session handles
    exact opened thread session handles (occupied.busy thread session handles)
  apart := occupied.apart

structure Pooled (limit : Nat) (state : Pool threads) : Prop where
  focused : Focused state.shell
  within : state.shell.apps.length ≤ limit
  occupied : Occupied state.shell.apps state.waiting

theorem idle_pooled (limit : Nat) : Pooled limit (idle : Pool threads) where
  focused := ⟨by simp [idle], by simp [idle], by simp [idle]⟩
  within := by simp [idle]
  occupied := ⟨by simp [idle, owner], by simp [idle, owner]⟩

theorem ownership_focused {shell : Shell} (focused : Focused shell) {session : SessionKey}
    {key : SurfaceKey} {surface : SurfaceState}
    (found : (shell.sessions session).surfaces key = some surface)
    (ownership : Ownership BufferID) :
    Focused (updateSurface shell session key (some { surface with ownership := ownership })) := by
  apply update_focused focused
  intro after same hidden
  cases same
  exact ⟨surface, found, hidden⟩

theorem call_focused {shell next : Shell} (focused : Focused shell) {session : SessionKey}
    {key : SurfaceKey} {call : Call} (called : callSwapper shell session key call = some next) :
    Focused next ∧ next.apps = shell.apps := by
  rcases Option.bind_eq_some_iff.mp called with ⟨surface, found, handed⟩
  rcases Option.map_eq_some_iff.mp handed with ⟨ownership, -, rfl⟩
  exact ⟨ownership_focused focused found ownership, rfl⟩

theorem open_pooled {limit : Nat} {state : Pool threads} (pooled : Pooled limit state)
    {session : SessionKey} (fresh : session ∉ state.shell.apps)
    (room : state.shell.apps.length < limit) :
    Pooled limit { state with shell := openSession state.shell session } where
  focused := open_focused pooled.focused fresh
  within := by
    simp only [openSession, setFocusTo, List.length_append, List.length_singleton]
    omega
  occupied := by
    apply occupied_apps pooled.occupied
    intro _ other _ member
    simp [openSession, setFocusTo, member]

/-- A session is closed by a request of its own, so no other thread works for it. -/
theorem close_pooled {limit : Nat} {state : Pool threads} (pooled : Pooled limit state)
    {session : SessionKey} {shell : Shell}
    (unhandled : ∀ thread, owner state.waiting thread ≠ some session)
    (closed : closeSession state.shell session = .ok shell) :
    Pooled limit { state with shell := shell } := by
  rcases close_focused pooled.focused closed with ⟨after, fewer⟩
  constructor
  · exact after
  · simp only [fewer]
    exact List.length_erase_le.trans pooled.within
  · apply occupied_apps pooled.occupied
    intro other holder handles member
    have different : holder ≠ session := by
      intro same
      exact unhandled other (same ▸ handles)
    rw [fewer]
    exact (List.mem_erase_of_ne different).mpr member

theorem shell_pooled {limit : Nat} {state : Pool threads} (pooled : Pooled limit state)
    {shell : Shell} (focused : Focused shell) (same : shell.apps = state.shell.apps) :
    Pooled limit { state with shell := shell } where
  focused := focused
  within := same ▸ pooled.within
  occupied := same ▸ pooled.occupied

theorem step_pooled {bufferList : List BufferID} {limit : Nat} {state next : Pool threads}
    {event : Event threads} (pooled : Pooled limit state)
    (stepped : restrict (limited limit) (step bufferList) state event = some next) :
    Pooled limit next := by
  rcases restrict_some.mp stepped with ⟨allowed, moved⟩
  have focused := pooled.focused
  have within := pooled.within
  have occupied := pooled.occupied
  cases event with
  | openSession thread session =>
      simp only [step] at moved
      split_ifs at moved with accepted
      cases moved
      exact open_pooled pooled accepted.2 (by simpa [limited] using allowed)
  | closeSession thread session =>
      simp only [step] at moved
      split_ifs at moved with accepted
      cases closed : closeSession state.shell session with
      | error err => simp [closed] at moved
      | ok shell =>
          simp only [closed, Option.some.injEq] at moved
          subst moved
          exact close_pooled pooled accepted.2.2 closed
  | createSurface thread session =>
      simp only [step] at moved
      split_ifs at moved with accepted
      cases moved
      exact ⟨create_focused focused accepted.2.1, within,
        occupied_take occupied accepted.2.1 accepted.2.2 thread _⟩
  | releaseSurface thread session key =>
      simp only [step] at moved
      split_ifs at moved with accepted
      cases moved
      exact shell_pooled pooled (update_focused focused (by simp)) rfl
  | nextBuffer thread session key =>
      simp only [step] at moved
      split_ifs at moved with accepted
      rcases Option.map_eq_some_iff.mp moved with ⟨surface, found, rfl⟩
      exact ⟨ownership_focused focused found _, within,
        occupied_take occupied accepted.2.1 accepted.2.2 thread key⟩
  | clientAcquired thread key =>
      rcases Option.bind_eq_some_iff.mp moved with ⟨⟨session, surface⟩, -, returned⟩
      rcases Option.map_eq_some_iff.mp returned with ⟨shell, called, rfl⟩
      rcases call_focused focused called with ⟨after, same⟩
      constructor
      · exact after
      · rwa [same]
      · simp only [same]
        exact occupied_return occupied thread
  | selectFocus thread session target =>
      simp only [step] at moved
      split_ifs at moved with accepted
      cases moved
      refine shell_pooled pooled ?_ rfl
      apply set_focus_focused focused.distinct
      intro _
      exact ⟨target, accepted.2, rfl⟩
  | focusNext =>
      cases changed : focusNext state.shell with
      | error err => simp [step, changed] at moved
      | ok shell =>
          simp only [step, changed, Option.some.injEq] at moved
          subst moved
          rcases focus_next_focused focused changed with ⟨after, same⟩
          exact shell_pooled pooled after same
  | graphicRegion session surface key =>
      simp only [step] at moved
      split_ifs at moved
      rcases Option.map_eq_some_iff.mp moved with ⟨shell, called, rfl⟩
      rcases call_focused focused called with ⟨after, same⟩
      exact shell_pooled pooled after same
  | passFinished session surface key =>
      rcases Option.map_eq_some_iff.mp moved with ⟨shell, called, rfl⟩
      rcases call_focused focused called with ⟨after, same⟩
      exact shell_pooled pooled after same

theorem run_pooled {bufferList : List BufferID} {limit : Nat} {events : List (Event threads)}
    {finish : Pool threads}
    (ran : run (restrict (limited limit) (step bufferList)) idle events = some finish) :
    Pooled limit finish :=
  run_invariant (Pooled limit) (idle_pooled limit)
    (fun _ _ _ pooled stepped => step_pooled pooled stepped) ran

/-- The blocked threads belong to different sessions, none of which has the focus. -/
theorem blocked_below_limit {limit : Nat} {state : Pool threads} (pooled : Pooled limit state)
    (positive : 0 < threads) (blocked : Blocked state) : threads < limit := by
  rcases pooled with ⟨focused, within, occupied⟩
  choose session key surface waits found hidden _ using blocked
  have handles : ∀ thread, owner state.waiting thread = some (session thread) := by
    intro thread
    simp [owner, waits thread]
  have opened : ∀ thread, session thread ∈ state.shell.apps := by
    intro thread
    exact occupied.busy thread _ (handles thread)
  rcases focused.focus (List.ne_nil_of_mem (opened ⟨0, positive⟩)) with ⟨focus, member, current⟩
  have distinct : (focus :: List.ofFn session).Nodup := by
    rw [List.nodup_cons, List.nodup_ofFn]
    constructor
    · intro blockedToo
      rcases List.mem_ofFn.mp blockedToo with ⟨thread, rfl⟩
      exact focused.shown _ member (key thread) (surface thread) (found thread) (hidden thread)
        current
    · intro first second same
      exact occupied.apart first second _ (handles first) (same ▸ handles second)
  have inside : (focus :: List.ofFn session) ⊆ state.shell.apps := by
    intro other listed
    rcases List.mem_cons.mp listed with rfl | threadOwner
    · exact member
    · rcases List.mem_ofFn.mp threadOwner with ⟨thread, rfl⟩
      exact opened thread
  have count := (List.subperm_of_subset distinct inside).length_le
  simp only [List.length_cons, List.length_ofFn] at count
  omega

end Occupation

section Exhaustion

variable {bufferList : List BufferID} {limit : Nat} {state : Pool threads}

theorem reset_keeps_queue (ownership : Ownership BufferID) :
    (resetClientBuffer ownership).swapper.clientQueue = ownership.swapper.clientQueue := by
  unfold resetClientBuffer
  split <;> rfl

theorem waits_on_empty_queue {swapper : BufferSwapperMulti BufferID}
    (empty : swapper.clientQueue = []) : clientMustWait swapper = true := by
  simp [clientMustWait, empty]

theorem acquired_step {thread : Fin threads} {session : SessionKey} {key : SurfaceKey}
    {surface : SurfaceState} {front : BufferID} {next : Ownership BufferID}
    (waits : state.waiting thread = some (session, key))
    (found : (state.shell.sessions session).surfaces key = some surface)
    (called : SwapperOwnership.step surface.ownership (.clientAcquire front) = some next) :
    restrict (limited limit) (step bufferList) state (.clientAcquired thread front) = some
      { shell := updateSurface state.shell session key (some { surface with ownership := next })
        waiting := Function.update state.waiting thread none } := by
  simp [restrict, limited, step, waits, callSwapper, found, called]

theorem request_step {thread : Fin threads} {session : SessionKey} {key : SurfaceKey}
    {surface : SurfaceState} (accepted : accepts state thread session)
    (found : (state.shell.sessions session).surfaces key = some surface) :
    restrict (limited limit) (step bufferList) state (.nextBuffer thread session key) = some
      { shell := updateSurface state.shell session key
          (some { surface with ownership := resetClientBuffer surface.ownership })
        waiting := Function.update state.waiting thread (some (session, key)) } := by
  simp [restrict, limited, step, accepted, found]

/-- What one thread does with one surface, while the other threads are free. -/
structure Served (state finish : Pool threads) (session : SessionKey) (key : SurfaceKey)
    (after : SurfaceState) : Prop where
  apps : finish.shell.apps = state.shell.apps
  returned : finish.waiting = fun _ => none
  others : ∀ other, other ≠ session → finish.shell.sessions other = state.shell.sessions other
  found : (finish.shell.sessions session).surfaces key = some after

theorem update_then_free (thread : Fin threads) (place : Option (SessionKey × SurfaceKey)) :
    Function.update (Function.update (fun _ => none) thread place) thread none =
      fun _ : Fin threads => none := by
  rw [Function.update_idem, Function.update_eq_self_iff]

theorem acquire_served (several : 2 ≤ bufferList.length) (distinct : bufferList.Nodup)
    {thread : Fin threads} {session : SessionKey} {key : SurfaceKey}
    (waits : state.waiting = Function.update (fun _ => none) thread (some (session, key)))
    {surface : SurfaceState} (found : (state.shell.sessions session).surfaces key = some surface)
    (driven : Driven (fun key => key) bufferList surface.ownership)
    (nothing : surface.ownership.clientHeld = []) {front : BufferID} {rest : List BufferID}
    (queue : surface.ownership.swapper.clientQueue = front :: rest) :
    ∃ next after,
      restrict (limited limit) (step bufferList) state (.clientAcquired thread front) =
          some next ∧
        Served state next session key after ∧
        Driven (fun key => key) bufferList after.ownership ∧
        after.ownership.swapper.clientQueue = rest := by
  rcases acquire_ready several (by simpa using distinct) driven nothing queue with
    ⟨ownership, called, after, shorter⟩
  have here : state.waiting thread = some (session, key) := by simp [waits]
  refine ⟨_, { surface with ownership := ownership }, acquired_step here found called, ?_, after,
    shorter⟩
  constructor
  · rfl
  · simp only [waits, update_then_free]
  · intro other different
    exact update_surface_other _ _ _ different
  · exact update_surface_self _ _ _ _

/-- A client that keeps asking for buffers while nothing is composited gets every
buffer that is ready, and the surface is left with none. -/
theorem drain (several : 2 ≤ bufferList.length) (distinct : bufferList.Nodup)
    (thread : Fin threads) {session : SessionKey} {key : SurfaceKey} (count : Nat)
    {state : Pool threads} (opened : session ∈ state.shell.apps)
    (waits : state.waiting = Function.update (fun _ => none) thread (some (session, key)))
    {surface : SurfaceState} (found : (state.shell.sessions session).surfaces key = some surface)
    (driven : Driven (fun key => key) bufferList surface.ownership)
    (nothing : surface.ownership.clientHeld = [])
    (ready : surface.ownership.swapper.clientQueue.length = count + 1) :
    ∃ events finish after,
      run (restrict (limited limit) (step bufferList)) state events = some finish ∧
        Served state finish session key after ∧ after.ownership.swapper.clientQueue = [] := by
  induction count generalizing state surface with
  | zero =>
      rcases List.length_eq_one_iff.mp ready with ⟨front, queue⟩
      rcases acquire_served several distinct waits found driven nothing queue with
        ⟨next, after, acquired, served, -, empty⟩
      exact ⟨[.clientAcquired thread front], next, after, by rw [run_single, acquired], served,
        empty⟩
  | succ count ih =>
      rcases List.exists_cons_of_length_eq_add_one ready with ⟨front, rest, queue⟩
      rcases acquire_served several distinct waits found driven nothing queue with
        ⟨next, after, acquired, served, driven, shorter⟩
      rcases reset_driven several (by simpa using distinct) driven with
        ⟨resetDriven, released, sameQueue⟩
      have accepted : accepts next thread session :=
        ⟨by simp [served.returned], served.apps ▸ opened, by simp [owner, served.returned]⟩
      let middle : Pool threads :=
        { shell := updateSurface next.shell session key
            (some { after with ownership := resetClientBuffer after.ownership })
          waiting := Function.update (fun _ => none) thread (some (session, key)) }
      have requested : restrict (limited limit) (step bufferList) next
          (.nextBuffer thread session key) = some middle := by
        rw [request_step accepted served.found, served.returned]
      have stillOpen : session ∈ middle.shell.apps := served.apps ▸ opened
      have fewer : (resetClientBuffer after.ownership).swapper.clientQueue.length =
          count + 1 := by
        rw [queue, List.length_cons] at ready
        rw [sameQueue, shorter]
        omega
      rcases ih stillOpen rfl (update_surface_self _ _ _ _) resetDriven released fewer with
        ⟨events, finish, last, ran, reached, empty⟩
      refine ⟨.clientAcquired thread front :: .nextBuffer thread session key :: events, finish,
        last, ?_, ?_, empty⟩
      · rw [run_cons, acquired, Option.bind_some, run_cons, requested, Option.bind_some]
        exact ran
      · constructor
        · exact reached.apps.trans served.apps
        · exact reached.returned
        · intro other different
          rw [reached.others other different, ← served.others other different]
          exact update_surface_other _ _ _ different
        · exact reached.found

/-- Sessions `0 .. count - 1` are open, and each has a surface with no buffer ready. -/
structure Background (count : Nat) (shell : Shell) : Prop where
  apps : shell.apps = List.range count
  drained : ∀ session < count, ∃ surface,
    (shell.sessions session).surfaces 0 = some surface ∧
      surface.ownership.swapper.clientQueue = []

theorem open_step {thread : Fin threads} {session : SessionKey}
    (free : state.waiting thread = none) (fresh : session ∉ state.shell.apps)
    (room : state.shell.apps.length < limit) :
    restrict (limited limit) (step bufferList) state (.openSession thread session) =
      some { state with shell := openSession state.shell session } := by
  simp [restrict, limited, step, free, fresh, room]

theorem create_step {thread : Fin threads} {session : SessionKey}
    (accepted : accepts state thread session) :
    restrict (limited limit) (step bufferList) state (.createSurface thread session) = some
      { shell := createSurfaceFor bufferList state.shell session
        waiting := Function.update state.waiting thread
          (some (session, (state.shell.sessions session).nextSurfaceId)) } := by
  simp [restrict, limited, step, accepted]

theorem constructed_driven (bufferList : List BufferID) :
    Driven (fun key => key) bufferList (constructed (fun key => key) bufferList) where
  accounted := constructed_accounted
  oneClient := by simp [constructed]
  onePass := by simp [constructed]

theorem opened_surface (bufferList : List BufferID) (shell : Shell) (session : SessionKey) :
    (((createSurfaceFor bufferList (openSession shell session) session).sessions session).surfaces
        0 = some ⟨constructed (fun key => key) bufferList, false⟩) ∧
      ((openSession shell session).sessions session).nextSurfaceId = 0 := by
  simp [createSurfaceFor, openSession, setFocusTo, setHidden, createSurface]

theorem opened_others {shell : Shell} {session other : SessionKey} (different : other ≠ session)
    {key : SurfaceKey} {surface : SurfaceState}
    (found : (shell.sessions other).surfaces key = some surface) :
    ∃ after, ((openSession shell session).sessions other).surfaces key = some after ∧
      after.ownership = surface.ownership := by
  apply set_focus_keeps
  simpa [Function.update_of_ne different] using found

theorem created_others {shell : Shell} {session other : SessionKey} (different : other ≠ session)
    {key : SurfaceKey} {surface : SurfaceState}
    (found : (shell.sessions other).surfaces key = some surface) :
    ∃ after, ((createSurfaceFor bufferList shell session).sessions other).surfaces key =
        some after ∧
      after.ownership = surface.ownership := by
  apply set_focus_keeps
  simpa [Function.update_of_ne different] using found

theorem one_more_background (several : 2 ≤ bufferList.length) (distinct : bufferList.Nodup)
    (thread : Fin threads) {count : Nat} (room : count < limit)
    (free : state.waiting = fun _ => none) (background : Background count state.shell) :
    ∃ events finish,
      run (restrict (limited limit) (step bufferList)) state events = some finish ∧
        finish.waiting = (fun _ => none) ∧ Background (count + 1) finish.shell := by
  let first : Pool threads := { state with shell := openSession state.shell count }
  have opened : restrict (limited limit) (step bufferList) state (.openSession thread count) =
      some first :=
    open_step (by simp [free]) (by simp [background.apps]) (by simpa [background.apps] using room)
  have accepted : accepts first thread count :=
    ⟨by simp [first, free], by simp [first, openSession, setFocusTo],
      by simp [first, owner, free]⟩
  rcases opened_surface bufferList state.shell count with ⟨found, firstKey⟩
  let second : Pool threads :=
    { shell := createSurfaceFor bufferList first.shell count
      waiting := Function.update (fun _ => none) thread (some (count, 0)) }
  have created : restrict (limited limit) (step bufferList) first (.createSurface thread count) =
      some second := by
    rw [create_step accepted]
    simp [second, first, free, firstKey]
  have stillOpen : count ∈ second.shell.apps := accepted.2.1
  have ready : (constructed (fun key => key) bufferList).swapper.clientQueue.length =
      bufferList.length - 1 + 1 := by
    simp only [constructed, fill_client_queue, List.length_map]
    omega
  rcases drain several distinct thread (bufferList.length - 1) stillOpen rfl found
    (constructed_driven bufferList) rfl ready with ⟨events, finish, after, ran, served, empty⟩
  refine ⟨.openSession thread count :: .createSurface thread count :: events, finish, ?_,
    served.returned, ?_⟩
  · rw [run_cons, opened, Option.bind_some, run_cons, created, Option.bind_some]
    exact ran
  · constructor
    · rw [served.apps, List.range_succ, ← background.apps]
      rfl
    · intro session inside
      by_cases new : session = count
      · exact ⟨after, new ▸ served.found, empty⟩
      · rcases background.drained session (by omega) with ⟨surface, before, drained⟩
        rcases opened_others new before with ⟨shown, afterOpen, sameOpen⟩
        rcases created_others new afterOpen with ⟨last, afterCreate, sameCreate⟩
        rw [served.others session new]
        exact ⟨last, afterCreate, by rw [sameCreate, sameOpen, drained]⟩

theorem backgrounds (several : 2 ≤ bufferList.length) (distinct : bufferList.Nodup)
    (thread : Fin threads) (count : Nat) (room : count ≤ limit) :
    ∃ events, ∃ finish : Pool threads,
      run (restrict (limited limit) (step bufferList)) idle events = some finish ∧
        finish.waiting = (fun _ => none) ∧ Background count finish.shell := by
  induction count with
  | zero => exact ⟨[], idle, rfl, rfl, ⟨rfl, by simp⟩⟩
  | succ count ih =>
      have spare : count < limit := room
      rcases ih spare.le with ⟨events, middle, before, free, background⟩
      rcases one_more_background several distinct thread spare free background with
        ⟨more, finish, ran, returned, after⟩
      exact ⟨events ++ more, finish, run_trans before ran, returned, after⟩

/-- The first `count` threads wait for the surfaces of the first `count` sessions,
all of which are hidden. -/
structure Filled (count : Nat) (state : Pool threads) : Prop where
  opened : ∀ session < threads, session ∈ state.shell.apps
  waiting : state.waiting = fun thread =>
    if thread.val < count then some (thread.val, 0) else none
  hidden : ∀ session < threads, ∃ surface,
    (state.shell.sessions session).surfaces 0 = some surface ∧ surface.isHidden = true ∧
      surface.ownership.swapper.clientQueue = []

theorem fill_one {count : Nat} (filled : Filled count state) (more : count < threads) :
    ∃ next, restrict (limited limit) (step bufferList) state
        (.nextBuffer ⟨count, more⟩ count 0) = some next ∧ Filled (count + 1) next := by
  have accepted : accepts state ⟨count, more⟩ count := by
    refine ⟨by simp [filled.waiting], filled.opened count more, ?_⟩
    intro other
    simp only [owner, filled.waiting]
    split_ifs with before
    · simpa using before.ne
    · simp
  rcases filled.hidden count more with ⟨surface, found, hidden, empty⟩
  refine ⟨_, request_step accepted found, ⟨filled.opened, ?_, ?_⟩⟩
  · funext other
    by_cases same : other = ⟨count, more⟩
    · simp [same]
    · have different : other.val ≠ count := fun value => same (Fin.ext value)
      simp only [Function.update_of_ne same, filled.waiting]
      split_ifs <;> first | rfl | omega
  · intro session inside
    by_cases same : session = count
    · subst same
      exact ⟨_, update_surface_self _ _ _ _, hidden, (reset_keeps_queue _).trans empty⟩
    · rw [update_surface_other _ _ _ same]
      exact filled.hidden session inside

theorem fill_all (filled : Filled 0 state) (count : Nat) (few : count ≤ threads) :
    ∃ events finish, run (restrict (limited limit) (step bufferList)) state events =
      some finish ∧ Filled count finish := by
  induction count with
  | zero => exact ⟨[], state, rfl, filled⟩
  | succ count ih =>
      rcases ih (by omega) with ⟨events, middle, ran, before⟩
      rcases fill_one before (by omega) with ⟨finish, requested, after⟩
      exact ⟨_, finish, run_trans ran ((run_single _ _ _).trans requested), after⟩

/-- With one session more than there are threads, the sessions in the background can
block them all. -/
theorem pool_can_block (several : 2 ≤ bufferList.length) (distinct : bufferList.Nodup)
    (positive : 0 < threads) (more : threads < limit) :
    ∃ events, ∃ state : Pool threads,
      run (restrict (limited limit) (step bufferList)) idle events = some state ∧
        Blocked state := by
  rcases backgrounds several distinct ⟨0, positive⟩ threads more.le with
    ⟨events, middle, ran, free, background⟩
  have opened : restrict (limited limit) (step bufferList) middle
      (.openSession ⟨0, positive⟩ threads) =
        some { middle with shell := openSession middle.shell threads } :=
    open_step (by simp [free]) (by simp [background.apps]) (by simpa [background.apps] using more)
  have filled : Filled 0 { middle with shell := openSession middle.shell threads } := by
    constructor
    · intro session inside
      simp [openSession, setFocusTo, background.apps, inside]
    · simpa using free
    · intro session inside
      rcases background.drained session inside with ⟨surface, before, drained⟩
      rcases opened_others inside.ne before with ⟨after, found, same⟩
      refine ⟨after, found, ?_, by rw [same, drained]⟩
      apply (set_focus_hidden _ found).mpr
      · simpa using inside.ne'
      · simp [background.apps, inside]
  rcases fill_all filled threads (le_refl _) with ⟨rest, finish, filledUp, all⟩
  refine ⟨events ++ .openSession ⟨0, positive⟩ threads :: rest, finish, ?_, ?_⟩
  · apply run_trans ran
    rw [run_cons, opened, Option.bind_some]
    exact filledUp
  · intro thread
    rcases all.hidden thread.val thread.isLt with ⟨surface, found, hidden, empty⟩
    exact ⟨thread.val, 0, surface, by simp [all.waiting], found, hidden,
      waits_on_empty_queue empty⟩

end Exhaustion

/-- The threads can all be blocked by hidden surfaces exactly when more sessions may
be open than there are threads. -/
theorem pool_stays_responsive_iff (bufferList : List BufferID)
    (several : 2 ≤ bufferList.length) (distinct : bufferList.Nodup) (threads : Nat)
    (positive : 1 ≤ threads) (limit : Nat) :
    (∀ (events : List (Event threads)) (state : Pool threads),
      run (restrict (limited limit) (step bufferList)) idle events = some state →
        ¬ Blocked state) ↔ limit ≤ threads := by
  constructor
  · intro responsive
    by_contra many
    rcases pool_can_block several distinct positive (Nat.lt_of_not_le many) with
      ⟨events, state, ran, blocked⟩
    exact responsive events state ran blocked
  · intro few events state ran blocked
    have below := blocked_below_limit (run_pooled ran) positive blocked
    omega

/-- The default pool of ten threads and ten clients. -/
theorem ten_threads_serve_ten_sessions :
    10 ≤ 10 ∧ ∀ (events : List (Event 10)) (state : Pool 10),
      run (restrict (limited 10) (step [⟨1⟩, ⟨2⟩])) idle events = some state →
        ¬ Blocked state :=
  ⟨le_refl _, (pool_stays_responsive_iff [⟨1⟩, ⟨2⟩] (by decide) (by decide) 10 (by decide)
    10).mpr (le_refl _)⟩

/-- One thread and two clients: the first has used up the two buffers of its surface
when the second one connects and takes the focus, and then asks for another. -/
def secondSessionConnects : List (Event 1) :=
  [.openSession 0 0, .createSurface 0 0, .clientAcquired 0 ⟨1⟩, .nextBuffer 0 0 0,
    .clientAcquired 0 ⟨2⟩, .openSession 0 1, .nextBuffer 0 0 0]

theorem hidden_surface_blocks_the_focused_session :
    ∃ state : Pool 1,
      run (step [⟨1⟩, ⟨2⟩]) idle secondSessionConnects = some state ∧
        Blocked state ∧ state.shell.focusApplication = some 1 ∧ 1 ∈ state.shell.apps ∧
        ∀ thread, ¬ accepts state thread 1 := by
  refine ⟨_, rfl, ?_, rfl, by decide, by decide⟩
  intro thread
  have only : thread = 0 := Subsingleton.elim _ _
  subst only
  exact ⟨0, 0, _, rfl, rfl, rfl, by decide⟩

end Mir.RequestThreads
