import Mir.ClientObjectUse

/-!
# The ends of the objects of the client library

Every surface that the application has given up is on its way to its end, and every wait handle
of a release is in the vector of the connection, or will be when `release_surface` returns.
-/

namespace Mir.ClientObjectEnds

open Mir.ObjectLifetimes Mir.ClientObjects Mir.ClientObjectUse

set_option autoImplicit false

variable {Thread : Type}

section Accounts

/-- Every surface is kept or on its way to its end, every handle of a release is in the vector
or will be, and the callbacks are made in the order of the requests. -/
structure Accounts (client : Client Thread) : Prop where
  made : ∀ surface < client.nextSurface, surface ∉ client.released →
    .surface surface ∈ client.heap ∨
      ∃ thread, .new (.surface surface) ∈ client.threads thread
  unborn : ∀ thread surface, .new (.surface surface) ∈ client.threads thread →
    surface ∉ client.released
  ending : ∀ surface ∈ client.released, .surface surface ∈ client.heap →
    Dooms effects (work client) (.surface surface) ∨
      ∃ thread, Fates (client.threads thread) (.surface surface)
  collected : ∀ handle, .releaseHandle handle ∈ client.heap →
    handle ∈ client.releaseWaitHandles ∨ ∃ thread, .pushBack handle ∈ client.threads thread
  distinct : client.releaseWaitHandles.Nodup
  pushing : ∀ thread handle, .pushBack handle ∈ client.threads thread →
    handle ∉ client.releaseWaitHandles
  single : ∀ thread other handle, .pushBack handle ∈ client.threads thread →
    .pushBack handle ∈ client.threads other → thread = other
  silent : client.handles .disconnect = ⟨0, 0⟩
  told : client.calledBack ++ (work client).flatMap callbacks =
    (client.sent.flatMap completion).flatMap callbacks

variable {client next : Client Thread} {thread : Thread} {action : Action} {later : List Action}

theorem mem_remaining [DecidableEq Thread] (remains : client.threads thread = action :: later)
    {other : Thread} {done : Action} :
    done ∈ client.threads other ↔
      done ∈ Function.update client.threads thread later other ∨
        (other = thread ∧ done = action) := by
  by_cases same : other = thread
  · subst same
    rw [Function.update_self, remains, List.mem_cons]
    tauto
  · rw [Function.update_of_ne same]
    simp [same]

section Acting

variable [DecidableEq Thread]

theorem act_ending (accounts : Accounts client) (remains : client.threads thread = action :: later)
    {surface : Nat} (gone : surface ∈ client.released)
    (alive : .surface surface ∈ after effects client.heap action) :
    Dooms effects (work client ++ (sends action).flatMap completion) (.surface surface) ∨
      ∃ other, Fates (Function.update client.threads thread later other) (.surface surface) := by
  have mine : action ∈ client.threads thread := (mem_remaining remains).mpr (.inr ⟨rfl, rfl⟩)
  have before : .surface surface ∈ client.heap := by
    refine (mem_after.mp alive).1.resolve_right fun created => ?_
    cases action with
    | new object =>
        cases List.mem_singleton.mp created
        exact accounts.unborn thread surface mine gone
    | _ => cases created
  rcases accounts.ending surface gone before with dooms | ⟨other, done, member, sent⟩
  · exact .inl (dooms_append.mpr (.inl dooms))
  · rcases (mem_remaining remains).mp member with still | ⟨rfl, rfl⟩
    · exact .inr ⟨other, done, still, sent⟩
    · exact .inl (dooms_append.mpr (.inr (dooms_flat_map.mpr sent)))

/-- A new handle is pushed later in the same call. -/
theorem act_collected (accounts : Accounts client)
    (remains : client.threads thread = action :: later)
    (coming : ∀ handle, .releaseHandle handle ∈ creates action →
      ∃ push ∈ later, handle ∈ pushes push)
    {handle : Nat} (alive : .releaseHandle handle ∈ after effects client.heap action) :
    handle ∈ client.releaseWaitHandles ++ pushes action ∨
      ∃ other, .pushBack handle ∈ Function.update client.threads thread later other := by
  rcases (mem_after.mp alive).1 with before | created
  · rcases accounts.collected handle before with inside | ⟨other, member⟩
    · exact .inl (List.mem_append_left _ inside)
    · rcases (mem_remaining remains).mp member with still | ⟨rfl, rfl⟩
      · exact .inr ⟨other, still⟩
      · exact .inl (List.mem_append_right _ (List.mem_singleton_self _))
  · obtain ⟨push, member, pushed⟩ := coming handle created
    cases push with
    | pushBack same =>
        cases List.mem_singleton.mp pushed
        exact .inr ⟨thread, by rwa [Function.update_self]⟩
    | _ => cases pushed

theorem act_pushing (accounts : Accounts client) (remains : client.threads thread = action :: later)
    (once : ∀ handle ∈ pushes action, ∀ push ∈ later, handle ∉ pushes push)
    {other : Thread} {handle : Nat}
    (member : .pushBack handle ∈ Function.update client.threads thread later other) :
    handle ∉ client.releaseWaitHandles ++ pushes action := by
  have left := (mem_remaining remains).mpr (.inl member)
  intro inside
  rcases List.mem_append.mp inside with before | now
  · exact accounts.pushing other handle left before
  · cases action with
    | pushBack same =>
        cases List.mem_singleton.mp now
        have mine := (mem_remaining remains).mpr (.inr ⟨rfl, rfl⟩)
        have equal := accounts.single other thread handle left mine
        subst equal
        rw [Function.update_self] at member
        exact once handle (List.mem_singleton_self _) _ member (List.mem_singleton_self _)
    | _ => cases now

theorem act_accounts (open_ : Open client) (accounts : Accounts client)
    (remains : client.threads thread = action :: later)
    (acted : act { client with threads := Function.update client.threads thread later } action =
      some next) : Accounts next := by
  have fine := open_.fine thread
  rw [remains] at fine
  obtain ⟨kind, ready, -, once, coming, -⟩ := fine
  obtain ⟨handles, silent, rfl⟩ := act_callable acted kind ready open_.connection
  have left : ∀ {other done}, done ∈ Function.update client.threads thread later other →
      done ∈ client.threads other := fun member => (mem_remaining remains).mpr (.inl member)
  have mine : action ∈ client.threads thread := (mem_remaining remains).mpr (.inr ⟨rfl, rfl⟩)
  constructor
  case made =>
    intro surface low kept
    rcases accounts.made surface low kept with alive | ⟨other, coming⟩
    · exact .inl (callable_keeps kind alive)
    · rcases (mem_remaining remains).mp coming with still | ⟨rfl, rfl⟩
      · exact .inr ⟨other, still⟩
      · exact .inl (mem_after.mpr ⟨.inr (List.mem_singleton_self _), rfl⟩)
  case unborn => exact fun other surface member => accounts.unborn other surface (left member)
  case ending =>
    intro surface gone alive
    rw [work_sent]
    exact act_ending accounts remains gone alive
  case collected => exact fun handle alive => act_collected accounts remains coming alive
  case distinct =>
    refine accounts.distinct.append ?_ ?_
    · cases action <;> simp [pushes]
    · intro handle inside pushed
      cases action with
      | pushBack same =>
          cases List.mem_singleton.mp pushed
          exact accounts.pushing thread handle mine inside
      | _ => cases pushed
  case pushing => exact fun other handle member => act_pushing accounts remains once member
  case single =>
    exact fun one two handle first second =>
      accounts.single one two handle (left first) (left second)
  case silent => exact silent.trans accounts.silent
  case told =>
    rw [work_sent, List.flatMap_append, ← List.append_assoc]
    show client.calledBack ++ (work client).flatMap callbacks ++ _ = _
    rw [accounts.told]
    simp

end Acting

theorem reply_accounts {request : Request} {rest : List Request} (accounts : Accounts client)
    (idle : client.running = []) (queue : client.requests = request :: rest) :
    Accounts { client with requests := rest, running := completion request } := by
  have same := work_replied idle queue
  constructor
  case ending => exact same ▸ accounts.ending
  case told => exact same ▸ accounts.told
  case made => exact accounts.made
  case unborn => exact accounts.unborn
  case collected => exact accounts.collected
  case distinct => exact accounts.distinct
  case pushing => exact accounts.pushing
  case single => exact accounts.single
  case silent => exact accounts.silent

theorem complete_accounts (open_ : Open client) (accounts : Accounts client)
    (remains : client.running = action :: later)
    (acted : act { client with running := later } action = some next) : Accounts next := by
  have split := work_completing remains
  have safe := open_.safe
  rw [split] at safe
  have kind : completing action := by
    apply open_.plain
    rw [split]
    exact List.mem_cons_self
  obtain ⟨handles, silent, rfl⟩ := act_completing acted kind safe.1
  have before : ∀ object, object ≠ .platform → object ∈ after effects client.heap action →
      object ∈ client.heap := by
    intro object other alive
    exact (mem_after.mp alive).1.resolve_right fun created => other (completing_creates kind created)
  constructor
  case made =>
    intro surface low kept
    refine (accounts.made surface low kept).imp_left fun alive => ?_
    refine mem_after.mpr ⟨.inl alive, Bool.eq_false_iff.mpr fun deleted => kept ?_⟩
    apply given_up_surface.mp
    apply open_.doomed
    rw [split]
    exact dooms_cons.mpr (.inl deleted)
  case unborn => exact accounts.unborn
  case ending =>
    intro surface gone alive
    refine (accounts.ending surface gone (before _ (by simp) alive)).imp_left fun dooms => ?_
    rw [split] at dooms
    refine (dooms_cons.mp dooms).resolve_left fun deleted => ?_
    have kept : deletes action (.surface surface) = false := (mem_after.mp alive).2
    rw [show deletes action (.surface surface) = true from deleted] at kept
    cases kept
  case collected => exact fun handle alive => accounts.collected handle (before _ (by simp) alive)
  case distinct => exact accounts.distinct
  case pushing => exact accounts.pushing
  case single => exact accounts.single
  case silent => exact silent.trans accounts.silent
  case told =>
    have told := accounts.told
    rw [split, List.flatMap_cons, ← List.append_assoc] at told
    exact told

theorem program_creates {call : Call} {surface : Nat}
    (member : .new (.surface surface) ∈ program client call) :
    call = .createSurface ∧ surface = client.nextSurface := by
  cases call <;> simp [program, callMethod, releaseConnection] at member
  exact ⟨rfl, member⟩

theorem program_pushes {call : Call} {handle : Nat}
    (member : .pushBack handle ∈ program client call) : handle = client.nextHandle := by
  cases call <;> simp [program, callMethod, releaseConnection] at member
  exact member

theorem program_pushes_new {call : Call} {handle : Nat}
    (member : .pushBack handle ∈ program client call) :
    ¬Numbered client (.releaseHandle handle) := by
  intro low
  cases program_pushes member
  exact Nat.lt_irrefl _ low

section Beginning

variable [DecidableEq Thread] {call : Call}

theorem begin_busy (idle : client.threads thread = []) {other : Thread} {done : Action}
    (member : done ∈ client.threads other) : done ∈ (begin client thread call).threads other := by
  rw [begin_threads, if_neg]
  · exact member
  · rintro rfl
    rw [idle] at member
    cases member

theorem begin_made (accounts : Accounts client) (idle : client.threads thread = [])
    {surface : Nat} (low : surface < (begin client thread call).nextSurface)
    (kept : surface ∉ client.released) :
    .surface surface ∈ client.heap ∨
      ∃ other, .new (.surface surface) ∈ (begin client thread call).threads other := by
  by_cases earlier : surface < client.nextSurface
  · refine (accounts.made surface earlier kept).imp_right ?_
    rintro ⟨other, member⟩
    exact ⟨other, begin_busy idle member⟩
  · cases call with
    | createSurface =>
        have last : surface = client.nextSurface :=
          Nat.le_antisymm (Nat.le_of_lt_succ low) (Nat.le_of_not_lt earlier)
        subst last
        refine .inr ⟨thread, ?_⟩
        rw [begin_threads, if_pos rfl]
        simp [program]
    | _ => exact absurd low earlier

theorem begin_unborn [Fintype Thread] (open_ : Open client) (accounts : Accounts client)
    (permitted : rules client call = true) {other : Thread} {surface : Nat}
    (member : .new (.surface surface) ∈ (begin client thread call).threads other) :
    surface ∉ (begin client thread call).released := by
  intro gone
  rw [begin_threads] at member
  split_ifs at member
  · obtain ⟨rfl, rfl⟩ := program_creates member
    exact Nat.lt_irrefl _ (open_.old _ gone)
  · have kept := accounts.unborn other surface member
    cases call with
    | releaseSurface key =>
        rcases List.mem_append.mp gone with before | now
        · exact kept before
        · cases List.mem_singleton.mp now
          apply (of_decide_eq_true permitted).2.2 other
          exact touches_surfaces ⟨_, member, List.mem_singleton_self _⟩
    | _ => exact kept gone

/-- The call of `release_surface` asks for the end of its surface. -/
theorem begin_ending (accounts : Accounts client) (idle : client.threads thread = [])
    {surface : Nat} (gone : surface ∈ (begin client thread call).released)
    (alive : .surface surface ∈ client.heap) :
    Dooms effects (work client) (.surface surface) ∨
      ∃ other, Fates ((begin client thread call).threads other) (.surface surface) := by
  by_cases before : surface ∈ client.released
  · refine (accounts.ending surface before alive).imp_right ?_
    rintro ⟨other, done, member, sent⟩
    exact ⟨other, done, begin_busy idle member, sent⟩
  · refine .inr ⟨thread, ?_⟩
    rw [begin_threads, if_pos rfl]
    cases call with
    | releaseSurface key =>
        cases List.mem_singleton.mp ((List.mem_append.mp gone).resolve_left before)
        refine ⟨.sendMessage (.releaseSurface surface client.nextHandle), ?_, _,
          List.mem_singleton_self _, .delete (.surface surface), ?_, ?_⟩
        · simp [program, callMethod]
        · simp [completion]
        · simp [effects, deletes]
    | _ => exact absurd gone before

theorem call_accounts [Fintype Thread] (open_ : Open client) (accounts : Accounts client)
    (permitted : rules client call = true) (idle : client.threads thread = []) :
    Accounts (begin client thread call) := by
  have released : ∀ surface ∈ client.released,
      surface ∈ (begin client thread call).released := by
    intro surface gone
    cases call with
    | releaseSurface key => exact List.mem_append_left _ gone
    | _ => exact gone
  have pushed : ∀ {other handle}, .pushBack handle ∈ client.threads other →
      Numbered client (.releaseHandle handle) := by
    intro other handle member
    exact open_.named other _ ⟨_, member, List.mem_cons_of_mem _ (List.mem_singleton_self _)⟩
  constructor
  case made =>
    intro surface low kept
    exact begin_made accounts idle low fun gone => kept (released surface gone)
  case unborn => exact fun other surface member => begin_unborn open_ accounts permitted member
  case ending => exact fun surface gone alive => begin_ending accounts idle gone alive
  case collected =>
    intro handle alive
    refine (accounts.collected handle alive).imp_right ?_
    rintro ⟨other, member⟩
    exact ⟨other, begin_busy idle member⟩
  case distinct => exact accounts.distinct
  case pushing =>
    intro other handle member inside
    rw [begin_threads] at member
    split_ifs at member
    · exact program_pushes_new member (open_.numbered _ (open_.handed handle inside))
    · exact accounts.pushing other handle member inside
  case single =>
    intro one two handle
    rw [begin_threads, begin_threads]
    split_ifs with first second second
    · exact fun _ _ => first.trans second.symm
    · exact fun mine other => absurd (pushed other) (program_pushes_new mine)
    · exact fun other mine => absurd (pushed other) (program_pushes_new mine)
    · exact accounts.single one two handle
  case silent => exact accounts.silent
  case told => exact accounts.told

end Beginning

theorem connecting_accounts [DecidableEq Thread] (thread : Thread) :
    Accounts (connecting thread) := by
  have threads : ∀ other, (connecting thread).threads other =
      if other = thread then callMethod .connect else [] :=
    fun other => Function.update_apply (fun _ => []) thread (callMethod .connect) other
  have plain : ∀ other action, action ∈ (connecting thread).threads other →
      action ∈ callMethod .connect := by
    intro other action member
    rw [threads] at member
    split_ifs at member
    · exact member
    · cases member
  constructor
  case made | ending | distinct | silent | told => simp [connecting, work]
  case collected => simp [connecting]
  case unborn => simp [connecting]
  case pushing => simp [connecting]
  case single =>
    intro one two handle first
    have member := plain one _ first
    simp [callMethod] at member

end Accounts

end Mir.ClientObjectEnds
