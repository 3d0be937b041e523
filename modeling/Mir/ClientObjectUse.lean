import Mir.ClientObjects

/-!
# The objects of the client library outlive their use

While the application has not given up the connection, whatever is left to do on any thread
finds the objects that it uses. The thread of the I/O service deletes a surface only at the end
of its release, which is behind all earlier requests for it.
-/

namespace Mir.ClientObjectUse

open Mir.ObjectLifetimes Mir.TransitionRuns Mir.ClientObjects

set_option autoImplicit false

variable {Thread : Type}

section Open

def Numbered (client : Client Thread) : Object → Prop
  | .surface key => key < client.nextSurface
  | .releaseHandle key => key < client.nextHandle
  | _ => True

def GivenUp (client : Client Thread) (object : Object) : Prop :=
  ∃ surface ∈ client.released, object = .surface surface

/-- What holds while the application has not given up the connection. -/
structure Open (client : Client Thread) : Prop where
  sound : client.broken = false
  going : client.closing = false
  working : client.stopped = false
  connection : .connection ∈ client.heap
  channel : .channel ∈ client.heap
  platform : .connect ∈ client.calledBack → .platform ∈ client.heap
  safe : Safe effects client.heap (work client)
  plain : ∀ action ∈ work client, completing action
  doomed : ∀ object, Dooms effects (work client) object → GivenUp client object
  fine : ∀ thread, Fine client.heap (client.threads thread)
  fated : ∀ thread object, Fates (client.threads thread) object → GivenUp client object
  kept : ∀ thread object, Touches (client.threads thread) object →
    ¬Dooms effects (work client) object
  apart : ∀ thread other object, thread ≠ other → Touches (client.threads thread) object →
    ¬Fates (client.threads other) object
  known : ∀ surface, .createSurface surface ∈ client.calledBack →
    surface < client.nextSurface ∧
      (.surface surface ∈ client.heap ∨ surface ∈ client.released)
  handed : ∀ handle ∈ client.releaseWaitHandles, .releaseHandle handle ∈ client.heap
  numbered : ∀ object ∈ client.heap, Numbered client object
  named : ∀ thread object, Touches (client.threads thread) object → Numbered client object
  old : ∀ surface ∈ client.released, surface < client.nextSurface

variable {client next : Client Thread} {thread : Thread} {action : Action} {later : List Action}

theorem given_up_surface {surface : Nat} :
    GivenUp client (.surface surface) ↔ surface ∈ client.released := by
  simp [GivenUp]

theorem not_given_up {object : Object} (other : ∀ surface, object ≠ .surface surface) :
    ¬GivenUp client object := by
  rintro ⟨surface, -, rfl⟩
  exact other surface rfl

section Acting

theorem callable_keeps (kind : callable action) {object : Object} (alive : object ∈ client.heap) :
    object ∈ after effects client.heap action :=
  mem_after.mpr ⟨.inl alive, callable_deletes kind⟩

theorem touches_remaining [DecidableEq Thread] (remains : client.threads thread = action :: later)
    {other : Thread} {object : Object}
    (touch : Touches (Function.update client.threads thread later other) object) :
    Touches (client.threads other) object := by
  by_cases same : other = thread
  · subst same
    rw [Function.update_self] at touch
    rw [remains]
    exact touches_cons.mpr (.inr touch)
  · rwa [Function.update_of_ne same] at touch

theorem fates_remaining [DecidableEq Thread] (remains : client.threads thread = action :: later)
    {other : Thread} {object : Object}
    (fate : Fates (Function.update client.threads thread later other) object) :
    Fates (client.threads other) object := by
  by_cases same : other = thread
  · subst same
    rw [Function.update_self] at fate
    rw [remains]
    exact fates_cons.mpr (.inr fate)
  · rwa [Function.update_of_ne same] at fate

theorem sent_fates (remains : client.threads thread = action :: later) {object : Object}
    (dooms : Dooms effects ((sends action).flatMap completion) object) :
    Fates (client.threads thread) object := by
  rw [remains]
  exact fates_cons.mpr (.inl (dooms_flat_map.mp dooms))

/-- The completion of a request that is sent comes after those of the earlier ones. -/
theorem sent_safe (open_ : Open client) (remains : client.threads thread = action :: later)
    (kind : callable action)
    (posts : ∀ request ∈ sends action, Safe effects client.heap (completion request)) :
    Safe effects (after effects client.heap action)
      (work client ++ (sends action).flatMap completion) := by
  refine safe_after (safe_transfer open_.safe fun object _ => callable_keeps kind) ?_ ?_
  · exact safe_transfer (sends_safe posts) fun object _ => callable_keeps kind
  · intro object used
    obtain ⟨request, sent, needed⟩ := uses_flat_map.mp used
    apply open_.kept thread object
    rw [remains]
    exact touches_cons.mpr (.inl (sends_touches sent needed))

theorem sent_kept [DecidableEq Thread] (open_ : Open client)
    (remains : client.threads thread = action :: later)
    (posts : ∀ request ∈ sends action, ∀ object, Dooms effects (completion request) object →
      ¬Touches later object)
    {other : Thread} {object : Object}
    (touch : Touches (Function.update client.threads thread later other) object) :
    ¬Dooms effects (work client ++ (sends action).flatMap completion) object := by
  intro dooms
  have touched := touches_remaining remains touch
  rcases dooms_append.mp dooms with before | sent
  · exact open_.kept other object touched before
  · by_cases same : other = thread
    · subst same
      rw [Function.update_self] at touch
      obtain ⟨request, made, ends⟩ := dooms_flat_map.mp sent
      exact posts request made object ends touch
    · exact open_.apart other thread object same touched (sent_fates remains sent)

theorem act_open [DecidableEq Thread] (open_ : Open client)
    (remains : client.threads thread = action :: later)
    (acted : act { client with threads := Function.update client.threads thread later } action =
      some next) : Open next := by
  have fine := open_.fine thread
  rw [remains] at fine
  obtain ⟨kind, ready, posts, -, -, rest⟩ := fine
  obtain ⟨handles, -, rfl⟩ := act_callable acted kind ready open_.connection
  constructor
  case sound => exact open_.sound
  case going => exact open_.going
  case working => exact open_.working
  case connection => exact callable_keeps kind open_.connection
  case channel => exact callable_keeps kind open_.channel
  case platform => exact fun told => callable_keeps kind (open_.platform told)
  case safe =>
    have safe := sent_safe open_ remains kind fun request sent => (posts request sent).1
    rw [work_sent]
    exact safe
  case plain =>
    rw [work_sent]
    intro other member
    rcases List.mem_append.mp member with before | sent
    · exact open_.plain other before
    · obtain ⟨request, made, part⟩ := List.mem_flatMap.mp sent
      exact completion_completing (callable_sends kind made) other part
  case doomed =>
    rw [work_sent]
    intro object dooms
    rcases dooms_append.mp dooms with before | sent
    · exact open_.doomed object before
    · exact open_.fated thread object (sent_fates remains sent)
  case fine =>
    intro other
    show Fine (after effects client.heap action) (Function.update client.threads thread later other)
    by_cases same : other = thread
    · subst same
      rw [Function.update_self]
      exact rest
    · rw [Function.update_of_ne same]
      exact fine_transfer (open_.fine other) fun object _ => callable_keeps kind
  case fated =>
    exact fun other object fate => open_.fated other object (fates_remaining remains fate)
  case kept =>
    rw [work_sent]
    intro other object touch
    exact sent_kept open_ remains (fun request sent => (posts request sent).2) touch
  case apart =>
    intro one other object different touch fate
    exact open_.apart one other object different (touches_remaining remains touch)
      (fates_remaining remains fate)
  case known =>
    intro surface told
    obtain ⟨low, present⟩ := open_.known surface told
    exact ⟨low, present.imp_left (callable_keeps kind)⟩
  case handed =>
    intro handle member
    rcases List.mem_append.mp member with before | pushed
    · exact callable_keeps kind (open_.handed handle before)
    · exact callable_keeps kind (ready _ (pushes_uses pushed))
  case numbered =>
    intro object alive
    rcases (mem_after.mp alive).1 with before | created
    · exact open_.numbered object before
    · apply open_.named thread object
      rw [remains]
      exact touches_cons.mpr (.inl (creates_touches created))
  case named =>
    exact fun other object touch => open_.named other object (touches_remaining remains touch)
  case old => exact open_.old

end Acting

theorem reply_open {request : Request} {rest : List Request} (open_ : Open client)
    (idle : client.running = []) (queue : client.requests = request :: rest) :
    Open { client with requests := rest, running := completion request } := by
  have same := work_replied idle queue
  constructor
  case safe => exact same ▸ open_.safe
  case plain => exact same ▸ open_.plain
  case doomed => exact same ▸ open_.doomed
  case kept => exact same ▸ open_.kept
  case sound => exact open_.sound
  case going => exact open_.going
  case working => exact open_.working
  case connection => exact open_.connection
  case channel => exact open_.channel
  case platform => exact open_.platform
  case fine => exact open_.fine
  case fated => exact open_.fated
  case apart => exact open_.apart
  case known => exact open_.known
  case handed => exact open_.handed
  case numbered => exact open_.numbered
  case named => exact open_.named
  case old => exact open_.old

section Completing

variable {rest : List Action} {object : Object}

/-- Completions delete only what the application has given up. -/
theorem completing_stays (open_ : Open client) (split : work client = action :: rest)
    (alive : object ∈ client.heap) (held : ¬GivenUp client object) :
    object ∈ after effects client.heap action := by
  refine mem_after.mpr ⟨.inl alive, Bool.eq_false_iff.mpr fun deleted => held ?_⟩
  apply open_.doomed
  rw [split]
  exact dooms_cons.mpr (.inl deleted)

theorem completing_fine (open_ : Open client) (split : work client = action :: rest) :
    Fine (after effects client.heap action) (client.threads thread) := by
  refine fine_transfer (open_.fine thread) ?_
  intro object touch alive
  refine mem_after.mpr ⟨.inl alive, Bool.eq_false_iff.mpr fun deleted => ?_⟩
  apply open_.kept thread object touch
  rw [split]
  exact dooms_cons.mpr (.inl deleted)

/-- The callback of `connect` gets the platform with the connection. -/
theorem completing_platform (open_ : Open client) (split : work client = action :: rest)
    (ready : ∀ object ∈ uses action, object ∈ client.heap)
    (told : .connect ∈ client.calledBack ++ callbacks action) :
    .platform ∈ after effects client.heap action := by
  refine completing_stays open_ split ?_ (not_given_up (by simp))
  rcases List.mem_append.mp told with before | now
  · exact open_.platform before
  · cases action with
    | callback request =>
        cases List.mem_singleton.mp now
        exact ready _ (List.mem_cons_of_mem _ (List.mem_singleton_self _))
    | _ => cases now

theorem completing_known (open_ : Open client) (split : work client = action :: rest)
    (ready : ∀ object ∈ uses action, object ∈ client.heap) (surface : Nat)
    (told : .createSurface surface ∈ client.calledBack ++ callbacks action) :
    surface < client.nextSurface ∧
      (.surface surface ∈ after effects client.heap action ∨ surface ∈ client.released) := by
  have present : surface < client.nextSurface ∧
      (.surface surface ∈ client.heap ∨ surface ∈ client.released) := by
    rcases List.mem_append.mp told with before | now
    · exact open_.known surface before
    · cases action with
      | callback request =>
          cases List.mem_singleton.mp now
          have alive := ready _ (List.mem_singleton_self _)
          exact ⟨open_.numbered _ alive, .inl alive⟩
      | _ => cases now
  by_cases gone : surface ∈ client.released
  · exact ⟨present.1, .inr gone⟩
  · have alive := present.2.resolve_right gone
    exact ⟨present.1,
      .inl (completing_stays open_ split alive fun given => gone (given_up_surface.mp given))⟩

theorem complete_open (open_ : Open client) (remains : client.running = action :: later)
    (acted : act { client with running := later } action = some next) : Open next := by
  have split := work_completing remains
  have safe := open_.safe
  rw [split] at safe
  have kind : completing action := by
    apply open_.plain
    rw [split]
    exact List.mem_cons_self
  obtain ⟨handles, -, rfl⟩ := act_completing acted kind safe.1
  have dooms : ∀ object, Dooms effects (work { client with running := later }) object →
      Dooms effects (work client) object := by
    intro object doomed
    rw [split]
    exact dooms_cons.mpr (.inr doomed)
  have stays : ∀ object ∈ client.heap, (∀ surface, object ≠ .surface surface) →
      object ∈ after effects client.heap action :=
    fun object alive other => completing_stays open_ split alive (not_given_up other)
  have platform := completing_platform open_ split safe.1
  have fine (thread : Thread) : Fine (after effects client.heap action) (client.threads thread) :=
    completing_fine open_ split
  have known := completing_known open_ split safe.1
  constructor
  case sound => exact open_.sound
  case going => exact open_.going
  case working => exact open_.working
  case connection => exact stays _ open_.connection (by simp)
  case channel => exact stays _ open_.channel (by simp)
  case platform => exact platform
  case safe => exact safe.2
  case plain =>
    intro other member
    apply open_.plain
    rw [split]
    exact List.mem_cons_of_mem _ member
  case doomed => exact fun object doomed => open_.doomed object (dooms object doomed)
  case fine => exact fine
  case fated => exact open_.fated
  case kept =>
    intro thread object touch doomed
    exact open_.kept thread object touch (dooms object doomed)
  case apart => exact open_.apart
  case known => exact known
  case handed =>
    intro handle member
    exact stays _ (open_.handed handle member) (by simp)
  case numbered =>
    intro object alive
    rcases (mem_after.mp alive).1 with before | made
    · exact open_.numbered object before
    · cases completing_creates kind made
      trivial
  case named => exact open_.named
  case old => exact open_.old

end Completing

theorem begin_threads [DecidableEq Thread] (client : Client Thread) (thread : Thread)
    (call : Call) (other : Thread) :
    (begin client thread call).threads other =
      if other = thread then program client call else client.threads other :=
  Function.update_apply ..

theorem begin_open [DecidableEq Thread] {call : Call} (open_ : Open client)
    (other : call ≠ .releaseConnection)
    (fine : Fine client.heap (program client call))
    (held : ∀ object, Touches (program client call) object → ¬GivenUp client object)
    (named : ∀ object, Touches (program client call) object →
      Numbered (begin client thread call) object)
    (fated : ∀ object, Fates (program client call) object →
      GivenUp (begin client thread call) object ∧
        ∀ other, ¬Touches (client.threads other) object)
    (released : ∀ surface ∈ (begin client thread call).released,
      surface < (begin client thread call).nextSurface) :
    Open (begin client thread call) := by
  have more : ∀ object, GivenUp client object → GivenUp (begin client thread call) object := by
    rintro object ⟨surface, member, rfl⟩
    refine ⟨surface, ?_, rfl⟩
    cases call with
    | releaseSurface key => exact List.mem_append_left _ member
    | _ => exact member
  have higher : ∀ object, Numbered client object → Numbered (begin client thread call) object := by
    intro object low
    cases object with
    | surface key => exact Nat.lt_add_right _ low
    | releaseHandle key =>
        cases call with
        | releaseSurface surface => exact Nat.lt_succ_of_lt low
        | _ => exact low
    | _ => trivial
  constructor
  case sound => exact open_.sound
  case going => simp [begin, open_.going, other]
  case working => exact open_.working
  case connection => exact open_.connection
  case channel => exact open_.channel
  case platform => exact open_.platform
  case safe => exact open_.safe
  case plain => exact open_.plain
  case doomed => exact fun object dooms => more object (open_.doomed object dooms)
  case fine =>
    intro other
    rw [begin_threads]
    split_ifs
    · exact fine
    · exact open_.fine other
  case fated =>
    intro other object
    rw [begin_threads]
    split_ifs
    · exact fun fate => (fated object fate).1
    · exact fun fate => more object (open_.fated other object fate)
  case kept =>
    intro other object
    rw [begin_threads]
    split_ifs
    · exact fun touch dooms => held object touch (open_.doomed object dooms)
    · exact open_.kept other object
  case apart =>
    intro one two object different
    rw [begin_threads, begin_threads]
    split_ifs with first second second
    · exact absurd (first.trans second.symm) different
    · exact fun touch fate => held object touch (open_.fated two object fate)
    · exact fun touch fate => (fated object fate).2 one touch
    · exact open_.apart one two object different
  case known =>
    intro surface told
    obtain ⟨low, present⟩ := open_.known surface told
    refine ⟨higher (.surface surface) low, present.imp_right fun gone => ?_⟩
    obtain ⟨same, member, equal⟩ := more (.surface surface) ⟨surface, gone, rfl⟩
    cases equal
    exact member
  case handed => exact open_.handed
  case numbered => exact fun object alive => higher object (open_.numbered object alive)
  case named =>
    intro other object
    rw [begin_threads]
    split_ifs
    · exact named object
    · exact fun touch => higher object (open_.named other object touch)
  case old => exact released

theorem holds_alive {surface : Nat} (open_ : Open client) (held : holds client surface = true) :
    .surface surface ∈ client.heap ∧ surface ∉ client.released ∧ surface < client.nextSurface := by
  obtain ⟨told, kept⟩ := of_decide_eq_true held
  obtain ⟨low, present⟩ := open_.known surface told
  exact ⟨present.resolve_right kept, kept, low⟩

theorem may_wait_owner {handle : Handle} (open_ : Open client)
    (may : mayWait client handle = true) :
    handle ≠ .disconnect ∧ handle.owner ∈ client.heap ∧ ¬GivenUp client handle.owner := by
  cases handle with
  | disconnect => cases may
  | connect | drmAuthMagic => exact ⟨by simp, open_.connection, not_given_up (by simp [Handle.owner])⟩
  | create surface =>
      obtain ⟨alive, kept⟩ := of_decide_eq_true may
      exact ⟨by simp, alive, fun gone => kept (given_up_surface.mp gone)⟩
  | nextBuffer surface | configure surface =>
      obtain ⟨alive, kept, -⟩ := holds_alive open_ may
      exact ⟨by simp, alive, fun gone => kept (given_up_surface.mp gone)⟩
  | release key =>
      exact ⟨by simp, open_.handed key (of_decide_eq_true may), not_given_up (by simp [Handle.owner])⟩

theorem permitted_held [Fintype Thread] {call : Call} {object : Object} (open_ : Open client)
    (permitted : rules client call = true) (member : object ∈ callObjects client call) :
    ¬GivenUp client object := by
  have held : ∀ surface, holds client surface = true → ¬GivenUp client (.surface surface) :=
    fun surface holds gone => (holds_alive open_ holds).2.1 (given_up_surface.mp gone)
  cases call with
  | isValid => cases member
  | waitFor handle =>
      cases List.mem_singleton.mp member
      exact (may_wait_owner open_ (of_decide_eq_true permitted).2).2.2
  | createSurface =>
      simp only [callObjects, List.mem_cons, List.not_mem_nil, or_false] at member
      rcases member with rfl | rfl | rfl | rfl
      · exact not_given_up (by simp)
      · exact not_given_up (by simp)
      · exact not_given_up (by simp)
      · exact fun gone => Nat.lt_irrefl _ (open_.old _ (given_up_surface.mp gone))
  | nextBuffer surface | configure surface matching =>
      simp only [callObjects, List.mem_cons, List.not_mem_nil, or_false] at member
      rcases member with rfl | rfl | rfl
      · exact not_given_up (by simp)
      · exact not_given_up (by simp)
      · exact held surface (of_decide_eq_true permitted).2
  | releaseSurface surface =>
      simp only [callObjects, List.mem_cons, List.not_mem_nil, or_false] at member
      rcases member with rfl | rfl | rfl | rfl
      · exact not_given_up (by simp)
      · exact not_given_up (by simp)
      · exact held surface (of_decide_eq_true permitted).2.1
      · exact not_given_up (by simp)
  | _ =>
      simp only [callObjects, List.mem_cons, List.not_mem_nil, or_false] at member
      rcases member with rfl | rfl | rfl <;> exact not_given_up (by simp)

theorem permitted_named [DecidableEq Thread] [Fintype Thread] {call : Call} {object : Object}
    (open_ : Open client)
    (permitted : rules client call = true) (member : object ∈ callObjects client call) :
    Numbered (begin client thread call) object := by
  cases call with
  | isValid => cases member
  | waitFor handle =>
      cases List.mem_singleton.mp member
      exact open_.numbered _ (may_wait_owner open_ (of_decide_eq_true permitted).2).2.1
  | createSurface =>
      simp only [callObjects, List.mem_cons, List.not_mem_nil, or_false] at member
      rcases member with rfl | rfl | rfl | rfl
      · trivial
      · trivial
      · trivial
      · exact Nat.lt_succ_self _
  | nextBuffer surface | configure surface matching =>
      simp only [callObjects, List.mem_cons, List.not_mem_nil, or_false] at member
      rcases member with rfl | rfl | rfl
      · trivial
      · trivial
      · exact (holds_alive open_ (of_decide_eq_true permitted).2).2.2
  | releaseSurface surface =>
      simp only [callObjects, List.mem_cons, List.not_mem_nil, or_false] at member
      rcases member with rfl | rfl | rfl | rfl
      · trivial
      · trivial
      · exact (holds_alive open_ (of_decide_eq_true permitted).2.1).2.2
      · exact Nat.lt_succ_self _
  | _ =>
      simp only [callObjects, List.mem_cons, List.not_mem_nil, or_false] at member
      rcases member with rfl | rfl | rfl <;> trivial

theorem permitted_fine [Fintype Thread] {call : Call} (open_ : Open client)
    (permitted : rules client call = true) (other : call ≠ .releaseConnection) :
    Fine client.heap (program client call) := by
  have connection := open_.connection
  have channel := open_.channel
  have nothing : ∀ object, ¬Touches [] object := by
    rintro object ⟨action, member, -⟩
    cases member
  cases call with
  | releaseConnection => exact absurd rfl other
  | isValid => exact fine_cons rfl (List.forall_mem_nil _) rfl rfl (fun _ => List.not_mem_nil) trivial
  | drmAuthMagic | selectFocusByLightdmId =>
      exact call_method_fine connection channel (by simp) (List.forall_mem_nil _)
        (fun object _ => nothing object) trivial
  | createSurface =>
      have told := (of_decide_eq_true permitted).2
      refine fine_use connection (fine_use (open_.platform told)
        (fine_cons rfl (List.forall_mem_nil _) rfl rfl (by simp [creates]) ?_))
      rw [after_new]
      have made := Finset.mem_insert_self (Object.surface client.nextSurface) client.heap
      refine call_method_fine (Finset.mem_insert_of_mem connection)
        (Finset.mem_insert_of_mem channel) (by simp) ?_ ?_ (fine_use made trivial)
      · intro object needed
        simp only [needs, List.mem_cons, List.not_mem_nil, or_false] at needed
        rcases needed with rfl | rfl
        · exact Finset.mem_insert_of_mem (open_.platform told)
        · exact made
      · intro object dooms
        obtain ⟨surface, handle, same, -⟩ := completion_dooms dooms (by simp)
        cases same
  | nextBuffer surface =>
      obtain ⟨alive, -⟩ := holds_alive open_ (of_decide_eq_true permitted).2
      refine fine_use alive (call_method_fine connection channel (by simp) ?_
        (fun object _ => nothing object) trivial)
      intro object needed
      cases List.mem_singleton.mp needed
      exact alive
  | configure surface matching =>
      obtain ⟨alive, -⟩ := holds_alive open_ (of_decide_eq_true permitted).2
      have owner : ∀ object ∈ [Object.surface surface], object ∈ client.heap := by
        intro object member
        cases List.mem_singleton.mp member
        exact alive
      refine fine_use alive (fine_cons rfl owner rfl rfl (fun _ => List.not_mem_nil) ?_)
      rw [after_unchanged rfl fun _ => rfl]
      exact call_method_fine connection channel (by simp) owner
        (fun object _ => nothing object) trivial
  | releaseSurface surface =>
      obtain ⟨alive, -⟩ := holds_alive open_ (of_decide_eq_true permitted).2.1
      refine fine_use alive ⟨rfl, List.forall_mem_nil _, List.forall_mem_nil _,
        List.forall_mem_nil _, ?_, ?_⟩
      · simp [creates, callMethod, pushes]
      rw [after_new]
      have made := Finset.mem_insert_self (Object.releaseHandle client.nextHandle) client.heap
      refine fine_use (Finset.mem_insert_of_mem alive) ?_
      refine call_method_fine (Finset.mem_insert_of_mem connection)
        (Finset.mem_insert_of_mem channel) (by simp) ?_ ?_
        ⟨rfl, ?_, List.forall_mem_nil _, fun _ _ => List.forall_mem_nil _,
          fun _ made => absurd made List.not_mem_nil, trivial⟩
      · intro object needed
        simp only [needs, List.mem_cons, List.not_mem_nil, or_false] at needed
        rcases needed with rfl | rfl
        · exact Finset.mem_insert_of_mem alive
        · exact made
      · rintro object dooms ⟨action, member, touched⟩
        obtain ⟨other, handle, -, rfl⟩ := completion_dooms dooms (by simp)
        cases List.mem_singleton.mp member
        simp [touches, uses] at touched
      · intro object needed
        simp only [uses, List.mem_cons, List.not_mem_nil, or_false] at needed
        rcases needed with rfl | rfl
        · exact Finset.mem_insert_of_mem connection
        · exact made
  | waitFor handle =>
      obtain ⟨different, alive, -⟩ := may_wait_owner open_ (of_decide_eq_true permitted).2
      refine fine_cons (decide_eq_true different) ?_ rfl rfl (fun _ => List.not_mem_nil) trivial
      intro object used
      cases List.mem_singleton.mp used
      exact alive

theorem call_open [DecidableEq Thread] [Fintype Thread] {call : Call} (open_ : Open client)
    (permitted : rules client call = true) (other : call ≠ .releaseConnection) :
    Open (begin client thread call) := by
  apply begin_open open_ other (permitted_fine open_ permitted other)
  · exact fun object touch => permitted_held open_ permitted (program_touches other touch)
  · exact fun object touch => permitted_named open_ permitted (program_touches other touch)
  · intro object fate
    obtain ⟨surface, rfl, rfl⟩ := program_fates other fate
    refine ⟨⟨surface, List.mem_append_right _ (List.mem_singleton_self _), rfl⟩, ?_⟩
    intro busy touch
    exact (of_decide_eq_true permitted).2.2 busy (touches_surfaces touch)
  · intro surface gone
    cases call with
    | releaseSurface key =>
        rcases List.mem_append.mp gone with before | now
        · exact open_.old surface before
        · cases List.mem_singleton.mp now
          exact (holds_alive open_ (of_decide_eq_true permitted).2.1).2.2
    | _ => exact Nat.lt_add_right _ (open_.old surface gone)

theorem connecting_open [DecidableEq Thread] (thread : Thread) : Open (connecting thread) := by
  have nothing : ∀ object, ¬Touches [] object := by
    rintro object ⟨action, member, -⟩
    cases member
  have threads : ∀ other, (connecting thread).threads other =
      if other = thread then callMethod .connect else [] :=
    fun other => Function.update_apply (fun _ => []) thread (callMethod .connect) other
  have touched : ∀ other object, Touches ((connecting thread).threads other) object →
      object ∈ [Object.connection, .channel, .platform] := by
    intro other object touch
    rw [threads] at touch
    split_ifs at touch
    · simp [Touches, callMethod, touches, completion, uses, Handle.owner,
        Request.handedOut] at touch
      simp
      grind
    · exact absurd touch (nothing object)
  have fated : ∀ other object, ¬Fates ((connecting thread).threads other) object := by
    intro other object
    rw [threads]
    split_ifs <;> simp [Fates, callMethod, sends, completion, Dooms, effects, deletes]
  constructor
  case sound | going | working => rfl
  case connection | channel => simp [connecting]
  case platform | plain | known | handed | old => simp [connecting, work]
  case safe => trivial
  case doomed => simp [connecting, work, Dooms]
  case kept => simp [connecting, work, Dooms]
  case fine =>
    intro other
    rw [threads]
    split_ifs
    · exact call_method_fine (by simp [connecting]) (by simp [connecting]) (by simp)
        (List.forall_mem_nil _)
        (fun object _ => nothing object) trivial
    · trivial
  case fated => exact fun other object fate => absurd fate (fated other object)
  case apart => exact fun _ other object _ _ => fated other object
  case numbered =>
    intro object alive
    simp only [connecting, Finset.mem_insert, Finset.mem_singleton] at alive
    rcases alive with rfl | rfl <;> trivial
  case named =>
    intro other object touch
    have member := touched other object touch
    simp only [List.mem_cons, List.not_mem_nil, or_false] at member
    rcases member with rfl | rfl | rfl <;> trivial

end Open

end Mir.ClientObjectUse
