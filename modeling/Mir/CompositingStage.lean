import Mir.SwapperOwnership

/-!
# Compositing passes over the whole surface stack

`SurfaceStack::for_each_if` keeps `guard` locked while a pass goes over the surfaces
from the newest to the oldest one, so surfaces come and go only between the walks of
two passes. The swappers have locks of their own and `set_hidden` takes none: clients
exchange buffers and surfaces are hidden while a pass is under way. The regions a pass
has taken are given back one after the other when its `RenderingOperator` goes out of
scope, after `post_update`; a surface may be gone by then.
-/

namespace Mir.CompositingStage

open Mir.SwapperModel Mir.SwapperOwnership

set_option autoImplicit false

abbrev SurfaceKey := Nat

variable {displays : Nat} {Buffer : Type} {id : Buffer → BufferID}

/-- The buffers that `SwapperFactory` hands to a new swapper, whose constructor accepts them. -/
structure Allocation (id : Buffer → BufferID) where
  bufferList : List Buffer
  initialized : initializeQueues id bufferList = .ok (constructed id bufferList).swapper
  distinct : (bufferList.map id).Nodup

theorem Allocation.several (allocation : Allocation id) : 2 ≤ allocation.bufferList.length := by
  obtain ⟨validated, -⟩ := (initialize_queues_ok id _ _).mp allocation.initialized
  omega

structure Surface (id : Buffer → BufferID) where
  allocation : Allocation id
  ownership : Ownership Buffer
  hidden : Bool

structure Region where
  surface : SurfaceKey
  buffer : BufferID
  deriving DecidableEq

/-- Where `DefaultCompositingStrategy::render` of one thread is. -/
inductive Pass where
  | idle
  | visiting (ahead : List SurfaceKey) (resources : List Region)
  | posting (resources : List Region)
  | releasing (resources : List Region)
  deriving DecidableEq

def Pass.resources : Pass → List Region
  | .idle => []
  | .visiting _ resources => resources
  | .posting resources => resources
  | .releasing resources => resources

structure Stage (displays : Nat) (id : Buffer → BufferID) where
  surfaces : List SurfaceKey
  surface : SurfaceKey → Option (Surface id)
  nextSurface : SurfaceKey
  guard : Option (Fin displays)
  passes : Fin displays → Pass

inductive Event (displays : Nat) (id : Buffer → BufferID) where
  | createSurface (allocation : Allocation id)
  | destroySurface (key : SurfaceKey)
  | setHidden (key : SurfaceKey) (hide : Bool)
  | clientAcquire (key : SurfaceKey) (dequeuedBuffer : BufferID)
  | clientRelease (key : SurfaceKey) (queuedBuffer : BufferID)
  | forEachIf (thread : Fin displays)
  | skip (thread : Fin displays) (key : SurfaceKey)
  | render (thread : Fin displays) (key : SurfaceKey) (acquiredBuffer : BufferID)
  | visited (thread : Fin displays)
  | posted (thread : Fin displays)
  | release (thread : Fin displays) (key : SurfaceKey)
  | finished (thread : Fin displays)

/-- The thread that an event is a step of; clients and sessions have none here. -/
def Event.thread : Event displays id → Option (Fin displays)
  | .createSurface _ | .destroySurface _ | .setHidden _ _ => none
  | .clientAcquire _ _ | .clientRelease _ _ => none
  | .forEachIf thread | .skip thread _ | .render thread _ _ | .visited thread => some thread
  | .posted thread | .release thread _ | .finished thread => some thread

def started : Stage displays id where
  surfaces := []
  surface := fun _ => none
  nextSurface := 0
  guard := none
  passes := fun _ => .idle

section Steps

variable (state : Stage displays id)

def putSurface (key : SurfaceKey) (surface : Surface id) : Stage displays id :=
  { state with surface := Function.update state.surface key (some surface) }

def putPass (thread : Fin displays) (pass : Pass) : Stage displays id :=
  { state with passes := Function.update state.passes thread pass }

def onSwapper (key : SurfaceKey) (call : Call) : Option (Stage displays id) :=
  (state.surface key).bind fun surface =>
    (SwapperOwnership.step surface.ownership call).map fun ownership =>
      putSurface state key { surface with ownership := ownership }

/-- `~Surface` shuts the swapper down before it is destroyed with the bundle. -/
def destroySurface (key : SurfaceKey) : Option (Stage displays id) :=
  if key ∈ state.surfaces then
    (state.surface key).bind fun surface =>
      (shutdown surface.ownership.swapper).map fun _ =>
        { state with
          surfaces := state.surfaces.erase key
          surface := Function.update state.surface key none }
  else some state

def createSurface (allocation : Allocation id) : Stage displays id :=
  { state with
    surfaces := state.surfaces ++ [state.nextSurface]
    surface := Function.update state.surface state.nextSurface
      (some ⟨allocation, constructed id allocation.bufferList, false⟩)
    nextSurface := state.nextSurface + 1 }

/-- The weak pointer of a region whose swapper is gone does not lock. -/
def releaseRegion (region : Region) : Option (Stage displays id) :=
  match state.surface region.surface with
  | none => some state
  | some _ => onSwapper state region.surface (.compositorRelease region.buffer)

def step : Event displays id → Option (Stage displays id)
  | .createSurface allocation =>
      if state.guard = none then some (createSurface state allocation) else none
  | .destroySurface key => if state.guard = none then destroySurface state key else none
  | .setHidden key hide => (state.surface key).map fun surface =>
      putSurface state key { surface with hidden := hide }
  | .clientAcquire key buffer => (state.surface key).bind fun surface =>
      if surface.ownership.clientHeld = [] then onSwapper state key (.clientAcquire buffer)
      else none
  | .clientRelease key buffer => onSwapper state key (.clientRelease buffer)
  | .forEachIf thread => match state.passes thread with
      | .idle =>
          if state.guard = none then
            some { putPass state thread (.visiting state.surfaces.reverse []) with
              guard := some thread }
          else none
      | _ => none
  | .skip thread key => match state.passes thread with
      | .visiting (front :: ahead) resources => (state.surface key).bind fun surface =>
          if front = key ∧ surface.hidden = true then
            some (putPass state thread (.visiting ahead resources))
          else none
      | _ => none
  | .render thread key buffer => match state.passes thread with
      | .visiting (front :: ahead) resources => (state.surface key).bind fun surface =>
          if front = key ∧ surface.hidden = false then
            (onSwapper state key (.compositorAcquire buffer)).map fun next =>
              putPass next thread (.visiting ahead (resources ++ [⟨key, buffer⟩]))
          else none
      | _ => none
  | .visited thread => match state.passes thread with
      | .visiting [] resources =>
          some { putPass state thread (.posting resources) with guard := none }
      | _ => none
  | .posted thread => match state.passes thread with
      | .posting resources => some (putPass state thread (.releasing resources))
      | _ => none
  | .release thread key => match state.passes thread with
      | .releasing (region :: rest) =>
          if region.surface = key then
            (releaseRegion state region).map fun next => putPass next thread (.releasing rest)
          else none
      | _ => none
  | .finished thread => match state.passes thread with
      | .releasing [] => some (putPass state thread .idle)
      | _ => none

end Steps

inductive Steps (state : Stage displays id) : Event displays id → Stage displays id → Prop
  | createSurface {allocation} (free : state.guard = none) :
      Steps state (.createSurface allocation) (createSurface state allocation)
  | destroySurface {key surface swapper} (free : state.guard = none)
      (listed : key ∈ state.surfaces) (found : state.surface key = some surface)
      (shut : shutdown surface.ownership.swapper = some swapper) :
      Steps state (.destroySurface key)
        { state with
          surfaces := state.surfaces.erase key
          surface := Function.update state.surface key none }
  | unlisted {key} (unlisted : key ∉ state.surfaces) : Steps state (.destroySurface key) state
  | setHidden {key hide surface} (found : state.surface key = some surface) :
      Steps state (.setHidden key hide) (putSurface state key { surface with hidden := hide })
  | clientAcquire {key buffer surface ownership} (found : state.surface key = some surface)
      (nothing : surface.ownership.clientHeld = [])
      (called : SwapperOwnership.step surface.ownership (.clientAcquire buffer) =
        some ownership) :
      Steps state (.clientAcquire key buffer)
        (putSurface state key { surface with ownership := ownership })
  | clientRelease {key buffer surface ownership} (found : state.surface key = some surface)
      (called : SwapperOwnership.step surface.ownership (.clientRelease buffer) =
        some ownership) :
      Steps state (.clientRelease key buffer)
        (putSurface state key { surface with ownership := ownership })
  | forEachIf {thread} (idle : state.passes thread = .idle) (free : state.guard = none) :
      Steps state (.forEachIf thread)
        { putPass state thread (.visiting state.surfaces.reverse []) with guard := some thread }
  | skip {thread key ahead resources surface}
      (visiting : state.passes thread = .visiting (key :: ahead) resources)
      (found : state.surface key = some surface) (hidden : surface.hidden = true) :
      Steps state (.skip thread key) (putPass state thread (.visiting ahead resources))
  | render {thread key buffer ahead resources surface ownership}
      (visiting : state.passes thread = .visiting (key :: ahead) resources)
      (found : state.surface key = some surface) (shown : surface.hidden = false)
      (called : SwapperOwnership.step surface.ownership (.compositorAcquire buffer) =
        some ownership) :
      Steps state (.render thread key buffer)
        (putPass (putSurface state key { surface with ownership := ownership }) thread
          (.visiting ahead (resources ++ [⟨key, buffer⟩])))
  | visited {thread resources} (visiting : state.passes thread = .visiting [] resources) :
      Steps state (.visited thread)
        { putPass state thread (.posting resources) with guard := none }
  | posted {thread resources} (posting : state.passes thread = .posting resources) :
      Steps state (.posted thread) (putPass state thread (.releasing resources))
  | release {thread region rest surface ownership}
      (releasing : state.passes thread = .releasing (region :: rest))
      (found : state.surface region.surface = some surface)
      (called : SwapperOwnership.step surface.ownership (.compositorRelease region.buffer) =
        some ownership) :
      Steps state (.release thread region.surface)
        (putPass (putSurface state region.surface { surface with ownership := ownership })
          thread (.releasing rest))
  | expired {thread region rest} (releasing : state.passes thread = .releasing (region :: rest))
      (gone : state.surface region.surface = none) :
      Steps state (.release thread region.surface) (putPass state thread (.releasing rest))
  | finished {thread} (releasing : state.passes thread = .releasing []) :
      Steps state (.finished thread) (putPass state thread .idle)

theorem on_swapper_some {state next : Stage displays id} {key : SurfaceKey} {call : Call}
    (called : onSwapper state key call = some next) :
    ∃ surface ownership, state.surface key = some surface ∧
      SwapperOwnership.step surface.ownership call = some ownership ∧
      next = putSurface state key { surface with ownership := ownership } := by
  obtain ⟨surface, found, mapped⟩ := Option.bind_eq_some_iff.mp called
  obtain ⟨ownership, stepped, same⟩ := Option.map_eq_some_iff.mp mapped
  exact ⟨surface, ownership, found, stepped, same.symm⟩

theorem step_cases {state next : Stage displays id} {event : Event displays id}
    (stepped : step state event = some next) : Steps state event next := by
  cases event with
  | createSurface allocation =>
      simp only [step] at stepped
      split_ifs at stepped with free
      cases stepped
      exact .createSurface free
  | destroySurface key =>
      simp only [step, destroySurface] at stepped
      split_ifs at stepped with free listed
      · obtain ⟨surface, found, mapped⟩ := Option.bind_eq_some_iff.mp stepped
        obtain ⟨swapper, shut, rfl⟩ := Option.map_eq_some_iff.mp mapped
        exact .destroySurface free listed found shut
      · cases stepped
        exact .unlisted listed
  | setHidden key hide =>
      obtain ⟨surface, found, rfl⟩ := Option.map_eq_some_iff.mp stepped
      exact .setHidden found
  | clientAcquire key buffer =>
      obtain ⟨surface, found, acquired⟩ := Option.bind_eq_some_iff.mp stepped
      split_ifs at acquired with nothing
      obtain ⟨same, ownership, again, called, rfl⟩ := on_swapper_some acquired
      cases found.symm.trans again
      exact .clientAcquire found nothing called
  | clientRelease key buffer =>
      obtain ⟨surface, ownership, found, called, rfl⟩ := on_swapper_some stepped
      exact .clientRelease found called
  | forEachIf thread =>
      simp only [step] at stepped
      split at stepped
      · next idle =>
          split_ifs at stepped with free
          cases stepped
          exact .forEachIf idle free
      · cases stepped
  | skip thread key =>
      simp only [step] at stepped
      split at stepped
      · next front ahead resources visiting =>
          obtain ⟨surface, found, skipped⟩ := Option.bind_eq_some_iff.mp stepped
          split_ifs at skipped with passed
          cases skipped
          obtain ⟨rfl, hidden⟩ := passed
          exact .skip visiting found hidden
      · cases stepped
  | render thread key buffer =>
      simp only [step] at stepped
      split at stepped
      · next front ahead resources visiting =>
          obtain ⟨surface, found, rendered⟩ := Option.bind_eq_some_iff.mp stepped
          split_ifs at rendered with passed
          obtain ⟨rfl, shown⟩ := passed
          obtain ⟨after, acquired, rfl⟩ := Option.map_eq_some_iff.mp rendered
          obtain ⟨same, ownership, again, called, rfl⟩ := on_swapper_some acquired
          cases found.symm.trans again
          exact .render visiting found shown called
      · cases stepped
  | visited thread =>
      simp only [step] at stepped
      split at stepped
      · next resources visiting =>
          cases stepped
          exact .visited visiting
      · cases stepped
  | posted thread =>
      simp only [step] at stepped
      split at stepped
      · next resources posting =>
          cases stepped
          exact .posted posting
      · cases stepped
  | release thread key =>
      simp only [step] at stepped
      split at stepped
      · next region rest releasing =>
          split_ifs at stepped with same
          subst same
          obtain ⟨after, released, rfl⟩ := Option.map_eq_some_iff.mp stepped
          unfold releaseRegion at released
          split at released
          · next gone =>
              cases released
              exact .expired releasing gone
          · obtain ⟨surface, ownership, found, called, rfl⟩ := on_swapper_some released
            exact .release releasing found called
      · cases stepped
  | finished thread =>
      simp only [step] at stepped
      split at stepped
      · next releasing =>
          cases stepped
          exact .finished releasing
      · cases stepped

section Soundness

def keysOf (resources : List Region) : List SurfaceKey := resources.map Region.surface

/-- Only a listed surface is alive, and the walk of a pass is a split of the stack: what
it has still to visit, and before that the surfaces it has rendered or left out. -/
structure Sound (state : Stage displays id) : Prop where
  distinct : state.surfaces.Nodup
  listed : ∀ key, key ∈ state.surfaces ↔ ∃ surface, state.surface key = some surface
  born : ∀ key ∈ state.surfaces, key < state.nextSurface
  guarded : ∀ thread ahead resources, state.passes thread = .visiting ahead resources →
    state.guard = some thread ∧
      ∃ past, state.surfaces.reverse = past ++ ahead ∧ (keysOf resources).Sublist past
  once : ∀ thread, (keysOf (state.passes thread).resources).Nodup
  known : ∀ thread, ∀ key ∈ keysOf (state.passes thread).resources, key < state.nextSurface

variable {state next : Stage displays id}

theorem started_sound : Sound (started : Stage displays id) where
  distinct := List.nodup_nil
  listed := by simp [started]
  born := by simp [started]
  guarded := by simp [started]
  once := by simp [started, Pass.resources, keysOf]
  known := by simp [started, Pass.resources, keysOf]

theorem Sound.unguarded (sound : Sound state) (free : state.guard = none) (thread : Fin displays)
    (ahead : List SurfaceKey) (resources : List Region) :
    state.passes thread ≠ .visiting ahead resources := by
  intro visiting
  have held := (sound.guarded thread ahead resources visiting).1
  rw [free] at held
  cases held

theorem Sound.ahead_unsaved (sound : Sound state) {thread : Fin displays} {key : SurfaceKey}
    {ahead : List SurfaceKey} {resources : List Region}
    (visiting : state.passes thread = .visiting (key :: ahead) resources) :
    key ∉ keysOf resources := by
  obtain ⟨-, past, split, taken⟩ := sound.guarded thread _ _ visiting
  intro member
  have distinct : (past ++ key :: ahead).Nodup := split ▸ List.nodup_reverse.mpr sound.distinct
  exact List.disjoint_of_nodup_append distinct (taken.subset member) List.mem_cons_self

theorem Sound.put_surface (sound : Sound state) {key : SurfaceKey} {surface : Surface id}
    (found : state.surface key = some surface) (after : Surface id) :
    Sound (putSurface state key after) where
  distinct := sound.distinct
  born := sound.born
  guarded := sound.guarded
  once := sound.once
  known := sound.known
  listed := by
    intro other
    by_cases same : other = key
    · subst same
      have present : other ∈ state.surfaces := (sound.listed other).mpr ⟨surface, found⟩
      simpa [putSurface] using present
    · simpa [putSurface, Function.update_of_ne same] using sound.listed other

theorem Sound.put_pass (sound : Sound state) (thread : Fin displays) (pass : Pass)
    (guard : Option (Fin displays))
    (others : ∀ other, other ≠ thread → state.guard = some other → guard = some other)
    (own : ∀ ahead resources, pass = .visiting ahead resources → guard = some thread ∧
      ∃ past, state.surfaces.reverse = past ++ ahead ∧ (keysOf resources).Sublist past)
    (once : (keysOf pass.resources).Nodup)
    (known : ∀ key ∈ keysOf pass.resources, key < state.nextSurface) :
    Sound { putPass state thread pass with guard := guard } where
  distinct := sound.distinct
  listed := sound.listed
  born := sound.born
  guarded := by
    intro other ahead resources visiting
    by_cases same : other = thread
    · subst same
      simp only [putPass, Function.update_self] at visiting
      exact own ahead resources visiting
    · simp only [putPass, Function.update_of_ne same] at visiting
      obtain ⟨held, walk⟩ := sound.guarded other ahead resources visiting
      exact ⟨others other same held, walk⟩
  once := by
    intro other
    by_cases same : other = thread
    · subst same
      simpa only [putPass, Function.update_self] using once
    · simpa only [putPass, Function.update_of_ne same] using sound.once other
  known := by
    intro other
    by_cases same : other = thread
    · subst same
      simpa only [putPass, Function.update_self] using known
    · simpa only [putPass, Function.update_of_ne same] using sound.known other

/-- A pass that is not walking, with regions it had before. -/
theorem Sound.put_resources (sound : Sound state) {thread : Fin displays} {pass : Pass}
    (still : ∀ ahead resources, pass ≠ .visiting ahead resources)
    (fewer : (keysOf pass.resources).Sublist (keysOf (state.passes thread).resources)) :
    Sound (putPass state thread pass) := by
  apply sound.put_pass thread pass state.guard
  · intro other _ held
    exact held
  · intro ahead resources walking
    exact absurd walking (still ahead resources)
  · exact (sound.once thread).sublist fewer
  · intro key member
    exact sound.known thread key (fewer.subset member)

theorem create_sound (sound : Sound state) (free : state.guard = none)
    (allocation : Allocation id) : Sound (createSurface state allocation) where
  distinct := by
    have fresh : state.nextSurface ∉ state.surfaces := by
      intro member
      exact Nat.lt_irrefl _ (sound.born _ member)
    exact List.nodup_append_comm.mp (List.nodup_cons.mpr ⟨fresh, sound.distinct⟩)
  listed := by
    intro key
    by_cases same : key = state.nextSurface
    · simp [createSurface, same]
    · simpa [createSurface, Function.update_of_ne same, same] using sound.listed key
  born := by
    intro key member
    simp only [createSurface, List.mem_append, List.mem_singleton] at member ⊢
    rcases member with old | rfl
    · exact (sound.born key old).trans (Nat.lt_succ_self _)
    · exact Nat.lt_succ_self _
  guarded := by
    intro thread ahead resources visiting
    exact absurd visiting (sound.unguarded free thread ahead resources)
  once := sound.once
  known := by
    intro thread key member
    exact (sound.known thread key member).trans (Nat.lt_succ_self _)

theorem destroy_sound (sound : Sound state) (free : state.guard = none) (key : SurfaceKey) :
    Sound { state with
      surfaces := state.surfaces.erase key
      surface := Function.update state.surface key none } where
  distinct := sound.distinct.erase key
  listed := by
    intro other
    by_cases same : other = key
    · simp [same, sound.distinct.not_mem_erase]
    · simpa [Function.update_of_ne same, List.mem_erase_of_ne same] using sound.listed other
  born := by
    intro other member
    exact sound.born other (List.mem_of_mem_erase member)
  guarded := by
    intro thread ahead resources visiting
    exact absurd visiting (sound.unguarded free thread ahead resources)
  once := sound.once
  known := sound.known

/-- The surface goes from those ahead of the walk to those that it has saved a region of. -/
theorem render_sound (sound : Sound state) {thread : Fin displays} {key : SurfaceKey}
    {buffer : BufferID} {ahead : List SurfaceKey} {resources : List Region}
    {surface : Surface id}
    (visiting : state.passes thread = .visiting (key :: ahead) resources)
    (found : state.surface key = some surface) (ownership : Ownership Buffer) :
    Sound (putPass (putSurface state key { surface with ownership := ownership }) thread
      (.visiting ahead (resources ++ [⟨key, buffer⟩]))) := by
  obtain ⟨held, past, split, taken⟩ := sound.guarded thread _ _ visiting
  have once := sound.once thread
  have known := sound.known thread
  have unsaved := sound.ahead_unsaved visiting
  have listed : key ∈ state.surfaces := (sound.listed key).mpr ⟨surface, found⟩
  rw [visiting] at once known
  have added : keysOf (resources ++ [⟨key, buffer⟩]) = keysOf resources ++ [key] := by
    simp [keysOf]
  apply (sound.put_surface found { surface with ownership := ownership }).put_pass thread _
    state.guard (fun _ _ other => other)
  · rintro _ _ ⟨⟩
    refine ⟨held, past ++ [key], ?_, ?_⟩
    · change state.surfaces.reverse = _
      rw [split, List.append_assoc]
      rfl
    · rw [added]
      exact taken.append (List.Sublist.refl [key])
  · change (keysOf (resources ++ _)).Nodup
    rw [added, List.nodup_append]
    refine ⟨once, List.nodup_singleton key, ?_⟩
    intro other member last same
    rw [List.mem_singleton] at same
    intro equal
    exact unsaved (same ▸ equal ▸ member)
  · intro other member
    change other ∈ keysOf (resources ++ _) at member
    rw [added, List.mem_append, List.mem_singleton] at member
    rcases member with old | rfl
    · exact known other old
    · exact sound.born other listed

theorem step_sound (sound : Sound state) {event : Event displays id}
    (stepped : step state event = some next) : Sound next := by
  cases step_cases stepped with
  | createSurface free => exact create_sound sound free _
  | destroySurface free => exact destroy_sound sound free _
  | unlisted => exact sound
  | setHidden found => exact sound.put_surface found _
  | clientAcquire found => exact sound.put_surface found _
  | clientRelease found => exact sound.put_surface found _
  | forEachIf idle free =>
      apply sound.put_pass
      · intro other _ held
        rw [free] at held
        cases held
      · rintro ahead resources ⟨⟩
        exact ⟨rfl, [], rfl, List.Sublist.refl []⟩
      · exact List.nodup_nil
      · simp [Pass.resources, keysOf]
  | @skip thread key ahead resources surface visiting found hidden =>
      obtain ⟨held, past, split, taken⟩ := sound.guarded thread _ _ visiting
      have once := sound.once thread
      have known := sound.known thread
      rw [visiting] at once known
      apply sound.put_pass thread (.visiting ahead resources) state.guard
        (fun _ _ other => other) _ once known
      rintro _ _ ⟨⟩
      refine ⟨held, past ++ [key], ?_, taken.trans (List.sublist_append_left _ _)⟩
      rw [split, List.append_assoc]
      rfl
  | render visiting found shown called => exact render_sound sound visiting found _
  | @visited thread resources visiting =>
      have held := (sound.guarded thread _ _ visiting).1
      have once := sound.once thread
      have known := sound.known thread
      rw [visiting] at once known
      apply sound.put_pass thread (.posting resources) none _ _ once known
      · intro other different otherHeld
        rw [held] at otherHeld
        exact absurd (Option.some.inj otherHeld).symm different
      · rintro _ _ ⟨⟩
  | posted posting =>
      apply sound.put_resources (by nofun)
      rw [posting]
      exact List.Sublist.refl _
  | @release thread region rest surface ownership releasing found called =>
      apply (sound.put_surface found _).put_resources (by nofun)
      change (keysOf rest).Sublist (keysOf (state.passes thread).resources)
      rw [releasing]
      exact List.sublist_cons_self _ _
  | expired releasing gone =>
      apply sound.put_resources (by nofun)
      rw [releasing]
      exact List.sublist_cons_self _ _
  | finished releasing =>
      apply sound.put_resources (by nofun)
      exact List.nil_sublist _

end Soundness

end Mir.CompositingStage
