import Mir.CompositingStage
import Mir.CompositingThreads
import Mir.SurfaceBuffers

/-!
# What the whole stage is to one surface

Every living surface goes through a run of `Mir.CompositingThreads`, whatever happens to
the others. What is known of one surface and several compositing threads is read off that
run: a pass finds a region of every surface it has to draw and gives every one back.
-/

namespace Mir.StageProjection

open Mir.TransitionRuns Mir.SwapperModel Mir.CompositingStage
open Mir.SwapperOwnership hiding step
open Mir.CompositingThreads (Action Composition)

set_option autoImplicit false

variable {displays : Nat} {Buffer : Type} {id : Buffer → BufferID}

section Saved

/-- The compositing side holds the buffers of the saved regions and no others, and no two threads
have saved the same one. -/
structure SavedHeld (composed : Composition displays Buffer) : Prop where
  held : ∀ buffer, buffer ∈ composed.ownership.compositorHeld ↔
    ∃ thread, composed.saved thread = some buffer
  apart : ∀ thread other buffer, composed.saved thread = some buffer →
    composed.saved other = some buffer → thread = other

variable {bufferList : List Buffer} {composed after : Composition displays Buffer}

theorem composed_held_nodup (distinct : (bufferList.map id).Nodup)
    (sound : CompositingThreads.Composed id bufferList composed) :
    composed.ownership.compositorHeld.Nodup :=
  (Circulation.conserved_nodup sound.accounted.conserved distinct).of_append_right

theorem saved_held_take {thread : Fin displays} {buffer : BufferID}
    {ownership : Ownership Buffer} (savedHeld : SavedHeld composed)
    (unsaved : composed.saved thread = none)
    (kept : ownership.compositorHeld = composed.ownership.compositorHeld ++ [buffer])
    (distinct : ownership.compositorHeld.Nodup) :
    SavedHeld ⟨ownership, Function.update composed.saved thread (some buffer)⟩ := by
  rw [kept] at distinct
  have fresh : ∀ other, composed.saved other ≠ some buffer := by
    intro other same
    exact List.disjoint_of_nodup_append distinct ((savedHeld.held buffer).mpr ⟨other, same⟩)
      (List.mem_singleton_self buffer)
  constructor
  · intro saved
    dsimp only
    rw [kept, List.mem_append, List.mem_singleton, savedHeld.held]
    constructor
    · rintro (⟨other, holds⟩ | rfl)
      · have different : other ≠ thread := by
          rintro rfl
          rw [unsaved] at holds
          cases holds
        exact ⟨other, by rwa [Function.update_of_ne different]⟩
      · exact ⟨thread, Function.update_self thread _ _⟩
    · rintro ⟨other, holds⟩
      by_cases same : other = thread
      · subst same
        rw [Function.update_self] at holds
        exact .inr (Option.some.inj holds).symm
      · rw [Function.update_of_ne same] at holds
        exact .inl ⟨other, holds⟩
  · intro first second saved
    simp only [Function.update_apply]
    split_ifs with one two two
    · intro _ _
      rw [one, two]
    · rintro ⟨⟩ holds
      exact absurd holds (fresh second)
    · rintro holds ⟨⟩
      exact absurd holds (fresh first)
    · exact savedHeld.apart first second saved

theorem saved_held_give {thread : Fin displays} {buffer : BufferID}
    {ownership : Ownership Buffer} (savedHeld : SavedHeld composed)
    (saved : composed.saved thread = some buffer)
    (distinct : composed.ownership.compositorHeld.Nodup)
    (kept : ownership.compositorHeld = composed.ownership.compositorHeld.erase buffer) :
    SavedHeld ⟨ownership, Function.update composed.saved thread none⟩ := by
  constructor
  · intro region
    dsimp only
    rw [kept, distinct.mem_erase_iff, savedHeld.held]
    constructor
    · rintro ⟨different, other, holds⟩
      have elsewhere : other ≠ thread := by
        rintro rfl
        rw [saved] at holds
        exact different (Option.some.inj holds).symm
      exact ⟨other, by rwa [Function.update_of_ne elsewhere]⟩
    · rintro ⟨other, holds⟩
      by_cases same : other = thread
      · subst same
        rw [Function.update_self] at holds
        cases holds
      · rw [Function.update_of_ne same] at holds
        refine ⟨?_, other, holds⟩
        rintro rfl
        exact same (savedHeld.apart other thread region holds saved)
  · intro first second region
    simp only [Function.update_apply]
    split_ifs
    · rintro ⟨⟩
    · rintro ⟨⟩
    · rintro _ ⟨⟩
    · exact savedHeld.apart first second region

theorem step_saved_held (several : 2 ≤ bufferList.length) (distinct : (bufferList.map id).Nodup)
    (sound : CompositingThreads.Composed id bufferList composed)
    (savedHeld : SavedHeld composed) {action : Action displays}
    (stepped : CompositingThreads.step composed action = some after) : SavedHeld after := by
  have nodup := composed_held_nodup distinct
    (CompositingThreads.step_composed several distinct sound stepped)
  cases action with
  | clientAcquire buffer =>
      simp only [CompositingThreads.step] at stepped
      split_ifs at stepped
      obtain ⟨ownership, acquired, rfl⟩ := Option.map_eq_some_iff.mp stepped
      obtain ⟨-, kept⟩ := step_held acquired
      exact ⟨by simpa only [kept] using savedHeld.held, savedHeld.apart⟩
  | clientRelease buffer =>
      obtain ⟨ownership, released, rfl⟩ := Option.map_eq_some_iff.mp stepped
      obtain ⟨-, -, kept⟩ := step_held released
      exact ⟨by simpa only [kept] using savedHeld.held, savedHeld.apart⟩
  | graphicRegion thread buffer =>
      simp only [CompositingThreads.step] at stepped
      split at stepped
      · cases stepped
      · next unsaved =>
          obtain ⟨ownership, acquired, rfl⟩ := Option.map_eq_some_iff.mp stepped
          exact saved_held_take savedHeld unsaved (step_held acquired).2 nodup
  | passFinished thread =>
      simp only [CompositingThreads.step] at stepped
      split at stepped
      · cases stepped
      · next buffer saved =>
          obtain ⟨ownership, released, rfl⟩ := Option.map_eq_some_iff.mp stepped
          exact saved_held_give savedHeld saved (composed_held_nodup distinct sound)
            (step_held released).2.2

theorem run_saved_held (several : 2 ≤ bufferList.length) (distinct : (bufferList.map id).Nodup)
    {actions : List (Action displays)}
    (ran : run CompositingThreads.step (CompositingThreads.started id bufferList) actions =
      some composed) :
    SavedHeld composed := by
  have both : CompositingThreads.Composed id bufferList composed ∧ SavedHeld composed := by
    apply run_invariant
      (fun state => CompositingThreads.Composed id bufferList state ∧ SavedHeld state) _ _ ran
    · exact ⟨CompositingThreads.started_composed,
        by simp [CompositingThreads.started, constructed], by simp [CompositingThreads.started]⟩
    · rintro state action next ⟨sound, savedHeld⟩ stepped
      exact ⟨CompositingThreads.step_composed several distinct sound stepped,
        step_saved_held several distinct sound savedHeld stepped⟩
  exact both.2

end Saved

section Projection

/-- What an event is to one surface and the threads that composite it. -/
def actionsOn (key : SurfaceKey) : Event displays id → List (Action displays)
  | .clientAcquire surface buffer => if surface = key then [.clientAcquire buffer] else []
  | .clientRelease surface buffer => if surface = key then [.clientRelease buffer] else []
  | .render thread surface buffer =>
      if surface = key then [.graphicRegion thread buffer] else []
  | .release thread surface => if surface = key then [.passFinished thread] else []
  | _ => []

def savedIn (resources : List Region) (key : SurfaceKey) : Option BufferID :=
  (resources.find? fun region => region.surface = key).map Region.buffer

def composition (state : Stage displays id) (key : SurfaceKey) (surface : Surface id) :
    Composition displays Buffer where
  ownership := surface.ownership
  saved := fun thread => savedIn (state.passes thread).resources key

variable {state next : Stage displays id} {key : SurfaceKey} {surface : Surface id}

theorem saved_in_missing {resources : List Region} (missing : key ∉ keysOf resources) :
    savedIn resources key = none := by
  rw [savedIn, Option.map_eq_none_iff, List.find?_eq_none]
  intro region member same
  apply missing
  exact List.mem_map.mpr ⟨region, member, of_decide_eq_true same⟩

theorem saved_in_snoc (resources : List Region) (region : Region) :
    savedIn (resources ++ [region]) key =
      (savedIn resources key).or (if region.surface = key then some region.buffer else none) := by
  simp only [savedIn, List.find?_append, List.find?_singleton, Option.map_or]
  split_ifs <;> simp_all

theorem saved_in_cons (region : Region) (rest : List Region) :
    savedIn (region :: rest) key =
      if region.surface = key then some region.buffer else savedIn rest key := by
  simp only [savedIn, List.find?_cons]
  split_ifs with same <;> simp [same]

theorem composition_put_pass (thread : Fin displays) (pass : Pass) :
    composition (putPass state thread pass) key surface =
      { composition state key surface with
        saved := Function.update (composition state key surface).saved thread
          (savedIn pass.resources key) } := by
  simp only [composition, putPass, CompositingThreads.Composition.mk.injEq, true_and]
  funext other
  by_cases same : other = thread
  · subst same
    simp
  · simp [Function.update_of_ne same]

theorem composition_same_saved {thread : Fin displays} {pass : Pass}
    (same : savedIn pass.resources key = savedIn (state.passes thread).resources key) :
    composition (putPass state thread pass) key surface = composition state key surface := by
  rw [composition_put_pass, same]
  have unchanged : Function.update (composition state key surface).saved thread
      (savedIn (state.passes thread).resources key) = (composition state key surface).saved :=
    Function.update_eq_self thread _
  rw [unchanged]

/-- A surface after an event: it has just been created, or it was there before and has
made the moves that the event is to it. -/
inductive Moves (state : Stage displays id) (event : Event displays id)
    (next : Stage displays id) (key : SurfaceKey) (after : Surface id) : Prop
  | created (fresh : key = state.nextSurface) (quiet : actionsOn key event = [])
      (new : composition next key after =
        CompositingThreads.started id after.allocation.bufferList)
  | moved (before : Surface id) (found : state.surface key = some before)
      (same : after.allocation = before.allocation)
      (ran : run CompositingThreads.step (composition state key before) (actionsOn key event) =
        some (composition next key after))

theorem moves_quiet {event : Event displays id} (found : state.surface key = some surface)
    (quiet : actionsOn key event = [])
    (unchanged : composition next key surface = composition state key surface) :
    Moves state event next key surface := by
  apply Moves.moved surface found rfl
  rw [quiet, run_nil, unchanged]

theorem moves_pass {event : Event displays id} {thread : Fin displays} {pass : Pass}
    (guard : Option (Fin displays)) (found : state.surface key = some surface)
    (quiet : actionsOn key event = [])
    (same : savedIn pass.resources key = savedIn (state.passes thread).resources key) :
    Moves state event { putPass state thread pass with guard := guard } key surface :=
  moves_quiet found quiet (composition_same_saved same)

theorem moves_client {event : Event displays id} {other : SurfaceKey} {before after : Surface id}
    {ownership : Ownership Buffer} (found : state.surface other = some before)
    (known : (putSurface state other { before with ownership := ownership }).surface key =
      some after)
    (elsewhere : other ≠ key → actionsOn key event = [])
    (here : other = key → run CompositingThreads.step (composition state other before)
      (actionsOn key event) = some { composition state other before with ownership := ownership }) :
    Moves state event (putSurface state other { before with ownership := ownership }) key
      after := by
  by_cases same : other = key
  · subst same
    simp only [putSurface, Function.update_self, Option.some.injEq] at known
    subst known
    exact Moves.moved before found rfl (here rfl)
  · simp only [putSurface, Function.update_of_ne (Ne.symm same)] at known
    exact moves_quiet known (elsewhere same) rfl

theorem moves_region {event : Event displays id} {thread : Fin displays} {pass : Pass}
    {other : SurfaceKey} {before after : Surface id} {ownership : Ownership Buffer}
    (found : state.surface other = some before)
    (known : (putPass (putSurface state other { before with ownership := ownership }) thread
      pass).surface key = some after)
    (elsewhere : other ≠ key → actionsOn key event = [] ∧
      savedIn pass.resources key = savedIn (state.passes thread).resources key)
    (here : other = key → run CompositingThreads.step (composition state other before)
      (actionsOn key event) = some ⟨ownership, Function.update
        (composition state other before).saved thread (savedIn pass.resources other)⟩) :
    Moves state event
      (putPass (putSurface state other { before with ownership := ownership }) thread pass) key
      after := by
  by_cases same : other = key
  · subst same
    simp only [putPass, putSurface, Function.update_self, Option.some.injEq] at known
    subst known
    refine Moves.moved before found rfl ?_
    rw [here rfl, composition_put_pass]
    rfl
  · simp only [putPass, putSurface, Function.update_of_ne (Ne.symm same)] at known
    obtain ⟨quiet, saved⟩ := elsewhere same
    apply moves_quiet known quiet
    rw [composition_same_saved]
    · rfl
    · exact saved

theorem moves_created (sound : Sound state) {allocation : Allocation id} {after : Surface id}
    (found : (createSurface state allocation).surface key = some after) :
    Moves state (.createSurface allocation) (createSurface state allocation) key after := by
  by_cases fresh : key = state.nextSurface
  · subst fresh
    simp only [createSurface, Function.update_self, Option.some.injEq] at found
    subst found
    apply Moves.created rfl rfl
    simp only [composition, CompositingThreads.started, createSurface,
      CompositingThreads.Composition.mk.injEq, true_and]
    funext thread
    apply saved_in_missing
    intro member
    exact Nat.lt_irrefl _ (sound.known thread _ member)
  · simp only [createSurface, Function.update_of_ne fresh] at found
    exact moves_quiet found rfl rfl

theorem moves_hidden {other : SurfaceKey} {hide : Bool} {before after : Surface id}
    (known : state.surface other = some before)
    (found : (putSurface state other { before with hidden := hide }).surface key = some after) :
    Moves state (.setHidden other hide) (putSurface state other { before with hidden := hide }) key
      after := by
  by_cases same : key = other
  · subst same
    simp only [putSurface, Function.update_self, Option.some.injEq] at found
    subst found
    exact Moves.moved before known rfl rfl
  · simp only [putSurface, Function.update_of_ne same] at found
    exact moves_quiet found rfl rfl

section Region

variable {thread : Fin displays} {resources : List Region} {other : SurfaceKey}
  {before after : Surface id} {ownership : Ownership Buffer}

/-- A pass that goes over a surface has saved no region of it before. -/
theorem moves_rendered (sound : Sound state) {buffer : BufferID} {ahead : List SurfaceKey}
    (visiting : state.passes thread = .visiting (other :: ahead) resources)
    (known : state.surface other = some before)
    (called : SwapperOwnership.step before.ownership (.compositorAcquire buffer) = some ownership)
    (found : (putPass (putSurface state other { before with ownership := ownership }) thread
      (.visiting ahead (resources ++ [⟨other, buffer⟩]))).surface key = some after) :
    Moves state (.render thread other buffer)
      (putPass (putSurface state other { before with ownership := ownership }) thread
        (.visiting ahead (resources ++ [⟨other, buffer⟩]))) key after := by
  apply moves_region known found
  · intro different
    simp [actionsOn, visiting, Pass.resources, saved_in_snoc, different]
  · intro same
    have unsaved := saved_in_missing (sound.ahead_unsaved visiting)
    have taken : savedIn (resources ++ [⟨other, buffer⟩]) other = some buffer := by
      simp [saved_in_snoc, unsaved]
    simp only [actionsOn, if_pos same, run_single, CompositingThreads.step, composition, visiting,
      Pass.resources, unsaved, taken, called, Option.map_some]

theorem moves_released (sound : Sound state) {region : Region}
    (releasing : state.passes thread = .releasing (region :: resources))
    (known : state.surface region.surface = some before)
    (called : SwapperOwnership.step before.ownership (.compositorRelease region.buffer) =
      some ownership)
    (found : (putPass (putSurface state region.surface { before with ownership := ownership })
      thread (.releasing resources)).surface key = some after) :
    Moves state (.release thread region.surface)
      (putPass (putSurface state region.surface { before with ownership := ownership }) thread
        (.releasing resources)) key after := by
  apply moves_region known found
  · intro different
    simp [actionsOn, releasing, Pass.resources, saved_in_cons, different]
  · intro same
    have once := sound.once thread
    rw [releasing] at once
    have given : savedIn resources region.surface = none :=
      saved_in_missing (List.nodup_cons.mp once).1
    have kept : savedIn (region :: resources) region.surface = some region.buffer := by
      rw [saved_in_cons, if_pos rfl]
    simp only [actionsOn, if_pos same, run_single, CompositingThreads.step, composition, releasing,
      Pass.resources, kept, given, called, Option.map_some]

end Region

theorem step_moves (sound : Sound state) {event : Event displays id} {after : Surface id}
    (stepped : step state event = some next) (found : next.surface key = some after) :
    Moves state event next key after := by
  cases step_cases stepped with
  | createSurface free => exact moves_created sound found
  | @destroySurface other =>
      by_cases same : key = other
      · simp [same] at found
      · simp only [Function.update_of_ne same] at found
        exact moves_quiet found rfl rfl
  | unlisted => exact moves_quiet found rfl rfl
  | setHidden known => exact moves_hidden known found
  | @clientAcquire other buffer surface ownership known nothing called =>
      apply moves_client known found
      · intro different
        simp [actionsOn, different]
      · intro same
        simp [actionsOn, same, run_single, CompositingThreads.step, composition, nothing, called]
  | @clientRelease other buffer surface ownership known called =>
      apply moves_client known found
      · intro different
        simp [actionsOn, different]
      · intro same
        simp [actionsOn, same, run_single, CompositingThreads.step, composition, called]
  | @forEachIf thread idle free => exact moves_pass (some thread) found rfl (by rw [idle]; rfl)
  | skip visiting => exact moves_pass state.guard found rfl (by rw [visiting]; rfl)
  | render visiting known shown called => exact moves_rendered sound visiting known called found
  | visited visiting => exact moves_pass none found rfl (by rw [visiting]; rfl)
  | posted posting => exact moves_pass state.guard found rfl (by rw [posting]; rfl)
  | release releasing known called => exact moves_released sound releasing known called found
  | @expired thread region rest releasing gone =>
      have before : state.surface key = some after := found
      have same : region.surface ≠ key := by
        rintro rfl
        rw [gone] at before
        cases before
      apply moves_pass state.guard before (by simp [actionsOn, same])
      rw [releasing]
      simp [Pass.resources, saved_in_cons, same]
  | finished releasing => exact moves_pass state.guard found rfl (by rw [releasing]; rfl)

theorem actions_unborn (sound : Sound state) {event : Event displays id}
    (stepped : step state event = some next) (unborn : state.nextSurface ≤ key) :
    actionsOn key event = [] ∧ state.nextSurface ≤ next.nextSurface := by
  have living : ∀ {other : SurfaceKey} {surface : Surface id},
      state.surface other = some surface → other ≠ key := by
    rintro other surface found rfl
    have below := sound.born other ((sound.listed other).mpr ⟨surface, found⟩)
    exact Nat.not_lt.mpr unborn below
  have saved : ∀ {thread : Fin displays} {region : Region} {rest : List Region},
      state.passes thread = .releasing (region :: rest) → region.surface ≠ key := by
    rintro thread region rest releasing rfl
    have below := sound.known thread region.surface
      (by rw [releasing]; exact List.mem_cons_self)
    exact Nat.not_lt.mpr unborn below
  cases step_cases stepped with
  | createSurface => exact ⟨rfl, Nat.le_succ _⟩
  | clientAcquire found => exact ⟨by simp [actionsOn, living found], le_refl _⟩
  | clientRelease found => exact ⟨by simp [actionsOn, living found], le_refl _⟩
  | render _ found => exact ⟨by simp [actionsOn, living found], le_refl _⟩
  | release releasing => exact ⟨by simp [actionsOn, saved releasing], le_refl _⟩
  | expired releasing => exact ⟨by simp [actionsOn, saved releasing], le_refl _⟩
  | destroySurface => exact ⟨rfl, le_refl _⟩
  | unlisted => exact ⟨rfl, le_refl _⟩
  | setHidden => exact ⟨rfl, le_refl _⟩
  | forEachIf => exact ⟨rfl, le_refl _⟩
  | skip => exact ⟨rfl, le_refl _⟩
  | visited => exact ⟨rfl, le_refl _⟩
  | posted => exact ⟨rfl, le_refl _⟩
  | finished => exact ⟨rfl, le_refl _⟩

/-- The history of the stage as each of the living surfaces has seen it. -/
structure Projected (history : List (Event displays id)) (state : Stage displays id) : Prop where
  sound : Sound state
  unborn : ∀ key, state.nextSurface ≤ key → history.flatMap (actionsOn key) = []
  living : ∀ key surface, state.surface key = some surface →
    run CompositingThreads.step (CompositingThreads.started id surface.allocation.bufferList)
      (history.flatMap (actionsOn key)) = some (composition state key surface)

theorem Projected.composed {history : List (Event displays id)}
    (projected : Projected history state)
    (found : state.surface key = some surface) :
    CompositingThreads.Composed id surface.allocation.bufferList
      (composition state key surface) :=
  CompositingThreads.run_composed surface.allocation.several surface.allocation.distinct
    (projected.living key surface found)

theorem Projected.saved_held {history : List (Event displays id)}
    (projected : Projected history state) (found : state.surface key = some surface) :
    SavedHeld (composition state key surface) :=
  run_saved_held surface.allocation.several surface.allocation.distinct
    (projected.living key surface found)

theorem step_projected {history : List (Event displays id)} {event : Event displays id}
    (projected : Projected history state) (stepped : step state event = some next) :
    Projected (history ++ [event]) next where
  sound := step_sound projected.sound stepped
  unborn := by
    intro key unborn
    have grown := (actions_unborn projected.sound stepped (le_refl _)).2
    have quiet := (actions_unborn projected.sound stepped (grown.trans unborn)).1
    simp [projected.unborn key (grown.trans unborn), quiet]
  living := by
    intro key surface found
    rw [List.flatMap_append, List.flatMap_singleton]
    cases step_moves projected.sound stepped found with
    | created fresh quiet new =>
        rw [projected.unborn key fresh.ge, quiet, List.append_nil, run_nil, new]
    | moved before known same ran =>
        rw [same]
        exact run_trans (projected.living key before known) ran

theorem run_projected {events : List (Event displays id)}
    (ran : run step started events = some state) : Projected events state := by
  apply run_history_invariant Projected _ _ ran
  · exact ⟨started_sound, fun _ _ => rfl, by simp [started]⟩
  · intro history last event after projected stepped
    exact step_projected projected stepped

/-- Whatever clients, sessions and passes do to the other surfaces, each living surface
has gone through a run of the one-surface system since it was created, and the buffers that
its compositing side holds are those of the regions that the passes hold now. -/
theorem stage_projects_to_surface (events : List (Event displays id)) (state : Stage displays id)
    (ran : run step started events = some state) (key : SurfaceKey) (surface : Surface id)
    (found : state.surface key = some surface) :
    run CompositingThreads.step (CompositingThreads.started id surface.allocation.bufferList)
        (events.flatMap (actionsOn key)) = some (composition state key surface) ∧
      CompositingThreads.Composed id surface.allocation.bufferList
        (composition state key surface) ∧
      SavedHeld (composition state key surface) := by
  have projected := run_projected ran
  exact ⟨projected.living key surface found, projected.composed found,
    projected.saved_held found⟩

/-- Two surfaces on one screen. The client of the older one posts a frame after the pass
has taken the newer one. -/
def screen : Fin 1 := ⟨0, Nat.one_pos⟩

def doubleBuffered : Allocation fun buffer : BufferID => buffer :=
  ⟨[⟨1⟩, ⟨2⟩], rfl, by decide⟩

def frameDuringWalk : List (Event 1 fun buffer : BufferID => buffer) :=
  [.createSurface doubleBuffered, .createSurface doubleBuffered, .clientAcquire 0 ⟨1⟩,
    .forEachIf screen, .render screen 1 ⟨2⟩, .clientRelease 0 ⟨1⟩, .render screen 0 ⟨1⟩]

theorem frame_during_walk_projects :
    ∃ state surface, run step started frameDuringWalk = some state ∧
      state.surface 0 = some surface ∧
      run CompositingThreads.step (CompositingThreads.started (fun buffer => buffer) [⟨1⟩, ⟨2⟩])
        [.clientAcquire ⟨1⟩, .clientRelease ⟨1⟩, .graphicRegion screen ⟨1⟩] =
          some (composition state 0 surface) := by
  obtain ⟨state, surface, ran, found, same⟩ : ∃ state surface,
      run step started frameDuringWalk = some state ∧ state.surface 0 = some surface ∧
        surface.allocation = doubleBuffered := ⟨_, _, rfl, rfl, rfl⟩
  refine ⟨state, surface, ran, found, ?_⟩
  have projected := (stage_projects_to_surface frameDuringWalk state ran 0 surface found).1
  rw [same] at projected
  exact projected

end Projection

section Progress

variable {state : Stage displays id} {events : List (Event displays id)} {key : SurfaceKey}
  {surface : Surface id} {thread : Fin displays}

/-- A pass has room at a surface that it has not saved a region of. -/
theorem region_available (projected : Projected events state)
    (found : state.surface key = some surface)
    (unsaved : (composition state key surface).saved thread = none)
    (enough : displays < surface.allocation.bufferList.length) :
    ∃ buffer ownership,
      SwapperOwnership.step surface.ownership (.compositorAcquire buffer) = some ownership := by
  have composed := projected.composed found
  have accounted : Accounted id surface.allocation.bufferList surface.ownership :=
    composed.accounted
  rw [← compositor_acquire_step surface.ownership,
    compositor_acquire_defined_iff surface.allocation.several surface.allocation.distinct
      accounted]
  have fewer : CompositingThreads.busy (composition state key surface).saved ⊂ Finset.univ := by
    rw [Finset.ssubset_univ_iff]
    intro all
    have member : thread ∈ CompositingThreads.busy (composition state key surface).saved := by
      simp [all]
    simp [CompositingThreads.busy, unsaved] at member
  have others := Finset.card_lt_card fewer
  rw [Finset.card_univ, Fintype.card_fin] at others
  have passes : surface.ownership.compositorHeld.length = _ := composed.passes
  have oneClient : surface.ownership.clientHeld.length ≤ 1 := composed.oneClient
  omega

theorem visit_enabled (projected : Projected events state) {ahead : List SurfaceKey}
    {resources : List Region} (visiting : state.passes thread = .visiting (key :: ahead) resources)
    (found : state.surface key = some surface)
    (enough : displays < surface.allocation.bufferList.length) :
    ∃ event : Event displays id, event.thread = some thread ∧
      (step state event).isSome = true := by
  cases hidden : surface.hidden with
  | true =>
      refine ⟨.skip thread key, rfl, ?_⟩
      simp [step, visiting, found, hidden]
  | false =>
      have unsaved : (composition state key surface).saved thread = none := by
        change savedIn (state.passes thread).resources key = none
        rw [visiting]
        exact saved_in_missing (projected.sound.ahead_unsaved visiting)
      obtain ⟨buffer, ownership, called⟩ := region_available projected found unsaved enough
      refine ⟨.render thread key buffer, rfl, ?_⟩
      simp [step, visiting, found, hidden, onSwapper, called]

theorem release_enabled (projected : Projected events state) {region : Region}
    {rest : List Region} (releasing : state.passes thread = .releasing (region :: rest)) :
    (step state (.release thread region.surface)).isSome = true := by
  cases found : state.surface region.surface with
  | none => simp [step, releasing, releaseRegion, found]
  | some surface =>
      have savedHeld := projected.saved_held found
      have saved : (composition state region.surface surface).saved thread =
          some region.buffer := by
        change savedIn (state.passes thread).resources region.surface = some region.buffer
        rw [releasing]
        exact (saved_in_cons region rest).trans (if_pos rfl)
      have held : region.buffer ∈ surface.ownership.compositorHeld :=
        (savedHeld.held region.buffer).mpr ⟨thread, saved⟩
      simp [step, releasing, releaseRegion, found, onSwapper, SwapperOwnership.step, held]

theorem destroy_enabled (projected : Projected events state)
    (found : state.surface key = some surface) (free : state.guard = none)
    (spare : displays + 1 < surface.allocation.bufferList.length) :
    (step state (.destroySurface key)).isSome = true := by
  have composed := projected.composed found
  have accounted : Accounted id surface.allocation.bufferList surface.ownership :=
    composed.accounted
  have available := Circulation.conserved_available accounted.conserved
  simp only [view, List.length_map] at available
  have held : (CompositingThreads.busy (composition state key surface).saved).card ≤ displays := by
    simpa using Finset.card_le_univ (CompositingThreads.busy (composition state key surface).saved)
  have passes : surface.ownership.compositorHeld.length = _ := composed.passes
  have oneClient : surface.ownership.clientHeld.length ≤ 1 := composed.oneClient
  have shut := (SurfaceBuffers.shutdown_defined_iff surface.ownership.swapper).mpr
    (available.mpr (by omega))
  have listed : key ∈ state.surfaces := (projected.sound.listed key).mpr ⟨surface, found⟩
  simp [step, free, destroySurface, listed, found, shut]

/-- With fewer display buffers than each surface has buffers, a thread that does not wait
for the stack's lock can always go on: it finds a region of every surface it has to draw
and can give back every region it has saved, even of a surface that is gone. With one
buffer more to spare, every surface can be destroyed whenever nobody walks over the stack. -/
theorem passes_never_stall (events : List (Event displays id)) (state : Stage displays id)
    (ran : run step started events = some state)
    (enough : ∀ key surface, state.surface key = some surface →
      displays < surface.allocation.bufferList.length) :
    (∀ thread, (state.passes thread = .idle → state.guard = none) →
      ∃ event : Event displays id, event.thread = some thread ∧
        (step state event).isSome = true) ∧
      (∀ key surface, state.surface key = some surface → state.guard = none →
        displays + 1 < surface.allocation.bufferList.length →
        (step state (.destroySurface key)).isSome = true) := by
  have projected := run_projected ran
  have sound := projected.sound
  constructor
  · intro thread mayWalk
    cases pass : state.passes thread with
    | idle =>
        exact ⟨.forEachIf thread, rfl, by simp [step, pass, mayWalk pass]⟩
    | visiting ahead resources =>
        cases ahead with
        | nil => exact ⟨.visited thread, rfl, by simp [step, pass]⟩
        | cons key ahead =>
            obtain ⟨-, past, split, -⟩ := sound.guarded thread _ _ pass
            have listed : key ∈ state.surfaces := by
              rw [← List.mem_reverse, split]
              simp
            obtain ⟨surface, found⟩ := (sound.listed key).mp listed
            exact visit_enabled projected pass found (enough key surface found)
    | posting resources => exact ⟨.posted thread, rfl, by simp [step, pass]⟩
    | releasing resources =>
        cases resources with
        | nil => exact ⟨.finished thread, rfl, by simp [step, pass]⟩
        | cons region rest =>
            exact ⟨.release thread region.surface, rfl, release_enabled projected pass⟩
  · intro key surface found free spare
    exact destroy_enabled projected found free spare

/-- On one screen two buffers are always enough. -/
theorem frame_during_walk_goes_on :
    ∃ state, run step started frameDuringWalk = some state ∧
      ∃ event : Event 1 fun buffer : BufferID => buffer, event.thread = some screen ∧
        (step state event).isSome = true := by
  obtain ⟨state, ran, walking⟩ : ∃ state, run step started frameDuringWalk = some state ∧
      state.passes screen = .visiting [] [⟨1, ⟨2⟩⟩, ⟨0, ⟨1⟩⟩] := ⟨_, rfl, rfl⟩
  refine ⟨state, ran, (passes_never_stall frameDuringWalk state ran ?_).1 screen ?_⟩
  · intro key surface found
    exact surface.allocation.several
  · rw [walking]
    nofun

end Progress

end Mir.StageProjection
