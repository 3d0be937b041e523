import Mir.StageProjection

/-!
# What a pass shows

A pass goes over the stack as it was when it took the lock. It may see a surface that is
hidden or shown meanwhile either way; of any other surface there is no doubt.
-/

namespace Mir.StageDrawing

open Mir.TransitionRuns Mir.SwapperModel Mir.CompositingStage Mir.StageProjection

set_option autoImplicit false

variable {displays : Nat} {Buffer : Type} {id : Buffer → BufferID}

section Drawing

variable {state next opened : Stage displays id} {event : Event displays id}
  {during : List (Event displays id)} {key : SurfaceKey} {thread : Fin displays}

/-- At a moment of the walk of the thread the surface was hidden, or it was not. -/
def SeenDuring (opened : Stage displays id) (during : List (Event displays id))
    (thread : Fin displays) (key : SurfaceKey) (hide : Bool) : Prop :=
  ∃ earlier later middle ahead resources surface, during = earlier ++ later ∧
    run step opened earlier = some middle ∧ middle.passes thread = .visiting ahead resources ∧
    middle.surface key = some surface ∧ surface.hidden = hide

/-- What a walk has made of the surfaces it has passed. -/
structure Drawn (opened : Stage displays id) (during : List (Event displays id))
    (thread : Fin displays) (past : List SurfaceKey) (resources : List Region) : Prop where
  order : (keysOf resources).Sublist past
  shown : ∀ key ∈ keysOf resources, SeenDuring opened during thread key false
  leftOut : ∀ key ∈ past, key ∉ keysOf resources → SeenDuring opened during thread key true

def Walked (begun opened : Stage displays id) (thread : Fin displays)
    (during : List (Event displays id)) (state : Stage displays id) : Prop :=
  match state.passes thread with
  | .visiting ahead resources => state.surfaces = begun.surfaces ∧
      ∃ past, begun.surfaces.reverse = past ++ ahead ∧
        Drawn opened during thread past resources
  | .posting resources => Drawn opened during thread begun.surfaces.reverse resources
  | _ => True

theorem SeenDuring.later {hide : Bool} (seen : SeenDuring opened during thread key hide)
    (event : Event displays id) : SeenDuring opened (during ++ [event]) thread key hide := by
  obtain ⟨earlier, later, middle, ahead, resources, surface, rfl, rest⟩ := seen
  exact ⟨earlier, later ++ [event], middle, ahead, resources, surface, by simp, rest⟩

theorem Drawn.later {past : List SurfaceKey} {resources : List Region}
    (drawn : Drawn opened during thread past resources) (event : Event displays id) :
    Drawn opened (during ++ [event]) thread past resources where
  order := drawn.order
  shown := fun key member => (drawn.shown key member).later event
  leftOut := fun key member missing => (drawn.leftOut key member missing).later event

/-- While a thread walks, no surface is created or destroyed. -/
theorem guarded_surfaces (stepped : step state event = some next) (walking : state.guard ≠ none) :
    next.surfaces = state.surfaces := by
  cases step_cases stepped with
  | createSurface free => exact absurd free walking
  | destroySurface free => exact absurd free walking
  | _ => rfl

theorem other_thread_pass (stepped : step state event = some next)
    (different : event.thread ≠ some thread) : next.passes thread = state.passes thread := by
  cases step_cases stepped with
  | createSurface => rfl
  | destroySurface => rfl
  | unlisted => rfl
  | setHidden => rfl
  | clientAcquire => rfl
  | clientRelease => rfl
  | _ => exact Function.update_of_ne (fun same => different (congrArg some same.symm)) _ _

inductive Walks (state next : Stage displays id) (thread : Fin displays) :
    List SurfaceKey → List Region → Prop
  | skipped {key ahead resources surface} (found : state.surface key = some surface)
      (hidden : surface.hidden = true) (after : next.passes thread = .visiting ahead resources) :
      Walks state next thread (key :: ahead) resources
  | rendered {key ahead resources surface buffer} (found : state.surface key = some surface)
      (shown : surface.hidden = false)
      (after : next.passes thread = .visiting ahead (resources ++ [⟨key, buffer⟩])) :
      Walks state next thread (key :: ahead) resources
  | ended {resources} (after : next.passes thread = .posting resources) :
      Walks state next thread [] resources

theorem own_step_walks {ahead : List SurfaceKey} {resources : List Region}
    (stepped : step state event = some next) (own : event.thread = some thread)
    (visiting : state.passes thread = .visiting ahead resources) :
    Walks state next thread ahead resources := by
  cases step_cases stepped with
  | forEachIf idle =>
      cases own
      cases idle.symm.trans visiting
  | skip walking found hidden =>
      cases own
      cases walking.symm.trans visiting
      exact .skipped found hidden (Function.update_self _ _ _)
  | render walking found shown called =>
      cases own
      cases walking.symm.trans visiting
      exact .rendered found shown (Function.update_self _ _ _)
  | visited walking =>
      cases own
      cases walking.symm.trans visiting
      exact .ended (Function.update_self _ _ _)
  | posted posting =>
      cases own
      cases posting.symm.trans visiting
  | release releasing =>
      cases own
      cases releasing.symm.trans visiting
  | expired releasing =>
      cases own
      cases releasing.symm.trans visiting
  | finished releasing =>
      cases own
      cases releasing.symm.trans visiting
  | _ => cases own

theorem own_step_rests {pass : Pass} (stepped : step state event = some next)
    (own : event.thread = some thread) (begins : event ≠ .forEachIf thread)
    (resting : ∀ ahead resources, state.passes thread ≠ .visiting ahead resources)
    (after : next.passes thread = pass) :
    (∃ resources, pass = .releasing resources) ∨ pass = .idle := by
  cases step_cases stepped with
  | forEachIf =>
      cases own
      exact absurd rfl begins
  | skip walking =>
      cases own
      exact absurd walking (resting _ _)
  | render walking =>
      cases own
      exact absurd walking (resting _ _)
  | visited walking =>
      cases own
      exact absurd walking (resting _ _)
  | posted posting =>
      cases own
      exact .inl ⟨_, after.symm.trans (Function.update_self _ _ _)⟩
  | release releasing =>
      cases own
      exact .inl ⟨_, after.symm.trans (Function.update_self _ _ _)⟩
  | expired releasing =>
      cases own
      exact .inl ⟨_, after.symm.trans (Function.update_self _ _ _)⟩
  | finished releasing =>
      cases own
      exact .inr (after.symm.trans (Function.update_self _ _ _))
  | _ => cases own

variable {begun : Stage displays id} {ahead past : List SurfaceKey} {resources : List Region}
  {surface : Surface id}

theorem seen_now (reached : run step opened during = some state)
    (visiting : state.passes thread = .visiting ahead resources)
    (found : state.surface key = some surface) (event : Event displays id) :
    SeenDuring opened (during ++ [event]) thread key surface.hidden :=
  ⟨during, [event], state, ahead, resources, surface, rfl, reached, visiting, found, rfl⟩

theorem Drawn.skip (drawn : Drawn opened during thread past resources)
    (seen : SeenDuring opened (during ++ [event]) thread key true) :
    Drawn opened (during ++ [event]) thread (past ++ [key]) resources where
  order := drawn.order.trans (List.sublist_append_left past [key])
  shown := (drawn.later event).shown
  leftOut := by
    intro other member missing
    rcases List.mem_append.mp member with passed | last
    · exact (drawn.later event).leftOut other passed missing
    · rw [List.mem_singleton.mp last]
      exact seen

theorem Drawn.render {buffer : BufferID} (drawn : Drawn opened during thread past resources)
    (seen : SeenDuring opened (during ++ [event]) thread key false) :
    Drawn opened (during ++ [event]) thread (past ++ [key]) (resources ++ [⟨key, buffer⟩]) := by
  have added : keysOf (resources ++ [⟨key, buffer⟩]) = keysOf resources ++ [key] := by
    simp [keysOf]
  constructor
  · rw [added]
    exact drawn.order.append (List.Sublist.refl [key])
  · intro other member
    rw [added] at member
    rcases List.mem_append.mp member with before | last
    · exact (drawn.later event).shown other before
    · rw [List.mem_singleton.mp last]
      exact seen
  · intro other member missing
    rw [added, List.mem_append, not_or] at missing
    rcases List.mem_append.mp member with passed | last
    · exact (drawn.later event).leftOut other passed missing.1
    · exact absurd last missing.2

theorem step_walked_own (sound : Sound state) (reached : run step opened during = some state)
    (walked : Walked begun opened thread during state) (stepped : step state event = some next)
    (own : event.thread = some thread) (begins : event ≠ .forEachIf thread) :
    Walked begun opened thread (during ++ [event]) next := by
  by_cases walking : ∃ ahead resources, state.passes thread = .visiting ahead resources
  · obtain ⟨ahead, resources, visiting⟩ := walking
    have held := (sound.guarded thread ahead resources visiting).1
    have unchanged := guarded_surfaces stepped (by simp [held])
    unfold Walked at walked ⊢
    rw [visiting] at walked
    obtain ⟨same, past, split, drawn⟩ := walked
    cases own_step_walks stepped own visiting with
    | @skipped key ahead resources surface found hidden after =>
        rw [after]
        refine ⟨unchanged.trans same, past ++ [key], by rw [split]; simp, ?_⟩
        exact drawn.skip (hidden ▸ seen_now reached visiting found event)
    | @rendered key ahead resources surface buffer found shown after =>
        rw [after]
        refine ⟨unchanged.trans same, past ++ [key], by rw [split]; simp, ?_⟩
        exact drawn.render (shown ▸ seen_now reached visiting found event)
    | ended after =>
        rw [after]
        rw [List.append_nil] at split
        rw [split]
        exact drawn.later event
  · have resting : ∀ ahead resources, state.passes thread ≠ .visiting ahead resources :=
      fun ahead resources visiting => walking ⟨ahead, resources, visiting⟩
    unfold Walked
    rcases own_step_rests stepped own begins resting rfl with ⟨resources, after⟩ | after
    · rw [after]
      trivial
    · rw [after]
      trivial

theorem step_walked (sound : Sound state) (reached : run step opened during = some state)
    (walked : Walked begun opened thread during state) (stepped : step state event = some next)
    (begins : event ≠ .forEachIf thread) :
    Walked begun opened thread (during ++ [event]) next := by
  by_cases own : event.thread = some thread
  · exact step_walked_own sound reached walked stepped own begins
  · have same := other_thread_pass stepped own
    unfold Walked at walked ⊢
    rw [same]
    cases pass : state.passes thread with
    | idle => trivial
    | releasing resources => trivial
    | posting resources =>
        rw [pass] at walked
        exact walked.later event
    | visiting ahead resources =>
        rw [pass] at walked
        obtain ⟨listed, past, split, drawn⟩ := walked
        have held := (sound.guarded thread ahead resources pass).1
        have unchanged := guarded_surfaces stepped (by simp [held])
        exact ⟨unchanged.trans listed, past, split, drawn.later event⟩

/-- What a pass shows when it posts: the surfaces of the stack as it was when the pass took
the lock, from the newest to the oldest, without those it found hidden. A surface that is
shown was visible at some moment of the walk, and one that is left out was hidden at some
moment of it; a surface that stayed as it was is shown exactly if it was visible. -/
theorem pass_shows_visible_surfaces (before during : List (Event displays id))
    (begun opened state : Stage displays id) (thread : Fin displays) (resources : List Region)
    (reached : run step started before = some begun)
    (begins : step begun (.forEachIf thread) = some opened)
    (ran : run step opened during = some state) (once : .forEachIf thread ∉ during)
    (posting : state.passes thread = .posting resources) :
    (keysOf resources).Sublist begun.surfaces.reverse ∧
      (∀ key ∈ keysOf resources, SeenDuring opened during thread key false) ∧
      ∀ key ∈ begun.surfaces, key ∉ keysOf resources →
        SeenDuring opened during thread key true := by
  have openedSound : Sound opened := step_sound (run_projected reached).sound begins
  have walked : Walked begun opened thread during state := by
    have both : Sound state ∧ (.forEachIf thread ∉ during →
        Walked begun opened thread during state) := by
      apply run_reached_invariant
        (fun history last => Sound last ∧ (.forEachIf thread ∉ history →
          Walked begun opened thread history last)) _ _ ran
      · refine ⟨openedSound, fun _ => ?_⟩
        cases step_cases begins with
        | forEachIf idle free =>
            simp only [Walked, putPass, Function.update_self]
            exact ⟨trivial, [], rfl, List.Sublist.refl [], by simp [keysOf], by simp⟩
      · rintro history last event after arrived ⟨sound, holds⟩ stepped
        refine ⟨step_sound sound stepped, fun absent => ?_⟩
        rw [List.mem_append, not_or, List.mem_singleton] at absent
        exact step_walked sound arrived (holds absent.1) stepped (Ne.symm absent.2)
    exact both.2 once
  unfold Walked at walked
  rw [posting] at walked
  refine ⟨walked.order, walked.shown, ?_⟩
  intro key listed missing
  exact walked.leftOut key (List.mem_reverse.mpr listed) missing

/-- A pass over two surfaces of which the older one is hidden. -/
theorem hidden_surface_left_out :
    ∃ begun opened state, run step started
        [.createSurface doubleBuffered, .createSurface doubleBuffered, .setHidden 0 true] =
          some begun ∧
      step begun (.forEachIf screen) = some opened ∧
      run step opened [.render screen 1 ⟨2⟩, .skip screen 0, .visited screen] = some state ∧
      SeenDuring opened [.render screen 1 ⟨2⟩, .skip screen 0, .visited screen] screen 0 true := by
  obtain ⟨begun, opened, state, reached, begins, ran, posting, listed⟩ :
      ∃ begun opened state, run step started
        [.createSurface doubleBuffered, .createSurface doubleBuffered, .setHidden 0 true] =
          some begun ∧
      step begun (.forEachIf screen) = some opened ∧
      run step opened [.render screen 1 ⟨2⟩, .skip screen 0, .visited screen] = some state ∧
      state.passes screen = .posting [⟨1, ⟨2⟩⟩] ∧ begun.surfaces = [0, 1] :=
    ⟨_, _, _, rfl, rfl, rfl, rfl, rfl⟩
  refine ⟨begun, opened, state, reached, begins, ran, ?_⟩
  apply (pass_shows_visible_surfaces _ _ begun opened state screen [⟨1, ⟨2⟩⟩] reached begins ran
    (by simp) posting).2.2 0
  · simp [listed]
  · decide

end Drawing

end Mir.StageDrawing
