import Mir.SurfaceOwnership

/-!
# The surface that has the input focus

`set_input_focus_to` is called while `set_focus_to` goes through the open sessions.
Nothing is called when a surface is destroyed, nor when no session is left.
-/

namespace Mir.InputFocus

open Mir.TransitionRuns Mir.ShellSessions Mir.DesktopSurfaces Mir.SurfaceOwnership
open Mir.SessionFocus hiding perform givenOpen step

set_option autoImplicit false

structure Current (desktop : Desktop) : Prop where
  owned : ∀ object, desktop.handed = some object →
    ∃ session, desktop.manager.shell.focusApplication = some session ∧ Owns desktop session object
  idle : desktop.manager.shell.apps = [] → desktop.handed = none

/-- The operation ends the surface that has the input focus, and sets no focus. -/
def LosesFocus (desktop : Desktop) : Operation → Prop
  | .destroySurface session key => Present desktop.manager.shell session key ∧
      desktop.handed = some (desktop.surfaceOf session key)
  | .closeSession session =>
      desktop.manager.shell.apps = [session] ∧ desktop.handed ≠ none
  | _ => False

section Handed

variable {build : InputBuild} {desktop : Desktop} {manager : SessionManager}
  {operation : Operation}

theorem handle_handed (desktop : Desktop) (operation : Operation) :
    (handle desktop operation).handed = desktop.handed := by
  cases operation <;> rfl

theorem performed_unfocused (silent : focuses desktop.manager operation = false) :
    (performed build desktop manager operation).handed = desktop.handed := by
  simp only [performed, silent, Bool.false_eq_true, if_false]
  exact handle_handed desktop operation

theorem performed_idle (idle : manager.shell.focusApplication = none) :
    (performed build desktop manager operation).handed = desktop.handed := by
  have same : refocus build (handled desktop manager operation) =
      handled desktop manager operation := by
    unfold refocus
    rw [show (handled desktop manager operation).manager.shell.focusApplication = none from idle]
  simp only [performed, same, ite_self]
  exact handle_handed desktop operation

theorem performed_focused {session : SessionKey}
    (sets : focuses desktop.manager operation = true)
    (focus : manager.shell.focusApplication = some session)
    (listed : session ∈ manager.shell.apps) :
    (performed build desktop manager operation).handed =
      defaultSurface (handled desktop manager operation) session := by
  have focused : (handled desktop manager operation).manager.shell.focusApplication =
      some session := focus
  have member : session ∈ (handled desktop manager operation).manager.shell.apps := listed
  simp only [performed, sets, if_true, release, refocus, focused, if_pos member]

theorem performed_focus_current {session : SessionKey}
    (stocked : Stocked (handled desktop manager operation))
    (sets : focuses desktop.manager operation = true)
    (focus : manager.shell.focusApplication = some session)
    (listed : session ∈ manager.shell.apps) :
    Current (performed build desktop manager operation) := by
  have handed : (performed build desktop manager operation).handed = _ :=
    performed_focused sets focus listed
  constructor
  · intro object taken
    rw [handed, default_surface_some stocked] at taken
    refine ⟨session, ?_, (performed_owns manager session object).mpr taken.1⟩
    rw [performed_manager]
    exact focus
  · rw [performed_manager]
    intro empty
    rw [empty] at listed
    cases listed

end Handed

section Steps

variable {build : InputBuild} {history : List Operation} {desktop next : Desktop}
  {manager : SessionManager} {operation : Operation}

/-- Without a session left, the focus was lost before or the last session is closed now. -/
theorem idle_handed (current : Current desktop)
    (performed : SessionFocus.perform desktop.manager operation = .ok manager)
    (empty : manager.shell.apps = []) (kept : ¬LosesFocus desktop operation) :
    desktop.handed = none := by
  have others : opens operation = 0 → closedSession operation = none → desktop.handed = none := by
    intro unopened unclosed
    apply current.idle
    rw [← (perform_keeps_sessions unopened unclosed performed).1, empty]
  cases operation with
  | openSession =>
      cases performed
      simp [SessionFocus.openSession, ShellSessions.openSession, setFocusTo] at empty
  | closeSession session =>
      rcases close_session_cases desktop.manager session with ⟨member, closed⟩ | ⟨-, failed⟩
      · cases closed.symm.trans performed
        by_contra handed
        apply kept
        rcases List.erase_eq_nil_iff.mp empty with none_open | last
        · rw [none_open] at member
          cases member
        · exact ⟨last, handed⟩
      · cases failed.symm.trans performed
  | createSurfaceFor session created => exact others rfl rfl
  | tagSessionWithLightdmId session id => exact others rfl rfl
  | focusSessionWithLightdmId id => exact others rfl rfl
  | focusNext => exact others rfl rfl
  | destroySurface session key => exact others rfl rfl

theorem unfocused_current (stocked : Stocked desktop) (current : Current desktop)
    (performed : SessionFocus.perform desktop.manager operation = .ok manager)
    (silent : focuses desktop.manager operation = false) (kept : ¬LosesFocus desktop operation) :
    Current (DesktopSurfaces.performed build desktop manager operation) := by
  have same : manager.shell = desktop.manager.shell →
      (handle desktop operation).surfaceOf = desktop.surfaceOf →
      Current (DesktopSurfaces.performed build desktop manager operation) := by
    intro sameShell sameSurfaces
    constructor
    · intro object handed
      rw [performed_unfocused silent] at handed
      obtain ⟨session, focus, key, found, stands⟩ := current.owned object handed
      refine ⟨session, ?_, (performed_owns manager session object).mpr ⟨key, ?_, ?_⟩⟩
      · rw [performed_manager, sameShell]
        exact focus
      · exact sameShell ▸ found
      · exact (congrFun (congrFun sameSurfaces session) key).trans stands
    · rw [performed_manager, performed_unfocused silent, sameShell]
      exact current.idle
  cases operation with
  | openSession => cases silent
  | closeSession session => cases silent
  | createSurfaceFor session created => cases silent
  | focusNext => cases silent
  | tagSessionWithLightdmId session id =>
      cases performed
      exact same rfl rfl
  | focusSessionWithLightdmId id =>
      cases performed
      apply same _ rfl
      have unmatched : (desktop.manager.tags.find? fun tag => tag.1 = id) = none := by
        simpa [focuses] using silent
      simp only [SessionFocus.focusSessionWithLightdmId, unmatched]
  | destroySurface session key =>
      obtain ⟨found, shell⟩ := destroyed_some performed
      constructor
      · intro object handed
        rw [performed_unfocused silent] at handed
        obtain ⟨owner, focus, owns⟩ := current.owned object handed
        refine ⟨owner, ?_, ?_⟩
        · rw [performed_manager, shell]
          exact focus
        · rw [performed_owns, destroyed_owns stocked performed]
          refine ⟨owns, ?_⟩
          rintro rfl
          exact kept ⟨found, handed⟩
      · rw [performed_manager, performed_unfocused silent, shell]
        exact current.idle

theorem step_current (steady : Steady history desktop)
    (after : Steady (history ++ [operation]) next)
    (current : Current desktop) (given : givenOpen desktop operation = true)
    (stepped : step build desktop operation = some next) (kept : ¬LosesFocus desktop operation) :
    Current next := by
  rcases step_cases stepped with ⟨manager, performed, rfl⟩ | ⟨-, rfl⟩
  · have stocked := handled_stocked steady.sound.stocked steady.sound.lasting given performed
    have arranged := after.kept.arranged
    rw [performed_manager] at arranged
    cases sets : focuses desktop.manager operation with
    | false => exact unfocused_current steady.sound.stocked current performed sets kept
    | true =>
        cases focus : manager.shell.focusApplication with
        | some session =>
            exact performed_focus_current stocked sets focus (arranged.opened session focus)
        | none =>
            have empty := arranged.empty.mp focus
            have handed :
                (DesktopSurfaces.performed build desktop manager operation).handed = none :=
              (performed_idle focus).trans (idle_handed current performed empty kept)
            refine ⟨?_, fun _ => handed⟩
            intro object taken
            rw [handed] at taken
            cases taken
  · exact current

theorem step_loses (steady : Steady history desktop)
    (after : Steady (history ++ [operation]) next)
    (stepped : step build desktop operation = some next) (loses : LosesFocus desktop operation) :
    ¬Current next := by
  intro current
  cases operation with
  | destroySurface session key =>
      obtain ⟨found, handed⟩ := loses
      rcases step_cases stepped with ⟨manager, performed, rfl⟩ | ⟨⟨thrown, failed⟩, -⟩
      · obtain ⟨owner, -, owns⟩ :=
          current.owned _ ((performed_unfocused rfl).trans handed)
        rw [performed_owns, destroyed_owns steady.sound.stocked performed] at owns
        exact owns.2 rfl
      · unfold Present at found
        simp only [SessionFocus.perform, SessionFocus.destroySurface, if_pos found] at failed
        cases failed
  | closeSession session =>
      obtain ⟨last, handed⟩ := loses
      rcases close_session_cases desktop.manager session with ⟨-, closed⟩ | ⟨absent, -⟩
      · rcases step_cases stepped with ⟨manager, performed, rfl⟩ | ⟨⟨thrown, failed⟩, -⟩
        · have empty : manager.shell.apps = [] := by
            cases closed.symm.trans performed
            simp [setFocusTo, last]
          have arranged := after.kept.arranged
          rw [performed_manager] at arranged
          have idle := current.idle
          rw [performed_manager, performed_idle (arranged.empty.mpr empty)] at idle
          exact handed (idle empty)
        · cases closed.symm.trans failed
      · exact absent (by simp [last])
  | openSession => exact loses
  | createSurfaceFor session created => exact loses
  | tagSessionWithLightdmId session id => exact loses
  | focusSessionWithLightdmId id => exact loses
  | focusNext => exact loses

end Steps

/-- The input focus is right as long as the surface that has it is not destroyed and the
last session is not closed while a surface has it. -/
theorem input_focus_current_iff (build : InputBuild) (operations : List Operation) :
    Always (restrict givenOpen (step build)) started Current operations ↔
      Never (restrict givenOpen (step build)) started LosesFocus operations := by
  have extended : ∀ {history desktop operation next},
      run (restrict givenOpen (step build)) started history = some desktop →
      restrict givenOpen (step build) desktop operation = some next →
      Steady (history ++ [operation]) next := by
    intro history desktop operation next ran stepped
    apply run_steady
    rw [run_snoc, ran]
    exact stepped
  apply always_iff_never Current
  · exact ⟨by simp [started], fun _ => rfl⟩
  · exact fun _ current => current
  · intro history desktop operation next ran current stepped kept
    obtain ⟨given, moved⟩ := restrict_some.mp stepped
    exact step_current (run_steady ran) (extended ran stepped) current given moved kept
  · intro history desktop operation next ran _ stepped loses
    obtain ⟨-, moved⟩ := restrict_some.mp stepped
    exact step_loses (run_steady ran) (extended ran stepped) moved loses

/-- The surface that has the input focus is destroyed; later the last session is closed. -/
def abandonedFocus : List Operation :=
  [.openSession, .createSurfaceFor 0 (.ok [⟨1⟩, ⟨2⟩]), .destroySurface 0 0, .closeSession 0]

theorem destroyed_surface_keeps_focus :
    ∃ destroyed closed,
      run (restrict givenOpen (step .android)) started (abandonedFocus.take 3) = some destroyed ∧
      destroyed.handed = some 0 ∧ destroyed.stack = [] ∧
      run (restrict givenOpen (step .android)) started abandonedFocus = some closed ∧
      closed.handed = some 0 ∧ closed.manager.shell.apps = [] ∧
      ¬Always (restrict givenOpen (step .android)) started Current abandonedFocus := by
  obtain ⟨destroyed, closed, ran, handed, empty, finished, stale, idle⟩ : ∃ destroyed closed,
      run (restrict givenOpen (step .android)) started (abandonedFocus.take 3) = some destroyed ∧
      destroyed.handed = some 0 ∧ destroyed.stack = [] ∧
      run (restrict givenOpen (step .android)) started abandonedFocus = some closed ∧
      closed.handed = some 0 ∧ closed.manager.shell.apps = [] :=
    ⟨_, _, rfl, rfl, rfl, rfl, rfl, rfl⟩
  refine ⟨destroyed, closed, ran, handed, empty, finished, stale, idle, ?_⟩
  intro always
  have current := always abandonedFocus [] closed (List.append_nil _).symm finished
  rw [current.idle idle] at stale
  cases stale

end Mir.InputFocus
