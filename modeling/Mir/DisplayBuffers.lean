import Mathlib.Data.List.Basic
import Mathlib.Logic.Function.Basic
import Mir.TransitionRuns

/-!
# Buffers on the screen

`GBMDisplayBuffer::post_update` for any number of outputs, one call of the libraries
at a time, with the moments at which the hardware flips in between. A buffer object is
locked from `gbm_surface_lock_front_buffer` to `gbm_surface_release_buffer`, and the
surface never hands out a locked one as the new front buffer.
-/

namespace Mir.DisplayBuffers

open Mir.TransitionRuns

set_option autoImplicit false

abbrev BufferObject := Nat

/-- What an output shows, and the flip that it has been asked for. -/
structure Output where
  shown : BufferObject
  pending : Option BufferObject
  deriving DecidableEq, Repr

/-- Where the thread is in `post_update`. The results are those of `schedule_page_flip` so
far, for the outputs in their order. -/
inductive Phase where
  | idle
  | swapped
  | locked (bo : BufferObject)
  | scheduling (bufobj : BufferObject) (results : List Bool)
  | waiting (bufobj : BufferObject) (results : List Bool) (waited : Nat)
  deriving DecidableEq, Repr

/-- `framebuffers` are the buffer objects that have a `BufferObject` as user data. -/
structure DisplayBuffer (count : Nat) where
  outputs : Fin count → Output
  lastFlippedBufobj : Option BufferObject
  lockedBuffers : List BufferObject
  framebuffers : List BufferObject
  phase : Phase

inductive Event (count : Nat) where
  | swapBuffers (success : Bool)
  | lockFrontBuffer (front : Option BufferObject)
  | addFB (success : Bool)
  | schedulePageFlip (success : Bool)
  | countPageFlips
  | flip (output : Fin count)
  | waitForPageFlip
  | releaseLastFlipped
  deriving DecidableEq, Repr

variable {count : Nat}

/-- The state after the constructor has set all outputs to the first buffer. -/
def constructed (count : Nat) (first : BufferObject) : DisplayBuffer count where
  outputs := fun _ => ⟨first, none⟩
  lastFlippedBufobj := some first
  lockedBuffers := [first]
  framebuffers := [first]
  phase := .idle

def release (display : DisplayBuffer count) (bo : BufferObject) : DisplayBuffer count :=
  { display with lockedBuffers := display.lockedBuffers.erase bo }

def schedulePageFlip (display : DisplayBuffer count) (output : Fin count)
    (bufobj : BufferObject) (success : Bool) : Fin count → Output :=
  if success then
    Function.update display.outputs output
      { display.outputs output with pending := some bufobj }
  else display.outputs

def step (display : DisplayBuffer count) : Event count → Option (DisplayBuffer count)
  | .swapBuffers success => match display.phase with
      | .idle => some { display with phase := if success then .swapped else .idle }
      | _ => none
  | .lockFrontBuffer front => match display.phase, front with
      | .swapped, none => some { display with phase := .idle }
      | .swapped, some bo =>
          if bo ∈ display.lockedBuffers then none
          else some { display with
            lockedBuffers := bo :: display.lockedBuffers
            phase := if bo ∈ display.framebuffers then .scheduling bo [] else .locked bo }
      | _, _ => none
  | .addFB success => match display.phase with
      | .locked bo =>
          if success then
            some { display with
              framebuffers := bo :: display.framebuffers
              phase := .scheduling bo [] }
          else some { release display bo with phase := .idle }
      | _ => none
  | .schedulePageFlip success => match display.phase with
      | .scheduling bufobj results =>
          if more : results.length < count then
            some { display with
              outputs := schedulePageFlip display ⟨results.length, more⟩ bufobj success
              phase := .scheduling bufobj (results ++ [success]) }
          else none
      | _ => none
  | .countPageFlips => match display.phase with
      | .scheduling bufobj results =>
          if results.length < count then none
          else if true ∈ results then
            some { display with phase := .waiting bufobj results 0 }
          else some { release display bufobj with phase := .idle }
      | _ => none
  | .flip output => match (display.outputs output).pending with
      | some bo => some { display with
          outputs := Function.update display.outputs output ⟨bo, none⟩ }
      | none => none
  | .waitForPageFlip => match display.phase with
      | .waiting bufobj results waited =>
          if more : waited < count then
            if (display.outputs ⟨waited, more⟩).pending = none then
              some { display with phase := .waiting bufobj results (waited + 1) }
            else none
          else none
      | _ => none
  | .releaseLastFlipped => match display.phase with
      | .waiting bufobj _ waited =>
          if waited < count then none
          else
            let released := match display.lastFlippedBufobj with
              | some last => release display last
              | none => display
            some { released with
              lastFlippedBufobj := some bufobj
              phase := .idle }
      | _ => none

section Steps

inductive Steps (display : DisplayBuffer count) : Event count → DisplayBuffer count → Prop where
  | swapBuffers (success : Bool) (idle : display.phase = .idle) :
      Steps display (.swapBuffers success)
        { display with phase := if success then .swapped else .idle }
  | noFrontBuffer (swapped : display.phase = .swapped) :
      Steps display (.lockFrontBuffer none) { display with phase := .idle }
  | lockFrontBuffer (bo : BufferObject) (swapped : display.phase = .swapped)
      (unlocked : bo ∉ display.lockedBuffers) :
      Steps display (.lockFrontBuffer (some bo))
        { display with
          lockedBuffers := bo :: display.lockedBuffers
          phase := if bo ∈ display.framebuffers then .scheduling bo [] else .locked bo }
  | addFB (bo : BufferObject) (locked : display.phase = .locked bo) :
      Steps display (.addFB true)
        { display with framebuffers := bo :: display.framebuffers, phase := .scheduling bo [] }
  | addFBFails (bo : BufferObject) (locked : display.phase = .locked bo) :
      Steps display (.addFB false) { release display bo with phase := .idle }
  | schedulePageFlip (success : Bool) (bufobj : BufferObject) (results : List Bool)
      (phase : display.phase = .scheduling bufobj results) (more : results.length < count) :
      Steps display (.schedulePageFlip success)
        { display with
          outputs := schedulePageFlip display ⟨results.length, more⟩ bufobj success
          phase := .scheduling bufobj (results ++ [success]) }
  | countPageFlips (bufobj : BufferObject) (results : List Bool)
      (phase : display.phase = .scheduling bufobj results) (all : count ≤ results.length)
      (scheduled : true ∈ results) :
      Steps display .countPageFlips { display with phase := .waiting bufobj results 0 }
  | noPageFlips (bufobj : BufferObject) (results : List Bool)
      (phase : display.phase = .scheduling bufobj results) (unscheduled : true ∉ results) :
      Steps display .countPageFlips { release display bufobj with phase := .idle }
  | flip (output : Fin count) (bo : BufferObject)
      (pending : (display.outputs output).pending = some bo) :
      Steps display (.flip output)
        { display with outputs := Function.update display.outputs output ⟨bo, none⟩ }
  | waitForPageFlip (bufobj : BufferObject) (results : List Bool) (waited : Nat)
      (phase : display.phase = .waiting bufobj results waited) (more : waited < count)
      (settled : (display.outputs ⟨waited, more⟩).pending = none) :
      Steps display .waitForPageFlip
        { display with phase := .waiting bufobj results (waited + 1) }
  | releaseLastFlipped (bufobj : BufferObject) (results : List Bool) (waited : Nat)
      (phase : display.phase = .waiting bufobj results waited) (done : count ≤ waited) :
      Steps display .releaseLastFlipped
        { (match display.lastFlippedBufobj with
            | some last => release display last
            | none => display) with
          lastFlippedBufobj := some bufobj
          phase := .idle }

theorem step_cases {display next : DisplayBuffer count} {event : Event count}
    (stepped : step display event = some next) : Steps display event next := by
  cases event with
  | swapBuffers success =>
      simp only [step] at stepped
      split at stepped
      · next idle =>
          cases stepped
          exact .swapBuffers success idle
      · cases stepped
  | lockFrontBuffer front =>
      simp only [step] at stepped
      split at stepped
      · next swapped =>
          cases stepped
          exact .noFrontBuffer swapped
      · next bo swapped =>
          split at stepped
          · cases stepped
          · next unlocked =>
              cases stepped
              exact .lockFrontBuffer bo swapped unlocked
      · cases stepped
  | addFB success =>
      simp only [step] at stepped
      split at stepped
      · next bo locked =>
          cases success with
          | true =>
              cases stepped
              exact .addFB bo locked
          | false =>
              cases stepped
              exact .addFBFails bo locked
      · cases stepped
  | schedulePageFlip success =>
      simp only [step] at stepped
      split at stepped
      · next bufobj results phase =>
          split_ifs at stepped with more
          cases stepped
          exact .schedulePageFlip success bufobj results phase more
      · cases stepped
  | countPageFlips =>
      simp only [step] at stepped
      split at stepped
      · next bufobj results phase =>
          split_ifs at stepped with more scheduled
          · cases stepped
            exact .countPageFlips bufobj results phase (Nat.le_of_not_lt more) scheduled
          · cases stepped
            exact .noPageFlips bufobj results phase scheduled
      · cases stepped
  | flip output =>
      simp only [step] at stepped
      split at stepped
      · next bo pending =>
          cases stepped
          exact .flip output bo pending
      · cases stepped
  | waitForPageFlip =>
      simp only [step] at stepped
      split at stepped
      · next bufobj results waited phase =>
          split_ifs at stepped with more settled
          cases stepped
          exact .waitForPageFlip bufobj results waited phase more settled
      · cases stepped
  | releaseLastFlipped =>
      simp only [step] at stepped
      split at stepped
      · next bufobj results waited phase =>
          split_ifs at stepped with more
          cases stepped
          exact .releaseLastFlipped bufobj results waited phase (Nat.le_of_not_lt more)
      · cases stepped

end Steps

/-- Every buffer that is on the screen is locked. -/
def ShownLocked (display : DisplayBuffer count) : Prop :=
  ∀ output, (display.outputs output).shown ∈ display.lockedBuffers

def AllScheduled (display : DisplayBuffer count) : Prop :=
  match display.phase with
  | .waiting _ results _ => false ∉ results
  | _ => True

section Sound

def Phase.front : Phase → Option BufferObject
  | .idle | .swapped => none
  | .locked bo => some bo
  | .scheduling bufobj _ => some bufobj
  | .waiting bufobj _ _ => some bufobj

def Phase.results : Phase → List Bool
  | .idle | .swapped | .locked _ => []
  | .scheduling _ results => results
  | .waiting _ results _ => results

/-- An output whose flip has been scheduled shows the old buffer until it shows the new
one, and any other shows the old one. -/
def Follows (last : BufferObject) (front : Option BufferObject) (output : Output) :
    Option Bool → Prop
  | some true => ∃ bufobj, front = some bufobj ∧
      (output = ⟨last, some bufobj⟩ ∨ output = ⟨bufobj, none⟩)
  | _ => output = ⟨last, none⟩

/-- All outputs showed the buffer `last` when this update began. -/
structure Sound (last : BufferObject) (display : DisplayBuffer count) : Prop where
  flipped : display.lastFlippedBufobj = some last
  locks : display.lockedBuffers = display.phase.front.toList ++ [last]
  different : ∀ bo, display.phase.front = some bo → bo ≠ last
  follows : ∀ output : Fin count, Follows last display.phase.front (display.outputs output)
    display.phase.results[output.val]?
  bounded : display.phase.results.length ≤ count
  scheduled : ∀ bufobj results waited, display.phase = .waiting bufobj results waited →
    count ≤ results.length
  waited : ∀ bufobj results waited, display.phase = .waiting bufobj results waited →
    ∀ output : Fin count, output.val < waited → (display.outputs output).pending = none

theorem constructed_sound (count : Nat) (first : BufferObject) :
    Sound first (constructed count first) where
  flipped := rfl
  locks := rfl
  different := by simp [constructed, Phase.front]
  follows := by simp [constructed, Phase.results, Follows]
  bounded := Nat.zero_le _
  scheduled := by simp [constructed]
  waited := by simp [constructed]

theorem follows_shown {last : BufferObject} {front : Option BufferObject} {output : Output}
    {result : Option Bool} (follows : Follows last front output result) :
    output.shown ∈ front.toList ++ [last] := by
  rcases result with _ | _ | _
  · simp [show output = ⟨last, none⟩ from follows]
  · simp [show output = ⟨last, none⟩ from follows]
  · obtain ⟨bufobj, rfl, rfl | rfl⟩ := follows
    · simp
    · simp

theorem sound_shown_locked {last : BufferObject} {display : DisplayBuffer count}
    (sound : Sound last display) : ShownLocked display := by
  intro output
  rw [sound.locks]
  exact follows_shown (sound.follows output)

variable {display next : DisplayBuffer count} {last : BufferObject}

theorem sound_between (flipped : display.lastFlippedBufobj = some last)
    (between : display.phase = .idle ∨ display.phase = .swapped)
    (locks : display.lockedBuffers = [last])
    (shown : ∀ output, display.outputs output = ⟨last, none⟩) :
    Sound last display := by
  constructor
  · exact flipped
  · rcases between with same | same <;> simp [same, Phase.front, locks]
  · rcases between with same | same <;> simp [same, Phase.front]
  · rcases between with same | same <;> simp [same, Phase.results, Follows, shown]
  · rcases between with same | same <;> simp [same, Phase.results]
  · rcases between with same | same <;> simp [same]
  · rcases between with same | same <;> simp [same]

theorem sound_unscheduled (sound : Sound last display) (nothing : true ∉ display.phase.results)
    (output : Fin count) : display.outputs output = ⟨last, none⟩ := by
  have follows := sound.follows output
  cases result : display.phase.results[output.val]? with
  | none =>
      rw [result] at follows
      exact follows
  | some success =>
      rw [result] at follows
      cases success with
      | false => exact follows
      | true => exact absurd (List.mem_of_getElem? result) nothing

theorem sound_flipped (sound : Sound last display) {bufobj : BufferObject} {results : List Bool}
    {waited : Nat} (phase : display.phase = .waiting bufobj results waited)
    (done : count ≤ waited) (output : Fin count) :
    results[output.val]? = some true ∧ display.outputs output = ⟨bufobj, none⟩ ∨
      results[output.val]? = some false ∧ display.outputs output = ⟨last, none⟩ := by
  have follows := sound.follows output
  have settled := sound.waited bufobj results waited phase output (by omega)
  have long := sound.scheduled bufobj results waited phase
  rw [phase] at follows
  change Follows last (some bufobj) (display.outputs output) results[output.val]? at follows
  rcases result : results[output.val]? with _ | _ | _
  · rw [List.getElem?_eq_none_iff] at result
    omega
  · rw [result] at follows
    exact .inr ⟨rfl, follows⟩
  · rw [result] at follows
    obtain ⟨front, same, old | new⟩ := follows
    · rw [old] at settled
      cases settled
    · cases same
      exact .inl ⟨rfl, new⟩

theorem sound_lock (sound : Sound last display) (swapped : display.phase = .swapped)
    {bo : BufferObject} (unlocked : bo ∉ display.lockedBuffers) {phase : Phase}
    (locked : phase = .locked bo ∨ phase = .scheduling bo []) :
    Sound last { display with lockedBuffers := bo :: display.lockedBuffers, phase := phase } := by
  have shown := sound_unscheduled sound (by simp [swapped, Phase.results])
  have locks := sound.locks
  rw [swapped] at locks
  rw [locks] at unlocked
  have different : bo ≠ last := by simpa [Phase.front] using unlocked
  constructor
  · exact sound.flipped
  · rcases locked with rfl | rfl <;> simp [Phase.front, locks]
  · rcases locked with rfl | rfl <;> simpa [Phase.front] using different
  · rcases locked with rfl | rfl <;> simp [Phase.results, Follows, shown]
  · rcases locked with rfl | rfl <;> exact Nat.zero_le _
  · rcases locked with rfl | rfl <;> simp
  · rcases locked with rfl | rfl <;> simp

theorem schedule_page_flip_self (display : DisplayBuffer count) (output : Fin count)
    (bufobj : BufferObject) (success : Bool) :
    schedulePageFlip display output bufobj success output =
      if success then { display.outputs output with pending := some bufobj }
      else display.outputs output := by
  cases success <;> simp [schedulePageFlip]

theorem schedule_page_flip_other (display : DisplayBuffer count) {output other : Fin count}
    (different : other ≠ output) (bufobj : BufferObject) (success : Bool) :
    schedulePageFlip display output bufobj success other = display.outputs other := by
  cases success <;> simp [schedulePageFlip, Function.update_of_ne different]

theorem sound_schedule (sound : Sound last display) {bufobj : BufferObject} {results : List Bool}
    (phase : display.phase = .scheduling bufobj results) (more : results.length < count)
    (success : Bool) :
    Sound last { display with
      outputs := schedulePageFlip display ⟨results.length, more⟩ bufobj success
      phase := .scheduling bufobj (results ++ [success]) } := by
  have locks := sound.locks
  have different := sound.different
  have follows := sound.follows
  rw [phase] at locks different follows
  constructor
  · exact sound.flipped
  · exact locks
  · exact different
  · intro output
    change Follows last (some bufobj)
      (schedulePageFlip display ⟨results.length, more⟩ bufobj success output)
      (results ++ [success])[output.val]?
    have before : Follows last (some bufobj) (display.outputs output) results[output.val]? :=
      follows output
    by_cases this : output = ⟨results.length, more⟩
    · subst this
      rw [List.getElem?_eq_none (Nat.le_refl _)] at before
      have old : display.outputs ⟨results.length, more⟩ = ⟨last, none⟩ := before
      rw [List.getElem?_concat_length, schedule_page_flip_self, old]
      cases success with
      | false => rfl
      | true => exact ⟨bufobj, rfl, .inl rfl⟩
    · have apart : output.val ≠ results.length := fun same => this (Fin.ext same)
      rw [schedule_page_flip_other display this]
      rcases Nat.lt_or_gt_of_ne apart with early | late
      · rw [List.getElem?_append_left early]
        exact before
      · rw [List.getElem?_eq_none (by rw [List.length_append, List.length_singleton]; omega)]
        rw [List.getElem?_eq_none (by omega)] at before
        exact before
  · simp only [Phase.results, List.length_append, List.length_singleton]
    omega
  · simp
  · simp

theorem sound_flip (sound : Sound last display) {output : Fin count} {bo : BufferObject}
    (pending : (display.outputs output).pending = some bo) :
    Sound last { display with
      outputs := Function.update display.outputs output ⟨bo, none⟩ } := by
  constructor
  · exact sound.flipped
  · exact sound.locks
  · exact sound.different
  · intro other
    by_cases same : other = output
    · subst same
      have follows := sound.follows other
      simp only [Function.update_self]
      rcases result : display.phase.results[other.val]? with _ | _ | _
      · rw [result] at follows
        simp [show display.outputs other = ⟨last, none⟩ from follows] at pending
      · rw [result] at follows
        simp [show display.outputs other = ⟨last, none⟩ from follows] at pending
      · rw [result] at follows
        obtain ⟨bufobj, front, old | new⟩ := follows
        · rw [old] at pending
          cases pending
          exact ⟨bo, front, .inr rfl⟩
        · rw [new] at pending
          cases pending
    · simp only [Function.update_of_ne same]
      exact sound.follows other
  · exact sound.bounded
  · exact sound.scheduled
  · intro bufobj results waited phase other early
    by_cases same : other = output
    · simp [same]
    · simp only [Function.update_of_ne same]
      exact sound.waited bufobj results waited phase other early

theorem sound_wait (sound : Sound last display) {bufobj : BufferObject} {results : List Bool}
    {waited : Nat} (phase : display.phase = .waiting bufobj results waited)
    (more : waited < count) (settled : (display.outputs ⟨waited, more⟩).pending = none) :
    Sound last { display with phase := .waiting bufobj results (waited + 1) } := by
  have locks := sound.locks
  have different := sound.different
  have follows := sound.follows
  have bounded := sound.bounded
  rw [phase] at locks different follows bounded
  constructor
  · exact sound.flipped
  · exact locks
  · exact different
  · exact follows
  · exact bounded
  · rintro _ _ _ ⟨⟩
    exact sound.scheduled bufobj results waited phase
  · rintro _ _ _ ⟨⟩ output early
    by_cases now : output = ⟨waited, more⟩
    · exact now ▸ settled
    · have apart : output.val ≠ waited := fun same => now (Fin.ext same)
      exact sound.waited bufobj results waited phase output (by omega)

theorem sound_give_back (sound : Sound last display) {bufobj : BufferObject}
    (front : display.phase.front = some bufobj) (nothing : true ∉ display.phase.results) :
    Sound last { release display bufobj with phase := .idle } := by
  have shown := sound_unscheduled sound nothing
  have locks : (release display bufobj).lockedBuffers = [last] := by
    simp [release, sound.locks, front]
  exact sound_between sound.flipped (.inl rfl) locks shown

theorem release_locks (sound : Sound last display) {bufobj : BufferObject} {results : List Bool}
    {waited : Nat} (phase : display.phase = .waiting bufobj results waited) :
    (release display last).lockedBuffers = [bufobj] := by
  have different : bufobj ≠ last := sound.different bufobj (by rw [phase]; rfl)
  simp [release, sound.locks, phase, Phase.front, different]

theorem sound_release (sound : Sound last display) {bufobj : BufferObject} {results : List Bool}
    {waited : Nat} (phase : display.phase = .waiting bufobj results waited)
    (done : count ≤ waited) (all : false ∉ results) :
    Sound bufobj { release display last with
      lastFlippedBufobj := some bufobj
      phase := .idle } := by
  apply sound_between
  · rfl
  · exact .inl rfl
  · exact release_locks sound phase
  · intro output
    rcases sound_flipped sound phase done output with ⟨-, shown⟩ | ⟨failed, -⟩
    · exact shown
    · exact absurd (List.mem_of_getElem? failed) all

/-- An output that refused the flip still shows the buffer that is given back. -/
theorem release_unlocks (sound : Sound last display) {bufobj : BufferObject}
    {results : List Bool} {waited : Nat}
    (phase : display.phase = .waiting bufobj results waited) (done : count ≤ waited)
    (failed : false ∈ results) :
    ¬ShownLocked { release display last with
      lastFlippedBufobj := some bufobj
      phase := .idle } := by
  intro safe
  obtain ⟨index, found⟩ := List.mem_iff_getElem?.mp failed
  have bounded := sound.bounded
  rw [phase] at bounded
  have inside : index < count := by
    have below := (List.getElem?_eq_some_iff.mp found).1
    exact Nat.lt_of_lt_of_le below bounded
  have shown := safe ⟨index, inside⟩
  rcases sound_flipped sound phase done ⟨index, inside⟩ with ⟨succeeded, -⟩ | ⟨-, old⟩
  · rw [found] at succeeded
    cases succeeded
  · change (display.outputs ⟨index, inside⟩).shown ∈ (release display last).lockedBuffers at shown
    rw [release_locks sound phase, old, List.mem_singleton] at shown
    exact sound.different bufobj (by rw [phase]; rfl) shown.symm

end Sound

section Runs

variable {display next : DisplayBuffer count} {last : BufferObject}

theorem release_last_flipped_some (sound : Sound last display)
    (stepped : step display .releaseLastFlipped = some next) :
    ∃ bufobj results waited, display.phase = .waiting bufobj results waited ∧ count ≤ waited ∧
      next = { release display last with
        lastFlippedBufobj := some bufobj
        phase := .idle } := by
  cases step_cases stepped with
  | releaseLastFlipped bufobj results waited phase done =>
      refine ⟨bufobj, results, waited, phase, done, ?_⟩
      rw [sound.flipped]

theorem step_sound {event : Event count} (sound : Sound last display)
    (unmixed : event = .releaseLastFlipped → AllScheduled display)
    (stepped : step display event = some next) : ∃ last, Sound last next := by
  have locks := sound.locks
  have different := sound.different
  have follows := sound.follows
  have bounded := sound.bounded
  cases step_cases stepped with
  | swapBuffers success idle =>
      have shown := sound_unscheduled sound (by simp [idle, Phase.results])
      rw [idle] at locks
      refine ⟨last, sound_between sound.flipped ?_ locks shown⟩
      cases success <;> simp
  | noFrontBuffer swapped =>
      have shown := sound_unscheduled sound (by simp [swapped, Phase.results])
      rw [swapped] at locks
      exact ⟨last, sound_between sound.flipped (.inl rfl) locks shown⟩
  | lockFrontBuffer bo swapped unlocked =>
      refine ⟨last, sound_lock sound swapped unlocked ?_⟩
      split_ifs
      · exact .inr rfl
      · exact .inl rfl
  | addFB bo locked =>
      have shown := sound_unscheduled sound (by simp [locked, Phase.results])
      rw [locked] at locks different
      exact ⟨last, sound.flipped, locks, different, by simp [Phase.results, Follows, shown],
        Nat.zero_le _, by simp, by simp⟩
  | addFBFails bo locked =>
      refine ⟨last, sound_give_back sound ?_ ?_⟩
      · rw [locked]
        rfl
      · simp [locked, Phase.results]
  | schedulePageFlip success bufobj results phase more =>
      exact ⟨last, sound_schedule sound phase more success⟩
  | countPageFlips bufobj results phase all scheduled =>
      rw [phase] at locks different follows bounded
      refine ⟨last, sound.flipped, locks, different, follows, bounded, ?_, ?_⟩
      · rintro _ _ _ ⟨⟩
        exact all
      · rintro _ _ _ ⟨⟩ output early
        exact absurd early (Nat.not_lt_zero _)
  | noPageFlips bufobj results phase unscheduled =>
      refine ⟨last, sound_give_back sound ?_ ?_⟩
      · rw [phase]
        rfl
      · rw [phase]
        exact unscheduled
  | flip output bo pending => exact ⟨last, sound_flip sound pending⟩
  | waitForPageFlip bufobj results waited phase more settled =>
      exact ⟨last, sound_wait sound phase more settled⟩
  | releaseLastFlipped bufobj results waited phase done =>
      have all := unmixed rfl
      rw [AllScheduled, phase] at all
      rw [sound.flipped]
      exact ⟨bufobj, sound_release sound phase done all⟩

/-- Every buffer an output shows is locked, at every moment of the run. -/
def ScannedOutLocked (first : BufferObject) (events : List (Event count)) : Prop :=
  Always step (constructed count first) ShownLocked events

/-- No `post_update` goes on after some flips have been scheduled and others refused. -/
def NoMixedFlips (first : BufferObject) (events : List (Event count)) : Prop :=
  Never step (constructed count first)
    (fun display event => event = .releaseLastFlipped ∧ ¬AllScheduled display) events

/-- The screen is safe exactly as long as no update is shown by some outputs and
refused by others. -/
theorem scanned_out_locked_iff (first : BufferObject) (events : List (Event count)) :
    ScannedOutLocked first events ↔ NoMixedFlips first events := by
  apply always_iff_never (fun display => ∃ last, Sound last display)
  · exact ⟨first, constructed_sound count first⟩
  · rintro display ⟨last, sound⟩
    exact sound_shown_locked sound
  · rintro history display event next - ⟨last, sound⟩ stepped unmixed
    apply step_sound sound _ stepped
    rintro rfl
    by_contra mixed
    exact unmixed ⟨rfl, mixed⟩
  · rintro history display _ next - ⟨last, sound⟩ stepped ⟨rfl, mixed⟩
    obtain ⟨bufobj, results, waited, phase, done, rfl⟩ := release_last_flipped_some sound stepped
    apply release_unlocks sound phase done
    rw [AllScheduled, phase] at mixed
    by_contra unfailed
    exact mixed unfailed

/-- The first output accepts the flip and the second one refuses it. -/
def refusedFlip (accepting : Fin count) : List (Event count) :=
  [.swapBuffers true, .lockFrontBuffer (some 2), .addFB true, .schedulePageFlip true,
    .schedulePageFlip false, .countPageFlips, .flip accepting, .waitForPageFlip,
    .waitForPageFlip, .releaseLastFlipped]

theorem refused_flip_unlocks :
    ∃ display, run step (constructed 2 1) (refusedFlip 0) = some display ∧
      (display.outputs 1).shown = 1 ∧ display.lockedBuffers = [2] ∧
      ¬ScannedOutLocked 1 (refusedFlip (0 : Fin 2)) := by
  obtain ⟨display, ran, shown, locks⟩ : ∃ display : DisplayBuffer 2,
      run step (constructed 2 1) (refusedFlip 0) = some display ∧
        (display.outputs 1).shown = 1 ∧ display.lockedBuffers = [2] := ⟨_, rfl, rfl, rfl⟩
  refine ⟨display, ran, shown, locks, ?_⟩
  intro safe
  have locked := safe _ [] display (List.append_nil _).symm ran 1
  rw [shown, locks] at locked
  simp at locked

end Runs

end Mir.DisplayBuffers
