import Mir.DisplayBuffers
import Mir.LockHistories

/-!
# The locks of the front buffers

The calls of `gbm_surface_lock_front_buffer` and `gbm_surface_release_buffer` and the
framebuffers that `drmModeAddFB` has added, over the whole life of a `GBMDisplayBuffer`.
-/

namespace Mir.FrontBufferLocks

open Mir.TransitionRuns Mir.DisplayBuffers Mir.LockHistories

set_option autoImplicit false

variable {count : Nat}

structure Logged (count : Nat) where
  display : DisplayBuffer count
  calls : List (LockCall BufferObject)
  addedFBs : List BufferObject

def lockCalls (display : DisplayBuffer count) : Event count → List (LockCall BufferObject)
  | .lockFrontBuffer front => (front.map LockCall.lock).toList
  | .addFB success => match display.phase with
      | .locked bo => if success then [] else [.release bo]
      | _ => []
  | .countPageFlips => match display.phase with
      | .scheduling bufobj results => if true ∈ results then [] else [.release bufobj]
      | _ => []
  | .releaseLastFlipped => (display.lastFlippedBufobj.map LockCall.release).toList
  | .swapBuffers _ | .schedulePageFlip _ | .flip _ | .waitForPageFlip => []

def addedFB (display : DisplayBuffer count) : Event count → List BufferObject
  | .addFB true => match display.phase with
      | .locked bo => [bo]
      | _ => []
  | _ => []

def step (state : Logged count) (event : Event count) : Option (Logged count) :=
  (DisplayBuffers.step state.display event).map fun next =>
    { display := next
      calls := state.calls ++ lockCalls state.display event
      addedFBs := state.addedFBs ++ addedFB state.display event }

/-- The constructor has locked the first buffer and added its framebuffer. -/
def constructed (count : Nat) (first : BufferObject) : Logged count where
  display := DisplayBuffers.constructed count first
  calls := [.lock first]
  addedFBs := [first]

def destroyed (state : Logged count) : List (LockCall BufferObject) :=
  state.calls ++ (state.display.lastFlippedBufobj.map LockCall.release).toList

/-- The buffer of the last update that returned true, and the one locked since. -/
structure Posts where
  last : BufferObject
  front : Option BufferObject

def post (posts : Posts) : Event count → Posts
  | .lockFrontBuffer front => { posts with front := front }
  | .releaseLastFlipped => ⟨posts.front.getD posts.last, none⟩
  | _ => posts

def postsOf (first : BufferObject) (events : List (Event count)) : Posts :=
  events.foldl post ⟨first, none⟩

/-- The buffer of the last `post_update` that returned true, or the initial one. -/
def lastPosted (first : BufferObject) (events : List (Event count)) : BufferObject :=
  (postsOf first events).last

section Effects

inductive Effect (display next : DisplayBuffer count) (event : Event count) :
    List (LockCall BufferObject) → List BufferObject → Prop where
  | leaves (last : ∀ posts, (post posts event).last = posts.last)
      (kept : ∀ posts, (post posts event).front = posts.front ∨ next.phase.front = none)
      (flipped : next.lastFlippedBufobj = display.lastFlippedBufobj)
      (held : next.lockedBuffers = display.lockedBuffers)
      (framed : next.framebuffers = display.framebuffers)
      (front : next.phase.front = display.phase.front)
      (locked : ∀ bo, next.phase = .locked bo → display.phase = .locked bo) :
      Effect display next event [] []
  | locks (bo : BufferObject) (locking : event = .lockFrontBuffer (some bo))
      (free : bo ∉ display.lockedBuffers) (before : display.phase.front = none)
      (flipped : next.lastFlippedBufobj = display.lastFlippedBufobj)
      (held : next.lockedBuffers = bo :: display.lockedBuffers)
      (framed : next.framebuffers = display.framebuffers)
      (after : next.phase =
        if bo ∈ display.framebuffers then .scheduling bo [] else .locked bo) :
      Effect display next event [.lock bo] []
  | frames (bo : BufferObject) (adding : event = .addFB true)
      (phase : display.phase = .locked bo)
      (flipped : next.lastFlippedBufobj = display.lastFlippedBufobj)
      (held : next.lockedBuffers = display.lockedBuffers)
      (framed : next.framebuffers = bo :: display.framebuffers)
      (after : next.phase = .scheduling bo []) :
      Effect display next event [] [bo]
  | givesBack (bo : BufferObject) (last : ∀ posts, (post posts event).last = posts.last)
      (before : display.phase.front = some bo)
      (flipped : next.lastFlippedBufobj = display.lastFlippedBufobj)
      (held : next.lockedBuffers = display.lockedBuffers.erase bo)
      (framed : next.framebuffers = display.framebuffers)
      (after : next.phase = .idle) :
      Effect display next event [.release bo] []
  | posts (last bo : BufferObject) (posting : event = .releaseLastFlipped)
      (before : display.phase.front = some bo)
      (released : display.lastFlippedBufobj = some last)
      (flipped : next.lastFlippedBufobj = some bo)
      (held : next.lockedBuffers = display.lockedBuffers.erase last)
      (framed : next.framebuffers = display.framebuffers)
      (after : next.phase = .idle) :
      Effect display next event [.release last] []

variable {display next : DisplayBuffer count} {event : Event count}

theorem moves_on {outputs : Fin count → Output} {phase : Phase}
    (last : ∀ posts, (post posts event).last = posts.last)
    (kept : ∀ posts, (post posts event).front = posts.front ∨ phase.front = none)
    (front : phase.front = display.phase.front) (unlocked : ∀ bo, phase ≠ .locked bo) :
    Effect display { display with outputs := outputs, phase := phase } event [] [] :=
  .leaves last kept rfl rfl rfl front fun bo locked => absurd locked (unlocked bo)

theorem step_effect {last : BufferObject} (flipped : display.lastFlippedBufobj = some last)
    (stepped : DisplayBuffers.step display event = some next) :
    Effect display next event (lockCalls display event) (addedFB display event) := by
  cases step_cases stepped with
  | swapBuffers success idle =>
      apply moves_on (fun _ => rfl) (fun _ => .inl rfl)
      · rw [idle]
        cases success <;> rfl
      · cases success <;> simp
  | noFrontBuffer swapped =>
      exact moves_on (fun _ => rfl) (fun _ => .inr rfl) (by rw [swapped]; rfl) (by simp)
  | lockFrontBuffer bo swapped unlocked =>
      exact .locks bo rfl unlocked (by rw [swapped]; rfl) rfl rfl rfl rfl
  | addFB bo locked =>
      simp only [lockCalls, addedFB, locked]
      exact .frames bo rfl locked rfl rfl rfl rfl
  | addFBFails bo locked =>
      simp only [lockCalls, addedFB, locked]
      exact .givesBack bo (fun _ => rfl) (by rw [locked]; rfl) rfl rfl rfl rfl
  | schedulePageFlip success bufobj results phase more =>
      exact moves_on (fun _ => rfl) (fun _ => .inl rfl) (by rw [phase]; rfl) (by simp)
  | countPageFlips bufobj results phase all scheduled =>
      simp only [lockCalls, addedFB, phase, if_pos scheduled]
      exact moves_on (fun _ => rfl) (fun _ => .inl rfl) (by rw [phase]; rfl) (by simp)
  | noPageFlips bufobj results phase unscheduled =>
      simp only [lockCalls, addedFB, phase, if_neg unscheduled]
      exact .givesBack bufobj (fun _ => rfl) (by rw [phase]; rfl) rfl rfl rfl rfl
  | flip output bo pending =>
      exact .leaves (fun _ => rfl) (fun _ => .inl rfl) rfl rfl rfl rfl (fun _ same => same)
  | waitForPageFlip bufobj results waited phase more settled =>
      exact moves_on (fun _ => rfl) (fun _ => .inl rfl) (by rw [phase]; rfl) (by simp)
  | releaseLastFlipped bufobj results waited phase done =>
      simp only [lockCalls, addedFB, flipped, Option.map_some, Option.toList_some]
      exact .posts last bufobj rfl (by rw [phase]; rfl) flipped rfl rfl rfl rfl

end Effects

section Framebuffers

/-- A buffer object without user data has no framebuffer. -/
structure Framed (state : Logged count) : Prop where
  added : state.addedFBs.reverse = state.display.framebuffers
  once : state.display.framebuffers.Nodup
  unknown : ∀ bo, state.display.phase = .locked bo → bo ∉ state.display.framebuffers

theorem constructed_framed (count : Nat) (first : BufferObject) :
    Framed (constructed count first) where
  added := rfl
  once := List.nodup_singleton first
  unknown := by simp [constructed, DisplayBuffers.constructed]

variable {state : Logged count}

theorem framed_kept (framed : Framed state) {display : DisplayBuffer count}
    (same : display.framebuffers = state.display.framebuffers)
    (unknown : ∀ bo, display.phase = .locked bo → bo ∉ state.display.framebuffers)
    (calls : List (LockCall BufferObject)) :
    Framed ⟨display, calls, state.addedFBs ++ []⟩ := by
  refine ⟨?_, ?_, ?_⟩
  · change (state.addedFBs ++ []).reverse = display.framebuffers
    rw [List.append_nil, framed.added, same]
  · exact same ▸ framed.once
  · exact same ▸ unknown

theorem effect_framed (framed : Framed state) {display : DisplayBuffer count}
    {event : Event count} {made : List (LockCall BufferObject)} {added : List BufferObject}
    (effect : Effect state.display display event made added)
    (calls : List (LockCall BufferObject)) :
    Framed ⟨display, calls, state.addedFBs ++ added⟩ := by
  cases effect with
  | leaves _ _ _ _ same _ locked =>
      exact framed_kept framed same (fun bo phase => framed.unknown bo (locked bo phase)) calls
  | locks bo _ _ _ _ _ same after =>
      apply framed_kept framed same
      intro other phase
      rw [after] at phase
      split_ifs at phase with known
      cases phase
      exact known
  | frames bo _ phase _ _ grown after =>
      refine ⟨?_, ?_, ?_⟩
      · change (state.addedFBs ++ [bo]).reverse = display.framebuffers
        rw [List.reverse_append, framed.added, grown]
        rfl
      · change display.framebuffers.Nodup
        rw [grown]
        exact List.nodup_cons.mpr ⟨framed.unknown bo phase, framed.once⟩
      · intro other locked
        rw [after] at locked
        cases locked
  | givesBack _ _ _ _ _ same after =>
      apply framed_kept framed same
      intro other locked
      rw [after] at locked
      cases locked
  | posts _ _ _ _ _ _ _ same after =>
      apply framed_kept framed same
      intro other locked
      rw [after] at locked
      cases locked

end Framebuffers

section Balance

/-- Between two steps: what is locked is what the calls so far have locked. -/
structure Balanced (first : BufferObject) (history : List (Event count)) (state : Logged count) :
    Prop where
  flipped : state.display.lastFlippedBufobj = some (lastPosted first history)
  front : ∀ bo, state.display.phase.front = some bo → (postsOf first history).front = some bo
  held : state.display.lockedBuffers =
    state.display.phase.front.toList ++ [lastPosted first history]
  called : run makeCall [] state.calls = some state.display.lockedBuffers

theorem constructed_balanced (count : Nat) (first : BufferObject) :
    Balanced first [] (constructed count first) where
  flipped := rfl
  front := by simp [constructed, DisplayBuffers.constructed, Phase.front]
  held := rfl
  called := rfl

variable {first : BufferObject} {history : List (Event count)} {state next : Logged count}

theorem posts_of_snoc (event : Event count) :
    postsOf first (history ++ [event]) = post (postsOf first history) event := by
  simp [postsOf]

theorem last_posted_same {event : Event count}
    (last : ∀ posts, (post posts event).last = posts.last) :
    lastPosted first (history ++ [event]) = lastPosted first history := by
  rw [lastPosted, posts_of_snoc, last]
  rfl

theorem called_snoc {calls : List (LockCall BufferObject)} {held after : List BufferObject}
    {call : LockCall BufferObject} (called : run makeCall [] calls = some held)
    (made : makeCall held call = some after) :
    run makeCall [] (calls ++ [call]) = some after :=
  run_trans called ((run_single makeCall held call).trans made)

theorem make_release {held : List BufferObject} {bo : BufferObject} (locked : bo ∈ held) :
    makeCall held (.release bo) = some (held.erase bo) := if_pos locked

theorem balanced_unposted {event : Event count} (balanced : Balanced first history state)
    {display : DisplayBuffer count} {made : List (LockCall BufferObject)}
    (last : ∀ posts, (post posts event).last = posts.last)
    (flipped : display.lastFlippedBufobj = state.display.lastFlippedBufobj)
    (front : ∀ bo, display.phase.front = some bo →
      (post (postsOf first history) event).front = some bo)
    (held : display.lockedBuffers = display.phase.front.toList ++ [lastPosted first history])
    (called : run makeCall [] (state.calls ++ made) = some display.lockedBuffers)
    (addedFBs : List BufferObject) :
    Balanced first (history ++ [event]) ⟨display, state.calls ++ made, addedFBs⟩ where
  flipped := by rw [last_posted_same last, flipped, balanced.flipped]
  front := by
    rw [posts_of_snoc]
    exact front
  held := by
    rw [last_posted_same last]
    exact held
  called := called

theorem posted_balanced (balanced : Balanced first history state) {display : DisplayBuffer count}
    {bo : BufferObject} (before : state.display.phase.front = some bo)
    (flipped : display.lastFlippedBufobj = some bo)
    (same : display.lockedBuffers =
      state.display.lockedBuffers.erase (lastPosted first history))
    (after : display.phase = .idle) (addedFBs : List BufferObject) :
    Balanced first (history ++ [.releaseLastFlipped])
      ⟨display, state.calls ++ [.release (lastPosted first history)], addedFBs⟩ := by
  have held := balanced.held
  rw [before] at held
  have posted : lastPosted first (history ++ [Event.releaseLastFlipped]) = bo := by
    rw [lastPosted, posts_of_snoc]
    change (postsOf first history).front.getD _ = bo
    rw [balanced.front bo before]
    rfl
  -- nothing is held twice, so the new buffer is not the one that is released
  have distinct := (calls_counted balanced.called).distinct
  rw [held] at distinct
  have different : bo ≠ lastPosted first history := by simpa using distinct
  constructor
  · rw [posted, flipped]
  · intro other now
    rw [after] at now
    cases now
  · rw [posted, same, after, held]
    simp [Phase.front, different]
  · rw [same]
    exact called_snoc balanced.called (make_release (by rw [held]; simp))

theorem effect_balanced {event : Event count} (balanced : Balanced first history state)
    {display : DisplayBuffer count} {made : List (LockCall BufferObject)}
    {added : List BufferObject} (effect : Effect state.display display event made added)
    (addedFBs : List BufferObject) :
    Balanced first (history ++ [event]) ⟨display, state.calls ++ made, addedFBs⟩ := by
  have held := balanced.held
  have called := balanced.called
  cases effect with
  | leaves last kept flipped same _ front _ =>
      apply balanced_unposted balanced last flipped
      · intro bo now
        rcases kept (postsOf first history) with unchanged | nothing
        · rw [unchanged]
          exact balanced.front bo (front ▸ now)
        · rw [nothing] at now
          cases now
      · rw [same, front, held]
      · rw [List.append_nil, same, called]
  | locks bo locking free before flipped same _ after =>
      subst locking
      have front : display.phase.front = some bo := by
        rw [after]
        split_ifs <;> rfl
      apply balanced_unposted balanced (fun _ => rfl) flipped
      · intro other now
        exact front.symm.trans now
      · rw [same, front, held, before]
        rfl
      · rw [same]
        exact called_snoc called (if_neg free)
  | frames bo adding phase flipped same _ after =>
      subst adding
      have front : display.phase.front = state.display.phase.front := by
        rw [after, phase]
        rfl
      apply balanced_unposted balanced (fun _ => rfl) flipped
      · intro other now
        exact balanced.front other (front ▸ now)
      · rw [same, front, held]
      · rw [List.append_nil, same, called]
  | givesBack bo last before flipped same _ after =>
      apply balanced_unposted balanced last flipped
      · intro other now
        rw [after] at now
        cases now
      · rw [same, after, held, before]
        simp [Phase.front]
      · rw [same]
        exact called_snoc called (make_release (by rw [held, before]; simp))
  | posts last bo posting before released flipped same _ after =>
      subst posting
      rw [balanced.flipped] at released
      cases released
      exact posted_balanced balanced before flipped same after addedFBs

theorem run_balanced {events : List (Event count)}
    (ran : run step (constructed count first) events = some state) :
    Balanced first events state ∧ Framed state := by
  apply run_history_invariant
    (fun history state => Balanced first history state ∧ Framed state)
    ⟨constructed_balanced count first, constructed_framed count first⟩ _ ran
  rintro history before event after ⟨balanced, framed⟩ stepped
  obtain ⟨display, moved, rfl⟩ := Option.map_eq_some_iff.mp stepped
  have effect := step_effect balanced.flipped moved
  exact ⟨effect_balanced balanced effect _, effect_framed framed effect _⟩

end Balance

/-- As often as it has been locked, a buffer has been released, or once less. -/
def Matched (calls : List (LockCall BufferObject)) : Prop :=
  ∀ earlier later, calls = earlier ++ later → ∀ bo,
    releases bo earlier ≤ locks bo earlier ∧ locks bo earlier ≤ releases bo earlier + 1

theorem front_buffer_locks_balance {first : BufferObject} {events : List (Event count)}
    {state : Logged count} (ran : run step (constructed count first) events = some state) :
    (state.display.phase = .idle → ∀ bo, locks bo state.calls =
        releases bo state.calls + if bo = lastPosted first events then 1 else 0) ∧
      Matched state.calls ∧ (∀ bo, state.addedFBs.count bo ≤ 1) ∧
      (state.display.phase = .idle → Matched (destroyed state) ∧
        ∀ bo, locks bo (destroyed state) = releases bo (destroyed state)) := by
  obtain ⟨balanced, framed⟩ := run_balanced ran
  have matched : ∀ {calls held}, run makeCall [] calls = some held → Matched calls :=
    fun made _ _ split bo => calls_matched made split bo
  refine ⟨?_, matched balanced.called, ?_, ?_⟩
  · intro idle bo
    have balance := (calls_counted balanced.called).balance bo
    rw [balanced.held, idle] at balance
    rw [balance]
    by_cases same : bo = lastPosted first events
    · simp [Phase.front, same]
    · simp [Phase.front, same, Ne.symm same]
  · intro bo
    rw [← List.count_reverse, framed.added]
    exact List.nodup_iff_count_le_one.mp framed.once bo
  · intro idle
    have held : state.display.lockedBuffers = [lastPosted first events] := by
      rw [balanced.held, idle]
      rfl
    have released : run makeCall [] (destroyed state) = some [] := by
      have made := called_snoc balanced.called
        (make_release (by rw [held]; exact List.mem_singleton_self (lastPosted first events)))
      rw [destroyed, balanced.flipped]
      rw [held] at made
      simpa using made
    refine ⟨matched released, ?_⟩
    intro bo
    have balance := (calls_counted released).balance bo
    simpa using balance

/-- A frame for which no framebuffer can be added, one that is shown, one that the output
refuses, and one in a buffer that has been used before. -/
def fourFrames (output : Fin count) : List (Event count) :=
  [.swapBuffers true, .lockFrontBuffer (some 2), .addFB false, .swapBuffers true,
    .lockFrontBuffer (some 2), .addFB true, .schedulePageFlip true, .countPageFlips,
    .flip output, .waitForPageFlip, .releaseLastFlipped, .swapBuffers true,
    .lockFrontBuffer (some 3), .addFB true, .schedulePageFlip false, .countPageFlips,
    .swapBuffers true, .lockFrontBuffer (some 1), .schedulePageFlip true, .countPageFlips,
    .flip output, .waitForPageFlip, .releaseLastFlipped]

theorem four_frames_balance :
    ∃ state, run step (constructed 1 1) (fourFrames 0) = some state ∧
      state.display.phase = .idle ∧ lastPosted 1 (fourFrames (0 : Fin 1)) = 1 ∧
      (∀ bo, locks bo state.calls = releases bo state.calls + if bo = 1 then 1 else 0) ∧
      ∀ bo, locks bo (destroyed state) = releases bo (destroyed state) := by
  obtain ⟨state, ran, idle⟩ : ∃ state : Logged 1,
      run step (constructed 1 1) (fourFrames 0) = some state ∧ state.display.phase = .idle :=
    ⟨_, rfl, rfl⟩
  obtain ⟨held, -, -, released⟩ := front_buffer_locks_balance ran
  exact ⟨state, ran, idle, rfl, held idle, (released idle).2⟩

end Mir.FrontBufferLocks
