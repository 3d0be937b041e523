import Mathlib.Data.List.Nodup
import Mathlib.Data.List.Perm.Basic

/-!
# Condition variables as wait sets

The threads inside `wait` on one condition variable. A thread enters `waiting`
when it gives up the mutex. A notification or a spurious wake-up takes it out of
`waiting`, but it runs again only once it has the mutex back: until then it is
`notified` or `spurious`. Which thread a `notify_one` picks is the scheduler's
choice, and it must pick one if any thread is waiting.
-/

namespace Mir.ConditionVariable

set_option autoImplicit false

structure WaitSet (Thread : Type*) where
  waiting : List Thread
  notified : List Thread
  spurious : List Thread
  deriving DecidableEq

variable {Thread : Type*} [DecidableEq Thread]

def empty : WaitSet Thread := ⟨[], [], []⟩

def threads (set : WaitSet Thread) : List Thread :=
  set.waiting ++ set.notified ++ set.spurious

def wait (set : WaitSet Thread) (thread : Thread) : WaitSet Thread :=
  { set with waiting := set.waiting ++ [thread] }

def notifyOne (set : WaitSet Thread) : Option Thread → Option (WaitSet Thread)
  | none => if set.waiting = [] then some set else none
  | some thread =>
      if thread ∈ set.waiting then
        some { set with
          waiting := set.waiting.erase thread
          notified := set.notified ++ [thread] }
      else none

def notifyAll (set : WaitSet Thread) : WaitSet Thread :=
  { set with waiting := [], notified := set.notified ++ set.waiting }

def wakeSpuriously (set : WaitSet Thread) (thread : Thread) : Option (WaitSet Thread) :=
  if thread ∈ set.waiting then
    some { set with
      waiting := set.waiting.erase thread
      spurious := set.spurious ++ [thread] }
  else none

/-- A woken thread gets the mutex back and leaves the wait set. -/
def resume (set : WaitSet Thread) (thread : Thread) : Option (WaitSet Thread) :=
  if thread ∈ set.notified then
    some { set with notified := set.notified.erase thread }
  else if thread ∈ set.spurious then
    some { set with spurious := set.spurious.erase thread }
  else none

omit [DecidableEq Thread] in
theorem threads_wait (set : WaitSet Thread) (thread : Thread) :
    (threads (wait set thread)).Perm (thread :: threads set) := by
  simp only [threads, wait, List.append_assoc, List.singleton_append]
  exact List.perm_middle

theorem woken_perm {waiting : List Thread} {thread : Thread} (waits : thread ∈ waiting)
    (before after : List Thread) :
    (waiting.erase thread ++ (before ++ [thread]) ++ after).Perm (waiting ++ before ++ after) := by
  rw [List.perm_iff_count]
  intro other
  have taken := (List.perm_cons_erase waits).count_eq other
  simp only [List.count_append, List.count_cons, List.count_nil] at taken ⊢
  omega

theorem threads_notify_one {set next : WaitSet Thread} {chosen : Option Thread}
    (woke : notifyOne set chosen = some next) : (threads next).Perm (threads set) := by
  cases chosen with
  | none =>
      simp only [notifyOne] at woke
      split_ifs at woke
      cases woke
      rfl
  | some thread =>
      simp only [notifyOne] at woke
      split_ifs at woke with waits
      cases woke
      exact woken_perm waits set.notified set.spurious

omit [DecidableEq Thread] in
theorem threads_notify_all (set : WaitSet Thread) :
    (threads (notifyAll set)).Perm (threads set) := by
  simp only [threads, notifyAll, List.nil_append]
  exact List.perm_append_comm.append_right _

theorem threads_wake_spuriously {set next : WaitSet Thread} {thread : Thread}
    (woke : wakeSpuriously set thread = some next) : (threads next).Perm (threads set) := by
  simp only [wakeSpuriously] at woke
  split_ifs at woke with waits
  cases woke
  have moved := woken_perm waits (set.notified ++ set.spurious) []
  simpa [threads] using moved

theorem threads_resume {set next : WaitSet Thread} {thread : Thread}
    (resumed : resume set thread = some next) :
    (threads set).Perm (thread :: threads next) := by
  simp only [resume] at resumed
  rw [List.perm_iff_count]
  intro other
  split_ifs at resumed with notified spurious
  · cases resumed
    have taken := (List.perm_cons_erase notified).count_eq other
    simp only [threads, List.count_append, List.count_cons] at taken ⊢
    omega
  · cases resumed
    have taken := (List.perm_cons_erase spurious).count_eq other
    simp only [threads, List.count_append, List.count_cons] at taken ⊢
    omega

omit [DecidableEq Thread] in
theorem mem_wait {set : WaitSet Thread} {thread other : Thread} :
    other ∈ threads (wait set thread) ↔ other = thread ∨ other ∈ threads set := by
  rw [(threads_wait set thread).mem_iff, List.mem_cons]

omit [DecidableEq Thread] in
theorem nodup_wait {set : WaitSet Thread} {thread : Thread} :
    (threads (wait set thread)).Nodup ↔ thread ∉ threads set ∧ (threads set).Nodup := by
  rw [(threads_wait set thread).nodup_iff, List.nodup_cons]

theorem mem_resume {set next : WaitSet Thread} {thread other : Thread}
    (resumed : resume set thread = some next) :
    other ∈ threads set ↔ other = thread ∨ other ∈ threads next := by
  rw [(threads_resume resumed).mem_iff, List.mem_cons]

theorem nodup_resume {set next : WaitSet Thread} {thread : Thread}
    (resumed : resume set thread = some next) :
    (threads set).Nodup ↔ thread ∉ threads next ∧ (threads next).Nodup := by
  rw [(threads_resume resumed).nodup_iff, List.nodup_cons]

theorem resume_counts {set next : WaitSet Thread} {thread : Thread}
    (resumed : resume set thread = some next) :
    next.waiting = set.waiting ∧ set.notified.length ≤ next.notified.length + 1 := by
  simp only [resume] at resumed
  split_ifs at resumed with notified spurious
  · cases resumed
    exact ⟨rfl, by simp only [List.length_erase_of_mem notified]; omega⟩
  · cases resumed
    exact ⟨rfl, Nat.le_succ _⟩

/-- A notification is not lost on a set in which somebody is still waiting. -/
theorem notify_one_counts {set next : WaitSet Thread} {chosen : Option Thread}
    (woke : notifyOne set chosen = some next) (left : next.waiting ≠ []) :
    set.waiting ≠ [] ∧ next.notified.length = set.notified.length + 1 := by
  cases chosen with
  | none =>
      simp only [notifyOne] at woke
      split_ifs at woke with nobody
      cases woke
      exact absurd nobody left
  | some thread =>
      simp only [notifyOne] at woke
      split_ifs at woke with waits
      cases woke
      exact ⟨List.ne_nil_of_mem waits, by simp⟩

theorem wake_spuriously_waited {set next : WaitSet Thread} {thread : Thread}
    (woke : wakeSpuriously set thread = some next) : thread ∈ set.waiting := by
  simp only [wakeSpuriously] at woke
  split_ifs at woke with waits
  exact waits

theorem wake_spuriously_waiting {set next : WaitSet Thread} {thread other : Thread}
    (woke : wakeSpuriously set thread = some next) (waits : other ∈ next.waiting) :
    other ∈ set.waiting := by
  simp only [wakeSpuriously] at woke
  split_ifs at woke
  cases woke
  exact List.mem_of_mem_erase waits

theorem wake_spuriously_counts {set next : WaitSet Thread} {thread : Thread}
    (woke : wakeSpuriously set thread = some next) :
    set.waiting ≠ [] ∧ next.notified = set.notified := by
  simp only [wakeSpuriously] at woke
  split_ifs at woke with waits
  cases woke
  exact ⟨List.ne_nil_of_mem waits, rfl⟩

/-- Woken, and without the mutex so far. -/
def Awake (set : WaitSet Thread) (thread : Thread) : Prop :=
  thread ∈ set.notified ∨ thread ∈ set.spurious

omit [DecidableEq Thread] in
theorem awake_member {set : WaitSet Thread} {thread : Thread} (awake : Awake set thread) :
    thread ∈ threads set := by
  simp only [threads, List.mem_append]
  simp only [Awake] at awake
  tauto

omit [DecidableEq Thread] in
theorem awake_notify_all {set : WaitSet Thread} {thread : Thread}
    (member : thread ∈ threads set) : Awake (notifyAll set) thread := by
  simp only [threads, List.mem_append] at member
  simp only [Awake, notifyAll, List.mem_append]
  tauto

/-- A notification reaches the only thread there is. -/
theorem awake_notify_one {set next : WaitSet Thread} {chosen : Option Thread} {thread : Thread}
    (only : threads set = [thread]) (woke : notifyOne set chosen = some next) :
    Awake next thread := by
  cases chosen with
  | none =>
      simp only [notifyOne] at woke
      split_ifs at woke with nobody
      cases woke
      have member : thread ∈ threads set := by simp [only]
      simpa [threads, nobody, Awake] using member
  | some woken =>
      simp only [notifyOne] at woke
      split_ifs at woke with waits
      cases woke
      have member : woken ∈ threads set := by simp [threads, waits]
      rw [only, List.mem_singleton] at member
      exact .inl (by simp [member])

theorem awake_wake_spuriously {set next : WaitSet Thread} {thread other : Thread}
    (awake : Awake set thread) (woke : wakeSpuriously set other = some next) :
    Awake next thread := by
  simp only [wakeSpuriously] at woke
  split_ifs at woke
  cases woke
  rcases awake with notified | spurious
  · exact .inl notified
  · exact .inr (List.mem_append_left _ spurious)

theorem awake_resume_other {set next : WaitSet Thread} {thread other : Thread}
    (awake : Awake set thread) (different : thread ≠ other)
    (resumed : resume set other = some next) : Awake next thread := by
  simp only [resume] at resumed
  split_ifs at resumed
  all_goals
    cases resumed
    simpa only [Awake, List.mem_erase_of_ne different] using awake

theorem awake_resumes {set : WaitSet Thread} {thread : Thread} (awake : Awake set thread) :
    ∃ next, resume set thread = some next := by
  simp only [resume]
  split_ifs with notified spurious
  · exact ⟨_, rfl⟩
  · exact ⟨_, rfl⟩
  · exact absurd awake (not_or.mpr ⟨notified, spurious⟩)

end Mir.ConditionVariable
