import Mathlib.Data.List.Perm.Basic
import Mir.TransitionRuns

/-!
# Items circulating between a producer and a consumer side

A fixed stock of items is always in one of four places: `ready` for a producer,
`drawn` (held by a producer), `posted` for the consumer, or `shown` (held by a
consumer). Producers take from the front of `ready`. A consumer takes from the
front of `posted`, or the *back* of `ready` when nothing new was posted.
`limit` is the number of items the producers may hold together.
-/

namespace Mir.Circulation

open Mir.TransitionRuns

set_option autoImplicit false

structure Stock (Item : Type*) where
  ready : List Item
  posted : List Item
  drawn : List Item
  shown : List Item
  deriving DecidableEq

inductive Move (Item : Type*) where
  | take (item : Item)
  | post (item : Item)
  | present (item : Item)
  | retire (item : Item)
  | reclaim
  deriving DecidableEq

variable {Item : Type*} [DecidableEq Item]

def start (items : List Item) : Stock Item := ⟨items, [], [], []⟩

def step (limit : Nat) (state : Stock Item) : Move Item → Option (Stock Item)
  | .take item => match state.ready with
      | [] => none
      | next :: rest =>
          if state.drawn.length ≠ limit ∧ next = item then
            some { state with ready := rest, drawn := state.drawn ++ [item] }
          else none
  | .post item =>
      if item ∈ state.drawn then
        some { state with posted := state.posted ++ [item], drawn := state.drawn.erase item }
      else none
  | .present item => match state.posted with
      | [] =>
          if state.ready.getLast? = some item then
            some { state with ready := state.ready.dropLast, shown := state.shown ++ [item] }
          else none
      | next :: rest =>
          if next = item then
            some { state with posted := rest, shown := state.shown ++ [item] }
          else none
  | .retire item =>
      if item ∈ state.shown then
        some { state with ready := state.ready ++ [item], shown := state.shown.erase item }
      else none
  | .reclaim => match state.ready, state.posted with
      | [], [] => none
      | [], next :: rest => some { state with ready := [next], posted := rest }
      | _ :: _, _ => some state

/-- Everything one move can do, guards included. Every fact about runs below is
a case analysis on this relation; the step function is not unfolded again. -/
inductive Moved (limit : Nat) : Stock Item → Move Item → Stock Item → Prop where
  | take {item : Item} {rest posted drawn shown : List Item} (room : drawn.length ≠ limit) :
      Moved limit ⟨item :: rest, posted, drawn, shown⟩ (.take item)
        ⟨rest, posted, drawn ++ [item], shown⟩
  | post {item : Item} {ready posted drawn shown : List Item} (held : item ∈ drawn) :
      Moved limit ⟨ready, posted, drawn, shown⟩ (.post item)
        ⟨ready, posted ++ [item], drawn.erase item, shown⟩
  | presentNext {item : Item} {ready rest drawn shown : List Item} :
      Moved limit ⟨ready, item :: rest, drawn, shown⟩ (.present item)
        ⟨ready, rest, drawn, shown ++ [item]⟩
  | presentAgain {item : Item} {ready drawn shown : List Item} :
      Moved limit ⟨ready ++ [item], [], drawn, shown⟩ (.present item)
        ⟨ready, [], drawn, shown ++ [item]⟩
  | retire {item : Item} {ready posted drawn shown : List Item} (held : item ∈ shown) :
      Moved limit ⟨ready, posted, drawn, shown⟩ (.retire item)
        ⟨ready ++ [item], posted, drawn, shown.erase item⟩
  | reclaimPosted {item : Item} {rest drawn shown : List Item} :
      Moved limit ⟨[], item :: rest, drawn, shown⟩ .reclaim ⟨[item], rest, drawn, shown⟩
  | reclaimIdle {item : Item} {rest posted drawn shown : List Item} :
      Moved limit ⟨item :: rest, posted, drawn, shown⟩ .reclaim
        ⟨item :: rest, posted, drawn, shown⟩

theorem step_moved {limit : Nat} {state next : Stock Item} {move : Move Item}
    (stepped : step limit state move = some next) : Moved limit state move next := by
  obtain ⟨ready, posted, drawn, shown⟩ := state
  cases move with
  | take item =>
      cases ready with
      | nil => simp [step] at stepped
      | cons head rest =>
          simp only [step] at stepped
          split_ifs at stepped with allowed
          obtain ⟨room, rfl⟩ := allowed
          cases stepped
          exact .take room
  | post item =>
      simp only [step] at stepped
      split_ifs at stepped with held
      cases stepped
      exact .post held
  | present item =>
      cases posted with
      | nil =>
          simp only [step] at stepped
          split_ifs at stepped with last
          cases stepped
          have whole := List.dropLast_append_getLast? item last
          rw [← whole]
          simp only [List.dropLast_concat]
          exact .presentAgain
      | cons head rest =>
          simp only [step] at stepped
          split_ifs at stepped with same
          subst same
          cases stepped
          exact .presentNext
  | retire item =>
      simp only [step] at stepped
      split_ifs at stepped with held
      cases stepped
      exact .retire held
  | reclaim =>
      cases ready with
      | nil =>
          cases posted with
          | nil => simp [step] at stepped
          | cons head rest =>
              cases stepped
              exact .reclaimPosted
      | cons head rest =>
          cases stepped
          exact .reclaimIdle

section Conservation

def contents (state : Stock Item) : List Item :=
  state.ready ++ state.posted ++ state.drawn ++ state.shown

omit [DecidableEq Item] in
theorem contents_length (state : Stock Item) :
    (contents state).length =
      state.ready.length + state.posted.length + state.drawn.length + state.shown.length := by
  simp [contents, Nat.add_assoc]

theorem moved_contents {limit : Nat} {state next : Stock Item} {move : Move Item}
    (moved : Moved limit state move next) : (contents next).Perm (contents state) := by
  rw [List.perm_iff_count]
  intro item
  cases moved with
  | take room =>
      simp only [contents, List.count_append, List.count_cons, List.count_nil]
      omega
  | post held =>
      have taken := (List.perm_cons_erase held).count_eq item
      simp only [contents, List.count_append, List.count_cons, List.count_nil] at taken ⊢
      omega
  | presentNext =>
      simp only [contents, List.count_append, List.count_cons, List.count_nil]
      omega
  | presentAgain =>
      simp only [contents, List.count_append, List.count_cons, List.count_nil]
      omega
  | retire held =>
      have taken := (List.perm_cons_erase held).count_eq item
      simp only [contents, List.count_append, List.count_cons, List.count_nil] at taken ⊢
      omega
  | reclaimPosted =>
      simp only [contents, List.count_append, List.count_cons, List.count_nil]
      omega
  | reclaimIdle => rfl

/-- The producers never hold more than `limit` items together: the only move
that adds to `drawn` is refused when `drawn` is full. -/
theorem moved_limit {limit : Nat} {state next : Stock Item} {move : Move Item}
    (moved : Moved limit state move next) (bounded : state.drawn.length ≤ limit) :
    next.drawn.length ≤ limit := by
  cases moved with
  | take room =>
      simp only [List.length_append, List.length_singleton] at bounded ⊢
      omega
  | post held =>
      simp only [List.length_erase_of_mem held] at bounded ⊢
      omega
  | presentNext => exact bounded
  | presentAgain => exact bounded
  | retire held => exact bounded
  | reclaimPosted => exact bounded
  | reclaimIdle => exact bounded

/-- What holds of every state a run from `start items` reaches. -/
structure Conserved (items : List Item) (limit : Nat) (state : Stock Item) : Prop where
  partition : (contents state).Perm items
  bounded : state.drawn.length ≤ limit

omit [DecidableEq Item] in
theorem start_conserved (items : List Item) (limit : Nat) :
    Conserved items limit (start items) :=
  ⟨by simp [contents, start], by simp [start]⟩

theorem moved_conserved {items : List Item} {limit : Nat} {state next : Stock Item}
    {move : Move Item} (moved : Moved limit state move next)
    (conserved : Conserved items limit state) : Conserved items limit next :=
  ⟨(moved_contents moved).trans conserved.partition, moved_limit moved conserved.bounded⟩

omit [DecidableEq Item] in
theorem conserved_count {items : List Item} {limit : Nat} {state : Stock Item}
    (conserved : Conserved items limit state) :
    state.ready.length + state.posted.length + state.drawn.length + state.shown.length =
      items.length := by
  rw [← contents_length]
  exact conserved.partition.length_eq

omit [DecidableEq Item] in
/-- Something is waiting in a queue exactly as long as the two sides together
hold less than the whole stock. -/
theorem conserved_available {items : List Item} {limit : Nat} {state : Stock Item}
    (conserved : Conserved items limit state) :
    (state.ready ≠ [] ∨ state.posted ≠ []) ↔
      state.drawn.length + state.shown.length < items.length := by
  have count := conserved_count conserved
  rw [← List.length_pos_iff, ← List.length_pos_iff]
  omega

omit [DecidableEq Item] in
theorem conserved_nodup {items : List Item} {limit : Nat} {state : Stock Item}
    (conserved : Conserved items limit state) (distinct : items.Nodup) :
    (contents state).Nodup :=
  conserved.partition.nodup_iff.mpr distinct

end Conservation

section Availability

theorem present_enabled_iff (limit : Nat) (state : Stock Item) :
    (∃ item next, step limit state (.present item) = some next) ↔
      state.ready ≠ [] ∨ state.posted ≠ [] := by
  obtain ⟨ready, posted, drawn, shown⟩ := state
  cases posted with
  | cons head rest => simp [step]
  | nil =>
      cases ready using List.reverseRecOn with
      | nil => simp [step]
      | append_singleton initial last => simp [step]

theorem moved_ready_length {limit : Nat} {state next : Stock Item} {move : Move Item}
    (moved : Moved limit state move next) :
    match move with
    | .take _ => next.ready.length + 1 = state.ready.length
    | .post _ => next.ready.length = state.ready.length
    | .present _ => next.ready.length ≤ state.ready.length
    | .retire _ => next.ready.length = state.ready.length + 1
    | .reclaim => next.ready.length = max 1 state.ready.length := by
  cases moved <;> simp

end Availability

section SingleConsumer

/-- The consumer gives back what it shows before it asks again. -/
def singleConsumer (state : Stock Item) : Move Item → Bool
  | .present _ => state.shown.isEmpty
  | _ => true

theorem moved_single_consumer {limit : Nat} {state next : Stock Item} {move : Move Item}
    (moved : Moved limit state move next) (allowed : singleConsumer state move = true)
    (single : state.shown.length ≤ 1) : next.shown.length ≤ 1 := by
  cases moved with
  | presentNext => simp_all [singleConsumer]
  | presentAgain => simp_all [singleConsumer]
  | retire held =>
      simp only [List.length_erase_of_mem held] at single ⊢
      omega
  | take room => exact single
  | post held => exact single
  | reclaimPosted => exact single
  | reclaimIdle => exact single

end SingleConsumer

section SingleProducer

/-- The producer posts what it holds before it takes again. -/
def singleProducer (state : Stock Item) : Move Item → Bool
  | .take _ => state.drawn.isEmpty
  | _ => true

theorem moved_single_producer {limit : Nat} {state next : Stock Item} {move : Move Item}
    (moved : Moved limit state move next) (allowed : singleProducer state move = true)
    (single : state.drawn.length ≤ 1) : next.drawn.length ≤ 1 := by
  cases moved with
  | take room => simp_all [singleProducer]
  | post held =>
      simp only [List.length_erase_of_mem held] at single ⊢
      omega
  | presentNext => exact single
  | presentAgain => exact single
  | retire held => exact single
  | reclaimPosted => exact single
  | reclaimIdle => exact single

end SingleProducer

end Mir.Circulation
