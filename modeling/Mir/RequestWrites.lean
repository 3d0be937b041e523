import Mathlib.Data.List.Permutation
import Mir.MessageFraming
import Mir.TransitionRuns

/-!
# Requests on their way out of the client

`MirSocketRpcChannel::send_message` starts an `async_write` of its own for every
request, whether or not earlier ones have finished. An `async_write` is a series of
`async_write_some` calls, each of which takes some of the bytes that are left; nothing
puts the calls of different writes in order.
-/

namespace Mir.RequestWrites

open Mir.ProtocolMessages Mir.TransitionRuns Mir.ResponseStream Mir.MessageFraming

set_option autoImplicit false

/-- For each write that has not finished, the bytes of its send buffer that are left,
and what has gone out on the socket. -/
structure Outgoing where
  outstanding : List Text
  sent : Text
  deriving DecidableEq, Repr

inductive Action where
  | sendMessage (body : Text)
  | writeSome (write : Nat) (count : Nat)
  deriving DecidableEq, Repr

def connected : Outgoing where
  outstanding := []
  sent := []

def step (state : Outgoing) : Action → Option Outgoing
  | .sendMessage body => some
      { state with outstanding := state.outstanding ++ [wholeMessage headerBytes body] }
  | .writeSome write count => state.outstanding[write]?.bind fun remaining =>
      if 0 < count ∧ count ≤ remaining.length then
        some
          { outstanding :=
              if count = remaining.length then state.outstanding.eraseIdx write
              else state.outstanding.set write (remaining.drop count)
            sent := state.sent ++ remaining.take count }
      else none

def requests (actions : List Action) : List Text :=
  actions.filterMap fun action => match action with
    | .sendMessage body => some body
    | .writeSome _ _ => none

/-- A request is only sent while fewer than `limit` writes are outstanding. -/
def limited (limit : Nat) (state : Outgoing) : Action → Bool
  | .sendMessage _ => decide (state.outstanding.length < limit)
  | .writeSome _ _ => true

/-- The server can cut the bytes into the requests, in some order. -/
def Contiguous (actions : List Action) (state : Outgoing) : Prop :=
  ∃ order, order.Perm (requests actions) ∧ state.sent = sendMessages order

section OneAtATime

/-- What has been sent, and what is left of the one write, are the requests so far. -/
structure InOrder (history : List Action) (state : Outgoing) : Prop where
  single : state.outstanding.length ≤ 1
  bytes : state.sent ++ state.outstanding.flatten = sendMessages (requests history)

theorem connected_in_order : InOrder [] connected where
  single := Nat.zero_le _
  bytes := rfl

theorem send_in_order {history : List Action} {state : Outgoing} (body : Text)
    (ordered : InOrder history state) (free : state.outstanding = []) :
    InOrder (history ++ [.sendMessage body])
      { state with outstanding := state.outstanding ++ [wholeMessage headerBytes body] } where
  single := by simp [free]
  bytes := by
    have before := ordered.bytes
    simp only [free, List.flatten_nil, List.append_nil] at before
    simp [free, before, requests, sendMessages, stream]

theorem write_in_order {history : List Action} {state next : Outgoing} {write count : Nat}
    (ordered : InOrder history state) (stepped : step state (.writeSome write count) = some next) :
    InOrder (history ++ [.writeSome write count]) next := by
  have same : requests (history ++ [.writeSome write count]) = requests history := by
    simp [requests]
  rcases Option.bind_eq_some_iff.mp stepped with ⟨remaining, found, wrote⟩
  have below := (List.getElem?_eq_some_iff.mp found).1
  have single := ordered.single
  have first : write = 0 := by omega
  subst first
  have only : state.outstanding = [remaining] := by
    rcases List.length_eq_one_iff.mp (show state.outstanding.length = 1 by omega) with
      ⟨head, shape⟩
    simp only [shape, List.getElem?_cons_zero, Option.some.injEq] at found
    rw [shape, found]
  have bytes : state.sent ++ remaining = sendMessages (requests history) := by
    have before := ordered.bytes
    simpa [only] using before
  split_ifs at wrote with some_bytes finished
  · cases wrote
    constructor
    · simp [only]
    · rw [same, finished]
      simp [only, bytes]
  · cases wrote
    constructor
    · simp [only]
    · simp [only, same, bytes]

theorem step_in_order {limit : Nat} (few : limit ≤ 1) {history : List Action}
    {state next : Outgoing} {action : Action} (ordered : InOrder history state)
    (stepped : restrict (limited limit) step state action = some next) :
    InOrder (history ++ [action]) next := by
  rcases restrict_some.mp stepped with ⟨allowed, moved⟩
  cases action with
  | sendMessage body =>
      have below : state.outstanding.length < limit := by simpa [limited] using allowed
      have free : state.outstanding = [] := by
        apply List.eq_nil_of_length_eq_zero
        omega
      cases moved
      exact send_in_order body ordered free
  | writeSome write count => exact write_in_order ordered moved

theorem run_in_order {limit : Nat} (few : limit ≤ 1) {actions : List Action}
    {state : Outgoing} (ran : run (restrict (limited limit) step) connected actions = some state) :
    InOrder actions state :=
  run_history_invariant InOrder connected_in_order
    (fun _ _ _ _ ordered stepped => step_in_order few ordered stepped) ran

end OneAtATime

section Overlapping

/-- Two `next_buffer` invocations, with ids 0 and 1. -/
def firstRequest : Text := [8, 0, 18, 11, 110, 101, 120, 116, 95, 98, 117, 102, 102, 101, 114,
  26, 2, 8, 1]

def secondRequest : Text := [8, 1, 18, 11, 110, 101, 120, 116, 95, 98, 117, 102, 102, 101, 114,
  26, 2, 8, 1]

/-- The first write gets rid of three bytes before the second one starts. -/
def overlapping : List Action :=
  [.sendMessage firstRequest, .sendMessage secondRequest, .writeSome 0 3, .writeSome 1 21,
    .writeSome 0 18]

def interleaved : Outgoing where
  outstanding := []
  sent := [0, 19, 8] ++ wholeMessage headerBytes secondRequest ++ firstRequest.drop 1

theorem overlapping_runs {limit : Nat} (several : 2 ≤ limit) :
    run (restrict (limited limit) step) connected overlapping = some interleaved := by
  rcases Nat.exists_eq_add_of_le' several with ⟨more, rfl⟩
  rfl

theorem interleaved_not_contiguous : ¬ Contiguous overlapping interleaved := by
  intro contiguous
  rcases contiguous with ⟨order, permuted, same⟩
  have shape : order = [firstRequest, secondRequest] ∨ order = [secondRequest, firstRequest] := by
    have member := List.mem_permutations'.mpr permuted
    simpa [requests, overlapping] using member
  rcases shape with rfl | rfl
  · exact absurd same (by decide)
  · exact absurd same (by decide)

/-- The requests come out whole on every schedule exactly when no request is sent
while another one is still being written. -/
theorem requests_contiguous_iff (limit : Nat) :
    (∀ (actions : List Action) (state : Outgoing),
      run (restrict (limited limit) step) connected actions = some state →
        state.outstanding = [] → Contiguous actions state) ↔ limit ≤ 1 := by
  constructor
  · intro whole
    by_contra many
    have several : 2 ≤ limit := by omega
    exact interleaved_not_contiguous
      (whole overlapping interleaved (overlapping_runs several) rfl)
  · intro few actions state ran finished
    have bytes := (run_in_order few ran).bytes
    rw [finished, List.flatten_nil, List.append_nil] at bytes
    exact ⟨requests actions, List.Perm.refl _, bytes⟩

/-- The second request waits for the first one to be written, in two pieces. -/
def oneAfterTheOther : List Action :=
  [.sendMessage firstRequest, .writeSome 0 3, .writeSome 0 18, .sendMessage secondRequest,
    .writeSome 0 21]

theorem requests_written_one_after_the_other :
    ∃ state, run (restrict (limited 1) step) connected oneAfterTheOther = some state ∧
      state.outstanding = [] ∧ Contiguous oneAfterTheOther state := by
  have ran : run (restrict (limited 1) step) connected oneAfterTheOther =
      some ⟨[], sendMessages [firstRequest, secondRequest]⟩ := rfl
  exact ⟨_, ran, rfl, (requests_contiguous_iff 1).mpr (le_refl _) _ _ ran rfl⟩

theorem overlapping_requests_are_interleaved :
    run step connected overlapping = some interleaved ∧ interleaved.outstanding = [] ∧
      ¬ Contiguous overlapping interleaved :=
  ⟨rfl, rfl, interleaved_not_contiguous⟩

end Overlapping

end Mir.RequestWrites
