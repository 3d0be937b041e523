import Mir.ResponseStream

/-!
# Two-byte length headers

`SocketSession` and `MirSocketRpcChannel` each write messages to the other, and each
has its own encoder and its own decoder of the header. A header keeps sixteen bits of
a `size_t`, and neither writer looks at the size.
-/

namespace Mir.MessageFraming

open Mir.ProtocolMessages Mir.ResponseStream

set_option autoImplicit false

section Framing

/-- What both writers put before and after: the header, then the body. -/
def wholeMessage (header : Nat → Text) (body : Text) : Text := header body.length ++ body

def stream (header : Nat → Text) (bodies : List Text) : Text :=
  bodies.flatMap (wholeMessage header)

/-- Reads a header, then as many bytes as it says, as often as there are enough bytes;
what is left is what the reader still waits behind. -/
def readBodiesWithin (bodySize : Text → Nat) : Nat → Text → List Text × Text
  | 0, unread => ([], unread)
  | fuel + 1, unread =>
      let size := bodySize (unread.take 2)
      if 2 + size ≤ unread.length then
        let later := readBodiesWithin bodySize fuel (unread.drop (2 + size))
        ((unread.drop 2).take size :: later.1, later.2)
      else ([], unread)

/-- A message takes two bytes at least, so there are never more than there are bytes. -/
def readBodies (bodySize : Text → Nat) (unread : Text) : List Text × Text :=
  readBodiesWithin bodySize unread.length unread

variable {header : Nat → Text} {bodySize : Text → Nat}

theorem read_within_message (two : ∀ size, (header size).length = 2) (body unread : Text)
    (fuel size : Nat) (said : bodySize (header body.length) = size) (fits : size ≤ body.length) :
    readBodiesWithin bodySize (fuel + 1) (wholeMessage header body ++ unread) =
      (body.take size :: (readBodiesWithin bodySize fuel (body.drop size ++ unread)).1,
        (readBodiesWithin bodySize fuel (body.drop size ++ unread)).2) := by
  have front : (wholeMessage header body ++ unread).take 2 = header body.length := by
    rw [wholeMessage, List.append_assoc, List.take_left' (two _)]
  have behind : (wholeMessage header body ++ unread).drop 2 = body ++ unread := by
    rw [wholeMessage, List.append_assoc, List.drop_left' (two _)]
  have later : (wholeMessage header body ++ unread).drop (2 + size) =
      body.drop size ++ unread := by
    rw [← List.drop_drop, behind, List.drop_append_of_le_length fits]
  have enough : 2 + size ≤ (wholeMessage header body ++ unread).length := by
    simp only [wholeMessage, List.length_append, two]
    omega
  simp only [readBodiesWithin, front, said, if_pos enough, behind, later,
    List.take_append_of_le_length fits]

theorem read_within_cons (two : ∀ size, (header size).length = 2) (body unread : Text)
    (fuel : Nat) (same : bodySize (header body.length) = body.length) :
    readBodiesWithin bodySize (fuel + 1) (wholeMessage header body ++ unread) =
      (body :: (readBodiesWithin bodySize fuel unread).1,
        (readBodiesWithin bodySize fuel unread).2) := by
  rw [read_within_message two body unread fuel body.length same (le_refl _)]
  simp

/-- A header that does not say the size of its body is never read as that body. -/
theorem read_within_other (two : ∀ size, (header size).length = 2) (body unread : Text)
    (fuel : Nat) (other : bodySize (header body.length) ≠ body.length) (bodies : List Text) :
    (readBodiesWithin bodySize fuel (wholeMessage header body ++ unread)).1 ≠
      body :: bodies := by
  cases fuel with
  | zero => simp [readBodiesWithin]
  | succ fuel =>
      have front : (wholeMessage header body ++ unread).take 2 = header body.length := by
        rw [wholeMessage, List.append_assoc, List.take_left' (two _)]
      simp only [readBodiesWithin, front]
      split_ifs with enough
      · intro same
        have taken := congrArg List.length (List.cons.inj same).1
        simp only [List.length_take, List.length_drop] at taken
        omega
      · simp

theorem read_within_iff (two : ∀ size, (header size).length = 2) (bodies : List Text)
    (fuel : Nat) (enough : (stream header bodies).length ≤ fuel) :
    readBodiesWithin bodySize fuel (stream header bodies) = (bodies, []) ↔
      ∀ body ∈ bodies, bodySize (header body.length) = body.length := by
  induction bodies generalizing fuel with
  | nil => cases fuel <;> simp [stream, readBodiesWithin]
  | cons body bodies induction =>
      have split : stream header (body :: bodies) =
          wholeMessage header body ++ stream header bodies := rfl
      rw [split] at enough ⊢
      have long : 2 ≤ (wholeMessage header body).length := by
        simp only [wholeMessage, List.length_append, two]
        omega
      rw [List.length_append] at enough
      rw [List.forall_mem_cons]
      by_cases same : bodySize (header body.length) = body.length
      · have some_fuel : fuel = fuel - 1 + 1 := by omega
        rw [some_fuel, read_within_cons two body _ _ same, ← induction (fuel - 1) (by omega),
          Prod.ext_iff, Prod.ext_iff]
        simp [same]
      · constructor
        · intro read
          exact absurd (congrArg Prod.fst read) (read_within_other two body _ fuel same bodies)
        · intro all
          exact absurd all.1 same

end Framing

section Headers

theorem header_bytes_length (size : Nat) : (headerBytes size).length = 2 := rfl

/-- `SocketSession::send`, read by `MirSocketRpcChannel::read_message_header`. -/
def sendReplies (bodies : List Text) : Text := stream headerBytes bodies

def readReplies (unread : Text) : List Text × Text := readBodies readMessageHeader unread

/-- `MirSocketRpcChannel::send_message`, read by `SocketSession::on_read_size`. -/
def sendMessages (bodies : List Text) : Text := stream headerBytes bodies

def onReadSize (messageHeaderBytes : Text) : Nat := readMessageHeader messageHeaderBytes

def readRequests (unread : Text) : List Text × Text := readBodies onReadSize unread

theorem read_framed_iff (bodies : List Text) :
    readBodies readMessageHeader (stream headerBytes bodies) = (bodies, []) ↔
      ∀ body ∈ bodies, body.length < 65536 := by
  rw [readBodies, read_within_iff header_bytes_length bodies _ (le_refl _)]
  constructor
  · intro said body member
    have size := said body member
    rw [header_size] at size
    omega
  · intro short body member
    have bound := short body member
    rw [header_size]
    omega

/-- Either reader gets back what the writer on the other side was given exactly when
no body has more than sixteen bits of length. -/
theorem framing_returns_the_bodies_iff (bodies : List Text) :
    (readReplies (sendReplies bodies) = (bodies, []) ↔
      ∀ body ∈ bodies, body.length < 65536) ∧
    (readRequests (sendMessages bodies) = (bodies, []) ↔
      ∀ body ∈ bodies, body.length < 65536) :=
  ⟨read_framed_iff bodies, read_framed_iff bodies⟩

theorem short_bodies_are_returned :
    readReplies (sendReplies [[8, 1], [], [18, 0, 7]]) = ([[8, 1], [], [18, 0, 7]], []) ∧
      readRequests (sendMessages [[8, 1], [], [18, 0, 7]]) = ([[8, 1], [], [18, 0, 7]], []) := by
  have short : ∀ body ∈ ([[8, 1], [], [18, 0, 7]] : List Text), body.length < 65536 := by decide
  have framed := framing_returns_the_bodies_iff [[8, 1], [], [18, 0, 7]]
  exact ⟨framed.1.mpr short, framed.2.mpr short⟩

def longBody : Text := List.replicate 65536 65

theorem long_body_length : longBody.length = 65536 := List.length_replicate

/-- It is read as an empty body, and its own bytes as the messages that follow. -/
theorem long_body_is_read_as_empty :
    (readReplies (sendReplies [longBody])).1.head? = some [] ∧
      (readRequests (sendMessages [longBody])).1.head? = some [] ∧
      longBody ≠ [] := by
  have said : readMessageHeader (headerBytes longBody.length) = 0 := by
    rw [header_size, long_body_length]
  have single : stream headerBytes [longBody] = wholeMessage headerBytes longBody ++ [] := rfl
  have first : (readBodies readMessageHeader (stream headerBytes [longBody])).1.head? =
      some [] := by
    have some_fuel : (stream headerBytes [longBody]).length = 65537 + 1 := by
      rw [single, List.append_nil, wholeMessage, List.length_append, header_bytes_length,
        long_body_length]
    rw [readBodies, some_fuel, single,
      read_within_message header_bytes_length longBody [] 65537 0 said (Nat.zero_le _)]
    rfl
  have long : longBody ≠ [] := by
    apply List.ne_nil_of_length_pos
    rw [long_body_length]
    decide
  exact ⟨first, first, long⟩

end Headers

end Mir.MessageFraming
