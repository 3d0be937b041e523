import Mir.ClientSurface
import Mir.DepositoryHistory

/-!
# Error replies to `next_buffer`

A `MirSurface` from the reply that created it on, through any sequence of replies
to `next_buffer`. The server fills in the buffer or the error. The error is
parsed into `surface.buffer`, while `is_valid` reads `surface.error`, so the
client deposits the message as if it were a buffer.
-/

namespace Mir.ErrorReplies

open Mir.DepositoryModel Mir.DepositoryHistory Mir.ClientSurface
open Mir.ProtocolMessages (Surface Text)

set_option autoImplicit false

variable {Content : Type}

structure IssuedBuffer where
  id : Int32
  data : List Int32
  fd : List Int32
  fdsOnSideChannel : Option Int32
  stride : Int32
  deriving DecidableEq, Repr

def IssuedBuffer.message (buffer : IssuedBuffer) : ProtocolMessages.Buffer where
  bufferId := some buffer.id
  fd := buffer.fd
  data := buffer.data
  fdsOnSideChannel := buffer.fdsOnSideChannel
  stride := some buffer.stride

inductive BufferReply where
  | issued (buffer : IssuedBuffer)
  | failed (error : Text)
  deriving DecidableEq, Repr

def BufferReply.message : BufferReply → ProtocolMessages.Buffer
  | .issued buffer => buffer.message
  | .failed error => { error := some error }

/-- The reply that makes the surface valid. -/
structure Creation (Content : Type) where
  createBuffer : ClientBufferFactory Content
  response : Surface
  buffer : IssuedBuffer
  valid : response.error = none
  supplied : response.buffer = some buffer.message

/-- A reply, and how `create_buffer` behaves if it is called for it. -/
structure Answer (Content : Type) where
  createBuffer : ClientBufferFactory Content
  reply : BufferReply

def answered (client : MirSurface Content) (answer : Answer Content) : MirSurface Content :=
  newBuffer answer.createBuffer answer.reply.message (nextBuffer client)

def surfaceAfter (creation : Creation Content) (answers : List (Answer Content)) :
    MirSurface Content :=
  answers.foldl answered (created creation.createBuffer creation.response requested)

def lastIssued (creation : Creation Content) (answers : List (Answer Content)) : IssuedBuffer :=
  answers.foldl
    (fun last answer => match answer.reply with
      | .issued buffer => buffer
      | .failed _ => last)
    creation.buffer

/-- The client keeps the buffer `issued`, which it drew into before. -/
def Keeps (issued : IssuedBuffer) (before after : MirSurface Content) : Prop :=
  before.bufferDepository.currentBufferIter = some issued.id ∧
  after.bufferDepository.currentBufferIter = some issued.id ∧
  ∃ old buffer, currentBuffer before.bufferDepository = some old ∧
    currentBuffer after.bufferDepository = some buffer ∧ old.content = buffer.content

/-- Every error reply leaves the client with the buffer issued last, or invalid. -/
def FollowsServer (creation : Creation Content) (answers : List (Answer Content)) : Prop :=
  ∀ earlier createBuffer error later,
    answers = earlier ++ ⟨createBuffer, .failed error⟩ :: later →
    let before := surfaceAfter creation earlier
    let after := answered before ⟨createBuffer, .failed error⟩
    Keeps (lastIssued creation earlier) before after ∨ isValid after = false

theorem surface_after_snoc (creation : Creation Content) (answers : List (Answer Content))
    (last : Answer Content) :
    surfaceAfter creation (answers ++ [last]) =
      answered (surfaceAfter creation answers) last := by
  unfold surfaceAfter
  rw [List.foldl_append]
  rfl

/-- No reply to `next_buffer` makes the surface invalid. -/
theorem surface_after_valid (creation : Creation Content) (answers : List (Answer Content)) :
    isValid (surfaceAfter creation answers) = true := by
  induction answers using List.reverseRecOn with
  | nil =>
      have valid := creation.valid
      simp [surfaceAfter, created, processIncomingBuffer, isValid, valid]
  | append_singleton earlier last ih =>
      rw [surface_after_snoc]
      exact ih

theorem surface_after_denoted {creation : Creation Content} {answers : List (Answer Content)}
    {key : Int32}
    (current : (surfaceAfter creation answers).bufferDepository.currentBufferIter = some key) :
    (currentBuffer (surfaceAfter creation answers).bufferDepository).isSome := by
  cases answers using List.reverseRecOn with
  | nil => exact deposit_current_denoted current
  | append_singleton earlier last =>
      rw [surface_after_snoc] at current ⊢
      exact deposit_current_denoted current

def answerDelivery (client : MirSurface Content) (answer : Answer Content) :
    Delivery BufferPackage Content :=
  incomingDelivery answer.createBuffer
    { client with surface := { client.surface with buffer := some answer.reply.message } }

theorem answered_depository (client : MirSurface Content) (answer : Answer Content) :
    (answered client answer).bufferDepository =
      (depositPackage client.bufferDepository (answerDelivery client answer)).depository := rfl

theorem failed_delivery_id (client : MirSurface Content)
    (createBuffer : ClientBufferFactory Content) (error : Text) :
    (answerDelivery client ⟨createBuffer, .failed error⟩).id = 0 := rfl

theorem failed_current {client : MirSurface Content}
    {createBuffer : ClientBufferFactory Content} {error : Text} {key : Int32}
    (current : (answered client ⟨createBuffer, .failed error⟩).bufferDepository.currentBufferIter =
      some key) : key = 0 := by
  rw [answered_depository] at current
  rcases deposit_current client.bufferDepository
      (answerDelivery client ⟨createBuffer, .failed error⟩) with found | ⟨ended, -⟩
  · rw [found, failed_delivery_id] at current
    exact (Option.some.inj current).symm
  · rw [ended] at current
    cases current

theorem failed_keeps_zero {client : MirSurface Content} {old : AgingBuffer Content}
    (createBuffer : ClientBufferFactory Content) (error : Text)
    (cached : client.bufferDepository.buffers.lookup 0 = some old) :
    (answered client ⟨createBuffer, .failed error⟩).bufferDepository.currentBufferIter = some 0 ∧
      ∃ buffer, currentBuffer
          (answered client ⟨createBuffer, .failed error⟩).bufferDepository = some buffer ∧
        old.content = buffer.content := by
  have found : (agedBuffers client.bufferDepository
      (answerDelivery client ⟨createBuffer, .failed error⟩).id).lookup
      (answerDelivery client ⟨createBuffer, .failed error⟩).id =
        some (aged client.bufferDepository 0 old) := by
    rw [failed_delivery_id, lookup_aged_self, cached]
    rfl
  rw [answered_depository, deposit_found found]
  exact ⟨rfl, _, found, (aged_content _ _ _).symm⟩

theorem follows_server_iff (creation : Creation Content) (answers : List (Answer Content)) :
    FollowsServer creation answers ↔
      ∀ earlier createBuffer error later,
        answers = earlier ++ ⟨createBuffer, .failed error⟩ :: later →
        (lastIssued creation earlier).id = 0 ∧
          (surfaceAfter creation earlier).bufferDepository.currentBufferIter = some 0 := by
  constructor
  · intro follows earlier createBuffer error later split
    rcases follows earlier createBuffer error later split with keeps | invalid
    · obtain ⟨before, after, -⟩ := keeps
      have zero := failed_current after
      exact ⟨zero, zero ▸ before⟩
    · have valid := surface_after_valid creation (earlier ++ [⟨createBuffer, .failed error⟩])
      rw [surface_after_snoc, invalid] at valid
      cases valid
  · intro zero earlier createBuffer error later split
    left
    obtain ⟨same, current⟩ := zero earlier createBuffer error later split
    obtain ⟨old, denoted⟩ := Option.isSome_iff_exists.mp (surface_after_denoted current)
    have cached : (surfaceAfter creation earlier).bufferDepository.buffers.lookup 0 =
        some old := by
      rw [currentBuffer, current] at denoted
      exact denoted
    obtain ⟨after, buffer, found, kept⟩ := failed_keeps_zero createBuffer error cached
    rw [Keeps, same]
    exact ⟨current, after, old, buffer, denoted, found, kept⟩

def packageFactory : ClientBufferFactory BufferPackage := fun package _ _ => .ok package

/-- A surface whose first buffer has the id one. -/
def firstBuffer : Creation BufferPackage where
  createBuffer := packageFactory
  response := { buffer := some (IssuedBuffer.message ⟨1, [], [5], some 1, 256⟩) }
  buffer := ⟨1, [], [5], some 1, 256⟩
  valid := rfl
  supplied := rfl

/-- After the error the client draws into a buffer without file descriptors. -/
theorem error_reply_replaces_buffer :
    ¬FollowsServer firstBuffer [⟨packageFactory, .failed []⟩] ∧
      currentBuffer (surfaceAfter firstBuffer [⟨packageFactory, .failed []⟩]).bufferDepository =
        some ⟨⟨[], [], 0⟩, 0⟩ := by
  refine ⟨?_, rfl⟩
  intro follows
  rcases follows [] packageFactory [] [] rfl with ⟨-, after, -⟩ | invalid
  · cases after
  · cases invalid

end Mir.ErrorReplies
