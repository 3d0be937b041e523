import Mir.DepositoryModel
import Mir.ProtocolMessages

/-!
# `MirSurface` on the client

What the client library does with a `Surface` or `Buffer` reply. The message
objects `surface` and `surface.mutable_buffer()` are overwritten by the parsed
reply before `created` or `new_buffer` runs. An exception of `create_buffer` is
caught in `process_incoming_buffer` and logged.
-/

namespace Mir.ClientSurface

open Mir.DepositoryModel
open Mir.ProtocolMessages (Surface)

set_option autoImplicit false

/-- `MirBufferPackage`, with the item counts as the lengths of the arrays' used
parts. -/
structure BufferPackage where
  data : List Int32
  fd : List Int32
  stride : Int32
  deriving DecidableEq, Repr

abbrev ClientBufferFactory (Content : Type) :=
  BufferPackage → Size → PixelFormat → Except RuntimeError Content

structure MirSurface (Content : Type) where
  surface : Surface
  bufferDepository : ClientBufferDepository Content
  errorLog : List RuntimeError

variable {Content : Type}

/-- The constructor, before any reply has arrived. -/
def requested : MirSurface Content where
  surface := {}
  bufferDepository := construct 3
  errorLog := []

def isValid (client : MirSurface Content) : Bool := client.surface.error.isNone

def populate (client : MirSurface Content) : BufferPackage :=
  match isValid client, client.surface.buffer with
  | true, some buffer => ⟨buffer.data, buffer.fd, buffer.stride.getD 0⟩
  | _, _ => ⟨[], [], 0⟩

/-- `mir_pixel_format_abgr_8888` has the value 1. -/
def convertIpcPfToGeometry (pf : Int32) : PixelFormat :=
  if pf = 1 then .abgr8888 else .invalid

def incomingDelivery (createBuffer : ClientBufferFactory Content) (client : MirSurface Content) :
    Delivery BufferPackage Content where
  package := populate client
  id := (client.surface.buffer.getD {}).bufferId.getD 0
  size := ⟨(client.surface.width.getD 0).toUInt32, (client.surface.height.getD 0).toUInt32⟩
  pf := convertIpcPfToGeometry (client.surface.pixelFormat.getD 0)
  createBuffer := createBuffer

def processIncomingBuffer (createBuffer : ClientBufferFactory Content)
    (client : MirSurface Content) : MirSurface Content :=
  let deposited := depositPackage client.bufferDepository (incomingDelivery createBuffer client)
  { client with
    bufferDepository := deposited.depository
    errorLog := client.errorLog ++ deposited.thrown.toList }

/-- `next_buffer` takes `surface.mutable_buffer()`, which creates the message. -/
def nextBuffer (client : MirSurface Content) : MirSurface Content :=
  { client with
    surface := { client.surface with buffer := some (client.surface.buffer.getD {}) } }

def created (createBuffer : ClientBufferFactory Content) (response : Surface)
    (client : MirSurface Content) : MirSurface Content :=
  processIncomingBuffer createBuffer { client with surface := response }

def newBuffer (createBuffer : ClientBufferFactory Content)
    (response : ProtocolMessages.Buffer) (client : MirSurface Content) : MirSurface Content :=
  processIncomingBuffer createBuffer
    { client with surface := { client.surface with buffer := some response } }

/-- The client's current buffer stands for `id`; there is none only if a
`create_buffer` has thrown. -/
structure DrawsInto (id : Int32) (client : MirSurface Content) : Prop where
  current : ∀ key, client.bufferDepository.currentBufferIter = some key → key = id
  denoted : client.errorLog = [] → client.bufferDepository.currentBufferIter = some id

theorem process_draws_into {id : Int32} {client : MirSurface Content}
    (createBuffer : ClientBufferFactory Content)
    (named : (client.surface.buffer.getD {}).bufferId = some id) :
    DrawsInto id (processIncomingBuffer createBuffer client) := by
  have same : (incomingDelivery createBuffer client).id = id := by
    simp [incomingDelivery, named]
  rcases deposit_current client.bufferDepository (incomingDelivery createBuffer client) with
    found | ⟨ended, err, thrown⟩
  · rw [same] at found
    constructor
    · intro key denoted
      rw [processIncomingBuffer, found] at denoted
      exact (Option.some.inj denoted).symm
    · intro _
      exact found
  · constructor
    · intro key denoted
      rw [processIncomingBuffer, ended] at denoted
      cases denoted
    · intro nothing
      rw [processIncomingBuffer, List.append_eq_nil_iff] at nothing
      simp [thrown] at nothing

end Mir.ClientSurface
