import Mir.SwapperModel

/-!
# The messages of the `DisplayServer` service

The result messages of `mir_protobuf.proto`, field by field and in field order.
A field that `has_…()` can be asked about is an `Option`, also where the file says
`required`: a handler that throws leaves partly filled messages behind, and they
are sent. A getter of an absent field returns the default.
-/

namespace Mir.ProtocolMessages

open Mir.SwapperModel

set_option autoImplicit false

/-- The contents of a `std::string`. -/
abbrev Text := List UInt8

structure SurfaceId where
  value : Option Int32 := none
  deriving DecidableEq, Repr

structure Buffer where
  bufferId : Option Int32 := none
  fd : List Int32 := []
  data : List Int32 := []
  fdsOnSideChannel : Option Int32 := none
  stride : Option Int32 := none
  error : Option Text := none
  deriving DecidableEq, Repr

structure Platform where
  fd : List Int32 := []
  data : List Int32 := []
  fdsOnSideChannel : Option Int32 := none
  error : Option Text := none
  deriving DecidableEq, Repr

structure DisplayInfo where
  width : Option Int32 := none
  height : Option Int32 := none
  supportedPixelFormat : List UInt32 := []
  deriving DecidableEq, Repr

structure Connection where
  platform : Option Platform := none
  displayInfo : Option DisplayInfo := none
  error : Option Text := none
  deriving DecidableEq, Repr

structure Surface where
  id : Option SurfaceId := none
  width : Option Int32 := none
  height : Option Int32 := none
  pixelFormat : Option Int32 := none
  bufferUsage : Option Int32 := none
  buffer : Option Buffer := none
  fd : List Int32 := []
  fdsOnSideChannel : Option Int32 := none
  error : Option Text := none
  deriving DecidableEq, Repr

structure DRMAuthMagicStatus where
  statusCode : Option Int32 := none
  error : Option Text := none
  deriving DecidableEq, Repr

structure Void where
  error : Option Text := none
  deriving DecidableEq, Repr

structure SurfaceSetting where
  surfaceid : Option SurfaceId := none
  attrib : Option Int32 := none
  ivalue : Option Int32 := none
  error : Option Text := none
  deriving DecidableEq, Repr

/-- A filled-in result message of any of the service's methods. -/
inductive Response where
  | connection (message : Connection)
  | surface (message : Surface)
  | buffer (message : Buffer)
  | surfaceSetting (message : SurfaceSetting)
  | void (message : Void)
  | drmAuthMagicStatus (message : DRMAuthMagicStatus)
  deriving DecidableEq, Repr

inductive ResultType where
  | connection
  | surface
  | buffer
  | surfaceSetting
  | void
  | drmAuthMagicStatus
  deriving DecidableEq, Repr

def Response.resultType : Response → ResultType
  | .connection _ => .connection
  | .surface _ => .surface
  | .buffer _ => .buffer
  | .surfaceSetting _ => .surfaceSetting
  | .void _ => .void
  | .drmAuthMagicStatus _ => .drmAuthMagicStatus

/-- `wire::Result`. -/
structure WireResult where
  id : Option UInt32 := none
  response : Option Text := none
  deriving DecidableEq, Repr

/-- The generated protobuf code: parsing undoes serialisation. Parsing always leaves
a message behind; the callers ignore whether it succeeded. -/
structure Codec where
  serialize : Response → Text
  parse : ResultType → Text → Response
  serializeResult : WireResult → Text
  parseResult : Text → WireResult
  parse_serialize : ∀ response, parse response.resultType (serialize response) = response
  parse_serialize_result : ∀ result, parseResult (serializeResult result) = result

/-- `set_buffer_id(id.as_uint32_t())`: the field is an `int32`. -/
def bufferId (key : BufferID) : Int32 := key.value.toInt32

theorem buffer_id_injective : Function.Injective bufferId := by
  rintro ⟨left⟩ ⟨right⟩ same
  have values : left.toInt32.toUInt32 = right.toInt32.toUInt32 := congrArg Int32.toUInt32 same
  exact congrArg BufferID.mk values

end Mir.ProtocolMessages
