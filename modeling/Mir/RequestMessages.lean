import Mir.MessageEncoding

/-!
# The requests of the `DisplayServer` service

The parameter messages of `mir_protobuf.proto`, `wire::Invocation` and the method names
that `ProtobufMessageProcessor::dispatch` knows. As for the results, every field that
can be absent is an `Option`, and getters have defaults.
-/

namespace Mir.RequestMessages

open Mir.ProtocolMessages Mir.ProtobufWire Mir.MessageEncoding

set_option autoImplicit false

structure ConnectParameters where
  applicationName : Option Text := none
  lightdmId : Option Int32 := none
  deriving DecidableEq, Repr

structure SurfaceParameters where
  width : Option Int32 := none
  height : Option Int32 := none
  pixelFormat : Option Int32 := none
  bufferUsage : Option Int32 := none
  surfaceName : Option Text := none
  deriving DecidableEq, Repr

structure LightdmId where
  value : Option Int32 := none
  deriving DecidableEq, Repr

structure DRMMagic where
  magic : Option UInt32 := none
  error : Option Text := none
  deriving DecidableEq, Repr

structure Invocation where
  id : Option UInt32 := none
  methodName : Option Text := none
  parameters : Option Text := none
  deriving DecidableEq, Repr

inductive Method where
  | connect
  | createSurface
  | nextBuffer
  | releaseSurface
  | testFileDescriptors
  | drmAuthMagic
  | selectFocusByLightdmId
  | configureSurface
  | disconnect
  deriving DecidableEq, Repr

/-- The bytes of a string literal. -/
def ascii (literal : String) : Text :=
  literal.toList.map fun character => character.toNat.toUInt8

/-- The chain of comparisons in `dispatch`. -/
def methodOf (methodName : Text) : Option Method :=
  if methodName = ascii "connect" then some .connect
  else if methodName = ascii "create_surface" then some .createSurface
  else if methodName = ascii "next_buffer" then some .nextBuffer
  else if methodName = ascii "release_surface" then some .releaseSurface
  else if methodName = ascii "test_file_descriptors" then some .testFileDescriptors
  else if methodName = ascii "drm_auth_magic" then some .drmAuthMagic
  else if methodName = ascii "select_focus_by_lightdm_id" then some .selectFocusByLightdmId
  else if methodName = ascii "configure_surface" then some .configureSurface
  else if methodName = ascii "disconnect" then some .disconnect
  else none

def Invocation.method (invocation : Invocation) : Option Method :=
  methodOf (invocation.methodName.getD [])

/-- The generated parsers. They leave a message behind whether or not they succeed,
and the callers do not ask. -/
structure RequestParser where
  invocation : Text → Invocation
  connectParameters : Text → ConnectParameters
  surfaceParameters : Text → SurfaceParameters
  surfaceId : Text → SurfaceId
  lightdmId : Text → LightdmId
  drmMagic : Text → DRMMagic
  void : Text → Void
  surfaceSetting : Text → SurfaceSetting

section WireFormat

def connectParametersOf (records : List Record) : ConnectParameters where
  applicationName := (contents 1 records).getLast?
  lightdmId := (int32s 2 records).getLast?

def surfaceParametersOf (records : List Record) : SurfaceParameters where
  width := (int32s 1 records).getLast?
  height := (int32s 2 records).getLast?
  pixelFormat := (int32s 3 records).getLast?
  bufferUsage := (int32s 4 records).getLast?
  surfaceName := (contents 5 records).getLast?

def lightdmIdOf (records : List Record) : LightdmId where
  value := (int32s 1 records).getLast?

def drmMagicOf (records : List Record) : DRMMagic where
  magic := (uint32s 1 records).getLast?
  error := (contents 127 records).getLast?

def invocationOf (records : List Record) : Invocation where
  id := (uint32s 1 records).getLast?
  methodName := (contents 2 records).getLast?
  parameters := (contents 3 records).getLast?

/-- The parsers of the protobuf wire format, for well-formed input. -/
def protobufParser : RequestParser where
  invocation := fun input => invocationOf (decodeRecords input)
  connectParameters := fun input => connectParametersOf (decodeRecords input)
  surfaceParameters := fun input => surfaceParametersOf (decodeRecords input)
  surfaceId := fun input => surfaceIdOf (decodeRecords input)
  lightdmId := fun input => lightdmIdOf (decodeRecords input)
  drmMagic := fun input => drmMagicOf (decodeRecords input)
  void := fun input => voidOf (decodeRecords input)
  surfaceSetting := fun input => surfaceSettingOf (decodeRecords input)

/-- The body that a client sends for a call. -/
def invocationBody (id : UInt32) (name : String) (parameters : Text) : Text :=
  encodeRecords (uint32Field 1 [id] ++ bytesField 2 [ascii name] ++ bytesField 3 [parameters])

theorem parse_invocation_body (id : UInt32) (name : String) (parameters : Text) :
    protobufParser.invocation (invocationBody id name parameters) =
      ⟨some id, some (ascii name), some parameters⟩ := by
  simp only [protobufParser, invocationBody, decode_encode_records]
  simp [invocationOf]

end WireFormat

end Mir.RequestMessages
