import Mir.ProtobufWire
import Mir.ProtocolMessages

/-!
# The messages on the wire

`mir_protobuf.proto` and `mir_protobuf_wire.proto` in the protobuf wire format:
field numbers and field types as the files have them, repeated fields unpacked.
-/

namespace Mir.MessageEncoding

open Mir.ProtobufWire Mir.ProtocolMessages

set_option autoImplicit false

def surfaceIdRecords (message : SurfaceId) : List Record :=
  int32Field 1 message.value.toList

def surfaceIdOf (records : List Record) : SurfaceId where
  value := (int32s 1 records).getLast?

def bufferRecords (message : Buffer) : List Record :=
  int32Field 1 message.bufferId.toList ++ sint32Field 2 message.fd ++
    int32Field 3 message.data ++ int32Field 4 message.fdsOnSideChannel.toList ++
    int32Field 5 message.stride.toList ++ bytesField 127 message.error.toList

def bufferOf (records : List Record) : Buffer where
  bufferId := (int32s 1 records).getLast?
  fd := sint32s 2 records
  data := int32s 3 records
  fdsOnSideChannel := (int32s 4 records).getLast?
  stride := (int32s 5 records).getLast?
  error := (contents 127 records).getLast?

def platformRecords (message : Platform) : List Record :=
  sint32Field 1 message.fd ++ int32Field 2 message.data ++
    int32Field 3 message.fdsOnSideChannel.toList ++ bytesField 127 message.error.toList

def platformOf (records : List Record) : Platform where
  fd := sint32s 1 records
  data := int32s 2 records
  fdsOnSideChannel := (int32s 3 records).getLast?
  error := (contents 127 records).getLast?

def displayInfoRecords (message : DisplayInfo) : List Record :=
  int32Field 1 message.width.toList ++ int32Field 2 message.height.toList ++
    uint32Field 3 message.supportedPixelFormat

def displayInfoOf (records : List Record) : DisplayInfo where
  width := (int32s 1 records).getLast?
  height := (int32s 2 records).getLast?
  supportedPixelFormat := uint32s 3 records

def connectionRecords (message : Connection) : List Record :=
  messageField 1 (message.platform.map platformRecords) ++
    messageField 2 (message.displayInfo.map displayInfoRecords) ++
    bytesField 127 message.error.toList

def connectionOf (records : List Record) : Connection where
  platform := (embedded 1 records).map platformOf
  displayInfo := (embedded 2 records).map displayInfoOf
  error := (contents 127 records).getLast?

def surfaceRecords (message : Surface) : List Record :=
  messageField 1 (message.id.map surfaceIdRecords) ++ int32Field 2 message.width.toList ++
    int32Field 3 message.height.toList ++ int32Field 4 message.pixelFormat.toList ++
    int32Field 5 message.bufferUsage.toList ++
    messageField 6 (message.buffer.map bufferRecords) ++ sint32Field 7 message.fd ++
    int32Field 8 message.fdsOnSideChannel.toList ++ bytesField 127 message.error.toList

def surfaceOf (records : List Record) : Surface where
  id := (embedded 1 records).map surfaceIdOf
  width := (int32s 2 records).getLast?
  height := (int32s 3 records).getLast?
  pixelFormat := (int32s 4 records).getLast?
  bufferUsage := (int32s 5 records).getLast?
  buffer := (embedded 6 records).map bufferOf
  fd := sint32s 7 records
  fdsOnSideChannel := (int32s 8 records).getLast?
  error := (contents 127 records).getLast?

def drmAuthMagicStatusRecords (message : DRMAuthMagicStatus) : List Record :=
  int32Field 1 message.statusCode.toList ++ bytesField 127 message.error.toList

def drmAuthMagicStatusOf (records : List Record) : DRMAuthMagicStatus where
  statusCode := (int32s 1 records).getLast?
  error := (contents 127 records).getLast?

def voidRecords (message : Void) : List Record := bytesField 127 message.error.toList

def voidOf (records : List Record) : Void where
  error := (contents 127 records).getLast?

def surfaceSettingRecords (message : SurfaceSetting) : List Record :=
  messageField 1 (message.surfaceid.map surfaceIdRecords) ++ int32Field 2 message.attrib.toList ++
    int32Field 3 message.ivalue.toList ++ bytesField 127 message.error.toList

def surfaceSettingOf (records : List Record) : SurfaceSetting where
  surfaceid := (embedded 1 records).map surfaceIdOf
  attrib := (int32s 2 records).getLast?
  ivalue := (int32s 3 records).getLast?
  error := (contents 127 records).getLast?

def resultRecords (message : WireResult) : List Record :=
  uint32Field 1 message.id.toList ++ bytesField 2 message.response.toList

def resultOf (records : List Record) : WireResult where
  id := (uint32s 1 records).getLast?
  response := (contents 2 records).getLast?

section RoundTrips

@[simp] theorem surface_id_of_records (message : SurfaceId) :
    surfaceIdOf (surfaceIdRecords message) = message := by
  simp [surfaceIdOf, surfaceIdRecords, Function.comp_def]

@[simp] theorem buffer_of_records (message : Buffer) :
    bufferOf (bufferRecords message) = message := by
  simp [bufferOf, bufferRecords, Function.comp_def]

@[simp] theorem platform_of_records (message : Platform) :
    platformOf (platformRecords message) = message := by
  simp [platformOf, platformRecords, Function.comp_def]

@[simp] theorem display_info_of_records (message : DisplayInfo) :
    displayInfoOf (displayInfoRecords message) = message := by
  simp [displayInfoOf, displayInfoRecords, Function.comp_def]

@[simp] theorem connection_of_records (message : Connection) :
    connectionOf (connectionRecords message) = message := by
  simp [connectionOf, connectionRecords, Function.comp_def]

@[simp] theorem surface_of_records (message : Surface) :
    surfaceOf (surfaceRecords message) = message := by
  simp [surfaceOf, surfaceRecords, Function.comp_def]

@[simp] theorem drm_auth_magic_status_of_records (message : DRMAuthMagicStatus) :
    drmAuthMagicStatusOf (drmAuthMagicStatusRecords message) = message := by
  simp [drmAuthMagicStatusOf, drmAuthMagicStatusRecords, Function.comp_def]

@[simp] theorem void_of_records (message : Void) : voidOf (voidRecords message) = message := by
  simp [voidOf, voidRecords]

@[simp] theorem surface_setting_of_records (message : SurfaceSetting) :
    surfaceSettingOf (surfaceSettingRecords message) = message := by
  simp [surfaceSettingOf, surfaceSettingRecords, Function.comp_def]

@[simp] theorem result_of_records (message : WireResult) :
    resultOf (resultRecords message) = message := by
  simp [resultOf, resultRecords, Function.comp_def]

end RoundTrips

def responseRecords : Response → List Record
  | .connection message => connectionRecords message
  | .surface message => surfaceRecords message
  | .buffer message => bufferRecords message
  | .surfaceSetting message => surfaceSettingRecords message
  | .void message => voidRecords message
  | .drmAuthMagicStatus message => drmAuthMagicStatusRecords message

def responseOf (records : List Record) : ResultType → Response
  | .connection => .connection (connectionOf records)
  | .surface => .surface (surfaceOf records)
  | .buffer => .buffer (bufferOf records)
  | .surfaceSetting => .surfaceSetting (surfaceSettingOf records)
  | .void => .void (voidOf records)
  | .drmAuthMagicStatus => .drmAuthMagicStatus (drmAuthMagicStatusOf records)

theorem response_of_records (response : Response) :
    responseOf (responseRecords response) response.resultType = response := by
  cases response <;> simp [responseOf, responseRecords, Response.resultType]

/-- The messages in the protobuf wire format. -/
def protobufCodec : Codec where
  serialize := fun response => encodeRecords (responseRecords response)
  parse := fun resultType input => responseOf (decodeRecords input) resultType
  serializeResult := fun result => encodeRecords (resultRecords result)
  parseResult := fun input => resultOf (decodeRecords input)
  parse_serialize := by
    intro response
    rw [decode_encode_records, response_of_records]
  parse_serialize_result := by
    intro result
    rw [decode_encode_records, result_of_records]

end Mir.MessageEncoding
