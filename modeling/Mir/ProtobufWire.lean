import Mathlib.Data.List.Basic
import Mathlib.Data.Nat.Log
import Mathlib.Data.UInt

/-!
# The protobuf wire format

A message on the wire is a sequence of records, each a field number with a varint
or a length-delimited payload. Decoding is total: it stops at the first record
that is not well formed or has another wire type, and keeps what it has read. A
message type is then a translation to and from records; fields it does not know
are passed over because it never asks for them.
-/

namespace Mir.ProtobufWire

set_option autoImplicit false

abbrev Bytes := List UInt8

section Varint

def encodeVarintWithin : Nat → Nat → Bytes
  | 0, value => [UInt8.ofNat value]
  | fuel + 1, value =>
      if value < 128 then [UInt8.ofNat value]
      else UInt8.ofNat (value % 128 + 128) :: encodeVarintWithin fuel (value / 128)

def encodeVarint (value : Nat) : Bytes := encodeVarintWithin value.log2 value

def decodeVarint : Bytes → Option (Nat × Bytes)
  | [] => none
  | byte :: rest =>
      if byte.toNat < 128 then some (byte.toNat, rest)
      else (decodeVarint rest).map fun (high, unread) => (byte.toNat - 128 + 128 * high, unread)

theorem to_nat_of_nat {value : Nat} (small : value < 256) : (UInt8.ofNat value).toNat = value := by
  simpa using small

theorem decode_encode_varint_within (fuel value : Nat) (fits : value < 128 ^ (fuel + 1))
    (unread : Bytes) :
    decodeVarint (encodeVarintWithin fuel value ++ unread) = some (value, unread) := by
  induction fuel generalizing value with
  | zero =>
      have small : value < 128 := by simpa using fits
      simp [encodeVarintWithin, decodeVarint, to_nat_of_nat (show value < 256 by omega), small]
  | succ fuel ih =>
      unfold encodeVarintWithin
      split_ifs with small
      · simp [decodeVarint, to_nat_of_nat (show value < 256 by omega), small]
      · have high : value / 128 < 128 ^ (fuel + 1) := by
          apply Nat.div_lt_of_lt_mul
          rw [← Nat.pow_succ']
          exact fits
        have low : (UInt8.ofNat (value % 128 + 128)).toNat = value % 128 + 128 :=
          to_nat_of_nat (by omega)
        have large : ¬ value % 128 + 128 < 128 := by omega
        simp only [List.cons_append, decodeVarint, low, large, if_false, ih _ high,
          Option.map_some, Option.some.injEq, Prod.mk.injEq, and_true]
        omega

theorem decode_encode_varint (value : Nat) (unread : Bytes) :
    decodeVarint (encodeVarint value ++ unread) = some (value, unread) := by
  apply decode_encode_varint_within
  calc value < 2 ^ (value.log2 + 1) := Nat.lt_log2_self
    _ ≤ 128 ^ (value.log2 + 1) := Nat.pow_le_pow_left (by decide) _

theorem encode_varint_ne_nil (value : Nat) : encodeVarint value ≠ [] := by
  unfold encodeVarint
  cases value.log2 with
  | zero => simp [encodeVarintWithin]
  | succ fuel =>
      unfold encodeVarintWithin
      split_ifs <;> simp

end Varint

section Records

inductive Payload where
  | varint (value : Nat)
  | bytes (content : Bytes)
  deriving DecidableEq, Repr

structure Record where
  field : Nat
  payload : Payload
  deriving DecidableEq, Repr

def encodeRecord (record : Record) : Bytes :=
  match record.payload with
  | .varint value => encodeVarint (record.field * 8) ++ encodeVarint value
  | .bytes content =>
      encodeVarint (record.field * 8 + 2) ++ encodeVarint content.length ++ content

def encodeRecords (records : List Record) : Bytes := records.flatMap encodeRecord

def decodeRecord (input : Bytes) : Option (Record × Bytes) := do
  let (tag, afterTag) ← decodeVarint input
  match tag % 8 with
  | 0 =>
      let (value, unread) ← decodeVarint afterTag
      some (⟨tag / 8, .varint value⟩, unread)
  | 2 =>
      let (length, afterLength) ← decodeVarint afterTag
      if length ≤ afterLength.length then
        some (⟨tag / 8, .bytes (afterLength.take length)⟩, afterLength.drop length)
      else none
  | _ => none

def decodeRecordsWithin : Nat → Bytes → List Record
  | 0, _ => []
  | fuel + 1, input => match decodeRecord input with
      | none => []
      | some (record, unread) => record :: decodeRecordsWithin fuel unread

/-- Every record takes up at least one byte. -/
def decodeRecords (input : Bytes) : List Record := decodeRecordsWithin input.length input

theorem decode_encode_record (record : Record) (unread : Bytes) :
    decodeRecord (encodeRecord record ++ unread) = some (record, unread) := by
  rcases record with ⟨field, value | content⟩
  · simp [decodeRecord, encodeRecord, decode_encode_varint, List.append_assoc]
  · have wireType : (field * 8 + 2) % 8 = 2 := by omega
    have number : (field * 8 + 2) / 8 = field := by omega
    simp [decodeRecord, encodeRecord, decode_encode_varint, List.append_assoc, wireType, number]

theorem encode_record_ne_nil (record : Record) : encodeRecord record ≠ [] := by
  rcases record with ⟨field, value | content⟩ <;>
    simp [encodeRecord, encode_varint_ne_nil]

theorem decode_records_within (records : List Record) (fuel : Nat)
    (enough : records.length ≤ fuel) :
    decodeRecordsWithin fuel (encodeRecords records) = records := by
  induction records generalizing fuel with
  | nil =>
      cases fuel with
      | zero => rfl
      | succ fuel => rfl
  | cons record rest ih =>
      cases fuel with
      | zero => simp at enough
      | succ fuel =>
          have further : rest.length ≤ fuel := by simpa using enough
          have first := decode_encode_record record (encodeRecords rest)
          rw [encodeRecords, List.flatMap_cons, ← encodeRecords, decodeRecordsWithin, first]
          simp only [ih fuel further]

theorem length_le_encode_records (records : List Record) :
    records.length ≤ (encodeRecords records).length := by
  induction records with
  | nil => simp
  | cons record rest ih =>
      have positive := List.length_pos_iff.mpr (encode_record_ne_nil record)
      rw [encodeRecords, List.flatMap_cons, ← encodeRecords, List.length_append, List.length_cons]
      omega

theorem decode_encode_records (records : List Record) :
    decodeRecords (encodeRecords records) = records :=
  decode_records_within records _ (length_le_encode_records records)

end Records

section Fields

def varintField (field : Nat) (values : List Nat) : List Record :=
  values.map fun value => ⟨field, .varint value⟩

def bytesField (field : Nat) (contents : List Bytes) : List Record :=
  contents.map fun content => ⟨field, .bytes content⟩

/-- The varints of a field, in order. A singular field has the last one. -/
def varints (field : Nat) (records : List Record) : List Nat :=
  records.filterMap fun record => match record.payload with
    | .varint value => if record.field = field then some value else none
    | .bytes _ => none

def contents (field : Nat) (records : List Record) : List Bytes :=
  records.filterMap fun record => match record.payload with
    | .varint _ => none
    | .bytes content => if record.field = field then some content else none

/-- A singular embedded message is the merge of all its occurrences, which is what
parsing their concatenation gives. -/
@[simp] def embedded (field : Nat) (records : List Record) : Option (List Record) :=
  match contents field records with
  | [] => none
  | occurrences => some (decodeRecords occurrences.flatten)

@[simp] theorem varints_append (field : Nat) (first second : List Record) :
    varints field (first ++ second) = varints field first ++ varints field second :=
  List.filterMap_append

@[simp] theorem contents_append (field : Nat) (first second : List Record) :
    contents field (first ++ second) = contents field first ++ contents field second :=
  List.filterMap_append

@[simp] theorem varints_varint_field (field other : Nat) (values : List Nat) :
    varints field (varintField other values) = if other = field then values else [] := by
  by_cases same : other = field <;>
    simp [varints, varintField, List.filterMap_map, same]

@[simp] theorem varints_bytes_field (field other : Nat) (occurrences : List Bytes) :
    varints field (bytesField other occurrences) = [] := by
  simp [varints, bytesField, List.filterMap_map]

@[simp] theorem contents_bytes_field (field other : Nat) (occurrences : List Bytes) :
    contents field (bytesField other occurrences) = if other = field then occurrences else [] := by
  by_cases same : other = field <;>
    simp [contents, bytesField, List.filterMap_map, same]

@[simp] theorem contents_varint_field (field other : Nat) (values : List Nat) :
    contents field (varintField other values) = [] := by
  simp [contents, varintField, List.filterMap_map]

end Fields

section Integers

/-- `int32`: negative numbers are sign-extended to 64 bits. -/
def encodeInt32 (value : Int32) : Nat := value.toInt64.toUInt64.toNat

def decodeInt32 (varint : Nat) : Int32 := (UInt64.ofNat varint).toUInt32.toInt32

/-- `sint32`: the zigzag encoding. -/
def encodeSint32 (value : Int32) : Nat :=
  if 0 ≤ value.toInt then 2 * value.toInt.toNat else 2 * (-value.toInt).toNat - 1

def decodeSint32 (varint : Nat) : Int32 :=
  if varint % 2 = 0 then Int32.ofInt (varint / 2) else Int32.ofInt (-((varint + 1) / 2))

def encodeUint32 (value : UInt32) : Nat := value.toNat

def decodeUint32 (varint : Nat) : UInt32 := UInt32.ofNat varint

@[simp] theorem decode_encode_int32 (value : Int32) : decodeInt32 (encodeInt32 value) = value := by
  rw [decodeInt32, encodeInt32, UInt64.ofNat_toNat]
  apply Int32.toBitVec_inj.mp
  show (value.toBitVec.signExtend 64).setWidth 32 = value.toBitVec
  ext index inside
  have further : index < 64 := by omega
  simp [BitVec.getElem_signExtend, inside, further]

@[simp] theorem decode_encode_sint32 (value : Int32) :
    decodeSint32 (encodeSint32 value) = value := by
  unfold encodeSint32 decodeSint32
  split_ifs with positive even even
  · have half : ((2 * value.toInt.toNat : Nat) : Int) / 2 = value.toInt := by omega
    rw [half, Int32.ofInt_toInt]
  · omega
  · omega
  · have half : -(((2 * (-value.toInt).toNat - 1 : Nat) + 1 : Int) / 2) = value.toInt := by omega
    rw [half, Int32.ofInt_toInt]

@[simp] theorem decode_encode_uint32 (value : UInt32) :
    decodeUint32 (encodeUint32 value) = value := by
  simp [decodeUint32, encodeUint32]

end Integers

section TypedFields

@[simp] def int32Field (field : Nat) (values : List Int32) : List Record :=
  varintField field (values.map encodeInt32)

@[simp] def sint32Field (field : Nat) (values : List Int32) : List Record :=
  varintField field (values.map encodeSint32)

@[simp] def uint32Field (field : Nat) (values : List UInt32) : List Record :=
  varintField field (values.map encodeUint32)

@[simp] def messageField (field : Nat) (message : Option (List Record)) : List Record :=
  bytesField field (message.toList.map encodeRecords)

@[simp] def int32s (field : Nat) (records : List Record) : List Int32 :=
  (varints field records).map decodeInt32

@[simp] def sint32s (field : Nat) (records : List Record) : List Int32 :=
  (varints field records).map decodeSint32

@[simp] def uint32s (field : Nat) (records : List Record) : List UInt32 :=
  (varints field records).map decodeUint32

@[simp] theorem last_of_option {Value : Type} (value : Option Value) :
    value.toList.getLast? = value := by
  cases value <;> rfl

@[simp] theorem merged_message (message : Option (List Record)) :
    (match message.toList.map encodeRecords with
      | [] => none
      | occurrences => some (decodeRecords occurrences.flatten)) = message := by
  cases message with
  | none => rfl
  | some records => simp [decode_encode_records]

end TypedFields

end Mir.ProtobufWire
