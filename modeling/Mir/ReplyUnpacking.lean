import Mir.ClientSurface
import Mir.FixedArrays

/-!
# Replies in the fixed arrays of the client's structs

`MirSurface::populate` and the two `MirConnection::populate`, which copy the repeated fields
of a reply into the arrays of `MirBufferPackage`, `MirPlatformPackage` and `MirDisplayInfo`.
-/

namespace Mir.ReplyUnpacking

open Mir.FixedArrays
open Mir.ProtocolMessages (Surface Buffer Connection Platform DisplayInfo)

set_option autoImplicit false

abbrev mirPlatformPackageMax : Nat := 32

abbrev mirBufferPackageMax : Nat := 32

abbrev mirSupportedPixelFormatMax : Nat := 32

structure MirPlatformPackage where
  dataItems : Nat
  fdItems : Nat
  data : Vector Int32 mirPlatformPackageMax
  fd : Vector Int32 mirPlatformPackageMax

structure MirBufferPackage where
  dataItems : Nat
  fdItems : Nat
  data : Vector Int32 mirBufferPackageMax
  fd : Vector Int32 mirBufferPackageMax
  stride : Int32

structure MirDisplayInfo where
  width : Int32
  height : Int32
  supportedPixelFormatItems : Nat
  supportedPixelFormat : Vector UInt32 mirSupportedPixelFormatMax

/-- The two loops that a surface and a connection have in common. -/
def storeFields {size : Nat} (dataArray fdArray : Vector Int32 size) (data fd : List Int32) :
    Option (Vector Int32 size × Vector Int32 size) :=
  (storeAll dataArray 0 data).bind fun written =>
    (storeAll fdArray 0 fd).map fun fds => (written, fds)

def populateBufferPackage (surface : Surface) (bufferPackage : MirBufferPackage) :
    Option MirBufferPackage :=
  match surface.error, surface.buffer with
  | none, some buffer =>
      (storeFields bufferPackage.data bufferPackage.fd buffer.data buffer.fd).map
        fun (data, fd) =>
          { dataItems := buffer.data.length
            fdItems := buffer.fd.length
            data := data
            fd := fd
            stride := buffer.stride.getD 0 }
  | _, _ => some { bufferPackage with dataItems := 0, fdItems := 0, stride := 0 }

def populatePlatformPackage (connectResult : Connection) (platformPackage : MirPlatformPackage) :
    Option MirPlatformPackage :=
  match connectResult.error, connectResult.platform with
  | none, some platform =>
      (storeFields platformPackage.data platformPackage.fd platform.data platform.fd).map
        fun (data, fd) =>
          { dataItems := platform.data.length
            fdItems := platform.fd.length
            data := data
            fd := fd }
  | _, _ => some { platformPackage with dataItems := 0, fdItems := 0 }

def populateDisplayInfo (connectResult : Connection) (displayInfo : MirDisplayInfo) :
    Option MirDisplayInfo :=
  match connectResult.error, connectResult.displayInfo with
  | none, some info =>
      let pfSize := info.supportedPixelFormat.length
      let items := if pfSize > mirSupportedPixelFormatMax then mirSupportedPixelFormatMax
        else pfSize
      (storeAll displayInfo.supportedPixelFormat 0 (info.supportedPixelFormat.take items)).map
        fun formats =>
          { width := info.width.getD 0
            height := info.height.getD 0
            supportedPixelFormatItems := items
            supportedPixelFormat := formats }
  | _, _ => some { displayInfo with width := 0, height := 0, supportedPixelFormatItems := 0 }

section Unpacked

variable {Value : Type} {size : Nat}

/-- The items fit the array, and are the first entries of the field. -/
structure Unpacked (items : Nat) (array : Vector Value size) (entries : List Value) : Prop where
  bounded : items ≤ size
  first : array.toList.take items = entries.take items

theorem unpacked_nothing (array : Vector Value size) (entries : List Value) :
    Unpacked 0 array entries := ⟨Nat.zero_le _, rfl⟩

theorem stored_unpacked (array : Vector Value size) {entries : List Value}
    (room : entries.length ≤ size) :
    ∃ written, storeAll array 0 entries = some written ∧
      Unpacked entries.length written entries := by
  obtain ⟨written, stored, same⟩ := store_all_some array (show 0 + entries.length ≤ size by omega)
  refine ⟨written, stored, room, ?_⟩
  rw [same]
  simp

theorem stored_cut (array : Vector Value size) (entries : List Value) :
    ∃ written,
      storeAll array 0 (entries.take (if entries.length > size then size else entries.length)) =
        some written ∧
      Unpacked (if entries.length > size then size else entries.length) written entries := by
  have bounded : (if entries.length > size then size else entries.length) ≤ size := by
    split_ifs <;> omega
  have short : (if entries.length > size then size else entries.length) ≤ entries.length := by
    split_ifs <;> omega
  generalize (if entries.length > size then size else entries.length) = items at bounded short
  have cutLength : (entries.take items).length = items := by
    rw [List.length_take]
    omega
  obtain ⟨written, stored, unpacked⟩ := stored_unpacked array (cutLength.trans_le bounded)
  rw [cutLength] at unpacked
  refine ⟨written, stored, bounded, unpacked.first.trans ?_⟩
  rw [List.take_take, Nat.min_self]

end Unpacked

section Packages

structure Fits (data fd : List Int32) (size : Nat) : Prop where
  data : data.length ≤ size
  fd : fd.length ≤ size

theorem store_fields_some {size : Nat} (dataArray fdArray : Vector Int32 size)
    {data fd : List Int32} (fits : Fits data fd size) :
    ∃ written fds, storeFields dataArray fdArray data fd = some (written, fds) ∧
      Unpacked data.length written data ∧ Unpacked fd.length fds fd := by
  obtain ⟨written, storedData, dataUnpacked⟩ := stored_unpacked dataArray fits.data
  obtain ⟨fds, storedFds, fdUnpacked⟩ := stored_unpacked fdArray fits.fd
  refine ⟨written, fds, ?_, dataUnpacked, fdUnpacked⟩
  rw [storeFields, storedData, storedFds]
  rfl

/-- Without a check of their lengths the loops write beyond the arrays. -/
theorem store_fields_none {size : Nat} (dataArray fdArray : Vector Int32 size)
    {data fd : List Int32} (unfit : ¬Fits data fd size) :
    storeFields dataArray fdArray data fd = none := by
  unfold storeFields
  by_cases room : data.length ≤ size
  · have beyond : size < 0 + fd.length := by
      by_contra short
      exact unfit ⟨room, by omega⟩
    rw [store_all_none fdArray beyond (Nat.zero_le _)]
    cases storeAll dataArray 0 data <;> rfl
  · rw [store_all_none dataArray (by omega) (Nat.zero_le _)]
    rfl

theorem fields_unpacked_iff {Package : Type} {size : Nat} (dataArray fdArray : Vector Int32 size)
    {data fd : List Int32} (make : Vector Int32 size × Vector Int32 size → Package)
    (unpacked : Package → Prop)
    (holds : ∀ written fds, Unpacked data.length written data → Unpacked fd.length fds fd →
      unpacked (make (written, fds))) :
    (∃ package, (storeFields dataArray fdArray data fd).map make = some package ∧
      unpacked package) ↔ Fits data fd size := by
  constructor
  · rintro ⟨package, stored, -⟩
    by_contra unfit
    rw [store_fields_none dataArray fdArray unfit] at stored
    cases stored
  · intro fits
    obtain ⟨written, fds, stored, dataUnpacked, fdUnpacked⟩ :=
      store_fields_some dataArray fdArray fits
    exact ⟨_, congrArg (Option.map make) stored, holds _ _ dataUnpacked fdUnpacked⟩

def BufferUnpacked (surface : Surface) (before : MirBufferPackage) : Prop :=
  ∃ package, populateBufferPackage surface before = some package ∧
    Unpacked package.dataItems package.data (surface.buffer.getD {}).data ∧
    Unpacked package.fdItems package.fd (surface.buffer.getD {}).fd

def PlatformUnpacked (connectResult : Connection) (before : MirPlatformPackage) : Prop :=
  ∃ package, populatePlatformPackage connectResult before = some package ∧
    Unpacked package.dataItems package.data (connectResult.platform.getD {}).data ∧
    Unpacked package.fdItems package.fd (connectResult.platform.getD {}).fd

def DisplayInfoUnpacked (connectResult : Connection) (before : MirDisplayInfo) : Prop :=
  ∃ info, populateDisplayInfo connectResult before = some info ∧
    Unpacked info.supportedPixelFormatItems info.supportedPixelFormat
      (connectResult.displayInfo.getD {}).supportedPixelFormat

/-- A reply with an error is not unpacked. -/
def BufferFits (surface : Surface) : Prop :=
  surface.error = none → ∀ buffer, surface.buffer = some buffer →
    Fits buffer.data buffer.fd mirBufferPackageMax

def PlatformFits (connectResult : Connection) : Prop :=
  connectResult.error = none → ∀ platform, connectResult.platform = some platform →
    Fits platform.data platform.fd mirPlatformPackageMax

theorem buffer_unpacked_iff (surface : Surface) (before : MirBufferPackage) :
    BufferUnpacked surface before ↔ BufferFits surface := by
  unfold BufferUnpacked BufferFits populateBufferPackage
  cases error : surface.error with
  | some text => simp [unpacked_nothing]
  | none =>
      cases present : surface.buffer with
      | none => simp [unpacked_nothing]
      | some buffer =>
          refine (fields_unpacked_iff before.data before.fd _ _ ?_).trans ?_
          · exact fun _ _ dataUnpacked fdUnpacked => ⟨dataUnpacked, fdUnpacked⟩
          · simp

/-- The list model of the package is what the arrays hold, as long as they hold it. -/
theorem populate_agrees {Content : Type} {client : ClientSurface.MirSurface Content}
    {before package : MirBufferPackage}
    (populated : populateBufferPackage client.surface before = some package) :
    ClientSurface.populate client =
      ⟨package.data.toList.take package.dataItems, package.fd.toList.take package.fdItems,
        package.stride⟩ := by
  have unpacked : BufferUnpacked client.surface before := by
    rw [buffer_unpacked_iff]
    intro valid buffer present
    by_contra unfit
    simp [populateBufferPackage, valid, present,
      store_fields_none before.data before.fd unfit] at populated
  obtain ⟨same, again, dataUnpacked, fdUnpacked⟩ := unpacked
  rw [populated] at again
  cases again
  rw [dataUnpacked.first, fdUnpacked.first]
  unfold populateBufferPackage at populated
  unfold ClientSurface.populate ClientSurface.isValid
  cases error : client.surface.error with
  | some text =>
      rw [error] at populated
      cases populated
      rfl
  | none =>
      cases present : client.surface.buffer with
      | none =>
          rw [error, present] at populated
          cases populated
          rfl
      | some buffer =>
          rw [error, present] at populated
          obtain ⟨arrays, -, rfl⟩ := Option.map_eq_some_iff.mp populated
          simp

theorem platform_unpacked_iff (connectResult : Connection) (before : MirPlatformPackage) :
    PlatformUnpacked connectResult before ↔ PlatformFits connectResult := by
  unfold PlatformUnpacked PlatformFits populatePlatformPackage
  cases error : connectResult.error with
  | some text => simp [unpacked_nothing]
  | none =>
      cases present : connectResult.platform with
      | none => simp [unpacked_nothing]
      | some platform =>
          refine (fields_unpacked_iff before.data before.fd _ _ ?_).trans ?_
          · exact fun _ _ dataUnpacked fdUnpacked => ⟨dataUnpacked, fdUnpacked⟩
          · simp

theorem display_info_unpacked (connectResult : Connection) (before : MirDisplayInfo) :
    DisplayInfoUnpacked connectResult before := by
  unfold DisplayInfoUnpacked populateDisplayInfo
  cases error : connectResult.error with
  | some text => simp [unpacked_nothing]
  | none =>
      cases present : connectResult.displayInfo with
      | none => simp [unpacked_nothing]
      | some info =>
          obtain ⟨formats, stored, unpacked⟩ :=
            stored_cut before.supportedPixelFormat info.supportedPixelFormat
          exact ⟨_, congrArg (Option.map _) stored, unpacked⟩

end Packages

/-- The client unpacks within its arrays exactly if the fields of the buffer and of the
platform fit them; the pixel formats always do. -/
theorem unpacking_bounded_iff (surface : Surface) (connectResult : Connection)
    (bufferPackage : MirBufferPackage) (platformPackage : MirPlatformPackage)
    (displayInfo : MirDisplayInfo) :
    (BufferUnpacked surface bufferPackage ∧ PlatformUnpacked connectResult platformPackage ∧
        DisplayInfoUnpacked connectResult displayInfo) ↔
      BufferFits surface ∧ PlatformFits connectResult := by
  rw [buffer_unpacked_iff, platform_unpacked_iff,
    and_iff_left (display_info_unpacked connectResult displayInfo)]

/-- Thirty-three ints of a buffer, or descriptors of a platform, are one too many. -/
theorem long_reply_overflows :
    (∀ before, populateBufferPackage
        { buffer := some { data := List.replicate 33 0, stride := some 2560 } } before = none) ∧
      ∀ before, populatePlatformPackage
        { platform := some { fd := List.replicate 33 5 } } before = none := by
  constructor
  · intro before
    have unfit : ¬Fits (List.replicate 33 0) [] mirBufferPackageMax := by
      rintro ⟨short, -⟩
      exact absurd short (by decide)
    simp only [populateBufferPackage, store_fields_none before.data before.fd unfit,
      Option.map_none]
  · intro before
    have unfit : ¬Fits [] (List.replicate 33 5) mirPlatformPackageMax := by
      rintro ⟨-, short⟩
      exact absurd short (by decide)
    simp only [populatePlatformPackage, store_fields_none before.data before.fd unfit,
      Option.map_none]

end Mir.ReplyUnpacking
