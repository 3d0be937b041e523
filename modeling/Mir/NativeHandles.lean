import Mir.ReplyUnpacking
import Mir.SessionMediator

/-!
# Native handles on their way to the client

`AndroidBufferHandleDefault::pack_ipc_package` on the server and
`AndroidClientBuffer::convert_to_native_handle` on the client, with the reply between them.
The descriptors that the client receives have numbers of their own.
-/

namespace Mir.NativeHandles

open Mir.FixedArrays Mir.ReplyUnpacking
open Mir.BufferExchange (BufferIPCPackage)
open Mir.SwapperModel (BufferID)
open Mir.ProtocolMessages (Surface Buffer)
open Mir.SessionMediator (fillBuffer)

set_option autoImplicit false

/-- `native_handle_t`: the descriptors and then the ints, in the memory behind the header. -/
structure NativeHandle where
  version : Nat
  numFds : Nat
  numInts : Nat
  space : Nat
  data : Vector Int32 space
  allocated : numFds + numInts ≤ space

def NativeHandle.fds (handle : NativeHandle) : List Int32 := handle.data.toList.take handle.numFds

def NativeHandle.ints (handle : NativeHandle) : List Int32 :=
  (handle.data.toList.drop handle.numFds).take handle.numInts

structure NativeWindowBuffer where
  handle : NativeHandle
  stride : Int32

/-- The loops read the ints from behind the descriptors, and the descriptors from the start. -/
def packIpcPackage (anwBuffer : NativeWindowBuffer) : Option BufferIPCPackage :=
  (loadAll anwBuffer.handle.data anwBuffer.handle.numFds anwBuffer.handle.numInts).bind
    fun ipcData =>
      (loadAll anwBuffer.handle.data 0 anwBuffer.handle.numFds).map fun ipcFds =>
        ⟨ipcData, ipcFds, anwBuffer.stride⟩

def nativeHandleHeaderSize : Nat := 12

/-- `malloc` is asked for as many ints again as the header has bytes, and its memory may
hold anything. -/
def convertToNativeHandle (malloc : ∀ space, Vector Int32 space) (package : MirBufferPackage) :
    Option NativeHandle :=
  let space := package.fdItems + package.dataItems + nativeHandleHeaderSize - 3
  (loadAll package.fd 0 package.fdItems).bind fun fds =>
    (storeAll (malloc space) 0 fds).bind fun withFds =>
      (loadAll package.data 0 package.dataItems).bind fun ints =>
        (storeAll withFds package.fdItems ints).map fun data =>
          { version := nativeHandleHeaderSize
            numFds := package.fdItems
            numInts := package.dataItems
            space := space
            data := data
            allocated := by
              simp only [space, nativeHandleHeaderSize]
              omega }

structure AndroidClientBuffer where
  nativeHandle : NativeHandle
  stride : Int32

def newClientBuffer (malloc : ∀ space, Vector Int32 space) (creationPackage : MirBufferPackage) :
    Option AndroidClientBuffer :=
  (convertToNativeHandle malloc creationPackage).map fun handle =>
    ⟨handle, creationPackage.stride⟩

theorem pack_ipc_package_eq (anwBuffer : NativeWindowBuffer) :
    packIpcPackage anwBuffer =
      some ⟨anwBuffer.handle.ints, anwBuffer.handle.fds, anwBuffer.stride⟩ := by
  have allocated := anwBuffer.handle.allocated
  unfold packIpcPackage
  rw [load_all_some _ allocated, load_all_some _ (by omega)]
  rfl

theorem fds_length (handle : NativeHandle) : handle.fds.length = handle.numFds := by
  have allocated := handle.allocated
  rw [NativeHandle.fds, List.length_take, Vector.length_toList]
  omega

theorem ints_length (handle : NativeHandle) : handle.ints.length = handle.numInts := by
  have allocated := handle.allocated
  rw [NativeHandle.ints, List.length_take, List.length_drop, Vector.length_toList]
  omega

theorem convert_to_native_handle_eq (malloc : ∀ space, Vector Int32 space)
    {package : MirBufferPackage} {fds ints : List Int32}
    (fdsUnpacked : Unpacked package.fdItems package.fd fds) (fdsAll : package.fdItems = fds.length)
    (intsUnpacked : Unpacked package.dataItems package.data ints)
    (intsAll : package.dataItems = ints.length) :
    ∃ handle, convertToNativeHandle malloc package = some handle ∧
      handle.numFds = fds.length ∧ handle.numInts = ints.length ∧
      handle.fds = fds ∧ handle.ints = ints := by
  have space : package.fdItems + package.dataItems ≤
      package.fdItems + package.dataItems + nativeHandleHeaderSize - 3 := by
    unfold nativeHandleHeaderSize
    omega
  have loadedFds : loadAll package.fd 0 package.fdItems = some fds := by
    rw [load_all_some _ (by have := fdsUnpacked.bounded; omega), List.drop_zero,
      fdsUnpacked.first, fdsAll, List.take_length]
  have loadedInts : loadAll package.data 0 package.dataItems = some ints := by
    rw [load_all_some _ (by have := intsUnpacked.bounded; omega), List.drop_zero,
      intsUnpacked.first, intsAll, List.take_length]
  obtain ⟨withFds, storedFds, afterFds⟩ := store_all_some
    (malloc (package.fdItems + package.dataItems + nativeHandleHeaderSize - 3))
    (show 0 + fds.length ≤ _ by omega)
  obtain ⟨data, storedInts, afterInts⟩ := store_all_some withFds
    (show package.fdItems + ints.length ≤ _ by omega)
  have start : withFds.toList.take package.fdItems = fds := by
    rw [afterFds, fdsAll]
    simp
  have whole : data.toList =
      fds ++ (ints ++ withFds.toList.drop (package.fdItems + ints.length)) := by
    rw [afterInts, start, List.append_assoc]
  refine ⟨⟨nativeHandleHeaderSize, package.fdItems, package.dataItems, _, data, space⟩, ?_,
    fdsAll, intsAll, ?_, ?_⟩
  · unfold convertToNativeHandle
    simp only [loadedFds, Option.bind_some, storedFds, loadedInts, storedInts, Option.map_some]
  · change data.toList.take package.fdItems = fds
    rw [whole, List.take_left' fdsAll.symm]
  · change (data.toList.drop package.fdItems).take package.dataItems = ints
    rw [whole, List.drop_left' fdsAll.symm, List.take_left' intsAll.symm]

theorem populate_reply {surface : Surface} (valid : surface.error = none) {buffer : Buffer}
    (fits : Fits buffer.data buffer.fd mirBufferPackageMax) (before : MirBufferPackage) :
    ∃ package, populateBufferPackage { surface with buffer := some buffer } before =
        some package ∧
      Unpacked package.fdItems package.fd buffer.fd ∧ package.fdItems = buffer.fd.length ∧
      Unpacked package.dataItems package.data buffer.data ∧
      package.dataItems = buffer.data.length ∧ package.stride = buffer.stride.getD 0 := by
  obtain ⟨data, fd, stored, dataUnpacked, fdUnpacked⟩ :=
    store_fields_some before.data before.fd fits
  refine ⟨⟨buffer.data.length, buffer.fd.length, data, fd, buffer.stride.getD 0⟩, ?_, fdUnpacked,
    rfl, dataUnpacked, rfl, rfl⟩
  simp only [populateBufferPackage, valid, stored, Option.map_some]

/-- A buffer message as it arrives: its descriptors have other numbers. -/
def arrivedBuffer (sent : Buffer) (received : List Int32) : Buffer :=
  { sent with fd := received }

/-- The client's handle has the received descriptors in the order of the server's, and then
the server's ints. `sameFile` relates a descriptor to the one that it is received as. -/
theorem native_handle_round_trip (anwBuffer : NativeWindowBuffer) (id : BufferID)
    (fewFds : anwBuffer.handle.numFds ≤ mirBufferPackageMax)
    (fewInts : anwBuffer.handle.numInts ≤ mirBufferPackageMax)
    {surface : Surface} (valid : surface.error = none) (before : MirBufferPackage)
    (malloc : ∀ space, Vector Int32 space) (sameFile : Int32 → Int32 → Prop) :
    ∃ ipcPackage, packIpcPackage anwBuffer = some ipcPackage ∧
      ∀ received, List.Forall₂ sameFile (fillBuffer id ipcPackage {}).fd received →
        ∃ package clientBuffer,
          populateBufferPackage { surface with
            buffer := some (arrivedBuffer (fillBuffer id ipcPackage {}) received) } before =
              some package ∧
          newClientBuffer malloc package = some clientBuffer ∧
          clientBuffer.nativeHandle.numFds = anwBuffer.handle.numFds ∧
          clientBuffer.nativeHandle.numInts = anwBuffer.handle.numInts ∧
          clientBuffer.nativeHandle.data.toList.take
              (anwBuffer.handle.numFds + anwBuffer.handle.numInts) =
            received ++ anwBuffer.handle.ints ∧
          List.Forall₂ sameFile anwBuffer.handle.fds clientBuffer.nativeHandle.fds ∧
          clientBuffer.stride = anwBuffer.stride := by
  refine ⟨_, pack_ipc_package_eq anwBuffer, fun received arrived => ?_⟩
  change List.Forall₂ sameFile ([] ++ anwBuffer.handle.fds) received at arrived
  rw [List.nil_append] at arrived
  have sameCount : received.length = anwBuffer.handle.numFds := by
    rw [← arrived.length_eq, fds_length]
  have fits : Fits (arrivedBuffer (fillBuffer id ⟨anwBuffer.handle.ints, anwBuffer.handle.fds,
      anwBuffer.stride⟩ {}) received).data received mirBufferPackageMax := by
    constructor
    · change ([] ++ anwBuffer.handle.ints).length ≤ mirBufferPackageMax
      rw [List.nil_append, ints_length]
      exact fewInts
    · rw [sameCount]
      exact fewFds
  obtain ⟨package, populated, fdsUnpacked, fdsAll, intsUnpacked, intsAll, stride⟩ :=
    populate_reply valid fits before
  obtain ⟨handle, converted, numFds, numInts, fds, ints⟩ :=
    convert_to_native_handle_eq malloc fdsUnpacked fdsAll intsUnpacked intsAll
  change handle.fds = received at fds
  change handle.ints = [] ++ anwBuffer.handle.ints at ints
  have sameFds : handle.numFds = anwBuffer.handle.numFds := numFds.trans sameCount
  have sameInts : handle.numInts = anwBuffer.handle.numInts := by
    rw [← ints_length handle, ints, List.nil_append, ints_length]
  refine ⟨package, ⟨handle, package.stride⟩, populated, ?_, sameFds, sameInts, ?_, ?_, stride⟩
  · rw [newClientBuffer, converted]
    rfl
  · rw [← sameFds, ← sameInts, List.take_add]
    exact congrArg₂ (fun first rest => first ++ rest) fds ints
  · rw [fds]
    exact arrived

def mixedHandle : NativeWindowBuffer where
  handle := ⟨12, 2, 3, 5, #v[10, 11, 100, 200, 300], by decide⟩
  stride := 2560

theorem mixed_handle_arrives :
    ∃ ipcPackage package clientBuffer,
      packIpcPackage mixedHandle = some ipcPackage ∧
      populateBufferPackage
        { buffer := some (arrivedBuffer (fillBuffer ⟨7⟩ ipcPackage {}) [42, 43]) }
        ⟨0, 0, .replicate _ 0, .replicate _ 0, 0⟩ = some package ∧
      newClientBuffer (fun _ => .replicate _ 0) package = some clientBuffer ∧
      clientBuffer.nativeHandle.data.toList.take 5 = [42, 43, 100, 200, 300] ∧
      clientBuffer.stride = 2560 := by
  have valid : ({} : Surface).error = none := rfl
  obtain ⟨ipcPackage, packed, arrives⟩ :=
    native_handle_round_trip mixedHandle ⟨7⟩ (by decide) (by decide) valid
      ⟨0, 0, .replicate _ 0, .replicate _ 0, 0⟩ (fun _ => .replicate _ 0)
      fun sent received => received = sent + 32
  have both : packIpcPackage mixedHandle = some ⟨[100, 200, 300], [10, 11], 2560⟩ := rfl
  cases packed.symm.trans both
  obtain ⟨package, clientBuffer, populated, made, -, -, entries, -, stride⟩ :=
    arrives [42, 43] (.cons (by decide) (.cons (by decide) .nil))
  exact ⟨_, package, clientBuffer, packed, populated, made, entries, stride⟩

end Mir.NativeHandles
