import Mathlib.Data.List.AList
import Mathlib.Data.UInt

/-!
# `mc::BufferSwapperMulti`

A transcription of `buffer_swapper_multi.cpp`. Each operation runs under
`swapper_mutex` from its first to its last line, so it is one function on the
swapper's state. `front()`, `back()` and the pops of an empty `std::deque` are
undefined behaviour: there the operation has no result. A `client_acquire`
whose wait guard holds has no result either; what the condition variable does
is in `Mir.SwapperWakeups`.
-/

namespace Mir.SwapperModel

set_option autoImplicit false

/-- `mc::BufferID`; the value zero is `id_invalid`. -/
structure BufferID where
  value : UInt32
  deriving DecidableEq, Repr

/-- `std::map<BufferID, std::shared_ptr<Buffer>>`, with `none` the null pointer. -/
abbrev BufferMap (Buffer : Type) := AList fun _ : BufferID => Option Buffer

structure BufferSwapperMulti (Buffer : Type) where
  buffers : BufferMap Buffer
  clientQueue : List BufferID
  compositorQueue : List BufferID
  inUseByClient : UInt32

structure LogicError where
  what : String
  deriving DecidableEq, Repr

variable {Buffer : Type}

section Construction

variable (id : Buffer → BufferID)

def enqueueBuffer (swapper : BufferSwapperMulti Buffer) (buffer : Buffer) :
    BufferSwapperMulti Buffer :=
  { swapper with
    buffers := swapper.buffers.insert (id buffer) (some buffer)
    clientQueue := swapper.clientQueue ++ [id buffer] }

/-- The loop of `initialize_queues`, for a list of any length. -/
def fillQueues (bufferList : List Buffer) : BufferSwapperMulti Buffer :=
  bufferList.foldl (enqueueBuffer id)
    { buffers := ∅, clientQueue := [], compositorQueue := [], inUseByClient := 0 }

def initializeQueues (bufferList : List Buffer) :
    Except LogicError (BufferSwapperMulti Buffer) :=
  if bufferList.length ≠ 2 ∧ bufferList.length ≠ 3 then
    .error ⟨"BufferSwapperMulti is only validated for 2 or 3 buffers"⟩
  else .ok (fillQueues id bufferList)

end Construction

/-- `std::map::operator[]`: a missing key is inserted with a null pointer. -/
def subscript (buffers : BufferMap Buffer) (key : BufferID) :
    Option Buffer × BufferMap Buffer :=
  match buffers.lookup key with
  | some reference => (reference, buffers)
  | none => (none, buffers.insert key none)

/-- What an acquire hands out, and the swapper it leaves behind. -/
structure Acquired (Buffer : Type) where
  bufferReference : Option Buffer
  dequeuedBuffer : BufferID
  swapper : BufferSwapperMulti Buffer

/-- The wait guard of `client_acquire`. `buffers.size() - 1` is computed in
`size_t`, and the counter is an `unsigned int` widened for the comparison. -/
def clientMustWait (swapper : BufferSwapperMulti Buffer) : Bool :=
  swapper.clientQueue.isEmpty ||
    swapper.inUseByClient.toUInt64 == UInt64.ofNat swapper.buffers.entries.length - 1

def clientAcquire (swapper : BufferSwapperMulti Buffer) : Option (Acquired Buffer) :=
  if clientMustWait swapper then none
  else match swapper.clientQueue with
    | [] => none
    | front :: rest =>
        let (reference, buffers) := subscript swapper.buffers front
        some
          { bufferReference := reference
            dequeuedBuffer := front
            swapper := { swapper with
              buffers := buffers
              clientQueue := rest
              inUseByClient := swapper.inUseByClient + 1 } }

def clientRelease (swapper : BufferSwapperMulti Buffer) (queuedBuffer : BufferID) :
    BufferSwapperMulti Buffer :=
  { swapper with
    compositorQueue := swapper.compositorQueue ++ [queuedBuffer]
    inUseByClient := swapper.inUseByClient - 1 }

def compositorAcquire (swapper : BufferSwapperMulti Buffer) : Option (Acquired Buffer) :=
  match swapper.compositorQueue with
  | [] => match swapper.clientQueue.getLast? with
      | none => none
      | some back =>
          let (reference, buffers) := subscript swapper.buffers back
          some
            { bufferReference := reference
              dequeuedBuffer := back
              swapper := { swapper with
                buffers := buffers
                clientQueue := swapper.clientQueue.dropLast } }
  | front :: rest =>
      let (reference, buffers) := subscript swapper.buffers front
      some
        { bufferReference := reference
          dequeuedBuffer := front
          swapper := { swapper with buffers := buffers, compositorQueue := rest } }

def compositorRelease (swapper : BufferSwapperMulti Buffer) (releasedBuffer : BufferID) :
    BufferSwapperMulti Buffer :=
  { swapper with clientQueue := swapper.clientQueue ++ [releasedBuffer] }

def shutdown (swapper : BufferSwapperMulti Buffer) : Option (BufferSwapperMulti Buffer) :=
  match swapper.clientQueue with
  | [] => match swapper.compositorQueue with
      | [] => none
      | front :: rest =>
          some { swapper with
            clientQueue := swapper.clientQueue ++ [front]
            compositorQueue := rest }
  | _ :: _ => some swapper

theorem length_le_of_distinct {ids : List BufferID} (distinct : ids.Nodup) :
    ids.length ≤ 2 ^ 32 := by
  have injective : Function.Injective fun key : BufferID => key.value.toFin := by
    rintro ⟨left⟩ ⟨right⟩ same
    exact congrArg BufferID.mk (UInt32.toFin_inj.mp same)
  have bound := (distinct.map injective).length_le_card
  simpa using bound

section Construction

variable (id : Buffer → BufferID)

theorem initialize_queues_ok (bufferList : List Buffer) (swapper : BufferSwapperMulti Buffer) :
    initializeQueues id bufferList = .ok swapper ↔
      (bufferList.length = 2 ∨ bufferList.length = 3) ∧ swapper = fillQueues id bufferList := by
  unfold initializeQueues
  split_ifs with refused
  · simp only [false_iff]
    omega
  · simp only [Except.ok.injEq]
    constructor
    · rintro rfl
      exact ⟨by omega, rfl⟩
    · rintro ⟨_, rfl⟩
      rfl

theorem fill_queues_snoc (bufferList : List Buffer) (buffer : Buffer) :
    fillQueues id (bufferList ++ [buffer]) =
      enqueueBuffer id (fillQueues id bufferList) buffer := by
  simp [fillQueues]

@[simp] theorem fill_client_queue (bufferList : List Buffer) :
    (fillQueues id bufferList).clientQueue = bufferList.map id := by
  induction bufferList using List.reverseRecOn with
  | nil => rfl
  | append_singleton initial buffer ih =>
      rw [fill_queues_snoc]
      simp [enqueueBuffer, ih]

@[simp] theorem fill_compositor_queue (bufferList : List Buffer) :
    (fillQueues id bufferList).compositorQueue = [] := by
  induction bufferList using List.reverseRecOn with
  | nil => rfl
  | append_singleton initial buffer ih =>
      rw [fill_queues_snoc]
      simpa [enqueueBuffer] using ih

@[simp] theorem fill_in_use (bufferList : List Buffer) :
    (fillQueues id bufferList).inUseByClient = 0 := by
  induction bufferList using List.reverseRecOn with
  | nil => rfl
  | append_singleton initial buffer ih =>
      rw [fill_queues_snoc]
      simpa [enqueueBuffer] using ih

theorem fill_registers (bufferList : List Buffer) (key : BufferID) :
    key ∈ (fillQueues id bufferList).buffers ↔ key ∈ bufferList.map id := by
  induction bufferList using List.reverseRecOn with
  | nil => simp [fillQueues]
  | append_singleton initial buffer ih =>
      rw [fill_queues_snoc]
      simp only [enqueueBuffer, AList.mem_insert, ih, List.map_append, List.mem_append,
        List.map_singleton, List.mem_singleton]
      exact or_comm

/-- Equal ids would overwrite each other in `buffers`, so the size is only the
number of buffers when the ids differ. -/
theorem fill_size (bufferList : List Buffer) (distinct : (bufferList.map id).Nodup) :
    (fillQueues id bufferList).buffers.entries.length = bufferList.length := by
  induction bufferList using List.reverseRecOn with
  | nil => rfl
  | append_singleton initial buffer ih =>
      rw [List.map_append, List.nodup_append] at distinct
      obtain ⟨earlier, _, apart⟩ := distinct
      have fresh : id buffer ∉ (fillQueues id initial).buffers := by
        rw [fill_registers]
        intro member
        exact apart _ member (id buffer) (by simp) rfl
      rw [fill_queues_snoc]
      simp only [enqueueBuffer, AList.entries_insert_of_notMem fresh, List.length_cons,
        ih earlier, List.length_append, List.length_nil]

theorem fill_lookup (bufferList : List Buffer) (distinct : (bufferList.map id).Nodup)
    (buffer : Buffer) (member : buffer ∈ bufferList) :
    (fillQueues id bufferList).buffers.lookup (id buffer) = some (some buffer) := by
  induction bufferList using List.reverseRecOn with
  | nil => simp at member
  | append_singleton initial last ih =>
      rw [List.map_append, List.nodup_append] at distinct
      obtain ⟨earlier, _, apart⟩ := distinct
      rw [fill_queues_snoc]
      simp only [enqueueBuffer]
      rcases List.mem_append.mp member with before | atEnd
      · have different : id buffer ≠ id last :=
          apart _ (List.mem_map_of_mem before) (id last) (by simp)
        rw [AList.lookup_insert_ne different]
        exact ih earlier before
      · obtain rfl : buffer = last := by simpa using atEnd
        rw [AList.lookup_insert]

end Construction

theorem subscript_registered {buffers : BufferMap Buffer} {key : BufferID}
    (registered : key ∈ buffers) : (subscript buffers key).2 = buffers := by
  obtain ⟨reference, found⟩ := Option.isSome_iff_exists.mp (AList.lookup_isSome.mpr registered)
  simp [subscript, found]

theorem subscript_found {buffers : BufferMap Buffer} {key : BufferID}
    {reference : Option Buffer} (found : buffers.lookup key = some reference) :
    subscript buffers key = (reference, buffers) := by
  simp [subscript, found]

/-- The guard over natural numbers, for a map whose size fits in `size_t`. -/
theorem client_must_wait_iff (swapper : BufferSwapperMulti Buffer)
    (nonempty : 0 < swapper.buffers.entries.length)
    (small : swapper.buffers.entries.length ≤ 2 ^ 32) :
    clientMustWait swapper = true ↔
      swapper.clientQueue = [] ∨
        swapper.inUseByClient.toNat = swapper.buffers.entries.length - 1 := by
  have limit : (UInt64.ofNat swapper.buffers.entries.length - 1).toNat =
      swapper.buffers.entries.length - 1 := by
    rw [UInt64.toNat_sub_of_le]
    · simp
      omega
    · rw [UInt64.le_iff_toNat_le]
      simp
      omega
  simp only [clientMustWait, Bool.or_eq_true, List.isEmpty_iff, beq_iff_eq]
  rw [← UInt64.toNat_inj, limit, UInt32.toNat_toUInt64]

theorem client_acquire_spec {swapper : BufferSwapperMulti Buffer} {acquired : Acquired Buffer}
    (succeeded : clientAcquire swapper = some acquired) :
    clientMustWait swapper = false ∧
      acquired.bufferReference = (subscript swapper.buffers acquired.dequeuedBuffer).1 ∧
      ∃ rest, swapper.clientQueue = acquired.dequeuedBuffer :: rest ∧
        acquired.swapper =
          { buffers := (subscript swapper.buffers acquired.dequeuedBuffer).2
            clientQueue := rest
            compositorQueue := swapper.compositorQueue
            inUseByClient := swapper.inUseByClient + 1 } := by
  unfold clientAcquire at succeeded
  split_ifs at succeeded with waits
  split at succeeded
  · cases succeeded
  · next front rest queue =>
      cases succeeded
      exact ⟨by simpa using waits, rfl, rest, queue, rfl⟩

theorem compositor_acquire_spec {swapper : BufferSwapperMulti Buffer}
    {acquired : Acquired Buffer} (succeeded : compositorAcquire swapper = some acquired) :
    acquired.bufferReference = (subscript swapper.buffers acquired.dequeuedBuffer).1 ∧
      acquired.swapper.buffers = (subscript swapper.buffers acquired.dequeuedBuffer).2 ∧
      acquired.swapper.inUseByClient = swapper.inUseByClient ∧
      acquired.dequeuedBuffer ∈ swapper.clientQueue ++ swapper.compositorQueue := by
  unfold compositorAcquire at succeeded
  split at succeeded
  · split at succeeded
    · cases succeeded
    · next back last =>
        cases succeeded
        have member := List.mem_of_getLast? last
        exact ⟨rfl, rfl, rfl, by simp [member]⟩
  · next front rest queue =>
      cases succeeded
      exact ⟨rfl, rfl, rfl, by simp [queue]⟩

theorem shutdown_keeps {swapper next : BufferSwapperMulti Buffer}
    (succeeded : shutdown swapper = some next) :
    next.buffers = swapper.buffers ∧ next.inUseByClient = swapper.inUseByClient := by
  unfold shutdown at succeeded
  split at succeeded
  · split at succeeded
    · cases succeeded
    · cases succeeded
      exact ⟨rfl, rfl⟩
  · cases succeeded
    exact ⟨rfl, rfl⟩

end Mir.SwapperModel
