import Mathlib.Data.List.AList
import Mathlib.Data.List.Induction
import Mathlib.Data.UInt

/-!
# `mcl::ClientBufferDepository`

A transcription of `client_buffer_depository.cpp` and `aging_buffer.cpp`, and
what the depository holds after any sequence of deposits: a window of the most
recent ids. The iterator into `buffers` is the key it points to, with `none` for
`end()`. `deposit_package` never erases the entry the iterator points to, so the
key stands for the same entry until the iterator is assigned again.
-/

namespace Mir.DepositoryModel

set_option autoImplicit false

section EntryUpdates

variable {Key Value : Type} [DecidableEq Key]

def filterEntries (keep : Key → Value → Bool) (entries : AList fun _ : Key => Value) :
    AList fun _ : Key => Value where
  entries := entries.entries.filter fun entry => keep entry.1 entry.2
  nodupKeys := List.NodupKeys.sublist List.filter_sublist entries.nodupKeys

def mapEntries (update : Key → Value → Value) (entries : AList fun _ : Key => Value) :
    AList fun _ : Key => Value where
  entries := entries.entries.map fun entry => ⟨entry.1, update entry.1 entry.2⟩
  nodupKeys := by
    have keys := entries.nodupKeys
    rw [List.NodupKeys, List.keys] at keys ⊢
    simpa [Function.comp_def] using keys

theorem lookup_filter_entries (keep : Key → Value → Bool)
    (entries : AList fun _ : Key => Value) (key : Key) :
    (filterEntries keep entries).lookup key = (entries.lookup key).filter (keep key) := by
  apply Option.ext
  intro value
  rw [Option.filter_eq_some_iff]
  simp only [AList.lookup, ← Option.mem_def]
  rw [List.mem_dlookup_iff (filterEntries keep entries).nodupKeys,
    List.mem_dlookup_iff entries.nodupKeys]
  simp [filterEntries]

theorem lookup_map_entries (update : Key → Value → Value)
    (entries : AList fun _ : Key => Value) (key : Key) :
    (mapEntries update entries).lookup key = (entries.lookup key).map (update key) := by
  exact List.dlookup_map₂ key

end EntryUpdates

structure Size where
  width : UInt32
  height : UInt32
  deriving DecidableEq, Repr

inductive PixelFormat where
  | invalid
  | abgr8888
  | xbgr8888
  | argb8888
  | xrgb8888
  | bgr888
  deriving DecidableEq, Repr

structure RuntimeError where
  what : String
  deriving DecidableEq, Repr

/-- A client buffer: `AgingBuffer` and what the platform's class adds to it. -/
structure AgingBuffer (Content : Type) where
  content : Content
  bufferAge : UInt32
  deriving DecidableEq, Repr

variable {Package Content : Type}

def incrementAge (buffer : AgingBuffer Content) : AgingBuffer Content :=
  if buffer.bufferAge ≠ 0 then { buffer with bufferAge := buffer.bufferAge + 1 } else buffer

def markAsSubmitted (buffer : AgingBuffer Content) : AgingBuffer Content :=
  { buffer with bufferAge := 1 }

abbrev BufferMap (Content : Type) := AList fun _ : Int32 => AgingBuffer Content

structure ClientBufferDepository (Content : Type) where
  buffers : BufferMap Content
  currentBufferIter : Option Int32
  maxAge : UInt32

def construct (maxBuffers : Int32) : ClientBufferDepository Content where
  buffers := ∅
  currentBufferIter := none
  maxAge := (maxBuffers - 1).toUInt32

/-- The arguments of one `deposit_package`, and how `create_buffer` behaves if it
is called there. -/
structure Delivery (Package Content : Type) where
  package : Package
  id : Int32
  size : Size
  pf : PixelFormat
  createBuffer : Package → Size → PixelFormat → Except RuntimeError Content

/-- The depository that a `deposit_package` leaves behind, whether it called
`create_buffer`, and the exception that left it. -/
structure Deposited (Content : Type) where
  depository : ClientBufferDepository Content
  created : Bool
  thrown : Option RuntimeError

/-- The condition under which the first loop of `deposit_package` erases an entry. -/
def expired (depository : ClientBufferDepository Content) (id key : Int32)
    (buffer : AgingBuffer Content) : Bool :=
  depository.currentBufferIter != some key && key != id &&
    decide (depository.maxAge ≤ buffer.bufferAge)

def eraseExpired (depository : ClientBufferDepository Content) (id : Int32) :
    BufferMap Content :=
  filterEntries (fun key buffer => !expired depository id key buffer) depository.buffers

def submitCurrent (depository : ClientBufferDepository Content) (buffers : BufferMap Content) :
    BufferMap Content :=
  match depository.currentBufferIter with
  | none => buffers
  | some current =>
      mapEntries (fun key buffer => if key = current then markAsSubmitted buffer else buffer)
        buffers

/-- `buffers` at the point where `deposit_package` looks up the new id. -/
def agedBuffers (depository : ClientBufferDepository Content) (id : Int32) :
    BufferMap Content :=
  submitCurrent depository (mapEntries (fun _ => incrementAge) (eraseExpired depository id))

def depositPackage (depository : ClientBufferDepository Content)
    (delivery : Delivery Package Content) : Deposited Content :=
  let buffers := agedBuffers depository delivery.id
  match buffers.lookup delivery.id with
  | some _ =>
      { depository := { depository with
          buffers := buffers
          currentBufferIter := some delivery.id }
        created := false
        thrown := none }
  | none => match delivery.createBuffer delivery.package delivery.size delivery.pf with
      | .ok newBuffer =>
          { depository := { depository with
              buffers := buffers.insert delivery.id ⟨newBuffer, 0⟩
              currentBufferIter := some delivery.id }
            created := true
            thrown := none }
      | .error err =>
          -- the iterator already holds the result of `find`
          { depository := { depository with buffers := buffers, currentBufferIter := none }
            created := true
            thrown := some err }

theorem deposit_found {depository : ClientBufferDepository Content}
    {delivery : Delivery Package Content} {buffer : AgingBuffer Content}
    (found : (agedBuffers depository delivery.id).lookup delivery.id = some buffer) :
    depositPackage depository delivery =
      { depository := { depository with
          buffers := agedBuffers depository delivery.id
          currentBufferIter := some delivery.id }
        created := false
        thrown := none } := by
  simp [depositPackage, found]

theorem deposit_created {depository : ClientBufferDepository Content}
    {delivery : Delivery Package Content} {newBuffer : Content}
    (absent : (agedBuffers depository delivery.id).lookup delivery.id = none)
    (succeeds : delivery.createBuffer delivery.package delivery.size delivery.pf =
      .ok newBuffer) :
    depositPackage depository delivery =
      { depository := { depository with
          buffers := (agedBuffers depository delivery.id).insert delivery.id ⟨newBuffer, 0⟩
          currentBufferIter := some delivery.id }
        created := true
        thrown := none } := by
  simp [depositPackage, absent, succeeds]

theorem deposit_failed {depository : ClientBufferDepository Content}
    {delivery : Delivery Package Content} {err : RuntimeError}
    (absent : (agedBuffers depository delivery.id).lookup delivery.id = none)
    (fails : delivery.createBuffer delivery.package delivery.size delivery.pf = .error err) :
    depositPackage depository delivery =
      { depository := { depository with
          buffers := agedBuffers depository delivery.id
          currentBufferIter := none }
        created := true
        thrown := some err } := by
  simp [depositPackage, absent, fails]

theorem deposit_succeeds {depository : ClientBufferDepository Content}
    {delivery : Delivery Package Content} {newBuffer : Content}
    (succeeds : delivery.createBuffer delivery.package delivery.size delivery.pf =
      .ok newBuffer) : (depositPackage depository delivery).thrown = none := by
  cases found : (agedBuffers depository delivery.id).lookup delivery.id with
  | some buffer => rw [deposit_found found]
  | none => rw [deposit_created found succeeds]

theorem create_of_succeeds {depository : ClientBufferDepository Content}
    {delivery : Delivery Package Content}
    (absent : (agedBuffers depository delivery.id).lookup delivery.id = none)
    (succeeds : (depositPackage depository delivery).thrown = none) :
    ∃ newBuffer, delivery.createBuffer delivery.package delivery.size delivery.pf =
      .ok newBuffer := by
  cases outcome : delivery.createBuffer delivery.package delivery.size delivery.pf with
  | ok newBuffer => exact ⟨newBuffer, rfl⟩
  | error err =>
      rw [deposit_failed absent outcome] at succeeds
      cases succeeds

theorem deposit_current (depository : ClientBufferDepository Content)
    (delivery : Delivery Package Content) :
    (depositPackage depository delivery).depository.currentBufferIter = some delivery.id ∨
      (depositPackage depository delivery).depository.currentBufferIter = none ∧
        ∃ err, (depositPackage depository delivery).thrown = some err := by
  cases found : (agedBuffers depository delivery.id).lookup delivery.id with
  | some buffer => simp [depositPackage, found]
  | none =>
      cases outcome : delivery.createBuffer delivery.package delivery.size delivery.pf with
      | ok newBuffer => simp [depositPackage, found, outcome]
      | error err => simp [depositPackage, found, outcome]

/-- `current_buffer()`; there is none when the iterator is `end()`. -/
def currentBuffer (depository : ClientBufferDepository Content) :
    Option (AgingBuffer Content) :=
  depository.currentBufferIter.bind depository.buffers.lookup

/-- The depository after a sequence of deposits, and the ids of the deposits that
called `create_buffer`. -/
def depositAll (depository : ClientBufferDepository Content)
    (deliveries : List (Delivery Package Content)) :
    ClientBufferDepository Content × List Int32 :=
  deliveries.foldl
    (fun (depository, created) delivery =>
      let deposited := depositPackage depository delivery
      (deposited.depository, if deposited.created then created ++ [delivery.id] else created))
    (depository, [])

theorem deposit_all_snoc (depository : ClientBufferDepository Content)
    (deliveries : List (Delivery Package Content)) (delivery : Delivery Package Content) :
    depositAll depository (deliveries ++ [delivery]) =
      let deposited := depositPackage (depositAll depository deliveries).1 delivery
      (deposited.depository,
        if deposited.created then (depositAll depository deliveries).2 ++ [delivery.id]
        else (depositAll depository deliveries).2) := by
  unfold depositAll
  rw [List.foldl_append]
  rfl

/-- No `create_buffer` that the deposits call throws. -/
def Succeeding (depository : ClientBufferDepository Content)
    (deliveries : List (Delivery Package Content)) : Prop :=
  ∀ earlier delivery later, deliveries = earlier ++ delivery :: later →
    (depositPackage (depositAll depository earlier).1 delivery).thrown = none

theorem succeeding_of_factory {depository : ClientBufferDepository Content}
    {deliveries : List (Delivery Package Content)}
    (succeed : ∀ delivery ∈ deliveries, ∃ newBuffer,
      delivery.createBuffer delivery.package delivery.size delivery.pf = .ok newBuffer) :
    Succeeding depository deliveries := by
  intro earlier delivery later split
  obtain ⟨newBuffer, succeeds⟩ := succeed delivery (by simp [split])
  exact deposit_succeeds succeeds

theorem succeeding_snoc {depository : ClientBufferDepository Content}
    {deliveries : List (Delivery Package Content)} {delivery : Delivery Package Content}
    (succeed : Succeeding depository (deliveries ++ [delivery])) :
    Succeeding depository deliveries ∧
      (depositPackage (depositAll depository deliveries).1 delivery).thrown = none := by
  refine ⟨?_, succeed deliveries delivery [] rfl⟩
  intro earlier other later split
  apply succeed earlier other (later ++ [delivery])
  simp [split]

section Ageing

/-- What happens to one entry before the new id is looked up. -/
def aged (depository : ClientBufferDepository Content) (key : Int32)
    (buffer : AgingBuffer Content) : AgingBuffer Content :=
  if depository.currentBufferIter = some key then markAsSubmitted (incrementAge buffer)
  else incrementAge buffer

theorem lookup_aged_buffers (depository : ClientBufferDepository Content) (id key : Int32) :
    (agedBuffers depository id).lookup key =
      ((depository.buffers.lookup key).filter fun buffer =>
        !expired depository id key buffer).map (aged depository key) := by
  unfold agedBuffers submitCurrent
  cases current : depository.currentBufferIter with
  | none =>
      simp only [lookup_map_entries, eraseExpired, lookup_filter_entries]
      congr 1
      funext buffer
      simp [aged, current]
  | some front =>
      simp only [lookup_map_entries, eraseExpired, lookup_filter_entries, Option.map_map]
      congr 1
      funext buffer
      simp [aged, current, eq_comm]

/-- The position of a deposit in the past is the age of its buffer: one more for
every deposit since, and one for the deposit that has just replaced it. -/
theorem aged_age (depository : ClientBufferDepository Content) (key : Int32)
    (buffer : AgingBuffer Content) {position : Nat}
    (current : position = 0 ↔ depository.currentBufferIter = some key)
    (age : position ≠ 0 → buffer.bufferAge.toNat = position)
    (small : position + 1 < 2 ^ 32) :
    (aged depository key buffer).bufferAge.toNat = position + 1 := by
  unfold aged
  split_ifs with front
  · rw [current.mpr front]
    rfl
  · have older : position ≠ 0 := fun zero => front (current.mp zero)
    have positive : buffer.bufferAge ≠ 0 := by
      intro zero
      have same := age older
      rw [zero] at same
      exact older same.symm
    simp only [incrementAge, ne_eq, positive, not_false_eq_true, if_true, UInt32.toNat_add,
      age older, UInt32.toNat_one]
    omega

end Ageing

section Window

/-- The age of a cached buffer, from the deposited ids with the latest first. A
buffer that is current counts from its previous deposit, if it was still cached. -/
def windowAge (window : Nat) : List Int32 → Int32 → Nat
  | [], _ => 0
  | latest :: earlier, key =>
      if key = latest then
        if key ∈ earlier.take window then earlier.idxOf key + 1 else 0
      else earlier.idxOf key + 1

/-- The depository caches exactly the ids of the last `window` deposits. -/
structure Windowed (window : Nat) (recent : List Int32)
    (depository : ClientBufferDepository Content) : Prop where
  limit : depository.maxAge.toNat + 1 = window
  current : depository.currentBufferIter = recent.head?
  cached : ∀ key, (depository.buffers.lookup key).map (fun buffer => buffer.bufferAge.toNat) =
    if key ∈ recent.take window then some (windowAge window recent key) else none

theorem construct_windowed (maxBuffers : Int32) {window : Nat}
    (limit : (maxBuffers - 1).toUInt32.toNat + 1 = window) :
    Windowed window [] (construct maxBuffers : ClientBufferDepository Content) where
  limit := limit
  current := rfl
  cached := by simp [construct]

theorem mem_take_iff_idxOf {recent : List Int32} {key : Int32} (window : Nat)
    (member : key ∈ recent) : key ∈ recent.take window ↔ recent.idxOf key < window := by
  induction recent generalizing window with
  | nil => simp at member
  | cons latest earlier ih =>
      cases window with
      | zero => simp
      | succ window =>
          by_cases same : key = latest
          · simp [same]
          · have before : key ∈ earlier := by simpa [same] using member
            rw [List.take_succ_cons, List.mem_cons, ih window before,
              List.idxOf_cons_ne _ (Ne.symm same)]
            simp [same]

theorem window_take (latest : Int32) (earlier : List Int32) {window : Nat}
    (several : 2 ≤ window) :
    (latest :: earlier).take window = latest :: earlier.take (window - 1) := by
  obtain ⟨rest, rfl⟩ := Nat.exists_eq_add_of_le' several
  rfl

theorem latest_mem_take (latest : Int32) (earlier : List Int32) {window : Nat}
    (several : 2 ≤ window) : latest ∈ (latest :: earlier).take window := by
  rw [window_take latest earlier several]
  exact List.mem_cons_self

theorem windowed_front {window : Nat} {recent : List Int32}
    {depository : ClientBufferDepository Content} (windowed : Windowed window recent depository)
    {key : Int32} (member : key ∈ recent) :
    recent.idxOf key = 0 ↔ depository.currentBufferIter = some key := by
  rw [windowed.current]
  rcases recent with _ | ⟨latest, earlier⟩
  · simp at member
  · by_cases same : latest = key <;> simp [same]

theorem windowed_older {window : Nat} {recent : List Int32}
    {depository : ClientBufferDepository Content} (windowed : Windowed window recent depository)
    {key : Int32} (member : key ∈ recent.take window) {buffer : AgingBuffer Content}
    (found : depository.buffers.lookup key = some buffer) (older : recent.idxOf key ≠ 0) :
    buffer.bufferAge.toNat = recent.idxOf key := by
  have cached := windowed.cached key
  rw [if_pos member, found, Option.map_some, Option.some_inj] at cached
  rw [cached]
  rcases recent with _ | ⟨latest, earlier⟩
  · simp at member
  · have different : key ≠ latest := by
      intro same
      simp [same] at older
    rw [windowAge, if_neg different, List.idxOf_cons_ne _ (Ne.symm different)]

/-- The loop erases what has left the last `window - 1` deposits, except the entry
that is being deposited again. -/
theorem windowed_expired {window : Nat} {recent : List Int32}
    {depository : ClientBufferDepository Content} (windowed : Windowed window recent depository)
    (several : 2 ≤ window) (id : Int32) {key : Int32} (member : key ∈ recent.take window)
    {buffer : AgingBuffer Content} (found : depository.buffers.lookup key = some buffer) :
    expired depository id key buffer = true ↔ key ≠ id ∧ window - 1 ≤ recent.idxOf key := by
  have limit := windowed.limit
  have older := windowed_older windowed member found
  simp only [expired, Bool.and_eq_true, bne_iff_ne, ne_eq, decide_eq_true_eq,
    ← windowed_front windowed (List.mem_of_mem_take member), UInt32.le_iff_toNat_le]
  constructor
  · rintro ⟨⟨notFirst, different⟩, old⟩
    rw [older notFirst] at old
    exact ⟨different, by omega⟩
  · rintro ⟨different, old⟩
    have notFirst : recent.idxOf key ≠ 0 := by omega
    rw [older notFirst]
    exact ⟨⟨notFirst, different⟩, by omega⟩

theorem windowed_aged {window : Nat} {recent : List Int32}
    {depository : ClientBufferDepository Content} (windowed : Windowed window recent depository)
    (several : 2 ≤ window) (small : window < 2 ^ 32) (id key : Int32) :
    ((agedBuffers depository id).lookup key).map (fun buffer => buffer.bufferAge.toNat) =
      if key ∈ recent.take (if key = id then window else window - 1) then
        some (recent.idxOf key + 1)
      else none := by
  have cached := windowed.cached key
  rw [lookup_aged_buffers]
  by_cases member : key ∈ recent.take window
  · rw [if_pos member] at cached
    obtain ⟨buffer, found, -⟩ := Option.map_eq_some_iff.mp cached
    have known := List.mem_of_mem_take member
    have position := (mem_take_iff_idxOf window known).mp member
    have expires := windowed_expired windowed several id member found
    have age := aged_age depository key buffer (windowed_front windowed known)
      (windowed_older windowed member found) (by omega)
    rw [found]
    cases gone : expired depository id key buffer with
    | true =>
        obtain ⟨different, old⟩ := expires.mp gone
        have outside : key ∉ recent.take (window - 1) := by
          rw [mem_take_iff_idxOf (window - 1) known]
          omega
        simp [gone, different, outside]
    | false =>
        have stays := mt expires.mpr (Bool.eq_false_iff.mp gone)
        have inside : key ∈ recent.take (if key = id then window else window - 1) := by
          rw [mem_take_iff_idxOf _ known]
          split_ifs with same
          · exact position
          · have young := not_and.mp stays same
            omega
        rw [if_pos inside]
        simp [gone, age]
  · have absent : depository.buffers.lookup key = none := by
      rw [if_neg member] at cached
      simpa using cached
    have outside : key ∉ recent.take (if key = id then window else window - 1) := by
      intro inside
      apply member
      apply List.take_subset_take_left recent _ inside
      split_ifs <;> omega
    rw [absent, if_neg outside]
    rfl

/-- One deposit whose `create_buffer`, if it is called, succeeds. It is called
exactly for an id that has left the window. -/
theorem deposit_windowed {window : Nat} {recent : List Int32}
    {depository : ClientBufferDepository Content} (windowed : Windowed window recent depository)
    (several : 2 ≤ window) (small : window < 2 ^ 32) {delivery : Delivery Package Content}
    (succeeds : (depositPackage depository delivery).thrown = none) :
    Windowed window (delivery.id :: recent) (depositPackage depository delivery).depository ∧
      ((depositPackage depository delivery).created = true ↔
        delivery.id ∉ recent.take window) := by
  have aging := windowed_aged windowed several small delivery.id
  have this := aging delivery.id
  rw [if_pos rfl] at this
  have other : ∀ key, key ≠ delivery.id →
      ((agedBuffers depository delivery.id).lookup key).map
        (fun buffer => buffer.bufferAge.toNat) =
      if key ∈ (delivery.id :: recent).take window then
        some (windowAge window (delivery.id :: recent) key)
      else none := by
    intro key different
    rw [aging key, if_neg different, window_take delivery.id recent several]
    simp [windowAge, different]
  have mine := latest_mem_take delivery.id recent several
  cases found : (agedBuffers depository delivery.id).lookup delivery.id with
  | some buffer =>
      have member : delivery.id ∈ recent.take window := by
        by_contra absent
        rw [if_neg absent, found] at this
        simp at this
      rw [if_pos member] at this
      rw [deposit_found found]
      refine ⟨⟨windowed.limit, rfl, ?_⟩, by simp [member]⟩
      intro key
      by_cases same : key = delivery.id
      · rw [same, if_pos mine, windowAge, if_pos rfl, if_pos member]
        exact this
      · exact other key same
  | none =>
      have member : delivery.id ∉ recent.take window := by
        intro present
        rw [if_pos present, found] at this
        simp at this
      obtain ⟨newBuffer, made⟩ := create_of_succeeds found succeeds
      rw [deposit_created found made]
      refine ⟨⟨windowed.limit, rfl, ?_⟩, by simp [member]⟩
      intro key
      by_cases same : key = delivery.id
      · rw [same, if_pos mine, windowAge, if_pos rfl, if_neg member, AList.lookup_insert]
        rfl
      · rw [AList.lookup_insert_ne same]
        exact other key same

theorem deposit_all_windowed (maxBuffers : Int32) {window : Nat}
    (limit : (maxBuffers - 1).toUInt32.toNat + 1 = window) (several : 2 ≤ window)
    (small : window < 2 ^ 32) (deliveries : List (Delivery Package Content))
    (succeed : Succeeding (construct maxBuffers) deliveries) :
    Windowed window (deliveries.map Delivery.id).reverse
      (depositAll (construct maxBuffers) deliveries).1 := by
  induction deliveries using List.reverseRecOn with
  | nil => exact construct_windowed maxBuffers limit
  | append_singleton earlier delivery ih =>
      obtain ⟨earlierSucceed, succeeds⟩ := succeeding_snoc succeed
      have before := ih earlierSucceed
      rw [deposit_all_snoc, List.map_append, List.reverse_append]
      exact (deposit_windowed before several small succeeds).1

theorem windowed_current_age {window : Nat} {recent : List Int32} {id : Int32}
    {depository : ClientBufferDepository Content}
    (windowed : Windowed window (id :: recent) depository) (several : 2 ≤ window)
    (member : id ∈ recent.take window) :
    (currentBuffer depository).map (fun buffer => buffer.bufferAge.toNat) =
      some (recent.idxOf id + 1) := by
  have cached := windowed.cached id
  rw [if_pos (latest_mem_take id recent several), windowAge, if_pos rfl, if_pos member] at cached
  rw [currentBuffer, windowed.current]
  exact cached

end Window

end Mir.DepositoryModel
