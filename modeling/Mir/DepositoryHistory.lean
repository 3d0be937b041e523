import Mathlib.Data.List.DropRight
import Mir.DepositoryModel
import Mir.TransitionRuns

/-!
# Histories of deposits

What `deposit_package` leaves after any sequence of deposits: first if every
`create_buffer` succeeds, for any number of buffers that the depository is made
for, then if `create_buffer` may throw. `process_incoming_buffer` catches the
exception, so the depository is used again after it.
-/

namespace Mir.DepositoryHistory

open Mir.DepositoryModel Mir.TransitionRuns

set_option autoImplicit false

variable {Package Content : Type}

section Window

/-- What the deposit after those of `ids` does, for a window of `window` ids. -/
structure SlidesWindow (window : Nat) (ids : List Int32)
    (before : ClientBufferDepository Content) (delivery : Delivery Package Content)
    (deposited : Deposited Content) : Prop where
  keys : ∀ key, (deposited.depository.buffers.lookup key).isSome ↔
    key ∈ (ids ++ [delivery.id]).rtake window
  few : deposited.depository.buffers.keys.length ≤ window
  created : deposited.created = true ↔ delivery.id ∉ ids.rtake window
  current : ∃ buffer, currentBuffer deposited.depository = some buffer ∧
    deposited.depository.buffers.lookup delivery.id = some buffer
  fresh : deposited.created = true → ∃ newBuffer,
    delivery.createBuffer delivery.package delivery.size delivery.pf = .ok newBuffer ∧
    deposited.depository.buffers.lookup delivery.id = some ⟨newBuffer, 0⟩
  /-- The deposits are numbered from one, and this is number `ids.length + 1`. -/
  kept : ∀ key buffer, deposited.depository.buffers.lookup key = some buffer →
    ¬(key = delivery.id ∧ deposited.created = true) →
    (∃ old, before.buffers.lookup key = some old ∧ old.content = buffer.content) ∧
    ∃ first between, ids = first ++ key :: between ∧ key ∉ between ∧
      buffer.bufferAge.toNat = (ids.length + 1) - (first.length + 1)

theorem window_of_max_buffers {maxBuffers : Int32} (several : 2 ≤ maxBuffers) :
    (maxBuffers - 1).toUInt32.toNat + 1 = maxBuffers.toInt.toNat ∧
      2 ≤ maxBuffers.toInt.toNat ∧ maxBuffers.toInt.toNat < 2 ^ 32 := by
  have low : 2 ≤ maxBuffers.toInt := Int32.le_iff_toInt_le.mp several
  have high := Int32.toInt_lt maxBuffers
  have less : (maxBuffers - 1).toInt = maxBuffers.toInt - 1 := by
    rw [Int32.toInt_sub, Int32.toInt_one, Int.bmod_eq_of_le] <;> omega
  have positive : 0 ≤ maxBuffers - 1 := by
    rw [Int32.le_iff_toInt_le, less, Int32.toInt_zero]
    omega
  have same : (maxBuffers - 1).toUInt32.toNat = (maxBuffers.toInt - 1).toNat := by
    rw [Int32.toNat_toUInt32_of_le positive, Int32.toNatClampNeg, less]
  omega

theorem mem_rtake_iff {ids : List Int32} {key : Int32} (window : Nat) :
    key ∈ ids.rtake window ↔ key ∈ ids.reverse.take window := by
  rw [List.rtake_eq_reverse_take_reverse, List.mem_reverse]

theorem last_occurrence {ids : List Int32} {key : Int32} (member : key ∈ ids) :
    ∃ first between, ids = first ++ key :: between ∧ key ∉ between ∧
      ids.reverse.idxOf key = between.length := by
  obtain ⟨between, first, split, absent⟩ :=
    List.eq_append_cons_of_mem (List.mem_reverse.mpr member)
  refine ⟨first.reverse, between.reverse, ?_, ?_, ?_⟩
  · rw [← List.reverse_reverse ids, split]
    simp
  · simpa using absent
  · rw [split, List.idxOf_append_of_notMem absent]
    simp

theorem aged_content (depository : ClientBufferDepository Content) (key : Int32)
    (buffer : AgingBuffer Content) : (aged depository key buffer).content = buffer.content := by
  unfold aged incrementAge markAsSubmitted
  split_ifs <;> rfl

theorem aged_buffers_kept {depository : ClientBufferDepository Content} {id key : Int32}
    {buffer : AgingBuffer Content}
    (found : (agedBuffers depository id).lookup key = some buffer) :
    ∃ old, depository.buffers.lookup key = some old ∧ old.content = buffer.content := by
  rw [lookup_aged_buffers, Option.map_eq_some_iff] at found
  obtain ⟨old, kept, rfl⟩ := found
  exact ⟨old, Option.eq_some_of_filter_eq_some kept, (aged_content depository key old).symm⟩

/-- The loop spares the entry of the incoming id. -/
theorem lookup_aged_self (depository : ClientBufferDepository Content) (id : Int32) :
    (agedBuffers depository id).lookup id =
      (depository.buffers.lookup id).map (aged depository id) := by
  rw [lookup_aged_buffers]
  cases depository.buffers.lookup id with
  | none => rfl
  | some buffer => simp [expired]

theorem deposit_keeps_content {before : ClientBufferDepository Content}
    {delivery : Delivery Package Content} {key : Int32} {buffer : AgingBuffer Content}
    (cached : (depositPackage before delivery).depository.buffers.lookup key = some buffer)
    (old : ¬(key = delivery.id ∧ (depositPackage before delivery).created = true)) :
    ∃ old, before.buffers.lookup key = some old ∧ old.content = buffer.content := by
  cases found : (agedBuffers before delivery.id).lookup delivery.id with
  | some entry =>
      rw [deposit_found found] at cached
      exact aged_buffers_kept cached
  | none =>
      cases outcome : delivery.createBuffer delivery.package delivery.size delivery.pf with
      | ok newBuffer =>
          rw [deposit_created found outcome] at cached old
          have different : key ≠ delivery.id := fun same => old ⟨same, rfl⟩
          rw [AList.lookup_insert_ne different] at cached
          exact aged_buffers_kept cached
      | error err =>
          rw [deposit_failed found outcome] at cached
          exact aged_buffers_kept cached

theorem deposit_fresh {before : ClientBufferDepository Content}
    {delivery : Delivery Package Content}
    (succeeds : (depositPackage before delivery).thrown = none)
    (called : (depositPackage before delivery).created = true) :
    ∃ newBuffer, delivery.createBuffer delivery.package delivery.size delivery.pf =
        .ok newBuffer ∧
      (depositPackage before delivery).depository.buffers.lookup delivery.id =
        some ⟨newBuffer, 0⟩ := by
  cases found : (agedBuffers before delivery.id).lookup delivery.id with
  | some entry =>
      rw [deposit_found found] at called
      cases called
  | none =>
      obtain ⟨newBuffer, made⟩ := create_of_succeeds found succeeds
      refine ⟨newBuffer, made, ?_⟩
      rw [deposit_created found made]
      exact AList.lookup_insert _

theorem window_age_distance {window : Nat} {ids : List Int32} {latest key : Int32}
    (several : 2 ≤ window) (member : key ∈ (latest :: ids.reverse).take window)
    (old : ¬(key = latest ∧ latest ∉ ids.reverse.take window)) :
    ∃ first between, ids = first ++ key :: between ∧ key ∉ between ∧
      windowAge window (latest :: ids.reverse) key = (ids.length + 1) - (first.length + 1) := by
  have age : windowAge window (latest :: ids.reverse) key = ids.reverse.idxOf key + 1 := by
    rw [windowAge]
    split_ifs with same earlier
    · rfl
    · exact absurd ⟨same, same ▸ earlier⟩ old
    · rfl
  have earlier : key ∈ ids := by
    rw [window_take latest _ several, List.mem_cons] at member
    rw [← List.mem_reverse]
    rcases member with same | taken
    · have before : latest ∈ ids.reverse.take window := by
        by_contra absent
        exact old ⟨same, absent⟩
      exact List.mem_of_mem_take (same ▸ before)
    · exact List.mem_of_mem_take taken
  obtain ⟨first, between, split, absent, distance⟩ := last_occurrence earlier
  refine ⟨first, between, split, absent, ?_⟩
  rw [age, distance, split]
  simp only [List.length_append, List.length_cons]
  omega

theorem windowed_slides {window : Nat} {ids : List Int32}
    {before : ClientBufferDepository Content} {delivery : Delivery Package Content}
    (windowed : Windowed window ids.reverse before) (several : 2 ≤ window)
    (small : window < 2 ^ 32) (succeeds : (depositPackage before delivery).thrown = none) :
    SlidesWindow window ids before delivery (depositPackage before delivery) := by
  obtain ⟨after, created⟩ := deposit_windowed windowed several small succeeds
  have history : delivery.id :: ids.reverse = (ids ++ [delivery.id]).reverse := by simp
  have keys : ∀ key, ((depositPackage before delivery).depository.buffers.lookup key).isSome ↔
      key ∈ (ids ++ [delivery.id]).rtake window := by
    intro key
    rw [mem_rtake_iff, ← history, ← Option.isSome_map, after.cached key]
    split_ifs with member <;> simp [member]
  have mine := latest_mem_take delivery.id ids.reverse several
  constructor
  · exact keys
  · have within : (depositPackage before delivery).depository.buffers.keys ⊆
        (ids ++ [delivery.id]).rtake window := by
      intro key member
      rw [← keys, AList.lookup_isSome]
      exact member
    have fewer := (List.subperm_of_subset (AList.keys_nodup _) within).length_le
    have bounded : ((ids ++ [delivery.id]).rtake window).length ≤ window := by
      rw [List.rtake, List.length_drop]
      omega
    exact fewer.trans bounded
  · rw [created, mem_rtake_iff]
  · rw [history, ← mem_rtake_iff, ← keys] at mine
    obtain ⟨buffer, found⟩ := Option.isSome_iff_exists.mp mine
    refine ⟨buffer, ?_, found⟩
    rw [currentBuffer, after.current]
    exact found
  · exact deposit_fresh succeeds
  · intro key buffer cached old
    refine ⟨deposit_keeps_content cached old, ?_⟩
    have member : key ∈ (delivery.id :: ids.reverse).take window := by
      rw [history, ← mem_rtake_iff, ← keys, cached]
      rfl
    rw [created] at old
    obtain ⟨first, between, split, absent, distance⟩ := window_age_distance several member old
    refine ⟨first, between, split, absent, ?_⟩
    have age := after.cached key
    rw [cached, if_pos member, Option.map_some, Option.some_inj] at age
    exact age.trans distance

/-- The deposits may repeat ids in any way. -/
theorem deposits_slide_window (maxBuffers : Int32) (several : 2 ≤ maxBuffers)
    (earlier : List (Delivery Package Content)) (delivery : Delivery Package Content)
    (succeed : Succeeding (construct maxBuffers) (earlier ++ [delivery])) :
    SlidesWindow maxBuffers.toInt.toNat (earlier.map Delivery.id)
      (depositAll (construct maxBuffers) earlier).1 delivery
      (depositPackage (depositAll (construct maxBuffers) earlier).1 delivery) := by
  obtain ⟨limit, wide, small⟩ := window_of_max_buffers several
  obtain ⟨earlierSucceed, succeeds⟩ := succeeding_snoc succeed
  have windowed := deposit_all_windowed maxBuffers limit wide small earlier earlierSucceed
  exact windowed_slides windowed wide small succeeds

def delivered (id : Int32) : Delivery Int32 Int32 where
  package := id
  id := id
  size := ⟨640, 480⟩
  pf := .abgr8888
  createBuffer package _ _ := .ok package

theorem deposits_slide_window_returning :
    (2 : Int32) ≤ 2 ∧ Succeeding (construct 2) ([delivered 1, delivered 2] ++ [delivered 1]) ∧
      SlidesWindow (Int32.toInt 2).toNat ([delivered 1, delivered 2].map Delivery.id)
        (depositAll (construct 2) [delivered 1, delivered 2]).1 (delivered 1)
        (depositPackage (depositAll (construct 2) [delivered 1, delivered 2]).1
          (delivered 1)) := by
  have succeed : Succeeding (construct 2) ([delivered 1, delivered 2] ++ [delivered 1]) := by
    apply succeeding_of_factory
    intro delivery member
    simp only [List.cons_append, List.nil_append, List.mem_cons, List.not_mem_nil,
      or_false] at member
    rcases member with rfl | rfl | rfl <;> exact ⟨_, rfl⟩
  exact ⟨by decide, succeed, deposits_slide_window 2 (by decide) _ _ succeed⟩

end Window

section Failures

def Succeeded (depository : ClientBufferDepository Content)
    (deliveries : List (Delivery Package Content)) : Prop :=
  ∃ earlier delivery later, deliveries = earlier ++ delivery :: later ∧
    (depositPackage (depositAll depository earlier).1 delivery).thrown = none

/-- The client can go on after any exception of `create_buffer`. -/
structure FailsSafely (maxBuffers : Int32) (deliveries : List (Delivery Package Content)) :
    Prop where
  denoted : ∀ earlier later, deliveries = earlier ++ later →
    Succeeded (construct maxBuffers) earlier →
    (currentBuffer (depositAll (construct maxBuffers) earlier).1).isSome
  unchanged : ∀ earlier delivery later, deliveries = earlier ++ delivery :: later →
    let before := (depositAll (construct maxBuffers) earlier).1
    let deposited := depositPackage before delivery
    deposited.thrown.isSome →
      deposited.depository.currentBufferIter = before.currentBufferIter ∧
      ∀ key, deposited.depository.buffers.lookup key = before.buffers.lookup key

theorem deposit_throws {depository : ClientBufferDepository Content}
    {delivery : Delivery Package Content}
    (thrown : (depositPackage depository delivery).thrown.isSome) :
    (depositPackage depository delivery).depository =
      { depository with
        buffers := agedBuffers depository delivery.id
        currentBufferIter := none } := by
  cases found : (agedBuffers depository delivery.id).lookup delivery.id with
  | some buffer => simp [deposit_found found] at thrown
  | none =>
      cases outcome : delivery.createBuffer delivery.package delivery.size delivery.pf with
      | ok newBuffer => simp [deposit_created found outcome] at thrown
      | error err => rw [deposit_failed found outcome]

theorem deposit_denotes {depository : ClientBufferDepository Content}
    {delivery : Delivery Package Content}
    (succeeds : (depositPackage depository delivery).thrown = none) :
    (currentBuffer (depositPackage depository delivery).depository).isSome := by
  cases found : (agedBuffers depository delivery.id).lookup delivery.id with
  | some buffer =>
      rw [deposit_found found, currentBuffer, Option.bind_some, found]
      rfl
  | none =>
      obtain ⟨newBuffer, made⟩ := create_of_succeeds found succeeds
      rw [deposit_created found made, currentBuffer, Option.bind_some, AList.lookup_insert]
      rfl

theorem deposit_current_denoted {depository : ClientBufferDepository Content}
    {delivery : Delivery Package Content} {key : Int32}
    (current : (depositPackage depository delivery).depository.currentBufferIter = some key) :
    (currentBuffer (depositPackage depository delivery).depository).isSome := by
  apply deposit_denotes
  by_contra thrown
  rw [deposit_throws (Option.isSome_iff_ne_none.mpr thrown)] at current
  cases current

theorem succeeded_snoc {depository : ClientBufferDepository Content}
    {deliveries : List (Delivery Package Content)} {delivery : Delivery Package Content} :
    Succeeded depository (deliveries ++ [delivery]) ↔ Succeeded depository deliveries ∨
      (depositPackage (depositAll depository deliveries).1 delivery).thrown = none := by
  constructor
  · rintro ⟨earlier, other, later, split, succeeds⟩
    rcases split_last split with ⟨-, rfl, rfl⟩ | ⟨rest, -, before⟩
    · exact .inr succeeds
    · exact .inl ⟨earlier, other, rest, before, succeeds⟩
  · rintro (⟨earlier, other, later, rfl, succeeds⟩ | succeeds)
    · exact ⟨earlier, other, later ++ [delivery], by simp, succeeds⟩
    · exact ⟨deliveries, delivery, [], rfl, succeeds⟩

theorem deposit_all_failed (maxBuffers : Int32) (deliveries : List (Delivery Package Content))
    (failed : ¬Succeeded (construct maxBuffers) deliveries) :
    (depositAll (construct maxBuffers) deliveries).1 =
      (construct maxBuffers : ClientBufferDepository Content) := by
  induction deliveries using List.reverseRecOn with
  | nil => rfl
  | append_singleton earlier delivery ih =>
      rw [succeeded_snoc, not_or] at failed
      have before := ih failed.1
      have thrown := Option.isSome_iff_ne_none.mpr failed.2
      rw [deposit_all_snoc]
      rw [before] at thrown ⊢
      exact deposit_throws thrown

/-- `create_buffer` does not throw if this delivery comes to it. -/
def Makes (delivery : Delivery Package Content) : Prop :=
  ∃ newBuffer, delivery.createBuffer delivery.package delivery.size delivery.pf = .ok newBuffer

/-- A deposit needs `create_buffer` only for an id that is not cached. -/
theorem deposit_returns_iff {depository : ClientBufferDepository Content}
    {delivery : Delivery Package Content} :
    (depositPackage depository delivery).thrown = none ↔
      delivery.id ∈ depository.buffers ∨ Makes delivery := by
  have cached : (agedBuffers depository delivery.id).lookup delivery.id = none ↔
      delivery.id ∉ depository.buffers := by
    rw [lookup_aged_self, Option.map_eq_none_iff, AList.lookup_eq_none]
  constructor
  · intro succeeds
    by_cases member : delivery.id ∈ depository.buffers
    · exact .inl member
    · exact .inr (create_of_succeeds (cached.mpr member) succeeds)
  · rintro (member | ⟨newBuffer, made⟩)
    · obtain ⟨buffer, found⟩ := Option.ne_none_iff_exists'.mp
        (fun absent => cached.mp absent member)
      rw [deposit_found found]
    · exact deposit_succeeds made

/-- The first deposit that returns has made its buffer, as nothing was cached before. -/
theorem succeeded_iff {maxBuffers : Int32} {deliveries : List (Delivery Package Content)} :
    Succeeded (construct maxBuffers) deliveries ↔ ∃ delivery ∈ deliveries, Makes delivery := by
  constructor
  · intro succeeded
    induction deliveries using List.reverseRecOn with
    | nil =>
        obtain ⟨earlier, delivery, later, impossible, -⟩ := succeeded
        simp at impossible
    | append_singleton earlier delivery ih =>
        by_cases before : Succeeded (construct maxBuffers) earlier
        · obtain ⟨made, member, makes⟩ := ih before
          exact ⟨made, List.mem_append_left _ member, makes⟩
        · have returns := (succeeded_snoc.mp succeeded).resolve_left before
          rw [deposit_all_failed maxBuffers earlier before, deposit_returns_iff] at returns
          exact ⟨delivery, by simp, returns.resolve_left (AList.notMem_empty _)⟩
  · rintro ⟨delivery, member, newBuffer, made⟩
    obtain ⟨earlier, later, split⟩ := List.append_of_mem member
    exact ⟨earlier, delivery, later, split, deposit_succeeds made⟩

/-- The exception comes when the current entry is already given up, so it is
harmless only while there has been none. A factory that throws does no harm either when
the id is cached. -/
theorem fails_safely_iff (maxBuffers : Int32) (deliveries : List (Delivery Package Content)) :
    FailsSafely maxBuffers deliveries ↔
      ∀ earlier delivery later, deliveries = earlier ++ delivery :: later →
        (∃ made ∈ earlier, Makes made) →
        delivery.id ∈ (depositAll (construct maxBuffers) earlier).1.buffers ∨ Makes delivery := by
  have started := @succeeded_iff Package Content maxBuffers
  simp only [← deposit_returns_iff, ← started]
  constructor
  · intro safe earlier delivery later split succeeded
    by_contra thrown
    have denoted := safe.denoted (earlier ++ [delivery]) later (by simp [split])
      (succeeded_snoc.mpr (.inl succeeded))
    rw [deposit_all_snoc] at denoted
    simp [deposit_throws (Option.isSome_iff_ne_none.mpr thrown), currentBuffer] at denoted
  · intro returns
    constructor
    · intro earlier later split succeeded
      cases earlier using List.reverseRecOn with
      | nil =>
          obtain ⟨first, delivery, rest, impossible, -⟩ := succeeded
          simp at impossible
      | append_singleton before delivery =>
          have succeeds : (depositPackage (depositAll (construct maxBuffers) before).1
              delivery).thrown = none := by
            rcases succeeded_snoc.mp succeeded with already | now
            · exact returns before delivery later (by simp [split]) already
            · exact now
          rw [deposit_all_snoc]
          exact deposit_denotes succeeds
    · intro earlier delivery later split before deposited thrown
      have failed : ¬Succeeded (construct maxBuffers) earlier := by
        intro succeeded
        have succeeds := returns earlier delivery later split succeeded
        rw [Option.isSome_iff_ne_none] at thrown
        exact thrown succeeds
      have initial : before = construct maxBuffers := deposit_all_failed maxBuffers earlier failed
      have after : deposited.depository = before := by
        rw [deposit_throws thrown, initial]
        rfl
      rw [after]
      exact ⟨rfl, fun _ => rfl⟩

def refused (id : Int32) : Delivery Int32 Int32 :=
  { delivered id with
    createBuffer := fun _ _ _ =>
      .error ⟨"error registering graphics buffer for client use\n"⟩ }

theorem fails_safely_refuted : ¬FailsSafely 3 [delivered 1, refused 2] := by
  intro safe
  have denoted := safe.denoted [delivered 1, refused 2] [] rfl
    ⟨[], delivered 1, [refused 2], rfl, rfl⟩
  revert denoted
  decide

end Failures

end Mir.DepositoryHistory
