import Mathlib.Data.List.Basic
import Mathlib.Data.Nat.Bitwise

/-!
# The CRTC of an output

`KMSOutput::ensure_crtc` with its searches over the DRM resources. `drmModeGetConnector`,
`drmModeGetEncoder` and `drmModeGetCrtc` may return null for an id that is listed. A null
encoder that is dereferenced, and a shift by the width of an `int`, leave no result.
-/

namespace Mir.CrtcSelection

set_option autoImplicit false

inductive Connection where
  | connected
  | disconnected
  | unknown
  deriving DecidableEq, Repr

structure Connector where
  encoderId : UInt32
  connection : Connection
  encoders : List UInt32
  deriving DecidableEq, Repr

structure Encoder where
  crtcId : UInt32
  possibleCrtcs : UInt32
  deriving DecidableEq, Repr

structure Crtc where
  crtcId : UInt32
  deriving DecidableEq, Repr

/-- `DRMModeResources`, with what the kernel returns for each id. No object has the id 0, and
no CRTC is listed twice. -/
structure Resources where
  connectors : List UInt32
  crtcs : List UInt32
  connector : UInt32 → Option Connector
  encoder : UInt32 → Option Encoder
  crtc : UInt32 → Option Crtc
  crtc_zero : crtc 0 = none
  crtc_id : ∀ id found, crtc id = some found → found.crtcId = id
  crtcs_nodup : crtcs.Nodup

structure KMSOutput where
  connector : Connector
  currentCrtc : Option Crtc
  deriving DecidableEq, Repr

section Searches

variable (resources : Resources)

def encoderIsUsed (encoderId : UInt32) : Bool :=
  (resources.connectors.filterMap resources.connector).any fun connector =>
    connector.encoderId == encoderId &&
      ((resources.encoder connector.encoderId).bind fun encoder =>
        resources.crtc encoder.crtcId).isSome

def crtcIsUsed (crtcId : UInt32) : Bool :=
  (resources.connectors.filterMap resources.connector).any fun connector =>
    (resources.encoder connector.encoderId).any fun encoder => encoder.crtcId == crtcId

/-- An encoder that cannot be read is pushed like any other. -/
def connectorAvailableEncoders (connector : Connector) : List (Option Encoder) :=
  (connector.encoders.filter fun id => !encoderIsUsed resources id).map resources.encoder

def encoderSupportsCrtcIndex (encoder : Encoder) (crtcIndex : Nat) : Option Bool :=
  if crtcIndex < 32 then
    some (encoder.possibleCrtcs &&& (1 <<< UInt32.ofNat crtcIndex) != 0)
  else none

/-- The loop over the encoders, up to the first that supports the CRTC. -/
def someEncoderSupports (crtcIndex : Nat) : List (Option Encoder) → Option Bool
  | [] => some false
  | none :: _ => none
  | some encoder :: later =>
      (encoderSupportsCrtcIndex encoder crtcIndex).bind fun supported =>
        if supported then some true else someEncoderSupports crtcIndex later

/-- The callback of `for_each_crtc`, up to the CRTC that it takes. The index counts the
CRTCs that can be read. -/
def searchCrtc (availableEncoders : List (Option Encoder)) :
    Nat → List UInt32 → Option (Option Crtc)
  | _, [] => some none
  | crtcIndex, id :: later => match resources.crtc id with
      | none => searchCrtc availableEncoders crtcIndex later
      | some crtc =>
          if crtcIsUsed resources crtc.crtcId then
            searchCrtc availableEncoders (crtcIndex + 1) later
          else (someEncoderSupports crtcIndex availableEncoders).bind fun supported =>
            if supported then some (some crtc)
            else searchCrtc availableEncoders (crtcIndex + 1) later

def connectedCrtc (connector : Connector) : Option Crtc :=
  (resources.encoder connector.encoderId).bind fun encoder => resources.crtc encoder.crtcId

def ensureCrtc (output : KMSOutput) : Option (Bool × KMSOutput) :=
  if output.currentCrtc.isSome then some (true, output)
  else if output.connector.connection ≠ .connected then some (false, output)
  else match connectedCrtc resources output.connector with
    | some crtc => some (true, { output with currentCrtc := some crtc })
    | none =>
        (searchCrtc resources (connectorAvailableEncoders resources output.connector) 0
          resources.crtcs).map fun found =>
            (found.isSome, { output with currentCrtc := found })

end Searches

section Purpose

variable (resources : Resources)

def hasBit (position : Nat) (encoderId : UInt32) : Bool :=
  (resources.encoder encoderId).any fun encoder => encoder.possibleCrtcs.toNat.testBit position

def freeEncoders (connector : Connector) : List UInt32 :=
  connector.encoders.filter fun id => !encoderIsUsed resources id

def CanDrive (connector : Connector) (position : Nat) : Bool :=
  (freeEncoders resources connector).any (hasBit resources position)

/-- The CRTC at a position of the kernel's list, if the output may take it. -/
def freeCrtc (connector : Connector) (entry : UInt32 × Nat) : Option Crtc :=
  (resources.crtc entry.1).filter fun crtc =>
    !crtcIsUsed resources crtc.crtcId && CanDrive resources connector entry.2

/-- The CRTC that an output should get. -/
def wantedCrtc (connector : Connector) : Option Crtc :=
  if connector.connection = .connected then
    (connectedCrtc resources connector).or
      (resources.crtcs.zipIdx.findSome? (freeCrtc resources connector))
  else none

/-- `ensure_crtc` gives the output that CRTC, and says whether there is one. -/
def Selects (output : KMSOutput) : Prop :=
  ensureCrtc resources output = some ((wantedCrtc resources output.connector).isSome,
    { output with currentCrtc := wantedCrtc resources output.connector })

end Purpose

section Masks

theorem single_bit_value {shift : Nat} (small : shift < 32) :
    ((1 : UInt32) <<< UInt32.ofNat shift).toNat = 2 ^ shift := by
  have width : 2 ^ shift < 2 ^ 32 := Nat.pow_lt_pow_right (by decide) small
  rw [UInt32.toNat_shiftLeft, UInt32.toNat_ofNat_of_lt' (by change shift < 2 ^ 32; omega),
    Nat.mod_eq_of_lt small]
  change 1 <<< shift % 2 ^ 32 = 2 ^ shift
  rw [Nat.one_shiftLeft, Nat.mod_eq_of_lt width]

theorem supports_eq (encoder : Encoder) {crtcIndex : Nat} (small : crtcIndex < 32) :
    encoderSupportsCrtcIndex encoder crtcIndex =
      some (encoder.possibleCrtcs.toNat.testBit crtcIndex) := by
  have masked : (encoder.possibleCrtcs &&& (1 <<< UInt32.ofNat crtcIndex)).toNat =
      (encoder.possibleCrtcs.toNat.testBit crtcIndex).toNat * 2 ^ crtcIndex := by
    rw [UInt32.toNat_and, single_bit_value small, Nat.and_two_pow]
  rw [encoderSupportsCrtcIndex, if_pos small, Option.some_inj, Bool.eq_iff_iff, bne_iff_ne,
    ne_eq, ← UInt32.toNat_inj, masked]
  cases encoder.possibleCrtcs.toNat.testBit crtcIndex <;> simp

end Masks

/-- An encoder that cannot be read comes after one with the bit. -/
def NullBehind (resources : Resources) (crtcIndex : Nat) (ids : List UInt32) : Prop :=
  ∀ before id after, ids = before ++ id :: after → resources.encoder id = none →
    ∃ other ∈ before, hasBit resources crtcIndex other = true

/-- Asking the free encoders about an index shifts by less than 32, does not come to a null
encoder, and says whether one of them can drive the CRTC at a position. -/
structure AskedRight (resources : Resources) (connector : Connector) (crtcIndex position : Nat) :
    Prop where
  inRange : freeEncoders resources connector ≠ [] → crtcIndex < 32
  unreached : NullBehind resources crtcIndex (freeEncoders resources connector)
  sameBit : CanDrive resources connector crtcIndex = CanDrive resources connector position

/-- Every CRTC that can be read and is not in use, up to the first that the output may take, is
asked about right. Its index counts the CRTCs before it that can be read. -/
def SearchedRight (resources : Resources) (connector : Connector) : Prop :=
  ∀ front id back crtc, resources.crtcs = front ++ id :: back →
    resources.crtc id = some crtc → crtcIsUsed resources crtc.crtcId = false →
    (∀ entry ∈ front.zipIdx, freeCrtc resources connector entry = none) →
      AskedRight resources connector (front.countP fun id => (resources.crtc id).isSome)
        front.length

section Searching

variable {resources : Resources}

theorem null_behind_cons {first : UInt32} {later : List UInt32} {crtcIndex : Nat}
    {encoder : Encoder} (read : resources.encoder first = some encoder) :
    NullBehind resources crtcIndex (first :: later) ↔
      hasBit resources crtcIndex first = true ∨ NullBehind resources crtcIndex later := by
  constructor
  · intro behind
    by_cases has : hasBit resources crtcIndex first = true
    · exact .inl has
    · right
      rintro before id after rfl unread
      obtain ⟨other, member, bit⟩ := behind (first :: before) id after rfl unread
      rcases List.mem_cons.mp member with rfl | member
      · exact absurd bit has
      · exact ⟨other, member, bit⟩
  · intro behind before id after split unread
    cases before with
    | nil =>
        obtain ⟨rfl, -⟩ := List.cons.inj split
        cases unread.symm.trans read
    | cons other rest =>
        obtain ⟨rfl, cut⟩ := List.cons.inj split
        rcases behind with has | behind
        · exact ⟨first, List.mem_cons_self, has⟩
        · obtain ⟨other, member, bit⟩ := behind rest id after cut unread
          exact ⟨other, List.mem_cons_of_mem _ member, bit⟩

theorem some_encoder_supports_iff {ids : List UInt32} {crtcIndex : Nat} {answer : Bool} :
    someEncoderSupports crtcIndex (ids.map resources.encoder) = some answer ↔
      (ids ≠ [] → crtcIndex < 32) ∧ NullBehind resources crtcIndex ids ∧
        ids.any (hasBit resources crtcIndex) = answer := by
  induction ids with
  | nil => simp [someEncoderSupports, NullBehind]
  | cons first later induction =>
      cases read : resources.encoder first with
      | none =>
          rw [List.map_cons, read, someEncoderSupports]
          constructor
          · intro impossible
            cases impossible
          · rintro ⟨-, behind, -⟩
            obtain ⟨other, member, -⟩ := behind [] first later rfl read
            cases member
      | some encoder =>
          have bit : hasBit resources crtcIndex first =
              encoder.possibleCrtcs.toNat.testBit crtcIndex := by
            rw [hasBit, read, Option.any_some]
          rw [List.map_cons, read, someEncoderSupports, null_behind_cons read, List.any_cons]
          by_cases small : crtcIndex < 32
          · rw [supports_eq encoder small, Option.bind_some, ← bit]
            cases hasBit resources crtcIndex first with
            | true => simp [small]
            | false => simp [small, induction]
          · rw [encoderSupportsCrtcIndex, if_neg small]
            simp [small]

theorem asked_right_iff {connector : Connector} {crtcIndex position : Nat} :
    someEncoderSupports crtcIndex (connectorAvailableEncoders resources connector) =
        some (CanDrive resources connector position) ↔
      AskedRight resources connector crtcIndex position := by
  rw [connectorAvailableEncoders]
  refine some_encoder_supports_iff.trans ⟨?_, ?_⟩
  · rintro ⟨inRange, unreached, sameBit⟩
    exact ⟨inRange, unreached, sameBit⟩
  · rintro ⟨inRange, unreached, sameBit⟩
    exact ⟨inRange, unreached, sameBit⟩

theorem searched_listed {available : List (Option Encoder)} {ids : List UInt32} {crtcIndex : Nat}
    {crtc : Crtc} (found : searchCrtc resources available crtcIndex ids = some (some crtc)) :
    crtc.crtcId ∈ ids := by
  induction ids generalizing crtcIndex with
  | nil => cases found
  | cons id later induction =>
      rw [searchCrtc] at found
      split at found
      · exact List.mem_cons_of_mem _ (induction found)
      · rename_i candidate read
        split at found
        · exact List.mem_cons_of_mem _ (induction found)
        · obtain ⟨supported, -, chosen⟩ := Option.bind_eq_some_iff.mp found
          cases supported with
          | true =>
              cases chosen
              rw [resources.crtc_id id crtc read]
              exact List.mem_cons_self
          | false => exact List.mem_cons_of_mem _ (induction chosen)

theorem free_listed {connector : Connector} {ids : List UInt32} {position : Nat} {crtc : Crtc}
    (found : (ids.zipIdx position).findSome? (freeCrtc resources connector) = some crtc) :
    crtc.crtcId ∈ ids := by
  obtain ⟨entry, member, free⟩ := List.exists_of_findSome?_eq_some found
  have read := Option.eq_some_of_filter_eq_some free
  rw [resources.crtc_id entry.1 crtc read]
  exact List.fst_mem_of_mem_zipIdx member

section Induction

variable (resources) (connector : Connector) (available : List (Option Encoder))

/-- The search gets the right answer for each CRTC of a list that it may ask about, from an
index and a position on. -/
def Answered (crtcIndex position : Nat) (ids : List UInt32) : Prop :=
  ∀ front id back crtc, ids = front ++ id :: back → resources.crtc id = some crtc →
    crtcIsUsed resources crtc.crtcId = false →
    (∀ entry ∈ front.zipIdx position, freeCrtc resources connector entry = none) →
      someEncoderSupports (crtcIndex + front.countP fun id => (resources.crtc id).isSome)
        available = some (CanDrive resources connector (position + front.length))

variable {resources connector available} {first : UInt32} {later : List UInt32}

theorem answered_cons {crtcIndex position : Nat} :
    Answered resources connector available crtcIndex position (first :: later) ↔
      (∀ crtc, resources.crtc first = some crtc → crtcIsUsed resources crtc.crtcId = false →
        someEncoderSupports crtcIndex available = some (CanDrive resources connector position)) ∧
      (freeCrtc resources connector (first, position) = none →
        Answered resources connector available
          (crtcIndex + if (resources.crtc first).isSome then 1 else 0) (position + 1) later) := by
  constructor
  · intro answered
    refine ⟨fun crtc read unused => answered [] first later crtc rfl read unused (by simp), ?_⟩
    rintro passed front id back crtc rfl read unused none_free
    have right := answered (first :: front) id back crtc rfl read unused (by
      rw [List.zipIdx_cons, List.forall_mem_cons]
      exact ⟨passed, none_free⟩)
    rw [List.countP_cons, List.length_cons] at right
    rwa [Nat.add_assoc, Nat.add_assoc, Nat.add_comm (ite _ _ _), Nat.add_comm 1]
  · rintro ⟨head, tail⟩ front id back crtc split read unused none_free
    cases front with
    | nil =>
        obtain ⟨rfl, rfl⟩ := List.cons.inj split
        exact head crtc read unused
    | cons other rest =>
        obtain ⟨rfl, cut⟩ := List.cons.inj split
        rw [List.zipIdx_cons, List.forall_mem_cons] at none_free
        have right := tail none_free.1 rest id back crtc cut read unused none_free.2
        rw [List.countP_cons, List.length_cons]
        rwa [Nat.add_assoc, Nat.add_assoc, Nat.add_comm (ite _ _ _), Nat.add_comm 1] at right

/-- The index and the position part at a CRTC that cannot be read. -/
theorem search_iff {ids : List UInt32} (distinct : ids.Nodup) (crtcIndex position : Nat) :
    searchCrtc resources available crtcIndex ids =
        some ((ids.zipIdx position).findSome? (freeCrtc resources connector)) ↔
      Answered resources connector available crtcIndex position ids := by
  induction ids generalizing crtcIndex position with
  | nil => simp [searchCrtc, Answered]
  | cons first later induction =>
      obtain ⟨elsewhere, distinct⟩ := List.nodup_cons.mp distinct
      have rest := fun index => induction distinct index (position + 1)
      rw [answered_cons, searchCrtc, List.zipIdx_cons, List.findSome?_cons]
      cases read : resources.crtc first with
      | none => simp [freeCrtc, read, rest]
      | some crtc =>
          have named : crtc.crtcId = first := resources.crtc_id first crtc read
          have free : freeCrtc resources connector (first, position) =
              if !crtcIsUsed resources crtc.crtcId && CanDrive resources connector position then
                some crtc else none := by
            rw [freeCrtc, read, Option.filter_some]
          cases used : crtcIsUsed resources crtc.crtcId with
          | true => simp [free, used, rest]
          | false =>
              -- the CRTC is taken, and no other one of the list is the same
              have found_later : ∀ index,
                  searchCrtc resources available index later ≠ some (some crtc) :=
                fun _ found => elsewhere (named ▸ searched_listed found)
              have free_later :
                  (later.zipIdx (position + 1)).findSome? (freeCrtc resources connector) ≠
                    some crtc :=
                fun taken => elsewhere (named ▸ free_listed taken)
              cases asked : someEncoderSupports crtcIndex available with
              | none => simp [used]
              | some supported =>
                  cases drives : CanDrive resources connector position <;> cases supported <;>
                    simp [free, used, drives, rest, found_later, free_later.symm]

end Induction

theorem search_finds_iff (connector : Connector) :
    searchCrtc resources (connectorAvailableEncoders resources connector) 0 resources.crtcs =
        some (resources.crtcs.zipIdx.findSome? (freeCrtc resources connector)) ↔
      SearchedRight resources connector := by
  rw [search_iff resources.crtcs_nodup 0 0]
  simp only [Answered, Nat.zero_add, asked_right_iff]
  rfl

/-- While every CRTC can be read, the index is the position. -/
theorem readable_searched_right {connector : Connector}
    (encoders : ∀ id ∈ connector.encoders, (resources.encoder id).isSome)
    (crtcs : ∀ id ∈ resources.crtcs, (resources.crtc id).isSome)
    (few : resources.crtcs.length ≤ 32) : SearchedRight resources connector := by
  intro front id back crtc split _ _ _
  have counted : (front.countP fun id => (resources.crtc id).isSome) = front.length := by
    rw [List.countP_eq_length]
    intro other member
    exact crtcs other (split ▸ List.mem_append_left _ member)
  rw [counted]
  refine ⟨fun _ => ?_, ?_, rfl⟩
  · have length := congrArg List.length split
    rw [List.length_append, List.length_cons] at length
    omega
  · intro before unread after cut missing
    have member : unread ∈ freeEncoders resources connector := by
      rw [cut]
      simp
    have read := encoders unread (List.mem_of_mem_filter member)
    rw [missing] at read
    cases read

end Searching

section Outputs

variable {resources : Resources}

theorem selects_iff {output : KMSOutput} (vacant : output.currentCrtc = none) :
    Selects resources output ↔
      (output.connector.connection = .connected →
        connectedCrtc resources output.connector = none →
          searchCrtc resources (connectorAvailableEncoders resources output.connector) 0
            resources.crtcs = some (resources.crtcs.zipIdx.findSome?
              (freeCrtc resources output.connector))) := by
  have blank : { output with currentCrtc := none } = output := by
    cases output
    cases vacant
    rfl
  by_cases plugged : output.connector.connection = .connected
  · cases attached : connectedCrtc resources output.connector with
    | some crtc => simp [Selects, ensureCrtc, wantedCrtc, vacant, plugged, attached]
    | none =>
        have searches : ensureCrtc resources output =
            (searchCrtc resources (connectorAvailableEncoders resources output.connector) 0
              resources.crtcs).map fun found =>
                (found.isSome, { output with currentCrtc := found }) := by
          simp [ensureCrtc, vacant, plugged, attached]
        rw [Selects, wantedCrtc, if_pos plugged, attached, Option.none_or, searches]
        constructor
        · intro same _ _
          obtain ⟨found, searched, pair⟩ := Option.map_eq_some_iff.mp same
          have wanted := congrArg (fun result => result.2.currentCrtc) pair
          exact searched.trans (congrArg some wanted)
        · intro searched
          rw [searched plugged rfl, Option.map_some]
  · simp [Selects, ensureCrtc, wantedCrtc, vacant, plugged, blank]

theorem readable_selects {connector : Connector}
    (encoders : ∀ id ∈ connector.encoders, (resources.encoder id).isSome)
    (crtcs : ∀ id ∈ resources.crtcs, (resources.crtc id).isSome)
    (few : resources.crtcs.length ≤ 32) : Selects resources ⟨connector, none⟩ := by
  rw [selects_iff rfl]
  intro _ _
  exact (search_finds_iff connector).mpr (readable_searched_right encoders crtcs few)

end Outputs

/-- `ensure_crtc` selects as it should exactly if the output is not connected, or its encoder
drives a CRTC already, or the search asks right. -/
theorem crtc_selection_iff (resources : Resources) (connector : Connector) :
    Selects resources ⟨connector, none⟩ ↔
      (connector.connection = .connected → connectedCrtc resources connector = none →
        SearchedRight resources connector) := by
  rw [selects_iff rfl]
  exact imp_congr_right fun _ => imp_congr_right fun _ => search_finds_iff connector

section Misreadings

def idleConnector (encoders : List UInt32) : Connector := ⟨0, .connected, encoders⟩

/-- One connector with two encoders, two CRTCs, and the first position in the masks. -/
def twoCrtcs (encoders crtcs : List UInt32) (unnamed : 0 ∉ crtcs) : Resources where
  connectors := [10]
  crtcs := [1, 2]
  connector id := if id = 10 then some (idleConnector [20, 21]) else none
  encoder id := if id ∈ encoders then some ⟨0, 1⟩ else none
  crtc id := if id ∈ crtcs then some ⟨id⟩ else none
  crtc_zero := if_neg unnamed
  crtc_id id found read := by
    rw [Option.ite_none_right_eq_some] at read
    exact congrArg Crtc.crtcId (Option.some_inj.mp read.2).symm
  crtcs_nodup := by decide

def twoEncoders : KMSOutput := ⟨idleConnector [20, 21], none⟩

/-- A first encoder that cannot be read is dereferenced. A first CRTC that cannot be read is
not counted, and the second is taken with the bit of the first. -/
theorem unread_objects_mislead :
    (wantedCrtc (twoCrtcs [21] [1, 2] (by decide)) twoEncoders.connector = some ⟨1⟩ ∧
      ensureCrtc (twoCrtcs [21] [1, 2] (by decide)) twoEncoders = none) ∧
    (wantedCrtc (twoCrtcs [20, 21] [2] (by decide)) twoEncoders.connector = none ∧
      ensureCrtc (twoCrtcs [20, 21] [2] (by decide)) twoEncoders =
        some (true, { twoEncoders with currentCrtc := some ⟨2⟩ })) := by
  decide

end Misreadings

end Mir.CrtcSelection
