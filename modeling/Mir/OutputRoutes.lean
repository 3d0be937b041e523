import Mir.OutputConfiguration

/-!
# The routes of the outputs

Configuring the outputs takes no CRTC that feeds another connector. An output reads its
connector before any of them is set, so it has to be seen that what it read stays true while
the others are set.
-/

namespace Mir.OutputRoutes

open Mir.Computations Mir.OutputConfiguration
open Mir.CrtcSelection hiding KMSOutput ensureCrtc

set_option autoImplicit false

section Invariants

variable {driver : Driver}

/-- What `KMSOutput` saves of a connector that nobody has set yet. -/
def originalCrtc (kernel : driver.Kernel) (connectorId : UInt32) : SavedCrtc :=
  match driven (driver.resources kernel) connectorId with
  | some crtc => ⟨crtc.crtcId, driver.scanout kernel crtc.crtcId⟩
  | none => ⟨0, ⟨0, 0, 0, {}⟩⟩

structure OutputSound (origin kernel : driver.Kernel) (connectorId : UInt32)
    (output : KMSOutput) : Prop where
  named : output.connectorId = connectorId
  informed : ∃ info, output.connector = some info ∧ info.connectorId = connectorId
  present : ((driver.resources kernel).connector connectorId).isSome
  tracked : ∀ crtc, output.currentCrtc = some crtc →
    driven (driver.resources kernel) connectorId = some crtc
  saved : output.savedCrtc = originalCrtc origin connectorId

def Untouched (outputs : AList fun _ : UInt32 => KMSOutput) (connectorId : UInt32) : Prop :=
  ∀ output, outputs.lookup connectorId = some output → output.usingSavedCrtc = true

/-- What was fed when the display was created still is, by the same CRTC, and what no output
has set looks as it did. -/
structure Sound (origin kernel : driver.Kernel) (outputs : AList fun _ : UInt32 => KMSOutput)
    (framebuffers : List UInt32) : Prop where
  wired : Wired (driver.resources kernel)
  known : ∀ connectorId output, outputs.lookup connectorId = some output →
    OutputSound origin kernel connectorId output
  kept : ∀ connectorId crtc, driven (driver.resources origin) connectorId = some crtc →
    driven (driver.resources kernel) connectorId = some crtc
  untouched : ∀ connectorId, Untouched outputs connectorId →
    driven (driver.resources kernel) connectorId = driven (driver.resources origin) connectorId
  shown : ∀ connectorId crtc, Untouched outputs connectorId →
    driven (driver.resources origin) connectorId = some crtc →
      driver.scanout kernel crtc.crtcId = driver.scanout origin crtc.crtcId
  fresh : ∀ connectorId crtc, driven (driver.resources origin) connectorId = some crtc →
    (driver.scanout origin crtc.crtcId).bufferId ∉ framebuffers

/-- The encoder that the output has read of its connector is still the connector's. -/
def Current (kernel : driver.Kernel) (outputs : AList fun _ : UInt32 => KMSOutput)
    (connectorId : UInt32) : Prop :=
  ∃ output info, outputs.lookup connectorId = some output ∧ output.connector = some info ∧
    (output.currentCrtc = none →
      ((driver.resources kernel).connector connectorId).map Connector.encoderId =
        some info.wiring.encoderId)

def Fits (outputs : AList fun _ : UInt32 => KMSOutput) (size : Size) (connectorId : UInt32) :
    Prop :=
  ∃ output info mode, outputs.lookup connectorId = some output ∧
    output.connector = some info ∧ modeOf info = some mode ∧
    mode.hdisplay.toUInt32 ≤ size.width ∧ mode.vdisplay.toUInt32 ≤ size.height

/-- The output has a CRTC, which shows a framebuffer of the display in the mode of the output. -/
def Showing (kernel : driver.Kernel) (outputs : AList fun _ : UInt32 => KMSOutput)
    (framebuffers : List UInt32) (connectorId : UInt32) : Prop :=
  ∃ output info mode crtc fbId, outputs.lookup connectorId = some output ∧
    output.connector = some info ∧ modeOf info = some mode ∧
    output.currentCrtc = some crtc ∧ output.usingSavedCrtc = false ∧ fbId ∈ framebuffers ∧
    driver.scanout kernel crtc.crtcId = ⟨fbId, 0, 0, mode⟩

variable {origin kernel after : driver.Kernel} {outputs : AList fun _ : UInt32 => KMSOutput}
  {framebuffers : List UInt32} {connectorId : UInt32} {output : KMSOutput}

theorem original_crtc_fed {crtc : Crtc}
    (fed : driven (driver.resources kernel) connectorId = some crtc) :
    originalCrtc kernel connectorId = ⟨crtc.crtcId, driver.scanout kernel crtc.crtcId⟩ := by
  rw [originalCrtc, fed]

theorem original_crtc_unfed (unfed : driven (driver.resources kernel) connectorId = none) :
    (originalCrtc kernel connectorId).crtcId = 0 := by
  rw [originalCrtc, unfed]

theorem untouched_insert {other : UInt32} (different : other ≠ connectorId) :
    Untouched (outputs.insert connectorId output) other ↔ Untouched outputs other := by
  simp only [Untouched, AList.lookup_insert_ne different]

theorem Sound.same_routes (sound : Sound origin kernel outputs framebuffers)
    (objects : SameObjects (driver.resources kernel) (driver.resources after))
    (routes : ∀ id, KeepsRoute (driver.resources kernel) (driver.resources after) id)
    (shows : ∀ id crtc, Untouched outputs id →
      driven (driver.resources kernel) id = some crtc →
        driver.scanout after crtc.crtcId = driver.scanout kernel crtc.crtcId) :
    Sound origin after outputs framebuffers where
  wired := wired_kept objects (fun id => .inl (routes id)) sound.wired
  known := by
    intro id output found
    have was := sound.known id output found
    refine ⟨was.named, was.informed, ?_, ?_, was.saved⟩
    · rw [present_kept objects]
      exact was.present
    · intro crtc current
      rw [(routes id).driven]
      exact was.tracked crtc current
  kept := by
    intro id crtc fed
    rw [(routes id).driven]
    exact sound.kept id crtc fed
  untouched := by
    intro id idle
    rw [(routes id).driven]
    exact sound.untouched id idle
  shown := by
    intro id crtc idle fed
    rw [shows id crtc idle (sound.kept id crtc fed)]
    exact sound.shown id crtc idle fed
  fresh := sound.fresh

theorem Sound.put (sound : Sound origin kernel outputs framebuffers)
    (known : OutputSound origin kernel connectorId output)
    (same : output.usingSavedCrtc = true ↔ Untouched outputs connectorId) :
    Sound origin kernel (outputs.insert connectorId output) framebuffers := by
  have idle : ∀ id, Untouched (outputs.insert connectorId output) id → Untouched outputs id := by
    intro id untouched
    by_cases own : id = connectorId
    · subst own
      exact same.mp (untouched output (AList.lookup_insert outputs))
    · exact (untouched_insert own).mp untouched
  refine ⟨sound.wired, ?_, sound.kept, fun id untouched => sound.untouched id (idle id untouched),
    fun id crtc untouched => sound.shown id crtc (idle id untouched), sound.fresh⟩
  intro id found read
  by_cases own : id = connectorId
  · subst own
    rw [AList.lookup_insert] at read
    cases read
    exact known
  · rw [AList.lookup_insert_ne own] at read
    exact sound.known id found read

/-- The CRTC that `ensure_crtc` chooses feeds no other connector, and takes the place of none
that feeds this one. -/
theorem chosen_free (sound : Sound origin kernel outputs framebuffers) {info : ConnectorInfo}
    (found : outputs.lookup connectorId = some output)
    (current : output.currentCrtc = none →
      ((driver.resources kernel).connector connectorId).map Connector.encoderId =
        some info.wiring.encoderId)
    {answer : Bool} {selected : CrtcSelection.KMSOutput} {crtc : Crtc}
    (ensured : CrtcSelection.ensureCrtc (driver.resources kernel)
      ⟨info.wiring, output.currentCrtc⟩ = some (answer, selected))
    (chosen : selected.currentCrtc = some crtc) :
    (∀ id, id ≠ connectorId → driven (driver.resources kernel) id ≠ some crtc) ∧
      ∀ other, driven (driver.resources kernel) connectorId = some other → other = crtc := by
  have fed_free : driven (driver.resources kernel) connectorId = some crtc →
      (∀ id, id ≠ connectorId → driven (driver.resources kernel) id ≠ some crtc) ∧
        ∀ other, driven (driver.resources kernel) connectorId = some other → other = crtc := by
    intro fed
    constructor
    · intro id different shared
      exact different (sound.wired.separate id connectorId crtc shared fed)
    · intro other also
      exact Option.some_inj.mp (also.symm.trans fed)
  have same_feed : output.currentCrtc = none →
      driven (driver.resources kernel) connectorId =
        connectedCrtc (driver.resources kernel) info.wiring := by
    intro vacant
    obtain ⟨connector, present, same⟩ := Option.map_eq_some_iff.mp (current vacant)
    rw [driven, present, Option.bind_some, connectedCrtc, connectedCrtc, same]
  rcases ensure_crtc_chooses ensured chosen with own | ⟨vacant, fed | ⟨unfed, unused⟩⟩
  · exact fed_free ((sound.known connectorId output found).tracked crtc own)
  · exact fed_free ((same_feed vacant).trans fed)
  · refine ⟨fun id _ => unused_feeds_none sound.wired unused id, ?_⟩
    intro other fed
    rw [same_feed vacant, unfed] at fed
    cases fed

theorem Sound.set (sound : Sound origin kernel outputs framebuffers)
    (found : outputs.lookup connectorId = some output) {crtc : Crtc} {scanout : Scanout}
    (free : ∀ id, id ≠ connectorId → driven (driver.resources kernel) id ≠ some crtc)
    (own : ∀ other, driven (driver.resources kernel) connectorId = some other → other = crtc)
    (accepted : driver.modeSetCrtc kernel ⟨crtc.crtcId, scanout, connectorId⟩ = (true, after)) :
    Sound origin after (outputs.insert connectorId
      { output with currentCrtc := some crtc, usingSavedCrtc := false }) framebuffers := by
  obtain ⟨set, shows⟩ := driver.accepted accepted
  have routes : ∀ id, id ≠ connectorId →
      KeepsRoute (driver.resources kernel) (driver.resources after) id :=
    others_kept set free sound.wired
  have routed : driven (driver.resources after) connectorId = some crtc := set.routed
  have was := sound.known connectorId output found
  -- an idle connector is another one, so it is not fed by this CRTC
  have touched : ∀ id, Untouched (outputs.insert connectorId
      { output with currentCrtc := some crtc, usingSavedCrtc := false }) id →
      id ≠ connectorId ∧ Untouched outputs id := by
    intro id idle
    have different : id ≠ connectorId := by
      rintro rfl
      cases idle _ (AList.lookup_insert outputs)
    exact ⟨different, (untouched_insert different).mp idle⟩
  refine ⟨wired_set set free sound.wired, ?_, ?_, ?_, ?_, sound.fresh⟩
  · intro id listed read
    by_cases same : id = connectorId
    · subst same
      rw [AList.lookup_insert] at read
      cases read
      refine ⟨was.named, was.informed, ?_, ?_, was.saved⟩
      · rw [present_kept set.objects]
        exact was.present
      · rintro other ⟨⟩
        exact routed
    · rw [AList.lookup_insert_ne same] at read
      have known := sound.known id listed read
      refine ⟨known.named, known.informed, ?_, ?_, known.saved⟩
      · rw [present_kept set.objects]
        exact known.present
      · intro other current
        rw [(routes id same).driven]
        exact known.tracked other current
  · intro id other fed
    have before := sound.kept id other fed
    by_cases same : id = connectorId
    · subst same
      rw [routed, own other before]
    · rw [(routes id same).driven]
      exact before
  · intro id idle
    obtain ⟨different, idle⟩ := touched id idle
    rw [(routes id different).driven]
    exact sound.untouched id idle
  · intro id other idle fed
    obtain ⟨different, idle⟩ := touched id idle
    have apart := fed_apart (sound.kept id other fed) (free id different)
    rw [shows, Function.update_of_ne apart]
    exact sound.shown id other idle fed

end Invariants

section Execution

variable {driver : Driver} {origin : driver.Kernel} {display : Display driver}

/-- Only the answers that `drmModeGetResources` gives next have changed. -/
def SameButFaults (display after : Display driver) : Prop :=
  ∃ faults, after = { display with faults := faults }

theorem resources_read {before : Display driver → Prop}
    {thrown : RuntimeError → Display driver → Prop}
    (steady : ∀ state faults, before state → before { state with faults := faults })
    (fails : ∀ failure state, before state → thrown failure state) :
    Ensures before (drmModeResources : Code driver Unit) (fun _ => before) thrown := by
  apply ensures_read
  intro state holds
  have popped : Ensures (· = state)
      (update fun display : Display driver => { display with faults := display.faults.tail })
      (fun _ => before) thrown := by
    apply ensures_update
    rintro _ rfl
    exact steady _ _ holds
  apply ensures_bind popped
  intro _
  split
  · exact ensures_throw (fails _)
  · exact ensures_pure fun _ same => same

theorem resources_read_same {thrown : RuntimeError → Display driver → Prop}
    (fails : ∀ failure after, SameButFaults display after → thrown failure after) :
    Ensures (SameButFaults display) (drmModeResources : Code driver Unit)
      (fun _ => SameButFaults display) thrown := by
  apply resources_read _ fails
  rintro state faults ⟨earlier, rfl⟩
  exact ⟨faults, rfl⟩

theorem ensures_faults {Value : Type} {code : Code driver Value} {faults : List Bool}
    {returned : Value → Display driver → Prop} {thrown : RuntimeError → Display driver → Prop}
    (runs : Ensures (SameButFaults display) code returned thrown) :
    Ensures (· = { display with faults := faults }) code returned thrown :=
  ensures_starts runs fun _ same => ⟨faults, same⟩

abbrev SoundDisplay (origin : driver.Kernel) (display : Display driver) : Prop :=
  Sound origin display.kernel display.outputs display.framebuffers

/-- Every output knows the encoder of its connector. -/
structure Prepared (origin : driver.Kernel) (held : List UInt32) (display : Display driver) :
    Prop where
  sound : SoundDisplay origin display
  current : ∀ connectorId output, display.outputs.lookup connectorId = some output →
    Current display.kernel display.outputs connectorId
  held : ∀ connectorId ∈ held, connectorId ∈ display.outputs

variable {held : List UInt32} {connectorId : UInt32} {output : KMSOutput} {info : ConnectorInfo}

theorem Prepared.faults (prepared : Prepared origin held display) {after : Display driver}
    (same : SameButFaults display after) : Prepared origin held after := by
  obtain ⟨faults, rfl⟩ := same
  exact ⟨prepared.sound, prepared.current, prepared.held⟩

theorem info_present (read : connectorInfo display.kernel connectorId = some info) :
    info.connectorId = connectorId ∧
      (driver.resources display.kernel).connector connectorId = some info.wiring := by
  obtain ⟨wiring, present, rfl⟩ := Option.map_eq_some_iff.mp read
  exact ⟨rfl, present⟩

theorem Prepared.put (prepared : Prepared origin held display)
    (read : connectorInfo display.kernel connectorId = some info)
    (named : output.connectorId = connectorId) (informed : output.connector = some info)
    (vacant : output.currentCrtc = none)
    (saved : output.savedCrtc = originalCrtc origin connectorId)
    (same : output.usingSavedCrtc = true ↔ Untouched display.outputs connectorId) :
    Prepared origin (connectorId :: held)
      { display with outputs := display.outputs.insert output.connectorId output } := by
  obtain ⟨own, present⟩ := info_present read
  have known : OutputSound origin display.kernel connectorId output := by
    refine ⟨named, ⟨info, informed, own⟩, by rw [present]; rfl, ?_, saved⟩
    intro crtc current
    cases vacant.symm.trans current
  refine ⟨?_, ?_, ?_⟩
  · rw [named]
    exact prepared.sound.put known same
  · intro id found listed
    rw [named] at listed ⊢
    by_cases same : id = connectorId
    · subst same
      refine ⟨output, info, AList.lookup_insert _, informed, fun _ => ?_⟩
      rw [present]
      rfl
    · rw [AList.lookup_insert_ne same] at listed
      obtain ⟨other, its, there, its_info, encoder⟩ := prepared.current id found listed
      exact ⟨other, its, (AList.lookup_insert_ne same).trans there, its_info, encoder⟩
  · intro id member
    rw [named, AList.mem_insert]
    rcases List.mem_cons.mp member with own | before
    · exact .inl own
    · exact .inr (prepared.held id before)

theorem untouched_of_lookup {outputs : AList fun _ : UInt32 => KMSOutput}
    (found : outputs.lookup connectorId = some output) :
    Untouched outputs connectorId ↔ output.usingSavedCrtc = true := by
  constructor
  · intro idle
    exact idle output found
  · intro using_ other read
    rw [found] at read
    cases read
    exact using_

/-- What is saved of a connector is what it showed when the display was created. -/
theorem saved_original (sound : SoundDisplay origin display)
    (missing : display.outputs.lookup connectorId = none)
    (read : connectorInfo display.kernel connectorId = some info) :
    savedCrtcOf display.kernel info = originalCrtc origin connectorId := by
  have idle : Untouched display.outputs connectorId := by
    intro output found
    cases missing.symm.trans found
  have fed : connectedCrtc (driver.resources display.kernel) info.wiring =
      driven (driver.resources origin) connectorId := by
    rw [← sound.untouched connectorId idle, driven, (info_present read).2]
    rfl
  rw [savedCrtcOf, originalCrtc, fed]
  cases original : driven (driver.resources origin) connectorId with
  | none => rfl
  | some crtc =>
      change SavedCrtc.mk _ _ = SavedCrtc.mk _ _
      rw [sound.shown connectorId crtc idle original]

theorem output_created (missing : display.outputs.lookup connectorId = none)
    (prepared : Prepared origin held display) :
    Ensures (· = display) (newOutput connectorId >>= putOutput)
      (fun _ => Prepared origin (connectorId :: held)) (fun _ => SoundDisplay origin) := by
  have failing : ∀ after, SameButFaults display after → SoundDisplay origin after :=
    fun after same => (prepared.faults same).sound
  have created : Ensures (· = display) (newOutput connectorId)
      (fun output after => SameButFaults display after ∧ ∃ info,
        connectorInfo display.kernel connectorId = some info ∧
        output = ⟨connectorId, some info, none, savedCrtcOf display.kernel info, true⟩)
      (fun _ => SoundDisplay origin) := by
    apply ensures_faults
    apply ensures_bind (resources_read_same fun _ => failing)
    intro _
    apply ensures_read
    rintro _ ⟨faults, rfl⟩
    cases read : connectorInfo display.kernel connectorId with
    | none =>
        apply ensures_throw
        rintro _ rfl
        exact failing _ ⟨faults, rfl⟩
    | some info =>
        apply ensures_faults
        apply ensures_bind (resources_read_same fun _ => failing)
        intro _
        exact ensures_pure fun after same => ⟨same, info, rfl, rfl⟩
  apply ensures_bind created
  intro output
  apply ensures_update
  rintro after ⟨same, info, read, rfl⟩
  obtain ⟨faults, rfl⟩ := same
  have idle : Untouched display.outputs connectorId := by
    intro output found
    cases missing.symm.trans found
  exact (prepared.faults ⟨faults, rfl⟩).put read rfl rfl rfl
    (saved_original prepared.sound missing read) ⟨fun _ => idle, fun _ => rfl⟩

theorem output_reset (found : display.outputs.lookup connectorId = some output)
    (prepared : Prepared origin held display) :
    Ensures (· = display) (reset output)
      (fun _ => Prepared origin (connectorId :: held)) (fun _ => SoundDisplay origin) := by
  have known := prepared.sound.known connectorId output found
  apply ensures_faults
  apply ensures_bind (resources_read_same fun _ _ same => (prepared.faults same).sound)
  intro _
  apply ensures_read
  rintro _ ⟨faults, rfl⟩
  rw [known.named]
  cases read : connectorInfo display.kernel connectorId with
  | none =>
      -- a connector that could be read once can still be read
      have present := known.present
      rw [connectorInfo, Option.map_eq_none_iff] at read
      rw [read] at present
      cases present
  | some info =>
      apply ensures_update
      rintro _ rfl
      exact (prepared.faults ⟨faults, rfl⟩).put read rfl rfl rfl known.saved
        (untouched_of_lookup found).symm

theorem get_kms_output_for_prepared (connectorId : UInt32) :
    Ensures (Prepared origin held) (getKmsOutputFor connectorId : Code driver Unit)
      (fun _ => Prepared origin (connectorId :: held)) (fun _ => SoundDisplay origin) := by
  apply ensures_read
  intro display prepared
  cases found : display.outputs.lookup connectorId with
  | none => exact output_created found prepared
  | some output => exact output_reset found prepared

theorem create_or_reset_prepared (conf later : List ConfigurationOutput) (held : List UInt32) :
    Ensures (Prepared origin held) (createOrReset conf later : Code driver (List UInt32))
      (fun enabled => Prepared origin (enabled ++ held)) (fun _ => SoundDisplay origin) := by
  induction later generalizing held with
  | nil => exact ensures_pure fun _ prepared => prepared
  | cons output later ih =>
      have named : Ensures (Prepared origin held)
          (getKmsConnectorId conf output.id : Code driver UInt32)
          (fun _ => Prepared origin held) (fun _ => SoundDisplay origin) := by
        rw [getKmsConnectorId]
        split
        · exact ensures_pure fun _ prepared => prepared
        · exact ensures_throw fun _ prepared => prepared.sound
      apply ensures_bind named
      intro connectorId
      apply ensures_bind (get_kms_output_for_prepared connectorId)
      intro _
      apply ensures_bind (ih (connectorId :: held))
      intro enabled
      apply ensures_pure
      intro display prepared
      refine ⟨prepared.sound, prepared.current, fun id member => prepared.held id ?_⟩
      split at member
      · simpa [or_left_comm] using member
      · simp only [List.mem_append, List.mem_cons] at member ⊢
        exact member.imp_right .inr

end Execution

section Sizes

variable {outputs : AList fun _ : UInt32 => KMSOutput}

theorem larger_le {value maximum bound : UInt32} (below : larger value maximum ≤ bound) :
    value ≤ bound ∧ maximum ≤ bound := by
  rw [larger] at below
  split at below
  · rename_i less
    exact ⟨below, UInt32.le_trans (UInt32.le_of_lt less) below⟩
  · rename_i less
    exact ⟨UInt32.le_trans (UInt32.not_lt.mp less) below, below⟩

theorem find_max_size_fits {ids : List UInt32} {start size : Size}
    (found : findMaxSize outputs ids start = some size) :
    start.width ≤ size.width ∧ start.height ≤ size.height ∧
      ∀ connectorId ∈ ids, Fits outputs size connectorId := by
  induction ids generalizing start with
  | nil =>
      cases found
      exact ⟨UInt32.le_refl _, UInt32.le_refl _, by simp⟩
  | cons id later ih =>
      rw [findMaxSize] at found
      obtain ⟨mode, first, rest⟩ := Option.bind_eq_some_iff.mp found
      obtain ⟨info, informed, moded⟩ := Option.bind_eq_some_iff.mp first
      obtain ⟨output, listed, read⟩ := Option.bind_eq_some_iff.mp informed
      obtain ⟨wider, higher, others⟩ := ih rest
      have wide := larger_le wider
      have high := larger_le higher
      refine ⟨wide.2, high.2, ?_⟩
      intro connectorId member
      rcases List.mem_cons.mp member with rfl | member
      · exact ⟨output, info, mode, listed, read, moded, wide.1, high.1⟩
      · exact others connectorId member

end Sizes

section Setting

variable {driver : Driver} {origin : driver.Kernel} {display : Display driver}
  {enabled shown : List UInt32} {size : Size} {connectorId fbId : UInt32}

/-- The state of the loop that sets the outputs: those in `shown` are set. -/
structure Setting (origin : driver.Kernel) (enabled shown : List UInt32) (size : Size)
    (fbId : UInt32) (display : Display driver) : Prop where
  sound : SoundDisplay origin display
  owned : fbId ∈ display.framebuffers
  current : ∀ id ∈ enabled, Current display.kernel display.outputs id
  fits : ∀ id ∈ enabled, Fits display.outputs size id
  showing : ∀ id ∈ shown, Showing display.kernel display.outputs display.framebuffers id

theorem ensure_crtc_selects (output : KMSOutput) (info : ConnectorInfo)
    (sound : SoundDisplay origin display) :
    Ensures (· = display) (ensureCrtc output info)
      (fun chosen after => SameButFaults display after ∧ ∀ crtc, chosen = some crtc →
        ∃ answer selected, CrtcSelection.ensureCrtc (driver.resources display.kernel)
          ⟨info.wiring, output.currentCrtc⟩ = some (answer, selected) ∧
            selected.currentCrtc = some crtc)
      (fun _ => SoundDisplay origin) := by
  have looked : Ensures (SameButFaults display)
      (lookIf (output.currentCrtc.isNone && info.wiring.connection = .connected))
      (fun _ => SameButFaults display) (fun _ => SoundDisplay origin) := by
    rw [lookIf]
    split
    · apply resources_read_same
      rintro _ after ⟨faults, rfl⟩
      exact sound
    · exact ensures_pure fun _ same => same
  apply ensures_faults
  apply ensures_bind looked
  intro _
  apply ensures_read
  rintro _ ⟨faults, rfl⟩
  cases ensured : CrtcSelection.ensureCrtc (driver.resources display.kernel)
      ⟨info.wiring, output.currentCrtc⟩ with
  | none => exact ensures_undefined
  | some result =>
      apply ensures_pure
      rintro _ rfl
      exact ⟨⟨faults, rfl⟩, fun crtc chosen => ⟨result.1, result.2, rfl, chosen⟩⟩

theorem ensures_mode_set {Value : Type} {setting : ModeSetting} {rest : Bool → Code driver Value}
    {returned : Value → Display driver → Prop} {thrown : RuntimeError → Display driver → Prop}
    (continues : ∀ accepted after, driver.modeSetCrtc display.kernel setting = (accepted, after) →
      Ensures
        (· = { display with
          kernel := after, requests := display.requests ++ [(setting, accepted)] })
        (rest accepted) returned thrown) :
    Ensures (· = display) (drmModeSetCrtc setting >>= rest) returned thrown := by
  intro state outcome finish same ran
  subst same
  exact continues _ _ rfl _ outcome finish rfl ran

section Accepted

variable {output : KMSOutput} {info : ConnectorInfo} {crtc : Crtc} {mode : ModeInfo}
  {after : driver.Kernel} (requests : List (ModeSetting × Bool))
  (setting : Setting origin enabled shown size fbId display)
  (found : display.outputs.lookup connectorId = some output)
  (informed : output.connector = some info) (moded : modeOf info = some mode)
  (free : ∀ id, id ≠ connectorId → driven (driver.resources display.kernel) id ≠ some crtc)
  (own : ∀ other, driven (driver.resources display.kernel) connectorId = some other →
    other = crtc)
  (accepted : driver.modeSetCrtc display.kernel
    ⟨crtc.crtcId, ⟨fbId, 0, 0, mode⟩, connectorId⟩ = (true, after))

include setting found informed moded free own accepted

theorem setting_accepted :
    Setting origin enabled (connectorId :: shown) size fbId
      { display with
        kernel := after
        requests := requests
        outputs := display.outputs.insert connectorId
          { output with currentCrtc := some crtc, usingSavedCrtc := false } } := by
  obtain ⟨set, shows⟩ := driver.accepted accepted
  refine ⟨setting.sound.set found free own accepted, setting.owned, ?_, ?_, ?_⟩
  · intro id member
    by_cases same : id = connectorId
    · subst same
      refine ⟨_, info, AList.lookup_insert _, informed, ?_⟩
      intro vacant
      cases vacant
    · obtain ⟨other, its, listed, read, encoder⟩ := setting.current id member
      refine ⟨other, its, (AList.lookup_insert_ne same).trans listed, read, fun vacant => ?_⟩
      rw [(others_kept set free setting.sound.wired id same).encoderId]
      exact encoder vacant
  · intro id member
    obtain ⟨other, its, moding, listed, read, rest⟩ := setting.fits id member
    by_cases same : id = connectorId
    · subst same
      rw [found] at listed
      cases listed
      exact ⟨_, its, moding, AList.lookup_insert _, read, rest⟩
    · exact ⟨other, its, moding, (AList.lookup_insert_ne same).trans listed, read, rest⟩
  · intro id member
    by_cases same : id = connectorId
    · subst same
      refine ⟨_, info, mode, crtc, fbId, AList.lookup_insert _, informed, moded, rfl, rfl,
        setting.owned, ?_⟩
      rw [shows]
      exact Function.update_self _ _ _
    · have before := (List.mem_cons.mp member).resolve_left same
      obtain ⟨other, its, moding, feeding, buffer, listed, read, modes, current, taken, ours,
        scans⟩ := setting.showing id before
      refine ⟨other, its, moding, feeding, buffer, (AList.lookup_insert_ne same).trans listed,
        read, modes, current, taken, ours, ?_⟩
      have fed := (setting.sound.known id other listed).tracked feeding current
      have apart := fed_apart fed (free id same)
      rw [shows, Function.update_of_ne apart]
      exact scans

end Accepted

theorem sound_refused {output : KMSOutput} {setting : ModeSetting} {after : driver.Kernel}
    (sound : SoundDisplay origin display)
    (found : display.outputs.lookup connectorId = some output)
    (refused : driver.modeSetCrtc display.kernel setting = (false, after)) :
    Sound origin after
      (display.outputs.insert connectorId { output with currentCrtc := none })
      display.framebuffers := by
  obtain ⟨same, shows⟩ := driver.refused refused
  have known := sound.known connectorId output found
  have moved : Sound origin after display.outputs display.framebuffers := by
    apply sound.same_routes
    · rw [same]
      exact ⟨rfl, rfl, fun _ => rfl, fun _ => rfl, fun _ => rfl⟩
    · intro id
      rw [same]
      exact ⟨rfl, rfl⟩
    · intro _ _ _ _
      rw [shows]
  apply moved.put
  · refine ⟨known.named, known.informed, ?_, ?_, known.saved⟩
    · rw [same]
      exact known.present
    · intro crtc current
      cases current
  · exact (untouched_of_lookup found).symm

theorem set_crtc_shows (member : connectorId ∈ enabled) :
    Ensures (Setting origin enabled shown size fbId) (setCrtc connectorId fbId)
      (fun success after => SoundDisplay origin after ∧ (success = true →
        Setting origin enabled (connectorId :: shown) size fbId after))
      (fun _ => SoundDisplay origin) := by
  apply ensures_read
  intro display setting
  obtain ⟨⟨named, connector, current, saved, using_⟩, info, found, informed, encoder⟩ :=
    setting.current connectorId member
  have known := setting.sound.known connectorId _ found
  obtain ⟨read, same, own⟩ := known.informed
  cases known.named
  cases informed
  cases same
  simp only [found]
  apply ensures_bind (ensure_crtc_selects _ info setting.sound)
  intro chosen
  apply ensures_fixed
  rintro _ ⟨⟨faults, rfl⟩, selects⟩
  have ready : Setting origin enabled shown size fbId { display with faults := faults } :=
    ⟨setting.sound, setting.owned, setting.current, setting.fits, setting.showing⟩
  cases chosen with
  | none =>
      apply ensures_throw
      rintro _ rfl
      exact ready.sound
  | some crtc =>
      obtain ⟨answer, selected, ensured, chosen⟩ := selects crtc rfl
      obtain ⟨free, single⟩ := chosen_free setting.sound found encoder ensured chosen
      cases moded : modeOf info with
      | none => exact ensures_undefined
      | some mode =>
          apply ensures_mode_set
          rw [own]
          intro accepted after answered
          cases accepted with
          | true =>
              rintro _ outcome finish rfl ran
              cases ran
              have done := fun requests =>
                setting_accepted requests ready found rfl moded free single answered
              exact ⟨(done _).sound, fun _ => done _⟩
          | false =>
              rintro _ outcome finish rfl ran
              cases ran
              refine ⟨sound_refused ready.sound found answered, ?_⟩
              intro success
              cases success

theorem set_crtcs_show (later : List UInt32) (within : ∀ id ∈ later, id ∈ enabled)
    (shown : List UInt32) :
    Ensures (Setting origin enabled shown size fbId) (setCrtcs fbId later : Code driver Unit)
      (fun _ => Setting origin enabled (later.reverse ++ shown) size fbId)
      (fun _ => SoundDisplay origin) := by
  induction later generalizing shown with
  | nil => exact ensures_pure fun _ setting => setting
  | cons id later ih =>
      apply ensures_bind (set_crtc_shows (within id List.mem_cons_self))
      intro success
      apply ensures_fixed
      rintro display ⟨sound, set⟩
      cases success with
      | true =>
          have rest := ih (fun id member => within id (List.mem_cons_of_mem _ member)) (id :: shown)
          rw [List.reverse_cons, List.append_assoc]
          refine ensures_starts rest ?_
          rintro _ rfl
          exact set rfl
      | false =>
          apply ensures_throw
          rintro _ rfl
          exact sound

end Setting

section Construction

variable {driver : Driver} {origin : driver.Kernel} {display : Display driver}

structure Lit (origin : driver.Kernel) (display : Display driver) : Prop where
  sound : SoundDisplay origin display
  fits : ∀ id ∈ display.enabled, Fits display.outputs display.size id
  showing : ∀ id ∈ display.enabled,
    Showing display.kernel display.outputs display.framebuffers id

def Unshown (origin : driver.Kernel) (fbId : UInt32) : Prop :=
  ∀ connectorId crtc, driven (driver.resources origin) connectorId = some crtc →
    (driver.scanout origin crtc.crtcId).bufferId ≠ fbId

theorem Sound.add_framebuffer {kernel : driver.Kernel}
    {outputs : AList fun _ : UInt32 => KMSOutput} {framebuffers : List UInt32} {fbId : UInt32}
    (sound : Sound origin kernel outputs framebuffers) (unshown : Unshown origin fbId) :
    Sound origin kernel outputs (fbId :: framebuffers) := by
  refine ⟨sound.wired, sound.known, sound.kept, sound.untouched, sound.shown, ?_⟩
  intro id crtc fed member
  rcases List.mem_cons.mp member with same | before
  · exact unshown id crtc fed same
  · exact sound.fresh id crtc fed before

theorem configure_lights (conf : List ConfigurationOutput) (setup : Except RuntimeError UInt32)
    (unshown : ∀ fbId, setup = .ok fbId → Unshown origin fbId) :
    Ensures (Prepared origin []) (configure conf setup : Code driver Unit)
      (fun _ => Lit origin) (fun _ => SoundDisplay origin) := by
  apply ensures_bind (create_or_reset_prepared conf conf [])
  intro enabled
  rw [List.append_nil]
  apply ensures_read
  intro display prepared
  cases largest : findMaxSize display.outputs enabled ⟨0, 0⟩ with
  | none => exact ensures_undefined
  | some maxSize =>
      cases setup with
      | error failure =>
          apply ensures_throw
          rintro _ rfl
          exact prepared.sound
      | ok fbId =>
          have begun : Ensures (· = display)
              (update fun display : Display driver =>
                { display with framebuffers := fbId :: display.framebuffers })
              (fun _ => Setting origin enabled [] maxSize fbId)
              (fun _ : RuntimeError => SoundDisplay origin) := by
            apply ensures_update
            rintro _ rfl
            refine ⟨prepared.sound.add_framebuffer (unshown fbId rfl), List.mem_cons_self, ?_,
              (find_max_size_fits largest).2.2, by simp⟩
            intro id member
            obtain ⟨output, found⟩ :=
              Option.isSome_iff_exists.mp (AList.lookup_isSome.mpr (prepared.held id member))
            exact prepared.current id output found
          apply ensures_bind begun
          intro _
          apply ensures_bind (set_crtcs_show enabled (fun _ member => member) [])
          intro _
          apply ensures_update
          intro last setting
          refine ⟨setting.sound, setting.fits, fun id member => setting.showing id ?_⟩
          simpa using member

end Construction

end Mir.OutputRoutes
