import Mathlib.Data.List.AList
import Mir.Computations
import Mir.CrtcSelection
import Mir.TransitionRuns

/-!
# The outputs of a display

`GBMDisplay` from its construction to its destruction, with the outputs that it sets and
gives back. What the kernel does is a `Driver`: a state with the objects that can be read of
it, and the calls that change it. What is assumed of each call is a field of the driver.
-/

namespace Mir.OutputConfiguration

open Mir.TransitionRuns Mir.Computations Mir.CrtcSelection

set_option autoImplicit false

structure RuntimeError where
  what : String
  deriving DecidableEq, Repr

structure ModeInfo where
  clock : UInt32 := 0
  hdisplay : UInt16 := 0
  hsyncStart : UInt16 := 0
  hsyncEnd : UInt16 := 0
  htotal : UInt16 := 0
  hskew : UInt16 := 0
  vdisplay : UInt16 := 0
  vsyncStart : UInt16 := 0
  vsyncEnd : UInt16 := 0
  vtotal : UInt16 := 0
  deriving DecidableEq, Repr

/-- What a CRTC shows: a framebuffer, from a position on, in a mode. -/
structure Scanout where
  bufferId : UInt32
  x : UInt32
  y : UInt32
  mode : ModeInfo
  deriving DecidableEq, Repr

structure SavedCrtc where
  crtcId : UInt32
  scanout : Scanout
  deriving DecidableEq, Repr

/-- The arguments of `drmModeSetCrtc`, which is only called with one connector. -/
structure ModeSetting where
  crtcId : UInt32
  scanout : Scanout
  connectorId : UInt32
  deriving DecidableEq, Repr

section Kernel

def driven (resources : Resources) (connectorId : UInt32) : Option Crtc :=
  (resources.connector connectorId).bind (connectedCrtc resources)

/-- No other connector can use the encoder that the connector names, if it names one. -/
def Reserved (resources : Resources) (connectorId : UInt32) : Prop :=
  ∀ other connector rival, other ≠ connectorId →
    resources.connector connectorId = some connector → resources.connector other = some rival →
    (resources.encoder connector.encoderId).isSome → connector.encoderId ∉ rival.encoders

/-- A connector that can be read is listed. No two connectors get their picture from one CRTC,
and one that gets none has its encoder for itself. -/
structure Wired (resources : Resources) : Prop where
  listed : ∀ id, (resources.connector id).isSome → id ∈ resources.connectors
  separate : ∀ id other crtc, driven resources id = some crtc →
    driven resources other = some crtc → id = other
  reserved : ∀ id, driven resources id = none → Reserved resources id

structure SameObjects (resources other : Resources) : Prop where
  connectors : other.connectors = resources.connectors
  crtcs : other.crtcs = resources.crtcs
  connector : ∀ id, (other.connector id).map Connector.encoders =
    (resources.connector id).map Connector.encoders
  encoder : ∀ id, (other.encoder id).isSome = (resources.encoder id).isSome
  crtc : ∀ id, (other.crtc id).isSome = (resources.crtc id).isSome

structure KeepsRoute (before after : Resources) (connectorId : UInt32) : Prop where
  encoderId : (after.connector connectorId).map Connector.encoderId =
    (before.connector connectorId).map Connector.encoderId
  driven : driven after connectorId = driven before connectorId

/-- Setting a CRTC feeds the connector from it, and leaves the connectors alone that get
their picture from another one, or that get none and have their encoder for themselves. -/
structure ModeSet (before after : Resources) (setting : ModeSetting) : Prop where
  objects : SameObjects before after
  routed : driven after setting.connectorId = some ⟨setting.crtcId⟩
  others : ∀ id, id ≠ setting.connectorId → driven before id ≠ some ⟨setting.crtcId⟩ →
    (driven before id = none → Reserved before id) → KeepsRoute before after id

/-- Removing framebuffers may switch off the CRTCs that show them. -/
structure FramebuffersRemoved (before after : Resources) (scanout shows : UInt32 → Scanout)
    (framebuffers : List UInt32) : Prop where
  objects : SameObjects before after
  routes : ∀ id, KeepsRoute before after id ∨ (driven after id = none ∧ Reserved after id ∧
    ∃ crtc, driven before id = some crtc ∧ (scanout crtc.crtcId).bufferId ∈ framebuffers)
  shows : ∀ crtcId, (scanout crtcId).bufferId ∉ framebuffers → shows crtcId = scanout crtcId

/-- The kernel's side of DRM. `plug` is what happens at the sockets: connections and modes
come and go, the routes stay. -/
structure Driver where
  Kernel : Type
  Plug : Type
  resources : Kernel → Resources
  modes : Kernel → UInt32 → List ModeInfo
  scanout : Kernel → UInt32 → Scanout
  modeSetCrtc : Kernel → ModeSetting → Bool × Kernel
  flip : Kernel → UInt32 → UInt32 → Kernel
  rmFB : Kernel → List UInt32 → Kernel
  plug : Kernel → Plug → Kernel
  accepted : ∀ {kernel setting after}, modeSetCrtc kernel setting = (true, after) →
    ModeSet (resources kernel) (resources after) setting ∧
      scanout after = Function.update (scanout kernel) setting.crtcId setting.scanout
  refused : ∀ {kernel setting after}, modeSetCrtc kernel setting = (false, after) →
    resources after = resources kernel ∧ scanout after = scanout kernel
  flipped : ∀ kernel crtcId fbId, resources (flip kernel crtcId fbId) = resources kernel ∧
    scanout (flip kernel crtcId fbId) = Function.update (scanout kernel) crtcId
      { scanout kernel crtcId with bufferId := fbId }
  removed : ∀ kernel framebuffers,
    FramebuffersRemoved (resources kernel) (resources (rmFB kernel framebuffers))
      (scanout kernel) (scanout (rmFB kernel framebuffers)) framebuffers
  plugged : ∀ kernel change, SameObjects (resources kernel) (resources (plug kernel change)) ∧
    (∀ id, KeepsRoute (resources kernel) (resources (plug kernel change)) id) ∧
    scanout (plug kernel change) = scanout kernel

end Kernel

structure ConnectorInfo where
  connectorId : UInt32
  wiring : Connector
  modes : List ModeInfo
  deriving DecidableEq, Repr

/-- A failed `reset` leaves an output without a connector. -/
structure KMSOutput where
  connectorId : UInt32
  connector : Option ConnectorInfo
  currentCrtc : Option Crtc
  savedCrtc : SavedCrtc
  usingSavedCrtc : Bool
  deriving DecidableEq, Repr

structure ConfigurationOutput where
  id : Int32
  connected : Bool
  deriving DecidableEq

structure Size where
  width : UInt32
  height : UInt32
  deriving DecidableEq, Repr

/-- `new` has not run its `configure`, `read` has the configuration for it, and `failed` has
left it with an exception. -/
inductive Phase where
  | new
  | read (conf : List ConfigurationOutput)
  | up
  | failed
  | down
  deriving DecidableEq

/-- `enabled`, `size` and `framebuffers` are those of the only display buffer. `requests` are
the calls of `drmModeSetCrtc` with the answers, and `faults` are the answers that
`drmModeGetResources` is going to give. -/
structure Display (driver : Driver) where
  phase : Phase
  outputs : AList fun _ : UInt32 => KMSOutput
  enabled : List UInt32
  size : Size
  framebuffers : List UInt32
  kernel : driver.Kernel
  requests : List (ModeSetting × Bool)
  faults : List Bool

section Code

variable {driver : Driver}

abbrev Code (driver : Driver) := Computation RuntimeError (Display driver)

def putOutput (output : KMSOutput) : Code driver Unit :=
  update fun display =>
    { display with outputs := display.outputs.insert output.connectorId output }

def drmModeResources : Code driver Unit := do
  let display ← readState
  update fun display => { display with faults := display.faults.tail }
  if display.faults.head? = some true then throw ⟨"Couldn't get DRM resources\n"⟩

def lookIf (needed : Bool) : Code driver Unit :=
  if needed then drmModeResources else pure ()

def drmModeSetCrtc (setting : ModeSetting) : Code driver Bool := do
  let display ← readState
  let (accepted, after) := driver.modeSetCrtc display.kernel setting
  update fun display =>
    { display with kernel := after, requests := display.requests ++ [(setting, accepted)] }
  pure accepted

def connectorInfo (kernel : driver.Kernel) (connectorId : UInt32) : Option ConnectorInfo :=
  ((driver.resources kernel).connector connectorId).map fun wiring =>
    ⟨connectorId, wiring, driver.modes kernel connectorId⟩

def savedCrtcOf (kernel : driver.Kernel) (info : ConnectorInfo) : SavedCrtc :=
  match connectedCrtc (driver.resources kernel) info.wiring with
  | some crtc => ⟨crtc.crtcId, driver.scanout kernel crtc.crtcId⟩
  | none => ⟨0, ⟨0, 0, 0, {}⟩⟩

def newOutput (connectorId : UInt32) : Code driver KMSOutput := do
  drmModeResources
  let display ← readState
  match connectorInfo display.kernel connectorId with
  | none => throw ⟨"No DRM connector found\n"⟩
  | some info =>
      drmModeResources
      pure ⟨connectorId, some info, none, savedCrtcOf display.kernel info, true⟩

def reset (output : KMSOutput) : Code driver Unit := do
  drmModeResources
  let display ← readState
  match connectorInfo display.kernel output.connectorId with
  | none =>
      putOutput { output with connector := none }
      throw ⟨"No DRM connector found\n"⟩
  | some info => putOutput { output with connector := some info, currentCrtc := none }

def getKmsOutputFor (connectorId : UInt32) : Code driver Unit := do
  let display ← readState
  match display.outputs.lookup connectorId with
  | none =>
      let output ← newOutput connectorId
      putOutput output
  | some output => reset output

/-- The CRTC of the output after `ensure_crtc`. The resources are only looked at for an output
that is connected and has none. -/
def ensureCrtc (output : KMSOutput) (info : ConnectorInfo) : Code driver (Option Crtc) := do
  lookIf (output.currentCrtc.isNone && info.wiring.connection = .connected)
  let display ← readState
  match CrtcSelection.ensureCrtc (driver.resources display.kernel)
      ⟨info.wiring, output.currentCrtc⟩ with
  | none => undefined
  | some (_, selected) => pure selected.currentCrtc

/-- `mode_index` is always 0. -/
def modeOf (info : ConnectorInfo) : Option ModeInfo :=
  info.modes.head?

def setCrtc (connectorId fbId : UInt32) : Code driver Bool := do
  let display ← readState
  match display.outputs.lookup connectorId with
  | none => undefined
  | some output => match output.connector with
    | none => undefined
    | some info =>
        match ← ensureCrtc output info with
        | none => throw ⟨"Output has no associated crtc"⟩
        | some crtc => match modeOf info with
          | none => undefined
          | some mode =>
              let accepted ← drmModeSetCrtc
                ⟨crtc.crtcId, ⟨fbId, 0, 0, mode⟩, info.connectorId⟩
              if accepted then
                putOutput { output with currentCrtc := some crtc, usingSavedCrtc := false }
                pure true
              else
                putOutput { output with currentCrtc := none }
                pure false

/-- The connector that is dereferenced may be null. -/
def restoreSavedCrtc (connectorId : UInt32) : Code driver Unit := do
  let display ← readState
  match display.outputs.lookup connectorId with
  | none => undefined
  | some output =>
      if output.usingSavedCrtc then pure ()
      else match output.connector with
        | none => undefined
        | some info =>
            let _ ← drmModeSetCrtc
              ⟨output.savedCrtc.crtcId, output.savedCrtc.scanout, info.connectorId⟩
            putOutput { output with usingSavedCrtc := true }

def configurationOf (resources : Resources) : List ConfigurationOutput :=
  resources.connectors.filterMap fun connectorId =>
    (resources.connector connectorId).map fun connector =>
      ⟨connectorId.toInt32, connector.connection = .connected⟩

def getKmsConnectorId (conf : List ConfigurationOutput) (id : Int32) : Code driver UInt32 :=
  if conf.any fun output => output.id == id then pure id.toUInt32
  else throw ⟨"Failed to find DisplayConfigurationOutput with provided id"⟩

def createOrReset (conf : List ConfigurationOutput) :
    List ConfigurationOutput → Code driver (List UInt32)
  | [] => pure []
  | output :: later => do
      let connectorId ← getKmsConnectorId conf output.id
      getKmsOutputFor connectorId
      let enabledOutputs ← createOrReset conf later
      pure (if output.connected then connectorId :: enabledOutputs else enabledOutputs)

def larger (value maximum : UInt32) : UInt32 :=
  if maximum < value then value else maximum

def findMaxSize (outputs : AList fun _ : UInt32 => KMSOutput) :
    List UInt32 → Size → Option Size
  | [], maxSize => some maxSize
  | connectorId :: later, maxSize =>
      (((outputs.lookup connectorId).bind KMSOutput.connector).bind modeOf).bind fun mode =>
        findMaxSize outputs later
          ⟨larger mode.hdisplay.toUInt32 maxSize.width,
            larger mode.vdisplay.toUInt32 maxSize.height⟩

def setCrtcs (fbId : UInt32) : List UInt32 → Code driver Unit
  | [] => pure ()
  | connectorId :: later => do
      let success ← setCrtc connectorId fbId
      if success then setCrtcs fbId later
      else throw ⟨"Failed to set DRM crtc"⟩

/-- `setup` is how the scanout surface and its first framebuffer come about, or the exception
that ends it. -/
def configure (conf : List ConfigurationOutput) (setup : Except RuntimeError UInt32) :
    Code driver Unit := do
  let enabledOutputs ← createOrReset conf conf
  let display ← readState
  match findMaxSize display.outputs enabledOutputs ⟨0, 0⟩ with
  | none => undefined
  | some maxSize =>
      match setup with
      | .error failure => throw failure
      | .ok fbId =>
          update fun display => { display with framebuffers := fbId :: display.framebuffers }
          setCrtcs fbId enabledOutputs
          update fun display => { display with enabled := enabledOutputs, size := maxSize }

def restoreAll : List UInt32 → Code driver Unit
  | [] => pure ()
  | connectorId :: later => do
      restoreSavedCrtc connectorId
      restoreAll later

/-- The destructor: the surface goes with its framebuffers before the outputs do. -/
def destroy (order : List UInt32) : Code driver Unit := do
  update fun display =>
    { display with kernel := driver.rmFB display.kernel display.framebuffers }
  restoreAll order

end Code

section Life

variable {driver : Driver}

inductive Event (driver : Driver) where
  | configuration (fault : Bool)
  | configure (setup : Except RuntimeError UInt32) (faults : List Bool)
  | plug (change : driver.Plug)
  | flip (connectorId fbId : UInt32)
  | destroy (order : List UInt32)

def started (kernel : driver.Kernel) : Display driver :=
  ⟨.new, ∅, [], ⟨0, 0⟩, [], kernel, [], []⟩

/-- `drmModeAddFB` gives out an id that is not in use: no connector shows that framebuffer, and
no output is going to show it again. -/
def unusedId (display : Display driver) (fbId : UInt32) : Bool :=
  ((driver.resources display.kernel).connectors.all fun connectorId =>
    (driven (driver.resources display.kernel) connectorId).all fun crtc =>
      (driver.scanout display.kernel crtc.crtcId).bufferId != fbId) &&
  display.outputs.entries.all fun entry => entry.2.savedCrtc.scanout.bufferId != fbId

def ended : Except RuntimeError Unit → Phase
  | .ok () => .up
  | .error _ => .failed

/-- `configure` runs once, in the constructor of the display. -/
def step (display : Display driver) : Event driver → Option (Display driver)
  | .configuration fault => match display.phase with
      | .new =>
          some { display with
            phase := if fault then .failed
              else .read (configurationOf (driver.resources display.kernel)) }
      | _ => none
  | .configure setup faults => match display.phase with
      | .read conf =>
          if setup.toOption.all (unusedId display) then
            (execute (configure conf setup) { display with faults := faults }).map
              fun (outcome, after) => { after with phase := ended outcome }
          else none
      | _ => none
  | .plug change => some { display with kernel := driver.plug display.kernel change }
  | .flip connectorId fbId =>
      if display.phase = .up ∧ connectorId ∈ display.enabled ∧
          (unusedId display fbId || fbId ∈ display.framebuffers) then
        (display.outputs.lookup connectorId).bind fun output =>
          output.currentCrtc.map fun crtc =>
            { display with
              kernel := driver.flip display.kernel crtc.crtcId fbId
              framebuffers := fbId :: display.framebuffers }
      else none
  | .destroy order =>
      if (display.phase = .up ∨ display.phase = .failed) ∧ order.Perm display.outputs.keys then
        (execute (destroy order) display).map fun (_, after) => { after with phase := .down }
      else none

end Life

section Routes

variable {resources after : Resources}

theorem driven_readable {connectorId : UInt32} {crtc : Crtc}
    (fed : driven resources connectorId = some crtc) :
    resources.crtc crtc.crtcId = some crtc ∧ ∃ connector encoder,
      resources.connector connectorId = some connector ∧
        resources.encoder connector.encoderId = some encoder ∧ encoder.crtcId = crtc.crtcId := by
  obtain ⟨connector, read, connected⟩ := Option.bind_eq_some_iff.mp fed
  obtain ⟨encoder, coded, found⟩ := Option.bind_eq_some_iff.mp connected
  have same : crtc.crtcId = encoder.crtcId := resources.crtc_id _ _ found
  exact ⟨same ▸ found, connector, encoder, read, coded, same.symm⟩

theorem fed_apart {connectorId : UInt32} {crtc other : Crtc}
    (fed : driven resources connectorId = some other)
    (free : driven resources connectorId ≠ some crtc) : other.crtcId ≠ crtc.crtcId := by
  intro equal
  have same : other = crtc := by
    cases other
    cases crtc
    exact congrArg Crtc.mk equal
  exact free (same ▸ fed)

theorem unused_feeds_none (wired : Wired resources) {crtc : Crtc}
    (unused : crtcIsUsed resources crtc.crtcId = false) (connectorId : UInt32) :
    driven resources connectorId ≠ some crtc := by
  intro fed
  obtain ⟨-, connector, encoder, read, coded, same⟩ := driven_readable fed
  have listed : connectorId ∈ resources.connectors :=
    wired.listed connectorId (by rw [read]; rfl)
  have member : connector ∈ resources.connectors.filterMap resources.connector :=
    List.mem_filterMap.mpr ⟨connectorId, listed, read⟩
  have idle := List.any_eq_false.mp unused connector member
  simp [coded, same] at idle

theorem present_kept (objects : SameObjects resources after) (id : UInt32) :
    (after.connector id).isSome = (resources.connector id).isSome := by
  rw [← Option.isSome_map, objects.connector, Option.isSome_map]

theorem reserved_kept {connectorId : UInt32} (objects : SameObjects resources after)
    (kept : KeepsRoute resources after connectorId) (reserved : Reserved resources connectorId) :
    Reserved after connectorId := by
  intro other connector rival different read rivals readable
  have named := kept.encoderId
  rw [read, Option.map_some] at named
  obtain ⟨earlier, before, same⟩ := Option.map_eq_some_iff.mp named.symm
  have listed := objects.connector other
  rw [rivals, Option.map_some] at listed
  obtain ⟨old, held, choice⟩ := Option.map_eq_some_iff.mp listed.symm
  rw [objects.encoder, ← same] at readable
  rw [← same, ← choice]
  exact reserved other earlier old different before held readable

theorem listed_kept (objects : SameObjects resources after)
    (listed : ∀ id, (resources.connector id).isSome → id ∈ resources.connectors) (id : UInt32)
    (read : (after.connector id).isSome) : id ∈ after.connectors := by
  rw [present_kept objects] at read
  rw [objects.connectors]
  exact listed id read

/-- Routes that stay, or that end with a connector that has its encoder for itself, stay
separate. -/
theorem wired_kept (objects : SameObjects resources after)
    (routes : ∀ id, KeepsRoute resources after id ∨ (driven after id = none ∧ Reserved after id))
    (wired : Wired resources) : Wired after where
  listed := listed_kept objects wired.listed
  separate := by
    have before : ∀ id crtc, driven after id = some crtc → driven resources id = some crtc := by
      intro id crtc fed
      rcases routes id with kept | ⟨ended, -⟩
      · exact kept.driven.symm.trans fed
      · cases ended.symm.trans fed
    intro id other crtc fed shared
    exact wired.separate id other crtc (before id crtc fed) (before other crtc shared)
  reserved := by
    intro id unfed
    rcases routes id with kept | ⟨-, reserved⟩
    · exact reserved_kept objects kept (wired.reserved id (kept.driven.symm.trans unfed))
    · exact reserved

section Setting

variable {setting : ModeSetting} (set : ModeSet resources after setting)
  (free : ∀ id, id ≠ setting.connectorId → driven resources id ≠ some ⟨setting.crtcId⟩)
  (wired : Wired resources)

include set free wired

theorem others_kept (id : UInt32) (different : id ≠ setting.connectorId) :
    KeepsRoute resources after id :=
  set.others id different (free id different) (wired.reserved id)

theorem wired_set : Wired after where
  listed := listed_kept set.objects wired.listed
  separate := by
    have taken : ∀ id, driven after id = some ⟨setting.crtcId⟩ → id = setting.connectorId := by
      intro id fed
      by_contra different
      have kept := others_kept set free wired id different
      exact free id different (kept.driven.symm.trans fed)
    intro id other crtc fed shared
    by_cases own : crtc = ⟨setting.crtcId⟩
    · rw [own] at fed shared
      rw [taken id fed, taken other shared]
    · have before : ∀ id, driven after id = some crtc → driven resources id = some crtc := by
        intro id fed
        have different : id ≠ setting.connectorId := by
          rintro rfl
          exact own (Option.some_inj.mp (fed.symm.trans set.routed))
        exact (others_kept set free wired id different).driven.symm.trans fed
      exact wired.separate id other crtc (before id fed) (before other shared)
  reserved := by
    intro id unfed
    have different : id ≠ setting.connectorId := by
      rintro rfl
      cases unfed.symm.trans set.routed
    have kept := others_kept set free wired id different
    exact reserved_kept set.objects kept (wired.reserved id (kept.driven.symm.trans unfed))

end Setting

end Routes

section Choice

variable {resources : Resources} {available : List (Option Encoder)}

theorem searched_unused {crtcIndex : Nat} {ids : List UInt32} {crtc : Crtc}
    (found : searchCrtc resources available crtcIndex ids = some (some crtc)) :
    crtcIsUsed resources crtc.crtcId = false := by
  induction ids generalizing crtcIndex with
  | nil => cases found
  | cons id later ih =>
      rw [searchCrtc] at found
      split at found
      · exact ih found
      · split at found
        · exact ih found
        · rename_i candidate _ unused
          obtain ⟨supported, -, chosen⟩ := Option.bind_eq_some_iff.mp found
          cases supported with
          | true =>
              cases chosen
              simpa using unused
          | false => exact ih chosen

theorem ensure_crtc_chooses {output selected : CrtcSelection.KMSOutput} {found : Bool} {crtc : Crtc}
    (ensured : CrtcSelection.ensureCrtc resources output = some (found, selected))
    (chosen : selected.currentCrtc = some crtc) :
    output.currentCrtc = some crtc ∨ (output.currentCrtc = none ∧
      (connectedCrtc resources output.connector = some crtc ∨
        (connectedCrtc resources output.connector = none ∧
          crtcIsUsed resources crtc.crtcId = false))) := by
  rw [CrtcSelection.ensureCrtc] at ensured
  split at ensured
  · cases ensured
    exact .inl chosen
  · rename_i vacant
    have empty : output.currentCrtc = none := by simpa using vacant
    split at ensured
    · cases ensured
      exact .inl chosen
    · refine .inr ⟨empty, ?_⟩
      split at ensured
      · rename_i attached feeding
        cases ensured
        exact .inl (feeding.trans chosen)
      · rename_i unfed
        obtain ⟨result, searched, pair⟩ := Option.map_eq_some_iff.mp ensured
        cases pair
        have hit : result = some crtc := chosen
        rw [hit] at searched
        exact .inr ⟨unfed, searched_unused searched⟩

end Choice

end Mir.OutputConfiguration
