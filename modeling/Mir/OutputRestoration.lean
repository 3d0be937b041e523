import Mir.OutputRoutes

/-!
# The outputs are given back

What each connector showed before a display was created is shown again after the display is
gone, unless the kernel refuses to.
-/

namespace Mir.OutputRestoration

open Mir.TransitionRuns Mir.Computations Mir.OutputConfiguration Mir.OutputRoutes
open Mir.CrtcSelection hiding KMSOutput ensureCrtc

set_option autoImplicit false

section Destruction

variable {driver : Driver} {origin : driver.Kernel} {display : Display driver}
  {connectorId : UInt32} {left : List UInt32}

/-- The connector shows what it did, or the kernel has refused to. -/
def Restored (origin : driver.Kernel) (display : Display driver) (connectorId : UInt32)
    (crtc : Crtc) : Prop :=
  (driven (driver.resources display.kernel) connectorId = some crtc ∧
    driver.scanout display.kernel crtc.crtcId = driver.scanout origin crtc.crtcId) ∨
  (⟨crtc.crtcId, driver.scanout origin crtc.crtcId, connectorId⟩, false) ∈ display.requests

/-- The state of the destructor: the outputs in `left` are still to be restored. -/
structure Closing (origin : driver.Kernel) (left : List UInt32) (display : Display driver) :
    Prop where
  wired : Wired (driver.resources display.kernel)
  owned : ∀ id crtc other, driven (driver.resources origin) id = some crtc →
    driven (driver.resources display.kernel) other = some crtc → other = id
  known : ∀ id output, display.outputs.lookup id = some output → output.connectorId = id ∧
    (∃ info, output.connector = some info ∧ info.connectorId = id) ∧
      output.savedCrtc = originalCrtc origin id
  restored : ∀ id crtc, Untouched display.outputs id →
    driven (driver.resources origin) id = some crtc → Restored origin display id crtc
  left : ∀ id, id ∉ left → Untouched display.outputs id

/-- The framebuffers go first. What no output has set does not show one of them. -/
theorem closing_begins (sound : SoundDisplay origin display)
    (all : ∀ id, id ∉ left → display.outputs.lookup id = none) :
    Closing origin left
      { display with kernel := driver.rmFB display.kernel display.framebuffers } := by
  have removed := driver.removed display.kernel display.framebuffers
  refine ⟨?_, ?_, ?_, ?_, ?_⟩
  · exact wired_kept removed.objects
      (fun id => (removed.routes id).imp_right fun ended => ⟨ended.1, ended.2.1⟩) sound.wired
  · intro id crtc other fed shared
    have before : driven (driver.resources display.kernel) other = some crtc := by
      rcases removed.routes other with kept | ⟨ended, -⟩
      · exact kept.driven.symm.trans shared
      · cases ended.symm.trans shared
    exact sound.wired.separate other id crtc before (sound.kept id crtc fed)
  · intro id output found
    have known := sound.known id output found
    exact ⟨known.named, known.informed, known.saved⟩
  · intro id crtc idle fed
    have feeds := sound.kept id crtc fed
    have shown := sound.shown id crtc idle fed
    have foreign : (driver.scanout display.kernel crtc.crtcId).bufferId ∉
        display.framebuffers := by
      rw [shown]
      exact sound.fresh id crtc fed
    refine .inl ⟨?_, (removed.shows crtc.crtcId foreign).trans shown⟩
    rcases removed.routes id with kept | ⟨-, -, other, before, member⟩
    · exact kept.driven.trans feeds
    · cases before.symm.trans feeds
      exact absurd member foreign
  · intro id outside output found
    cases (all id outside).symm.trans found

section Restoring

variable {output : KMSOutput} {after : driver.Kernel} {answer : ModeSetting × Bool}

theorem closing_put (closing : Closing origin (connectorId :: left) display)
    (found : display.outputs.lookup connectorId = some output)
    (wired : Wired (driver.resources after))
    (owned : ∀ id crtc other, driven (driver.resources origin) id = some crtc →
      driven (driver.resources after) other = some crtc → other = id)
    (own : ∀ crtc, driven (driver.resources origin) connectorId = some crtc →
      Restored origin
        { display with kernel := after, requests := display.requests ++ [answer] }
        connectorId crtc)
    (others : ∀ id crtc, id ≠ connectorId → driven (driver.resources origin) id = some crtc →
      driven (driver.resources display.kernel) id = some crtc →
        driven (driver.resources after) id = some crtc ∧
          driver.scanout after crtc.crtcId = driver.scanout display.kernel crtc.crtcId) :
    Closing origin left
      { display with
        kernel := after
        requests := display.requests ++ [answer]
        outputs := display.outputs.insert connectorId { output with usingSavedCrtc := true } } := by
  refine ⟨wired, owned, ?_, ?_, ?_⟩
  · intro id other listed
    by_cases same : id = connectorId
    · subst same
      rw [AList.lookup_insert] at listed
      cases listed
      exact closing.known id output found
    · rw [AList.lookup_insert_ne same] at listed
      exact closing.known id other listed
  · intro id crtc idle fed
    by_cases same : id = connectorId
    · subst same
      exact own crtc fed
    · rcases closing.restored id crtc ((untouched_insert same).mp idle) fed with shows | refused
      · obtain ⟨feeds, scans⟩ := others id crtc same fed shows.1
        exact .inl ⟨feeds, scans.trans shows.2⟩
      · exact .inr (List.mem_append_left _ refused)
  · intro id outside
    by_cases same : id = connectorId
    · subst same
      intro other listed
      rw [AList.lookup_insert] at listed
      cases listed
      rfl
    · apply (untouched_insert same).mpr
      exact closing.left id fun member => outside ((List.mem_cons.mp member).resolve_left same)

variable {setting : ModeSetting}
  (closing : Closing origin (connectorId :: left) display)
  (found : display.outputs.lookup connectorId = some output)
  (original : setting = ⟨(originalCrtc origin connectorId).crtcId,
    (originalCrtc origin connectorId).scanout, connectorId⟩)

include closing found original

theorem closing_refused (refused : driver.modeSetCrtc display.kernel setting = (false, after)) :
    Closing origin left
      { display with
        kernel := after
        requests := display.requests ++ [(setting, false)]
        outputs := display.outputs.insert connectorId { output with usingSavedCrtc := true } } := by
  obtain ⟨same, shows⟩ := driver.refused refused
  apply closing_put closing found
  · rw [same]
    exact closing.wired
  · rw [same]
    exact closing.owned
  · intro crtc fed
    refine .inr (List.mem_append_right _ (List.mem_singleton.mpr ?_))
    rw [original, original_crtc_fed fed]
  · intro id crtc _ _ feeds
    rw [same, shows]
    exact ⟨feeds, rfl⟩

theorem closing_accepted (wired : Wired (driver.resources origin))
    (accepted : driver.modeSetCrtc display.kernel setting = (true, after)) :
    Closing origin left
      { display with
        kernel := after
        requests := display.requests ++ [(setting, true)]
        outputs := display.outputs.insert connectorId { output with usingSavedCrtc := true } } := by
  obtain ⟨set, shows⟩ := driver.accepted accepted
  have routed := set.routed
  cases fed : driven (driver.resources origin) connectorId with
  | none =>
      -- there is no CRTC 0, and the kernel does not accept it
      rw [original, original_crtc_unfed fed] at routed
      have zero := (driven_readable routed).1
      rw [(driver.resources after).crtc_zero] at zero
      cases zero
  | some crtc =>
      rw [original_crtc_fed fed] at original
      subst original
      have free : ∀ id, id ≠ connectorId →
          driven (driver.resources display.kernel) id ≠ some crtc :=
        fun id different shared => different (closing.owned connectorId crtc id fed shared)
      have routes : ∀ id, id ≠ connectorId →
          KeepsRoute (driver.resources display.kernel) (driver.resources after) id :=
        others_kept set free closing.wired
      apply closing_put closing found (wired_set set free closing.wired)
      · intro id other shared feeds taken
        by_cases same : shared = connectorId
        · subst same
          cases routed.symm.trans taken
          exact wired.separate shared id crtc fed feeds
        · exact closing.owned id other shared feeds ((routes shared same).driven.symm.trans taken)
      · intro other feeds
        cases fed.symm.trans feeds
        refine .inl ⟨routed, ?_⟩
        rw [shows]
        exact Function.update_self _ _ _
      · intro id other different feeds before
        refine ⟨(routes id different).driven.trans before, ?_⟩
        have apart := fed_apart before (free id different)
        rw [shows, Function.update_of_ne apart]

end Restoring

theorem restore_saved_crtc_restores (wired : Wired (driver.resources origin)) :
    Ensures (Closing origin (connectorId :: left))
      (restoreSavedCrtc connectorId : Code driver Unit)
      (fun _ => Closing origin left) (fun _ _ => False) := by
  apply ensures_read
  intro display closing
  cases found : display.outputs.lookup connectorId with
  | none => exact ensures_undefined
  | some output =>
      obtain ⟨named, ⟨info, informed, own⟩, saved⟩ := closing.known connectorId output found
      obtain ⟨its, connector, current, original, untouched⟩ := output
      cases named
      cases informed
      have same : original = originalCrtc origin its := saved
      subst same
      cases untouched with
      | true =>
          apply ensures_pure
          rintro _ rfl
          refine ⟨closing.wired, closing.owned, closing.known, closing.restored, fun id outside => ?_⟩
          by_cases same : id = its
          · subst same
            exact (untouched_of_lookup found).mpr rfl
          · exact closing.left id fun member =>
              outside ((List.mem_cons.mp member).resolve_left same)
      | false =>
          apply ensures_mode_set
          rw [own]
          intro accepted after answered
          rintro _ outcome finish rfl ran
          cases ran
          cases accepted with
          | true => exact closing_accepted closing found rfl wired answered
          | false => exact closing_refused closing found rfl answered

theorem restore_all_restores (wired : Wired (driver.resources origin)) (order : List UInt32) :
    Ensures (Closing origin order) (restoreAll order : Code driver Unit)
      (fun _ => Closing origin []) (fun _ _ => False) := by
  induction order with
  | nil => exact ensures_pure fun _ closing => closing
  | cons id later ih => exact ensures_bind (restore_saved_crtc_restores wired) fun _ => ih

theorem destroy_restores (wired : Wired (driver.resources origin)) (order : List UInt32) :
    Ensures
      (fun display => SoundDisplay origin display ∧ ∀ id ∈ display.outputs, id ∈ order)
      (destroy order : Code driver Unit) (fun _ => Closing origin []) (fun _ _ => False) := by
  have begun : Ensures
      (fun display => SoundDisplay origin display ∧ ∀ id ∈ display.outputs, id ∈ order)
      (update fun display : Display driver =>
        { display with kernel := driver.rmFB display.kernel display.framebuffers })
      (fun _ => Closing origin order) (fun (_ : RuntimeError) _ => False) := by
    apply ensures_update
    rintro display ⟨sound, all⟩
    apply closing_begins sound
    intro id outside
    rw [AList.lookup_eq_none]
    exact fun member => outside (all id member)
  exact ensures_bind begun fun _ => restore_all_restores wired order

end Destruction

section Runs

variable {driver : Driver} {origin : driver.Kernel} {display next : Display driver}
  {event : Event driver}

def Living (origin : driver.Kernel) (display : Display driver) : Prop :=
  match display.phase with
  | .new => SoundDisplay origin display ∧ display.outputs = ∅
  | .read _ => SoundDisplay origin display ∧ display.outputs = ∅
  | .up => Lit origin display
  | .failed => SoundDisplay origin display
  | .down => Closing origin [] display

theorem living_sound (living : Living origin display) (alive : display.phase ≠ .down) :
    SoundDisplay origin display := by
  rw [Living] at living
  cases phase : display.phase with
  | new =>
      rw [phase] at living
      exact living.1
  | read conf =>
      rw [phase] at living
      exact living.1
  | up =>
      rw [phase] at living
      exact living.sound
  | failed =>
      rw [phase] at living
      exact living
  | down => exact absurd phase alive

theorem unused_unshown {fbId : UInt32} (sound : SoundDisplay origin display)
    (unused : unusedId display fbId = true) : Unshown origin fbId := by
  obtain ⟨routes, savings⟩ := Bool.and_eq_true_iff.mp unused
  intro id crtc fed
  by_cases idle : Untouched display.outputs id
  · have feeds := sound.kept id crtc fed
    obtain ⟨-, connector, -, read, -⟩ := driven_readable feeds
    have listed := sound.wired.listed id (by rw [read]; rfl)
    have different := List.all_eq_true.mp routes id listed
    rw [feeds, Option.all_some, sound.shown id crtc idle fed] at different
    simpa using different
  · simp only [Untouched, not_forall] at idle
    obtain ⟨output, found, -⟩ := idle
    have entry := AList.mem_lookup_iff.mp (Option.mem_def.mpr found)
    have different := List.all_eq_true.mp savings _ entry
    have saved : output.savedCrtc = _ := (sound.known id output found).saved
    rw [original_crtc_fed fed] at saved
    simpa [saved] using different

theorem lit_flipped {connectorId fbId : UInt32} {output : KMSOutput} {crtc : Crtc}
    (lit : Lit origin display) (member : connectorId ∈ display.enabled)
    (found : display.outputs.lookup connectorId = some output)
    (current : output.currentCrtc = some crtc) (unshown : Unshown origin fbId) :
    Lit origin { display with
      kernel := driver.flip display.kernel crtc.crtcId fbId
      framebuffers := fbId :: display.framebuffers } := by
  obtain ⟨same, shows⟩ := driver.flipped display.kernel crtc.crtcId fbId
  have fed := (lit.sound.known connectorId output found).tracked crtc current
  have flipped : Sound origin (driver.flip display.kernel crtc.crtcId fbId) display.outputs
      display.framebuffers := by
    apply lit.sound.same_routes
    · rw [same]
      exact ⟨rfl, rfl, fun _ => rfl, fun _ => rfl, fun _ => rfl⟩
    · intro id
      rw [same]
      exact ⟨rfl, rfl⟩
    · intro id other idle feeds
      have free : driven (driver.resources display.kernel) id ≠ some crtc := by
        -- the connector would be this one, which has been set
        intro shared
        have here := lit.sound.wired.separate id connectorId crtc shared fed
        obtain ⟨its, -, -, -, -, listed, -, -, -, taken, -⟩ := lit.showing connectorId member
        cases (idle its (here ▸ listed)).symm.trans taken
      rw [shows, Function.update_of_ne (fed_apart feeds free)]
  refine ⟨flipped.add_framebuffer unshown, lit.fits, ?_⟩
  intro id enabled
  obtain ⟨its, info, mode, feeding, buffer, listed, read, moded, now, taken, ours, scans⟩ :=
    lit.showing id enabled
  by_cases same : feeding.crtcId = crtc.crtcId
  · refine ⟨its, info, mode, feeding, fbId, listed, read, moded, now, taken,
      List.mem_cons_self, ?_⟩
    rw [shows, same, Function.update_self, ← same, scans]
  · refine ⟨its, info, mode, feeding, buffer, listed, read, moded, now, taken,
      List.mem_cons_of_mem _ ours, ?_⟩
    rw [shows, Function.update_of_ne same]
    exact scans

theorem living_plugged (living : Living origin display) (change : driver.Plug) :
    Living origin { display with kernel := driver.plug display.kernel change } := by
  obtain ⟨objects, routes, shows⟩ := driver.plugged display.kernel change
  have sound : SoundDisplay origin display → Sound origin
      (driver.plug display.kernel change) display.outputs display.framebuffers :=
    fun sound => sound.same_routes objects routes fun _ _ _ _ => by rw [shows]
  rw [Living] at living ⊢
  cases phase : display.phase with
  | new =>
      rw [phase] at living
      exact ⟨sound living.1, living.2⟩
  | read conf =>
      rw [phase] at living
      exact ⟨sound living.1, living.2⟩
  | up =>
      rw [phase] at living
      refine ⟨sound living.sound, living.fits, fun id member => ?_⟩
      rw [Showing, shows]
      exact living.showing id member
  | failed =>
      rw [phase] at living
      exact sound living
  | down =>
      rw [phase] at living
      refine ⟨wired_kept objects (fun id => .inl (routes id)) living.wired, ?_, living.known, ?_,
        living.left⟩
      · intro id crtc other fed shared
        exact living.owned id crtc other fed ((routes other).driven.symm.trans shared)
      · intro id crtc idle fed
        rcases living.restored id crtc idle fed with shown | refused
        · refine .inl ⟨(routes id).driven.trans shown.1, ?_⟩
          rw [shows]
          exact shown.2
        · exact .inr refused

theorem configured_living {conf : List ConfigurationOutput}
    {setup : Except RuntimeError UInt32} {faults : List Bool}
    {outcome : Except RuntimeError Unit} {after : Display driver}
    (sound : SoundDisplay origin display) (empty : display.outputs = ∅)
    (unused : setup.toOption.all (unusedId display) = true)
    (ran : execute (configure conf setup) { display with faults := faults } =
      some (outcome, after)) :
    Living origin { after with phase := ended outcome } := by
  have prepared : Prepared origin [] { display with faults := faults } := by
    refine ⟨sound, ?_, by simp⟩
    intro id output found
    rw [empty] at found
    cases found
  have unshown : ∀ fbId, setup = .ok fbId → Unshown origin fbId := by
    rintro fbId rfl
    exact unused_unshown sound unused
  have lights := configure_lights conf setup unshown _ outcome after prepared ran
  cases outcome with
  | ok value => exact ⟨lights.sound, lights.fits, lights.showing⟩
  | error failure => exact lights

theorem step_living (wired : Wired (driver.resources origin)) (living : Living origin display)
    (stepped : step display event = some next) : Living origin next := by
  cases event with
  | configuration fault =>
      rw [step] at stepped
      split at stepped
      · rename_i new
        rw [Living, new] at living
        cases stepped
        cases fault with
        | true => exact living.1
        | false => exact living
      · cases stepped
  | configure setup faults =>
      rw [step] at stepped
      split at stepped
      · rename_i conf read
        rw [Living, read] at living
        split at stepped
        · rename_i unused
          obtain ⟨⟨outcome, after⟩, ran, rfl⟩ := Option.map_eq_some_iff.mp stepped
          exact configured_living living.1 living.2 unused ran
        · cases stepped
      · cases stepped
  | plug change =>
      cases stepped
      exact living_plugged living change
  | flip connectorId fbId =>
      rw [step] at stepped
      split at stepped
      · rename_i guarded
        obtain ⟨up, member, mayFlip⟩ := guarded
        rw [Living, up] at living
        obtain ⟨output, found, mapped⟩ := Option.bind_eq_some_iff.mp stepped
        obtain ⟨crtc, current, rfl⟩ := Option.map_eq_some_iff.mp mapped
        have unshown : Unshown origin fbId := by
          rcases Bool.or_eq_true_iff.mp mayFlip with unused | ours
          · exact unused_unshown living.sound unused
          · intro id other fed same
            exact living.sound.fresh id other fed (same ▸ of_decide_eq_true ours)
        have flipped := lit_flipped living member found current unshown
        rw [Living, up]
        exact ⟨flipped.sound, flipped.fits, flipped.showing⟩
      · cases stepped
  | destroy order =>
      rw [step] at stepped
      split at stepped
      · rename_i guarded
        obtain ⟨alive, all⟩ := guarded
        obtain ⟨⟨outcome, after⟩, ran, rfl⟩ := Option.map_eq_some_iff.mp stepped
        have sound : SoundDisplay origin display := by
          apply living_sound living
          rcases alive with up | failed
          · rw [up]
            simp
          · rw [failed]
            simp
        have restores := destroy_restores wired order display outcome after
          ⟨sound, fun id member => all.mem_iff.mpr member⟩ ran
        cases outcome with
        | ok value => exact ⟨restores.wired, restores.owned, restores.known, restores.restored,
            restores.left⟩
        | error failure => exact restores.elim
      · cases stepped

theorem run_living {kernel : driver.Kernel} (wired : Wired (driver.resources kernel))
    {events : List (Event driver)} (ran : run step (started kernel) events = some display) :
    Living kernel display := by
  refine run_invariant (Living kernel) ?_
    (fun _ _ _ living stepped => step_living wired living stepped) ran
  refine ⟨⟨wired, ?_, fun _ _ fed => fed, fun _ _ => rfl, fun _ _ _ _ => rfl, ?_⟩, rfl⟩
  · intro id output found
    cases found
  · intro _ _ _ member
    cases member

end Runs

section Board

inductive Feed where
  | none
  | left
  | right
  deriving DecidableEq, Repr

def Feed.crtcId : Feed → UInt32
  | .none => 0
  | .left => 1
  | .right => 2

def feedOf (crtcId : UInt32) : Feed :=
  if crtcId = 1 then .left else if crtcId = 2 then .right else .none

/-- A card with the connectors 10 and 11, the encoders 20 and 21 for them, and the CRTCs 1 and
2, which both encoders can use. The connectors name their encoders also when nothing feeds
them. -/
structure Board where
  first : Feed
  second : Feed
  shows : UInt32 → Scanout

def Board.feed (board : Board) (id : UInt32) : Feed :=
  if id = 10 then board.first else if id = 11 then board.second else .none

theorem board_crtcs_nodup : ([1, 2] : List UInt32).Nodup := by decide

def Board.resources (board : Board) : Resources where
  connectors := [10, 11]
  crtcs := [1, 2]
  connector id :=
    if id = 10 then some ⟨20, .connected, [20]⟩
    else if id = 11 then some ⟨21, .connected, [21]⟩
    else none
  encoder id :=
    if id = 20 then some ⟨board.first.crtcId, 3⟩
    else if id = 21 then some ⟨board.second.crtcId, 3⟩
    else none
  crtc id := if id = 1 ∨ id = 2 then some ⟨id⟩ else none
  crtc_zero := if_neg (by decide)
  crtc_id id found read := by
    rw [Option.ite_none_right_eq_some] at read
    exact congrArg Crtc.crtcId (Option.some_inj.mp read.2).symm
  crtcs_nodup := board_crtcs_nodup

def Board.set (board : Board) (setting : ModeSetting) : Bool × Board :=
  let shows := Function.update board.shows setting.crtcId setting.scanout
  let feed := feedOf setting.crtcId
  if feed = .none then (false, board)
  else if setting.connectorId = 10 ∧ board.second ≠ feed then
    (true, { board with first := feed, shows := shows })
  else if setting.connectorId = 11 ∧ board.first ≠ feed then
    (true, { board with second := feed, shows := shows })
  else (false, board)

theorem board_driven (board : Board) (id : UInt32) :
    driven board.resources id =
      if board.feed id = .none then none else some ⟨(board.feed id).crtcId⟩ := by
  by_cases first : id = 10
  · subst first
    rcases board with ⟨_ | _ | _, second, shows⟩ <;>
      simp [driven, Board.resources, Board.feed, connectedCrtc, Feed.crtcId]
  · by_cases second : id = 11
    · subst second
      rcases board with ⟨first, _ | _ | _, shows⟩ <;>
        simp [driven, Board.resources, Board.feed, connectedCrtc, Feed.crtcId]
    · simp [driven, Board.resources, Board.feed, first, second]

theorem board_fed {board : Board} {id : UInt32} {crtc : Crtc} :
    driven board.resources id = some crtc ↔
      board.feed id ≠ .none ∧ crtc.crtcId = (board.feed id).crtcId := by
  rw [board_driven]
  constructor
  · intro fed
    split at fed
    · cases fed
    · rename_i some_feed
      cases fed
      exact ⟨some_feed, rfl⟩
  · rintro ⟨some_feed, same⟩
    rw [if_neg some_feed, ← same]

theorem board_objects (board after : Board) :
    SameObjects board.resources after.resources where
  connectors := rfl
  crtcs := rfl
  connector _ := rfl
  encoder id := by
    simp only [Board.resources]
    split
    · rfl
    · split <;> rfl
  crtc _ := rfl

theorem board_keeps {board after : Board} {id : UInt32}
    (same : after.feed id = board.feed id) :
    KeepsRoute board.resources after.resources id where
  encoderId := rfl
  driven := by rw [board_driven, board_driven, same]

theorem feed_listed {board : Board} {id : UInt32} (fed : board.feed id ≠ .none) :
    id = 10 ∧ board.feed id = board.first ∨ id = 11 ∧ board.feed id = board.second := by
  rw [Board.feed] at fed ⊢
  split
  · rename_i first
    exact .inl ⟨first, rfl⟩
  · rename_i first
    rw [if_neg first] at fed
    split
    · rename_i second
      exact .inr ⟨second, rfl⟩
    · rename_i second
      rw [if_neg second] at fed
      exact absurd rfl fed

theorem crtc_id_injective {feed other : Feed} (same : feed.crtcId = other.crtcId) :
    feed = other := by
  cases feed <;> cases other <;> first | rfl | exact absurd same (by decide)

theorem board_connector {board : Board} {id : UInt32} {connector : Connector}
    (read : board.resources.connector id = some connector) :
    id = 10 ∧ connector = ⟨20, .connected, [20]⟩ ∨
      id = 11 ∧ connector = ⟨21, .connected, [21]⟩ := by
  simp only [Board.resources] at read
  split at read
  · rename_i first
    exact .inl ⟨first, (Option.some_inj.mp read).symm⟩
  · obtain ⟨second, same⟩ := Option.ite_none_right_eq_some.mp read
    exact .inr ⟨second, (Option.some_inj.mp same).symm⟩

theorem board_reserved (board : Board) (id : UInt32) : Reserved board.resources id := by
  intro other connector rival different read rivals _
  rcases board_connector read with ⟨rfl, rfl⟩ | ⟨rfl, rfl⟩ <;>
    rcases board_connector rivals with ⟨rfl, rfl⟩ | ⟨rfl, rfl⟩
  · exact absurd rfl different
  · decide
  · decide
  · exact absurd rfl different

theorem board_wired {board : Board} (apart : board.first = .none ∨ board.first ≠ board.second) :
    Wired board.resources where
  listed id read := by
    obtain ⟨connector, found⟩ := Option.isSome_iff_exists.mp read
    rcases board_connector found with ⟨rfl, -⟩ | ⟨rfl, -⟩ <;> simp [Board.resources]
  separate id other crtc fed shared := by
    obtain ⟨feeds, named⟩ := board_fed.mp fed
    obtain ⟨also, again⟩ := board_fed.mp shared
    have same : board.feed id = board.feed other := crtc_id_injective (named.symm.trans again)
    rcases feed_listed feeds with ⟨rfl, first⟩ | ⟨rfl, second⟩
    · rcases feed_listed also with ⟨rfl, -⟩ | ⟨rfl, second⟩
      · rfl
      · rw [first, second] at same
        rw [first] at feeds
        exact absurd same (apart.resolve_left feeds)
    · rcases feed_listed also with ⟨rfl, first⟩ | ⟨rfl, -⟩
      · rw [first, second] at same
        rw [first] at also
        exact absurd same.symm (apart.resolve_left also)
      · rfl
  reserved id _ := board_reserved board id

theorem board_set {board after : Board} {setting : ModeSetting}
    (accepted : board.set setting = (true, after)) :
    ModeSet board.resources after.resources setting ∧
      after.shows = Function.update board.shows setting.crtcId setting.scanout := by
  have known : feedOf setting.crtcId ≠ .none →
      (feedOf setting.crtcId).crtcId = setting.crtcId := by
    intro some_feed
    simp only [feedOf] at some_feed ⊢
    split
    · rename_i same
      exact same.symm
    · rename_i first
      rw [if_neg first] at some_feed
      split
      · rename_i same
        exact same.symm
      · rename_i second
        exact absurd (if_neg second) some_feed
  have set : ∀ {after : Board}, feedOf setting.crtcId ≠ .none →
      after.feed setting.connectorId = feedOf setting.crtcId →
      (∀ id, id ≠ setting.connectorId → after.feed id = board.feed id) →
      ModeSet board.resources after.resources setting := by
    intro after some_feed own others
    refine ⟨board_objects board after, ?_,
      fun id different _ _ => board_keeps (others id different)⟩
    rw [board_fed, own]
    exact ⟨some_feed, (known some_feed).symm⟩
  simp only [Board.set] at accepted
  split at accepted
  · cases accepted
  · rename_i some_feed
    split at accepted
    · rename_i first
      cases accepted
      refine ⟨set some_feed (by rw [first.1]; rfl) ?_, rfl⟩
      intro id different
      rw [first.1] at different
      simp only [Board.feed, if_neg different]
    · split at accepted
      · rename_i second
        cases accepted
        refine ⟨set some_feed (by rw [second.1]; rfl) ?_, rfl⟩
        intro id different
        rw [second.1] at different
        simp only [Board.feed, if_neg different]
      · cases accepted

/-- Framebuffers that are removed are not shown any longer. -/
def Board.remove (board : Board) (framebuffers : List UInt32) : Board :=
  let rest : Feed → Feed := fun feed =>
    if (board.shows feed.crtcId).bufferId ∈ framebuffers then .none else feed
  { board with first := rest board.first, second := rest board.second }

theorem board_removed (board : Board) (framebuffers : List UInt32) :
    FramebuffersRemoved board.resources (board.remove framebuffers).resources board.shows
      (board.remove framebuffers).shows framebuffers where
  objects := board_objects board _
  routes id := by
    have feeds : (board.remove framebuffers).feed id =
        if (board.shows (board.feed id).crtcId).bufferId ∈ framebuffers then .none
        else board.feed id := by
      simp only [Board.feed, Board.remove]
      split
      · rfl
      · split
        · rfl
        · split <;> rfl
    split at feeds
    · rename_i removed
      by_cases off : board.feed id = .none
      · exact .inl (board_keeps (feeds.trans off.symm))
      · refine .inr ⟨?_, board_reserved _ id, ⟨(board.feed id).crtcId⟩,
          board_fed.mpr ⟨off, rfl⟩, removed⟩
        rw [board_driven, if_pos feeds]
    · exact .inl (board_keeps feeds)
  shows _ _ := rfl

def card : Driver where
  Kernel := Board
  Plug := Unit
  resources := Board.resources
  modes _ _ := [{ hdisplay := 1024, vdisplay := 768 }]
  scanout := Board.shows
  modeSetCrtc := Board.set
  flip board crtcId fbId :=
    { board with
      shows := Function.update board.shows crtcId
        ({ board.shows crtcId with bufferId := fbId } : Scanout) }
  rmFB := Board.remove
  plug board _ := board
  accepted := board_set
  refused := by
    intro board setting after refused
    simp only [Board.set] at refused
    split at refused
    · cases refused
      exact ⟨rfl, rfl⟩
    · split at refused
      · cases refused
      · split at refused
        · cases refused
        · cases refused
          exact ⟨rfl, rfl⟩
  flipped _ _ _ := ⟨rfl, rfl⟩
  removed := board_removed
  plugged board _ := ⟨board_objects board board, fun _ => ⟨rfl, rfl⟩, rfl⟩

end Board

section Results

variable {driver : Driver}

/-- A display takes a CRTC away from no connector, and no two connectors share one. Once it is
up, each of its outputs has the CRTC that feeds its connector, and the CRTC shows a framebuffer
of the display from its corner, in a mode that the surface is large enough for. -/
theorem outputs_have_their_own_crtcs (kernel : driver.Kernel) (events : List (Event driver))
    (display : Display driver) (wired : Wired (driver.resources kernel))
    (ran : run step (started kernel) events = some display) (alive : display.phase ≠ .down) :
    (∀ id crtc, driven (driver.resources kernel) id = some crtc →
        driven (driver.resources display.kernel) id = some crtc) ∧
      (∀ id other crtc, driven (driver.resources display.kernel) id = some crtc →
        driven (driver.resources display.kernel) other = some crtc → id = other) ∧
      (display.phase = .up → ∀ id ∈ display.enabled, ∃ output crtc fbId mode,
        display.outputs.lookup id = some output ∧ output.currentCrtc = some crtc ∧
        driven (driver.resources display.kernel) id = some crtc ∧
        fbId ∈ display.framebuffers ∧
        driver.scanout display.kernel crtc.crtcId = ⟨fbId, 0, 0, mode⟩ ∧
        mode.hdisplay.toUInt32 ≤ display.size.width ∧
        mode.vdisplay.toUInt32 ≤ display.size.height) := by
  have living := run_living wired ran
  have sound := living_sound living alive
  refine ⟨sound.kept, sound.wired.separate, ?_⟩
  intro up id member
  rw [Living, up] at living
  obtain ⟨output, info, mode, crtc, fbId, found, informed, moded, current, -, ours, scans⟩ :=
    living.showing id member
  obtain ⟨its, read, size, listed, connected, sized, wide, high⟩ := living.fits id member
  have same : its = output := Option.some_inj.mp (listed.symm.trans found)
  subst same
  cases informed.symm.trans connected
  cases moded.symm.trans sized
  exact ⟨its, crtc, fbId, mode, found, current, (sound.known id its found).tracked crtc current,
    ours, scans, wide, high⟩

/-- The console is on the first connector, and nothing on the second one. -/
def console : Board :=
  ⟨.left, .none, fun crtcId => if crtcId = 1 then ⟨5, 0, 0, { hdisplay := 640 }⟩ else ⟨0, 0, 0, {}⟩⟩

theorem console_fed : driven (card.resources console) 10 = some ⟨1⟩ :=
  board_driven console 10

def bothOutputs : List (Event card) :=
  [.configuration false, .configure (.ok 7) [], .flip 10 8]

theorem both_outputs_lit : ∃ display : Display card,
    run step (started console) bothOutputs = some display ∧ display.enabled = [10, 11] ∧
      driven (card.resources display.kernel) 10 = some ⟨1⟩ ∧
      ∀ id ∈ display.enabled, ∃ output crtc, display.outputs.lookup id = some output ∧
        output.currentCrtc = some crtc ∧
        driven (card.resources display.kernel) id = some crtc := by
  have wired : Wired (card.resources console) := board_wired (.inr (by decide))
  have seen : (run step (started console) bothOutputs).map
      (fun display => (display.phase, display.enabled)) = some (.up, [10, 11]) := by
    decide +kernel
  obtain ⟨display, ran, seen⟩ := Option.map_eq_some_iff.mp seen
  obtain ⟨up, enabled⟩ := Prod.mk.inj seen
  have alive : display.phase ≠ .down := by
    rw [up]
    decide
  have main := @outputs_have_their_own_crtcs card console bothOutputs display wired ran alive
  refine ⟨display, ran, enabled, main.1 10 ⟨1⟩ console_fed, ?_⟩
  intro id member
  obtain ⟨output, crtc, -, -, found, current, feeds, -⟩ := main.2.2 up id member
  exact ⟨output, crtc, found, current, feeds⟩

/-- After the display is gone, in whatever order its outputs went and whether it ever came up,
every connector that showed something before it was created shows that again, unless the
kernel has refused to set it. -/
theorem display_gives_outputs_back (kernel : driver.Kernel) (events : List (Event driver))
    (display : Display driver) (wired : Wired (driver.resources kernel))
    (ran : run step (started kernel) events = some display) (gone : display.phase = .down)
    (id : UInt32) (crtc : Crtc) (fed : driven (driver.resources kernel) id = some crtc) :
    (driven (driver.resources display.kernel) id = some crtc ∧
        driver.scanout display.kernel crtc.crtcId = driver.scanout kernel crtc.crtcId) ∨
      (⟨crtc.crtcId, driver.scanout kernel crtc.crtcId, id⟩, false) ∈ display.requests := by
  have living := run_living wired ran
  rw [Living, gone] at living
  exact living.restored id crtc (living.left id List.not_mem_nil) fed

theorem console_is_shown_again : ∃ display : Display card,
    run step (started console) (bothOutputs ++ [.destroy [11, 10]]) = some display ∧
      driven (card.resources display.kernel) 10 = some ⟨1⟩ ∧
      card.scanout display.kernel 1 = ⟨5, 0, 0, { hdisplay := 640 }⟩ := by
  have wired : Wired (card.resources console) := board_wired (.inr (by decide))
  have seen : (run step (started console) (bothOutputs ++ [.destroy [11, 10]])).map
      (fun display => (display.phase, decide
        ((⟨1, ⟨5, 0, 0, { hdisplay := 640 }⟩, 10⟩, false) ∈ display.requests))) =
        some (.down, false) := by
    decide +kernel
  obtain ⟨display, ran, seen⟩ := Option.map_eq_some_iff.mp seen
  obtain ⟨down, accepted⟩ := Prod.mk.inj seen
  have main := @display_gives_outputs_back card console _ display wired ran down 10 ⟨1⟩
    console_fed
  exact ⟨display, ran, main.resolve_right (of_decide_eq_false accepted)⟩

end Results

end Mir.OutputRestoration
