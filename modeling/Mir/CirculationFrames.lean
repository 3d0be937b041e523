import Mathlib.Order.Interval.Finset.Nat
import Mir.Circulation

/-!
# The order in which posted items are shown

Posts are numbered `1, 2, 3, ...` in the order they happen. An item stands for
its latest post, so the frame a consumer shows is the number of the latest post
of the item it got. With one consumer and no reclaim the frames shown count up
one by one: the last one shown is repeated, never skipped and never undercut.
-/

namespace Mir.CirculationFrames

open Mir.TransitionRuns Mir.Circulation

set_option autoImplicit false

variable {Item : Type*} [DecidableEq Item]

def submission : Move Item → Option Item
  | .post item => some item
  | _ => none

def submissions (history : List (Move Item)) : List Item := history.filterMap submission

/-- The number of the latest post of `item`, and zero if it was never posted. -/
def frameOf (history : List (Move Item)) (item : Item) : Nat :=
  (submissions history).length - (submissions history).reverse.idxOf item

def recordFrame (record : List (Move Item) × List Nat) (move : Move Item) :
    List (Move Item) × List Nat :=
  (record.1 ++ [move],
    match move with
    | .present item => record.2 ++ [frameOf record.1 item]
    | _ => record.2)

/-- The frame number of every presentation, each taken when it happened. -/
def framesShown (history : List (Move Item)) : List Nat :=
  (history.foldl recordFrame ([], [])).2

def submissionsShown (history : List (Move Item)) : Nat :=
  ((framesShown history).toFinset.erase 0).card

/-- The moves after the post at position `index` (counted from zero). -/
def sinceSubmission : List (Move Item) → Nat → List (Move Item)
  | [], _ => []
  | .post _ :: rest, 0 => rest
  | .post _ :: rest, index + 1 => sinceSubmission rest index
  | _ :: rest, index => sinceSubmission rest index

section History

omit [DecidableEq Item] in
theorem submissions_snoc (history : List (Move Item)) (move : Move Item) :
    submissions (history ++ [move]) = submissions history ++ (submission move).toList := by
  cases move <;> simp [submissions, submission]

theorem record_history (history : List (Move Item)) :
    (history.foldl recordFrame ([], [])).1 = history := by
  induction history using List.reverseRecOn with
  | nil => rfl
  | append_singleton initial move ih => simp [recordFrame, ih]

theorem frames_shown_present (history : List (Move Item)) (item : Item) :
    framesShown (history ++ [.present item]) =
      framesShown history ++ [frameOf history item] := by
  have replayed := record_history history
  simp only [framesShown, List.foldl_append, List.foldl_cons, List.foldl_nil, recordFrame]
  rw [replayed]

theorem frames_shown_other (history : List (Move Item)) (move : Move Item)
    (other : ∀ item, move ≠ .present item) :
    framesShown (history ++ [move]) = framesShown history := by
  cases move with
  | present item => exact absurd rfl (other item)
  | _ => simp [framesShown, recordFrame]

omit [DecidableEq Item] in
theorem since_submission_snoc (history : List (Move Item)) (move : Move Item) (index : Nat)
    (earlier : index < (submissions history).length) :
    sinceSubmission (history ++ [move]) index = sinceSubmission history index ++ [move] := by
  induction history generalizing index with
  | nil => simp [submissions] at earlier
  | cons head rest ih =>
      cases head with
      | post item =>
          cases index with
          | zero => rfl
          | succ index => exact ih index (Nat.lt_of_succ_lt_succ earlier)
      | _ => exact ih index earlier

omit [DecidableEq Item] in
theorem since_submission_latest (history : List (Move Item)) (item : Item) :
    sinceSubmission (history ++ [.post item]) (submissions history).length = [] := by
  induction history with
  | nil => rfl
  | cons head rest ih =>
      cases head with
      | _ => exact ih

theorem frame_of_latest {history : List (Move Item)} {earlier later : List Item} {item : Item}
    (split : submissions history = earlier ++ item :: later) (latest : item ∉ later) :
    frameOf history item = earlier.length + 1 := by
  have outside : item ∉ later.reverse := by simpa using latest
  have position : (submissions history).reverse.idxOf item = later.length := by
    rw [split]
    simp only [List.reverse_append, List.reverse_cons, List.append_assoc, List.singleton_append]
    rw [List.idxOf_append_of_notMem outside]
    simp
  rw [frameOf, position, split]
  simp only [List.length_append, List.length_cons]
  omega

end History

section Order

/-- Frame numbers that start at zero or one and grow by at most one each time,
so that every number up to the last has been there. -/
structure CountsUp (frames : List Nat) (count : Nat) : Prop where
  seen : frames.toFinset.erase 0 = Finset.Icc 1 count
  last : frames.getLastD 0 = count
  chain : (0 :: frames).IsChain fun frame next => next = frame ∨ next = frame + 1

theorem counts_up_nil : CountsUp [] 0 := ⟨by simp, rfl, by simp⟩

theorem counts_up_snoc {frames : List Nat} {count next : Nat} (counts : CountsUp frames count)
    (follows : next = count ∨ next = count + 1) : CountsUp (frames ++ [next]) next where
  seen := by
    have seen := counts.seen
    ext number
    have before := Finset.ext_iff.mp seen number
    simp only [Finset.mem_erase, List.mem_toFinset, Finset.mem_Icc, List.mem_append,
      List.mem_singleton] at before ⊢
    constructor
    · rintro ⟨positive, old | rfl⟩
      · have bounds := before.mp ⟨positive, old⟩
        omega
      · omega
    · rintro ⟨low, high⟩
      refine ⟨by omega, ?_⟩
      by_cases fresh : number = next
      · exact .inr fresh
      · exact .inl (before.mpr (by omega)).2
  last := by simp
  chain := by
    rw [← List.cons_append, List.isChain_append]
    refine ⟨counts.chain, by simp, ?_⟩
    intro previous atEnd following atHead
    have lastFrame : previous = count := by
      rw [← counts.last]
      cases frames <;> simp_all
    simp only [List.head?_cons, Option.mem_def, Option.some.injEq] at atHead
    rw [lastFrame, ← atHead]
    exact follows

theorem counts_up_last {frames : List Nat} {count : Nat} (counts : CountsUp frames count)
    (positive : 1 ≤ count) : frames.getLast? = some count := by
  have last := counts.last
  rw [List.getLastD_eq_getLast?] at last
  cases found : frames.getLast? with
  | none =>
      rw [found, Option.getD_none] at last
      omega
  | some frame =>
      rw [found, Option.getD_some] at last
      rw [last]

/-- The relation between a history and the state it leads to; `count` is the
number of posts shown so far. The last shown item lies at the back of `ready`
whenever nothing newer is waiting: that is what `resting` says, and the limit
on `drawn` is what keeps producers from taking it there. -/
structure Presented (items : List Item) (history : List (Move Item)) (count : Nat)
    (state : Stock Item) : Prop where
  conserved : Conserved items (items.length - 1) state
  single : state.shown.length ≤ 1
  within : count ≤ (submissions history).length
  pending : state.posted = (submissions history).drop count
  frames : CountsUp (framesShown history) count
  showing : ∀ item ∈ state.shown, ∀ index, count = index + 1 →
    (submissions history)[index]? = some item
  resting : state.shown = [] → state.posted = [] → ∀ index, count = index + 1 →
    (submissions history)[index]? = state.ready.getLast?
  untouched : ∀ index item, (submissions history)[index]? = some item →
    count ≤ index ∨ count = index + 1 ∧ (state.shown ≠ [] ∨ state.posted = []) →
      .take item ∉ sinceSubmission history index

variable {items : List Item}

theorem start_presented : Presented items [] 0 (start items) where
  conserved := start_conserved items _
  single := by simp [start]
  within := by simp
  pending := by simp [start, submissions]
  frames := counts_up_nil
  showing := by simp [start]
  resting := by simp
  untouched := by simp [submissions]

theorem presented_shown {history : List (Move Item)} {count : Nat} {state : Stock Item}
    (presented : Presented items history count state) :
    submissionsShown history = count := by
  rw [submissionsShown, presented.frames.seen, Nat.card_Icc, Nat.add_sub_cancel]

omit [DecidableEq Item] in
theorem mem_of_shown_ne_nil {shown : List Item} (single : shown.length ≤ 1)
    (something : shown ≠ []) : ∃ item, shown = [item] := by
  match shown, single with
  | [], _ => exact absurd rfl something
  | [item], _ => exact ⟨item, rfl⟩

theorem presented_place {history : List (Move Item)} {count : Nat} {state : Stock Item}
    (presented : Presented items history count state) {index : Nat} {item : Item}
    (submitted : (submissions history)[index]? = some item)
    (fresh : count ≤ index ∨ count = index + 1 ∧ (state.shown ≠ [] ∨ state.posted = [])) :
    item ∈ state.posted ∨ item ∈ state.shown ∨
      state.shown = [] ∧ state.posted = [] ∧ state.ready.getLast? = some item := by
  rcases fresh with waiting | ⟨counted, held⟩
  · left
    rw [presented.pending]
    apply List.mem_of_getElem? (i := index - count)
    rw [List.getElem?_drop, Nat.add_sub_of_le waiting]
    exact submitted
  · right
    by_cases nothing : state.shown = []
    · right
      have nothingPosted : state.posted = [] := held.resolve_left (fun some => some nothing)
      have rested := presented.resting nothing nothingPosted index counted
      exact ⟨nothing, nothingPosted, rested.symm.trans submitted⟩
    · left
      obtain ⟨shownItem, only⟩ := mem_of_shown_ne_nil presented.single nothing
      have shows := presented.showing shownItem (by simp [only]) index counted
      rw [submitted, Option.some.injEq] at shows
      simp [only, shows]

/-- A producer takes an item. It can be neither a posted item nor the one being
shown, and not the one resting at the back of `ready` either: were that the only
ready item, the producers would already hold all the others. -/
theorem presented_take (distinct : items.Nodup) {history : List (Move Item)} {count : Nat}
    {item : Item} {rest posted drawn shown : List Item}
    (room : drawn.length ≠ items.length - 1)
    (presented : Presented items history count ⟨item :: rest, posted, drawn, shown⟩) :
    Presented items (history ++ [.take item]) count
      ⟨rest, posted, drawn ++ [item], shown⟩ := by
  have same : submissions (history ++ [.take item]) = submissions history := by
    simp [submissions_snoc, submission]
  have nodup := conserved_nodup presented.conserved distinct
  have total := conserved_count presented.conserved
  have others : shown = [] → posted = [] → rest ≠ [] := by
    rintro rfl rfl rfl
    simp at total
    omega
  refine
    { conserved := moved_conserved (.take room) presented.conserved
      single := presented.single
      within := by rw [same]; exact presented.within
      pending := by rw [same]; exact presented.pending
      frames := by
        rw [frames_shown_other _ _ (by simp)]
        exact presented.frames
      showing := by rw [same]; exact presented.showing
      resting := ?_
      untouched := ?_ }
  · intro nothingShown nothingPosted index counted
    rw [same, presented.resting nothingShown nothingPosted index counted]
    simp [List.getLast?_cons_of_ne_nil (others nothingShown nothingPosted)]
  · intro index other submitted fresh
    rw [same] at submitted
    have position : index < (submissions history).length :=
      (List.getElem?_eq_some_iff.mp submitted).1
    have before := presented.untouched index other submitted fresh
    rw [since_submission_snoc _ _ _ position]
    simp only [List.mem_append, before, List.mem_singleton, Move.take.injEq, false_or]
    rintro rfl
    simp only [contents, List.cons_append, List.append_assoc, List.nodup_cons,
      List.mem_append, not_or] at nodup
    obtain ⟨notReady, notPosted, -, notShown⟩ := nodup.1
    rcases presented_place presented submitted fresh with inPosted | inShown | atBack
    · exact notPosted inPosted
    · exact notShown inShown
    · obtain ⟨nothingShown, nothingPosted, back⟩ := atBack
      simp only [List.getLast?_cons_of_ne_nil (others nothingShown nothingPosted)] at back
      exact notReady (List.mem_of_getLast? back)

theorem presented_post {history : List (Move Item)} {count : Nat} {item : Item}
    {ready posted drawn shown : List Item} (held : item ∈ drawn)
    (presented : Presented items history count ⟨ready, posted, drawn, shown⟩) :
    Presented items (history ++ [.post item]) count
      ⟨ready, posted ++ [item], drawn.erase item, shown⟩ := by
  have longer : submissions (history ++ [.post item]) = submissions history ++ [item] := by
    simp [submissions_snoc, submission]
  have within := presented.within
  refine
    { conserved := moved_conserved (.post held) presented.conserved
      single := presented.single
      within := by
        rw [longer, List.length_append]
        omega
      pending := by
        rw [longer, List.drop_append_of_le_length within, ← presented.pending]
      frames := by
        rw [frames_shown_other _ _ (by simp)]
        exact presented.frames
      showing := ?_
      resting := by simp
      untouched := ?_ }
  · intro other shows index counted
    rw [longer, List.getElem?_append_left (by omega)]
    exact presented.showing other shows index counted
  · intro index other submitted fresh
    rw [longer] at submitted
    by_cases earlier : index < (submissions history).length
    · rw [List.getElem?_append_left earlier] at submitted
      rw [since_submission_snoc _ _ _ earlier]
      have before : .take other ∉ sinceSubmission history index := by
        apply presented.untouched index other submitted
        simpa using fresh.imp_right fun ⟨counted, shows⟩ =>
          ⟨counted, Or.inl (shows.resolve_right (by simp))⟩
      simp [before]
    · have latest : index = (submissions history).length := by
        have bound := (List.getElem?_eq_some_iff.mp submitted).1
        simp only [List.length_append, List.length_singleton] at bound
        omega
      rw [latest, since_submission_latest]
      simp

theorem presented_retire {history : List (Move Item)} {count : Nat} {item : Item}
    {ready posted drawn shown : List Item} (held : item ∈ shown)
    (presented : Presented items history count ⟨ready, posted, drawn, shown⟩) :
    Presented items (history ++ [.retire item]) count
      ⟨ready ++ [item], posted, drawn, shown.erase item⟩ := by
  have same : submissions (history ++ [.retire item]) = submissions history := by
    simp [submissions_snoc, submission]
  obtain ⟨only, rfl⟩ := mem_of_shown_ne_nil presented.single (List.ne_nil_of_mem held)
  obtain rfl : item = only := by simpa using held
  refine
    { conserved := moved_conserved (.retire held) presented.conserved
      single := by simp
      within := by rw [same]; exact presented.within
      pending := by rw [same]; exact presented.pending
      frames := by
        rw [frames_shown_other _ _ (by simp)]
        exact presented.frames
      showing := by simp
      resting := ?_
      untouched := ?_ }
  · intro _ _ index counted
    rw [same, presented.showing item (by simp) index counted]
    simp
  · intro index other submitted fresh
    rw [same] at submitted
    have position := (List.getElem?_eq_some_iff.mp submitted).1
    have before : .take other ∉ sinceSubmission history index :=
      presented.untouched index other submitted
        (fresh.imp_right fun ⟨counted, _⟩ => ⟨counted, .inl (by simp)⟩)
    rw [since_submission_snoc _ _ _ position]
    simp [before]

theorem next_frame (distinct : items.Nodup) {history : List (Move Item)} {count : Nat}
    {item : Item} {ready rest drawn shown : List Item}
    (presented : Presented items history count ⟨ready, item :: rest, drawn, shown⟩) :
    (submissions history)[count]? = some item ∧ frameOf history item = count + 1 := by
  have pending : item :: rest = (submissions history).drop count := presented.pending
  have split : submissions history = (submissions history).take count ++ item :: rest := by
    rw [pending, List.take_append_drop]
  have nodup := conserved_nodup presented.conserved distinct
  have onlyOnce : item ∉ rest := by
    simp only [contents, List.append_assoc] at nodup
    have posted := (List.nodup_append.mp (List.nodup_append.mp nodup).2.1).1
    exact (List.nodup_cons.mp posted).1
  refine ⟨?_, ?_⟩
  · have head : ((submissions history).drop count)[0]? = some item := by
      rw [← pending]
      rfl
    simpa using head
  · rw [frame_of_latest split onlyOnce, List.length_take, Nat.min_eq_left presented.within]

theorem repeated_frame {history : List (Move Item)} {count : Nat} {item : Item}
    {ready drawn : List Item}
    (presented : Presented items history count ⟨ready ++ [item], [], drawn, []⟩) :
    (∀ index, count = index + 1 → (submissions history)[index]? = some item) ∧
      frameOf history item = count := by
  have all : (submissions history).length = count := by
    have pending : [] = (submissions history).drop count := presented.pending
    have short := List.drop_eq_nil_iff.mp pending.symm
    have within := presented.within
    omega
  have rested : ∀ index, count = index + 1 → (submissions history)[index]? = some item := by
    intro index counted
    rw [presented.resting rfl rfl index counted]
    simp
  refine ⟨rested, ?_⟩
  cases count with
  | zero => simp [frameOf, all]
  | succ index =>
      have split : submissions history = (submissions history).take index ++ item :: [] := by
        obtain ⟨bound, value⟩ := List.getElem?_eq_some_iff.mp (rested index rfl)
        rw [← value, List.take_append_getElem bound, ← all, List.take_length]
      rw [frame_of_latest split (by simp), List.length_take, all]
      omega

omit [DecidableEq Item] in
theorem untouched_by_present {history : List (Move Item)} {item other : Item} {index : Nat}
    (submitted : (submissions history)[index]? = some other)
    (before : .take other ∉ sinceSubmission history index) :
    .take other ∉ sinceSubmission (history ++ [.present item]) index := by
  have position := (List.getElem?_eq_some_iff.mp submitted).1
  rw [since_submission_snoc _ _ _ position]
  simp [before]

theorem presented_next (distinct : items.Nodup) {history : List (Move Item)} {count : Nat}
    {item : Item} {ready rest drawn : List Item}
    (presented : Presented items history count ⟨ready, item :: rest, drawn, []⟩) :
    Presented items (history ++ [.present item]) (count + 1) ⟨ready, rest, drawn, [item]⟩ := by
  have same : submissions (history ++ [.present item]) = submissions history := by
    simp [submissions_snoc, submission]
  obtain ⟨submitted, frame⟩ := next_frame distinct presented
  have pending : item :: rest = (submissions history).drop count := presented.pending
  refine
    { conserved := moved_conserved .presentNext presented.conserved
      single := by simp
      within := by
        rw [same]
        exact (List.getElem?_eq_some_iff.mp submitted).1
      pending := by
        rw [same, ← List.drop_drop, ← pending]
        rfl
      frames := by
        rw [frames_shown_present, frame]
        exact counts_up_snoc presented.frames (.inr rfl)
      showing := ?_
      resting := by simp
      untouched := ?_ }
  · intro other shows index counted
    obtain rfl : other = item := by simpa using shows
    obtain rfl : count = index := by omega
    rw [same]
    exact submitted
  · intro index other submittedOther fresh
    rw [same] at submittedOther
    apply untouched_by_present submittedOther
    exact presented.untouched index other submittedOther (.inl (by omega))

theorem presented_again {history : List (Move Item)} {count : Nat} {item : Item}
    {ready drawn : List Item}
    (presented : Presented items history count ⟨ready ++ [item], [], drawn, []⟩) :
    Presented items (history ++ [.present item]) count ⟨ready, [], drawn, [item]⟩ := by
  have same : submissions (history ++ [.present item]) = submissions history := by
    simp [submissions_snoc, submission]
  obtain ⟨submitted, frame⟩ := repeated_frame presented
  refine
    { conserved := moved_conserved .presentAgain presented.conserved
      single := by simp
      within := by rw [same]; exact presented.within
      pending := by rw [same]; exact presented.pending
      frames := by
        rw [frames_shown_present, frame]
        exact counts_up_snoc presented.frames (.inl rfl)
      showing := ?_
      resting := by simp
      untouched := ?_ }
  · intro other shows index counted
    obtain rfl : other = item := by simpa using shows
    rw [same]
    exact submitted index counted
  · intro index other submittedOther fresh
    rw [same] at submittedOther
    apply untouched_by_present submittedOther
    exact presented.untouched index other submittedOther
      (fresh.imp_right fun ⟨counted, _⟩ => ⟨counted, .inr rfl⟩)

/-- One consumer, and nothing is reclaimed from the posted items. -/
def inOrder (state : Stock Item) (move : Move Item) : Bool :=
  singleConsumer state move && move != .reclaim

theorem moved_presented (distinct : items.Nodup) {history : List (Move Item)} {count : Nat}
    {state next : Stock Item} {move : Move Item}
    (moved : Moved (items.length - 1) state move next) (allowed : inOrder state move = true)
    (presented : Presented items history count state) :
    ∃ after, Presented items (history ++ [move]) after next := by
  cases moved with
  | take room => exact ⟨count, presented_take distinct room presented⟩
  | post held => exact ⟨count, presented_post held presented⟩
  | retire held => exact ⟨count, presented_retire held presented⟩
  | @presentNext item ready rest drawn shown =>
      obtain rfl : shown = [] := by simpa [inOrder, singleConsumer] using allowed
      exact ⟨count + 1, presented_next distinct presented⟩
  | @presentAgain item ready drawn shown =>
      obtain rfl : shown = [] := by simpa [inOrder, singleConsumer] using allowed
      exact ⟨count, presented_again presented⟩
  | reclaimPosted => simp [inOrder] at allowed
  | reclaimIdle => simp [inOrder] at allowed

theorem run_presented (distinct : items.Nodup) {history : List (Move Item)}
    {finish : Stock Item}
    (ran : run (restrict inOrder (step (items.length - 1))) (start items) history =
      some finish) :
    Presented items history (submissionsShown history) finish := by
  have reached : ∃ count, Presented items history count finish := by
    apply run_history_invariant (fun past state => ∃ count, Presented items past count state)
      ⟨0, start_presented⟩ _ ran
    rintro past state move next ⟨count, presented⟩ stepped
    obtain ⟨allowed, moved⟩ := restrict_some.mp stepped
    exact moved_presented distinct (step_moved moved) allowed presented
  obtain ⟨count, presented⟩ := reached
  rw [presented_shown presented]
  exact presented

/-- What a consumer that asks now gets, in terms of the history. -/
theorem presented_item (distinct : items.Nodup) {history : List (Move Item)} {count : Nat}
    {state next : Stock Item} {item : Item}
    (moved : Moved (items.length - 1) state (.present item) next)
    (allowed : inOrder state (.present item) = true)
    (presented : Presented items history count state) :
    (state.posted ≠ [] → (submissions history)[count]? = some item) ∧
      (state.posted = [] → 1 ≤ count →
        (submissions history)[count - 1]? = some item ∧
          .take item ∉ sinceSubmission history (count - 1)) := by
  cases moved with
  | presentNext => exact ⟨fun _ => (next_frame distinct presented).1, by simp⟩
  | @presentAgain _ ready drawn shown =>
      obtain rfl : shown = [] := by simpa [inOrder, singleConsumer] using allowed
      refine ⟨by simp, fun nothing positive => ?_⟩
      have counted : count = count - 1 + 1 := by omega
      have submitted := (repeated_frame presented).1 (count - 1) counted
      exact ⟨submitted, presented.untouched _ _ submitted (.inr ⟨counted, .inr nothing⟩)⟩

end Order

end Mir.CirculationFrames
