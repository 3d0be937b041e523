import Mathlib.Data.List.AList
import Mathlib.Data.List.Range
import Mathlib.Logic.Function.Basic
import Mir.ProtocolMessages
import Mir.TransitionRuns

/-!
# Calls that wait for their results

`MirBasicRpcChannel` and its `PendingCallCache`. A call draws an id, saves its
completion details and writes its request into the send buffer it was given, in three
steps between which other calls and results may come. Ids are `int`s that are taken to
wrap. A call has a closure of its own, so its id also names the closure. The reference
to the send buffer dangles once the call has been completed: a run ends where
`send_message` would write through it then.
-/

namespace Mir.PendingCalls

open Mir.ProtocolMessages Mir.TransitionRuns

set_option autoImplicit false

/-- A `google::protobuf::Message*`. -/
abbrev Address := Nat

structure PendingCall where
  sendBuffer : Text
  response : Address
  deriving DecidableEq, Repr

/-- `complete->Run()`, and what the response object was then. -/
structure Completion (Message : Type) where
  id : Int32
  response : Address
  content : Message
  deriving DecidableEq, Repr

structure Channel (Message : Type) where
  nextMessageId : Int32
  drawn : List Int32
  saved : List Int32
  pendingCalls : AList fun _ : Int32 => PendingCall
  messages : Address → Message
  completions : List (Completion Message)

inductive Event (Message : Type) where
  | nextId (id : Int32)
  | saveCompletionDetails (id : Int32) (response : Address)
  | sendMessage (id : Int32) (buffer : Text)
  | completeResponse (result : WireResult)
  | store (address : Address) (message : Message)

variable {Message : Type}

/-- `std::map<int, PendingCall>::find(result.id())`. -/
def callOf (result : WireResult) : Int32 := (result.id.getD 0).toInt32

def created (messages : Address → Message) : Channel Message where
  nextMessageId := 0
  drawn := []
  saved := []
  pendingCalls := ∅
  messages := messages
  completions := []

section Steps

variable (parse : Address → Text → Message)

def completeResponse (channel : Channel Message) (result : WireResult) : Channel Message :=
  match channel.pendingCalls.lookup (callOf result) with
  | none => channel
  | some completion =>
      let messages := Function.update channel.messages completion.response
        (parse completion.response (result.response.getD []))
      { channel with
        messages := messages
        completions := channel.completions ++
          [⟨callOf result, completion.response, messages completion.response⟩]
        pendingCalls := channel.pendingCalls.erase (callOf result) }

/-- `store` is anything else that the client program does with its messages. -/
def step (channel : Channel Message) : Event Message → Option (Channel Message)
  | .nextId id =>
      if id = channel.nextMessageId then
        some { channel with
          nextMessageId := id + 1
          drawn := channel.drawn ++ [id] }
      else none
  | .saveCompletionDetails id response =>
      if id ∈ channel.drawn then
        some { channel with
          drawn := channel.drawn.erase id
          saved := channel.saved ++ [id]
          pendingCalls := channel.pendingCalls.insert id ⟨[], response⟩ }
      else none
  | .sendMessage id buffer =>
      if id ∈ channel.saved then
        (channel.pendingCalls.lookup id).map fun call =>
          { channel with
            saved := channel.saved.erase id
            pendingCalls := channel.pendingCalls.insert id { call with sendBuffer := buffer } }
      else none
  | .completeResponse result => some (completeResponse parse channel result)
  | .store address message => some
      { channel with messages := Function.update channel.messages address message }

end Steps

section History

def drawnIds (history : List (Event Message)) : List Int32 :=
  history.filterMap fun event => match event with
    | .nextId id => some id
    | _ => none

/-- A call whose details have been saved and for which no result has come since. -/
def Awaited (history : List (Event Message)) (id : Int32) (response : Address) : Prop :=
  ∃ before after, history = before ++ .saveCompletionDetails id response :: after ∧
    ∀ result, .completeResponse result ∈ after → callOf result ≠ id

def Issued (history : List (Event Message)) (id : Int32) : Prop :=
  ∃ response, .saveCompletionDetails id response ∈ history

theorem awaited_snoc (history : List (Event Message)) (event : Event Message) (id : Int32)
    (response : Address) :
    Awaited (history ++ [event]) id response ↔
      event = .saveCompletionDetails id response ∨
        Awaited history id response ∧
          ∀ result, event = .completeResponse result → callOf result ≠ id := by
  constructor
  · intro awaited
    rcases awaited with ⟨before, after, split, unanswered⟩
    rcases split_last split with ⟨-, -, same⟩ | ⟨later, rfl, front⟩
    · exact Or.inl same
    · simp only [List.mem_append, List.mem_singleton] at unanswered
      apply Or.inr
      constructor
      · exact ⟨before, later, front, fun result member => unanswered result (Or.inl member)⟩
      · exact fun result isResult => unanswered result (Or.inr isResult.symm)
  · intro cases_of
    rcases cases_of with rfl | ⟨awaited, other⟩
    · exact ⟨history, [], rfl, by simp⟩
    · rcases awaited with ⟨before, after, rfl, unanswered⟩
      refine ⟨before, after ++ [event], by simp, ?_⟩
      intro result member
      rcases List.mem_append.mp member with earlier | last
      · exact unanswered result earlier
      · exact other result (List.mem_singleton.mp last).symm

theorem awaited_issued {history : List (Event Message)} {id : Int32} {response : Address}
    (awaited : Awaited history id response) : Issued history id := by
  rcases awaited with ⟨before, after, rfl, -⟩
  exact ⟨response, by simp⟩

theorem issued_snoc (history : List (Event Message)) (event : Event Message) (id : Int32) :
    Issued (history ++ [event]) id ↔
      Issued history id ∨ ∃ response, event = .saveCompletionDetails id response := by
  simp only [Issued, List.mem_append, List.mem_singleton, exists_or]
  constructor
  · rintro (earlier | ⟨response, last⟩)
    · exact Or.inl earlier
    · exact Or.inr ⟨response, last.symm⟩
  · rintro (earlier | ⟨response, last⟩)
    · exact Or.inl earlier
    · exact Or.inr ⟨response, last.symm⟩

end History

section Ids

theorem id_of_nat_injective {first second : Nat} (firstSmall : first < 2 ^ 32)
    (secondSmall : second < 2 ^ 32) (same : Int32.ofNat first = Int32.ofNat second) :
    first = second := by
  have words : (Int32.ofNat first).toUInt32.toNat = (Int32.ofNat second).toUInt32.toNat := by
    rw [same]
  simp only [Int32.toUInt32_ofNat', UInt32.toNat_ofNat'] at words
  omega

theorem id_succ (count : Nat) : Int32.ofNat count + 1 = Int32.ofNat (count + 1) := by
  rw [Int32.ofNat_add]
  rfl

def firstIds (count : Nat) : List Int32 := (List.range count).map Int32.ofNat

theorem first_ids_succ (count : Nat) :
    firstIds (count + 1) = firstIds count ++ [Int32.ofNat count] := by
  simp [firstIds, List.range_succ]

theorem id_not_drawn {count : Nat} (small : count < 2 ^ 32) :
    Int32.ofNat count ∉ firstIds count := by
  intro member
  rcases List.mem_map.mp member with ⟨earlier, below, same⟩
  have bound := List.mem_range.mp below
  have equal := id_of_nat_injective (by omega) small same
  omega

end Ids

section Matching

/-- The table of pending calls says which calls still wait, and the rest of the state
says that no id is used twice. -/
structure Matched (history : List (Event Message)) (channel : Channel Message) : Prop where
  next : channel.nextMessageId = Int32.ofNat (drawnIds history).length
  order : drawnIds history = firstIds (drawnIds history).length
  unsaved : channel.drawn.Nodup
  drawn : ∀ id ∈ channel.drawn, id ∈ drawnIds history ∧ ¬ Issued history id
  issued : ∀ id, Issued history id → id ∈ drawnIds history
  pending : ∀ id response,
    (∃ call, channel.pendingCalls.lookup id = some call ∧ call.response = response) ↔
      Awaited history id response
  once : (channel.completions.map Completion.id).Nodup
  completed : ∀ completion ∈ channel.completions,
    Issued history completion.id ∧ channel.pendingCalls.lookup completion.id = none

theorem created_matched (messages : Address → Message) : Matched [] (created messages) where
  next := rfl
  order := rfl
  unsaved := List.nodup_nil
  drawn := by simp [created]
  issued := by simp [Issued]
  pending := by simp [created, Awaited]
  once := List.nodup_nil
  completed := by simp [created]

variable {history : List (Event Message)} {channel : Channel Message}

theorem next_id_matched (matched : Matched history channel)
    (few : (drawnIds history).length < 2 ^ 32) :
    Matched (history ++ [.nextId channel.nextMessageId])
      { channel with
        nextMessageId := channel.nextMessageId + 1
        drawn := channel.drawn ++ [channel.nextMessageId] } := by
  have ids : drawnIds (history ++ [.nextId channel.nextMessageId]) =
      drawnIds history ++ [channel.nextMessageId] := by simp [drawnIds]
  have count : (drawnIds (history ++ [.nextId channel.nextMessageId])).length =
      (drawnIds history).length + 1 := by simp [ids]
  have fresh : channel.nextMessageId ∉ drawnIds history := by
    rw [matched.next, matched.order]
    simpa [firstIds] using id_not_drawn few
  have sameIssued : ∀ id, Issued (history ++ [.nextId channel.nextMessageId]) id ↔
      Issued history id := by simp [issued_snoc]
  constructor
  · rw [count, matched.next, id_succ]
  · rw [count, first_ids_succ, ids, ← matched.order, matched.next]
  · rw [List.nodup_append]
    refine ⟨matched.unsaved, List.nodup_singleton _, ?_⟩
    intro id member last lastMember same
    rw [List.mem_singleton] at lastMember
    exact fresh (lastMember ▸ same ▸ (matched.drawn id member).1)
  · intro id member
    rw [ids, sameIssued, List.mem_append]
    rcases List.mem_append.mp member with earlier | last
    · exact ⟨Or.inl (matched.drawn id earlier).1, (matched.drawn id earlier).2⟩
    · refine ⟨Or.inr last, fun already => fresh ?_⟩
      exact List.mem_singleton.mp last ▸ matched.issued id already
  · intro id already
    rw [ids]
    exact List.mem_append_left _ (matched.issued id ((sameIssued id).mp already))
  · intro id response
    rw [awaited_snoc, matched.pending]
    simp
  · exact matched.once
  · intro completion member
    rw [sameIssued]
    exact matched.completed completion member

theorem save_matched (matched : Matched history channel) {id : Int32} (response : Address)
    (member : id ∈ channel.drawn) :
    Matched (history ++ [.saveCompletionDetails id response])
      { channel with
        drawn := channel.drawn.erase id
        saved := channel.saved ++ [id]
        pendingCalls := channel.pendingCalls.insert id ⟨[], response⟩ } := by
  have ids : drawnIds (history ++ [.saveCompletionDetails id response]) = drawnIds history := by
    simp [drawnIds]
  have unissued := (matched.drawn id member).2
  constructor
  · rw [ids, matched.next]
  · rw [ids, ← matched.order]
  · exact matched.unsaved.erase id
  · intro other still
    rw [matched.unsaved.mem_erase_iff] at still
    rw [ids, issued_snoc]
    refine ⟨(matched.drawn other still.2).1, ?_⟩
    rintro (earlier | ⟨_, same⟩)
    · exact (matched.drawn other still.2).2 earlier
    · simp only [Event.saveCompletionDetails.injEq] at same
      exact still.1 same.1.symm
  · intro other already
    rw [ids]
    rcases (issued_snoc _ _ _).mp already with earlier | ⟨_, same⟩
    · exact matched.issued other earlier
    · simp only [Event.saveCompletionDetails.injEq] at same
      exact same.1 ▸ (matched.drawn id member).1
  · intro other address
    rw [awaited_snoc, ← matched.pending]
    by_cases same : other = id
    · subst same
      have absent : ¬ ∃ call, channel.pendingCalls.lookup other = some call ∧
          call.response = address := by
        intro present
        exact unissued (awaited_issued ((matched.pending other address).mp present))
      simp [AList.lookup_insert, absent]
    · simp [AList.lookup_insert_ne same, Ne.symm same]
  · exact matched.once
  · intro completion done
    rcases matched.completed completion done with ⟨earlier, absent⟩
    have different : completion.id ≠ id := by
      intro same
      exact unissued (same ▸ earlier)
    rw [issued_snoc, AList.lookup_insert_ne different]
    exact ⟨Or.inl earlier, absent⟩

theorem other_matched (matched : Matched history channel) {event : Event Message}
    {next : Channel Message} (ids : drawnIds (history ++ [event]) = drawnIds history)
    (notSaved : ∀ id response, event ≠ .saveCompletionDetails id response)
    (sameNext : next.nextMessageId = channel.nextMessageId) (sameDrawn : next.drawn = channel.drawn)
    (pending : ∀ id response,
      (∃ call, next.pendingCalls.lookup id = some call ∧ call.response = response) ↔
        Awaited history id response ∧
          ∀ result, event = .completeResponse result → callOf result ≠ id)
    (once : (next.completions.map Completion.id).Nodup)
    (completed : ∀ completion ∈ next.completions,
      Issued history completion.id ∧ next.pendingCalls.lookup completion.id = none) :
    Matched (history ++ [event]) next := by
  have sameIssued : ∀ id, Issued (history ++ [event]) id ↔ Issued history id := by
    intro id
    simp [issued_snoc, notSaved]
  constructor
  · rw [sameNext, ids, matched.next]
  · rw [ids, ← matched.order]
  · rw [sameDrawn]
    exact matched.unsaved
  · intro id member
    rw [ids, sameIssued]
    exact matched.drawn id (sameDrawn ▸ member)
  · intro id already
    rw [ids]
    exact matched.issued id ((sameIssued id).mp already)
  · intro id response
    rw [pending, awaited_snoc]
    simp [notSaved]
  · exact once
  · intro completion member
    rw [sameIssued]
    exact completed completion member

theorem send_matched (matched : Matched history channel) {id : Int32} (buffer : Text)
    {call : PendingCall} (found : channel.pendingCalls.lookup id = some call) :
    Matched (history ++ [.sendMessage id buffer])
      { channel with
        saved := channel.saved.erase id
        pendingCalls := channel.pendingCalls.insert id { call with sendBuffer := buffer } } := by
  refine other_matched matched (by simp [drawnIds]) (by simp) rfl rfl ?_ ?_ ?_
  · intro other response
    rw [← matched.pending]
    by_cases same : other = id
    · subst same
      simp [AList.lookup_insert, found]
    · simp [AList.lookup_insert_ne same]
  · exact matched.once
  · intro completion member
    rcases matched.completed completion member with ⟨earlier, absent⟩
    have different : completion.id ≠ id := by
      intro same
      rw [same, found] at absent
      cases absent
    rw [AList.lookup_insert_ne different]
    exact ⟨earlier, absent⟩

theorem complete_matched (parse : Address → Text → Message) (matched : Matched history channel)
    (result : WireResult) :
    Matched (history ++ [.completeResponse result]) (completeResponse parse channel result) := by
  unfold completeResponse
  cases found : channel.pendingCalls.lookup (callOf result) with
  | none =>
      refine other_matched matched (by simp [drawnIds]) (by simp) rfl rfl ?_ ?_ ?_
      · intro id response
        rw [← matched.pending]
        constructor
        · intro present
          refine ⟨present, fun other same => ?_⟩
          cases same
          intro here
          rcases present with ⟨call, held, -⟩
          rw [← here, found] at held
          cases held
        · exact fun both => both.1
      · exact matched.once
      · exact matched.completed
  | some call =>
      have issued : Issued history (callOf result) :=
        awaited_issued ((matched.pending _ call.response).mp ⟨call, found, rfl⟩)
      have uncompleted : callOf result ∉ channel.completions.map Completion.id := by
        intro member
        rcases List.mem_map.mp member with ⟨completion, done, same⟩
        have absent := (matched.completed completion done).2
        rw [same, found] at absent
        cases absent
      refine other_matched matched (by simp [drawnIds]) (by simp) rfl rfl ?_ ?_ ?_
      · intro id response
        rw [← matched.pending]
        by_cases same : id = callOf result
        · subst same
          simp [AList.lookup_erase]
        · simp [AList.lookup_erase_ne same, Ne.symm same]
      · rw [List.map_append, List.nodup_append]
        refine ⟨matched.once, List.nodup_singleton _, ?_⟩
        intro id member last lastMember same
        have lastId : last = callOf result := by simpa using lastMember
        rw [lastId] at same
        exact uncompleted (same ▸ member)
      · intro completion member
        rcases List.mem_append.mp member with earlier | last
        · rcases matched.completed completion earlier with ⟨before, absent⟩
          have different : completion.id ≠ callOf result := by
            intro same
            rw [same, found] at absent
            cases absent
          exact ⟨before, by rw [AList.lookup_erase_ne different, absent]⟩
        · rw [List.mem_singleton] at last
          subst last
          exact ⟨issued, AList.lookup_erase _ _⟩

theorem step_matched (parse : Address → Text → Message) {next : Channel Message}
    {event : Event Message} (matched : Matched history channel)
    (few : (drawnIds history).length < 2 ^ 32) (stepped : step parse channel event = some next) :
    Matched (history ++ [event]) next := by
  cases event with
  | nextId id =>
      simp only [step] at stepped
      split_ifs at stepped with same
      cases stepped
      subst same
      exact next_id_matched matched few
  | saveCompletionDetails id response =>
      simp only [step] at stepped
      split_ifs at stepped with member
      cases stepped
      exact save_matched matched response member
  | sendMessage id buffer =>
      simp only [step] at stepped
      split_ifs at stepped with member
      rcases Option.map_eq_some_iff.mp stepped with ⟨call, found, rfl⟩
      exact send_matched matched buffer found
  | completeResponse result =>
      cases stepped
      exact complete_matched parse matched result
  | store address message =>
      cases stepped
      refine other_matched matched (by simp [drawnIds]) (by simp) rfl rfl ?_ ?_ ?_
      · intro id response
        rw [← matched.pending]
        simp
      · exact matched.once
      · exact matched.completed

theorem run_matched (parse : Address → Text → Message) {messages : Address → Message}
    {events : List (Event Message)} {finish : Channel Message}
    (ran : run (step parse) (created messages) events = some finish)
    (few : (drawnIds events).length < 2 ^ 32) : Matched events finish := by
  apply run_history_invariant
    (fun history state => (drawnIds history).length < 2 ^ 32 → Matched history state)
    (fun _ => created_matched messages) _ ran few
  intro history state event next matched stepped bound
  have before : (drawnIds history).length ≤ (drawnIds (history ++ [event])).length := by
    simp [drawnIds]
  have small : (drawnIds history).length < 2 ^ 32 := by omega
  exact step_matched parse (matched small) small stepped

end Matching

section Results

/-- After any run, the table holds the calls that still wait and no closure has run
twice; and a further result completes the call with its id if that call is waiting,
whose response object is then what the result says, touches no other entry and no
other message, and otherwise does nothing. -/
theorem results_complete_their_own_calls (parse : Address → Text → Message)
    (messages : Address → Message) (events : List (Event Message)) (channel : Channel Message)
    (ran : run (step parse) (created messages) events = some channel)
    (few : (drawnIds events).length < 2 ^ 32) :
    (∀ id response,
      (∃ call, channel.pendingCalls.lookup id = some call ∧ call.response = response) ↔
        Awaited events id response) ∧
    (channel.completions.map Completion.id).Nodup ∧
    ∀ result next, step parse channel (.completeResponse result) = some next →
      (∀ response, Awaited events (callOf result) response →
        next.completions = channel.completions ++
            [⟨callOf result, response, parse response (result.response.getD [])⟩] ∧
          next.messages response = parse response (result.response.getD []) ∧
          next.pendingCalls.lookup (callOf result) = none ∧
          ∀ other, other ≠ response → next.messages other = channel.messages other) ∧
      ((∀ response, ¬ Awaited events (callOf result) response) → next = channel) ∧
      ∀ id, id ≠ callOf result →
        next.pendingCalls.lookup id = channel.pendingCalls.lookup id := by
  have matched := run_matched parse ran few
  refine ⟨matched.pending, matched.once, ?_⟩
  intro result next stepped
  cases stepped
  unfold completeResponse
  cases found : channel.pendingCalls.lookup (callOf result) with
  | none =>
      refine ⟨fun response awaited => ?_, fun _ => rfl, fun _ _ => rfl⟩
      rcases (matched.pending _ response).mpr awaited with ⟨call, held, -⟩
      rw [found] at held
      cases held
  | some call =>
      refine ⟨fun response awaited => ?_, fun nobody => ?_, fun id other => ?_⟩
      · rcases (matched.pending _ response).mpr awaited with ⟨waiting, held, rfl⟩
        rw [found, Option.some.injEq] at held
        subst held
        refine ⟨by simp, by simp, AList.lookup_erase _ _, fun other different => ?_⟩
        exact Function.update_of_ne different _ _
      · exact absurd ((matched.pending _ call.response).mp ⟨call, found, rfl⟩)
          (nobody call.response)
      · exact AList.lookup_erase_ne other

/-- Two calls that overlap; the result of the second one comes first, and once more
after an unknown one. -/
def crossingCalls : List (Event Text) :=
  [.nextId 0, .nextId 1, .saveCompletionDetails 1 20, .saveCompletionDetails 0 10,
    .sendMessage 0 [0, 1, 7], .sendMessage 1 [0, 1, 8],
    .completeResponse ⟨some 1, some [5]⟩, .completeResponse ⟨some 9, some [6]⟩,
    .completeResponse ⟨some 1, some [7]⟩]

theorem crossing_calls_are_told_apart :
    ∃ channel, run (step fun _ text => text) (created fun _ => []) crossingCalls =
        some channel ∧
      channel.completions = [⟨1, 20, [5]⟩] ∧ Awaited crossingCalls 0 10 ∧
      ∀ next, step (fun _ text => text) channel (.completeResponse ⟨some 0, some [8]⟩) =
          some next → next.completions = channel.completions ++ [⟨0, 10, [8]⟩] := by
  obtain ⟨channel, ran, completions, first⟩ : ∃ channel,
      run (step fun _ text => text) (created fun _ => []) crossingCalls = some channel ∧
        channel.completions = [⟨1, 20, [5]⟩] ∧
        channel.pendingCalls.lookup 0 = some ⟨[0, 1, 7], 10⟩ := ⟨_, rfl, rfl, rfl⟩
  rcases results_complete_their_own_calls (fun _ text => text) (fun _ => []) crossingCalls
    channel ran (by decide) with ⟨pending, -, completes⟩
  have awaited : Awaited crossingCalls 0 10 := (pending 0 10).mp ⟨⟨[0, 1, 7], 10⟩, first, rfl⟩
  refine ⟨channel, ran, completions, awaited, ?_⟩
  intro next stepped
  exact ((completes _ next stepped).1 10 awaited).1

/-- `next_buffer` is called again before the first buffer has come, and both calls have the
buffer of the surface as their response. -/
def sharedResponse : List (Event Text) :=
  [.nextId 0, .saveCompletionDetails 0 10, .sendMessage 0 [0, 1, 7],
    .nextId 1, .saveCompletionDetails 1 10, .sendMessage 1 [0, 1, 8]]

theorem result_changes_shared_response :
    ∃ channel next, run (step fun _ text => text) (created fun _ => []) sharedResponse =
        some channel ∧
      step (fun _ text => text) channel (.completeResponse ⟨some 0, some [5]⟩) = some next ∧
      Awaited sharedResponse 1 10 ∧ channel.messages 10 = [] ∧ next.messages 10 = [5] := by
  refine ⟨_, _, rfl, rfl, ⟨sharedResponse.take 4, [.sendMessage 1 [0, 1, 8]], rfl, ?_⟩, rfl, rfl⟩
  intro result member
  cases List.mem_singleton.mp member

end Results

end Mir.PendingCalls
