import Mir.InputDelivery

/-!
# A client that finishes its events gets all of them

The dispatcher goes on when it hears that an event is finished. A client may lag behind, and its
signals pass through the pipe, the queue of the commands and the policy; but no signal is dropped
while its entry waits, so that a server with nothing left to do has nothing left to send.
-/

namespace Mir.InputCompletion

open Mir.InputEvents Mir.InputStates Mir.DispatchCycle Mir.InputDelivery Mir.TransitionRuns

set_option autoImplicit false

def numbers (entries : List DispatchEntry) : List UInt32 := entries.map DispatchEntry.seq

section Signals

variable {Thread : Type} {server next : Server Thread} {finished : List UInt32}
variable {sent : List DispatchEntry}

/-- Where the signal for an entry can be. -/
inductive Finishing (server : Server Thread) (seq : UInt32) : Prop where
  | inPipe (handled : Bool) (member : InputMessage.finished seq handled ∈ server.toServer)
  | inCommands (handled : Bool)
      (member : Command.dispatchCycleFinished seq handled ∈ server.commands)
  | inPolicy (thread : Thread) (asking : Asking) (present : server.asking thread = some asking)
      (same : asking.seq = seq)

/-- Only published entries are finished, and while one of them waits its signal is on the way. -/
structure Honoured (finished : List UInt32) (server : Server Thread) : Prop where
  known : ∀ seq ∈ finished, seq ∈ numbers server.published
  signalled : ∀ seq ∈ finished, seq ∈ numbers server.connection.waitQueue → Finishing server seq

/-- As long as the counter has not wrapped. -/
structure Keeps (finished : List UInt32) (server next : Server Thread) : Prop where
  later : server.sNextSeq ≤ next.sNextSeq
  honoured : next.sNextSeq ≤ UInt32.size → Honoured finished server → Honoured finished next

theorem keeps_trans {middle : Server Thread} (first : Keeps finished server middle)
    (second : Keeps finished middle next) : Keeps finished server next :=
  ⟨first.later.trans second.later, fun bounded honoured =>
    second.honoured bounded (first.honoured (second.later.trans bounded) honoured)⟩

theorem finishing_mono (server : Server Thread) {seq : UInt32}
    (toServer : server.toServer ⊆ next.toServer) (commands : server.commands ⊆ next.commands)
    (asking : next.asking = server.asking) (finishing : Finishing server seq) :
    Finishing next seq := by
  cases finishing with
  | inPipe handled member => exact .inPipe handled (toServer member)
  | inCommands handled member => exact .inCommands handled (commands member)
  | inPolicy thread asked present same => exact .inPolicy thread asked (asking ▸ present) same

theorem frame_keeps (later : server.sNextSeq ≤ next.sNextSeq)
    (published : next.published = server.published)
    (waits : next.connection.waitQueue = server.connection.waitQueue)
    (toServer : server.toServer ⊆ next.toServer) (commands : next.commands = server.commands)
    (asking : next.asking = server.asking) : Keeps finished server next := by
  refine ⟨later, fun _ honoured => ⟨?_, ?_⟩⟩
  · rw [published]
    exact honoured.known
  · rw [waits]
    intro seq member waiting
    have all : server.commands ⊆ next.commands := by
      rw [commands]
      exact List.Subset.refl _
    exact finishing_mono server toServer all asking (honoured.signalled seq member waiting)

theorem queues_keeps (queues : Queues server next) : Keeps finished server next := by
  apply frame_keeps queues.later queues.published queues.waits _ queues.commands queues.asking
  rw [queues.toServer]
  exact List.Subset.refl _

/-! ## Publishing -/

/-- The server has published `sent`, and may have given up the connection. -/
structure Sends (server : Server Thread) (sent : List DispatchEntry) (next : Server Thread) :
    Prop where
  counter : next.sNextSeq = server.sNextSeq
  toServer : server.toServer ⊆ next.toServer
  commands : server.commands ⊆ next.commands
  asking : next.asking = server.asking
  published : next.published = server.published ++ sent
  waits : next.connection.waitQueue = [] ∨
    next.connection.waitQueue = server.connection.waitQueue ++ sent

theorem sends_nothing {registered : Bool} (same : next = { server with registered := registered }) :
    Sends server [] next := by
  subst same
  exact ⟨rfl, List.Subset.refl _, List.Subset.refl _, rfl, (List.append_nil _).symm,
    Or.inr (List.append_nil _).symm⟩

theorem sends_aborted {notify : Bool} (sends : Sends server sent next) :
    Sends server sent (abortBrokenDispatchCycle notify next) := by
  unfold abortBrokenDispatchCycle drain
  dsimp only
  split
  · refine ⟨sends.counter, sends.toServer, ?_, sends.asking, sends.published, Or.inl rfl⟩
    dsimp only
    split
    · exact List.Subset.trans sends.commands (List.subset_append_left _ _)
    · exact sends.commands
  · exact ⟨sends.counter, sends.toServer, sends.commands, sends.asking, sends.published,
      Or.inl rfl⟩

theorem start_sends (currentTime : Int) (socket : Socket) (server : Server Thread) :
    ∃ sent, Sends server sent (startDispatchCycle currentTime socket server) ∧
      (sent ≠ [] → server.connection.status = .normal ∧
        numbers sent ⊆ numbers server.connection.outboundQueue) := by
  unfold startDispatchCycle
  dsimp only
  split
  · rename_i normal
    cases published : publishing currentTime socket.refusal socket.room
        server.connection.outboundQueue with
    | mk sent rests =>
        obtain ⟨left, error⟩ := rests
        have tickets := (publishing_splits published).1
        have queued : numbers sent ⊆ numbers server.connection.outboundQueue := by
          rw [numbers, numbers, seq_tickets, seq_tickets, ← tickets, List.map_append]
          exact List.subset_append_left _ _
        refine ⟨sent, ?_, fun _ => ⟨normal, queued⟩⟩
        have toServer : server.toServer ⊆ server.toServer := List.Subset.refl _
        have commands : server.commands ⊆ server.commands := List.Subset.refl _
        dsimp only
        cases error with
        | none => exact ⟨rfl, toServer, commands, rfl, rfl, Or.inr rfl⟩
        | some refusal =>
            cases refusal with
            | other => exact sends_aborted ⟨rfl, toServer, commands, rfl, rfl, Or.inr rfl⟩
            | wouldBlock =>
                dsimp only
                split
                · exact sends_aborted ⟨rfl, toServer, commands, rfl, rfl, Or.inr rfl⟩
                · exact ⟨rfl, toServer, commands, rfl, rfl, Or.inr rfl⟩
  · exact ⟨[], sends_nothing rfl, fun nonempty => absurd rfl nonempty⟩

theorem sends_keeps (sends : Sends server sent next)
    (fresh : next.sNextSeq ≤ UInt32.size → ∀ seq ∈ numbers sent, seq ∉ numbers server.published) :
    Keeps finished server next := by
  refine ⟨Nat.le_of_eq sends.counter.symm, fun bounded honoured => ⟨?_, ?_⟩⟩
  · intro seq member
    rw [sends.published, numbers, List.map_append]
    exact List.mem_append_left _ (honoured.known seq member)
  · intro seq member waiting
    rcases sends.waits with empty | more
    · rw [empty] at waiting
      exact absurd waiting List.not_mem_nil
    · rw [more, numbers, List.map_append] at waiting
      rcases List.mem_append.mp waiting with old | new
      · exact finishing_mono server sends.toServer sends.commands sends.asking
          (honoured.signalled seq member old)
      · exact absurd (honoured.known seq member) (fresh bounded seq new)

theorem start_counter (currentTime : Int) (socket : Socket) (server : Server Thread) :
    (startDispatchCycle currentTime socket server).sNextSeq = server.sNextSeq := by
  obtain ⟨sent, sends, -⟩ := start_sends currentTime socket server
  exact sends.counter

theorem queued_unpublished {books : Books} {seq : UInt32} (core : Core books)
    (bounded : books.sNextSeq ≤ UInt32.size) (normal : books.status = .normal)
    (queued : seq ∈ numbers books.outbound) : seq ∉ numbers books.published := by
  have apart := enqueued_apart core bounded
  rw [seq_tickets, ← (core.normal normal).2, List.map_append] at apart
  rw [numbers, seq_tickets] at queued ⊢
  exact fun published => (List.disjoint_of_nodup_append apart) published queued

theorem start_keeps (currentTime : Int) (socket : Socket) (core : Core (books server)) :
    Keeps finished server (startDispatchCycle currentTime socket server) := by
  obtain ⟨sent, sends, queued⟩ := start_sends currentTime socket server
  apply sends_keeps sends
  intro bounded seq new
  have nonempty : sent ≠ [] := by
    rintro rfl
    exact List.not_mem_nil new
  obtain ⟨normal, outbound⟩ := queued nonempty
  rw [sends.counter] at bounded
  exact queued_unpublished core bounded normal (outbound new)

theorem prepare_keeps (currentTime : Int) (event : EventEntry) (target : InputTarget)
    (socket : Socket) (core : Core (books server)) :
    Keeps finished server (prepareDispatchCycle currentTime event target socket server) := by
  rcases prepare_cases currentTime event target socket server with
    same | ⟨queued, queues, kept, started | ⟨stayed, -⟩⟩
  · rw [same]
    exact ⟨Nat.le_refl _, fun _ honoured => honoured⟩
  · rw [started]
    exact keeps_trans (queues_keeps queues) (start_keeps currentTime socket (kept core))
  · rw [stayed]
    exact queues_keeps queues

theorem cancel_keeps (currentTime : Int) (options : CancelationOptions) (target : InputTarget)
    (socket : Socket) (core : Core (books server)) (live : server.connection.status ≠ .zombie) :
    Keeps finished server
      (synthesizeCancelationEventsForConnection currentTime options target socket server) := by
  rcases cancel_cases currentTime options target socket server with
    same | ⟨queued, queues, kept, started⟩
  · rw [same]
    exact ⟨Nat.le_refl _, fun _ honoured => honoured⟩
  · rw [started]
    exact keeps_trans (queues_keeps queues) (start_keeps currentTime socket (kept live core))

/-! ## Signals -/

theorem honoured_dropped {message : InputMessage} {rest : List InputMessage}
    (honoured : Honoured finished { server with toServer := message :: rest })
    (other : ∀ seq handled, message ≠ .finished seq handled) :
    Honoured finished { server with toServer := rest } := by
  refine ⟨honoured.known, fun seq member waiting => ?_⟩
  cases honoured.signalled seq member waiting with
  | inPipe handled listed =>
      rcases List.mem_cons.mp listed with first | later
      · exact absurd first.symm (other seq handled)
      · exact .inPipe handled later
  | inCommands handled listed => exact .inCommands handled listed
  | inPolicy thread asking present same => exact .inPolicy thread asking present same

/-- The loop over the messages in the pipe. A connection that has been given up has nothing that
waits. -/
theorem receiving_honoured (messages : List InputMessage)
    (stopped : server.connection.status ≠ .normal → server.connection.waitQueue = [])
    (honoured : Honoured finished { server with toServer := messages }) :
    Honoured finished (receiving messages server) := by
  induction messages generalizing server with
  | nil => exact honoured
  | cons message rest ih =>
      cases message with
      | finished done handled =>
          rw [receiving]
          by_cases normal : server.connection.status = .normal
          · have noted : finishDispatchCycle done handled server =
                { server with
                  connection := { server.connection with inputPublisherBlocked := false }
                  commands := server.commands ++ [.dispatchCycleFinished done handled] } := by
              simp only [finishDispatchCycle, if_pos normal]
            rw [noted]
            refine ih (fun other => absurd normal other) ⟨honoured.known, ?_⟩
            intro seq member waiting
            cases honoured.signalled seq member waiting with
            | inPipe kept listed =>
                rcases List.mem_cons.mp listed with first | later
                · cases first
                  exact .inCommands handled (List.mem_append_right _ List.mem_cons_self)
                · exact .inPipe kept later
            | inCommands kept listed => exact .inCommands kept (List.mem_append_left _ listed)
            | inPolicy thread asking present same => exact .inPolicy thread asking present same
          · have ignored : finishDispatchCycle done handled server =
                { server with
                  connection := { server.connection with inputPublisherBlocked := false } } := by
              simp only [finishDispatchCycle, if_neg normal]
            rw [ignored]
            refine ih stopped ⟨honoured.known, ?_⟩
            intro seq member waiting
            have left : seq ∈ numbers server.connection.waitQueue := waiting
            rw [stopped normal] at left
            exact absurd left List.not_mem_nil
      | key body => exact honoured_dropped honoured (fun _ _ same => by cases same)
      | motion body => exact honoured_dropped honoured (fun _ _ same => by cases same)

theorem waiting_apart {books : Books} (core : Core books)
    (bounded : books.sNextSeq ≤ UInt32.size) : (numbers books.wait).Nodup := by
  have apart := enqueued_apart core bounded
  rw [seq_tickets] at apart
  rw [numbers, seq_tickets]
  exact apart.sublist ((core.waits.trans core.begun.sublist).map Prod.fst)

theorem missing_number {connection : Connection} {done : UInt32}
    (missing : findWaitQueueEntry connection done = none) :
    done ∉ numbers connection.waitQueue := by
  intro waiting
  obtain ⟨entry, listed, same⟩ := List.mem_map.mp waiting
  exact List.find?_eq_none.mp missing entry listed (decide_eq_true same)

theorem erase_number {entries : List DispatchEntry} {done seq : UInt32}
    (apart : (numbers entries).Nodup)
    (left : seq ∈ numbers (entries.eraseP fun entry => entry.seq = done)) :
    seq ≠ done ∧ seq ∈ numbers entries := by
  induction entries with
  | nil => exact absurd left List.not_mem_nil
  | cons entry rest ih =>
      obtain ⟨fresh, later⟩ := List.nodup_cons.mp apart
      by_cases same : entry.seq = done
      · rw [List.eraseP_cons_of_pos (by simpa using same)] at left
        exact ⟨fun again => fresh (same ▸ again ▸ left), List.mem_cons_of_mem _ left⟩
      · rw [List.eraseP_cons_of_neg (by simpa using same)] at left
        rcases List.mem_cons.mp left with rfl | member
        · exact ⟨same, List.mem_cons_self⟩
        · obtain ⟨other, kept⟩ := ih later member
          exact ⟨other, List.mem_cons_of_mem _ kept⟩

theorem complete_honoured {done : UInt32} (currentTime : Int) (socket : Socket)
    (core : Core (books server)) (bounded : server.sNextSeq ≤ UInt32.size)
    (known : ∀ seq ∈ finished, seq ∈ numbers server.published)
    (others : ∀ seq ∈ finished, seq ≠ done → seq ∈ numbers server.connection.waitQueue →
      Finishing server seq) :
    Honoured finished (completeDispatch currentTime socket done server) := by
  unfold completeDispatch
  dsimp only
  split
  · rename_i entry found
    have counter := start_counter currentTime socket
      { server with
        connection := { server.connection with
          waitQueue := server.connection.waitQueue.eraseP fun entry => entry.seq = done }
        released := server.released ++ [entry] }
    apply (start_keeps currentTime socket (core_finished core found)).honoured
    · exact (Nat.le_of_eq counter).trans bounded
    · refine ⟨known, fun seq member waiting => ?_⟩
      obtain ⟨other, kept⟩ := erase_number (waiting_apart core bounded) waiting
      exact finishing_mono server (List.Subset.refl _) (List.Subset.refl _) rfl
        (others seq member other kept)
  · rename_i missing
    apply (start_keeps currentTime socket core).honoured
    · exact (Nat.le_of_eq (start_counter currentTime socket server)).trans bounded
    · refine ⟨known, fun seq member waiting => others seq member ?_ waiting⟩
      rintro rfl
      exact missing_number missing waiting

/-! ## One step -/

def signal : Event Thread → Option UInt32
  | .clientSends (.finished seq _) => some seq
  | _ => none

def signals (events : List (Event Thread)) : List UInt32 := events.filterMap signal

/-- The client finishes only what was published. -/
def answersPublished (server : Server Thread) (event : Event Thread) : Bool :=
  (signal event).all fun seq => (numbers server.published).contains seq

theorem signals_snoc (events : List (Event Thread)) (event : Event Thread) :
    signals (events ++ [event]) = signals events ++ (signal event).toList := by
  rw [signals, List.filterMap_append]
  cases heard : signal event <;> simp [signals, heard]

theorem signal_some {event : Event Thread} {seq : UInt32} (heard : signal event = some seq) :
    ∃ handled, event = .clientSends (.finished seq handled) := by
  unfold signal at heard
  split at heard
  · cases heard
    exact ⟨_, rfl⟩
  · cases heard

variable [DecidableEq Thread]

theorem begin_honoured {thread : Thread} {done : UInt32} {handled : Bool} (currentTime : Int)
    (socket : Socket) (steady : Steady server) (bounded : server.sNextSeq ≤ UInt32.size)
    (idle : server.asking thread = none)
    (known : ∀ seq ∈ finished, seq ∈ numbers server.published)
    (others : ∀ seq ∈ finished, seq ≠ done → seq ∈ numbers server.connection.waitQueue →
      Finishing server seq) :
    Honoured finished (beginFinished thread currentTime socket done handled server) := by
  have core := steady.sound.toCore
  unfold beginFinished
  split
  · rename_i missing
    refine ⟨known, fun seq member waiting => others seq member ?_ waiting⟩
    rintro rfl
    exact missing_number missing waiting
  · rename_i entry found
    obtain ⟨same, latched, -⟩ := after_event entry handled core.unlatched
    have relatched := core_relatched core same latched
    dsimp only
    split
    · refine complete_honoured currentTime socket relatched bounded known ?_
      intro seq member other waiting
      exact finishing_mono server (List.Subset.refl _) (List.Subset.refl _) rfl
        (others seq member other waiting)
    · rename_i question asked
      refine ⟨known, fun seq member waiting => ?_⟩
      by_cases own : seq = done
      · exact .inPolicy thread ⟨done, question⟩ (Function.update_self ..) own.symm
      · cases others seq member own waiting with
        | inPipe kept listed => exact .inPipe kept listed
        | inCommands kept listed => exact .inCommands kept listed
        | inPolicy other asking present same =>
            have apart : other ≠ thread := by
              rintro rfl
              rw [idle] at present
              cases present
            exact .inPolicy other asking ((Function.update_of_ne apart ..).trans present) same

theorem run_command_honoured {thread : Thread} {currentTime : Int} {socket : Socket}
    (steady : Steady server) (bounded : server.sNextSeq ≤ UInt32.size)
    (idle : server.asking thread = none)
    (ran : runCommand thread currentTime socket server = some next)
    (honoured : Honoured finished server) : Honoured finished next := by
  unfold runCommand at ran
  split at ran
  · cases ran
  · rename_i rest commands
    cases ran
    refine ⟨honoured.known, fun seq member waiting => ?_⟩
    cases honoured.signalled seq member waiting with
    | inPipe kept listed => exact .inPipe kept listed
    | inCommands kept listed =>
        rw [commands] at listed
        rcases List.mem_cons.mp listed with first | later
        · cases first
        · exact .inCommands kept later
    | inPolicy other asking present same => exact .inPolicy other asking present same
  · rename_i done handled rest commands
    cases ran
    refine begin_honoured currentTime socket ⟨steady.sound, steady.settled⟩ bounded idle
      honoured.known ?_
    intro seq member other waiting
    cases honoured.signalled seq member waiting with
    | inPipe kept listed => exact .inPipe kept listed
    | inCommands kept listed =>
        rw [commands] at listed
        rcases List.mem_cons.mp listed with first | later
        · cases first
          exact absurd rfl other
        · exact .inCommands kept later
    | inPolicy asker asking present same => exact .inPolicy asker asking present same

theorem answered_honoured {thread : Thread} {currentTime : Int} {target : InputTarget}
    {socket : Socket} (steady : Steady server) (bounded : server.sNextSeq ≤ UInt32.size)
    (stepped : answered thread currentTime target socket server = some next)
    (honoured : Honoured finished server) : Honoured finished next := by
  unfold answered at stepped
  split at stepped
  · cases stepped
  · rename_i asking present
    cases stepped
    obtain ⟨inputState, same, latched, after⟩ := after_policy
      { server with asking := Function.update server.asking thread none } currentTime target socket
      (steady.settled thread asking present) steady.sound.unlatched
    rw [after]
    refine complete_honoured currentTime socket (core_relatched steady.sound.toCore same latched)
      bounded honoured.known ?_
    intro seq member other waiting
    cases honoured.signalled seq member waiting with
    | inPipe kept listed => exact .inPipe kept listed
    | inCommands kept listed => exact .inCommands kept listed
    | inPolicy asker asked shown number =>
        have apart : asker ≠ thread := by
          rintro rfl
          rw [present] at shown
          cases shown
          exact other number.symm
        exact .inPolicy asker asked ((Function.update_of_ne apart ..).trans shown) number

omit [DecidableEq Thread] in
theorem complete_counter (currentTime : Int) (socket : Socket) (done : UInt32)
    (server : Server Thread) :
    (completeDispatch currentTime socket done server).sNextSeq = server.sNextSeq := by
  unfold completeDispatch
  dsimp only
  split <;> exact start_counter currentTime socket _

theorem run_command_counter {thread : Thread} {currentTime : Int} {socket : Socket}
    (ran : runCommand thread currentTime socket server = some next) :
    next.sNextSeq = server.sNextSeq := by
  unfold runCommand at ran
  split at ran
  · cases ran
  · cases ran
    rfl
  · cases ran
    unfold beginFinished
    split
    · rfl
    · dsimp only
      split
      · exact complete_counter currentTime socket _ _
      · rfl

theorem answered_counter {thread : Thread} {currentTime : Int} {target : InputTarget}
    {socket : Socket} (steady : Steady server)
    (stepped : answered thread currentTime target socket server = some next) :
    next.sNextSeq = server.sNextSeq := by
  unfold answered at stepped
  split at stepped
  · cases stepped
  · rename_i asking present
    cases stepped
    obtain ⟨inputState, -, -, after⟩ := after_policy
      { server with asking := Function.update server.asking thread none } currentTime target socket
      (steady.settled thread asking present) steady.sound.unlatched
    rw [after]
    exact complete_counter currentTime socket _ _

theorem step_keeps {event : Event Thread} (steady : Steady server)
    (stepped : step server event = some next) :
    Keeps finished server next := by
  cases event with
  | dispatch currentTime event target socket =>
      obtain ⟨-, taken⟩ := Option.ite_none_right_eq_some.mp stepped
      cases taken
      exact prepare_keeps currentTime event target socket steady.sound.toCore
  | cancel currentTime options target socket =>
      obtain ⟨registered, taken⟩ := Option.ite_none_right_eq_some.mp stepped
      cases taken
      exact cancel_keeps currentTime options target socket steady.sound.toCore
        (steady.sound.live registered)
  | numbered =>
      cases stepped
      exact frame_keeps (Nat.le_of_lt (next_seq_grows server.sNextSeq)) rfl rfl
        (List.Subset.refl _) rfl rfl
  | receive =>
      obtain ⟨-, taken⟩ := Option.ite_none_right_eq_some.mp stepped
      cases taken
      have counter := congrArg Books.sNextSeq (receiving_books server.toServer server).1
      exact ⟨Nat.le_of_eq counter.symm, fun _ honoured => receiving_honoured server.toServer
        (fun other => (steady.sound.stopped other).2) honoured⟩
  | runCommand thread currentTime socket =>
      obtain ⟨idle, ran⟩ := Option.ite_none_right_eq_some.mp stepped
      have counter := run_command_counter ran
      exact ⟨Nat.le_of_eq counter.symm, fun bounded honoured =>
        run_command_honoured steady (counter ▸ bounded) idle ran honoured⟩
  | answered thread currentTime target socket =>
      have counter := answered_counter steady stepped
      exact ⟨Nat.le_of_eq counter.symm, fun bounded honoured =>
        answered_honoured steady (counter ▸ bounded) stepped honoured⟩
  | unregister notify =>
      obtain ⟨-, taken⟩ := Option.ite_none_right_eq_some.mp stepped
      cases taken
      exact sends_keeps (sends_aborted (sends_nothing rfl)) fun _ => List.forall_mem_nil _
  | zombie =>
      obtain ⟨-, taken⟩ := Option.ite_none_left_eq_some.mp stepped
      cases taken
      exact frame_keeps (Nat.le_refl _) rfl rfl (List.Subset.refl _) rfl rfl
  | clientReads count =>
      obtain ⟨-, taken⟩ := Option.ite_none_right_eq_some.mp stepped
      cases taken
      exact frame_keeps (Nat.le_refl _) rfl rfl (List.Subset.refl _) rfl rfl
  | clientSends message =>
      cases stepped
      exact frame_keeps (Nat.le_refl _) rfl rfl (List.subset_append_left _ _) rfl rfl

theorem signalled_honoured {seq : UInt32} {handled : Bool}
    (published : seq ∈ numbers server.published)
    (stepped : step server (.clientSends (.finished seq handled)) = some next)
    (honoured : Honoured finished server) : Honoured (finished ++ [seq]) next := by
  cases stepped
  refine ⟨?_, ?_⟩
  · intro other member
    rcases List.mem_append.mp member with old | new
    · exact honoured.known other old
    · rw [List.mem_singleton.mp new]
      exact published
  · intro other member waiting
    rcases List.mem_append.mp member with old | new
    · exact finishing_mono server (List.subset_append_left _ _) (List.Subset.refl _) rfl
        (honoured.signalled other old waiting)
    · rw [List.mem_singleton.mp new]
      exact .inPipe handled (List.mem_append_right _ List.mem_cons_self)

end Signals

section Runs

variable {Thread : Type} [DecidableEq Thread] {sNextSeq : Nat} {events : List (Event Thread)}
variable {finish : Server Thread}

theorem run_honoured
    (ran : run (restrict answersPublished step) (registering sNextSeq) events = some finish) :
    Steady finish ∧ (finish.sNextSeq ≤ UInt32.size → Honoured (signals events) finish) := by
  apply run_history_invariant (fun history state => Steady state ∧
    (state.sNextSeq ≤ UInt32.size → Honoured (signals history) state)) _ _ ran
  · exact ⟨⟨registering_sound sNextSeq, fun _ _ asked => by cases asked⟩,
      fun _ => ⟨List.forall_mem_nil _, List.forall_mem_nil _⟩⟩
  · rintro history server event next ⟨steady, honoured⟩ allowed
    obtain ⟨published, stepped⟩ := restrict_some.mp allowed
    refine ⟨step_steady steady stepped, fun bounded => ?_⟩
    have keeps : Keeps (signals history) server next := step_keeps steady stepped
    have before := honoured (keeps.later.trans bounded)
    rw [signals_snoc]
    cases heard : signal event with
    | none =>
        rw [Option.toList_none, List.append_nil]
        exact keeps.honoured bounded before
    | some seq =>
        obtain ⟨handled, rfl⟩ := signal_some heard
        rw [Option.toList_some]
        have known : seq ∈ numbers server.published := by
          simpa [answersPublished, heard] using published
        exact signalled_honoured known stepped before

/-- No signal of the client is dropped while its entry waits. A client that has finished all
that was published to it has got all that was queued for it, once the server has heard of it
and has nothing left to do. -/
theorem finished_client_gets_everything
    (ran : run (restrict answersPublished step) (registering sNextSeq) events = some finish)
    (bounded : finish.sNextSeq ≤ UInt32.size) :
    (∀ seq ∈ signals events, seq ∈ numbers finish.connection.waitQueue → Finishing finish seq) ∧
      (finish.connection.status = .normal →
        finish.toServer = [] ∧ finish.commands = [] ∧
          (∀ thread, finish.asking thread = none) →
        (∀ seq ∈ numbers finish.published, seq ∈ signals events) →
          finish.connection.outboundQueue = [] ∧ finish.connection.waitQueue = [] ∧
            tickets finish.published = tickets finish.enqueued) := by
  obtain ⟨steady, honoured⟩ := run_honoured ran
  refine ⟨(honoured bounded).signalled, ?_⟩
  rintro normal ⟨pipe, commands, policy⟩ finished
  have core := steady.sound.toCore
  have waits : finish.connection.waitQueue = [] := by
    apply List.eq_nil_iff_forall_not_mem.mpr
    intro entry waiting
    have waits : entry.seq ∈ numbers finish.connection.waitQueue := List.mem_map_of_mem waiting
    have published : entry.seq ∈ numbers finish.published := by
      rw [numbers, seq_tickets] at waits ⊢
      exact (core.waits.map Prod.fst).subset waits
    cases (honoured bounded).signalled entry.seq (finished entry.seq published) waits with
    | inPipe handled listed =>
        rw [pipe] at listed
        exact List.not_mem_nil listed
    | inCommands handled listed =>
        rw [commands] at listed
        exact List.not_mem_nil listed
    | inPolicy thread asking present same =>
        rw [policy thread] at present
        cases present
  have outbound : finish.connection.outboundQueue = [] := by
    by_contra queued
    exact steady.sound.going queued waits
  have complete : tickets finish.published ++ tickets finish.connection.outboundQueue =
      tickets finish.enqueued := (core.normal normal).2
  rw [outbound] at complete
  exact ⟨outbound, waits, (List.append_nil _).symm.trans complete⟩

/-- The second event waits for room in the pipe. The policy is asked twice. -/
def slowClient : List (Event Unit) :=
  [.dispatch 10 (.key (backKey .down 10)) foreground ⟨1, .wouldBlock⟩,
    .dispatch 20 (.key (backKey .up 20)) foreground ⟨0, .wouldBlock⟩,
    .clientReads 1, .clientSends (.finished 1 false), .receive,
    .runCommand () 30 ⟨4, .wouldBlock⟩, .answered () 40 foreground ⟨4, .wouldBlock⟩,
    .clientReads 1, .clientSends (.finished 2 true), .receive,
    .runCommand () 50 ⟨4, .wouldBlock⟩, .answered () 60 foreground ⟨4, .wouldBlock⟩]

theorem slow_client_gets_everything : ∃ finish,
    run (restrict answersPublished step) (registering 1) slowClient = some finish ∧
      numbers finish.published = [1, 2] ∧ finish.connection.outboundQueue = [] ∧
      finish.connection.waitQueue = [] ∧ tickets finish.published = tickets finish.enqueued := by
  have state : (run (restrict answersPublished step) (registering 1) slowClient).map
      (fun finish => (finish.sNextSeq, finish.connection.status, numbers finish.published,
        finish.toServer.isEmpty && finish.commands.isEmpty && (finish.asking ()).isNone)) =
      some (3, .normal, [1, 2], true) := by
    decide +kernel
  obtain ⟨finish, ran, facts⟩ := Option.map_eq_some_iff.mp state
  simp only [Prod.mk.injEq, Bool.and_eq_true, List.isEmpty_iff, Option.isNone_iff_eq_none]
    at facts
  obtain ⟨counter, normal, published, ⟨pipe, commands⟩, policy⟩ := facts
  have bounded : finish.sNextSeq ≤ UInt32.size := by
    rw [counter]
    decide
  have finished : ∀ seq ∈ numbers finish.published, seq ∈ signals slowClient := by
    have both : signals slowClient = [1, 2] := rfl
    rw [published, both]
    exact fun _ member => member
  exact ⟨finish, ran, published, (finished_client_gets_everything ran bounded).2 normal
    ⟨pipe, commands, fun _ => policy⟩ finished⟩

end Runs

end Mir.InputCompletion
