import Mir.SessionMediator

/-!
# The replies of the server

What a client's message leads to: for any display server that keeps to the calling
convention of the service, and for the session mediator with any message whatsoever.
-/

namespace Mir.RequestReplies

open Mir.ProtocolMessages Mir.RequestMessages Mir.ResponseStream Mir.Computations
open Mir.MessageProcessor Mir.SessionMediator Mir.MessageEncoding

set_option autoImplicit false

variable {Server Resource World SurfaceRef BufferRef : Type}

section Conventions

/-- The `Result` is followed by the descriptors that were taken out of the response, and
then by the release of what was saved for it, if its overload releases it. The client
finds the invocation's id, and an error if the method threw. -/
structure Replied (protobuf : Protobuf) (id : UInt32) (key : MessageAddress)
    (handled : Handled Server Resource Response) (before after : Processor Server Resource) :
    Prop where
  effects : ∃ body fds response,
    after.effects = before.effects ++ handled.saved.map (.saved key) ++
      (.sent (.message body) :: (sendFds fds).map .sent) ++
      (if isFreed handled.response then [.freed key] else []) ∧
    fds = (prepareResponse handled.response).1 ∧
    protobuf.codec.parseResult body = ⟨some id, some (protobuf.codec.serialize response)⟩ ∧
    response.resultType = handled.response.resultType ∧
    ((error response).isSome ↔ handled.thrown.isSome)
  cached : ∀ other, other ∈ after.resources ↔
    (other = key → isFreed handled.response = false) ∧
      ((other = key ∧ handled.saved ≠ []) ∨ other ∈ before.resources)

theorem prepared_error (response : Response) :
    error (prepareResponse response).2 = error response := by
  cases response with
  | connection message => cases platform : message.platform <;>
      simp [prepareResponse, platform, error]
  | surface message => cases buffer : message.buffer <;> simp [prepareResponse, buffer, error]
  | _ => rfl

theorem prepared_error_fds (text : Text) (response : Response) :
    (prepareResponse (setError text response)).1 = (prepareResponse response).1 := by
  cases response with
  | connection message => cases platform : message.platform <;>
      simp [prepareResponse, platform, setError]
  | surface message => cases buffer : message.buffer <;> simp [prepareResponse, buffer, setError]
  | _ => rfl

theorem answer_type (protobuf : Protobuf) (handled : Handled Server Resource Response) :
    (answer protobuf handled).resultType = handled.response.resultType := by
  unfold answer
  cases handled.thrown with
  | none => rfl
  | some thrown => cases handled.response <;> rfl

theorem answer_fds (protobuf : Protobuf) (handled : Handled Server Resource Response) :
    (prepareResponse (answer protobuf handled)).1 = (prepareResponse handled.response).1 := by
  unfold answer
  cases handled.thrown with
  | none => rfl
  | some thrown => exact prepared_error_fds _ _

theorem reply_replied (protobuf : Protobuf) (id : UInt32) (key : MessageAddress)
    {handled : Handled Server Resource Response} (before : Processor Server Resource)
    (unset : error handled.response = none) :
    Replied protobuf id key handled before (reply protobuf id key handled before) where
  effects := by
    refine ⟨resultBody protobuf.codec id (answer protobuf handled),
      (prepareResponse handled.response).1, (prepareResponse (answer protobuf handled)).2,
      ?_, rfl, ?_, ?_, ?_⟩
    · rw [reply_effects, answer_freed, ResponseStream.sendResponse, answer_fds]
      rfl
    · exact protobuf.codec.parse_serialize_result _
    · rw [prepared_type, answer_type]
    · rw [prepared_error, answer_error protobuf unset]
  cached := fun other => reply_cached protobuf id key other handled before

end Conventions

section MediatorOutcomes

/-- A request of the mediator ends with its error unset, and has saved something only if
the reply releases it. The descriptors of a surface are not counted. -/
def Complete (response : Response) (saved : List Package) : Prop :=
  error response = none ∧ (isFreed response = false → saved = []) ∧ SideChannelUnset response

theorem perform_completes {Message : Type} {body : Body World Message Unit}
    {filled : Message → Prop} {kept : List Package → Prop}
    (runs : ∀ session, Triple (Ready session (fun _ => True) filled kept) body
      (fun _ state => filled state.response ∧ kept state.saved)
      (fun _ state => filled state.response ∧ kept state.saved))
    (message : Message) (start : filled message) (empty : kept []) {wrap : Message → Response}
    (complete : ∀ response saved, filled response → kept saved → Complete (wrap response) saved)
    (mediator : Mediator World) :
    ∃ handled, (perform body message mediator).map (Handled.withResponse wrap) = some handled ∧
      Complete handled.response handled.saved := by
  obtain ⟨handled, performed, filled, kept⟩ := perform_of_triple (runs mediator.session)
    message mediator ⟨rfl, trivial, start, empty⟩
  refine ⟨handled.withResponse wrap, by rw [performed]; rfl, ?_⟩
  exact complete handled.response handled.saved filled kept

theorem kept_completes {Message : Type} {body : Body World Message Unit}
    {filled : Message → Prop} {kept : List Package → Prop}
    (keeps : ∀ session, Keeps (Ready session (fun _ => True) filled kept) body)
    (message : Message) (start : filled message) (empty : kept []) {wrap : Message → Response}
    (complete : ∀ response saved, filled response → kept saved → Complete (wrap response) saved)
    (mediator : Mediator World) :
    ∃ handled, (perform body message mediator).map (Handled.withResponse wrap) = some handled ∧
      Complete handled.response handled.saved :=
  perform_completes (fun session => triple_implies (keeps session) fun _ ready =>
    ⟨ready.response, ready.saved⟩) message start empty complete mediator

variable (frontend : Frontend World SurfaceRef BufferRef)

theorem preserves_trivially : Preserves frontend fun _ => True :=
  fun _ _ _ _ _ => trivial

theorem connect_settles (request : ConnectParameters) (session : Option ShellSessions.SessionKey) :
    Triple (Ready session (fun _ => True) (unset Connection.error) fun _ => True)
      (connect frontend request)
      (fun _ state => unset Connection.error state.response ∧ True)
      (fun _ state => unset Connection.error state.response ∧ True) := by
  have opens : Triple (Ready session (fun _ => True) (unset Connection.error) fun _ => True)
      (connect frontend request)
      (fun _ => Connected session (fun _ _ => True) fun _ => True)
      (fun _ => Connected session (fun _ _ => True) fun _ => True) :=
    connect_opens request (fun _ => preserves_trivially frontend) (fun _ _ _ _ _ => trivial)
      (fun _ _ _ _ _ => trivial)
  apply triple_implies opens
  rintro state (ready | ⟨key, ready⟩)
  · exact ⟨ready.response, trivial⟩
  · exact ⟨ready.response, trivial⟩

theorem disconnect_settles (session : Option ShellSessions.SessionKey) :
    Triple (Ready session (fun _ => True) (unset Void.error) fun saved => saved = [])
      (disconnect frontend)
      (fun _ state => unset Void.error state.response ∧ state.saved = [])
      (fun _ state => unset Void.error state.response ∧ state.saved = []) := by
  have closes : Triple
      (Ready session (fun _ => True) (unset Void.error) fun saved => saved = [])
      (disconnect frontend)
      (fun _ => Disconnected session (fun _ => True) (fun _ => True) fun _ => True)
      (fun _ => Disconnected session (fun _ => True) (fun _ => True) fun _ => True) :=
    disconnect_closes (fun _ _ _ _ _ _ => trivial) (fun _ _ _ _ _ _ _ => trivial)
  apply triple_implies closes
  rintro state (⟨-, ready⟩ | ⟨key, -, ready | ready⟩)
  all_goals exact ⟨ready.response, ready.saved⟩

variable (protobuf : Protobuf) (build : Build)

theorem mediator_completes {method : Method} (overridden : method ≠ .testFileDescriptors)
    (parameters : Text) (mediator : Mediator World) :
    ∃ handled, handle protobuf (sessionMediator build frontend) method parameters mediator =
      some handled ∧ Complete handled.response handled.saved := by
  have preserves := preserves_trivially frontend
  have undisturbed := undisturbed_of_preserves preserves
  cases method with
  | connect =>
      apply perform_completes (connect_settles frontend _) {} rfl trivial
      exact fun _ _ unset _ => ⟨unset, nofun, trivial⟩
  | createSurface =>
      apply kept_completes (fun _ => create_surface_keeps preserves _) {} ⟨rfl, rfl⟩ trivial
      exact fun _ _ uncounted _ => ⟨uncounted.1, nofun, uncounted.2⟩
  | nextBuffer =>
      apply kept_completes (fun _ => next_buffer_keeps undisturbed _) {} rfl trivial
      exact fun _ _ unset _ => ⟨unset, nofun, trivial⟩
  | releaseSurface =>
      apply kept_completes (fun _ => release_surface_keeps preserves _) {} rfl rfl
      exact fun _ _ unset nothing => ⟨unset, fun _ => nothing, trivial⟩
  | testFileDescriptors => exact absurd rfl overridden
  | drmAuthMagic =>
      apply kept_completes (fun _ => drm_auth_magic_keeps undisturbed _ build) {} rfl rfl
      exact fun _ _ unset nothing => ⟨unset, fun _ => nothing, trivial⟩
  | selectFocusByLightdmId =>
      apply kept_completes (fun _ => select_focus_keeps preserves _) {} rfl rfl
      exact fun _ _ unset nothing => ⟨unset, fun _ => nothing, trivial⟩
  | configureSurface =>
      apply kept_completes (fun _ => configure_surface_keeps undisturbed _) {} rfl rfl
      exact fun _ _ unset nothing => ⟨unset, fun _ => nothing, trivial⟩
  | disconnect =>
      apply perform_completes (disconnect_settles frontend) {} rfl rfl
      exact fun _ _ unset nothing => ⟨unset, fun _ => nothing, trivial⟩

/-- The default method calls through the controller, which is null. -/
theorem test_file_descriptors_undefined (parameters : Text) (mediator : Mediator World) :
    handle protobuf (sessionMediator build frontend) .testFileDescriptors parameters mediator =
      none := rfl

theorem handled_complete {method : Method} {parameters : Text} {mediator : Mediator World}
    {handled : Handled (Mediator World) Package Response}
    (called : handle protobuf (sessionMediator build frontend) method parameters mediator =
      some handled) : Complete handled.response handled.saved := by
  have overridden : method ≠ .testFileDescriptors := by
    rintro rfl
    simp [test_file_descriptors_undefined] at called
  obtain ⟨completed, same, complete⟩ :=
    mediator_completes frontend protobuf build overridden parameters mediator
  rw [called, Option.some.injEq] at same
  rw [same]
  exact complete

end MediatorOutcomes

section OneReply

/-- One `Result` for every known method, whatever the display server does, and none for
the others. What a method saved is gone after the reply if its result is a connection,
a surface or a buffer, and the mediator saves nothing for the others. -/
theorem requests_get_one_reply (protobuf : Protobuf)
    (displayServer : DisplayServer Server Resource) (invocation : Invocation)
    (key : MessageAddress) (state : Processor Server Resource)
    (convention : ∀ method, invocation.method = some method → ∃ handled,
      handle protobuf displayServer method (invocation.parameters.getD []) state.displayServer =
        some handled ∧ error handled.response = none) :
    (∀ method, invocation.method = some method → ∃ handled after,
      handle protobuf displayServer method (invocation.parameters.getD []) state.displayServer =
        some handled ∧
      dispatch protobuf displayServer invocation key state =
        some (decide (method ≠ .disconnect), after) ∧
      Replied protobuf (invocation.id.getD 0) key handled state after) ∧
    (invocation.method = none →
      dispatch protobuf displayServer invocation key state = some (false, state)) ∧
    ∀ (World SurfaceRef BufferRef : Type) (build : Build)
      (frontend : Frontend World SurfaceRef BufferRef) (method : Method) (parameters : Text)
      (mediator : Mediator World) (handled : Handled (Mediator World) Package Response),
      handle protobuf (sessionMediator build frontend) method parameters mediator = some handled →
        isFreed handled.response = false → handled.saved = [] := by
  refine ⟨?_, ?_, ?_⟩
  · intro method named
    obtain ⟨handled, called, unset⟩ := convention method named
    refine ⟨handled, reply protobuf (invocation.id.getD 0) key handled state, called, ?_, ?_⟩
    · rw [dispatch_known protobuf displayServer named, called]
      rfl
    · exact reply_replied protobuf _ key state unset
  · intro unnamed
    exact dispatch_unknown protobuf displayServer unnamed key state
  · intro World SurfaceRef BufferRef build frontend method parameters mediator handled called
    exact (handled_complete frontend protobuf build called).2.1

theorem surface_without_session_gets_one_reply :
    ∃ handled after,
      dispatch plainProtobuf (sessionMediator .gbm smallFrontend)
        ⟨some 3, some (ascii "create_surface"), none⟩ 9 ⟨⟨none, ()⟩, ∅, []⟩ =
          some (true, after) ∧
      handled.thrown = some ⟨"Invalid application session", none⟩ ∧
      Replied plainProtobuf 3 9 handled ⟨⟨none, ()⟩, ∅, []⟩ after := by
  have named : (Invocation.method ⟨some 3, some (ascii "create_surface"), none⟩) =
      some .createSurface := rfl
  obtain ⟨handled, after, called, dispatched, replied⟩ :=
    (requests_get_one_reply plainProtobuf (sessionMediator .gbm smallFrontend)
      ⟨some 3, some (ascii "create_surface"), none⟩ 9 ⟨⟨none, ()⟩, ∅, []⟩ (by
        intro method known
        cases named.symm.trans known
        exact ⟨_, rfl, rfl⟩)).1 _ named
  refine ⟨handled, after, dispatched, ?_, replied⟩
  cases called
  rfl

/-- A display server that saves something for the reply of `release_surface`. -/
def hoardingServer : DisplayServer Unit Unit where
  connect := notImplemented {}
  disconnect := notImplemented {}
  createSurface := notImplemented {}
  nextBuffer := notImplemented {}
  releaseSurface := fun _ _ _ => some ⟨(), {}, [()], none⟩
  selectFocusByLightdmId := notImplemented {}
  drmAuthMagic := notImplemented {}
  testFileDescriptors := notImplemented {}
  configureSurface := notImplemented {}

theorem saved_for_a_release_is_kept :
    ∃ after, dispatch plainProtobuf hoardingServer
        ⟨some 3, some (ascii "release_surface"), none⟩ 9 ⟨(), ∅, []⟩ = some (true, after) ∧
      9 ∈ after.resources := by
  refine ⟨_, rfl, ?_⟩
  decide

end OneReply

section ArbitraryMessages

structure Processed (Resource : Type) where
  result : Bool
  effects : List (Effect Resource)

/-- Messages one after the other, each with the address of its result message. -/
def processMessages (protobuf : Protobuf) (displayServer : DisplayServer Server Resource) :
    List (Text × MessageAddress) → Processor Server Resource →
      Option (List (Processed Resource) × Processor Server Resource)
  | [], state => some ([], state)
  | (body, key) :: rest, state => do
      let (result, after) ← processMessage protobuf displayServer body key state
      let (later, last) ← processMessages protobuf displayServer rest after
      some (⟨result, after.effects.drop state.effects.length⟩ :: later, last)

def isResult : Effect Resource → Bool
  | .sent (.message _) => true
  | _ => false

/-- One `Result` has been sent, or none and the connection is dropped. -/
def Answered (processed : Processed Resource) : Prop :=
  processed.effects.countP isResult = 1 ∨
    (processed.effects.countP isResult = 0 ∧ processed.result = false)

theorem sent_fds_results (fds : List Int32) :
    ((sendFds fds).map (.sent : Item → Effect Resource)).countP isResult = 0 := by
  unfold sendFds
  split_ifs <;> simp [isResult]

theorem reply_results (protobuf : Protobuf) (id : UInt32) (key : MessageAddress)
    (handled : Handled Server Resource Response) (state : Processor Server Resource) :
    ((reply protobuf id key handled state).effects.drop state.effects.length).countP isResult =
      1 := by
  have saves : (handled.saved.map (.saved key : Resource → Effect Resource)).countP isResult =
      0 := by
    rw [List.countP_map, List.countP_eq_zero]
    simp [isResult]
  have frees : (if isFreed (answer protobuf handled) then [Effect.freed key] else [] :
      List (Effect Resource)).countP isResult = 0 := by
    split_ifs <;> simp [isResult]
  rw [reply_effects, List.append_assoc, List.append_assoc, List.drop_left,
    ResponseStream.sendResponse]
  simp only [List.countP_append, List.map_cons, List.countP_cons, saves, frees, sent_fds_results]
  rfl

variable (protobuf : Protobuf) (build : Build) (frontend : Frontend World SurfaceRef BufferRef)

theorem process_message_answers {body : Text}
    (overridden : (protobuf.parser.invocation body).method ≠ some .testFileDescriptors)
    (key : MessageAddress) (state : Processor (Mediator World) Package) :
    ∃ result after,
      processMessage protobuf (sessionMediator build frontend) body key state =
        some (result, after) ∧
      Answered ⟨result, after.effects.drop state.effects.length⟩ := by
  unfold processMessage
  cases named : (protobuf.parser.invocation body).method with
  | none =>
      rw [dispatch_unknown _ _ named]
      exact ⟨false, state, rfl, Or.inr ⟨by simp, rfl⟩⟩
  | some method =>
      have different : method ≠ .testFileDescriptors := by
        rintro rfl
        exact overridden named
      obtain ⟨handled, called, -⟩ := mediator_completes frontend protobuf build different
        ((protobuf.parser.invocation body).parameters.getD []) state.displayServer
      rw [dispatch_known _ _ named, called]
      exact ⟨_, _, rfl, Or.inl (reply_results protobuf _ key handled state)⟩

theorem process_message_undefined {body : Text}
    (default : (protobuf.parser.invocation body).method = some .testFileDescriptors)
    (key : MessageAddress) (state : Processor (Mediator World) Package) :
    processMessage protobuf (sessionMediator build frontend) body key state = none := by
  unfold processMessage
  rw [dispatch_known _ _ default, test_file_descriptors_undefined]
  rfl

/-- Whatever the messages are, the server gets through them and answers each or drops the
connection, exactly when none of them is for `test_file_descriptors`. -/
theorem messages_are_answered_iff (messages : List (Text × MessageAddress))
    (state : Processor (Mediator World) Package) :
    (∃ processed last,
      processMessages protobuf (sessionMediator build frontend) messages state =
        some (processed, last) ∧ ∀ message ∈ processed, Answered message) ↔
    ∀ message ∈ messages,
      (protobuf.parser.invocation message.1).method ≠ some .testFileDescriptors := by
  induction messages generalizing state with
  | nil => simp [processMessages]
  | cons message rest ih =>
      rcases message with ⟨body, key⟩
      by_cases default : (protobuf.parser.invocation body).method = some .testFileDescriptors
      · simp [processMessages, process_message_undefined protobuf build frontend default, default]
      · obtain ⟨result, after, processed, answered⟩ :=
          process_message_answers protobuf build frontend default key state
        have unfolded : processMessages protobuf (sessionMediator build frontend)
            ((body, key) :: rest) state =
              (processMessages protobuf (sessionMediator build frontend) rest after).bind
                fun (later, last) =>
                  some (⟨result, after.effects.drop state.effects.length⟩ :: later, last) := by
          simp only [processMessages, processed]
          rfl
        simp only [List.forall_mem_cons, ne_eq, default, not_false_eq_true, true_and, ← ih after]
        rw [unfolded]
        constructor
        · rintro ⟨all, last, ran, answers⟩
          obtain ⟨⟨later, reached⟩, continued, same⟩ := Option.bind_eq_some_iff.mp ran
          cases same
          exact ⟨later, last, continued, (List.forall_mem_cons.mp answers).2⟩
        · rintro ⟨later, last, ran, answers⟩
          refine ⟨_, last, by rw [ran]; rfl, ?_⟩
          exact List.forall_mem_cons.mpr ⟨answered, answers⟩

/-- A client that sends rubbish, asks for a surface before it is connected, connects and
asks for a buffer of a surface that it does not have. -/
def carelessClient : List (Text × MessageAddress) :=
  [(invocationBody 0 "create_surface" [], 1), (invocationBody 1 "connect" [255], 2),
    (invocationBody 2 "next_buffer" [8, 1], 3), (invocationBody 3 "drm_auth_magic" [], 4),
    ([255, 255, 255], 5)]

theorem careless_client_is_answered :
    ∃ processed last,
      processMessages plainProtobuf (sessionMediator .gbm smallFrontend) carelessClient
        ⟨⟨none, ()⟩, ∅, []⟩ = some (processed, last) ∧
      ∀ message ∈ processed, Answered message := by
  apply (messages_are_answered_iff plainProtobuf .gbm smallFrontend carelessClient _).mpr
  decide

theorem test_file_descriptors_goes_wrong :
    processMessages plainProtobuf (sessionMediator .gbm smallFrontend)
      [(invocationBody 0 "test_file_descriptors" [], 1)] ⟨⟨none, ()⟩, ∅, []⟩ = none := by
  have default : (plainProtobuf.parser.invocation
      (invocationBody 0 "test_file_descriptors" [])).method = some .testFileDescriptors := by
    decide
  simp only [processMessages, process_message_undefined _ _ _ default]
  rfl

end ArbitraryMessages

section Descriptors

theorem answer_fields (protobuf : Protobuf) (handled : Handled Server Resource Response) :
    fdFields (withoutOwnFds (answer protobuf handled)) =
        fdFields (withoutOwnFds handled.response) ∧
      (SideChannelUnset handled.response → SideChannelUnset (answer protobuf handled)) := by
  unfold answer
  cases handled.thrown with
  | none => exact ⟨rfl, id⟩
  | some thrown =>
      cases handled.response with
      | surface message => exact ⟨rfl, id⟩
      | _ => exact ⟨rfl, fun _ => trivial⟩

theorem without_own_fds_iff (response : Response) :
    fdFields (withoutOwnFds response) = fdFields response ↔ ownFds response = [] := by
  cases response with
  | surface message => simp [withoutOwnFds, fdFields, ownFds, eq_comm]
  | _ => simp [withoutOwnFds, ownFds]

variable (protobuf : Protobuf) (build : Build) (frontend : Frontend World SurfaceRef BufferRef)

/-- The client reads the descriptors of a reply of the mediator into the fields they
come from, but for those that a surface has of its own. -/
theorem received_fields {method : Method} {parameters : Text} {mediator : Mediator World}
    {handled : Handled (Mediator World) Package Response}
    (called : handle protobuf (sessionMediator build frontend) method parameters mediator =
      some handled)
    {written : Stream} (unread : Stream)
    (sent : writeItems (sendFds (prepareResponse (answer protobuf handled)).1) = some written) :
    ∃ received,
      receiveFileDescriptors (written ++ unread)
        (protobuf.codec.parse handled.response.resultType
          (protobuf.codec.serialize (prepareResponse (answer protobuf handled)).2)) =
        some (received, unread, sendFds (prepareResponse (answer protobuf handled)).1) ∧
      fdFields received = fdFields (withoutOwnFds handled.response) := by
  have complete := handled_complete frontend protobuf build called
  obtain ⟨fields, counts⟩ := answer_fields protobuf handled
  have parsed : protobuf.codec.parse handled.response.resultType
      (protobuf.codec.serialize (prepareResponse (answer protobuf handled)).2) =
        (prepareResponse (answer protobuf handled)).2 := by
    rw [← answer_type protobuf handled, ← prepared_type]
    exact protobuf.codec.parse_serialize _
  obtain ⟨received, reads, same⟩ := receive_prepared (answer protobuf handled)
    (counts complete.2.2) written unread sent
  exact ⟨received, by rw [parsed, reads], same.trans fields⟩

/-- Every field of the client's response has the descriptors that the server attached to
it exactly when the surface has none of its own. -/
theorem descriptors_arrive_iff {method : Method} {parameters : Text} {mediator : Mediator World}
    {handled : Handled (Mediator World) Package Response}
    (called : handle protobuf (sessionMediator build frontend) method parameters mediator =
      some handled)
    {written : Stream} (unread : Stream)
    (sent : writeItems (sendFds (prepareResponse (answer protobuf handled)).1) = some written) :
    ∃ received,
      receiveFileDescriptors (written ++ unread)
        (protobuf.codec.parse handled.response.resultType
          (protobuf.codec.serialize (prepareResponse (answer protobuf handled)).2)) =
        some (received, unread, sendFds (prepareResponse (answer protobuf handled)).1) ∧
      (fdFields received = fdFields handled.response ↔ ownFds handled.response = []) := by
  obtain ⟨received, reads, fields⟩ := received_fields protobuf build frontend called unread sent
  refine ⟨received, reads, ?_⟩
  rw [fields]
  exact without_own_fds_iff handled.response

theorem buffer_descriptor_arrives :
    ∃ handled received,
      handle plainProtobuf (sessionMediator .gbm smallFrontend) .nextBuffer [] ⟨some 0, ()⟩ =
        some handled ∧
      receiveFileDescriptors [⟨33, [6]⟩]
        (plainProtobuf.codec.parse handled.response.resultType
          (plainProtobuf.codec.serialize (prepareResponse (answer plainProtobuf handled)).2)) =
        some (received, [], [.descriptors 1 [6]]) ∧
      fdFields received = [[6]] := by
  obtain ⟨handled, called, fields, own, fds⟩ : ∃ handled,
      handle plainProtobuf (sessionMediator .gbm smallFrontend) .nextBuffer [] ⟨some 0, ()⟩ =
        some handled ∧ fdFields handled.response = [[6]] ∧ ownFds handled.response = [] ∧
      (prepareResponse (answer plainProtobuf handled)).1 = [6] := ⟨_, rfl, rfl, rfl, rfl⟩
  have sent : writeItems (sendFds (prepareResponse (answer plainProtobuf handled)).1) =
      some [⟨33, [6]⟩] := by
    rw [fds]
    rfl
  obtain ⟨received, reads, same⟩ :=
    descriptors_arrive_iff plainProtobuf .gbm smallFrontend called [] sent
  rw [fds] at reads
  exact ⟨handled, received, called, reads, (same.mpr own).trans fields⟩

theorem input_descriptor_is_lost :
    ∃ handled received,
      handle plainProtobuf (sessionMediator .gbm smallFrontend) .createSurface [] ⟨some 0, ()⟩ =
        some handled ∧
      fdFields handled.response = [[5], [6]] ∧
      receiveFileDescriptors [⟨33, [6]⟩]
        (plainProtobuf.codec.parse handled.response.resultType
          (plainProtobuf.codec.serialize (prepareResponse (answer plainProtobuf handled)).2)) =
        some (received, [], [.descriptors 1 [6]]) ∧
      fdFields received = [[], [6]] := by
  obtain ⟨handled, called, fields, left, fds⟩ : ∃ handled,
      handle plainProtobuf (sessionMediator .gbm smallFrontend) .createSurface [] ⟨some 0, ()⟩ =
        some handled ∧ fdFields handled.response = [[5], [6]] ∧
      fdFields (withoutOwnFds handled.response) = [[], [6]] ∧
      (prepareResponse (answer plainProtobuf handled)).1 = [6] := ⟨_, rfl, rfl, rfl, rfl⟩
  have sent : writeItems (sendFds (prepareResponse (answer plainProtobuf handled)).1) =
      some [⟨33, [6]⟩] := by
    rw [fds]
    rfl
  obtain ⟨received, reads, same⟩ :=
    received_fields plainProtobuf .gbm smallFrontend called [] sent
  rw [fds] at reads
  exact ⟨handled, received, called, fields, reads, same.trans left⟩

end Descriptors

end Mir.RequestReplies
