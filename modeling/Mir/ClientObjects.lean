import Mathlib.Data.Fintype.Defs
import Mir.ObjectLifetimes
import Mir.TransitionRuns
import Mir.WaitHandles

/-!
# The objects of the client library

A `MirConnection` with its channel and its platform, the surfaces that it creates, and the wait
handles of `release_surface`. The threads of the application call the library, and the thread
of the I/O service runs the completion of each reply, in the order of the requests. Every
function is the list of what it does with these objects, so that its steps interleave with those
of the others. The mutex of `PendingCallCache` is held while a completion runs. The counters of
the wait handles are not bounded here: a step raises each of them by one at the most, so that
they overflow in no run of fewer than `2 ^ 31` steps (`ClientRelease.run_counters_le`).
-/

namespace Mir.ClientObjects

open Mir.ObjectLifetimes Mir.TransitionRuns
open Mir.WaitHandles (MirWaitHandle expectResult resultReceived waits)

set_option autoImplicit false

inductive Object where
  | connection
  | channel
  | platform
  | surface (key : Nat)
  | releaseHandle (key : Nat)
  deriving DecidableEq, Repr

inductive Handle where
  | connect
  | disconnect
  | drmAuthMagic
  | create (surface : Nat)
  | nextBuffer (surface : Nat)
  | configure (surface : Nat)
  | release (key : Nat)
  deriving DecidableEq, Repr

def Handle.owner : Handle → Object
  | .connect | .disconnect | .drmAuthMagic => .connection
  | .create surface | .nextBuffer surface | .configure surface => .surface surface
  | .release key => .releaseHandle key

/-- `matching` says if the reply names the surface and an attribute. -/
inductive Request where
  | connect
  | createSurface (surface : Nat)
  | nextBuffer (surface : Nat)
  | configureSurface (surface : Nat) (matching : Bool)
  | releaseSurface (surface handle : Nat)
  | drmAuthMagic
  | selectFocusByLightdmId
  | disconnect
  deriving DecidableEq, Repr

/-- `use` is any access to a member. -/
inductive Action where
  | use (object : Object)
  | new (object : Object)
  | expectResult (handle : Handle)
  | saveCompletionDetails (request : Request)
  | sendMessage (request : Request)
  | pushBack (handle : Nat)
  | waitForResult (handle : Handle)
  | callback (request : Request)
  | resultReceived (handle : Handle)
  | delete (object : Object)
  | deleteReleaseWaitHandles
  | eraseCall
  | eraseValidConnection
  | isValid
  | join
  deriving DecidableEq, Repr

/-- `complete_response` with what the closure of the request does. -/
def completion : Request → List Action
  | .connect => [.use .connection, .new .platform, .callback .connect, .resultReceived .connect,
      .eraseCall]
  | .createSurface surface => [.use (.surface surface), .use .connection, .use .platform,
      .use (.surface surface), .callback (.createSurface surface),
      .resultReceived (.create surface), .eraseCall]
  | .nextBuffer surface => [.use (.surface surface), .callback (.nextBuffer surface),
      .resultReceived (.nextBuffer surface), .eraseCall]
  | .configureSurface surface true => [.use (.surface surface),
      .resultReceived (.configure surface), .eraseCall]
  | .configureSurface surface false => [.use (.surface surface), .eraseCall]
  | .releaseSurface surface handle => [.use .connection,
      .callback (.releaseSurface surface handle), .resultReceived (.release handle),
      .delete (.surface surface), .eraseCall]
  | .drmAuthMagic => [.use .connection, .callback .drmAuthMagic, .resultReceived .drmAuthMagic,
      .eraseCall]
  | .selectFocusByLightdmId => [.use .connection, .eraseCall]
  | .disconnect => [.use .connection, .deleteReleaseWaitHandles, .resultReceived .disconnect,
      .eraseCall]

/-- What the callback of a request gets. -/
def Request.handedOut : Request → List Object
  | .connect => [.connection, .platform]
  | .createSurface surface | .nextBuffer surface | .releaseSurface surface _ => [.surface surface]
  | _ => []

/-- A handle that is pushed is also returned to the application. -/
def uses : Action → List Object
  | .use object | .delete object => [object]
  | .expectResult handle | .waitForResult handle | .resultReceived handle => [handle.owner]
  | .saveCompletionDetails _ => [.connection, .channel]
  | .sendMessage _ | .eraseCall | .join => [.channel]
  | .pushBack handle => [.connection, .releaseHandle handle]
  | .callback request => request.handedOut
  | .deleteReleaseWaitHandles | .eraseValidConnection => [.connection]
  | .new _ | .isValid => []

inductive Call where
  | createSurface
  | nextBuffer (surface : Nat)
  | configure (surface : Nat) (matching : Bool)
  | releaseSurface (surface : Nat)
  | drmAuthMagic
  | selectFocusByLightdmId
  | waitFor (handle : Handle)
  | isValid
  | releaseConnection
  deriving DecidableEq, Repr

def callMethod (request : Request) : List Action :=
  [.saveCompletionDetails request, .sendMessage request]

/-- `disconnect`, `wait_for_result` and the destructor of the connection, whose wait handles are
destroyed before the platform and the channel. -/
def releaseConnection : List Action :=
  callMethod .disconnect ++ [.waitForResult .disconnect, .eraseValidConnection,
    .delete .connection, .delete .platform, .join, .delete .channel]

/-- `released` are the surfaces that the application has given up, and `closing` says that it
has given up the connection. -/
structure Client (Thread : Type) where
  heap : Finset Object
  validConnection : Bool
  handles : Handle → MirWaitHandle
  releaseWaitHandles : List Nat
  requests : List Request
  running : List Action
  stopped : Bool
  threads : Thread → List Action
  sent : List Request
  calledBack : List Request
  nextSurface : Nat
  nextHandle : Nat
  released : List Nat
  closing : Bool
  broken : Bool

inductive Event (Thread : Type) where
  | call (thread : Thread) (call : Call)
  | act (thread : Thread)
  | reply
  | complete

variable {Thread : Type}

/-- `mir_connect` has constructed the connection and is in `connect`. -/
def connecting [DecidableEq Thread] (thread : Thread) : Client Thread where
  heap := {.connection, .channel}
  validConnection := true
  handles := fun _ => ⟨0, 0⟩
  releaseWaitHandles := []
  requests := []
  running := []
  stopped := false
  threads := Function.update (fun _ => []) thread (callMethod .connect)
  sent := []
  calledBack := []
  nextSurface := 0
  nextHandle := 0
  released := []
  closing := false
  broken := false

section Steps

def program (client : Client Thread) : Call → List Action
  | .createSurface =>
      [.use .connection, .use .platform, .new (.surface client.nextSurface)] ++
        callMethod (.createSurface client.nextSurface) ++ [.use (.surface client.nextSurface)]
  | .nextBuffer surface => .use (.surface surface) :: callMethod (.nextBuffer surface)
  | .configure surface matching =>
      [.use (.surface surface), .expectResult (.configure surface)] ++
        callMethod (.configureSurface surface matching)
  | .releaseSurface surface =>
      [.use (.surface surface), .new (.releaseHandle client.nextHandle),
        .use (.surface surface)] ++
        callMethod (.releaseSurface surface client.nextHandle) ++ [.pushBack client.nextHandle]
  | .drmAuthMagic => callMethod .drmAuthMagic
  | .selectFocusByLightdmId => callMethod .selectFocusByLightdmId
  | .waitFor handle => [.waitForResult handle]
  | .isValid => [.isValid]
  | .releaseConnection => releaseConnection

/-- A function that blocks has no step. -/
def perform (client : Client Thread) : Action → Option (Client Thread)
  | .use _ | .eraseCall => some client
  | .new object => some { client with heap := insert object client.heap }
  | .expectResult handle => some { client with
      handles := Function.update client.handles handle (expectResult (client.handles handle)) }
  | .saveCompletionDetails _ => if client.running = [] then some client else none
  | .sendMessage request => some { client with
      requests := client.requests ++ [request]
      sent := client.sent ++ [request] }
  | .pushBack handle => some { client with
      releaseWaitHandles := client.releaseWaitHandles ++ [handle] }
  | .waitForResult handle =>
      if waits (client.handles handle) then none
      else some { client with handles := Function.update client.handles handle ⟨0, 0⟩ }
  | .callback request => some { client with calledBack := client.calledBack ++ [request] }
  | .resultReceived handle => some { client with
      handles := Function.update client.handles handle (resultReceived (client.handles handle)) }
  | .delete object => some { client with heap := client.heap.erase object }
  -- the vector is not cleared
  | .deleteReleaseWaitHandles =>
      let deleted := client.releaseWaitHandles.map Object.releaseHandle
      if deleted.Nodup ∧ ∀ handle ∈ deleted, handle ∈ client.heap then
        some { client with heap := client.heap.filter (· ∉ deleted) }
      else some { client with broken := true }
  | .eraseValidConnection => some { client with validConnection := false }
  | .isValid =>
      if client.validConnection ∧ .connection ∉ client.heap then
        some { client with broken := true }
      else some client
  | .join => if client.running = [] then some { client with stopped := true } else none

def act (client : Client Thread) (action : Action) : Option (Client Thread) :=
  if ∀ object ∈ uses action, object ∈ client.heap then perform client action
  else some { client with broken := true }

/-- The application has the surface from its callback, and has not given it up. -/
def holds (client : Client Thread) (surface : Nat) : Bool :=
  .createSurface surface ∈ client.calledBack ∧ surface ∉ client.released

def Action.surfaces : Action → List Nat
  | .use (.surface surface) | .new (.surface surface) | .delete (.surface surface) => [surface]
  | .expectResult handle | .waitForResult handle | .resultReceived handle => match handle with
      | .create surface | .nextBuffer surface | .configure surface => [surface]
      | _ => []
  | .saveCompletionDetails request | .sendMessage request | .callback request => match request with
      | .createSurface surface | .nextBuffer surface | .configureSurface surface _
      | .releaseSurface surface _ => [surface]
      | _ => []
  | _ => []

def mayWait (client : Client Thread) : Handle → Bool
  | .connect | .drmAuthMagic => true
  | .disconnect => false
  | .create surface => .surface surface ∈ client.heap ∧ surface ∉ client.released
  | .nextBuffer surface | .configure surface => holds client surface
  | .release key => key ∈ client.releaseWaitHandles

/-- An application that keeps to the rules gives up an object only when none of its threads is
in a call with it, and makes no call with it later. -/
def rules [Fintype Thread] (client : Client Thread) : Call → Bool
  | .createSurface | .drmAuthMagic | .selectFocusByLightdmId =>
      !client.closing ∧ .connect ∈ client.calledBack
  | .nextBuffer surface | .configure surface _ => !client.closing ∧ holds client surface
  | .releaseSurface surface => !client.closing ∧ holds client surface ∧
      ∀ thread, surface ∉ (client.threads thread).flatMap Action.surfaces
  | .waitFor handle => !client.closing ∧ mayWait client handle
  | .isValid => client.closing → ∀ thread, client.threads thread = []
  | .releaseConnection => !client.closing ∧ .connect ∈ client.calledBack ∧
      ∀ thread, client.threads thread = []

/-- A call begins. Its new objects have numbers that were not used before. -/
def begin [DecidableEq Thread] (client : Client Thread) (thread : Thread) (call : Call) : Client Thread :=
  { client with
    threads := Function.update client.threads thread (program client call)
    nextSurface := client.nextSurface + if call = .createSurface then 1 else 0
    nextHandle := match call with
      | .releaseSurface _ => client.nextHandle + 1
      | _ => client.nextHandle
    released := match call with
      | .releaseSurface surface => client.released ++ [surface]
      | _ => client.released
    closing := client.closing || call = .releaseConnection }

def step [DecidableEq Thread] (permits : Client Thread → Call → Bool) (client : Client Thread) :
    Event Thread → Option (Client Thread)
  | .call thread call =>
      if client.threads thread = [] ∧ permits client call then some (begin client thread call)
      else none
  | .act thread => match client.threads thread with
      | [] => none
      | action :: later =>
          act { client with threads := Function.update client.threads thread later } action
  | .reply => match client.stopped, client.running, client.requests with
      | false, [], request :: later =>
          some { client with requests := later, running := completion request }
      | _, _, _ => none
  | .complete => match client.running with
      | [] => none
      | action :: later => act { client with running := later } action

end Steps

section Effects

def creates : Action → List Object
  | .new object => [object]
  | _ => []

def deletes : Action → Object → Bool
  | .delete deleted, object => deleted = object
  | .deleteReleaseWaitHandles, .releaseHandle _ => true
  | _, _ => false

def effects : Effects Action Object := ⟨uses, creates, deletes⟩

def sends : Action → List Request
  | .sendMessage request => [request]
  | _ => []

def pushes : Action → List Nat
  | .pushBack handle => [handle]
  | _ => []

def callbacks : Action → List Request
  | .callback request => [request]
  | _ => []

/-- What is left to do for the thread of the I/O service. -/
def work (client : Client Thread) : List Action :=
  client.running ++ client.requests.flatMap completion

def touches : Action → List Object
  | .new object => [object]
  | .sendMessage request => .channel :: (completion request).flatMap uses
  | action => uses action

def Touches (actions : List Action) (object : Object) : Prop :=
  ∃ action ∈ actions, object ∈ touches action

/-- The requests of these actions lead to the end of an object. -/
def Fates (actions : List Action) (object : Object) : Prop :=
  ∃ action ∈ actions, ∃ request ∈ sends action, Dooms effects (completion request) object

/-- The actions of the calls, without those of `mir_connection_release`. -/
def callable : Action → Bool
  | .use _ | .saveCompletionDetails _ | .pushBack _ | .isValid => true
  | .new (.surface _) | .new (.releaseHandle _) => true
  | .expectResult handle | .waitForResult handle => handle ≠ .disconnect
  | .sendMessage request => request ≠ .disconnect
  | _ => false

/-- The actions of the completions, without that of `disconnect`. -/
def completing : Action → Bool
  | .use _ | .callback _ | .eraseCall | .new .platform | .delete (.surface _) => true
  | .resultReceived handle => handle ≠ .disconnect
  | _ => false

/-- What is left of a call finds its objects, and does without those that its requests lead to
the end of. -/
def Fine : Finset Object → List Action → Prop
  | _, [] => True
  | heap, action :: later =>
      callable action ∧ (∀ object ∈ uses action, object ∈ heap) ∧
      (∀ request ∈ sends action, Safe effects heap (completion request) ∧
        ∀ object, Dooms effects (completion request) object → ¬Touches later object) ∧
      (∀ handle ∈ pushes action, ∀ other ∈ later, handle ∉ pushes other) ∧
      (∀ handle, .releaseHandle handle ∈ creates action → ∃ other ∈ later, handle ∈ pushes other) ∧
      Fine (after effects heap action) later

variable {heap other : Finset Object} {actions later : List Action} {action : Action}
  {object : Object} {request : Request} {client next : Client Thread}

theorem touches_cons : Touches (action :: later) object ↔
    object ∈ touches action ∨ Touches later object := by
  simp [Touches]

theorem fates_cons : Fates (action :: later) object ↔
    (∃ request ∈ sends action, Dooms effects (completion request) object) ∨
      Fates later object := by
  simp [Fates]

theorem uses_touches (used : object ∈ uses action) : object ∈ touches action := by
  cases action with
  | new created => cases used
  | sendMessage request =>
      cases List.mem_singleton.mp used
      exact List.mem_cons_self
  | _ => exact used

theorem sends_touches (sent : request ∈ sends action)
    (used : Uses effects (completion request) object) : object ∈ touches action := by
  cases action with
  | sendMessage other =>
      cases List.mem_singleton.mp sent
      exact List.mem_cons_of_mem _ (List.mem_flatMap.mpr used)
  | _ => cases sent

theorem creates_touches (created : object ∈ creates action) : object ∈ touches action := by
  cases action with
  | new other => exact created
  | _ => cases created

theorem pushes_uses {handle : Nat} (pushed : handle ∈ pushes action) :
    .releaseHandle handle ∈ uses action := by
  cases action with
  | pushBack other =>
      cases List.mem_singleton.mp pushed
      exact List.mem_cons_of_mem _ (List.mem_singleton_self _)
  | _ => cases pushed

theorem dooms_flat_map {requests : List Request} :
    Dooms effects (requests.flatMap completion) object ↔
      ∃ request ∈ requests, Dooms effects (completion request) object := by
  simp only [Dooms, List.mem_flatMap]
  grind

theorem uses_flat_map {requests : List Request} :
    Uses effects (requests.flatMap completion) object ↔
      ∃ request ∈ requests, Uses effects (completion request) object := by
  simp only [Uses, List.mem_flatMap]
  grind

theorem sends_safe (posts : ∀ request ∈ sends action, Safe effects heap (completion request)) :
    Safe effects heap ((sends action).flatMap completion) := by
  cases action with
  | sendMessage request =>
      rw [sends, List.flatMap_singleton]
      exact posts request (List.mem_singleton_self request)
  | _ => trivial

theorem fine_transfer (fine : Fine heap actions)
    (there : ∀ object, Touches actions object → object ∈ heap → object ∈ other) :
    Fine other actions := by
  induction actions generalizing heap other with
  | nil => trivial
  | cons action later induction =>
      obtain ⟨kind, ready, posts, single, coming, rest⟩ := fine
      refine ⟨kind, ?_, ?_, single, coming, induction rest ?_⟩
      · intro object used
        exact there object (touches_cons.mpr (.inl (uses_touches used))) (ready object used)
      · intro request sent
        obtain ⟨safe, gone⟩ := posts request sent
        refine ⟨safe_transfer safe ?_, gone⟩
        intro object used
        exact there object (touches_cons.mpr (.inl (sends_touches sent used)))
      · intro object touched alive
        obtain ⟨present, kept⟩ := mem_after.mp alive
        refine mem_after.mpr ⟨?_, kept⟩
        exact present.imp_left (there object (touches_cons.mpr (.inr touched)))

theorem callable_deletes (kind : callable action) : deletes action object = false := by
  cases action with
  | delete deleted => cases kind
  | deleteReleaseWaitHandles => cases kind
  | _ => rfl

theorem callable_sends (kind : callable action) (sent : request ∈ sends action) :
    request ≠ .disconnect := by
  cases action with
  | sendMessage other =>
      cases List.mem_singleton.mp sent
      exact of_decide_eq_true kind
  | _ => cases sent

theorem completing_deletes (kind : completing action) (deleted : deletes action object = true) :
    ∃ surface, object = .surface surface := by
  cases action with
  | delete other =>
      cases of_decide_eq_true deleted
      cases object with
      | surface key => exact ⟨key, rfl⟩
      | _ => cases kind
  | deleteReleaseWaitHandles => cases kind
  | _ => cases deleted

theorem completing_creates (kind : completing action) (created : object ∈ creates action) :
    object = .platform := by
  cases action with
  | new other =>
      cases List.mem_singleton.mp created
      cases object with
      | platform => rfl
      | _ => cases kind
  | _ => cases created

theorem completion_completing (going_on : request ≠ .disconnect) :
    ∀ action ∈ completion request, completing action := by
  cases request with
  | disconnect => exact absurd rfl going_on
  | configureSurface surface matching =>
      cases matching <;> simp [completion, completing]
  | _ => simp [completion, completing]

theorem after_new : after effects heap (.new object) = insert object heap := by
  ext other
  simp [mem_after, effects, creates, deletes, or_comm]

theorem after_delete : after effects heap (.delete object) = heap.erase object := by
  ext other
  simp [mem_after, effects, creates, deletes, and_comm, eq_comm]

theorem act_ready (acted : act client action = some next)
    (ready : ∀ object ∈ uses action, object ∈ client.heap) :
    perform client action = some next := by
  rwa [act, if_pos ready] at acted

theorem act_callable (acted : act client action = some next) (kind : callable action)
    (ready : ∀ object ∈ uses action, object ∈ client.heap) (valid : .connection ∈ client.heap) :
    ∃ handles, handles .disconnect = client.handles .disconnect ∧ next = { client with
      heap := after effects client.heap action
      handles := handles
      releaseWaitHandles := client.releaseWaitHandles ++ pushes action
      requests := client.requests ++ sends action
      sent := client.sent ++ sends action } := by
  have same (still : creates action = []) : after effects client.heap action = client.heap :=
    after_unchanged still fun _ => callable_deletes kind
  replace acted := act_ready acted ready
  cases action with
  | use object =>
      cases acted
      exact ⟨client.handles, rfl, by simp [same rfl, pushes, sends]⟩
  | saveCompletionDetails request =>
      rw [perform] at acted
      split_ifs at acted
      cases acted
      exact ⟨client.handles, rfl, by simp [same rfl, pushes, sends]⟩
  | isValid =>
      rw [perform, if_neg (fun both => both.2 valid)] at acted
      cases acted
      exact ⟨client.handles, rfl, by simp [same rfl, pushes, sends]⟩
  | new object =>
      cases acted
      exact ⟨client.handles, rfl, by simp [after_new, pushes, sends]⟩
  | expectResult handle =>
      cases acted
      have other : Handle.disconnect ≠ handle := fun equal => of_decide_eq_true kind equal.symm
      exact ⟨_, Function.update_of_ne other (expectResult (client.handles handle)) _,
        by simp [same rfl, pushes, sends]⟩
  | waitForResult handle =>
      rw [perform] at acted
      split_ifs at acted
      cases acted
      have other : Handle.disconnect ≠ handle := fun equal => of_decide_eq_true kind equal.symm
      exact ⟨_, Function.update_of_ne other ⟨0, 0⟩ _, by simp [same rfl, pushes, sends]⟩
  | pushBack handle =>
      cases acted
      exact ⟨client.handles, rfl, by simp [same rfl, pushes, sends]⟩
  | sendMessage request =>
      cases acted
      exact ⟨client.handles, rfl, by simp [same rfl, pushes, sends]⟩
  | _ => cases kind

theorem act_completing (acted : act client action = some next) (kind : completing action)
    (ready : ∀ object ∈ uses action, object ∈ client.heap) :
    ∃ handles, handles .disconnect = client.handles .disconnect ∧ next = { client with
      heap := after effects client.heap action
      handles := handles
      calledBack := client.calledBack ++ callbacks action } := by
  have same (still : creates action = []) (kept : ∀ object, deletes action object = false) :
      after effects client.heap action = client.heap := after_unchanged still kept
  replace acted := act_ready acted ready
  cases action with
  | use object | eraseCall | callback request =>
      cases acted
      exact ⟨client.handles, rfl, by simp [same rfl fun _ => rfl, callbacks]⟩
  | resultReceived handle =>
      cases acted
      have other : Handle.disconnect ≠ handle := fun equal => of_decide_eq_true kind equal.symm
      exact ⟨_, Function.update_of_ne other (resultReceived (client.handles handle)) _,
        by simp [same rfl fun _ => rfl, callbacks]⟩
  | new object =>
      cases acted
      exact ⟨client.handles, rfl, by simp [after_new, callbacks]⟩
  | delete object =>
      cases acted
      exact ⟨client.handles, rfl, by simp [after_delete, callbacks]⟩
  | _ => cases kind

theorem work_sent (client : Client Thread) (heap : Finset Object)
    (handles : Handle → MirWaitHandle) (waiting : List Nat) (more sent : List Request)
    (threads : Thread → List Action) :
    work { client with
      heap := heap
      handles := handles
      releaseWaitHandles := waiting
      requests := client.requests ++ more
      sent := sent
      threads := threads } = work client ++ more.flatMap completion := by
  simp [work]

theorem work_replied {request : Request} {rest : List Request} (idle : client.running = [])
    (queue : client.requests = request :: rest) :
    work { client with requests := rest, running := completion request } = work client := by
  simp [work, idle, queue]

theorem work_completing (remains : client.running = action :: later) :
    work client = action :: work { client with running := later } := by
  simp [work, remains]

end Effects

section Programs

variable {client : Client Thread} {later : List Action}

/-- The objects of a call, with those that its request needs later. -/
def callObjects (client : Client Thread) : Call → List Object
  | .createSurface => [.connection, .channel, .platform, .surface client.nextSurface]
  | .nextBuffer surface | .configure surface _ => [.connection, .channel, .surface surface]
  | .releaseSurface surface =>
      [.connection, .channel, .surface surface, .releaseHandle client.nextHandle]
  | .waitFor handle => [handle.owner]
  | .isValid => []
  | _ => [.connection, .channel, .platform]

theorem program_touches {call : Call} {object : Object} (other : call ≠ .releaseConnection)
    (touch : Touches (program client call) object) : object ∈ callObjects client call := by
  cases call with
  | releaseConnection => exact absurd rfl other
  | isValid | waitFor handle =>
      obtain ⟨action, member, touched⟩ := touch
      cases List.mem_singleton.mp member
      exact touched
  | configure surface matching =>
      cases matching <;>
        (simp [Touches, program, callMethod, touches, completion, uses, Handle.owner] at touch
         simp [callObjects]
         grind)
  | _ =>
      simp [Touches, program, callMethod, touches, completion, uses, Handle.owner,
        Request.handedOut] at touch
      simp [callObjects]
      grind

/-- Only `released` deletes a surface. -/
theorem completion_dooms {request : Request} {object : Object}
    (dooms : Dooms effects (completion request) object) (going_on : request ≠ .disconnect) :
    ∃ surface handle, request = .releaseSurface surface handle ∧ object = .surface surface := by
  cases request with
  | disconnect => exact absurd rfl going_on
  | releaseSurface surface handle =>
      simp [Dooms, completion, effects, deletes] at dooms
      exact ⟨surface, handle, rfl, dooms.symm⟩
  | configureSurface surface matching =>
      cases matching <;> simp [Dooms, completion, effects, deletes] at dooms
  | _ => simp [Dooms, completion, effects, deletes] at dooms

theorem program_fates {call : Call} {object : Object} (other : call ≠ .releaseConnection)
    (fate : Fates (program client call) object) :
    ∃ surface, call = .releaseSurface surface ∧ object = .surface surface := by
  cases call with
  | releaseConnection => exact absurd rfl other
  | releaseSurface surface =>
      refine ⟨surface, rfl, ?_⟩
      simp only [Fates, program, callMethod, sends] at fate
      have dooms : Dooms effects (completion (.releaseSurface surface client.nextHandle)) object := by
        simpa using fate
      obtain ⟨same, handle, equal, rfl⟩ := completion_dooms dooms (by simp)
      cases equal
      rfl
  | configure surface matching =>
      cases matching <;>
        simp [Fates, program, callMethod, sends, completion, Dooms, effects, deletes] at fate
  | _ => simp [Fates, program, callMethod, sends, completion, Dooms, effects, deletes] at fate

/-- What a completion finds, besides the connection and the channel. -/
def needs : Request → List Object
  | .createSurface surface => [.platform, .surface surface]
  | .nextBuffer surface | .configureSurface surface _ => [.surface surface]
  | .releaseSurface surface handle => [.surface surface, .releaseHandle handle]
  | _ => []

theorem completion_safe {heap : Finset Object} {request : Request}
    (connection : .connection ∈ heap) (channel : .channel ∈ heap)
    (ready : ∀ object ∈ needs request, object ∈ heap) :
    Safe effects heap (completion request) := by
  cases request with
  | configureSurface surface matching =>
      cases matching <;>
        simp_all [needs, completion, Safe, effects, uses, Handle.owner, after, creates, deletes]
  | _ =>
      simp_all [needs, completion, Safe, effects, uses, Handle.owner, Request.handedOut, after,
        creates, deletes]

/-- An action that sends nothing and has nothing to do with the handles of `release_surface`. -/
theorem fine_cons {heap : Finset Object} {action : Action} (ready : callable action)
    (alive : ∀ object ∈ uses action, object ∈ heap) (silent : sends action = [])
    (plain : pushes action = []) (unmade : ∀ handle, .releaseHandle handle ∉ creates action)
    (rest : Fine (after effects heap action) later) : Fine heap (action :: later) := by
  refine ⟨ready, alive, ?_, ?_, fun handle made => absurd made (unmade handle), rest⟩
  · rw [silent]
    exact List.forall_mem_nil _
  · rw [plain]
    exact List.forall_mem_nil _

theorem fine_use {heap : Finset Object} {object : Object} (alive : object ∈ heap)
    (rest : Fine heap later) : Fine heap (.use object :: later) := by
  refine fine_cons rfl ?_ rfl rfl (fun _ => List.not_mem_nil) ?_
  · intro other used
    cases List.mem_singleton.mp used
    exact alive
  · rwa [after_unchanged rfl fun _ => rfl]

theorem call_method_fine {heap : Finset Object} {request : Request}
    (connection : .connection ∈ heap) (channel : .channel ∈ heap)
    (going_on : request ≠ .disconnect) (ready : ∀ object ∈ needs request, object ∈ heap)
    (gone : ∀ object, Dooms effects (completion request) object → ¬Touches later object)
    (rest : Fine heap later) : Fine heap (callMethod request ++ later) := by
  refine fine_cons rfl (by simp [uses, connection, channel]) rfl rfl
    (fun _ => List.not_mem_nil) ?_
  rw [after_unchanged rfl fun _ => rfl]
  refine ⟨decide_eq_true going_on, by simp [uses, channel], ?_, nofun, nofun, ?_⟩
  · intro other sent
    cases List.mem_singleton.mp sent
    exact ⟨completion_safe connection channel ready, gone⟩
  · rwa [after_unchanged rfl fun _ => rfl]

theorem touches_surfaces {actions : List Action} {surface : Nat}
    (touch : Touches actions (.surface surface)) : surface ∈ actions.flatMap Action.surfaces := by
  obtain ⟨action, member, touched⟩ := touch
  refine List.mem_flatMap.mpr ⟨action, member, ?_⟩
  cases action with
  | use object | new object | delete object =>
      cases List.mem_singleton.mp touched
      exact List.mem_singleton_self _
  | expectResult handle | waitForResult handle | resultReceived handle =>
      cases handle <;> simp_all [touches, uses, Handle.owner, Action.surfaces]
  | callback request =>
      cases request <;> simp_all [touches, uses, Request.handedOut, Action.surfaces]
  | sendMessage request =>
      cases request with
      | configureSurface key matching =>
          cases matching <;>
            simp_all [touches, uses, completion, Handle.owner, Action.surfaces]
      | _ =>
          simp_all [touches, uses, completion, Handle.owner, Request.handedOut, Action.surfaces]
  | _ => simp [touches, uses] at touched

end Programs

end Mir.ClientObjects
