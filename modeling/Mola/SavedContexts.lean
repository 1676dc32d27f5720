import Mola.Places
import Mola.Runs

/-!
# The saved context over a wait

A request is sent with a pointer of the caller, which is stored in the request's context. When
the response comes, that context is the current one, and `GetSavedCtx` reads the pointer from it.
A response to a synchronous interface starts a fiber, and the fiber has a context of its own: a
response that the fiber waits for comes with that context as the current one, and the context of
the first request is deleted at the end of the first turn.

`get_or_create_fiber` reads the pointer of the current context, and builds the fiber's context
with another one: the second argument of the interface, which is the gather group of a gather
message and null for a response. The saved context is found until the first wait. From then on
it is what the interface was called with.

The contexts, the current one and where the actor runs are modelled. Initiators, replies and the
interfaces that end with `InstanceExit` are not. What a fiber handles and how often it has waited
is for reasoning only: no step depends on it.
-/

namespace Mola.SavedContexts

open Runs

/-- A `void*`: null, one of the caller, or the address of the group stored under an id. -/
inductive Pointer where
  | null
  | user (address : Nat)
  | group (reqid : Nat)
deriving DecidableEq

/-- The three classes of request contexts, with what `done` reads. -/
inductive Shape where
  | plain
  | group (done : Bool)
  | fiber (dead : Bool)
deriving DecidableEq

/-- A request context. -/
structure RequestContext where
  ctx : Pointer
  shape : Shape
deriving DecidableEq

/-- `done`. The context of a plain request is done at once. -/
def RequestContext.done (context : RequestContext) : Bool :=
  match context.shape with
  | .plain => true
  | .group done => done
  | .fiber dead => dead

/-- A message with the id of its context, which is zero if there is none. -/
inductive Message where
  | request
  | response (reqid : Nat)
  | gather (reqid : Nat)
deriving DecidableEq

/-- Where the actor runs: in its loop, in a normal interface, or in one on a fiber. Or an
assertion has failed. -/
inductive Control where
  | idle
  | interface
  | fiber (id : Nat)
  | halted
deriving DecidableEq

/-- What an interface on a fiber handles: a response to a request that was sent with a pointer,
or a gather message to a group. And how often it has waited since. -/
structure Handling where
  ctx : Pointer
  group : Option Nat
  waits : Nat
deriving DecidableEq

/-- The second argument that an interface is called with. -/
def passed : Option Nat → Pointer
  | none => .null
  | some reqid => .group reqid

/-- An actor. A context pointer is the id under which the context is stored. -/
structure Actor where
  contexts : Nat → Option RequestContext
  currentCtx : Option Nat
  control : Control
  handling : Nat → Option Handling

/-- A message is handled, by an interface that is synchronous or not; `fresh` is the id of the
fiber that may be created. The running interface sends a request or scatters a group with a
pointer, completes a group, waits for a response or returns. -/
inductive Action where
  | receive (message : Message) (sync : Bool) (fresh : Nat)
  | send (reqid : Nat) (ctx : Pointer)
  | scatter (reqid : Nat) (ctx : Pointer)
  | gather (reqid : Nat)
  | wait
  | finish
deriving DecidableEq

/-- A new actor. -/
def start : Actor := ⟨fun _ => none, none, .idle, fun _ => none⟩

/-- `GetSavedCtx`. There is no answer if the current context was deleted. -/
def getSavedCtx (actor : Actor) : Option Pointer :=
  match actor.currentCtx with
  | none => some .null
  | some id => (actor.contexts id).map RequestContext.ctx

/-- `insert_req_ctx`. -/
def insertReqCtx (actor : Actor) (reqid : Nat) (context : RequestContext) : Actor :=
  match actor.contexts reqid with
  | none => { actor with contexts := Function.update actor.contexts reqid (some context) }
  | some _ => { actor with control := .halted }

/-- `delete_req_ctx`. -/
def deleteReqCtx (actor : Actor) (reqid : Nat) : Actor :=
  match actor.contexts reqid with
  | none => actor
  | some context =>
      if context.done then
        { actor with contexts := Function.update actor.contexts reqid none }
      else
        actor

/-- The end of a turn in `execute`. -/
def endTurn (actor : Actor) : Actor :=
  match actor.currentCtx with
  | none => { actor with control := .idle }
  | some id => { deleteReqCtx actor id with control := .idle }

/-- `set_current_ctx` for a message. -/
def setCurrentCtx (actor : Actor) (message : Message) : Actor :=
  let reqid := match message with
    | .request => 0
    | .response reqid | .gather reqid => reqid
  if reqid ≠ 0 ∧ (actor.contexts reqid).isSome then
    { actor with currentCtx := some reqid }
  else
    { actor with currentCtx := none }

/-- The current context, if there is one. -/
def currentContext (actor : Actor) : Option RequestContext :=
  actor.currentCtx.bind actor.contexts

/-- The gather group that the current context is. -/
def gatherGroup (actor : Actor) : Option Nat :=
  match actor.currentCtx, currentContext actor with
  | some id, some ⟨_, .group _⟩ => some id
  | _, _ => none

/-- `call_intf_on_fiber` up to the switch. `get_or_create_fiber` reads the pointer of the current
context and does not use it: the context of the new fiber has the argument of the interface. -/
def callIntfOnFiber (actor : Actor) (fresh : Nat) : Actor :=
  match actor.currentCtx, currentContext actor with
  | some id, some ⟨_, .fiber _⟩ => { actor with control := .fiber id }
  | _, current =>
      insertReqCtx
        { actor with
          control := .fiber fresh
          handling := Function.update actor.handling fresh
            (current.map fun context => ⟨context.ctx, gatherGroup actor, 0⟩) }
        fresh ⟨passed (gatherGroup actor), .fiber false⟩

/-- `invoke_message` up to the call of the interface. A gather message needs a group. -/
def invokeMessage (actor : Actor) (message : Message) (sync : Bool) (fresh : Nat) : Actor :=
  match message, gatherGroup actor with
  | .gather _, none => { actor with control := .halted }
  | _, _ => if sync then callIntfOnFiber actor fresh else { actor with control := .interface }

/-- `wait_response` on a fiber: the turn ends, and the fiber is counted to have waited. -/
def waitResponse (actor : Actor) (id : Nat) : Actor :=
  endTurn
    { actor with
      handling := Function.update actor.handling id
        ((actor.handling id).map fun handling => { handling with waits := handling.waits + 1 }) }

/-- The return on a fiber: the fiber is dead, and its context is deleted at once unless it is the
current one, which is deleted at the end of the turn. -/
def returnFromFiber (actor : Actor) (id : Nat) : Actor :=
  let dead := (actor.contexts id).map fun context => { context with shape := .fiber true }
  let died := { actor with contexts := Function.update actor.contexts id dead }
  if actor.currentCtx = some id then endTurn died else endTurn (deleteReqCtx died id)

/-- An interface runs. -/
def Control.runs : Control → Bool
  | .interface | .fiber _ => true
  | _ => false

/-- One step. -/
def step (actor : Actor) : Action → Option Actor
  | .receive message sync fresh =>
      if actor.control = .idle then
        some (invokeMessage (setCurrentCtx actor message) message sync fresh)
      else
        none
  | .send reqid ctx =>
      if actor.control.runs then some (insertReqCtx actor reqid ⟨ctx, .plain⟩) else none
  | .scatter reqid ctx =>
      if actor.control.runs then some (insertReqCtx actor reqid ⟨ctx, .group false⟩) else none
  | .gather reqid =>
      match actor.control.runs, actor.contexts reqid with
      | true, some ⟨ctx, .group _⟩ =>
          some { actor with
                 contexts := Function.update actor.contexts reqid (some ⟨ctx, .group true⟩) }
      | _, _ => none
  | .wait =>
      match actor.control with
      | .interface => some { actor with control := .halted }
      | .fiber id => some (waitResponse actor id)
      | _ => none
  | .finish =>
      match actor.control with
      | .interface => some (endTurn actor)
      | .fiber id => some (returnFromFiber actor id)
      | _ => none

/-- What holds of every actor that runs. No stored fiber is dead, and the context of one that
handles a message has the pointer that its interface was called with; it has waited unless it
runs. A fiber that runs has the context of what it handles as the current one until it waits, and
its own afterwards. -/
structure Kept (actor : Actor) : Prop where
  alive : ∀ id ctx dead, actor.contexts id = some ⟨ctx, .fiber dead⟩ → dead = false
  own : ∀ id ctx dead handling, actor.contexts id = some ⟨ctx, .fiber dead⟩ →
    actor.handling id = some handling → ctx = passed handling.group
  waited : ∀ id ctx dead handling, actor.contexts id = some ⟨ctx, .fiber dead⟩ →
    actor.handling id = some handling →
    0 < handling.waits ∨ actor.control = .fiber id
  stored : ∀ id, actor.control = .fiber id → ∃ ctx, actor.contexts id = some ⟨ctx, .fiber false⟩
  current : ∀ id handling, actor.control = .fiber id → actor.handling id = some handling →
    (0 < handling.waits ∧ actor.currentCtx = some id) ∨
      (handling.waits = 0 ∧ ∃ reqid context, actor.currentCtx = some reqid ∧
        actor.contexts reqid = some context ∧ context.ctx = handling.ctx)

theorem start_kept : Kept start where
  alive _ _ _ present := by cases present
  own _ _ _ _ present := by cases present
  waited _ _ _ _ present := by cases present
  stored _ onFiber := by cases onFiber
  current _ _ onFiber := by cases onFiber

/-- An assertion has failed, or the actor runs as it should. -/
def Safe (actor : Actor) : Prop := actor.control = .halted ∨ Kept actor

/-- An actor that is left in its loop or in a normal interface, where every fiber has waited. -/
theorem kept_of_thread {actor : Actor} (notFiber : ∀ id, actor.control ≠ .fiber id)
    (alive : ∀ id ctx dead, actor.contexts id = some ⟨ctx, .fiber dead⟩ → dead = false)
    (handled : ∀ id ctx dead handling, actor.contexts id = some ⟨ctx, .fiber dead⟩ →
      actor.handling id = some handling → ctx = passed handling.group ∧ 0 < handling.waits) :
    Kept actor where
  alive := alive
  own id ctx dead handling present handles := (handled id ctx dead handling present handles).1
  waited id ctx dead handling present handles :=
    .inl (handled id ctx dead handling present handles).2
  stored id onFiber := absurd onFiber (notFiber id)
  current id _ onFiber := absurd onFiber (notFiber id)

theorem Kept.handled {actor : Actor} (kept : Kept actor) (id : Nat) (ctx : Pointer) (dead : Bool)
    (handling : Handling) (notFiber : actor.control ≠ .fiber id)
    (present : actor.contexts id = some ⟨ctx, .fiber dead⟩)
    (handles : actor.handling id = some handling) :
    ctx = passed handling.group ∧ 0 < handling.waits := by
  refine ⟨kept.own id ctx dead handling present handles, ?_⟩
  exact (kept.waited id ctx dead handling present handles).resolve_right notFiber

/-- Contexts that change neither the fibers nor a stored pointer keep the actor as it is. -/
theorem kept_of_contexts {actor : Actor} {contexts : Nat → Option RequestContext}
    (kept : Kept actor)
    (fibers : ∀ id ctx dead, contexts id = some ⟨ctx, .fiber dead⟩ ↔
      actor.contexts id = some ⟨ctx, .fiber dead⟩)
    (pointers : ∀ id context, actor.contexts id = some context →
      ∃ other, contexts id = some other ∧ other.ctx = context.ctx) :
    Kept { actor with contexts := contexts } where
  alive id ctx dead present := kept.alive id ctx dead ((fibers id ctx dead).mp present)
  own id ctx dead handling present :=
    kept.own id ctx dead handling ((fibers id ctx dead).mp present)
  waited id ctx dead handling present :=
    kept.waited id ctx dead handling ((fibers id ctx dead).mp present)
  stored id onFiber := by
    obtain ⟨ctx, present⟩ := kept.stored id onFiber
    exact ⟨ctx, (fibers id ctx false).mpr present⟩
  current id handling onFiber handles := by
    obtain waited | ⟨fresh, reqid, context, current, present, saved⟩ :=
      kept.current id handling onFiber handles
    · exact .inl waited
    · obtain ⟨other, found, same⟩ := pointers reqid context present
      exact .inr ⟨fresh, reqid, other, current, found, same.trans saved⟩

/-- A context that is not a fiber's is inserted, or the assertion on its id fails. -/
theorem insertReqCtx_safe {actor : Actor} (reqid : Nat) {context : RequestContext}
    (kept : Kept actor) (notFiber : ∀ dead, context.shape ≠ .fiber dead) :
    Safe (insertReqCtx actor reqid context) := by
  unfold insertReqCtx
  split
  case h_1 absent =>
    have older (id : Nat) (other : RequestContext) (present : actor.contexts id = some other) :
        id ≠ reqid := by
      rintro rfl
      cases absent.symm.trans present
    refine .inr (kept_of_contexts kept ?_ ?_)
    · intro id ctx dead
      rw [Places.update_place]
      constructor
      · rintro (⟨-, inserted⟩ | ⟨-, older⟩)
        · cases inserted
          exact absurd rfl (notFiber dead)
        · exact older
      · intro present
        exact .inr ⟨older id _ present, present⟩
    · intro id other present
      exact ⟨other, (Places.update_place ..).mpr (.inr ⟨older id other present, present⟩), rfl⟩
  case h_2 => exact .inl rfl

/-- `delete_req_ctx` only removes. -/
theorem deleteReqCtx_contexts {actor : Actor} {reqid id : Nat} {context : RequestContext}
    (present : (deleteReqCtx actor reqid).contexts id = some context) :
    actor.contexts id = some context := by
  unfold deleteReqCtx at present
  split at present
  · exact present
  · split at present
    · obtain ⟨-, gone⟩ | ⟨-, older⟩ := (Places.update_place ..).mp present
      · cases gone
      · exact older
    · exact present

theorem deleteReqCtx_handling (actor : Actor) (reqid : Nat) :
    (deleteReqCtx actor reqid).handling = actor.handling := by
  unfold deleteReqCtx
  split
  · rfl
  · split <;> rfl

/-- `delete_req_ctx` removes a context that is done. -/
theorem deleteReqCtx_done (actor : Actor) (reqid : Nat)
    (done : ∀ context, actor.contexts reqid = some context → context.done = true) :
    (deleteReqCtx actor reqid).contexts reqid = none := by
  unfold deleteReqCtx
  split
  case h_1 absent => exact absent
  case h_2 context present =>
    rw [if_pos (done context present)]
    exact Function.update_self ..

/-- The end of a turn: the loop runs, nothing is inserted, and fibers handle what they did. -/
theorem endTurn_spec (actor : Actor) :
    (endTurn actor).control = .idle ∧ (endTurn actor).handling = actor.handling ∧
      ∀ id context, (endTurn actor).contexts id = some context →
        actor.contexts id = some context := by
  unfold endTurn
  split
  · exact ⟨rfl, rfl, fun _ _ present => present⟩
  · exact ⟨rfl, deleteReqCtx_handling actor _, fun id context present =>
      deleteReqCtx_contexts present⟩

/-- The end of a turn keeps an actor on which every fiber has waited. -/
theorem endTurn_kept {actor : Actor}
    (alive : ∀ id ctx dead, actor.contexts id = some ⟨ctx, .fiber dead⟩ → dead = false)
    (handled : ∀ id ctx dead handling, actor.contexts id = some ⟨ctx, .fiber dead⟩ →
      actor.handling id = some handling → ctx = passed handling.group ∧ 0 < handling.waits) :
    Kept (endTurn actor) := by
  obtain ⟨control, handling, removed⟩ := endTurn_spec actor
  refine kept_of_thread ?_ ?_ ?_
  · intro id onFiber
    cases control.symm.trans onFiber
  · exact fun id ctx dead present => alive id ctx dead (removed id _ present)
  · intro id ctx dead handled' present handles
    rw [handling] at handles
    exact handled id ctx dead handled' (removed id _ present) handles

/-- A wait keeps the actor. -/
theorem waitResponse_kept {actor : Actor} {id : Nat} (kept : Kept actor)
    (onFiber : actor.control = .fiber id) : Kept (waitResponse actor id) := by
  refine endTurn_kept kept.alive fun other ctx dead handling present handles => ?_
  obtain ⟨rfl, counted⟩ | ⟨different, older⟩ := (Places.update_place ..).mp handles
  · obtain ⟨before, handled, rfl⟩ := Option.map_eq_some_iff.mp counted
    exact ⟨kept.own other ctx dead before present handled, Nat.succ_pos _⟩
  · refine kept.handled other ctx dead handling ?_ present older
    rw [onFiber]
    intro here
    cases here
    exact different rfl

/-- The actor once a fiber is dead and its context not yet deleted. -/
def died (actor : Actor) (id : Nat) : Actor :=
  { actor with
    contexts := Function.update actor.contexts id
      ((actor.contexts id).map fun context => { context with shape := .fiber true }) }

theorem returnFromFiber_eq (actor : Actor) (id : Nat) :
    returnFromFiber actor id = if actor.currentCtx = some id then endTurn (died actor id)
      else endTurn (deleteReqCtx (died actor id) id) := rfl

theorem died_done (actor : Actor) (id : Nat) (context : RequestContext)
    (present : (died actor id).contexts id = some context) : context.done = true := by
  obtain ⟨-, dead⟩ | ⟨different, -⟩ := (Places.update_place ..).mp present
  · obtain ⟨before, -, rfl⟩ := Option.map_eq_some_iff.mp dead
    rfl
  · exact absurd rfl different

theorem died_other (actor : Actor) (id other : Nat) (context : RequestContext)
    (different : other ≠ id) (present : (died actor id).contexts other = some context) :
    actor.contexts other = some context :=
  (((Places.update_place ..).mp present).resolve_left fun here => different here.1).2

/-- The return of a fiber removes its context, and inserts none. -/
theorem returnFromFiber_spec (actor : Actor) (id : Nat) :
    (returnFromFiber actor id).control = .idle ∧
      (returnFromFiber actor id).handling = actor.handling ∧
      ∀ other context, (returnFromFiber actor id).contexts other = some context →
        other ≠ id ∧ actor.contexts other = some context := by
  rw [returnFromFiber_eq]
  split
  case isTrue own =>
    obtain ⟨control, handling, removed⟩ := endTurn_spec (died actor id)
    refine ⟨control, handling, fun other context present => ?_⟩
    have different : other ≠ id := by
      rintro rfl
      have deleted : (endTurn (died actor other)).contexts other = none := by
        unfold endTurn
        simp only [died, own]
        exact deleteReqCtx_done _ other (died_done actor other)
      cases deleted.symm.trans present
    exact ⟨different, died_other actor id other context different (removed other context present)⟩
  case isFalse =>
    obtain ⟨control, handling, removed⟩ := endTurn_spec (deleteReqCtx (died actor id) id)
    refine ⟨control, handling.trans (deleteReqCtx_handling ..), fun other context present => ?_⟩
    have left := removed other context present
    have different : other ≠ id := by
      rintro rfl
      cases (deleteReqCtx_done _ other (died_done actor other)).symm.trans left
    exact ⟨different, died_other actor id other context different
      (deleteReqCtx_contexts left)⟩

/-- The return of a fiber keeps the actor. -/
theorem returnFromFiber_kept {actor : Actor} {id : Nat} (kept : Kept actor)
    (onFiber : actor.control = .fiber id) : Kept (returnFromFiber actor id) := by
  obtain ⟨control, handling, removed⟩ := returnFromFiber_spec actor id
  refine kept_of_thread ?_ ?_ ?_
  · intro other elsewhere
    cases control.symm.trans elsewhere
  · exact fun other ctx dead present => kept.alive other ctx dead (removed other _ present).2
  · intro other ctx dead handled present handles
    obtain ⟨different, before⟩ := removed other _ present
    rw [handling] at handles
    refine kept.handled other ctx dead handled ?_ before handles
    rw [onFiber]
    intro here
    cases here
    exact different rfl

theorem setCurrentCtx_spec (actor : Actor) (message : Message) :
    ∃ current, setCurrentCtx actor message = { actor with currentCtx := current } := by
  unfold setCurrentCtx
  extract_lets reqid
  split
  · exact ⟨some reqid, rfl⟩
  · exact ⟨none, rfl⟩

theorem kept_of_idle {actor : Actor} (current : Option Nat) {control : Control}
    (kept : Kept actor) (idle : actor.control = .idle) (notFiber : ∀ id, control ≠ .fiber id) :
    Kept { actor with currentCtx := current, control := control } := by
  refine kept_of_thread notFiber kept.alive fun id ctx dead handling present handles => ?_
  refine kept.handled id ctx dead handling ?_ present handles
  rw [idle]
  exact Control.noConfusion

/-- A fiber that is found by its context goes on. It has waited, and its context is the current
one. -/
theorem resume_kept {actor : Actor} {id : Nat} {ctx : Pointer} {dead : Bool} (kept : Kept actor)
    (idle : actor.control = .idle) (current : actor.currentCtx = some id)
    (present : actor.contexts id = some ⟨ctx, .fiber dead⟩) :
    Kept { actor with control := .fiber id } := by
  have handled (other : Nat) (saved : Pointer) (gone : Bool) (handling : Handling)
      (stored : actor.contexts other = some ⟨saved, .fiber gone⟩)
      (handles : actor.handling other = some handling) : 0 < handling.waits := by
    refine (kept.handled other saved gone handling ?_ stored handles).2
    rw [idle]
    exact Control.noConfusion
  refine ⟨kept.alive, kept.own, ?_, ?_, ?_⟩
  · exact fun other saved gone handling stored handles =>
      .inl (handled other saved gone handling stored handles)
  · intro other onFiber
    cases onFiber
    rw [kept.alive id ctx dead present] at present
    exact ⟨ctx, present⟩
  · intro other handling onFiber handles
    cases onFiber
    exact .inl ⟨handled id ctx dead handling present handles, current⟩

/-- A new fiber has a context with the argument of its interface, and what it handles is still the
current context. -/
theorem create_safe {actor : Actor} (fresh : Nat) (kept : Kept actor)
    (idle : actor.control = .idle) :
    Safe (insertReqCtx
      { actor with
        control := .fiber fresh
        handling := Function.update actor.handling fresh
          ((currentContext actor).map fun context => ⟨context.ctx, gatherGroup actor, 0⟩) }
      fresh ⟨passed (gatherGroup actor), .fiber false⟩) := by
  unfold insertReqCtx
  dsimp only
  split
  case h_1 absent =>
    have older (id : Nat) (ctx : Pointer) (dead : Bool) (handling : Handling)
        (different : id ≠ fresh) (present : actor.contexts id = some ⟨ctx, .fiber dead⟩)
        (handles : Function.update actor.handling fresh ((currentContext actor).map fun context =>
          ⟨context.ctx, gatherGroup actor, 0⟩) id = some handling) :
        ctx = passed handling.group ∧ 0 < handling.waits := by
      rw [Function.update_of_ne different] at handles
      refine kept.handled id ctx dead handling ?_ present handles
      rw [idle]
      exact Control.noConfusion
    refine .inr ⟨?_, ?_, ?_, ?_, ?_⟩
    · intro id ctx dead present
      obtain ⟨-, new⟩ | ⟨-, stored⟩ := (Places.update_place ..).mp present
      · cases new
        rfl
      · exact kept.alive id ctx dead stored
    · intro id ctx dead handling present handles
      obtain ⟨rfl, new⟩ | ⟨different, stored⟩ := (Places.update_place ..).mp present
      · dsimp only at handles
        rw [Function.update_self] at handles
        obtain ⟨context, -, rfl⟩ := Option.map_eq_some_iff.mp handles
        cases new
        rfl
      · exact (older id ctx dead handling different stored handles).1
    · intro id ctx dead handling present handles
      obtain ⟨rfl, -⟩ | ⟨different, stored⟩ := (Places.update_place ..).mp present
      · exact .inr rfl
      · exact .inl (older id ctx dead handling different stored handles).2
    · intro id onFiber
      cases onFiber
      exact ⟨_, Function.update_self ..⟩
    · intro id handling onFiber handles
      cases onFiber
      dsimp only at handles
      rw [Function.update_self] at handles
      obtain ⟨context, found, rfl⟩ := Option.map_eq_some_iff.mp handles
      obtain ⟨reqid, current, present⟩ := Option.bind_eq_some_iff.mp found
      have different : reqid ≠ fresh := by
        rintro rfl
        cases absent.symm.trans present
      exact .inr ⟨rfl, reqid, context, current,
        (Function.update_of_ne different ..).trans present, rfl⟩
  case h_2 => exact .inl rfl

/-- The way to a fiber is safe. -/
theorem callIntfOnFiber_safe {actor : Actor} (fresh : Nat) (kept : Kept actor)
    (idle : actor.control = .idle) : Safe (callIntfOnFiber actor fresh) := by
  unfold callIntfOnFiber
  split
  case h_1 id ctx dead current found =>
    have present : actor.contexts id = some ⟨ctx, .fiber dead⟩ := by
      unfold currentContext at found
      rwa [current] at found
    exact .inr (resume_kept kept idle current present)
  case h_2 => exact create_safe fresh kept idle

/-- The call of an interface is safe. -/
theorem invokeMessage_safe {actor : Actor} (message : Message) (sync : Bool) (fresh : Nat)
    (kept : Kept actor) (idle : actor.control = .idle) :
    Safe (invokeMessage actor message sync fresh) := by
  unfold invokeMessage
  split
  · exact .inl rfl
  · split
    · exact callIntfOnFiber_safe fresh kept idle
    · exact .inr (kept_of_idle actor.currentCtx kept idle
        fun _ => Control.noConfusion)

/-- A group that completes keeps its pointer. -/
theorem gather_kept {actor : Actor} {reqid : Nat} {ctx : Pointer} {done : Bool}
    (kept : Kept actor) (present : actor.contexts reqid = some ⟨ctx, .group done⟩) :
    Kept { actor with
      contexts := Function.update actor.contexts reqid (some ⟨ctx, .group true⟩) } := by
  refine kept_of_contexts kept ?_ ?_
  · intro id saved dead
    rw [Places.update_place]
    constructor
    · rintro (⟨-, complete⟩ | ⟨-, stored⟩)
      · cases complete
      · exact stored
    · intro stored
      refine .inr ⟨?_, stored⟩
      rintro rfl
      cases present.symm.trans stored
  · intro id context stored
    by_cases same : id = reqid
    · subst same
      cases present.symm.trans stored
      exact ⟨_, Function.update_self .., rfl⟩
    · exact ⟨context, (Function.update_of_ne same ..).trans stored, rfl⟩

theorem step_runs (actor next : Actor) (action : Action) (taken : step actor action = some next) :
    actor.control ≠ .halted := by
  intro halted
  cases action <;> simp [step, halted, Control.runs] at taken

/-- Every step is safe. -/
theorem step_safe (actor : Actor) (action : Action) (next : Actor) (safe : Safe actor)
    (taken : step actor action = some next) : Safe next := by
  have kept : Kept actor := safe.resolve_left (step_runs actor next action taken)
  cases action with
  | receive message sync fresh =>
    simp only [step, Option.ite_none_right_eq_some, Option.some.injEq] at taken
    obtain ⟨idle, rfl⟩ := taken
    obtain ⟨current, found⟩ := setCurrentCtx_spec actor message
    rw [found]
    refine invokeMessage_safe message sync fresh ?_ idle
    exact idle ▸ kept_of_idle current kept idle fun _ => Control.noConfusion
  | send reqid | scatter reqid =>
    simp only [step, Option.ite_none_right_eq_some, Option.some.injEq] at taken
    obtain ⟨-, rfl⟩ := taken
    exact insertReqCtx_safe reqid kept fun _ => Shape.noConfusion
  | gather =>
    dsimp only [step] at taken
    split at taken <;> cases taken
    case h_1 ctx done runs present => exact .inr (gather_kept kept present)
  | wait =>
    dsimp only [step] at taken
    split at taken <;> cases taken
    case h_1 => exact .inl rfl
    case h_2 id onFiber => exact .inr (waitResponse_kept kept onFiber)
  | finish =>
    dsimp only [step] at taken
    split at taken <;> cases taken
    case h_1 onThread =>
      refine .inr (endTurn_kept kept.alive fun id ctx dead handling => ?_)
      refine kept.handled id ctx dead handling ?_
      rw [onThread]
      exact Control.noConfusion
    case h_2 id onFiber => exact .inr (returnFromFiber_kept kept onFiber)

/-- In every run, an interface on a fiber that handles a response finds the pointer that the
request was sent with exactly if it has not waited yet, or if the pointer is the one that it was
called with itself: null, for a response. -/
theorem run_getSavedCtx_iff (schedule : List Action) (actor : Actor) (id : Nat)
    (handling : Handling) (executed : run step start schedule = some actor)
    (onFiber : actor.control = .fiber id) (handles : actor.handling id = some handling) :
    getSavedCtx actor = some handling.ctx ↔
      handling.waits = 0 ∨ handling.ctx = passed handling.group := by
  have safe : Safe actor := run_invariant step Safe step_safe start actor schedule
    (.inr start_kept) executed
  have kept : Kept actor := safe.resolve_left (by rw [onFiber]; exact Control.noConfusion)
  unfold getSavedCtx
  obtain ⟨waited, current⟩ | ⟨fresh, reqid, context, current, present, saved⟩ :=
    kept.current id handling onFiber handles
  · obtain ⟨ctx, stored⟩ := kept.stored id onFiber
    have own : ctx = passed handling.group := kept.own id ctx false handling stored handles
    simp only [current, stored, Option.map_some, Option.some.injEq, own]
    exact ⟨fun same => .inr same.symm,
      fun either => (either.resolve_left (Nat.ne_of_gt waited)).symm⟩
  · simp only [current, present, Option.map_some, saved, fresh, true_or]

/-- A normal interface sends a request with a pointer, and its response is handled by an
interface on fiber 2, which waits a number of times. -/
def handlerWaits (ctx : Pointer) (waits : Nat) : List Action :=
  [.receive .request false 0, .send 1 ctx, .finish, .receive (.response 1) true 2] ++
    (List.replicate waits [.wait, .receive (.response 2) true 3]).flatten

/-- A handler finds the pointer before its first wait, and null after two waits if the request
was sent with null. -/
theorem getSavedCtx_found :
    (∃ actor, run step start (handlerWaits (.user 7) 0) = some actor ∧
      getSavedCtx actor = some (.user 7)) ∧
    ∃ actor, run step start (handlerWaits .null 2) = some actor ∧
      getSavedCtx actor = some .null :=
  ⟨⟨_, rfl, (run_getSavedCtx_iff (handlerWaits (.user 7) 0) _ 2 ⟨.user 7, none, 0⟩
      rfl rfl rfl).mpr (.inl rfl)⟩,
    ⟨_, rfl, (run_getSavedCtx_iff (handlerWaits .null 2) _ 2 ⟨.null, none, 2⟩
      rfl rfl rfl).mpr (.inr rfl)⟩⟩

/-- A request is sent with a pointer, and the handler of its response waits once: the pointer
that it finds is null. -/
theorem getSavedCtx_lost :
    ∃ actor, run step start (handlerWaits (.user 7) 1) = some actor ∧
      actor.control = .fiber 2 ∧ actor.handling 2 = some ⟨.user 7, none, 1⟩ ∧
      getSavedCtx actor = some .null :=
  ⟨_, rfl, rfl, rfl, rfl⟩

end Mola.SavedContexts
