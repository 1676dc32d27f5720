import Mola.Dispatch
import Mola.Tickets

/-!
# Dispatching a request

An actor that sends a request and wants the answer at one of its interfaces draws a
request id, dispatches the message, and then records a context under the id that it
reads back from the message. If the dispatch fails, the id goes back to the actor.

The dispatch passes a message for another node to the buffers of a connection and
leaves the handle nil, so the id cannot be read back. A message that is lost without a
report leaves a context that nothing will answer. The theorem of this module says that
these are the only two ways in which a request and its context come apart.

The callers above this function and the handling of the answer are not modelled here.
-/

namespace Mola.RequestDispatch

open Dispatch Tickets

/-- What a request waits with: the message on whose behalf it was sent, and the pointer
that the caller gave. -/
structure Context where
  initiator : Option Message
  ctx : Nat

/-- The part of an actor that requests use. The recycled ids are words. -/
structure Requester where
  id : ActorID
  reqids : Dispenser
  contexts : AList fun _ : UInt32 => Context
  currentCtx : Option Context
  currentMessage : Option Message
  fits : ∀ number ∈ reqids.recycle, number < 2 ^ 32

/-- The process ended by an assertion, or by reading through a nil handle, or the call
returned a code and the handle, with the actor and the world that it left. -/
inductive Outcome where
  | aborted
  | nullPointer
  | returned (code : Int) (handle : Option Message) (requester : Requester) (world : World)

/-- An issued number is taken from the recycled ones, which otherwise stay. -/
theorem issue_recycle_subset (limit : Nat) (dispenser : Dispenser) :
    ∀ number ∈ (issue limit dispenser).2.recycle, number ∈ dispenser.recycle := by
  intro number member
  unfold issue at member
  split at member
  · rename_i rest same
    rw [same]
    exact List.mem_cons_of_mem _ member
  · rename_i empty
    rwa [empty] at member ⊢

/-- `new_reqid`. -/
def newReqid (requester : Requester) : UInt32 × Requester :=
  let issued := issue (2 ^ 32) requester.reqids
  (UInt32.ofNat issued.1, { requester with
    reqids := issued.2
    fits := fun number member =>
      requester.fits number (issue_recycle_subset (2 ^ 32) requester.reqids number member) })

/-- `release_reqid`. -/
def releaseReqid (requester : Requester) (reqid : UInt32) : Requester :=
  { requester with
    reqids := giveBack requester.reqids reqid.toNat
    fits := by
      intro number member
      rcases List.mem_cons.mp member with rfl | old
      · exact reqid.toNat_lt
      · exact requester.fits number old }

/-- The message on whose behalf the actor acts. -/
def initiatorOf (requester : Requester) : Option Message :=
  match requester.currentCtx with
  | some context => context.initiator
  | none => requester.currentMessage

/-- `on_async_send_done`. The id must not have a context yet. -/
def onAsyncSendDone (requester : Requester) (message : Message) (ctx : Nat) :
    Option Requester :=
  match requester.contexts.lookup message.metadata.reqid with
  | some _ => none
  | none => some { requester with
      contexts := requester.contexts.insert message.metadata.reqid
        ⟨initiatorOf requester, ctx⟩ }

/-- The message as it is dispatched: the target, the actor as the sender, and the type
of a request. With an interface for the answer, the sender names it. -/
def address (requester : Requester) (target : ActorID) (message : Message)
    (returnIntf : UInt32) : Message :=
  let sender :=
    if returnIntf = ActorID.any then requester.id else requester.id.setIntfId returnIntf
  ((message.setTarget target).setSender sender).setType Metadata.typeRequest

/-- What follows the dispatch of a message with a new id. The handle is read in both
branches. -/
def settle (requester : Requester) (ctx : Nat) (code : Int) (handle : Option Message)
    (world : World) : Outcome :=
  match handle with
  | none => .nullPointer
  | some message =>
      if code = 0 then
        match onAsyncSendDone requester message ctx with
        | none => .aborted
        | some requester => .returned code handle requester world
      else .returned code handle (releaseReqid requester message.metadata.reqid) world

/-- `Dispatcher::dispatch` for a request of the current actor. -/
def dispatchRequest (requester : Requester) (world : World) (target : ActorID)
    (message : Message) (returnIntf : UInt32) (ctx : Nat) : Outcome :=
  let addressed := address requester target message returnIntf
  let thread := Thread.worker (some requester.id)
  if returnIntf ≠ ActorID.any ∧ message.metadata.reqid = 0 then
    let (reqid, requester) := newReqid requester
    match dispatch thread world (addressed.setReqid reqid) with
    | .aborted => .aborted
    | .returned code handle world => settle requester ctx code handle world
  else
    match dispatch thread world addressed with
    | .aborted => .aborted
    | .returned code handle world => .returned code handle requester world

/-- The message with its new id. -/
def request (requester : Requester) (target : ActorID) (message : Message)
    (returnIntf : UInt32) : Message :=
  (address requester target message returnIntf).setReqid (newReqid requester).1

/-- A request and its context are created or released together. If the call returns
zero, the handle still has the id, the context is the one new entry, and the message was
handed over. Otherwise the contexts are the old ones and the id was given back. -/
def Linked (requester : Requester) (world : World) (sent : Message) (ctx : Nat) :
    Outcome → Prop
  | .aborted => True
  | .nullPointer => False
  | .returned code handle final after =>
      (∃ read, handle = some read ∧ read.metadata.reqid = sent.metadata.reqid) ∧
      (code = 0 →
        requester.contexts.lookup sent.metadata.reqid = none ∧
        final.contexts = requester.contexts.insert sent.metadata.reqid
          ⟨initiatorOf requester, ctx⟩ ∧
        HandedOver (.worker (some requester.id)) world after sent) ∧
      (code ≠ 0 →
        final.contexts = requester.contexts ∧
        final.reqids = giveBack (newReqid requester).2.reqids sent.metadata.reqid.toNat)

/-- The node has a connection or gets one. -/
def connected (world : World) (node : Node) : Bool :=
  node.client.isSome || world.accepting node.endpoint

/-- A request that is given to a node comes apart from its context: it is passed to
another node's connection, or it is lost although its id is free. -/
def forwardSevers (thread : Thread) (world : World) (message : Message) (free : Bool) : Bool :=
  match findNode thread world message.metadata.target.dnodeId with
  | some (none, looked) => isWorker thread && looked.singleNode && free
  | some (some (.peer place), looked) =>
      match looked.peers[place]? with
      | some node =>
          node.id != invalidId && sentByModule thread message && (connected looked node || free)
      | none => false
  | _ => false

/-- A request comes apart from its context. -/
def severs (requester : Requester) (world : World) (sent : Message) : Bool :=
  match forwarded world sent with
  | some traveller =>
      forwardSevers (.worker (some requester.id)) world traveller
        (requester.contexts.lookup sent.metadata.reqid).isNone
  | none => false

variable {world : World} {message : Message}

theorem travels_reqid {sent : Message} (travels : Travels message sent) :
    sent.metadata.reqid = message.metadata.reqid := by
  rcases travels with rfl | rfl <;> rfl

/-- A peer with a connection, or that gets one, takes the handle. -/
theorem deliverMessage_passes {place : Nat} {node : Node} (message : Message)
    (present : world.peers[place]? = some node) (linked : connected world node = true) :
    ∃ code after, deliverMessage world (.peer place) message = some (code, none, after) := by
  cases client : node.client with
  | some opened =>
    refine ⟨0, writeMessage world place node opened message, ?_⟩
    simp only [deliverMessage, present, getClient, client]
  | none =>
    have accepts : world.accepting node.endpoint = true := by simpa [connected, client] using linked
    simp only [deliverMessage, present, getClient, client, accepts, if_true]
    exact ⟨0, _, rfl⟩

theorem deliverMessage_refused {place : Nat} {node : Node} (message : Message)
    (present : world.peers[place]? = some node) (apart : connected world node = false) :
    deliverMessage world (.peer place) message = some (-1, some message, world) := by
  have none_ : node.client = none ∧ world.accepting node.endpoint = false := by
    simpa [connected] using apart
  simp only [deliverMessage, present, getClient, none_.1, none_.2, Bool.false_eq_true, if_false]

/-- A message that is not severed keeps its handle, and is handed over if the call
returns zero and the id is free. -/
theorem forward_keeps {thread : Thread} {after : World} {sent : Message} {code : Int}
    {handle : Option Message} {free : Bool} (travels : Travels message sent)
    (keeps : forwardSevers thread world sent free = false)
    (result : forward thread world sent = .returned code handle after) :
    (∃ read, handle = some read ∧ read.metadata.reqid = sent.metadata.reqid) ∧
      (code = 0 → free = true → HandedOver thread world after message) := by
  cases forward_forwarded thread world after sent code handle result with
  | putOff looked search worker =>
    refine ⟨⟨sent, rfl, rfl⟩, ?_⟩
    rintro - rfl
    obtain ⟨fresh, alive, cache, needSync, -, rfl⟩ :=
      findNode_looked thread world looked _ none search
    have pool : world.singleNode = false := by
      simpa [forwardSevers, search, worker] using keeps
    exact .delayed sent travels (by simp [addDelayTask, pool])
  | refused | invalid =>
    refine ⟨⟨sent, rfl, rfl⟩, ?_⟩
    intro zero
    cases zero
  | given pointer node looked after inner handle search present valid own delivery =>
    cases pointer with
    | own =>
      obtain ⟨key, actor, target, rfl, entry⟩ :=
        deliverMessage_own looked after sent inner handle delivery
      obtain ⟨fresh, alive, cache, needSync, -, rfl⟩ :=
        findNode_looked thread world looked _ _ search
      exact ⟨⟨_, rfl, rfl⟩, fun _ _ => .mailbox sent travels key actor target entry⟩
    | peer place =>
      have inTable : looked.peers[place]? = some node := present
      have apart : connected looked node = false ∧ free = false := by
        simpa [forwardSevers, search, inTable, valid, own] using keeps
      rw [deliverMessage_refused sent inTable apart.1] at delivery
      obtain ⟨-, rfl, -⟩ := (by simpa only [Option.some.injEq, Prod.mk.injEq] using delivery :
        -1 = inner ∧ some sent = handle ∧ looked = after)
      refine ⟨⟨sent, rfl, rfl⟩, ?_⟩
      rintro - rfl
      exact absurd apart.2 Bool.true_eq_false.mp

/-- A message that is severed is reported as sent. Either its handle is nil, or its id is
free and nothing holds it. -/
theorem forward_severed {thread : Thread} {free : Bool}
    (apart : forwardSevers thread world message free = true) :
    ∃ handle after, forward thread world message = .returned 0 handle after ∧
      (handle = none ∨ free = true ∧ handle = some message ∧ after.inboxes = world.inboxes ∧
        after.delayed = world.delayed ∧ ∀ place, accepted after place = accepted world place) := by
  unfold forwardSevers at apart
  cases search : findNode thread world message.metadata.target.dnodeId with
  | none => simp [search] at apart
  | some answer =>
    obtain ⟨found, looked⟩ := answer
    have frame := findNode_looked thread world looked _ found search
    have connections := looked_accepted world looked frame
    have still : looked.inboxes = world.inboxes ∧ looked.delayed = world.delayed := by
      obtain ⟨fresh, alive, cache, needSync, -, rfl⟩ := frame
      exact ⟨rfl, rfl⟩
    simp only [search] at apart
    cases found with
    | none =>
      obtain ⟨⟨worker, noPool⟩, unused⟩ :=
        (by simpa only [Bool.and_eq_true] using apart :
          (isWorker thread = true ∧ looked.singleNode = true) ∧ free = true)
      cases thread with
      | worker =>
        refine ⟨some message, looked, ?_, Or.inr ⟨unused, rfl, still.1, still.2, connections⟩⟩
        simp only [forward, search, addDelayTask, noPool, if_true]
      | outside | helper => exact absurd worker Bool.false_ne_true
    | some pointer =>
      cases pointer with
      | own => cases apart
      | peer place =>
        dsimp only at apart
        cases inTable : looked.peers[place]? with
        | none => simp [inTable] at apart
        | some node =>
          simp only [inTable, Bool.and_eq_true, bne_iff_ne, Bool.or_eq_true] at apart
          obtain ⟨⟨valid, own⟩, cause⟩ := apart
          by_cases linked : connected looked node = true
          · obtain ⟨code, after, delivery⟩ :=
              deliverMessage_passes message inTable linked
            refine ⟨none, after, ?_, Or.inl rfl⟩
            simp only [forward, search, deref, inTable, if_neg valid, own, if_true, delivery]
          · have unused : free = true := cause.resolve_left linked
            have delivery := deliverMessage_refused message inTable
              (Bool.eq_false_of_not_eq_true linked)
            refine ⟨some message, looked, ?_,
              Or.inr ⟨unused, rfl, still.1, still.2, connections⟩⟩
            simp only [forward, search, deref, inTable, if_neg valid, own, if_true, delivery]

/-- The dispatch of a request that is not severed keeps the handle, and hands the message
over if it returns zero and the id is free. -/
theorem dispatch_keeps {requester : Requester} {after : World} {sent : Message} {code : Int}
    {handle : Option Message} (keeps : severs requester world sent = false)
    (result : dispatch (.worker (some requester.id)) world sent = .returned code handle after) :
    (∃ read, handle = some read ∧ read.metadata.reqid = sent.metadata.reqid) ∧
      (code = 0 → requester.contexts.lookup sent.metadata.reqid = none →
        HandedOver (.worker (some requester.id)) world after sent) := by
  unfold severs at keeps
  cases passed : forwarded world sent with
  | none =>
    obtain ⟨handed, -, target, rfl⟩ := dispatch_kept _ world after sent code handle passed result
    exact ⟨⟨_, rfl, rfl⟩, fun _ _ => handed⟩
  | some traveller =>
    obtain ⟨path, travels, -⟩ := dispatch_forwarded (.worker (some requester.id)) world sent
      traveller passed
    rw [passed] at keeps
    rw [path] at result
    obtain ⟨⟨read, same, reqid⟩, handed⟩ := forward_keeps
      travels keeps result
    refine ⟨⟨read, same, reqid.trans (travels_reqid travels)⟩, ?_⟩
    intro zero unused
    exact handed zero (by rw [unused]; rfl)

/-- What is recorded or released after a dispatch that keeps the handle. -/
theorem settle_linked {requester : Requester} {after : World} {sent : Message} (ctx : Nat)
    {code : Int} {handle : Option Message}
    (read : ∃ read, handle = some read ∧ read.metadata.reqid = sent.metadata.reqid)
    (handed : code = 0 → requester.contexts.lookup sent.metadata.reqid = none →
      HandedOver (.worker (some requester.id)) world after sent) :
    Linked requester world sent ctx (settle (newReqid requester).2 ctx code handle after) := by
  obtain ⟨message, rfl, same⟩ := read
  by_cases zero : code = 0
  · subst zero
    cases present : requester.contexts.lookup message.metadata.reqid with
    | some context =>
      have occupied : (newReqid requester).2.contexts.lookup message.metadata.reqid =
        some context := present
      simp only [settle, onAsyncSendDone, occupied, if_true]
      trivial
    | none =>
      have vacant : (newReqid requester).2.contexts.lookup message.metadata.reqid = none := present
      rw [same] at present
      simp only [settle, onAsyncSendDone, vacant, if_true]
      exact ⟨⟨message, rfl, same⟩, fun _ => ⟨present, by rw [← same]; rfl, handed rfl present⟩,
        fun nonzero => absurd rfl nonzero⟩
  · simp only [settle, if_neg zero, same]
    exact ⟨⟨message, rfl, same⟩, fun isZero => absurd isZero zero, fun _ => ⟨rfl, rfl⟩⟩

/-- A request with id zero that wants an answer stays linked to its context for exactly
the inputs that are not severed. -/
theorem request_linked (requester : Requester) (world : World) (target : ActorID)
    (message : Message) (returnIntf : UInt32) (ctx : Nat) (unnumbered : message.metadata.reqid = 0)
    (answered : returnIntf ≠ ActorID.any) :
    Linked requester world (request requester target message returnIntf) ctx
        (dispatchRequest requester world target message returnIntf ctx) ↔
      severs requester world (request requester target message returnIntf) = false := by
  have unfolded : dispatchRequest requester world target message returnIntf ctx =
      match dispatch (.worker (some requester.id)) world
        (request requester target message returnIntf) with
      | .aborted => .aborted
      | .returned code handle after => settle (newReqid requester).2 ctx code handle after := by
    simp only [dispatchRequest, answered, unnumbered, ne_eq, not_false_eq_true, and_self, if_true,
      request]
  rw [unfolded]
  generalize request requester target message returnIntf = sent
  constructor
  · intro linked
    by_contra apart
    replace apart : severs requester world sent = true := Bool.eq_true_of_not_eq_false apart
    unfold severs at apart
    cases passed : forwarded world sent with
    | none => simp [passed] at apart
    | some traveller =>
      rw [passed] at apart
      obtain ⟨path, travels, unread⟩ := dispatch_forwarded (.worker (some requester.id)) world sent
        traveller passed
      obtain ⟨handle, after, result, lost⟩ := forward_severed apart
      rw [path, result] at linked
      rcases lost with rfl | ⟨unused, rfl, inboxes, delayed, connections⟩
      · exact linked
      · have same := travels_reqid travels
        have vacant : (newReqid requester).2.contexts.lookup traveller.metadata.reqid = none := by
          rw [same]
          exact Option.isNone_iff_eq_none.mp unused
        simp only [settle, onAsyncSendDone, vacant, if_true] at linked
        exact unmoved_not_handedOver _ world after sent inboxes delayed connections unread
          (linked.2.1 rfl).2.2
  · intro keeps
    cases result : dispatch (.worker (some requester.id)) world sent with
    | aborted => trivial
    | returned =>
      obtain ⟨read, handed⟩ := dispatch_keeps keeps result
      exact settle_linked ctx read handed

/-- An actor of module 7 that has sent nothing. -/
def clerk : Requester where
  id := ⟨1, 7, 0, 1⟩
  reqids := ⟨0, []⟩
  contexts := ∅
  currentCtx := none
  currentMessage := none
  fits := nofun

/-- A request for a node that is not known yet waits in the pool, with its context. -/
theorem request_linked_unknown :
    errand.metadata.reqid = 0 ∧ (4 : UInt32) ≠ ActorID.any ∧
      Linked clerk (outpost false none) (request clerk ⟨2, 7, 3, 1⟩ errand 4) 5
        (dispatchRequest clerk (outpost false none) ⟨2, 7, 3, 1⟩ errand 4 5) :=
  ⟨rfl, by decide, (request_linked clerk (outpost false none) ⟨2, 7, 3, 1⟩ errand 4 5 rfl
    (by decide)).mpr (by decide)⟩

/-- A request for a node with an open connection is passed to it, and its id is then read
through the nil handle. -/
theorem remote_request_unlinked :
    ¬Linked clerk (outpost false (some ⟨2, 9, .little, some ⟨false, []⟩⟩))
      (request clerk ⟨2, 7, 3, 1⟩ errand 4) 5
      (dispatchRequest clerk (outpost false (some ⟨2, 9, .little, some ⟨false, []⟩⟩))
        ⟨2, 7, 3, 1⟩ errand 4 5) := by
  have crashed : dispatchRequest clerk (outpost false (some ⟨2, 9, .little, some ⟨false, []⟩⟩))
      ⟨2, 7, 3, 1⟩ errand 4 5 = .nullPointer := rfl
  rw [crashed]
  exact id

end Mola.RequestDispatch
