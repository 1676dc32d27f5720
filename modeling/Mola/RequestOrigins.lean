import Mola.Ledger
import Mola.RequestIds

/-!
# Where the answers of an actor come from

An answer is made from a message that the actor remembers: the message that it handles,
or an initiator in a context, in a saved return state or in a gather callback. The laws
here carry a property of messages through every step: if all remembered messages have
it, then every answer is made from a message that has it, and so on.

Two kinds of steps break this. The value that an interface returns for a gather message
is dispatched to the sender of that message. And what is started while an answer without
a context is handled is recorded for the answer itself.
-/

namespace Mola.Requests

open Tickets

universe u
variable {Body : Type u}

/-- A response with a request id for which there is no context. -/
def strays (message : Message Body) (ctx : Option Nat) : Bool :=
  message.kind = .response ∧ message.reqid ≠ 0 ∧ ctx = none

/-- The callback of such a response. -/
def Frame.stray (frame : Frame Body) : Bool :=
  frame.message.any fun message => strays message frame.ctx

/-- The callback of a gather message. -/
def Frame.gathers (frame : Frame Body) : Bool :=
  frame.message.any fun message => message.kind = .gather

/-- No value is returned for a gather message, and a response without a context starts
nothing that is recorded: no request with an answer, no scatter, no saved return state
and no fiber. -/
def keepsOrigins (actor : Actor Body) (act : Act Body) : Bool :=
  match actor.status, act with
  | .idle, .receive message =>
      !(actor.sync message.target.intf &&
        strays message ((findReqCtx actor message.reqid).map fun _ => message.reqid))
  | .running frame, .send _ (some _) _ .kept => !frame.stray
  | .running frame, .scatter _ _ => !frame.stray
  | .running frame, .save _ => !frame.stray
  | .running frame, .finish (some _) => !frame.gathers
  | _, _ => true

section
variable (safe : Message Body → Prop)

/-- The initiator that a stage has copied has the property. -/
def Stage.Held : Stage Body → Prop
  | .interface => True
  | .gather _ initiator => ∀ message ∈ initiator, safe message

/-- The initiators that a context remembers have the property. -/
def Context.Held (context : Context Body) : Prop :=
  (∀ message ∈ context.initiator, safe message) ∧
    ∀ stage, context.shape = .fiber (.suspend stage) → stage.Held safe

/-- The messages of a frame have the property, unless it handles an answer. Its fiber has
an id of the actor and was not started by a response without a context, and a gather
message has a context. -/
structure Frame.Held (issued : List Nat) (frame : Frame Body) : Prop where
  stage : frame.stage.Held safe
  fiber : ∀ fiber ∈ frame.fiber, fiber ∈ issued
  message : ∀ message ∈ frame.message, message.isCall = true ∨ message.reqid = 0 → safe message
  gather : ∀ message ∈ frame.message, message.kind = .gather → frame.ctx ≠ none
  started : frame.fiber ≠ none → frame.stray = false

/-- All remembered messages have the property, and contexts are stored under ids of the
actor. -/
structure Clean (actor : Actor Body) : Prop where
  contexts : ∀ reqid context, findReqCtx actor reqid = some context →
    reqid ∈ actor.issued ∧ context.Held safe
  saved : ∀ handle saved, actor.saved.lookup handle = some saved →
    ∀ message ∈ saved.initiator, safe message
  frame : ∀ frame, actor.status = .running frame → frame.Held safe actor.issued

/-- A request has an id of the actor, or none, and an answer is made from a message with
the property. -/
def Effect.Traced (self : Address) (issued : List Nat) : Effect Body → Prop
  | .sent message => message.isCall = true ∧ message.sender.actor = self.actor ∧
      (message.reqid = 0 ∨ message.reqid ∈ issued)
  | .replied _ message => ∃ request, safe request ∧ message.isCall = false ∧
      message.reqid = request.reqid ∧ message.sender = self ∧ message.target = request.sender ∧
      message.call = request.call
  | _ => True

/-- What a step from a clean actor does: it stays clean and keeps its name and its ids,
and its effects are traced. -/
structure Tracks (before : Actor Body) (result : Actor Body × List (Effect Body)) : Prop where
  clean : Clean safe result.1
  self : result.1.self = before.self
  issued : before.issued ⊆ result.1.issued
  effects : ∀ effect ∈ result.2, effect.Traced safe before.self result.1.issued

end

theorem Stage.Held.mono {safe weaker : Message Body → Prop}
    (implies : ∀ message, safe message → weaker message) {stage : Stage Body}
    (held : stage.Held safe) : stage.Held weaker := by
  cases stage with
  | interface => trivial
  | gather => exact fun message found => implies message (held message found)

/-- The same for an actor. -/
theorem Clean.mono {safe weaker : Message Body → Prop}
    (implies : ∀ message, safe message → weaker message) {actor : Actor Body}
    (clean : Clean safe actor) : Clean weaker actor where
  contexts reqid context found := by
    obtain ⟨own, initiator, suspended⟩ := clean.contexts reqid context found
    exact ⟨own, fun message same => implies message (initiator message same),
      fun stage shape => (suspended stage shape).mono implies⟩
  saved handle saved found message same :=
    implies message (clean.saved handle saved found message same)
  frame frame runs := by
    have held := clean.frame frame runs
    exact ⟨held.stage.mono implies, held.fiber,
      fun message same own => implies message (held.message message same own), held.gather,
      held.started⟩

variable {safe : Message Body → Prop} {actor : Actor Body}

theorem Frame.Held.grow {issued more : List Nat} {frame : Frame Body}
    (held : frame.Held safe issued) (grows : issued ⊆ more) : frame.Held safe more :=
  ⟨held.stage, fun fiber same => grows (held.fiber fiber same), held.message, held.gather,
    held.started⟩

/-- The tables stay clean when the ids grow and the actor goes on in a held frame, if it
goes on at all. -/
theorem Clean.carry (clean : Clean safe actor) (after : Actor Body)
    (contexts : after.contexts = actor.contexts) (saved : after.saved = actor.saved)
    (issued : actor.issued ⊆ after.issued)
    (frame : ∀ frame, after.status = .running frame → frame.Held safe after.issued) :
    Clean safe after where
  contexts reqid context found := by
    have before : findReqCtx actor reqid = some context := by
      unfold findReqCtx at found ⊢
      rw [← contexts]
      exact found
    obtain ⟨own, held⟩ := clean.contexts reqid context before
    exact ⟨issued own, held⟩
  saved handle state found := clean.saved handle state (saved ▸ found)
  frame := frame

theorem Clean.halt (clean : Clean safe actor) (reason : Halt) :
    Clean safe (halt actor reason) :=
  clean.carry _ rfl rfl (List.Subset.refl _) fun _ runs => nomatch runs

/-- An actor that goes on in a held frame is clean. -/
theorem Clean.resume (clean : Clean safe actor) (frame : Frame Body)
    (held : frame.Held safe actor.issued) : Clean safe (resume actor frame) := by
  apply clean.carry
  · rfl
  · rfl
  · exact List.Subset.refl _
  · intro other runs
    obtain rfl := Status.running.inj runs
    exact held

theorem Clean.newReqid (clean : Clean safe actor) : Clean safe (newReqid actor).2 :=
  clean.carry _ rfl rfl (List.subset_cons_self _ _)
    fun frame runs => (clean.frame frame runs).grow (List.subset_cons_self _ _)

theorem Clean.nextCall (clean : Clean safe actor) : Clean safe (nextCall actor) :=
  clean.carry _ rfl rfl (List.Subset.refl _) clean.frame

theorem Clean.releaseReqid (clean : Clean safe actor) (reqid : Nat) :
    Clean safe (releaseReqid actor reqid) :=
  clean.carry _ rfl rfl (List.Subset.refl _) clean.frame

/-- Storing a held context under an id of the actor keeps it clean. -/
theorem Clean.assignReqCtx (clean : Clean safe actor) (reqid : Nat) (context : Context Body)
    (own : reqid ∈ actor.issued) (held : context.Held safe) :
    Clean safe (assignReqCtx actor reqid context) where
  contexts other found same := by
    unfold findReqCtx at same
    by_cases equal : other = reqid
    · subst equal
      have stored : some context = some found := by
        rw [← same]
        exact (AList.lookup_insert actor.contexts).symm
      exact Option.some.inj stored ▸ ⟨own, held⟩
    · exact clean.contexts other found ((AList.lookup_insert_ne equal).symm.trans same)
  saved := clean.saved
  frame := clean.frame

theorem Clean.insertReqCtx (clean : Clean safe actor) (reqid : Nat) (context : Context Body)
    (own : reqid ∈ actor.issued) (held : context.Held safe) :
    Clean safe (insertReqCtx actor reqid context) := by
  unfold Requests.insertReqCtx
  split
  · exact clean.assignReqCtx reqid context own held
  · exact clean.halt .insertAssertion

/-- A change that keeps contexts held keeps an actor clean. -/
theorem Clean.updateReqCtx (clean : Clean safe actor) (reqid : Nat)
    (change : Context Body → Context Body)
    (keeps : ∀ context, context.Held safe → (change context).Held safe) :
    Clean safe (updateReqCtx actor reqid change) := by
  unfold Requests.updateReqCtx
  split
  · exact clean
  · rename_i context found
    obtain ⟨own, held⟩ := clean.contexts reqid context found
    exact clean.assignReqCtx reqid (change context) own (keeps context held)

/-- Deleting a context keeps an actor clean. -/
theorem Clean.deleteReqCtx (clean : Clean safe actor) (reqid : Nat) :
    Clean safe (deleteReqCtx actor reqid).1 := by
  unfold Requests.deleteReqCtx
  split
  · exact clean
  · split
    · constructor
      · intro other context found
        apply clean.contexts other context
        by_cases equal : other = reqid
        · subst equal
          change (actor.contexts.erase other).lookup other = some context at found
          rw [AList.lookup_erase] at found
          cases found
        · exact (AList.lookup_erase_ne equal).symm.trans found
      · exact clean.saved
      · exact clean.frame
    · exact clean

theorem Clean.endExecute (clean : Clean safe actor) (frame : Frame Body) :
    Clean safe (endExecute actor frame).1 := by
  unfold Requests.endExecute
  cases frame.ctx with
  | none => exact clean.carry _ rfl rfl (List.Subset.refl _) fun _ runs => nomatch runs
  | some reqid =>
    exact (clean.deleteReqCtx reqid).carry _ rfl rfl (List.Subset.refl _) fun _ runs => nomatch runs

/-- What a frame starts is recorded for a message with the property, unless the frame
handles an answer without a context. -/
theorem Clean.initiatorOf (clean : Clean safe actor) (frame : Frame Body)
    (held : frame.Held safe actor.issued) (usual : frame.stray = false) :
    ∀ message ∈ initiatorOf actor frame, safe message := by
  intro message found
  unfold Requests.initiatorOf at found
  cases ctx : frame.ctx with rw [ctx] at found
  | some reqid =>
    obtain ⟨context, stored, initiator⟩ := Option.bind_eq_some_iff.mp found
    exact (clean.contexts reqid context stored).2.1 message initiator
  | none =>
    apply held.message message found
    have usually : strays message none = false := by
      unfold Frame.stray at usual
      have handled : frame.message = some message := found
      rw [ctx, handled] at usual
      exact usual
    have answered : message.kind ≠ .gather := fun kind => held.gather message found kind ctx
    unfold strays at usually
    unfold Message.isCall
    cases kind : message.kind with
    | request | scatter => simp
    | gather => exact absurd kind answered
    | response => simpa [kind] using usually

theorem replyTo_traced (issued : List Nat) (source : Source) {request : Message Body} (body : Body)
    (own : safe request) :
    (Effect.replied source (replyTo actor request body)).Traced safe actor.self issued := by
  refine ⟨request, own, ?_, rfl, rfl, rfl, rfl⟩
  by_cases scatter : request.kind = .scatter <;> simp [replyTo, Message.isCall, scatter]

theorem Clean.onAsyncSendDone (clean : Clean safe actor) (frame : Frame Body)
    (held : frame.Held safe actor.issued) (usual : frame.stray = false) (reqid : Nat)
    (own : reqid ∈ actor.issued) : Clean safe (onAsyncSendDone actor frame reqid) :=
  clean.insertReqCtx reqid _ own ⟨clean.initiatorOf frame held usual, fun _ shape => nomatch shape⟩

theorem Clean.onScatterDone (clean : Clean safe actor) (frame : Frame Body)
    (held : frame.Held safe actor.issued) (usual : frame.stray = false) (reqid size : Nat)
    (own : reqid ∈ actor.issued) : Clean safe (onScatterDone actor frame reqid size) := by
  apply clean.insertReqCtx reqid _ own
  refine ⟨clean.initiatorOf frame held usual, ?_⟩
  intro stage shape
  cases shape

theorem insertReqCtx_self (actor : Actor Body) (reqid : Nat) (context : Context Body) :
    (insertReqCtx actor reqid context).self = actor.self := by
  unfold insertReqCtx
  split <;> rfl

theorem insertReqCtx_keeps (actor : Actor Body) (reqid : Nat) (context : Context Body) :
    actor.issued ⊆ (insertReqCtx actor reqid context).issued := by
  rw [insertReqCtx_issued]
  exact List.Subset.refl _

/-- A request is traced. It is recorded for a message with the property when it has a
return interface and the dispatch succeeds. -/
theorem dispatch_tracks (clean : Clean safe actor) (frame : Frame Body)
    (held : frame.Held safe actor.issued) (reqid : Nat) (target : Address)
    (returnIntf : Option Nat) (body : Body) (outcome : Outcome)
    (own : reqid = 0 ∨ reqid ∈ actor.issued)
    (usual : reqid = 0 → returnIntf ≠ none → outcome = .kept → frame.stray = false) :
    Tracks safe actor (dispatch actor frame reqid target returnIntf body outcome) := by
  unfold dispatch
  cases returnIntf with
  | none =>
    refine ⟨clean, rfl, List.Subset.refl _, ?_⟩
    dsimp only
    split
    · exact List.forall_mem_nil _
    · exact List.forall_mem_singleton.mpr ⟨rfl, rfl, own⟩
  | some intf =>
    dsimp only
    split
    · rename_i fresh
      have drawn := clean.nextCall.newReqid
      have new : (newReqid (nextCall actor)).1 ∈ (newReqid (nextCall actor)).2.issued :=
        List.mem_cons_self
      have more : actor.issued ⊆ (newReqid (nextCall actor)).2.issued := List.subset_cons_self _ _
      cases outcome with
      | kept =>
        have plain := usual fresh (Option.some_ne_none intf) rfl
        refine ⟨drawn.onAsyncSendDone frame (held.grow more) plain _ new,
          insertReqCtx_self _ _ _, ?_, ?_⟩
        · exact List.Subset.trans more (insertReqCtx_keeps _ _ _)
        · refine List.forall_mem_cons.mpr ⟨trivial, List.forall_mem_singleton.mpr ⟨rfl, rfl, ?_⟩⟩
          exact Or.inr (insertReqCtx_keeps _ _ _ new)
      | passed =>
        exact ⟨drawn.halt _, rfl, more, List.forall_mem_singleton.mpr ⟨rfl, rfl, Or.inr new⟩⟩
      | failed => exact ⟨drawn.releaseReqid _, rfl, more, List.forall_mem_nil _⟩
    · split
      · exact ⟨clean, rfl, List.Subset.refl _, List.forall_mem_nil _⟩
      · refine ⟨clean.nextCall, rfl, List.Subset.refl _, ?_⟩
        exact List.forall_mem_cons.mpr ⟨trivial, List.forall_mem_singleton.mpr ⟨rfl, rfl, own⟩⟩

/-- A scatter is traced. -/
theorem scatterToIntf_tracks (clean : Clean safe actor) {frame : Frame Body}
    (held : frame.Held safe actor.issued) (usual : frame.stray = false) (gatherIntf : Nat)
    (postings : List (Option (Posting Body))) :
    Tracks safe actor (scatterToIntf actor frame gatherIntf postings) := by
  unfold scatterToIntf
  split
  · exact ⟨clean, rfl, List.Subset.refl _, List.forall_mem_nil _⟩
  · dsimp only
    generalize (if (postings.filterMap fun posting => posting).length = postings.length then
      (postings.filterMap fun posting => posting).filter Posting.accepted else []) = accepted
    have drawn := clean.nextCall.newReqid
    have new : (newReqid (nextCall actor)).1 ∈ (newReqid (nextCall actor)).2.issued :=
      List.mem_cons_self
    have more : actor.issued ⊆ (newReqid (nextCall actor)).2.issued := List.subset_cons_self _ _
    have traced : ∀ (called : Effect Body) (issued : List Nat),
        called.Traced safe actor.self issued →
        (newReqid (nextCall actor)).1 ∈ issued →
        ∀ effect ∈ called :: accepted.map fun posting => Effect.sent
          ⟨.scatter, (newReqid (nextCall actor)).1, { actor.self with intf := gatherIntf },
            posting.target, (newReqid (nextCall actor)).2.calls, posting.body⟩,
          effect.Traced safe actor.self issued := by
      intro called issued first own
      refine List.forall_mem_cons.mpr ⟨first, ?_⟩
      intro effect among
      obtain ⟨posting, -, rfl⟩ := List.mem_map.mp among
      exact ⟨rfl, rfl, Or.inr own⟩
    split
    · split
      · exact ⟨drawn, rfl, more, traced _ _ trivial new⟩
      · exact ⟨drawn.onScatterDone frame (held.grow more) usual _ _ new, insertReqCtx_self _ _ _,
          List.Subset.trans more (insertReqCtx_keeps _ _ _),
          traced _ _ trivial (insertReqCtx_keeps _ _ _ new)⟩
    · exact ⟨drawn.carry _ rfl rfl (List.Subset.refl _) drawn.frame, rfl, more,
        traced _ _ trivial new⟩

theorem Effect.Traced.grow {self : Address} {issued more : List Nat} {effect : Effect Body}
    (traced : effect.Traced safe self issued) (grows : issued ⊆ more) :
    effect.Traced safe self more := by
  cases effect with
  | sent => exact ⟨traced.1, traced.2.1, traced.2.2.imp_right fun own => grows own⟩
  | replied => exact traced
  | _ => trivial

theorem Clean.quietly (before : Actor Body) {after : Actor Body} (clean : Clean safe after)
    (self : after.self = before.self) (issued : after.issued = before.issued) :
    Tracks safe before (after, []) :=
  ⟨clean, self, issued ▸ List.Subset.refl _, List.forall_mem_nil _⟩

/-- One piece of a step after another. -/
theorem Tracks.trans {middle after : Actor Body} {effects more : List (Effect Body)}
    (first : Tracks safe actor (middle, effects)) (second : Tracks safe middle (after, more)) :
    Tracks safe actor (after, effects ++ more) where
  clean := second.clean
  self := second.self.trans first.self
  issued := List.Subset.trans first.issued second.issued
  effects := by
    intro effect among
    rcases List.mem_append.mp among with early | late
    · exact (first.effects effect early).grow second.issued
    · exact first.self ▸ second.effects effect late

theorem updateReqCtx_self (actor : Actor Body) (reqid : Nat)
    (change : Context Body → Context Body) :
    (updateReqCtx actor reqid change).self = actor.self := by
  unfold updateReqCtx
  split <;> rfl

/-- Deleting a context. -/
theorem deleteReqCtx_tracks (clean : Clean safe actor) (reqid : Nat) :
    Tracks safe actor (deleteReqCtx actor reqid) := by
  refine ⟨clean.deleteReqCtx reqid, ?_, ?_, ?_⟩
  · unfold deleteReqCtx
    split
    · rfl
    · split <;> rfl
  · rw [deleteReqCtx_issued]
    exact List.Subset.refl _
  · unfold deleteReqCtx
    split
    · exact List.forall_mem_nil _
    · split
      · exact List.forall_mem_singleton.mpr trivial
      · exact List.forall_mem_nil _

/-- The end of a turn. -/
theorem endExecute_tracks (clean : Clean safe actor) (frame : Frame Body) :
    Tracks safe actor (endExecute actor frame) := by
  have ended := clean.endExecute frame
  unfold endExecute at ended ⊢
  cases ctx : frame.ctx with rw [ctx] at ended
  | none =>
    exact ended.quietly actor rfl rfl
  | some reqid =>
    have deleted := deleteReqCtx_tracks clean reqid
    exact ⟨ended, deleted.self, deleted.issued, deleted.effects⟩

/-- The suspension of a fiber. The stage of its frame is kept in its context. -/
theorem suspendFiber_tracks (clean : Clean safe actor) {frame : Frame Body}
    (held : frame.Held safe actor.issued) (fiber : Nat) :
    Tracks safe actor (suspendFiber actor frame fiber, []) := by
  unfold suspendFiber
  have suspended := clean.updateReqCtx fiber (fun context =>
    { context with shape := .fiber (.suspend frame.stage), call := actor.calls }) (by
      intro context kept
      refine ⟨kept.1, ?_⟩
      intro stage shape
      cases shape
      exact held.stage)
  apply (suspended.resume { frame with fiber := none, stage := .interface } ?_).quietly
  · exact updateReqCtx_self _ _ _
  · exact updateReqCtx_issued _ _ _
  · exact ⟨trivial, nofun, held.message, held.gather, fun absent => absurd rfl absent⟩

/-- A synchronous call. -/
theorem sendAndRecv_tracks (clean : Clean safe actor) {frame : Frame Body}
    (held : frame.Held safe actor.issued) {fiber : Nat} (intf : Nat) (runs : frame.fiber = some fiber)
    (target : Address) (body : Body) (outcome : Outcome) :
    Tracks safe actor (sendAndRecv actor frame fiber intf target body outcome) := by
  have own := held.fiber fiber runs
  have sent := dispatch_tracks clean frame held fiber target (some intf) body outcome (Or.inr own)
    (fun _ _ _ => held.started (runs ▸ Option.some_ne_none fiber))
  unfold sendAndRecv
  generalize dispatch actor frame fiber target (some intf) body outcome = result at sent
  obtain ⟨after, effects⟩ := result
  dsimp only
  split
  · split
    · exact sent
    · have suspended := suspendFiber_tracks sent.clean (held.grow sent.issued) fiber
      have ended := endExecute_tracks suspended.clean frame
      exact sent.trans (suspended.trans ended)
  · exact sent

/-- A saved return state remembers a message with the property. -/
theorem saveReturnState_tracks (clean : Clean safe actor) {frame : Frame Body}
    (held : frame.Held safe actor.issued) (usual : frame.stray = false) (vtab : Option Nat) :
    Tracks safe actor (saveReturnState actor frame vtab) := by
  refine ⟨⟨clean.contexts, ?_, clean.frame⟩, rfl, List.Subset.refl _,
    List.forall_mem_singleton.mpr trivial⟩
  intro handle saved found
  change (actor.saved.insert actor.handles ⟨initiatorOf actor frame, vtab⟩).lookup handle =
    some saved at found
  by_cases equal : handle = actor.handles
  · subst equal
    rw [AList.lookup_insert] at found
    cases found
    exact clean.initiatorOf frame held usual
  · rw [AList.lookup_insert_ne equal] at found
    exact clean.saved handle saved found

variable {result : Actor Body × List (Effect Body)} {message : Message Body}

/-- `ReplyMsg` answers the message of a saved return state. -/
theorem replyMsg_tracks (clean : Clean safe actor) {handle : Option Nat} {vtab : Nat}
    {body : Body} (replied : replyMsg actor handle vtab body = some result) :
    Tracks safe actor result := by
  have nothing : Tracks safe actor (actor, []) := clean.quietly actor rfl rfl
  unfold replyMsg at replied
  cases handle with
  | none => exact Option.some.inj replied ▸ nothing
  | some handle =>
    dsimp only at replied
    split at replied
    · cases replied
    · rename_i saved found
      split at replied
      · split at replied
        · exact Option.some.inj replied ▸ (clean.halt _).quietly actor rfl rfl
        · rename_i initiator remembered
          split at replied
          · cases replied
            refine ⟨⟨clean.contexts, ?_, clean.frame⟩, rfl, List.Subset.refl _,
              List.forall_mem_singleton.mpr
                (replyTo_traced _ _ _ (clean.saved handle saved found initiator remembered))⟩
            intro other state kept
            change (actor.saved.erase handle).lookup other = some state at kept
            by_cases equal : other = handle
            · subst equal
              rw [AList.lookup_erase] at kept
              cases kept
            · rw [AList.lookup_erase_ne equal] at kept
              exact clean.saved other state kept
          · exact Option.some.inj replied ▸ (clean.halt _).quietly actor rfl rfl
      · exact Option.some.inj replied ▸ nothing

/-- The return from a gather callback answers the initiator of the group. -/
theorem gatherReturn_tracks (clean : Clean safe actor) {frame : Frame Body}
    (held : frame.Held safe actor.issued) {group : Nat} {initiator : Option (Message Body)}
    (stands : frame.stage = .gather group initiator) (value : Option Body) :
    Tracks safe actor (gatherReturn actor frame group initiator value) := by
  have remembered : ∀ message ∈ initiator, safe message := by
    have copied := held.stage
    rw [stands] at copied
    exact copied
  have changed (change : Context Body → Context Body)
      (keeps : ∀ context, context.Held safe → (change context).Held safe) : Tracks safe actor
        (resume (updateReqCtx actor group change) { frame with stage := .interface }, []) :=
    ((clean.updateReqCtx group change keeps).resume { frame with stage := .interface }
      ⟨trivial, updateReqCtx_issued actor _ _ ▸ held.fiber, held.message, held.gather,
        held.started⟩).quietly actor (updateReqCtx_self _ _ _) (updateReqCtx_issued _ _ _)
  have after : Tracks safe actor (gatherReturn actor frame group initiator none) := by
    apply changed
    intro context kept
    split
    · refine ⟨kept.1, ?_⟩
      intro stage shape
      cases shape
    · exact kept
  cases value with
  | none => exact after
  | some =>
    cases initiator with
    | none => exact (clean.halt _).quietly actor rfl rfl
    | some message =>
      exact ⟨after.clean, after.self, after.issued, List.forall_mem_singleton.mpr
        (replyTo_traced _ _ _ (remembered message rfl))⟩

/-- The return from a fiber. -/
theorem returnFromFiber_tracks (clean : Clean safe actor) {frame : Frame Body}
    (held : frame.Held safe actor.issued) :
    Tracks safe actor (returnFromFiber actor frame) := by
  unfold returnFromFiber
  split
  · exact clean.quietly actor rfl rfl
  · rename_i fiber runs
    have dead := (clean.updateReqCtx fiber (fun context => { context with shape := .fiber .dead })
      (fun context kept => ⟨kept.1, fun _ shape => nomatch shape⟩)).quietly actor
        (updateReqCtx_self _ _ _) (updateReqCtx_issued _ _ _)
    have left : ∀ (after : Actor Body) (effects : List (Effect Body)),
        Tracks safe actor (after, effects) →
        Tracks safe actor (resume after { frame with fiber := none }, effects) := by
      intro after effects tracks
      have rest := held.grow tracks.issued
      exact ⟨tracks.clean.resume _ ⟨rest.stage, nofun, rest.message, rest.gather,
        fun absent => absurd rfl absent⟩, tracks.self, tracks.issued, tracks.effects⟩
    dsimp only
    split
    · exact left _ _ dead
    · exact left _ _ (dead.trans (deleteReqCtx_tracks dead.clean fiber))

/-- The message that a returned value answers has the property, unless it is the value of
a callback that handles a gather message. -/
theorem answeredBy_safe (clean : Clean safe actor) (frame : Frame Body) (message : Message Body)
    (own : message.isCall = true ∨ message.reqid = 0 → safe message)
    (usual : message.kind ≠ .gather) (source : Source) (initiator : Message Body)
    (answers : answeredBy actor frame message = .ok (source, initiator)) : safe initiator := by
  unfold answeredBy at answers
  split at answers
  · split at answers
    · cases answers
    · split at answers
      · cases answers
      · rename_i reqid _ _ _ found
        cases answers
        obtain ⟨context, stored, same⟩ := Option.bind_eq_some_iff.mp found
        exact (clean.contexts reqid context stored).2.1 initiator same
  · exact absurd (by assumption) usual
  · rename_i answered _
    cases answers
    apply own
    left
    unfold Message.isCall
    cases kind : message.kind with
    | request | scatter => simp
    | response => exact absurd kind answered
    | gather => exact absurd kind usual

/-- The return from a callback. -/
theorem finish_tracks (clean : Clean safe actor) {frame : Frame Body}
    (held : frame.Held safe actor.issued) {value : Option Body}
    (usual : value ≠ none → frame.gathers = false)
    (returned : finish actor frame value = some result) : Tracks safe actor result := by
  have back := returnFromFiber_tracks clean held
  unfold finish at returned
  generalize returnFromFiber actor frame = left at back returned
  obtain ⟨after, effects⟩ := left
  have ended := endExecute_tracks back.clean frame
  dsimp only at returned
  cases value with
  | none => exact Option.some.inj returned ▸ back.trans ended
  | some body =>
    dsimp only at returned
    split at returned
    · cases returned
    · rename_i message handles
      split at returned <;> cases returned
      · exact ⟨back.clean.halt _, back.self, back.issued, back.effects⟩
      · rename_i source initiator answers
        have plain : message.kind ≠ .gather := by
          have none := usual (Option.some_ne_none body)
          unfold Frame.gathers at none
          rw [handles] at none
          simpa using none
        have own := answeredBy_safe back.clean frame message (held.message message handles) plain
          source initiator answers
        have answer : (Effect.replied source (replyTo actor initiator body)).Traced safe
            actor.self (endExecute after frame).1.issued :=
          replyTo_traced _ source body own
        have both := back.trans ended
        refine ⟨both.clean, both.self, both.issued, ?_⟩
        intro effect among
        rcases List.mem_append.mp among with early | late
        · exact both.effects effect (List.mem_append_left _ early)
        · rcases List.mem_cons.mp late with rfl | later
          · exact answer
          · exact both.effects effect (List.mem_append_right _ later)

/-- The frame of a message is held. -/
theorem held_message (issued : List Nat) (message : Message Body) (ctx fiber : Option Nat)
    (stage : Stage Body) (own : message.isCall = true ∨ message.reqid = 0 → safe message)
    (gathers : message.kind = .gather → ctx ≠ none) (held : stage.Held safe)
    (known : ∀ id ∈ fiber, id ∈ issued) (usual : fiber ≠ none → strays message ctx = false) :
    Frame.Held safe issued ⟨some message, ctx, fiber, stage⟩ where
  stage := held
  fiber := known
  message := by
    intro handled same
    cases same
    exact own
  gather := by
    intro handled same
    cases same
    exact gathers
  started := usual

/-- The start of a callback: the fiber that it starts is recorded for a message with the
property. -/
theorem callIntf_tracks (clean : Clean safe actor) {ctx : Option Nat}
    (own : message.isCall = true ∨ message.reqid = 0 → safe message)
    (gathers : message.kind = .gather → ctx ≠ none)
    (usual : actor.sync message.target.intf = true → strays message ctx = false)
    {entered : Actor Body} (calls : callIntf actor message ctx = some entered) :
    Tracks safe actor (entered, []) := by
  have bare := held_message actor.issued message ctx none .interface own gathers trivial nofun
    (fun absent => absurd rfl absent)
  unfold callIntf at calls
  dsimp only at calls
  split at calls
  · rename_i synchronous
    have plain := usual synchronous
    split at calls <;> cases calls
    · rename_i initiator stage call found
      obtain ⟨id, rfl, stored⟩ := Option.bind_eq_some_iff.mp found
      obtain ⟨known, kept⟩ := clean.contexts id _ stored
      have running := clean.assignReqCtx id ⟨initiator, .fiber .running, call⟩ known
        ⟨kept.1, fun _ shape => nomatch shape⟩
      have frame := held_message actor.issued message (some id) (some id) stage own gathers
        (kept.2 stage rfl) (fun fiber same => Option.some.inj same ▸ known) (fun _ => plain)
      exact (running.resume _ frame).quietly actor rfl rfl
    · have new : (newReqid actor).1 ∈ (newReqid actor).2.issued := List.mem_cons_self
      have more : actor.issued ⊆ (newReqid actor).2.issued := List.subset_cons_self _ _
      have frame := held_message (newReqid actor).2.issued message ctx (some (newReqid actor).1)
        .interface own gathers trivial (fun fiber same => Option.some.inj same ▸ new)
        (fun _ => plain)
      have begun := clean.newReqid.resume _ frame
      constructor
      · exact begun.insertReqCtx _ _ new
          ⟨clean.initiatorOf _ bare plain, fun _ shape => nomatch shape⟩
      · exact insertReqCtx_self _ _ _
      · intro id known
        exact insertReqCtx_keeps (resume (newReqid actor).2 _) _ _ (more known)
      · exact List.forall_mem_nil _
  · cases calls
    exact (clean.resume _ bare).quietly actor rfl rfl

/-- An answer that is put into its group. -/
theorem insertToGatherCtx_tracks (clean : Clean safe actor) (group : Nat) (body : Body) :
    Tracks safe actor (insertToGatherCtx actor group body, []) := by
  apply (clean.updateReqCtx group _ ?_).quietly
  · exact updateReqCtx_self _ _ _
  · exact updateReqCtx_issued _ _ _
  · intro context kept
    split
    · exact ⟨kept.1, fun _ shape => nomatch shape⟩
    · exact kept

/-- The start of a gather callback, which copies the initiator of its group. -/
theorem switchToGatherCtx_tracks (clean : Clean safe actor) {frame : Frame Body}
    (held : frame.Held safe actor.issued) (group : Nat) :
    Tracks safe actor (switchToGatherCtx actor frame group) := by
  unfold switchToGatherCtx
  split
  · rename_i initiator size messages done call found
    split
    · have copied := (clean.contexts group _ found).2.1
      exact ⟨clean.resume _ ⟨copied, held.fiber, held.message, held.gather, held.started⟩, rfl,
        List.Subset.refl _, List.forall_mem_singleton.mpr trivial⟩
    · exact clean.quietly actor rfl rfl
  · exact clean.quietly actor rfl rfl

/-- A message that is invoked. -/
theorem invokeMessage_tracks (clean : Clean safe actor) {ctx : Option Nat}
    (own : message.isCall = true ∨ message.reqid = 0 → safe message)
    (numbered : ctx ≠ none → message.reqid ≠ 0)
    (usual : actor.sync message.target.intf = true → strays message ctx = false)
    (invoked : invokeMessage actor message ctx = some result) : Tracks safe actor result := by
  unfold invokeMessage at invoked
  split at invoked
  · rename_i found
    obtain ⟨id, rfl, stored⟩ := Option.bind_eq_some_iff.mp found
    split at invoked
    · cases invoked
    · rename_i entered calls
      have called := callIntf_tracks clean
        (fun call => absurd call (by simp [Message.isCall, numbered (Option.some_ne_none id)]))
        (fun _ => Option.some_ne_none id) (fun _ => by simp [strays]) calls
      split at invoked
      · rename_i frame runs
        cases invoked
        have inserted := insertToGatherCtx_tracks called.clean id message.body
        have held := called.clean.frame frame runs
        exact called.trans (inserted.trans
          (switchToGatherCtx_tracks inserted.clean (held.grow inserted.issued) id))
      · exact Option.some.inj invoked ▸ called
  · split at invoked
    · exact Option.some.inj invoked ▸ (clean.halt _).quietly actor rfl rfl
    · rename_i usually
      obtain ⟨entered, calls, rfl⟩ := Option.map_eq_some_iff.mp invoked
      exact callIntf_tracks clean own (fun kind => absurd kind usually) usual
        calls

/-- A message that is taken from the mailbox. -/
theorem execute_tracks (clean : Clean safe actor)
    (own : message.isCall = true ∨ message.reqid = 0 → safe message)
    (usual : actor.sync message.target.intf = true →
      strays message ((findReqCtx actor message.reqid).map fun _ => message.reqid) = false)
    (executed : execute actor message = some result) :
    Tracks safe actor result := by
  unfold execute at executed
  split at executed
  · rename_i answers
    obtain ⟨invoked, received, rfl⟩ := Option.map_eq_some_iff.mp executed
    have tracks := invokeMessage_tracks clean own (fun _ => answers.2) usual
      received
    exact ⟨tracks.clean, tracks.self, tracks.issued,
      List.forall_mem_cons.mpr ⟨trivial, tracks.effects⟩⟩
  · rename_i plain
    apply invokeMessage_tracks clean own (fun absent => absurd rfl absent) ?_
      executed
    intro _
    unfold strays
    by_cases response : message.kind = .response
    · simpa [response] using plain
    · simp [response]

/-- A step of a clean actor is traced, unless it returns a value for a gather message or
starts something for a response without a context. -/
theorem step_tracks (clean : Clean safe actor) (act : Act Body)
    (usual : keepsOrigins actor act = true) (unlocked : ∀ returnIntf, act ≠ .lock returnIntf)
    (own : ∀ message, act = .receive message → message.isCall = true ∨ message.reqid = 0 →
      safe message)
    (result : Actor Body × List (Effect Body)) (stepped : step actor act = some result) :
    Tracks safe actor result := by
  unfold keepsOrigins at usual
  unfold step at stepped
  cases status : actor.status with
  | halted =>
    rw [status] at stepped
    cases act <;> cases stepped
  | idle =>
    rw [status] at stepped usual
    cases act with
    | receive message =>
      apply execute_tracks clean (own message rfl) ?_ stepped
      intro synchronous
      simpa [synchronous] using usual
    | _ => cases stepped
  | running frame =>
    rw [status] at stepped usual
    have held := clean.frame frame status
    cases act with
    | receive => cases stepped
    | send target returnIntf body outcome =>
      cases stepped
      apply dispatch_tracks clean frame held 0 target returnIntf body outcome (Or.inl rfl)
      intro _ asks kept
      obtain ⟨intf, rfl⟩ := Option.ne_none_iff_exists'.mp asks
      subst kept
      simpa using usual
    | scatter gatherIntf postings =>
      dsimp only at stepped
      split at stepped <;> cases stepped
      exact scatterToIntf_tracks clean held (by simpa using usual) gatherIntf postings
    | lock returnIntf => exact absurd rfl (unlocked returnIntf)
    | call target body outcome =>
      dsimp only at stepped
      split at stepped <;> cases stepped
      rename_i fiber message runs handles
      exact sendAndRecv_tracks clean held _ runs target body outcome
    | save vtab =>
      cases stepped
      exact saveReturnState_tracks clean held (by simpa using usual) vtab
    | reply => exact replyMsg_tracks clean stepped
    | gatherReturn value =>
      dsimp only at stepped
      split at stepped <;> cases stepped
      rename_i group initiator stands
      exact gatherReturn_tracks clean held stands value
    | finish =>
      dsimp only at stepped
      split at stepped
      · apply finish_tracks clean held ?_ stepped
        intro returns
        obtain ⟨body, rfl⟩ := Option.ne_none_iff_exists'.mp returns
        simpa using usual
      · cases stepped

end Mola.Requests
