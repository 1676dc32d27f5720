import Mola.RequestRuns

/-!
# Nested calls reply to the original requester

The root of a callback is the request or scatter message on whose behalf it runs: its
own message, or the root of the call that is answered. A value that is returned on behalf
of a root is dispatched to the sender of the root, with its request id, and as a gather
exactly when the root is a scatter message. Values are returned by callbacks of requests
and responses, by gather callbacks, and through saved return states.

With `2 ^ 32` ids outstanding the next id is zero, the invalid one. The answer to such a
call gets no context, and what its callback starts is recorded for the answer itself.
-/

namespace Mola.Requests

open Tickets Relation

universe u
variable {Body : Type u}

/-- The values that were dispatched. -/
def dispatched (effects : List (Effect Body)) : List (Message Body) :=
  effects.filterMap fun
    | .replied _ message => some message
    | _ => none

/-- The value that an action returns, with the root on whose behalf it is returned. The
value of an interface that handles a gather message has no root. `ReplyMsg` refuses a
value of another type than that of the saved state. -/
def returns (solo : Solo Body) : Action Body → Option (Message Body × Body)
  | .act (.finish (some body)) =>
      match solo.actor.status with
      | .running ⟨some message, _, _, _⟩ =>
          if message.kind = .gather then none else solo.root.map fun root => (root, body)
      | _ => none
  | .act (.gatherReturn (some body)) => solo.root.map fun root => (root, body)
  | .act (.reply (some handle) vtab body) =>
      match solo.actor.saved.lookup handle with
      | none => none
      | some saved =>
          if saved.vtab = none ∨ saved.vtab = some vtab then
            (solo.savedRoots handle).map fun root => (root, body)
          else none
  | _ => none

/-- Every value that the next action returns on behalf of a root is dispatched once, as an
answer to the root. -/
def RepliesToRoot (solo : Solo Body) : Prop :=
  ∀ action next root body, soloStep solo action = some next →
    returns solo action = some (root, body) →
    ∃ reply, dispatched (next.log.drop solo.log.length) = [reply] ∧ Answers reply root ∧
      reply.body = body ∧ reply.sender = solo.actor.self

theorem deleteReqCtx_silent (actor : Actor Body) (reqid : Nat) :
    dispatched (deleteReqCtx actor reqid).2 = [] := by
  unfold deleteReqCtx
  split
  · rfl
  · split <;> rfl

theorem endExecute_silent (actor : Actor Body) (frame : Frame Body) :
    dispatched (endExecute actor frame).2 = [] := by
  unfold endExecute
  cases frame.ctx with
  | none => rfl
  | some reqid => exact deleteReqCtx_silent actor reqid

/-- The return from a fiber dispatches nothing. -/
theorem returnFromFiber_silent (actor : Actor Body) (frame : Frame Body) :
    dispatched (returnFromFiber actor frame).2 = [] := by
  unfold returnFromFiber
  cases frame.fiber with
  | none => rfl
  | some fiber =>
    dsimp only
    split
    · rfl
    · exact deleteReqCtx_silent _ fiber

/-- The root of a turn stays. -/
theorem advance_root (solo : Solo Body) (result : Actor Body × List (Effect Body)) :
    (advance solo result).root = solo.root := by
  obtain ⟨actor, effects⟩ := result
  change (effects.foldl note solo).root = solo.root
  induction effects generalizing solo with
  | nil => rfl
  | cons effect _ hypothesis =>
    rw [List.foldl_cons, hypothesis]
    cases effect <;> rfl

theorem advance_dispatched (solo : Solo Body) (result : Actor Body × List (Effect Body)) :
    dispatched ((advance solo result).log.drop solo.log.length) = dispatched result.2 := by
  change dispatched ((solo.log ++ result.2).drop solo.log.length) = dispatched result.2
  rw [List.drop_left]

/-- A callback on behalf of a root answers the root. -/
theorem answeredBy_root (actor : Actor Body) (frame : Frame Body) (message root : Message Body)
    (handles : frame.message = some message) (usual : message.kind ≠ .gather)
    (opened : message.isCall = true → frame.ctx = none) (calls : root.isCall = true)
    (initiator : initiatorOf actor frame = some root) :
    answeredBy actor frame message = .ok (.callback, root) := by
  unfold initiatorOf at initiator
  unfold answeredBy
  have own : message.isCall = true → message = root := by
    intro request
    rw [opened request, handles] at initiator
    exact Option.some.inj initiator
  cases kind : message.kind with
  | gather => exact absurd kind usual
  | request | scatter => rw [own (by simp [Message.isCall, kind])]
  | response =>
    dsimp only
    cases ctx : frame.ctx with
    | none =>
      rw [ctx, handles] at initiator
      cases initiator
      simp [Message.isCall, kind] at calls
    | some =>
      rw [ctx] at initiator
      dsimp only at initiator ⊢
      rw [initiator]

section
variable (solo : Solo Body)

/-- A value that a callback returns answers the root of the turn. -/
theorem finish_replies (frame : Frame Body) (message root : Message Body) (body : Body)
    (account : Exact solo.actor) (good : Good False (shown solo (some frame)))
    (outside : frame.stage = .interface) (handles : frame.message = some message)
    (usual : message.kind ≠ .gather) (own : solo.root = some root)
    (result : Actor Body × List (Effect Body))
    (returned : finish solo.actor frame (some body) = some result) :
    dispatched result.2 = [replyTo solo.actor root body] := by
  obtain ⟨moves, -⟩ := return_moves False solo frame account good.law outside
  have after := moves_good False _ _ moves good
  have turn := after.rooted.turn _ root rfl ((advance_root solo _).trans own)
  have calls := good.called.turn root own
  have silent := returnFromFiber_silent solo.actor frame
  unfold finish at returned
  generalize returnFromFiber solo.actor frame = back at *
  obtain ⟨actor, effects⟩ := back
  dsimp only at returned silent
  rw [handles] at returned
  dsimp only at returned
  rw [answeredBy_root actor frame message root handles usual
    (good.law.opened frame message rfl handles) calls turn.initiator] at returned
  cases returned
  have ended := endExecute_silent actor frame
  unfold dispatched at *
  rw [List.filterMap_append, silent, List.nil_append, List.filterMap_cons, ended]

theorem gatherReturn_replies (frame : Frame Body) (group : Nat) (held : Option (Message Body))
    (root : Message Body) (body : Body) (good : Good False (shown solo (some frame)))
    (inside : frame.stage = .gather group held) (own : solo.root = some root) :
    dispatched (gatherReturn solo.actor frame group held (some body)).2 =
      [replyTo solo.actor root body] := by
  obtain rfl := (good.rooted.turn frame root rfl own).held group held inside
  rfl

/-- A value that is given to `ReplyMsg` answers the root of the saved state. -/
theorem replyMsg_replies (frame : Option (Frame Body)) (handle vtab : Nat) (saved : Saved Body)
    (root : Message Body) (body : Body) (good : Good False (shown solo frame))
    (held : solo.actor.saved.lookup handle = some saved)
    (typed : saved.vtab = none ∨ saved.vtab = some vtab)
    (own : solo.savedRoots handle = some root) (result : Actor Body × List (Effect Body))
    (returned : replyMsg solo.actor (some handle) vtab body = some result) :
    dispatched result.2 = [replyTo solo.actor root body] := by
  have initiator := good.rooted.saved handle saved root held own
  have calls := good.called.saved handle root own
  have kind : root.kind = .request ∨ root.kind = .scatter := of_decide_eq_true calls
  unfold replyMsg at returned
  dsimp only at returned
  rw [held] at returned
  dsimp only at returned
  rw [if_pos typed, initiator] at returned
  dsimp only at returned
  rw [if_pos kind] at returned
  cases returned
  rfl

/-- An actor that is as it should be replies to roots. -/
theorem held_replies (held : Held False solo) : RepliesToRoot solo := by
  obtain ⟨frame, fits, good⟩ := held
  intro action next root body stepped value
  suffices single : dispatched (next.log.drop solo.log.length) = [replyTo solo.actor root body] from
    ⟨_, single, ⟨rfl, rfl, rfl⟩, rfl, rfl⟩
  unfold Fits at fits
  unfold returns at value
  split at value
  next given =>
    obtain ⟨result, taken, rfl⟩ := Option.map_eq_some_iff.mp stepped
    rw [advance_dispatched]
    unfold step at taken
    split at value
    next message ctx fiber stage status =>
      rw [status] at fits taken
      obtain ⟨rfl, account⟩ := fits
      split at value
      next => cases value
      next usual =>
        obtain ⟨known, own, same⟩ := Option.map_eq_some_iff.mp value
        obtain ⟨rfl, rfl⟩ := Prod.mk.inj same
        cases stage with
        | gather => cases taken
        | interface =>
          exact finish_replies solo _ message known given account good rfl rfl usual own result
            taken
    next => cases value
  next given =>
    obtain ⟨result, taken, rfl⟩ := Option.map_eq_some_iff.mp stepped
    rw [advance_dispatched]
    obtain ⟨known, own, same⟩ := Option.map_eq_some_iff.mp value
    obtain ⟨rfl, rfl⟩ := Prod.mk.inj same
    obtain ⟨running, status⟩ := step_running solo.actor (.gatherReturn (some given)) result
      nofun taken
    unfold step at taken
    rw [status] at fits taken
    obtain ⟨rfl, -⟩ := fits
    dsimp only at taken
    split at taken
    next group held inside =>
      cases taken
      exact gatherReturn_replies solo running group held known given good inside own
    next => cases taken
  next handle vtab given =>
    obtain ⟨result, taken, rfl⟩ := Option.map_eq_some_iff.mp stepped
    rw [advance_dispatched]
    obtain ⟨running, status⟩ := step_running solo.actor (.reply (some handle) vtab given)
      result nofun taken
    unfold step at taken
    rw [status] at taken
    split at value
    next => cases value
    next saved held =>
      split at value
      next typed =>
        obtain ⟨known, own, same⟩ := Option.map_eq_some_iff.mp value
        obtain ⟨rfl, rfl⟩ := Prod.mk.inj same
        exact replyMsg_replies solo frame handle vtab saved known given good held typed own result
          taken
      next => cases value
  next => cases value

end

/-- In every state of a run in which fewer than `2 ^ 32` ids are outstanding or abandoned,
values are dispatched to the original requester. -/
theorem run_replies_to_root (self : Address) (sync : Nat → Bool) (schedule : List (Action Body))
    (final : Solo Body)
    (few : Runs.Along soloStep (fun solo action => fewIds solo action = true) (begin self sync)
      schedule)
    (executed : Runs.run soloStep (begin self sync) schedule = some final) :
    RepliesToRoot final := by
  have allowed := Runs.along_mono soloStep _ (fun solo action => fewIds solo action = true ∧
    (False → noWait solo action = true)) (fun _ _ free => ⟨free, nofun⟩) _ schedule few
  exact held_replies final (run_held allowed executed)

/-- A scatter message starts a request and saves its right to reply. The answer to the
request starts a scatter, whose answers are complete at the end of the schedule. -/
def nestedScatter : List (Action Nat) :=
  [.act (.finish none), .arrive ⟨.scatter, 5, ⟨7, 1⟩, ⟨0, 1⟩, 0, 30⟩,
    .act (.send ⟨1, 0⟩ (some 2) 31 .kept), .act (.save none), .act (.finish none),
    .answer 1 ⟨1, 0⟩ 32,
    .act (.scatter 3 [some ⟨⟨1, 0⟩, 8, true⟩, some ⟨⟨2, 0⟩, 9, true⟩]), .act (.finish none),
    .answer 2 ⟨2, 0⟩ 20, .act (.finish none), .answer 2 ⟨1, 0⟩ 21]

theorem nestedScatter_completes :
    (Runs.run soloStep (begin ⟨0, 0⟩ fun _ => false) nestedScatter).isSome := by
  decide +kernel

/-- After the schedule both the gather callback and the saved state reply to the scatter
message. -/
theorem run_replies_to_root_nested :
    ∃ final, Runs.run soloStep (begin ⟨0, 0⟩ fun _ => false) nestedScatter = some final ∧
      returns final (.act (.gatherReturn (some 33))) =
        some (⟨.scatter, 5, ⟨7, 1⟩, ⟨0, 1⟩, 0, 30⟩, 33) ∧
      returns final (.act (.reply (some 0) 0 44)) =
        some (⟨.scatter, 5, ⟨7, 1⟩, ⟨0, 1⟩, 0, 30⟩, 44) ∧
      (soloStep final (.act (.gatherReturn (some 33)))).isSome ∧ RepliesToRoot final := by
  refine ⟨Option.get _ nestedScatter_completes, (Option.some_get _).symm, ?_, ?_, ?_, ?_⟩
  · decide +kernel
  · decide +kernel
  · decide +kernel
  · apply run_replies_to_root ⟨0, 0⟩ (fun _ => false) nestedScatter
    · decide +kernel
    · exact (Option.some_get _).symm

section
variable (solo : Solo Body)

theorem finish_nothing (message : Option (Message Body))
    (status : solo.actor.status = .running ⟨message, none, none, .interface⟩) :
    soloStep solo (.act (.finish none)) =
      some (advance solo ({ solo.actor with status := .idle }, [])) := by
  simp [soloStep, step, status, finish, returnFromFiber, endExecute]

/-- A turn whose context is that of a plain call deletes it. -/
theorem finish_context (message : Option (Message Body)) (reqid : Nat) (context : Context Body)
    (status : solo.actor.status = .running ⟨message, some reqid, none, .interface⟩)
    (found : findReqCtx solo.actor reqid = some context) (plain : context.shape = .plain) :
    soloStep solo (.act (.finish none)) =
      some (advance solo
        ({ releaseReqid solo.actor reqid with
            contexts := solo.actor.contexts.erase reqid, status := .idle },
          [.recycled context.call reqid])) := by
  simp [soloStep, step, status, finish, returnFromFiber, endExecute, deleteReqCtx, found, plain,
    Shape.done]

theorem callIntf_plainly {actor : Actor Body} (message : Message Body) (ctx : Option Nat)
    (plainly : actor.sync = fun _ => false) :
    callIntf actor message ctx = some (resume actor (opening message ctx)) := by
  unfold callIntf
  rw [plainly, if_neg Bool.false_ne_true]
  rfl

/-- An answer that an idle actor takes. -/
theorem answer_taken (number : Nat) (call : Call Body) (sender : Address) (body : Body)
    (idle : solo.actor.status = .idle) (entered : solo.ledger number = some call)
    (waits : call.answers.length < call.size) :
    soloStep solo (.answer number sender body) =
      (execute solo.actor (answerTo solo number call sender body)).map
        (advance (heard solo number call body)) := by
  unfold soloStep
  dsimp only
  rw [entered]
  dsimp only
  rw [if_pos waits]
  unfold step
  rw [idle]
  rfl

/-- The answer to a plain call starts its callback with the context of the call. -/
theorem answer_context (number : Nat) (call : Call Body) (sender : Address) (body : Body)
    (context : Context Body) (idle : solo.actor.status = .idle)
    (plainly : solo.actor.sync = fun _ => false) (entered : solo.ledger number = some call)
    (waits : call.answers.length < call.size) (single : call.scatter = false)
    (positive : call.reqid ≠ 0) (found : findReqCtx solo.actor call.reqid = some context)
    (plain : context.shape = .plain) :
    soloStep solo (.answer number sender body) =
      some (advance (heard solo number call body)
        (resume solo.actor
          (opening (answerTo solo number call sender body) (some call.reqid)),
          [.installed number (some context.call)])) := by
  have response : (answerTo solo number call sender body).kind ≠ .gather := by
    simp [answerTo, single]
  have other : ∀ size messages done, context.shape ≠ .group size messages done := by
    intro size messages done shape
    rw [plain] at shape
    cases shape
  rw [answer_taken solo number call sender body idle entered waits,
    execute_answer solo number call sender body positive context found,
    invoke_single solo.actor _ call.reqid context found other response,
    callIntf_plainly _ _ plainly]
  rfl

/-- The answer to a call with the invalid id starts its callback without a context. -/
theorem answer_invalid (number : Nat) (call : Call Body) (sender : Address) (body : Body)
    (idle : solo.actor.status = .idle) (plainly : solo.actor.sync = fun _ => false)
    (entered : solo.ledger number = some call) (waits : call.answers.length < call.size)
    (single : call.scatter = false) (invalid : call.reqid = 0) :
    soloStep solo (.answer number sender body) =
      some (advance (heard solo number call body)
        (resume solo.actor (opening (answerTo solo number call sender body) none), [])) := by
  have response : (answerTo solo number call sender body).kind ≠ .gather := by
    simp [answerTo, single]
  have absent : execute solo.actor (answerTo solo number call sender body) =
      invokeMessage solo.actor (answerTo solo number call sender body) none :=
    if_neg fun answer => answer.2 invalid
  rw [answer_taken solo number call sender body idle entered waits, absent]
  unfold invokeMessage
  dsimp only [Option.bind_none]
  rw [if_neg response, callIntf_plainly _ _ plainly]
  rfl

/-- A request that is sent under an id without a context. -/
theorem send_kept (frame : Frame Body) (target : Address) (intf : Nat) (body : Body)
    (status : solo.actor.status = .running frame) (reqid : Nat) (reqids : Dispenser)
    (issued : issue (2 ^ 32) solo.actor.reqids = (reqid, reqids))
    (new : findReqCtx solo.actor reqid = none) :
    ∃ next, soloStep solo (.act (.send target (some intf) body .kept)) = some next ∧
      next.actor.status = .running frame ∧ next.actor.sync = solo.actor.sync ∧
      next.actor.self = solo.actor.self ∧ next.actor.reqids = reqids ∧
      next.actor.calls = solo.actor.calls + 1 ∧ next.root = solo.root ∧
      findReqCtx next.actor = Function.update (findReqCtx solo.actor) reqid
        (some ⟨initiatorOf solo.actor frame, .plain, solo.actor.calls + 1⟩) ∧
      next.ledger = Function.update solo.ledger (solo.actor.calls + 1)
        (some ⟨reqid, intf, 1, false, true, [], solo.root⟩) := by
  let drawn := newReqid (nextCall solo.actor)
  have number : drawn.1 = reqid := congrArg Prod.fst issued
  have rest : drawn.2.reqids = reqids := congrArg Prod.snd issued
  have stored : onAsyncSendDone drawn.2 frame drawn.1 = assignReqCtx drawn.2 drawn.1
      ⟨initiatorOf drawn.2 frame, .plain, drawn.2.calls⟩ :=
    insert_new _ (number ▸ new)
  have taken : soloStep solo (.act (.send target (some intf) body .kept)) =
      some (advance solo (onAsyncSendDone drawn.2 frame drawn.1,
        [.called drawn.2.calls drawn.1 intf 1 false true,
          .sent ⟨.request, drawn.1, { solo.actor.self with intf := intf }, target,
            drawn.2.calls, body⟩])) := by
    unfold soloStep
    dsimp only
    unfold step
    rw [status]
    rfl
  refine ⟨_, taken, ?_⟩
  rw [stored, number]
  refine ⟨status, rfl, rfl, rest, rfl, rfl, ?_, rfl⟩
  exact lookup_insert solo.actor.contexts reqid _

/-- The return of a response callback without a fiber dispatches to the initiator of its
context. -/
theorem finish_response (message initiator : Message Body) (reqid : Nat) (context : Context Body)
    (body : Body)
    (status : solo.actor.status = .running (opening message (some reqid)))
    (response : message.kind = .response)
    (found : findReqCtx solo.actor reqid = some context)
    (whose : context.initiator = some initiator) :
    ∃ next, soloStep solo (.act (.finish (some body))) = some next ∧
      dispatched (next.log.drop solo.log.length) = [replyTo solo.actor initiator body] := by
  have answers : answeredBy solo.actor (opening message (some reqid)) message =
      .ok (.callback, initiator) := by
    unfold answeredBy
    rw [response]
    dsimp only [opening]
    rw [found, Option.bind_some, whose]
  have taken : soloStep solo (.act (.finish (some body))) =
      some (advance solo ((endExecute solo.actor (opening message (some reqid))).1,
        [] ++ .replied .callback (replyTo solo.actor initiator body) ::
          (endExecute solo.actor (opening message (some reqid))).2)) := by
    unfold soloStep
    dsimp only
    unfold step
    rw [status]
    dsimp only [opening]
    unfold finish returnFromFiber
    dsimp only
    rw [show answeredBy solo.actor ⟨some message, some reqid, none, .interface⟩ message = _ from
      answers]
    rfl
  refine ⟨_, taken, ?_⟩
  rw [advance_dispatched]
  have silent := endExecute_silent solo.actor (opening message (some reqid))
  unfold dispatched at *
  rw [List.nil_append, List.filterMap_cons, silent]

end

/-- A request with a return interface. -/
def ask : Action Nat := .act (.send ⟨1, 0⟩ (some 2) 0 .kept)

/-- A callback for a root has sent a number of requests, each under an id of its own. -/
structure Filled (root : Message Nat) (count : Nat) (solo : Solo Nat) : Prop where
  status : solo.actor.status = .running (opening root none)
  sync : solo.actor.sync = fun _ => false
  reqids : solo.actor.reqids = ⟨count, []⟩
  calls : solo.actor.calls = count
  turn : solo.root = some root
  find : ∀ id, findReqCtx solo.actor id =
    if 1 ≤ id ∧ id ≤ count then some ⟨some root, .plain, id⟩ else none
  ledger : ∀ number, 1 ≤ number → number ≤ count →
    solo.ledger number = some ⟨number, 2, 1, false, true, [], some root⟩

/-- One more request. -/
theorem filled_ask {root : Message Nat} {count : Nat} {solo : Solo Nat}
    (filled : Filled root count solo) (room : count + 1 < 2 ^ 32) :
    ∃ next, soloStep solo ask = some next ∧ Filled root (count + 1) next := by
  have issued : issue (2 ^ 32) solo.actor.reqids = (count + 1, ⟨count + 1, []⟩) := by
    rw [filled.reqids]
    simp only [issue]
    rw [Nat.mod_eq_of_lt room]
  have new : findReqCtx solo.actor (count + 1) = none := by
    rw [filled.find, if_neg]
    omega
  obtain ⟨next, taken, status, sync, -, reqids, calls, turn, find, ledger⟩ :=
    send_kept solo (opening root none) ⟨1, 0⟩ 2 0 filled.status (count + 1) _ issued new
  refine ⟨next, taken, status, sync.trans filled.sync, reqids, ?_, turn.trans filled.turn, ?_, ?_⟩
  · rw [calls, filled.calls]
  · intro id
    rw [find, filled.calls]
    by_cases same : id = count + 1
    · subst same
      rw [Function.update_self, if_pos (by omega)]
      rfl
    · rw [Function.update_of_ne same, filled.find]
      have iff : (1 ≤ id ∧ id ≤ count) ↔ (1 ≤ id ∧ id ≤ count + 1) := by omega
      simp only [iff]
  · intro number positive bounded
    rw [ledger, filled.calls]
    by_cases same : number = count + 1
    · subst same
      rw [Function.update_self, filled.turn]
    · rw [Function.update_of_ne same]
      exact filled.ledger number positive (by omega)

/-- Any number of requests below the limit. -/
theorem filled_run (root : Message Nat) (start : Solo Nat) (filled : Filled root 0 start)
    (count : Nat) (room : count < 2 ^ 32) :
    ∃ solo, Runs.run soloStep start (List.replicate count ask) = some solo ∧
      Filled root count solo := by
  induction count with
  | zero => exact ⟨start, rfl, filled⟩
  | succ _ hypothesis =>
    obtain ⟨solo, reached, before⟩ := hypothesis (by omega)
    obtain ⟨next, taken, after⟩ := filled_ask before room
    refine ⟨next, ?_, after⟩
    rw [List.replicate_succ', Runs.run_append soloStep start solo _ _ reached]
    exact (Runs.run_cons soloStep solo next ask []).mpr ⟨next, taken, rfl⟩

section
variable (solo : Solo Nat) (root : Message Nat) (last : Nat)
  (sync : solo.actor.sync = fun _ => false) (calls : solo.actor.calls = last)
  (invalid : solo.ledger last = some ⟨0, 2, 1, false, true, [], some root⟩)
include sync calls invalid

/-- The callback for a root ends, and the call with id one is answered. Its id is
recycled. -/
theorem recycle_first (large : 1 < last)
    (status : solo.actor.status = .running (opening root none))
    (reqids : solo.actor.reqids = ⟨0, []⟩)
    (first : findReqCtx solo.actor 1 = some ⟨some root, .plain, 1⟩)
    (known : solo.ledger 1 = some ⟨1, 2, 1, false, true, [], some root⟩) :
    ∃ next, Runs.run soloStep solo
        [.act (.finish none), .answer 1 ⟨1, 0⟩ 0, .act (.finish none)] = some next ∧
      next.actor.status = .idle ∧ next.actor.sync = (fun _ => false) ∧
      next.actor.reqids = ⟨0, [1]⟩ ∧ next.actor.calls = last ∧
      findReqCtx next.actor 1 = none ∧
      next.ledger last = some ⟨0, 2, 1, false, true, [], some root⟩ := by
  let idle := advance solo ({ solo.actor with status := .idle }, [])
  let call : Call Nat := ⟨1, 2, 1, false, true, [], some root⟩
  let handling := advance (heard idle 1 call 0)
    (resume idle.actor (opening (answerTo idle 1 call ⟨1, 0⟩ 0) (some 1)),
      [.installed 1 (some 1)])
  have ends : soloStep solo (.act (.finish none)) = some idle :=
    finish_nothing solo (some root) status
  have hears : soloStep idle (.answer 1 ⟨1, 0⟩ 0) = some handling :=
    answer_context idle 1 call ⟨1, 0⟩ 0 _ rfl sync known Nat.zero_lt_one rfl Nat.one_ne_zero first
      rfl
  have deletes := finish_context handling _ 1 _ rfl first rfl
  refine ⟨_, (Runs.run_cons ..).mpr ⟨idle, ends, (Runs.run_cons ..).mpr ⟨handling, hears,
    (Runs.run_cons ..).mpr ⟨_, deletes, rfl⟩⟩⟩, rfl, sync, ?_, calls, ?_, ?_⟩
  · change giveBack solo.actor.reqids 1 = ⟨0, [1]⟩
    rw [reqids]
    rfl
  · exact AList.lookup_erase _ _
  · have different : last ≠ 1 := by omega
    exact (Function.update_of_ne different _ _).trans invalid

/-- The answer to a call with the invalid id starts a request, and the answer is recorded
as its initiator. -/
theorem record_answer (idle : solo.actor.status = .idle) (reqids : solo.actor.reqids = ⟨0, [1]⟩)
    (free : findReqCtx solo.actor 1 = none) :
    ∃ next answer, Runs.run soloStep solo [.answer last ⟨3, 0⟩ 8, ask, .act (.finish none)] =
        some next ∧
      next.actor.status = .idle ∧ next.actor.sync = (fun _ => false) ∧
      answer.sender = ⟨3, 0⟩ ∧ findReqCtx next.actor 1 = some ⟨some answer, .plain, last + 1⟩ ∧
      next.ledger (last + 1) = some ⟨1, 2, 1, false, true, [], some root⟩ := by
  let call : Call Nat := ⟨0, 2, 1, false, true, [], some root⟩
  let answer := answerTo solo last call ⟨3, 0⟩ 8
  let handling := advance (heard solo last call 8) (resume solo.actor (opening answer none), [])
  have hears : soloStep solo (.answer last ⟨3, 0⟩ 8) = some handling :=
    answer_invalid solo last call ⟨3, 0⟩ 8 idle sync invalid Nat.zero_lt_one rfl rfl
  have issued : issue (2 ^ 32) handling.actor.reqids = (1, ⟨0, []⟩) := by
    change issue (2 ^ 32) solo.actor.reqids = (1, ⟨0, []⟩)
    rw [reqids]
    rfl
  obtain ⟨asked, asks, runs, plainly, -, -, -, turn, find, ledger⟩ :=
    send_kept handling (opening answer none) ⟨1, 0⟩ 2 0 rfl 1 _ issued free
  have ends := finish_nothing asked (some answer) runs
  have own : handling.actor.calls = last := calls
  rw [own] at find ledger
  refine ⟨_, answer, (Runs.run_cons ..).mpr ⟨handling, hears, (Runs.run_cons ..).mpr ⟨asked, asks,
    (Runs.run_cons ..).mpr ⟨_, ends, rfl⟩⟩⟩, rfl, plainly.trans sync, rfl, ?_, ?_⟩
  · change findReqCtx asked.actor 1 = _
    rw [find, Function.update_self]
    rfl
  · change asked.ledger (last + 1) = _
    rw [ledger, Function.update_self]
    rfl

end

/-- An actor that has recorded an answer as initiator returns a value to the sender of
this answer. -/
theorem misdirects {solo : Solo Nat} {root answer : Message Nat} {number : Nat}
    (idle : solo.actor.status = .idle) (sync : solo.actor.sync = fun _ => false)
    (found : findReqCtx solo.actor 1 = some ⟨some answer, .plain, number⟩)
    (entered : solo.ledger number = some ⟨1, 2, 1, false, true, [], some root⟩) :
    ∃ final next reply, Runs.run soloStep solo [.answer number ⟨1, 0⟩ 0] = some final ∧
      soloStep final (.act (.finish (some 9))) = some next ∧
      returns final (.act (.finish (some 9))) = some (root, 9) ∧
      dispatched (next.log.drop final.log.length) = [reply] ∧ reply.target = answer.sender := by
  let call : Call Nat := ⟨1, 2, 1, false, true, [], some root⟩
  let final := advance (heard solo number call 0)
    (resume solo.actor (opening (answerTo solo number call ⟨1, 0⟩ 0) (some 1)),
      [.installed number (some number)])
  have hears : soloStep solo (.answer number ⟨1, 0⟩ 0) = some final :=
    answer_context solo number call ⟨1, 0⟩ 0 _ idle sync entered Nat.zero_lt_one rfl
      Nat.one_ne_zero found rfl
  obtain ⟨next, returned, sends⟩ := finish_response final _ answer 1 _ 9 rfl rfl found rfl
  exact ⟨final, next, _, (Runs.run_cons ..).mpr ⟨final, hears, rfl⟩, returned, rfl, sends, rfl⟩

/-- An actor in its init callback finishes it and takes a request. -/
theorem request_filled (root : Message Nat) (request : root.kind = .request) :
    ∃ solo, Runs.run soloStep (begin ⟨0, 0⟩ fun _ => false)
        [.act (.finish none), .arrive root] = some solo ∧ Filled root 0 solo := by
  let start : Solo Nat := begin ⟨0, 0⟩ fun _ => false
  let idle := advance start ({ start.actor with status := .idle }, [])
  have calls : root.isCall = true := by simp [Message.isCall, request]
  have ends : soloStep start (.act (.finish none)) = some idle := finish_nothing start none rfl
  have absent : execute idle.actor root = invokeMessage idle.actor root none :=
    if_neg (by simp [request])
  have invoked : invokeMessage idle.actor root none =
      some (resume idle.actor (opening root none), []) := by
    unfold invokeMessage
    dsimp only [Option.bind_none]
    rw [if_neg (by simp [request]), callIntf_plainly root none rfl]
    rfl
  have arrives : soloStep idle (.arrive root) = some (advance { idle with root := some root }
      (resume idle.actor (opening root none), [])) := by
    unfold soloStep
    dsimp only
    rw [if_pos (Or.inl calls), if_pos calls]
    exact congrArg _ (absent.trans invoked)
  refine ⟨_, (Runs.run_cons ..).mpr ⟨idle, ends, (Runs.run_cons ..).mpr ⟨_, arrives, rfl⟩⟩,
    rfl, rfl, rfl, rfl, rfl, ?_, ?_⟩
  · intro id
    rw [if_neg (by omega)]
    rfl
  · intro number positive bounded
    omega

/-- With all ids outstanding, a value that a nested call returns for a request is
dispatched to the actor that answered another nested call.

Proof: the callback for the request sends as many requests as there are ids, and one
more, whose id is zero. -/
theorem exhausted_ids_misdirect :
    ∃ schedule final next reply,
      Runs.run soloStep (begin ⟨0, 0⟩ fun _ => false) schedule = some final ∧
      soloStep final (.act (.finish (some 9))) = some next ∧
      returns final (.act (.finish (some 9))) = some (⟨.request, 5, ⟨7, 1⟩, ⟨0, 1⟩, 0, 30⟩, 9) ∧
      dispatched (next.log.drop final.log.length) = [reply] ∧ reply.target = ⟨3, 0⟩ ∧
      ¬ RepliesToRoot final := by
  obtain ⟨count, all⟩ : ∃ count, count + 1 = 2 ^ 32 := ⟨2 ^ 32 - 1, by omega⟩
  let root : Message Nat := ⟨.request, 5, ⟨7, 1⟩, ⟨0, 1⟩, 0, 30⟩
  obtain ⟨start, begins, empty⟩ := request_filled root rfl
  obtain ⟨full, fills, filled⟩ := filled_run root start empty count (by omega)
  have issued : issue (2 ^ 32) full.actor.reqids = (0, ⟨0, []⟩) := by
    rw [filled.reqids]
    simp only [issue]
    rw [all, Nat.mod_self]
  have new : findReqCtx full.actor 0 = none := by
    rw [filled.find, if_neg (by omega)]
  obtain ⟨spilled, asks, status, plainly, -, reqids, calls, turn, find, ledger⟩ :=
    send_kept full (opening root none) ⟨1, 0⟩ 2 0 filled.status 0 _ issued new
  rw [filled.calls] at calls find ledger
  rw [filled.turn] at ledger
  have sync := plainly.trans filled.sync
  have first : findReqCtx spilled.actor 1 = some ⟨some root, .plain, 1⟩ := by
    rw [find, Function.update_of_ne Nat.one_ne_zero, filled.find, if_pos (by omega)]
  have known : spilled.ledger 1 = some ⟨1, 2, 1, false, true, [], some root⟩ := by
    have different : 1 ≠ count + 1 := by omega
    rw [ledger, Function.update_of_ne different]
    exact filled.ledger 1 (Nat.le_refl 1) (by omega)
  have invalid : spilled.ledger (count + 1) = some ⟨0, 2, 1, false, true, [], some root⟩ := by
    rw [ledger, Function.update_self]
  obtain ⟨freed, recycles, idle, freedSync, freedIds, freedCalls, free, open_⟩ :=
    recycle_first spilled root (count + 1) sync calls invalid (by omega) status reqids first known
  obtain ⟨recorded, answer, records, rests, recordedSync, sender, found, entered⟩ :=
    record_answer freed root (count + 1) freedSync freedCalls open_ idle freedIds free
  obtain ⟨final, next, reply, hears, returned, value, sends, target⟩ :=
    misdirects rests recordedSync found entered
  let arriving : List (Action Nat) := [.act (.finish none), .arrive root]
  let recycling : List (Action Nat) :=
    [.act (.finish none), .answer 1 ⟨1, 0⟩ 0, .act (.finish none)]
  let recording : List (Action Nat) :=
    [.answer (count + 1) ⟨3, 0⟩ 8, ask, .act (.finish none)]
  let hearing : List (Action Nat) := [.answer (count + 1 + 1) ⟨1, 0⟩ 0]
  let rest := recycling ++ (recording ++ hearing)
  refine ⟨arriving ++ (List.replicate count ask ++ ([ask] ++ rest)), final, next, reply, ?_,
    returned, value, sends, target.trans sender, ?_⟩
  · rw [Runs.run_append soloStep _ start _ _ begins, Runs.run_append soloStep _ full _ _ fills,
      Runs.run_append soloStep _ spilled [ask] _ ((Runs.run_cons ..).mpr ⟨spilled, asks, rfl⟩),
      Runs.run_append soloStep _ freed _ _ recycles, Runs.run_append soloStep _ recorded _ _ records]
    exact hears
  · intro replies
    obtain ⟨other, single, right, -⟩ := replies _ next root 9 returned value
    obtain rfl := List.singleton_inj.mp (sends.symm.trans single)
    have wrong := right.1.symm.trans (target.trans sender)
    cases wrong

end Mola.Requests
