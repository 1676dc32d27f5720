import Mola.FiberSteps
import Mola.NestedReplies

/-!
# Runs of an actor with fibers

A synchronous interface runs on a fiber, which is suspended while it waits for the answer
to a call. Beside the actor stands a mark for each fiber: the message for whose sake it
was started, which is the request that started it or the initiator in the context of the
response that started it. In every state of a run one fiber at most runs, and only for the
message that is being handled. An answer to a suspended fiber resumes that fiber, and
nothing else changes. A fiber that returns leaves no context behind, its id is recycled,
its value goes to the sender of the marked message, and suspended fibers stay as they are.

With `2 ^ 32` ids outstanding the next fiber has the id zero. The context of such a fiber is
taken for the current one when there is none, and is not deleted.
-/

namespace Mola.Requests

open Tickets

universe u
variable {Body : Type u}

/-- An actor with its ledger, and for each id the message for whose sake the last fiber
under this id was started. -/
structure Watched (Body : Type u) where
  solo : Solo Body
  started : Nat → Option (Message Body)

/-- The message that an action hands to the actor. -/
def delivered (solo : Solo Body) : Action Body → Option (Message Body)
  | .arrive message => some message
  | .answer number sender body =>
      (solo.ledger number).map fun call => answerTo solo number call sender body
  | .act _ => none

/-- The fiber that runs after a step and had no context before it. -/
def begun (actor after : Actor Body) : Option Nat :=
  match after.status with
  | .running frame => frame.fiber.filter fun id => (findReqCtx actor id).isNone
  | _ => none

/-- The marks after a step: a new fiber is marked with the request that starts it, or with
the initiator in the context of the response that starts it. -/
def mark (actor after : Actor Body) (message : Option (Message Body))
    (started : Nat → Option (Message Body)) : Nat → Option (Message Body) :=
  match message, begun actor after with
  | some message, some id =>
      Function.update started id (whom actor message (some message.reqid))
  | _, _ => started

/-- One step, with its marks. -/
def watchedStep (watched : Watched Body) (action : Action Body) : Option (Watched Body) :=
  (soloStep watched.solo action).map fun next =>
    ⟨next, mark watched.solo.actor next.actor (delivered watched.solo action) watched.started⟩

/-- An actor in its init callback. -/
def watch (self : Address) (sync : Nat → Bool) : Watched Body := ⟨begin self sync, fun _ => none⟩

/-- How the fibers of an actor behave at a state and in the next step.

* A fiber that runs is that of the message that is being handled, and no other one runs.
* An answer to a call under the id of a suspended fiber answers the call for which this
  fiber waits, and resumes it where it waits, with the answer. No other context changes.
* A fiber that returns leaves no context, its id is recycled, and the turn ends. A value,
  other than from the handling of a gather message, is dispatched once, as an answer to the
  marked message. The contexts of suspended fibers stay. -/
structure Fibers (watched : Watched Body) : Prop where
  running : ∀ id context, findReqCtx watched.solo.actor id = some context →
    context.shape = .fiber .running →
    (∃ reason, watched.solo.actor.status = .halted reason) ∨
      ∃ frame message, watched.solo.actor.status = .running frame ∧ frame.fiber = some id ∧
        frame.message = some message
  alone : ∀ id other context another, findReqCtx watched.solo.actor id = some context →
    findReqCtx watched.solo.actor other = some another → context.shape = .fiber .running →
    another.shape = .fiber .running → id = other
  resumed : ∀ number call sender body initiator stage stamp next,
    watched.solo.ledger number = some call →
    findReqCtx watched.solo.actor call.reqid =
      some ⟨initiator, .fiber (.suspend stage), stamp⟩ →
    watchedStep watched (.answer number sender body) = some next →
    stamp = number ∧
      next.solo.actor.status = .running ⟨some (answerTo watched.solo number call sender body),
        some call.reqid, some call.reqid, stage⟩ ∧
      findReqCtx next.solo.actor = Function.update (findReqCtx watched.solo.actor) call.reqid
        (some ⟨initiator, .fiber .running, stamp⟩)
  finished : ∀ frame message fiber value next,
    watched.solo.actor.status = .running frame → frame.fiber = some fiber →
    frame.message = some message →
    (value.isSome → message.kind ≠ .gather ∧ (watched.started fiber).isSome) →
    watchedStep watched (.act (.finish value)) = some next →
    next.solo.actor.status = .idle ∧ findReqCtx next.solo.actor fiber = none ∧
      fiber ∈ next.solo.actor.reqids.recycle ∧
      (∀ body, value = some body → ∃ initiator, watched.started fiber = some initiator ∧
        dispatched (next.solo.log.drop watched.solo.log.length) =
          [replyTo watched.solo.actor initiator body]) ∧
      ∀ id context stage, id ≠ fiber → findReqCtx watched.solo.actor id = some context →
        context.shape = .fiber (.suspend stage) → findReqCtx next.solo.actor id = some context

/-- The id of a fiber that was there before keeps its mark. -/
theorem mark_old (actor after : Actor Body) (message : Option (Message Body))
    (started : Nat → Option (Message Body)) (id : Nat) (context : Context Body)
    (found : findReqCtx actor id = some context) : mark actor after message started id =
      started id := by
  unfold mark
  cases message with
  | none => rfl
  | some =>
    cases starts : begun actor after with
    | none => rfl
    | some =>
      apply Function.update_of_ne
      rintro rfl
      unfold begun at starts
      split at starts
      · simp [Option.filter_eq_some_iff, found] at starts
      · cases starts

/-- A new fiber gets its mark. -/
theorem mark_new (actor after : Actor Body) (message : Message Body)
    (started : Nat → Option (Message Body)) (frame : Frame Body) (id : Nat)
    (runs : after.status = .running frame) (threaded : frame.fiber = some id)
    (new : findReqCtx actor id = none) :
    mark actor after (some message) started id = whom actor message (some message.reqid) := by
  have starts : begun actor after = some id := by
    unfold begun
    rw [runs]
    simp [threaded, new]
  unfold mark
  rw [starts]
  exact Function.update_self ..

/-- The invariant: the actor is as it should be, and contexts of fibers and the turn of a
fiber are for the marked message. -/
structure Marked (watched : Watched Body) : Prop where
  held : Held False watched.solo
  contexts : ∀ id context initiator, findReqCtx watched.solo.actor id = some context →
    context.isFiber = true → watched.started id = some initiator →
    context.initiator = some initiator
  turn : ∀ frame id message initiator, watched.solo.actor.status = .running frame →
    frame.fiber = some id → frame.message = some message →
    watched.started id = some initiator →
    whom watched.solo.actor message frame.ctx = some initiator

theorem held_running {solo : Solo Body} {frame : Frame Body} (held : Held False solo)
    (runs : solo.actor.status = .running frame) :
    Exact solo.actor ∧ Good False (shown solo (some frame)) := by
  obtain ⟨running, fits, good⟩ := held
  rw [Fits, runs] at fits
  obtain ⟨rfl, account⟩ := fits
  exact ⟨account, good⟩

theorem held_idle {solo : Solo Body} (held : Held False solo) (rests : solo.actor.status = .idle) :
    Exact solo.actor ∧ Good False (shown solo none) := by
  obtain ⟨frame, fits, good⟩ := held
  rw [Fits, rests] at fits
  obtain ⟨rfl, account⟩ := fits
  exact ⟨account, good⟩

/-- The fiber of a frame has a context, and its id is not the invalid one. -/
theorem held_threaded {solo : Solo Body} {frame : Frame Body} (held : Held False solo)
    (runs : solo.actor.status = .running frame) {id : Nat} (threaded : frame.fiber = some id) :
    id ≠ 0 ∧ ∃ context, findReqCtx solo.actor id = some context ∧
      context.shape = .fiber .running := by
  obtain ⟨account, good⟩ := held_running held runs
  obtain ⟨⟨context, found, running⟩, -⟩ := (good.law.framed frame rfl).fiber id threaded
  have positive := exact_positive account
    (find_outstanding found)
  exact ⟨positive, context, found, running⟩

variable {watched : Watched Body}

/-- A step of a callback keeps the marks right. -/
theorem act_marked {act : Act Body} {result : Actor Body × List (Effect Body)}
    (marked : Marked watched) (held : Held False (advance watched.solo result))
    {frame : Frame Body} (runs : watched.solo.actor.status = .running frame)
    (stepped : step watched.solo.actor act = some result) :
    Marked ⟨advance watched.solo result, watched.started⟩ := by
  have threaded (id : Nat) (own : frame.fiber = some id) : id ≠ 0 ∧
      ∃ context, findReqCtx watched.solo.actor id = some context ∧ context.isFiber = true := by
    obtain ⟨positive, context, found, running⟩ :=
      held_threaded marked.held runs own
    exact ⟨positive, context, found, by simp [Context.isFiber, running]⟩
  obtain ⟨keeps, turn⟩ := act_proceeds watched.solo.actor frame runs threaded act result stepped
  refine ⟨held, ?_, ?_⟩
  · intro id context initiator found fiber marks
    rcases keeps id context found with ⟨earlier, stored, whose, own⟩ | ⟨-, plain⟩
    · exact whose.symm.trans (marked.contexts id earlier initiator stored (own fiber) marks)
    · exact absurd (fiber.symm.trans plain) nofun
  · intro later id message initiator status own handles marks
    obtain ⟨sameMessage, sameCtx, sameFiber⟩ := turn later status
    have before := marked.turn frame id message initiator runs (sameFiber.symm.trans own)
      (sameMessage.symm.trans handles) marks
    rw [← before, sameCtx]
    unfold whom
    split
    · rfl
    · cases current : frame.ctx with
      | none => rfl
      | some reqid =>
        -- the current context is there before and after, with one initiator
        obtain ⟨-, goodAfter⟩ := held_running held status
        obtain ⟨-, goodBefore⟩ := held_running marked.held runs
        obtain ⟨context, found, -⟩ :=
          (goodAfter.law.framed later rfl).ctx reqid (sameCtx.trans current)
        obtain ⟨known, stored, -⟩ := (goodBefore.law.framed frame rfl).ctx reqid current
        have after : findReqCtx result.1 reqid = some context := found
        have there : findReqCtx watched.solo.actor reqid = some known := stored
        change (findReqCtx result.1 reqid).bind _ = (findReqCtx watched.solo.actor reqid).bind _
        rcases keeps reqid context after with ⟨earlier, again, whose, -⟩ | ⟨absent, -⟩
        · rw [after, again]
          exact whose.symm
        · rw [there] at absent
          cases absent

/-- A message that is taken from the mailbox keeps the marks right. -/
theorem receive_marked {rooted : Solo Body} {message : Message Body}
    {result : Actor Body × List (Effect Body)} (marked : Marked watched)
    (held : Held False (advance rooted result))
    (stepped : step watched.solo.actor (.receive message) = some result) :
    Marked ⟨advance rooted result,
      mark watched.solo.actor result.1 (some message) watched.started⟩ := by
  obtain ⟨rests, executed⟩ := step_receive watched.solo.actor message result stepped
  obtain ⟨account, -⟩ := held_idle marked.held rests
  have invalid : findReqCtx watched.solo.actor 0 = none := by
    cases found : findReqCtx watched.solo.actor 0 with
    | none => rfl
    | some context =>
      exact absurd rfl (exact_positive account
        (find_outstanding found))
  have receives := execute_receives invalid executed
  refine ⟨held, ?_, ?_⟩
  · intro id context initiator found fiber marks
    dsimp only at marks
    rcases receives.contexts id context found with
      ⟨earlier, stored, whose, own⟩ | ⟨new, ⟨frame, runs, threaded⟩, starts⟩
    · rw [mark_old _ _ _ _ id earlier stored] at marks
      exact whose.symm.trans (marked.contexts id earlier initiator stored (own fiber) marks)
    · rw [mark_new _ result.1 _ _ frame id runs threaded new] at marks
      exact starts initiator marks
  · intro frame id handled initiator runs threaded handles marks
    dsimp only at marks
    obtain ⟨known, same, either⟩ := receives.turn frame id runs threaded
    cases handles.symm.trans same
    rcases either with ⟨context, stored, fiber, whose⟩ | ⟨new, starts⟩
    · rw [mark_old _ _ _ _ id context stored] at marks
      exact whose.trans (marked.contexts id context initiator stored fiber marks)
    · rw [mark_new _ result.1 _ _ frame id runs threaded new] at marks
      exact starts initiator marks

/-- Every step that finds a free id keeps the marks right. -/
theorem watchedStep_marked {action : Action Body} {next : Watched Body} (marked : Marked watched)
    (few : fewIds watched.solo action = true) (stepped : watchedStep watched action = some next) :
    Marked next := by
  obtain ⟨solo, taken, rfl⟩ := Option.map_eq_some_iff.mp stepped
  have held := soloStep_held False watched.solo action solo marked.held ⟨few, nofun⟩ taken
  cases action with unfold soloStep at taken
  | arrive =>
    dsimp only at taken
    split at taken
    · obtain ⟨result, received, rfl⟩ := Option.map_eq_some_iff.mp taken
      exact receive_marked marked held received
    · cases taken
  | answer number sender body =>
    dsimp only at taken
    cases entered : watched.solo.ledger number with rw [entered] at taken
    | none =>
      cases taken
    | some call =>
      dsimp only at taken
      split at taken
      · obtain ⟨result, received, rfl⟩ := Option.map_eq_some_iff.mp taken
        have hears : delivered watched.solo (.answer number sender body) =
            some (answerTo watched.solo number call sender body) := by
          simp [delivered, entered]
        rw [hears]
        exact receive_marked marked held received
      · cases taken
  | act act =>
    obtain ⟨other, mapped⟩ : (∀ message, act ≠ .receive message) ∧
        (step watched.solo.actor act).map (advance watched.solo) = some solo := by
      cases act with
      | receive => cases taken
      | _ => exact ⟨nofun, taken⟩
    obtain ⟨result, done, rfl⟩ := Option.map_eq_some_iff.mp mapped
    obtain ⟨frame, runs⟩ := step_running watched.solo.actor act result other done
    exact act_marked marked held runs done

/-- What a fiber leaves when it is gone: no context, and its id recycled. The contexts of
suspended fibers stay. -/
structure Leaves (actor : Actor Body) (fiber : Nat) (after : Actor Body) : Prop where
  gone : findReqCtx after fiber = none
  recycled : fiber ∈ after.reqids.recycle
  kept : ∀ id context stage, id ≠ fiber → findReqCtx actor id = some context →
    context.shape = .fiber (.suspend stage) → findReqCtx after id = some context

/-- What is left depends on the contexts and the recycled ids only. -/
theorem Leaves.same {actor after later : Actor Body} {fiber : Nat}
    (leaves : Leaves actor fiber after) (contexts : later.contexts = after.contexts)
    (reqids : later.reqids = after.reqids) : Leaves actor fiber later := by
  have find : findReqCtx later = findReqCtx after := by
    funext id
    rw [findReqCtx, contexts]
    rfl
  obtain ⟨gone, recycled, kept⟩ := leaves
  constructor
  · rw [find, gone]
  · rw [reqids]
    exact recycled
  · rw [find]
    exact kept

/-- Another context is deleted if it is done. -/
theorem Leaves.delete {actor between : Actor Body} {fiber : Nat}
    (leaves : Leaves actor fiber between) (reqid : Nat) :
    Leaves actor fiber (deleteReqCtx between reqid).1 := by
  unfold deleteReqCtx
  cases found : findReqCtx between reqid with
  | none => exact leaves
  | some =>
    dsimp only
    split
    next done =>
      constructor
      · have erased : findReqCtx { releaseReqid between reqid with
            contexts := between.contexts.erase reqid } fiber =
            Function.update (findReqCtx between) reqid none fiber :=
          congrFun (lookup_erase between.contexts reqid) fiber
        rw [erased]
        by_cases same : fiber = reqid
        · rw [same, Function.update_self]
        · rw [Function.update_of_ne same, leaves.gone]
      · exact List.mem_cons_of_mem reqid leaves.recycled
      · intro id context stage other stored suspended
        have still := leaves.kept id context stage other stored suspended
        have different : id ≠ reqid := by
          rintro rfl
          cases found.symm.trans still
          rw [suspended] at done
          cases done
        exact (AList.lookup_erase_ne different).trans still
    next => exact leaves

/-- A fiber that has returned is deleted. -/
theorem bury_leaves (actor dead : Actor Body) (fiber : Nat) (context : Context Body)
    (contexts : dead.contexts = actor.contexts.insert fiber context)
    (done : context.shape.done = true) : Leaves actor fiber (deleteReqCtx dead fiber).1 := by
  have there : findReqCtx dead fiber = some context := by
    rw [findReqCtx, contexts]
    exact AList.lookup_insert _
  unfold deleteReqCtx
  rw [there]
  dsimp only
  rw [if_pos done]
  constructor
  · exact AList.lookup_erase _ _
  · exact List.mem_cons_self
  · intro id known stage other stored _
    refine (AList.lookup_erase_ne other).trans ?_
    rw [contexts]
    exact (AList.lookup_insert_ne other).trans stored

theorem endExecute_context (actor : Actor Body) (frame : Frame Body) (reqid : Nat)
    (current : frame.ctx = some reqid) :
    (endExecute actor frame).1 = { (deleteReqCtx actor reqid).1 with status := .idle } := by
  unfold endExecute
  rw [current]

section
variable (actor : Actor Body) (frame : Frame Body) (fiber : Nat) (context : Context Body)
  (own : frame.fiber = some fiber) (positive : fiber ≠ 0)
  (found : findReqCtx actor fiber = some context)
include own found

/-- A fiber that is the current context returns: its context waits for the end of the
turn. -/
theorem return_current (current : frame.ctx = some fiber) : returnFromFiber actor frame =
    (resume (assignReqCtx actor fiber { context with shape := .fiber .dead })
      { frame with fiber := none }, []) := by
  unfold returnFromFiber
  rw [own]
  dsimp only
  rw [updateReqCtx, found, if_pos (by rw [current]; rfl)]

include positive

/-- A fiber that is not the current context returns: its context is deleted at once. -/
theorem return_other (other : frame.ctx ≠ some fiber) : (returnFromFiber actor frame).1 =
    resume
      (deleteReqCtx (assignReqCtx actor fiber { context with shape := .fiber .dead }) fiber).1
      { frame with fiber := none } := by
  have different : fiber ≠ frame.ctx.getD 0 := by
    cases ctx : frame.ctx with
    | none => exact positive
    | some =>
      rintro rfl
      exact other ctx
  unfold returnFromFiber
  rw [own]
  dsimp only
  rw [updateReqCtx, found]
  dsimp only
  rw [if_neg different]

/-- A fiber that returns is gone at the end of the turn. -/
theorem return_leaves :
    Leaves actor fiber (endExecute (returnFromFiber actor frame).1 frame).1 := by
  by_cases current : frame.ctx = some fiber
  · rw [return_current actor frame fiber context own found current]
    have buried := bury_leaves actor
      (resume (assignReqCtx actor fiber { context with shape := .fiber .dead })
        { frame with fiber := none }) fiber _ rfl rfl
    rw [endExecute_context _ frame fiber current]
    exact buried.same rfl rfl
  · rw [return_other actor frame fiber context own positive found current]
    have buried := bury_leaves actor
      (assignReqCtx actor fiber { context with shape := .fiber .dead }) fiber _ rfl rfl
    generalize (deleteReqCtx (assignReqCtx actor fiber { context with shape := .fiber .dead })
      fiber).1 = back at buried ⊢
    have leaves : Leaves actor fiber (resume back { frame with fiber := none }) :=
      buried.same rfl rfl
    cases ctx : frame.ctx with
    | none =>
      unfold endExecute
      rw [ctx]
      exact leaves.same rfl rfl
    | some reqid =>
      rw [← ctx, endExecute_context _ frame reqid ctx]
      exact (leaves.delete reqid).same rfl rfl

/-- The return from a fiber does not change for whom the message is handled. -/
theorem return_whom (message : Message Body) :
    whom (returnFromFiber actor frame).1 message frame.ctx = whom actor message frame.ctx := by
  by_cases current : frame.ctx = some fiber
  · apply whom_same
    intro id
    rw [return_current actor frame fiber context own found current]
    have same := initiator_update actor fiber id
      (fun context => { context with shape := .fiber .dead }) fun _ => rfl
    rw [updateReqCtx, found] at same
    exact same
  · cases ctx : frame.ctx with
    | none => rfl
    | some reqid =>
      have different : reqid ≠ fiber := by
        rintro rfl
        exact current ctx
      have there : findReqCtx
          (assignReqCtx actor fiber { context with shape := .fiber .dead }) fiber =
          some { context with shape := .fiber .dead } := AList.lookup_insert _
      have still : findReqCtx (returnFromFiber actor frame).1 reqid = findReqCtx actor reqid := by
        rw [return_other actor frame fiber context own positive found current, deleteReqCtx, there]
        exact (AList.lookup_erase_ne different).trans (AList.lookup_insert_ne different)
      unfold whom
      dsimp only [Option.bind_some]
      rw [still]

end

/-- A value answers the message on whose behalf a request or response is handled. -/
theorem answeredBy_whom {actor : Actor Body} {frame : Frame Body}
    {message initiator : Message Body} (usual : message.kind ≠ .gather)
    (whose : whom actor message frame.ctx = some initiator) :
    answeredBy actor frame message = .ok (.callback, initiator) := by
  unfold whom at whose
  unfold answeredBy
  cases kind : message.kind with
  | gather => exact absurd kind usual
  | request | scatter =>
    rw [if_pos (by simp [Message.isCall, kind])] at whose
    rw [Option.some.inj whose]
  | response =>
    rw [if_neg (by simp [Message.isCall, kind])] at whose
    cases ctx : frame.ctx with
    | none =>
      rw [ctx] at whose
      cases whose
    | some =>
      rw [ctx] at whose
      dsimp only [Option.bind_some] at whose ⊢
      rw [whose]

/-- A callback on a fiber returns. -/
theorem finish_fiber (actor : Actor Body) (frame : Frame Body) (fiber : Nat)
    (context : Context Body) (message : Message Body) (value : Option Body)
    (result : Actor Body × List (Effect Body)) (own : frame.fiber = some fiber)
    (positive : fiber ≠ 0) (found : findReqCtx actor fiber = some context)
    (handles : frame.message = some message) (initiator : Option (Message Body))
    (answers : value.isSome → message.kind ≠ .gather ∧ initiator.isSome)
    (whose : ∀ known, initiator = some known → whom actor message frame.ctx = some known)
    (returned : finish actor frame value = some result) :
    result.1.status = .idle ∧ Leaves actor fiber result.1 ∧
      ∀ body, value = some body → ∃ known, initiator = some known ∧
        dispatched result.2 = [replyTo actor known body] := by
  have leaves := return_leaves actor frame fiber context own positive found
  have rests := endExecute_status (returnFromFiber actor frame).1 frame
  have silent := returnFromFiber_silent actor frame
  have ended := endExecute_silent (returnFromFiber actor frame).1 frame
  have same := return_whom actor frame fiber context own positive found message
  unfold finish at returned
  dsimp only at returned
  cases value with
  | none =>
    cases returned
    exact ⟨rests, leaves, nofun⟩
  | some =>
    obtain ⟨usual, some_⟩ := answers rfl
    obtain ⟨known, rfl⟩ := Option.isSome_iff_exists.mp some_
    have answered := answeredBy_whom usual
      (same.trans (whose known rfl))
    rw [handles] at returned
    dsimp only at returned
    rw [answered] at returned
    cases returned
    refine ⟨rests, leaves, ?_⟩
    rintro _ ⟨⟩
    refine ⟨known, rfl, ?_⟩
    unfold dispatched at *
    rw [List.filterMap_append, silent, List.nil_append, List.filterMap_cons, ended]

theorem running_frame {solo : Solo Body} {frame : Option (Frame Body)} {id : Nat}
    {context : Context Body} (good : Good False (shown solo frame))
    (found : findReqCtx solo.actor id = some context)
    (running : context.shape = .fiber .running) : frame.bind Frame.fiber = some id := by
  have stored := good.law.stored id context found
  rw [View.Stored, running] at stored
  exact stored.1

/-- The answer to the call of a suspended fiber resumes it. -/
theorem answer_resumes (solo next : Solo Body) (number : Nat) (call : Call Body)
    (sender : Address) (body : Body) (initiator : Option (Message Body)) (stage : Stage Body)
    (stamp : Nat) (held : Held False solo) (entered : solo.ledger number = some call)
    (found : findReqCtx solo.actor call.reqid = some ⟨initiator, .fiber (.suspend stage), stamp⟩)
    (stepped : soloStep solo (.answer number sender body) = some next) :
    stamp = number ∧
      next.actor = resume
        (assignReqCtx solo.actor call.reqid ⟨initiator, .fiber .running, stamp⟩)
        ⟨some (answerTo solo number call sender body), some call.reqid, some call.reqid,
          stage⟩ := by
  unfold soloStep at stepped
  dsimp only at stepped
  rw [entered] at stepped
  dsimp only at stepped
  split at stepped
  next opened =>
    obtain ⟨result, received, rfl⟩ := Option.map_eq_some_iff.mp stepped
    obtain ⟨rests, executed⟩ := step_receive solo.actor _ result received
    obtain ⟨account, good⟩ := held_idle held rests
    have recorded : call.recorded = true := by
      by_contra lost
      have given := good.law.lost number call entered (Bool.eq_false_of_not_eq_true lost)
      have absent : findReqCtx solo.actor call.reqid = none := good.law.absent _ given.2
      rw [found] at absent
      cases absent
    obtain ⟨context, there, stamped⟩ := good.law.waiting number call entered opened recorded
    cases found.symm.trans there
    obtain rfl : stamp = number := stamped
    obtain ⟨known, again, waits, synchronous⟩ := good.law.stored call.reqid _ found
    cases entered.symm.trans again
    have positive := exact_positive account
      (find_outstanding found)
    rw [execute_wakes solo stamp call sender body waits.single positive initiator stage found
      synchronous] at executed
    cases executed
    exact ⟨rfl, rfl⟩
  next => cases stepped

/-- With the marks right, fibers behave as they should. -/
theorem marked_fibers (watched : Watched Body) (marked : Marked watched) : Fibers watched := by
  obtain ⟨frame, fits, good⟩ := marked.held
  constructor
  case running =>
    intro id context found running
    have threaded := running_frame good found running
    rw [Fits] at fits
    cases status : watched.solo.actor.status with rw [status] at fits
    | halted reason => exact Or.inl ⟨reason, rfl⟩
    | idle =>
      rw [fits.1] at threaded
      cases threaded
    | running current =>
      obtain ⟨rfl, -⟩ := fits
      obtain ⟨-, message, handles, -⟩ := (good.law.framed current rfl).fiber id threaded
      exact Or.inr ⟨current, message, rfl, threaded, handles⟩
  case alone =>
    intro id other context another found known running runs
    have first := running_frame good found running
    have second := running_frame good known runs
    exact Option.some.inj (first.symm.trans second)
  case resumed =>
    intro number call sender body initiator stage stamp next entered found stepped
    obtain ⟨solo, taken, rfl⟩ := Option.map_eq_some_iff.mp stepped
    obtain ⟨same, resumes⟩ := answer_resumes watched.solo solo number call sender body initiator
      stage stamp marked.held entered found taken
    refine ⟨same, ?_, ?_⟩
    · exact congrArg Actor.status resumes
    · refine (congrArg findReqCtx resumes).trans ?_
      exact lookup_insert watched.solo.actor.contexts call.reqid _
  case finished =>
    intro running message fiber value next status own handles answers stepped
    obtain ⟨solo, taken, rfl⟩ := Option.map_eq_some_iff.mp stepped
    obtain ⟨result, done, rfl⟩ := Option.map_eq_some_iff.mp taken
    obtain ⟨positive, context, found, -⟩ :=
      held_threaded marked.held status own
    unfold step at done
    rw [status] at done
    dsimp only at done
    split at done
    · obtain ⟨rests, leaves, values⟩ := finish_fiber watched.solo.actor running fiber context
        message value result own positive found handles (watched.started fiber) answers
        (fun known marks => marked.turn running fiber message known status own handles marks) done
      refine ⟨rests, leaves.gone, leaves.recycled, ?_, leaves.kept⟩
      intro body given
      rw [advance_dispatched]
      exact values body given
    · cases done

/-- In every state of a run in which fewer than `2 ^ 32` ids are outstanding or abandoned,
fibers behave as they should. -/
theorem run_fibers (self : Address) (sync : Nat → Bool) (schedule : List (Action Body))
    (final : Watched Body)
    (few : Runs.Along watchedStep (fun watched action => fewIds watched.solo action = true)
      (watch self sync) schedule)
    (executed : Runs.run watchedStep (watch self sync) schedule = some final) :
    Fibers final := by
  have initial : Marked (watch self sync : Watched Body) := by
    refine ⟨begin_held False self sync, ?_, ?_⟩
    · intro id context initiator found fiber marks
      cases marks
    · intro frame id message initiator runs threaded handles marks
      cases marks
  apply marked_fibers
  exact Runs.run_preserves watchedStep _ Marked
    (fun watched action next marked free stepped =>
      watchedStep_marked marked free stepped) _ final schedule initial few
    executed

/-- Two requests to a synchronous interface wait for their calls, and the second call is
answered first. -/
def twoFibers : List (Action Nat) :=
  [.act (.finish none), .arrive ⟨.request, 5, ⟨7, 1⟩, ⟨0, 1⟩, 0, 30⟩,
    .act (.call ⟨3, 0⟩ 31 .kept), .arrive ⟨.request, 6, ⟨8, 1⟩, ⟨0, 1⟩, 0, 40⟩,
    .act (.call ⟨3, 0⟩ 41 .kept), .answer 2 ⟨3, 0⟩ 42]

theorem twoFibers_completes :
    (Runs.run watchedStep (watch ⟨0, 0⟩ fun intf => intf == 1) twoFibers).isSome := by
  decide +kernel

/-- After the schedule the second fiber can return a value for its request while the first
one waits. -/
theorem run_fibers_two :
    ∃ final, Runs.run watchedStep (watch ⟨0, 0⟩ fun intf => intf == 1) twoFibers = some final ∧
      final.started 2 = some ⟨.request, 6, ⟨8, 1⟩, ⟨0, 1⟩, 0, 40⟩ ∧
      findReqCtx final.solo.actor 1 =
        some ⟨some ⟨.request, 5, ⟨7, 1⟩, ⟨0, 1⟩, 0, 30⟩, .fiber (.suspend .interface), 1⟩ ∧
      (watchedStep final (.act (.finish (some 43)))).isSome ∧ Fibers final := by
  refine ⟨Option.get _ twoFibers_completes, (Option.some_get _).symm, ?_, ?_, ?_, ?_⟩
  · decide +kernel
  · decide +kernel
  · decide +kernel
  · apply run_fibers ⟨0, 0⟩ (fun intf => intf == 1) twoFibers
    · decide +kernel
    · exact (Option.some_get _).symm

/-- An init callback has sent a number of requests, each under an id of its own. -/
structure Crowded (sync : Nat → Bool) (count : Nat) (solo : Solo Nat) : Prop where
  status : solo.actor.status = .running ⟨none, none, none, .interface⟩
  sync : solo.actor.sync = sync
  reqids : solo.actor.reqids = ⟨count, []⟩
  free : ∀ id, id = 0 ∨ count < id → findReqCtx solo.actor id = none

/-- Any number of requests below the limit. -/
theorem crowded_run (self : Address) (sync : Nat → Bool) (count : Nat) (room : count < 2 ^ 32) :
    ∃ watched, Runs.run watchedStep (watch self sync) (List.replicate count ask) = some watched ∧
      Crowded sync count watched.solo := by
  induction count with
  | zero => exact ⟨watch self sync, rfl, rfl, rfl, rfl, fun _ _ => rfl⟩
  | succ count hypothesis =>
    obtain ⟨watched, reached, crowded⟩ := hypothesis (by omega)
    have issued : issue (2 ^ 32) watched.solo.actor.reqids = (count + 1, ⟨count + 1, []⟩) := by
      rw [crowded.reqids]
      simp only [issue]
      rw [Nat.mod_eq_of_lt room]
    have new := crowded.free (count + 1) (Or.inr (Nat.lt_succ_self count))
    obtain ⟨next, taken, status, same, -, reqids, -, -, find, -⟩ :=
      send_kept watched.solo _ ⟨1, 0⟩ 2 0 crowded.status (count + 1) _ issued new
    let marked : Watched Nat := ⟨next, mark watched.solo.actor next.actor none watched.started⟩
    refine ⟨marked, ?_, status, same.trans crowded.sync, reqids, ?_⟩
    · rw [List.replicate_succ', Runs.run_append watchedStep _ watched _ _ reached]
      exact (Runs.run_cons watchedStep watched marked ask []).mpr
        ⟨marked, congrArg (Option.map _) taken, rfl⟩
    · intro id free
      have different : id ≠ count + 1 := by omega
      rw [find, Function.update_of_ne different]
      exact crowded.free id (by omega)

/-- With all ids outstanding, a request to a synchronous interface runs on a fiber with the
id zero. -/
theorem execute_exhausted {actor : Actor Body} {message : Message Body}
    (request : message.kind = .request) (synchronous : actor.sync message.target.intf = true)
    (reqids : actor.reqids = ⟨2 ^ 32 - 1, []⟩) (free : findReqCtx actor 0 = none) :
    ∃ after, execute actor message = some (after, []) ∧
      after.status = .running ⟨some message, none, some 0, .interface⟩ ∧
      findReqCtx after 0 = some ⟨some message, .fiber .running, 0⟩ := by
  have issued : (newReqid actor).1 = 0 := by
    change (issue (2 ^ 32) actor.reqids).1 = 0
    rw [reqids]
    rfl
  let running := resume (newReqid actor).2 ⟨some message, none, some 0, .interface⟩
  let after := assignReqCtx running 0 ⟨some message, .fiber .running, 0⟩
  have calls : callIntf actor message none = some after := by
    unfold callIntf
    dsimp only
    rw [if_pos synchronous]
    dsimp only [Option.bind_none]
    rw [issued]
    exact congrArg some (insert_new _ free)
  refine ⟨after, ?_, rfl, AList.lookup_insert _⟩
  have absent : execute actor message = invokeMessage actor message none :=
    if_neg (by simp [request])
  rw [absent]
  unfold invokeMessage
  dsimp only [Option.bind_none]
  rw [if_neg (by simp [request]), calls]
  rfl

/-- With all ids outstanding, a fiber with the id zero returns and its context stays.

Proof: the init callback sends as many requests as there are ids. The fiber of the next
request has the id zero, which is also what stands for no context. -/
theorem exhausted_ids_keep_fiber :
    ∃ schedule final next frame context,
      Runs.run watchedStep (watch ⟨0, 0⟩ fun intf => intf == 1) schedule = some final ∧
      final.solo.actor.status = .running frame ∧ frame.fiber = some 0 ∧
      watchedStep final (.act (.finish none)) = some next ∧
      next.solo.actor.status = .idle ∧ findReqCtx next.solo.actor 0 = some context ∧
      ¬ Fibers (final : Watched Nat) := by
  let request : Message Nat := ⟨.request, 5, ⟨7, 1⟩, ⟨0, 1⟩, 0, 30⟩
  obtain ⟨full, fills, crowded⟩ :=
    crowded_run ⟨0, 0⟩ (fun intf => intf == 1) (2 ^ 32 - 1) (by omega)
  let rests := advance full.solo ({ full.solo.actor with status := .idle }, [])
  have ends : soloStep full.solo (.act (.finish none)) = some rests :=
    finish_nothing full.solo none crowded.status
  have synchronous : rests.actor.sync request.target.intf = true := by
    change full.solo.actor.sync 1 = true
    rw [crowded.sync]
    rfl
  obtain ⟨after, executed, runs, found⟩ := execute_exhausted rfl synchronous
    crowded.reqids (crowded.free 0 (Or.inl rfl))
  let final := advance { rests with root := some request } (after, [])
  have arrives : soloStep rests (.arrive request) = some final :=
    congrArg (Option.map (advance { rests with root := some request })) executed
  let dead : Context Nat := ⟨some request, .fiber .dead, 0⟩
  let next := advance final
    ({ assignReqCtx after 0 dead with status := .idle }, [])
  have returned : soloStep final (.act (.finish none)) = some next := by
    have stands : final.actor.status = .running ⟨some request, none, some 0, .interface⟩ := runs
    have there : findReqCtx final.actor 0 = some ⟨some request, .fiber .running, 0⟩ := found
    unfold soloStep
    dsimp only
    unfold step
    rw [stands]
    dsimp only
    unfold finish returnFromFiber
    dsimp only
    rw [updateReqCtx, there]
    rfl
  let idle : Watched Nat := ⟨rests, mark full.solo.actor rests.actor none full.started⟩
  let marked : Watched Nat := ⟨final, mark rests.actor after (some request) idle.started⟩
  have stepped : watchedStep marked (.act (.finish none)) =
      some ⟨next, mark after next.actor none marked.started⟩ := congrArg (Option.map _) returned
  have stays : findReqCtx next.actor 0 = some dead := AList.lookup_insert _
  refine ⟨List.replicate (2 ^ 32 - 1) ask ++ [.act (.finish none), .arrive request], marked, _, _,
    dead, ?_, runs, rfl, stepped, rfl, stays, ?_⟩
  · rw [Runs.run_append watchedStep _ full _ _ fills]
    refine (Runs.run_cons ..).mpr ⟨idle, congrArg (Option.map _) ends, ?_⟩
    exact (Runs.run_cons ..).mpr ⟨marked, congrArg (Option.map _) arrives, rfl⟩
  · intro fibers
    obtain ⟨-, gone, -⟩ := fibers.finished _ request 0 none _ runs rfl rfl nofun stepped
    have impossible := stays.symm.trans gone
    cases impossible

end Mola.Requests
