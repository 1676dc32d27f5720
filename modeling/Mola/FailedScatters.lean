import Mola.RequestRuns

/-!
# Answers to a failed scatter

A scatter fails when one of its messages cannot be dispatched. `ScatterToIntf` then gives its
request id up and records no group, but the messages that were dispatched before are on their
way and will be answered. Such an answer is a gather message whose id has no context, and
`invoke_message` asserts that a gather message has a group.

With a free id for every step that takes one, the assertion fails in a run exactly at the first
answer to a failed scatter, or at a gather message that has no request id at all.
-/

namespace Mola.Requests

open Tickets

universe u
variable {Body : Type u}

/-- The answer to a scatter that failed. -/
def late (solo : Solo Body) : Action Body → Prop
  | .answer number _ _ => ∃ call, solo.ledger number = some call ∧ call.recorded = false
  | _ => False

/-- A gather message without a request id. -/
def strayGather : Action Body → Prop
  | .arrive message => message.kind = .gather
  | _ => False

/-- The assertion of `invoke_message` on gather messages has not failed. -/
def Calm (actor : Actor Body) : Prop := actor.status ≠ .halted .gatherAssertion

theorem insertReqCtx_calm {actor : Actor Body} (reqid : Nat) (context : Context Body)
    (calm : Calm actor) : Calm (insertReqCtx actor reqid context) := by
  unfold insertReqCtx
  split
  · exact calm
  · intro halted
    cases halted

theorem updateReqCtx_calm {actor : Actor Body} (reqid : Nat)
    (change : Context Body → Context Body) (calm : Calm actor) :
    Calm (updateReqCtx actor reqid change) := by
  unfold updateReqCtx
  split <;> exact calm

/-- A request fails elsewhere. -/
theorem dispatch_calm {actor : Actor Body} (frame : Frame Body) (reqid : Nat) (target : Address)
    (returnIntf : Option Nat) (body : Body) (outcome : Outcome) (calm : Calm actor) :
    Calm (dispatch actor frame reqid target returnIntf body outcome).1 := by
  unfold dispatch
  cases returnIntf with
  | none => exact calm
  | some =>
    dsimp only
    split
    · cases outcome with
      | kept => exact insertReqCtx_calm _ _ calm
      | passed =>
        intro halted
        cases halted
      | failed => exact calm
    · split <;> exact calm

/-- A scatter fails elsewhere. -/
theorem scatterToIntf_calm {actor : Actor Body} (frame : Frame Body) (gatherIntf : Nat)
    (postings : List (Option (Posting Body))) (calm : Calm actor) :
    Calm (scatterToIntf actor frame gatherIntf postings).1 := by
  unfold scatterToIntf
  split
  · exact calm
  · dsimp only
    generalize (if (postings.filterMap fun posting => posting).length = postings.length then
      (postings.filterMap fun posting => posting).filter Posting.accepted else []) = accepted
    split
    · split
      · exact calm
      · exact insertReqCtx_calm _ _ calm
    · exact calm

theorem endExecute_calm (actor : Actor Body) (frame : Frame Body) :
    Calm (endExecute actor frame).1 := by
  intro halted
  cases halted

/-- A call on a fiber fails elsewhere. -/
theorem sendAndRecv_calm {actor : Actor Body} (frame : Frame Body) (fiber intf : Nat)
    (target : Address) (body : Body) (outcome : Outcome) (calm : Calm actor) :
    Calm (sendAndRecv actor frame fiber intf target body outcome).1 := by
  have sent := dispatch_calm frame fiber target (some intf) body outcome calm
  unfold sendAndRecv
  dsimp only
  split
  · split
    · exact sent
    · exact endExecute_calm _ frame
  · exact sent

variable {result : Actor Body × List (Effect Body)} {message : Message Body} {solo : Solo Body}

/-- A reply fails elsewhere. -/
theorem replyMsg_calm {actor : Actor Body} {handle : Option Nat} {vtab : Nat} {body : Body}
    (calm : Calm actor) (replied : replyMsg actor handle vtab body = some result) :
    Calm result.1 := by
  unfold replyMsg at replied
  split at replied
  · cases replied
    exact calm
  · split at replied
    · cases replied
    · split at replied
      · split at replied
        · cases replied
          intro halted
          cases halted
        · split at replied <;> cases replied
          · exact calm
          · intro halted
            cases halted
      · cases replied
        exact calm

/-- The return of a gather callback fails elsewhere. -/
theorem gatherReturn_calm (actor : Actor Body) (frame : Frame Body) (group : Nat)
    (initiator : Option (Message Body)) (value : Option Body) :
    Calm (gatherReturn actor frame group initiator value).1 := by
  unfold gatherReturn
  dsimp only
  split
  · intro halted
    cases halted
  · split
    all_goals
      intro halted
      cases halted

/-- A value that has nobody to answer fails elsewhere. -/
theorem answeredBy_calm {actor : Actor Body} {frame : Frame Body} {reason : Halt}
    (failed : answeredBy actor frame message = .error reason) :
    reason ≠ .gatherAssertion := by
  unfold answeredBy at failed
  split at failed
  · split at failed
    · cases failed
      intro halted
      cases halted
    · split at failed <;> cases failed
      intro halted
      cases halted
  · cases failed
  · cases failed

/-- The return of a callback fails elsewhere. -/
theorem finish_calm {actor : Actor Body} {frame : Frame Body} {value : Option Body}
    (finished : finish actor frame value = some result) : Calm result.1 := by
  unfold finish at finished
  dsimp only at finished
  split at finished
  · cases finished
    exact endExecute_calm _ frame
  · split at finished
    · cases finished
    · split at finished <;> cases finished
      · rename_i reason answered
        intro same
        exact answeredBy_calm answered (Status.halted.inj same)
      · exact endExecute_calm _ frame

/-- The start of a callback fails elsewhere. -/
theorem callIntf_calm {actor entered : Actor Body} {ctx : Option Nat}
    (calls : callIntf actor message ctx = some entered) : Calm entered := by
  unfold callIntf at calls
  dsimp only at calls
  split at calls
  · split at calls <;> cases calls
    · intro halted
      cases halted
    · apply insertReqCtx_calm
      intro halted
      cases halted
  · cases calls
    intro halted
    cases halted

/-- The start of a gather callback fails nowhere. -/
theorem switchToGatherCtx_calm {actor : Actor Body} (frame : Frame Body) (group : Nat)
    (calm : Calm actor) : Calm (switchToGatherCtx actor frame group).1 := by
  unfold switchToGatherCtx
  split
  · split
    · intro halted
      cases halted
    · exact calm
  · exact calm

/-- A running callback fails elsewhere. -/
theorem step_calm {actor : Actor Body} {act : Act Body}
    (other : ∀ message, act ≠ .receive message) (stepped : step actor act = some result) :
    Calm result.1 := by
  obtain ⟨frame, status⟩ := step_running actor act result other stepped
  have calm : Calm actor := by
    rw [Calm, status]
    intro halted
    cases halted
  unfold step at stepped
  rw [status] at stepped
  cases act with
  | receive message => exact absurd rfl (other message)
  | send target returnIntf body outcome =>
    cases stepped
    exact dispatch_calm frame 0 target returnIntf body outcome calm
  | scatter gatherIntf postings =>
    dsimp only at stepped
    split at stepped <;> cases stepped
    exact scatterToIntf_calm frame gatherIntf postings calm
  | lock =>
    cases stepped
    exact insertReqCtx_calm _ _ calm
  | call target body outcome =>
    dsimp only at stepped
    split at stepped <;> cases stepped
    exact sendAndRecv_calm frame _ _ target body outcome calm
  | save =>
    cases stepped
    exact calm
  | reply => exact replyMsg_calm calm stepped
  | gatherReturn value =>
    dsimp only at stepped
    split at stepped <;> cases stepped
    exact gatherReturn_calm actor frame _ _ value
  | finish =>
    dsimp only at stepped
    split at stepped
    · exact finish_calm stepped
    · cases stepped

/-- A message whose context is a group passes the assertion. -/
theorem invokeMessage_group (actor : Actor Body) (message : Message Body) (ctx : Option Nat)
    (context : Context Body) (size : Nat) (messages : List Body) (done : Bool)
    (found : ctx.bind (findReqCtx actor) = some context)
    (grouped : context.shape = .group size messages done)
    (result : Actor Body × List (Effect Body))
    (invoked : invokeMessage actor message ctx = some result) : Calm result.1 := by
  obtain ⟨initiator, shape, call⟩ := context
  obtain rfl : shape = .group size messages done := grouped
  unfold invokeMessage at invoked
  rw [found] at invoked
  dsimp only at invoked
  split at invoked
  · cases invoked
  · rename_i entered calls
    have calm := callIntf_calm calls
    split at invoked <;> cases invoked
    · exact switchToGatherCtx_calm _ _ (updateReqCtx_calm _ _ calm)
    · exact calm

/-- Any other message passes it exactly if it is no gather message. -/
theorem invokeMessage_single_iff {actor : Actor Body} {ctx : Option Nat}
    (single : ∀ context size messages done, ctx.bind (findReqCtx actor) = some context →
      context.shape ≠ .group size messages done)
    (invoked : invokeMessage actor message ctx = some result) :
    Calm result.1 ↔ message.kind ≠ .gather := by
  unfold invokeMessage at invoked
  split at invoked
  · rename_i found
    exact absurd rfl (single _ _ _ _ found)
  · by_cases gather : message.kind = .gather
    · rw [if_pos gather] at invoked
      cases invoked
      exact iff_of_false (fun calm => calm rfl) (fun other => other gather)
    · rw [if_neg gather] at invoked
      obtain ⟨entered, calls, rfl⟩ := Option.map_eq_some_iff.mp invoked
      exact iff_of_true (callIntf_calm calls) gather

/-- A message that is no answer passes the assertion exactly if it is no gather message. -/
theorem arrive_calm_iff {actor : Actor Body} (foreign : message.isCall = true ∨ message.reqid = 0)
    (received : execute actor message = some result) :
    Calm result.1 ↔ message.kind ≠ .gather := by
  have unmatched : ¬((message.kind = .response ∨ message.kind = .gather) ∧ message.reqid ≠ 0) := by
    rintro ⟨kind, positive⟩
    rcases foreign with call | none_
    · rcases kind with kind | kind <;> simp [Message.isCall, kind] at call
    · exact positive none_
  rw [execute, if_neg unmatched] at received
  refine invokeMessage_single_iff ?_ received
  intro context size messages done found
  cases found

/-- The answer to a failed scatter halts the actor and changes nothing else. -/
theorem lost_answer {number : Nat} {call : Call Body} (sender : Address) (body : Body)
    (law : (shown solo none).Law) (account : Exact solo.actor)
    (entered : solo.ledger number = some call) (unrecorded : call.recorded = false) :
    execute solo.actor (answerTo solo number call sender body) =
      some (halt solo.actor .gatherAssertion, [.installed number none]) := by
  have given := (law.lost number call entered unrecorded).2
  have positive := exact_positive account
    (Multiset.mem_add.mpr (Or.inr given))
  exact execute_miss solo number call sender body law entered unrecorded positive

/-- An answer passes the assertion exactly if its call was recorded. -/
theorem answer_calm_iff {number : Nat} {call : Call Body} {sender : Address} {body : Body}
    (law : (shown solo none).Law) (account : Exact solo.actor)
    (entered : solo.ledger number = some call) (waits : call.Open)
    (received : execute solo.actor (answerTo solo number call sender body) = some result) :
    Calm result.1 ↔ call.recorded = true := by
  cases recorded : call.recorded with
  | false =>
    rw [lost_answer sender body law account entered recorded] at received
    cases received
    exact iff_of_false (fun calm => calm rfl) Bool.false_ne_true
  | true =>
    refine iff_of_true ?_ rfl
    obtain ⟨⟨initiator, shape, stamp⟩, found, rfl⟩ := law.waiting number call entered waits recorded
    have positive := exact_positive account
      (find_outstanding found)
    rw [execute_answer solo _ call sender body positive _ found] at received
    obtain ⟨before, handled, rfl⟩ := Option.map_eq_some_iff.mp received
    have stored := law.stored call.reqid _ found
    have single : call.scatter = false →
        (∀ size messages done, shape ≠ .group size messages done) → Calm before.1 := by
      intro alone other
      refine (invokeMessage_single_iff ?_ handled).mpr ?_
      · intro context size messages done same
        cases found.symm.trans same
        exact other size messages done
      · simp [answerTo, alone]
    cases shape with
    | plain =>
      obtain ⟨known, again, alone⟩ := stored
      cases entered.symm.trans again
      refine single alone.single fun size messages done same => ?_
      cases same
    | group size messages done =>
      exact invokeMessage_group solo.actor _ (some call.reqid) _ size messages done found rfl
        before handled
    | fiber state =>
      cases state with
      | running | dead => cases stored.1
      | suspend =>
        obtain ⟨known, again, alone, -⟩ := stored
        cases entered.symm.trans again
        refine single alone.single fun size messages done same => ?_
        cases same

/-- In a state as it should be, a step fails the assertion exactly if it is the answer to a
failed scatter or a gather message without a request id. The answer to a failed scatter changes
no context. -/
theorem soloStep_calm_iff {quiet : Prop} {next : Solo Body} {action : Action Body}
    (held : Held quiet solo) (stepped : soloStep solo action = some next) :
    (¬Calm next.actor ↔ late solo action ∨ strayGather action) ∧
      (late solo action → next.actor.contexts = solo.actor.contexts) := by
  obtain ⟨frame, fits, good⟩ := held
  unfold Fits at fits
  cases action with
  | arrive message =>
    refine ⟨?_, False.elim⟩
    unfold soloStep at stepped
    dsimp only at stepped
    split at stepped
    next foreign =>
      obtain ⟨result, taken, rfl⟩ := Option.map_eq_some_iff.mp stepped
      obtain ⟨idle, received⟩ := step_receive solo.actor message result taken
      have passes := arrive_calm_iff foreign received
      exact (not_congr passes).trans (not_not.trans (iff_of_eq (false_or _)).symm)
    next => cases stepped
  | answer number sender body =>
    unfold soloStep at stepped
    dsimp only at stepped
    cases entered : solo.ledger number with rw [entered] at stepped
    | none =>
      cases stepped
    | some call =>
      dsimp only at stepped
      split at stepped
      next waits =>
        obtain ⟨result, taken, rfl⟩ := Option.map_eq_some_iff.mp stepped
        obtain ⟨idle, received⟩ := step_receive solo.actor _ result taken
        rw [idle] at fits
        obtain ⟨rfl, account⟩ := fits
        have passes := answer_calm_iff good.law account entered waits
          received
        have unrecorded : late solo (.answer number sender body) ↔ call.recorded = false := by
          constructor
          · rintro ⟨known, again, lost⟩
            cases entered.symm.trans again
            exact lost
          · intro lost
            exact ⟨call, entered, lost⟩
        constructor
        · rw [unrecorded, ← Bool.not_eq_true, ← passes]
          exact (iff_of_eq (or_false _)).symm
        · intro lost
          rw [lost_answer sender body good.law account entered
            (unrecorded.mp lost)] at received
          cases received
          rfl
      next => cases stepped
  | act act =>
    obtain ⟨other, mapped⟩ : (∀ message, act ≠ .receive message) ∧
        (step solo.actor act).map (advance solo) = some next := by
      cases act with
      | receive => cases stepped
      | _ =>
        refine ⟨fun message same => ?_, stepped⟩
        cases same
    obtain ⟨result, taken, rfl⟩ := Option.map_eq_some_iff.mp mapped
    have calm := step_calm other taken
    exact ⟨iff_of_false (fun failed => failed calm) (not_or.mpr ⟨id, id⟩), False.elim⟩

/-- After any run that finds a free id for every step that takes one, a step fails the assertion
of `invoke_message` on gather messages exactly if it is the answer to a failed scatter or a
gather message without a request id. -/
theorem run_failed_scatter_iff (self : Address) (sync : Nat → Bool)
    (schedule : List (Action Body)) (solo next : Solo Body) (action : Action Body)
    (few : Runs.Along soloStep (fun solo action => fewIds solo action = true) (begin self sync)
      schedule)
    (executed : Runs.run soloStep (begin self sync) schedule = some solo)
    (stepped : soloStep solo action = some next) :
    (next.actor.status = .halted .gatherAssertion ↔ late solo action ∨ strayGather action) ∧
      (late solo action → next.actor.contexts = solo.actor.contexts) := by
  have allowed := Runs.along_mono soloStep _ (fun solo action => fewIds solo action = true ∧
    (False → noWait solo action = true)) (fun _ _ enough => ⟨enough, False.elim⟩) _ schedule few
  have held := run_held allowed executed
  obtain ⟨fails, unchanged⟩ := soloStep_calm_iff held stepped
  exact ⟨not_not.symm.trans fails, unchanged⟩

/-- A request of another actor. -/
def laterRequest : Action Nat := .arrive ⟨.request, 6, ⟨7, 1⟩, ⟨0, 2⟩, 0, 60⟩

/-- It can be handled after a scatter has failed and other calls were answered. -/
theorem laterRequest_completes :
    (Runs.run soloStep (begin ⟨0, 0⟩ fun intf => intf == 9)
      (mixedCalls ++ [laterRequest])).isSome := by
  decide +kernel

/-- Then no assertion fails. -/
theorem run_failed_scatter_unanswered :
    ∃ solo next, Runs.run soloStep (begin ⟨0, 0⟩ fun intf => intf == 9) mixedCalls = some solo ∧
      soloStep solo laterRequest = some next ∧
      next.actor.status ≠ .halted .gatherAssertion := by
  obtain ⟨solo, executed, rest⟩ := Runs.run_split soloStep _ _ mixedCalls [laterRequest]
    (Option.some_get laterRequest_completes).symm
  obtain ⟨next, stepped, -⟩ := (Runs.run_cons soloStep _ _ _ _).mp rest
  refine ⟨solo, next, executed, stepped, ?_⟩
  intro failed
  have few : Runs.Along soloStep (fun solo action => fewIds solo action = true)
      (begin ⟨0, 0⟩ fun intf => intf == 9) mixedCalls := by
    decide +kernel
  rcases (run_failed_scatter_iff ⟨0, 0⟩ _ mixedCalls solo next laterRequest few executed
    stepped).1.mp failed with lost | stray
  · exact lost
  · cases stray

/-- The message of the failed scatter that was sent is answered, and the process stops. -/
theorem late_reply_halts :
    (Runs.run soloStep (begin ⟨0, 0⟩ fun intf => intf == 9)
      (mixedCalls ++ [.answer 4 ⟨1, 0⟩ 50])).map (fun solo => solo.actor.status) =
      some (.halted .gatherAssertion) := by
  rfl

end Mola.Requests
