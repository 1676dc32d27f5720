import Mola.Requests
import Mathlib.Tactic.Common

/-!
# The ids that a step takes

An actor takes ids in five places. Whatever it does in one step, it takes at most one
id, and that is the one that `new_reqid` returns in the state before the step.
-/

namespace Mola.Requests

open Tickets

universe u
variable {Body : Type u}

theorem insertReqCtx_issued (actor : Actor Body) (reqid : Nat) (context : Context Body) :
    (insertReqCtx actor reqid context).issued = actor.issued := by
  unfold insertReqCtx
  split <;> rfl

theorem updateReqCtx_issued (actor : Actor Body) (reqid : Nat)
    (change : Context Body → Context Body) :
    (updateReqCtx actor reqid change).issued = actor.issued := by
  unfold updateReqCtx
  split <;> rfl

theorem deleteReqCtx_issued (actor : Actor Body) (reqid : Nat) :
    (deleteReqCtx actor reqid).1.issued = actor.issued := by
  unfold deleteReqCtx
  split
  · rfl
  · split <;> rfl

theorem endExecute_issued (actor : Actor Body) (frame : Frame Body) :
    (endExecute actor frame).1.issued = actor.issued := by
  unfold endExecute
  cases frame.ctx with
  | none => rfl
  | some reqid => exact deleteReqCtx_issued actor reqid

/-- Nor does the return from a fiber. -/
theorem returnFromFiber_issued (actor : Actor Body) (frame : Frame Body) :
    (returnFromFiber actor frame).1.issued = actor.issued := by
  unfold returnFromFiber
  split
  · rfl
  · dsimp only
    split
    · exact updateReqCtx_issued actor _ _
    · exact (deleteReqCtx_issued _ _).trans (updateReqCtx_issued actor _ _)

theorem switchToGatherCtx_issued (actor : Actor Body) (frame : Frame Body) (group : Nat) :
    (switchToGatherCtx actor frame group).1.issued = actor.issued := by
  unfold switchToGatherCtx
  split
  · split <;> rfl
  · rfl

/-- The ids that an actor has taken: none is new, or the one that it takes next. -/
def Takes (actor after : Actor Body) : Prop :=
  after.issued = actor.issued ∨ after.issued = (newReqid actor).1 :: actor.issued

/-- A request takes at most one id. -/
theorem dispatch_takes (actor : Actor Body) (frame : Frame Body) (reqid : Nat) (target : Address)
    (returnIntf : Option Nat) (body : Body) (outcome : Outcome) :
    Takes actor (dispatch actor frame reqid target returnIntf body outcome).1 := by
  unfold dispatch
  cases returnIntf with
  | none => exact Or.inl rfl
  | some =>
    dsimp only
    split
    · cases outcome with
      | kept => exact Or.inr (insertReqCtx_issued _ _ _)
      | passed | failed => exact Or.inr rfl
    · split <;> exact Or.inl rfl

/-- A scatter takes at most one id. -/
theorem scatterToIntf_takes (actor : Actor Body) (frame : Frame Body) (gatherIntf : Nat)
    (postings : List (Option (Posting Body))) :
    Takes actor (scatterToIntf actor frame gatherIntf postings).1 := by
  unfold scatterToIntf
  split
  · exact Or.inl rfl
  · dsimp only
    generalize (if (postings.filterMap fun posting => posting).length = postings.length then
      (postings.filterMap fun posting => posting).filter Posting.accepted else []) = accepted
    split
    · split
      · exact Or.inr rfl
      · exact Or.inr (insertReqCtx_issued _ _ _)
    · exact Or.inr rfl

/-- A request with a return interface takes an id. -/
theorem dispatch_draws (actor : Actor Body) (frame : Frame Body) (target : Address) (intf : Nat)
    (body : Body) (outcome : Outcome) :
    (dispatch actor frame 0 target (some intf) body outcome).1.issued.length ≠
      actor.issued.length := by
  suffices drawn : (dispatch actor frame 0 target (some intf) body outcome).1.issued =
      (newReqid actor).1 :: actor.issued by
    rw [drawn, List.length_cons]
    exact Nat.succ_ne_self _
  cases outcome with
  | kept => exact insertReqCtx_issued _ _ _
  | passed | failed => rfl

/-- A scatter of at least one message takes an id. -/
theorem scatterToIntf_draws (actor : Actor Body) (frame : Frame Body) (gatherIntf : Nat)
    {postings : List (Option (Posting Body))} (some_ : postings ≠ []) :
    (scatterToIntf actor frame gatherIntf postings).1.issued.length ≠ actor.issued.length := by
  suffices drawn : (scatterToIntf actor frame gatherIntf postings).1.issued =
      (newReqid actor).1 :: actor.issued by
    rw [drawn, List.length_cons]
    exact Nat.succ_ne_self _
  unfold scatterToIntf
  rw [if_neg some_]
  dsimp only
  generalize (if (postings.filterMap fun posting => posting).length = postings.length then
    (postings.filterMap fun posting => posting).filter Posting.accepted else []) = accepted
  split
  · split
    · rfl
    · exact insertReqCtx_issued _ _ _
  · rfl

theorem lockOrSubscribe_draws (actor : Actor Body) (frame : Frame Body) (returnIntf : Nat) :
    (lockOrSubscribe actor frame returnIntf).1.issued.length ≠ actor.issued.length := by
  have drawn : (lockOrSubscribe actor frame returnIntf).1.issued =
      (newReqid actor).1 :: actor.issued := insertReqCtx_issued _ _ _
  rw [drawn, List.length_cons]
  exact Nat.succ_ne_self _

/-- A callback that starts takes at most one id, for its fiber. -/
theorem callIntf_takes {actor entered : Actor Body} {message : Message Body} {ctx : Option Nat}
    (calls : callIntf actor message ctx = some entered) : Takes actor entered := by
  unfold callIntf at calls
  dsimp only at calls
  split at calls
  · split at calls <;> cases calls
    · exact Or.inl rfl
    · exact Or.inr (insertReqCtx_issued _ _ _)
  · cases calls
    exact Or.inl rfl

/-- So does a message that is invoked. -/
theorem invokeMessage_takes (actor : Actor Body) (message : Message Body) (ctx : Option Nat)
    (result : Actor Body × List (Effect Body))
    (invoked : invokeMessage actor message ctx = some result) : Takes actor result.1 := by
  unfold invokeMessage at invoked
  split at invoked
  · split at invoked
    · cases invoked
    · rename_i entered calls
      have takes := callIntf_takes calls
      split at invoked <;> cases invoked
      · have same : ∀ frame, (switchToGatherCtx (insertToGatherCtx entered (ctx.getD 0) message.body)
            frame (ctx.getD 0)).1.issued = entered.issued := fun frame =>
          (switchToGatherCtx_issued _ _ _).trans (updateReqCtx_issued _ _ _)
        unfold Takes
        rw [same]
        exact takes
      · exact takes
  · split at invoked
    · cases invoked
      exact Or.inl rfl
    · obtain ⟨entered, calls, rfl⟩ := Option.map_eq_some_iff.mp invoked
      exact callIntf_takes calls

variable (reqid : Nat) (target : Address) (outcome : Outcome)
  {result : Actor Body × List (Effect Body)}

theorem execute_takes {actor : Actor Body} {message : Message Body}
    (executed : execute actor message = some result) :
    Takes actor result.1 := by
  unfold execute at executed
  split at executed
  · obtain ⟨invoked, received, rfl⟩ := Option.map_eq_some_iff.mp executed
    exact invokeMessage_takes actor message _ invoked received
  · exact invokeMessage_takes actor message none result executed

/-- A call on a fiber takes no id but that of its request. -/
theorem sendAndRecv_takes (actor : Actor Body) (frame : Frame Body) (fiber intf : Nat)
    (target : Address) (body : Body) (outcome : Outcome) :
    Takes actor (sendAndRecv actor frame fiber intf target body outcome).1 := by
  have sent := dispatch_takes actor frame fiber target (some intf) body outcome
  unfold sendAndRecv
  generalize dispatch actor frame fiber target (some intf) body outcome = result at *
  obtain ⟨after, effects⟩ := result
  dsimp only at *
  split
  · split
    · exact sent
    · unfold Takes
      rw [endExecute_issued]
      exact (updateReqCtx_issued after _ _).symm ▸ sent
  · exact sent

theorem replyMsg_takes {actor : Actor Body} {handle : Option Nat} {vtab : Nat} {body : Body}
    (replied : replyMsg actor handle vtab body = some result) : Takes actor result.1 := by
  left
  unfold replyMsg at replied
  grind [halt]

/-- The return from a gather callback takes no id. -/
theorem gatherReturn_takes (actor : Actor Body) (frame : Frame Body) (group : Nat)
    (initiator : Option (Message Body)) (value : Option Body) :
    Takes actor (gatherReturn actor frame group initiator value).1 := by
  left
  unfold gatherReturn
  cases value with
  | none => exact updateReqCtx_issued actor _ _
  | some =>
    cases initiator with
    | none => rfl
    | some => exact updateReqCtx_issued actor _ _

theorem finish_takes {actor : Actor Body} {frame : Frame Body} {value : Option Body}
    (returned : finish actor frame value = some result) :
    Takes actor result.1 := by
  have back := returnFromFiber_issued actor frame
  have ended := endExecute_issued (returnFromFiber actor frame).1 frame
  left
  unfold finish at returned
  grind [halt]

/-- A step takes no id, or the next one. -/
theorem step_takes {actor : Actor Body} {act : Act Body} {result : Actor Body × List (Effect Body)}
    (stepped : step actor act = some result) : Takes actor result.1 := by
  unfold step at stepped
  cases status : actor.status with rw [status] at stepped
  | halted =>
    cases act <;> cases stepped
  | idle =>
    cases act with
    | receive => exact execute_takes stepped
    | _ => cases stepped
  | running frame =>
    cases act with
    | receive => cases stepped
    | send target returnIntf body outcome =>
      cases stepped
      exact dispatch_takes actor frame 0 target returnIntf body outcome
    | scatter gatherIntf postings =>
      dsimp only at stepped
      split at stepped <;> cases stepped
      exact scatterToIntf_takes actor frame gatherIntf postings
    | lock =>
      cases stepped
      exact Or.inr (insertReqCtx_issued _ _ _)
    | call target body outcome =>
      dsimp only at stepped
      split at stepped <;> cases stepped
      exact sendAndRecv_takes actor frame _ _ target body outcome
    | save =>
      cases stepped
      exact Or.inl rfl
    | reply => exact replyMsg_takes stepped
    | gatherReturn value =>
      dsimp only at stepped
      split at stepped <;> cases stepped
      exact gatherReturn_takes actor frame _ _ value
    | finish =>
      dsimp only at stepped
      split at stepped
      · exact finish_takes stepped
      · cases stepped

end Mola.Requests
