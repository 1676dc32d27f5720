import Mola.RequestViews

/-!
# The steps of an actor are moves

Every action of an actor, and every answer that it handles, is a sequence of moves of
its view, as long as an id is free whenever one is taken. The lemmas follow the
functions of the actor; what a move requires comes from the law of the view and from
the account of ids.
-/

namespace Mola.Requests

open Tickets Relation

universe u
variable {Body : Type u} (quiet : Prop) (solo : Solo Body)

/-- Messages that are only sent. -/
def Sent (effects : List (Effect Body)) : Prop :=
  ∀ effect ∈ effects, ∃ message, effect = .sent message

/-- Sent messages do not show. -/
theorem shown_sent (actor : Actor Body) (effects more : List (Effect Body)) (sent : Sent more)
    (frame : Option (Frame Body)) :
    shown (advance solo (actor, effects ++ more)) frame =
      shown (advance solo (actor, effects)) frame := by
  have silent : installs more = [] ∧ ∀ number, gathers more number = [] ∧
      recycles more number = [] := by
    refine ⟨List.filterMap_eq_nil_iff.mpr ?_, fun number =>
      ⟨List.filterMap_eq_nil_iff.mpr ?_, List.filterMap_eq_nil_iff.mpr ?_⟩⟩
    all_goals
      intro effect member
      obtain ⟨message, rfl⟩ := sent effect member
      rfl
  have logged : ∀ effect ∈ more, ∀ other : Solo Body, note other effect = other := by
    intro effect member other
    obtain ⟨message, rfl⟩ := sent effect member
    rfl
  rw [advance_append solo actor, advance_logged _ actor more logged]
  refine View.ext rfl rfl rfl rfl rfl rfl rfl rfl rfl rfl ?_ ?_ ?_
  · exact installs_skip _ _ silent.1
  · exact gathers_skip _ _ fun number => (silent.2 number).1
  · exact recycles_skip _ _ fun number => (silent.2 number).2

theorem sent_one (message : Message Body) : Sent [.sent message] :=
  fun _ member => ⟨message, List.mem_singleton.mp member⟩

theorem shown_silent (actor : Actor Body) (effects : List (Effect Body)) (sent : Sent effects)
    (frame : Option (Frame Body)) :
    shown (advance solo (actor, effects)) frame = shown { solo with actor := actor } frame := by
  have hidden := shown_sent solo actor [] effects sent frame
  rw [advance_nil] at hidden
  exact hidden

/-- A call that is logged is entered in the ledger. -/
theorem shown_called (reqids : Dispenser) (issued : List Nat)
    (reqid intf size : Nat) (scatter recorded : Bool) (frame : Option (Frame Body)) :
    shown (advance solo ({ nextCall solo.actor with reqids := reqids, issued := issued },
        [.called (solo.actor.calls + 1) reqid intf size scatter recorded])) frame =
      (shown solo frame).enter ⟨reqid, intf, size, scatter, recorded, [], solo.root⟩ := by
  refine View.ext rfl rfl rfl rfl rfl rfl rfl rfl rfl rfl ?_ ?_ ?_
  · exact installs_skip _ _ rfl
  · exact gathers_skip _ _ fun _ => rfl
  · exact recycles_skip _ _ fun _ => rfl

theorem put_drop (view : View Body) (id number : Nat) (context : Context Body) :
    (view.put id context).drop id number = view.drop id number := by
  unfold View.put View.drop
  dsimp only
  rw [Function.update_idem]

theorem goes_after (view between : View Body) (next : Solo Body)
    (moves : ReflTransGen (Move quiet) view between) (goes : Goes quiet between next) :
    Goes quiet view next := by
  obtain ⟨frame, more, fits⟩ := goes
  exact ⟨frame, moves.trans more, fits⟩

/-- A value that is dispatched is noted with its root. -/
theorem replied_moves (frame : Frame Body) (source : Source) (reply initiator : Message Body)
    (built : Answers reply initiator)
    (whose : ∀ root, rootOf solo source = some root → solo.root = some root ∧
      ((shown solo (some frame)).initiator frame = some initiator ∨
        ∃ group, frame.stage = .gather group (some initiator))) :
    ReflTransGen (Move quiet) (shown solo (some frame))
      (shown (advance solo (solo.actor, [.replied source reply])) (some frame)) := by
  have shows : shown (advance solo (solo.actor, [.replied source reply])) (some frame) =
      { shown solo (some frame) with
        replies := solo.replies ++
          ((rootOf solo source).map fun root => (reply, root)).toList } := by
    refine View.ext rfl rfl rfl rfl rfl rfl rfl rfl rfl rfl ?_ ?_ ?_
    · exact installs_skip _ _ rfl
    · exact gathers_skip _ _ fun _ => rfl
    · exact recycles_skip _ _ fun _ => rfl
  rw [shows]
  cases own : rootOf solo source with
  | none =>
    simp only [Option.map_none, Option.toList_none, List.append_nil]
    exact .refl
  | some root =>
    obtain ⟨turn, right⟩ := whose root own
    exact .single (.reply frame reply initiator root rfl right turn built)

/-- The end of a turn deletes the current context if it is done. -/
theorem endExecute_goes (frame other : Frame Body) (ctx : other.ctx = frame.ctx)
    (unthreaded : frame.fiber = none) (outside : frame.stage = .interface)
    (account : Exact solo.actor) :
    Goes quiet (shown solo (some frame)) (advance solo (endExecute solo.actor other)) := by
  have rests (undone : ∀ id context, frame.ctx = some id →
      findReqCtx solo.actor id = some context → context.shape.done = false) :
      Goes quiet (shown solo (some frame))
        (advance solo ({ solo.actor with status := .idle }, [])) := by
    rw [advance_nil]
    exact ⟨none, .single (.rest frame rfl unthreaded outside undone), rfl, account⟩
  unfold endExecute
  rw [ctx]
  cases handles : frame.ctx with
  | none => exact rests (fun id context absent => by rw [handles] at absent; cases absent)
  | some reqid =>
    dsimp only
    unfold deleteReqCtx
    cases found : findReqCtx solo.actor reqid with
    | none =>
      apply rests
      intro id context same again
      cases handles.symm.trans same
      rw [found] at again
      cases again
    | some context =>
      dsimp only
      split
      next done =>
        refine ⟨none, .single ?_, rfl, exact_erase found account⟩
        have moves : Move quiet (shown solo (some frame))
            ((shown solo none).drop reqid context.call) :=
          .delete frame reqid context rfl unthreaded outside handles found done
        rw [← shown_erase solo none reqid context.call] at moves
        exact moves
      next undone =>
        apply rests
        intro id known same again
        cases handles.symm.trans same
        cases found.symm.trans again
        exact Bool.eq_false_iff.mpr undone

theorem sendAndRecv_failed {actor : Actor Body} {frame : Frame Body} {fiber : Nat} (intf : Nat)
    (target : Address) (body : Body) {outcome : Outcome} (runs : actor.status = .running frame)
    (positive : fiber ≠ 0) (failed : outcome = .failed) :
    sendAndRecv actor frame fiber intf target body outcome = (actor, []) := by
  simp [sendAndRecv, dispatch, positive, failed, runs]

/-- An actor whose fiber waits for the answer to the next call. -/
def suspendedBy (actor : Actor Body) (frame : Frame Body) (fiber : Nat)
    (context : Context Body) : Actor Body :=
  resume
    (assignReqCtx (nextCall actor) fiber
      ⟨context.initiator, .fiber (.suspend frame.stage), actor.calls + 1⟩)
    { frame with fiber := none, stage := .interface }

/-- A call on a fiber that is made suspends the fiber and ends the turn. -/
theorem sendAndRecv_made (actor : Actor Body) (frame : Frame Body) (fiber intf : Nat)
    (target : Address) (body : Body) (outcome : Outcome) (runs : actor.status = .running frame)
    (positive : fiber ≠ 0) (made : outcome ≠ .failed) (context : Context Body)
    (found : findReqCtx actor fiber = some context) :
    sendAndRecv actor frame fiber intf target body outcome =
      ((endExecute (suspendedBy actor frame fiber context) frame).1,
        ([.called (actor.calls + 1) fiber intf 1 false true] ++
          [.sent ⟨.request, fiber, ⟨actor.self.actor, intf⟩, target, actor.calls + 1, body⟩]) ++
        (endExecute (suspendedBy actor frame fiber context) frame).2) := by
  have stored : suspendFiber (nextCall actor) frame fiber =
      suspendedBy actor frame fiber context := by
    unfold suspendFiber
    rw [update_found (nextCall actor) fiber context _ found]
    rfl
  have status : (nextCall actor).status = .running frame := runs
  unfold sendAndRecv dispatch
  dsimp only
  rw [if_neg positive, if_neg made]
  dsimp only
  rw [status]
  dsimp only
  rw [if_neg made, stored]
  rfl

/-- A value that answers nothing halts the actor, but not at a stored context. -/
theorem answeredBy_error {actor : Actor Body} {frame : Frame Body} {message : Message Body}
    {reason : Halt} (answered : answeredBy actor frame message = .error reason) :
    reason ≠ .insertAssertion := by
  unfold answeredBy at answered
  rintro rfl
  grind

/-- A value answers the initiator of the current context, or the message itself when it is
a request or scatter message. A value for a gather message has no root. -/
theorem answeredBy_ok {actor : Actor Body} {frame : Frame Body} {message : Message Body}
    {source : Source} {initiator : Message Body}
    (answered : answeredBy actor frame message = .ok (source, initiator)) :
    source = .gatherHandler ∨
      source = .callback ∧
        ((∃ reqid, frame.ctx = some reqid ∧
            (findReqCtx actor reqid).bind Context.initiator = some initiator) ∨
          message.isCall = true ∧ initiator = message) := by
  unfold answeredBy at answered
  cases kind : message.kind with rw [kind] at answered
  | response =>
    dsimp only at answered
    cases handles : frame.ctx with rw [handles] at answered
    | none =>
      cases answered
    | some reqid =>
      dsimp only at answered
      cases found : (findReqCtx actor reqid).bind Context.initiator with rw [found] at answered
      | none =>
        cases answered
      | some =>
        cases answered
        exact Or.inr ⟨rfl, Or.inl ⟨reqid, rfl, found⟩⟩
  | gather =>
    cases answered
    exact Or.inl rfl
  | request | scatter =>
    cases answered
    exact Or.inr ⟨rfl, Or.inr ⟨by simp [Message.isCall, kind], rfl⟩⟩

section
variable (frame : Frame Body) (runs : solo.actor.status = .running frame)
  (account : Exact solo.actor)
include runs account

theorem stays (next : Solo Body) (same : shown next (some frame) = shown solo (some frame))
    (actor : next.actor = solo.actor) : Goes quiet (shown solo (some frame)) next := by
  refine ⟨some frame, ?_, ?_⟩
  · rw [same]
  · rw [actor]
    exact fits_running solo.actor frame runs account

/-- A call under a new id is recorded. -/
theorem record_goes (room : Room solo.actor) (intf size : Nat) (scatter : Bool)
    (shape : Shape Body) (sends : List (Effect Body)) (sent : Sent sends)
    (fits : shape = .plain ∧ scatter = false ∧ size = 1 ∨
      shape = .group size [] false ∧ scatter = true ∧ 0 < size) :
    let drawn := newReqid (nextCall solo.actor)
    Goes quiet (shown solo (some frame))
      (advance solo
        (insertReqCtx drawn.2 drawn.1 ⟨initiatorOf drawn.2 frame, shape, drawn.2.calls⟩,
          .called drawn.2.calls drawn.1 intf size scatter true :: sends)) := by
  intro drawn
  have new : Drawn (nextCall solo.actor) drawn.1 drawn.2 :=
    newReqid_drawn (nextCall solo.actor) account room
  have context : findReqCtx drawn.2 drawn.1 = none := new.new
  rw [insert_new _ context]
  have sends_hidden := shown_sent solo (assignReqCtx drawn.2 drawn.1
      ⟨initiatorOf drawn.2 frame, shape, drawn.2.calls⟩)
    [.called drawn.2.calls drawn.1 intf size scatter true] sends sent (some frame)
  have stored := shown_assign (advance solo
    (drawn.2, [.called drawn.2.calls drawn.1 intf size scatter true])) (some frame) drawn.1
    ⟨initiatorOf drawn.2 frame, shape, drawn.2.calls⟩
  have entered : shown (advance solo
      (drawn.2, [.called drawn.2.calls drawn.1 intf size scatter true])) (some frame) =
      (shown solo (some frame)).enter ⟨drawn.1, intf, size, scatter, true, [], solo.root⟩ :=
    shown_called solo drawn.2.reqids drawn.2.issued drawn.1 intf size scatter true (some frame)
  rw [entered] at stored
  refine ⟨some frame, .single ?_, ?_⟩
  · refine Eq.mpr (congrArg (Move quiet _) (sends_hidden.trans stored)) ?_
    exact .record frame shape ⟨drawn.1, intf, size, scatter, true, [], solo.root⟩ rfl new.new
      new.usable rfl rfl rfl fits
  · exact fits_running _ frame runs (exact_insert drawn.2 drawn.1 _ context new.account)

/-- A send of a request is a recorded call, or a call that was not made. -/
theorem send_goes (target : Address) (returnIntf : Option Nat) (body : Body) (outcome : Outcome)
    (room : returnIntf.isSome → Room solo.actor) :
    Goes quiet (shown solo (some frame))
      (advance solo (dispatch solo.actor frame 0 target returnIntf body outcome)) := by
  cases returnIntf with
  | none =>
    have silent : Sent (if outcome = .failed then []
        else [.sent ⟨.request, 0, solo.actor.self, target, 0, body⟩]) := by
      split
      · exact nofun
      · exact sent_one _
    exact stays quiet solo frame runs account _ (shown_silent solo solo.actor _ silent _) rfl
  | some intf =>
    have drawn := newReqid_drawn (nextCall solo.actor) account (room rfl)
    cases outcome with
    | kept =>
      exact record_goes quiet solo frame runs account (room rfl) intf 1 false .plain [_]
        (sent_one _) (Or.inl ⟨rfl, rfl, rfl⟩)
    | passed =>
      have hidden := shown_silent solo (halt (newReqid (nextCall solo.actor)).2 .nullPointer) _
        (sent_one ⟨.request, (newReqid (nextCall solo.actor)).1, ⟨solo.actor.self.actor, intf⟩,
          target, solo.actor.calls + 1, body⟩) (some frame)
      refine ⟨some frame, .single (Eq.mpr (congrArg (Move quiet _) hidden) .skip), nofun,
        {(newReqid (nextCall solo.actor)).1}, ?_⟩
      rw [Multiset.add_comm, Multiset.singleton_add]
      exact drawn.account
    | failed =>
      have same := advance_nil solo (releaseReqid (newReqid (nextCall solo.actor)).2
        (newReqid (nextCall solo.actor)).1)
      refine Eq.mpr (congrArg (Goes quiet _) same) ?_
      refine ⟨some frame, .single .skip, fits_running _ frame runs ?_⟩
      exact giveBack_accounted _ _ _ _ drawn.account

theorem lock_goes (returnIntf : Nat) (room : Room solo.actor) :
    Goes quiet (shown solo (some frame))
      (advance solo (lockOrSubscribe solo.actor frame returnIntf)) :=
  record_goes quiet solo frame runs account room returnIntf 1 false .plain [] nofun
    (Or.inl ⟨rfl, rfl, rfl⟩)

/-- A scatter that fails gives up its id. -/
theorem lose_goes (room : Room solo.actor) (intf size : Nat) (sends : List (Effect Body))
    (sent : Sent sends) :
    let drawn := newReqid (nextCall solo.actor)
    Goes quiet (shown solo (some frame))
      (advance solo
        ({ drawn.2 with abandoned := drawn.1 :: drawn.2.abandoned },
          .called drawn.2.calls drawn.1 intf size true false :: sends)) := by
  intro drawn
  have new : Drawn (nextCall solo.actor) drawn.1 drawn.2 :=
    newReqid_drawn (nextCall solo.actor) account room
  have hidden := shown_sent solo { drawn.2 with abandoned := drawn.1 :: drawn.2.abandoned }
    [.called drawn.2.calls drawn.1 intf size true false] sends sent (some frame)
  have entered : shown (advance solo
      (drawn.2, [.called drawn.2.calls drawn.1 intf size true false])) (some frame) =
      (shown solo (some frame)).enter ⟨drawn.1, intf, size, true, false, [], solo.root⟩ :=
    shown_called solo drawn.2.reqids drawn.2.issued drawn.1 intf size true false (some frame)
  have given : shown (advance solo ({ drawn.2 with abandoned := drawn.1 :: drawn.2.abandoned },
      [.called drawn.2.calls drawn.1 intf size true false])) (some frame) =
      { (shown solo (some frame)).enter ⟨drawn.1, intf, size, true, false, [], solo.root⟩ with
        abandoned := drawn.1 :: solo.actor.abandoned } := by
    rw [← entered]
    rfl
  refine ⟨some frame, .single ?_, fits_running _ frame runs ?_⟩
  · refine Eq.mpr (congrArg (Move quiet _) (hidden.trans given)) ?_
    exact .lose ⟨drawn.1, intf, size, true, false, [], solo.root⟩ new.new rfl rfl rfl rfl
  · have out : keys solo.actor.contexts +
        ((drawn.1 :: solo.actor.abandoned : List Nat) : Multiset Nat) =
        drawn.1 ::ₘ outstanding solo.actor := by
      rw [← Multiset.cons_coe, Multiset.add_cons]
      rfl
    exact Eq.mpr (congrArg (Accounted (2 ^ 32) drawn.2.reqids) out) new.account

/-- A scatter is recorded as a group, or its id is given up. -/
theorem scatter_goes (gatherIntf : Nat) (postings : List (Option (Posting Body)))
    (short : postings.length < 2 ^ 31) (room : postings ≠ [] → Room solo.actor) :
    Goes quiet (shown solo (some frame))
      (advance solo (scatterToIntf solo.actor frame gatherIntf postings)) := by
  unfold scatterToIntf
  by_cases empty : postings = []
  · rw [if_pos empty]
    exact stays quiet solo frame runs account _ (by rw [advance_nil]) rfl
  · rw [if_neg empty]
    have drawn := newReqid_drawn (nextCall solo.actor) account (room empty)
    dsimp only
    generalize (if (postings.filterMap fun posting => posting).length = postings.length then
      (postings.filterMap fun posting => posting).filter Posting.accepted else []) = accepted
    have sent : ∀ sender reqid call, Sent (accepted.map fun posting =>
        .sent ⟨.scatter, reqid, sender, posting.target, call, posting.body⟩) := by
      intro sender reqid call effect member
      obtain ⟨posting, -, rfl⟩ := List.mem_map.mp member
      exact ⟨_, rfl⟩
    split
    next complete =>
      rw [if_neg drawn.positive]
      have size : accepted.length % 2 ^ 32 = accepted.length := by
        apply Nat.mod_eq_of_lt
        omega
      have positive : 0 < accepted.length := by
        rw [complete]
        exact List.length_pos_iff.mpr empty
      unfold onScatterDone
      rw [size]
      exact record_goes quiet solo frame runs account (room empty) gatherIntf accepted.length true
        (.group accepted.length [] false) _ (sent _ _ _) (Or.inr ⟨rfl, rfl, positive⟩)
    next =>
      exact lose_goes quiet solo frame runs account (room empty) gatherIntf accepted.length _
        (sent _ _ _)

/-- The right to reply is saved. -/
theorem save_goes (vtab : Option Nat) :
    Goes quiet (shown solo (some frame))
      (advance solo (saveReturnState solo.actor frame vtab)) := by
  refine ⟨some frame, .single ?_, fits_running _ frame runs account⟩
  have shows : shown (advance solo (saveReturnState solo.actor frame vtab)) (some frame) =
      { shown solo (some frame) with
        saved := Function.update (shown solo (some frame)).saved solo.actor.handles
          (some ⟨initiatorOf solo.actor frame, vtab⟩)
        savedRoots := Function.update solo.savedRoots solo.actor.handles solo.root } := by
    refine View.ext rfl rfl rfl rfl rfl rfl rfl ?_ rfl rfl ?_ ?_ ?_
    · exact lookup_insert solo.actor.saved solo.actor.handles _
    · exact installs_skip _ _ rfl
    · exact gathers_skip _ _ fun _ => rfl
    · exact recycles_skip _ _ fun _ => rfl
  rw [shows]
  exact .save frame solo.actor.handles ⟨initiatorOf solo.actor frame, vtab⟩ rfl rfl

omit runs in
theorem halts (reason : Halt) (stops : reason ≠ .insertAssertion) :
    Goes quiet (shown solo (some frame)) (advance solo (halt solo.actor reason, [])) := by
  rw [advance_nil]
  exact ⟨some frame, .refl, fits_halted _ stops account⟩

/-- `ReplyMsg` uses up a saved right, or does nothing. -/
theorem reply_goes (handle : Option Nat) (vtab : Nat) (body : Body)
    (result : Actor Body × List (Effect Body))
    (returned : replyMsg solo.actor handle vtab body = some result) :
    Goes quiet (shown solo (some frame)) (advance solo result) := by
  have nothing : Goes quiet (shown solo (some frame)) (advance solo (solo.actor, [])) :=
    stays quiet solo frame runs account _ (by rw [advance_nil]) rfl
  cases handle with
  | none =>
    cases returned
    exact nothing
  | some handle =>
    unfold replyMsg at returned
    dsimp only at returned
    cases held : solo.actor.saved.lookup handle with rw [held] at returned
    | none =>
      cases returned
    | some saved =>
      dsimp only at returned
      split at returned
      next =>
        cases whose : saved.initiator with rw [whose] at returned
        | none =>
          dsimp only at returned
          cases returned
          exact halts quiet solo frame account .nullPointer nofun
        | some initiator =>
          dsimp only at returned
          split at returned
          next =>
            cases returned
            refine ⟨some frame, .single ?_, fits_running _ frame runs account⟩
            have shows : shown (advance solo
                ({ solo.actor with saved := solo.actor.saved.erase handle },
                  [.replied (.saved handle) (replyTo solo.actor initiator body)])) (some frame) =
                { shown solo (some frame) with
                  saved := Function.update (shown solo (some frame)).saved handle none
                  replies := solo.replies ++ ((solo.savedRoots handle).map fun root =>
                    (replyTo solo.actor initiator body, root)).toList } := by
              refine View.ext rfl rfl rfl rfl rfl rfl rfl ?_ rfl rfl ?_ ?_ ?_
              · exact lookup_erase solo.actor.saved handle
              · exact installs_skip _ _ rfl
              · exact gathers_skip _ _ fun _ => rfl
              · exact recycles_skip _ _ fun _ => rfl
            rw [shows]
            exact .replySaved handle saved (replyTo solo.actor initiator body) initiator held whose
              ⟨rfl, rfl, rfl⟩
          next =>
            cases returned
            exact halts quiet solo frame account .replyAssertion nofun
      next =>
        cases returned
        exact nothing

omit runs in
/-- A gather callback that returns no value leaves its group done. -/
theorem gatherReturn_none (group : Nat) (held : Option (Message Body))
    (inside : frame.stage = .gather group held)
    (firing : (shown solo (some frame)).Firing group) :
    Goes quiet (shown solo (some frame))
      (advance solo (gatherReturn solo.actor frame group held none)) := by
  obtain ⟨context, size, messages, found, shaped, -⟩ := firing
  unfold gatherReturn
  dsimp only
  rw [update_found solo.actor group context _ found, shaped, advance_nil]
  refine ⟨some { frame with stage := .interface }, .single ?_, fits_running _ _ rfl ?_⟩
  · have shows := shown_assign solo (some { frame with stage := .interface }) group
      { context with shape := .group size messages true }
    refine Eq.mpr (congrArg (Move quiet _) shows) ?_
    exact .gathered frame group held context size messages rfl inside found shaped
  · exact exact_replace solo.actor group context _ found account

variable (law : (shown solo (some frame)).Law)
include law

omit runs in
/-- A gather callback that returns leaves its group done, and its value is dispatched. -/
theorem gatherReturn_goes (group : Nat) (held : Option (Message Body)) (value : Option Body)
    (inside : frame.stage = .gather group held) :
    Goes quiet (shown solo (some frame))
      (advance solo (gatherReturn solo.actor frame group held value)) := by
  have firing := law.firing none group ⟨frame, held, rfl, inside⟩
  cases value with
  | none => exact gatherReturn_none quiet solo frame account group held inside firing
  | some body =>
    cases held with
    | none => exact halts quiet solo frame account .initiatorAssertion nofun
    | some initiator =>
      have split : gatherReturn solo.actor frame group (some initiator) (some body) =
          ((gatherReturn solo.actor frame group (some initiator) none).1,
            [.replied .gatherCallback (replyTo solo.actor initiator body)] ++ []) := rfl
      rw [split, advance_append solo solo.actor]
      apply goes_after quiet _ _ _ (replied_moves quiet solo frame .gatherCallback
        (replyTo solo.actor initiator body) initiator ⟨rfl, rfl, rfl⟩ fun root own => ⟨own, Or.inr ⟨group, inside⟩⟩)
      exact gatherReturn_none quiet (advance solo
        (solo.actor, [.replied .gatherCallback (replyTo solo.actor initiator body)])) frame account
        group (some initiator) inside firing

omit runs in
/-- A callback that returns from its fiber leaves the fiber dead or deletes it. -/
theorem return_moves (outside : frame.stage = .interface) :
    ReflTransGen (Move quiet) (shown solo (some frame))
        (shown (advance solo (returnFromFiber solo.actor frame))
          (some { frame with fiber := none })) ∧
      Exact (returnFromFiber solo.actor frame).1 := by
  unfold returnFromFiber
  cases threaded : frame.fiber with
  | none =>
    dsimp only
    have same : { frame with fiber := none } = frame := by rw [← threaded]
    rw [advance_nil, same]
    exact ⟨.refl, account⟩
  | some fiber =>
    obtain ⟨⟨context, found, running⟩, -⟩ := (law.framed frame rfl).fiber fiber threaded
    have positive := exact_positive account
      (find_outstanding found)
    have dead := exact_replace solo.actor fiber context { context with shape := .fiber .dead }
      found account
    have shows := shown_assign solo (some { frame with fiber := none }) fiber
      { context with shape := .fiber .dead }
    dsimp only
    rw [update_found solo.actor fiber context _ found]
    by_cases own : frame.ctx = some fiber
    · rw [if_pos (by rw [own]; rfl), advance_nil]
      refine ⟨.single (Eq.mpr (congrArg (Move quiet _) shows) ?_), dead⟩
      exact .die frame fiber context rfl threaded own outside found running
    · have other : fiber ≠ frame.ctx.getD 0 := by
        cases handles : frame.ctx with
        | none => exact positive
        | some =>
          rintro rfl
          exact own handles
      rw [if_neg other]
      have there : findReqCtx (assignReqCtx solo.actor fiber
          { context with shape := .fiber .dead }) fiber =
          some { context with shape := .fiber .dead } := AList.lookup_insert _
      unfold deleteReqCtx
      rw [there]
      refine ⟨.single ?_, exact_erase there dead⟩
      have erased := shown_erase
        { solo with actor := (assignReqCtx solo.actor fiber { context with shape := .fiber .dead }) }
        (some { frame with fiber := none }) fiber context.call
      rw [shows, put_drop] at erased
      refine Eq.mpr (congrArg (Move quiet _) erased) ?_
      exact .leave frame fiber context rfl threaded own outside found running

omit runs in
/-- A callback returns: from its fiber, its value is dispatched, and the turn ends. -/
theorem finish_goes (value : Option Body) (outside : frame.stage = .interface)
    (result : Actor Body × List (Effect Body))
    (returned : finish solo.actor frame value = some result) :
    Goes quiet (shown solo (some frame)) (advance solo result) := by
  obtain ⟨moves, account⟩ := return_moves quiet solo frame account law outside
  unfold finish at returned
  generalize returnFromFiber solo.actor frame = back at *
  obtain ⟨actor, effects⟩ := back
  dsimp only at *
  apply goes_after quiet _ _ _ moves
  cases value with
  | none =>
    cases returned
    rw [advance_append solo actor]
    exact endExecute_goes quiet _ { frame with fiber := none } frame rfl rfl outside account
  | some body =>
    obtain absent | ⟨message, handles⟩ := Option.eq_none_or_eq_some frame.message
    · rw [absent] at returned
      cases returned
    · rw [handles] at returned
      dsimp only at returned
      cases answered : answeredBy actor frame message with
      | error reason =>
        rw [answered] at returned
        cases returned
        have stops := answeredBy_error answered
        exact ⟨some { frame with fiber := none }, .refl, fits_halted _ stops account⟩
      | ok answer =>
        obtain ⟨source, initiator⟩ := answer
        rw [answered] at returned
        cases returned
        rw [advance_append solo actor, ← List.singleton_append, advance_append _ actor]
        refine goes_after quiet _ _ _ (replied_moves quiet (advance solo (actor, effects))
          { frame with fiber := none } source (replyTo solo.actor initiator body) initiator
          ⟨rfl, rfl, rfl⟩ ?_)
          (endExecute_goes quiet _ { frame with fiber := none } frame rfl rfl outside account)
        -- what the value answers is the initiator of the frame
        intro root own
        obtain rfl | ⟨rfl, right⟩ := answeredBy_ok answered
        · cases own
        · refine ⟨own, Or.inl ?_⟩
          unfold View.initiator
          rcases right with ⟨reqid, ctx, known⟩ | ⟨calls, rfl⟩
          · dsimp only
            rw [ctx]
            exact known
          · dsimp only
            rw [law.opened frame _ rfl handles calls]
            exact handles

omit runs in
/-- A fiber waits for the answer to a new call, and the turn ends. -/
theorem suspend_goes (fiber : Nat) (message : Message Body) (context : Context Body)
    (sends : List (Effect Body)) (sent : Sent sends) (threaded : frame.fiber = some fiber)
    (handles : frame.message = some message)
    (found : findReqCtx solo.actor fiber = some context)
    (outside : quiet → frame.stage = .interface) :
    Goes quiet (shown solo (some frame))
      (advance solo ((endExecute (suspendedBy solo.actor frame fiber context) frame).1,
        ([.called (solo.actor.calls + 1) fiber message.target.intf 1 false true] ++ sends) ++
          (endExecute (suspendedBy solo.actor frame fiber context) frame).2)) := by
  obtain ⟨⟨known, again, running⟩, heard, same, synchronous⟩ :=
    (law.framed frame rfl).fiber fiber threaded
  cases found.symm.trans again
  cases handles.symm.trans same
  let waiting : Frame Body := { frame with fiber := none, stage := .interface }
  rw [advance_append solo (suspendedBy solo.actor frame fiber context)]
  refine goes_after quiet _ _ _ (.single ?_) (endExecute_goes quiet _ waiting frame rfl rfl rfl
    (exact_replace (nextCall solo.actor) fiber context _ found account))
  have entered := shown_called solo solo.actor.reqids solo.actor.issued fiber
    message.target.intf 1 false true (some waiting)
  have stored := shown_assign (advance solo (nextCall solo.actor,
      [.called (solo.actor.calls + 1) fiber message.target.intf 1 false true]))
    (some waiting) fiber
    ⟨context.initiator, .fiber (.suspend frame.stage), solo.actor.calls + 1⟩
  have hidden := shown_sent solo (suspendedBy solo.actor frame fiber context)
    [.called (solo.actor.calls + 1) fiber message.target.intf 1 false true] sends sent
    (some waiting)
  have shows := hidden.trans (stored.trans (congrArg (fun view : View Body => view.put fiber
    ⟨context.initiator, .fiber (.suspend frame.stage), solo.actor.calls + 1⟩) entered))
  refine Eq.mpr (congrArg (Move quiet _) shows) ?_
  exact .suspend frame ⟨fiber, message.target.intf, 1, false, true, [], solo.root⟩ context rfl
    threaded found running ⟨rfl, rfl, rfl, rfl⟩ rfl rfl synchronous outside

/-- A call on a fiber suspends it and ends the turn. -/
theorem call_goes (fiber : Nat) (message : Message Body) (target : Address) (body : Body)
    (outcome : Outcome) (threaded : frame.fiber = some fiber)
    (handles : frame.message = some message)
    (outside : quiet → outcome ≠ .failed → frame.stage = .interface) :
    Goes quiet (shown solo (some frame))
      (advance solo
        (sendAndRecv solo.actor frame fiber message.target.intf target body outcome)) := by
  obtain ⟨⟨context, found, running⟩, -⟩ := (law.framed frame rfl).fiber fiber threaded
  have positive := exact_positive account
    (find_outstanding found)
  by_cases failed : outcome = .failed
  · rw [sendAndRecv_failed _ target body runs positive failed]
    exact stays quiet solo frame runs account _ (by rw [advance_nil]) rfl
  · rw [sendAndRecv_made solo.actor frame fiber _ target body outcome runs positive failed
      context found]
    exact suspend_goes quiet solo frame account law fiber message context _ (sent_one _) threaded
      handles found (fun holds => outside holds failed)

end

end Mola.Requests
