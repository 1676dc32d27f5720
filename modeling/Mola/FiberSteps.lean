import Mola.RequestRuns

/-!
# What a callback does to the contexts of fibers

Between two messages a fiber is known by its context. A callback changes a context under
its id or deletes it, and stores new contexts of plain requests and groups. It never
changes an initiator and never makes a context into that of a fiber. Only a message that
is taken from the mailbox starts a fiber.

While a callback runs, its frame keeps its message, its current context and its fiber.
-/

namespace Mola.Requests

open Tickets

universe u
variable {Body : Type u}

/-- The context of a fiber. -/
def Context.isFiber (context : Context Body) : Bool :=
  match context.shape with
  | .fiber _ => true
  | _ => false

/-- A context that is there afterwards comes from the one that was there before: it has
its initiator, and is that of a fiber only if the earlier one was. -/
def Inherits (earlier context : Context Body) : Prop :=
  earlier.initiator = context.initiator ∧ (context.isFiber = true → earlier.isFiber = true)

/-- Contexts are changed and deleted. -/
def Shrinks (before after : Actor Body) : Prop :=
  ∀ id context, findReqCtx after id = some context →
    ∃ earlier, findReqCtx before id = some earlier ∧ Inherits earlier context

/-- Contexts are changed, deleted and stored, but no fiber starts. -/
def Keeps (before after : Actor Body) : Prop :=
  ∀ id context, findReqCtx after id = some context →
    (∃ earlier, findReqCtx before id = some earlier ∧ Inherits earlier context) ∨
      findReqCtx before id = none ∧ context.isFiber = false

theorem shrinks_same (before after : Actor Body) (same : after.contexts = before.contexts) :
    Shrinks before after := by
  intro id context found
  refine ⟨context, ?_, rfl, fun fiber => fiber⟩
  rwa [findReqCtx, same] at found

variable {before : Actor Body}

theorem Shrinks.trans {middle after : Actor Body} (first : Shrinks before middle)
    (second : Shrinks middle after) : Shrinks before after := by
  intro id context found
  obtain ⟨between, known, whose, fiber⟩ := second id context found
  obtain ⟨earlier, stored, whoseEarlier, fiberEarlier⟩ := first id between known
  exact ⟨earlier, stored, whoseEarlier.trans whose, fun own => fiberEarlier (fiber own)⟩

theorem Shrinks.keeps {after : Actor Body} (shrinks : Shrinks before after) :
    Keeps before after :=
  fun id context found => Or.inl (shrinks id context found)

/-- Storing a context in the place of one from which it inherits. -/
theorem shrinks_assign (actor : Actor Body) (reqid : Nat) (earlier context : Context Body)
    (found : findReqCtx actor reqid = some earlier) (inherits : Inherits earlier context) :
    Shrinks actor (assignReqCtx actor reqid context) := by
  intro id other stored
  by_cases same : id = reqid
  · subst same
    cases (AList.lookup_insert _).symm.trans stored
    exact ⟨earlier, found, inherits⟩
  · exact ⟨other, (AList.lookup_insert_ne same).symm.trans stored, rfl, fun fiber => fiber⟩

theorem shrinks_update (actor : Actor Body) (reqid : Nat) (change : Context Body → Context Body)
    (inherits : ∀ context, findReqCtx actor reqid = some context →
      Inherits context (change context)) :
    Shrinks actor (updateReqCtx actor reqid change) := by
  unfold updateReqCtx
  cases found : findReqCtx actor reqid with
  | none => exact shrinks_same actor actor rfl
  | some context => exact shrinks_assign actor reqid context _ found (inherits context found)

/-- Deleting a context. -/
theorem shrinks_delete (actor : Actor Body) (reqid : Nat) :
    Shrinks actor (deleteReqCtx actor reqid).1 := by
  unfold deleteReqCtx
  cases found : findReqCtx actor reqid with
  | none => exact shrinks_same actor actor rfl
  | some =>
    dsimp only
    split
    · intro id other stored
      by_cases same : id = reqid
      · subst same
        have erased : (actor.contexts.erase id).lookup id = none := AList.lookup_erase _ _
        exact absurd (erased.symm.trans stored) nofun
      · exact ⟨other, (AList.lookup_erase_ne same).symm.trans stored, rfl, fun fiber => fiber⟩
    · exact shrinks_same actor actor rfl

theorem shrinks_endExecute (actor : Actor Body) (frame : Frame Body) :
    Shrinks actor (endExecute actor frame).1 := by
  unfold endExecute
  cases frame.ctx with
  | none => exact shrinks_same actor _ rfl
  | some reqid => exact (shrinks_delete actor reqid).trans (shrinks_same _ _ rfl)

/-- Storing the context of a plain request or a group. -/
theorem keeps_insert {actor : Actor Body} (reqid : Nat) {context : Context Body}
    (same : actor.contexts = before.contexts) (plain : context.isFiber = false) :
    Keeps before (insertReqCtx actor reqid context) := by
  unfold insertReqCtx
  cases found : findReqCtx actor reqid with
  | some => exact (shrinks_same before _ same).keeps
  | none =>
    intro id other stored
    by_cases here : id = reqid
    · subst here
      cases (AList.lookup_insert _).symm.trans stored
      right
      rw [findReqCtx, same] at found
      exact ⟨found, plain⟩
    · apply (shrinks_same before actor same).keeps id other
      exact (AList.lookup_insert_ne here).symm.trans stored

/-- The frame of a callback after some of its code: it has the same message, context and
fiber. -/
def SameTurn (frame : Frame Body) (after : Actor Body) : Prop :=
  ∀ later, after.status = .running later →
    later.message = frame.message ∧ later.ctx = frame.ctx ∧ later.fiber = frame.fiber

theorem sameTurn_status (actor after : Actor Body) (frame : Frame Body)
    (runs : actor.status = .running frame) (same : after.status = actor.status) :
    SameTurn frame after := by
  intro later status
  rw [same, runs] at status
  cases status
  exact ⟨rfl, rfl, rfl⟩

theorem sameTurn_halt (actor : Actor Body) (frame : Frame Body) (reason : Halt) :
    SameTurn frame (halt actor reason) := by
  intro later status
  cases status

theorem sameTurn_insert {actor : Actor Body} {frame : Frame Body} (reqid : Nat)
    (context : Context Body) (runs : actor.status = .running frame) :
    SameTurn frame (insertReqCtx actor reqid context) := by
  unfold insertReqCtx
  split
  · exact sameTurn_status actor _ frame runs rfl
  · exact sameTurn_halt actor frame .insertAssertion

theorem endExecute_status (actor : Actor Body) (frame : Frame Body) :
    (endExecute actor frame).1.status = .idle := by
  unfold endExecute
  rfl

/-- What the code of a callback does to its actor. -/
structure Proceeds (actor : Actor Body) (frame : Frame Body) (after : Actor Body) : Prop where
  keeps : Keeps actor after
  turn : SameTurn frame after

theorem proceeds_halt (actor : Actor Body) (frame : Frame Body) (reason : Halt) :
    Proceeds actor frame (halt actor reason) :=
  ⟨(shrinks_same actor _ rfl).keeps, sameTurn_halt actor frame reason⟩

section
variable (actor : Actor Body) (frame : Frame Body) (runs : actor.status = .running frame)
include runs

theorem proceeds_still (after : Actor Body) (contexts : after.contexts = actor.contexts)
    (status : after.status = actor.status) : Proceeds actor frame after :=
  ⟨(shrinks_same actor after contexts).keeps, sameTurn_status actor after frame runs status⟩

/-- A request of a callback. -/
theorem dispatch_proceeds (target : Address) (returnIntf : Option Nat) (body : Body)
    (outcome : Outcome) :
    Proceeds actor frame (dispatch actor frame 0 target returnIntf body outcome).1 := by
  unfold dispatch
  cases returnIntf with
  | none => exact proceeds_still actor frame runs _ rfl rfl
  | some =>
    dsimp only
    rw [if_pos rfl]
    cases outcome with
    | kept => exact ⟨keeps_insert _ rfl rfl, sameTurn_insert _ _ runs⟩
    | passed => exact ⟨(shrinks_same actor _ rfl).keeps, sameTurn_halt _ frame .nullPointer⟩
    | failed => exact proceeds_still actor frame runs _ rfl rfl

/-- A scatter of a callback. -/
theorem scatterToIntf_proceeds (gatherIntf : Nat) (postings : List (Option (Posting Body))) :
    Proceeds actor frame (scatterToIntf actor frame gatherIntf postings).1 := by
  unfold scatterToIntf
  split
  · exact proceeds_still actor frame runs actor rfl rfl
  · dsimp only
    generalize (if (postings.filterMap fun posting => posting).length = postings.length then
      (postings.filterMap fun posting => posting).filter Posting.accepted else []) = accepted
    split
    · split
      · exact proceeds_still actor frame runs _ rfl rfl
      · exact ⟨keeps_insert _ rfl rfl, sameTurn_insert _ _ runs⟩
    · exact proceeds_still actor frame runs _ rfl rfl

theorem lockOrSubscribe_proceeds (returnIntf : Nat) :
    Proceeds actor frame (lockOrSubscribe actor frame returnIntf).1 :=
  ⟨keeps_insert _ rfl rfl, sameTurn_insert _ _ runs⟩

/-- A reply of a callback through a saved state. -/
theorem replyMsg_proceeds (handle : Option Nat) (vtab : Nat) (body : Body)
    (result : Actor Body × List (Effect Body))
    (replied : replyMsg actor handle vtab body = some result) :
    Proceeds actor frame result.1 := by
  unfold replyMsg at replied
  split at replied
  · cases replied
    exact proceeds_still actor frame runs actor rfl rfl
  · split at replied
    · cases replied
    · split at replied
      · split at replied
        · cases replied
          exact proceeds_halt actor frame .nullPointer
        · split at replied <;> cases replied
          · exact proceeds_still actor frame runs _ rfl rfl
          · exact proceeds_halt actor frame .replyAssertion
      · cases replied
        exact proceeds_still actor frame runs actor rfl rfl

omit runs in
/-- The return from a gather callback. -/
theorem gatherReturn_proceeds (group : Nat) (initiator : Option (Message Body))
    (value : Option Body) :
    Proceeds actor frame (gatherReturn actor frame group initiator value).1 := by
  have returns (change : Context Body → Context Body)
      (inherits : ∀ context, Inherits context (change context)) : Proceeds actor frame
        (resume (updateReqCtx actor group change) { frame with stage := .interface }) := by
    have shrinks := shrinks_update actor group change fun context _ => inherits context
    refine ⟨(shrinks.trans (shrinks_same _ _ rfl)).keeps, ?_⟩
    intro later status
    cases status
    exact ⟨rfl, rfl, rfl⟩
  unfold gatherReturn
  cases value with
  | none =>
    apply returns
    intro context
    obtain ⟨whose, shape, call⟩ := context
    cases shape <;> exact ⟨rfl, fun fiber => fiber⟩
  | some =>
    cases initiator with
    | none =>
      refine ⟨(shrinks_same actor _ rfl).keeps, ?_⟩
      intro later status
      cases status
    | some =>
      apply returns
      intro context
      obtain ⟨whose, shape, call⟩ := context
      cases shape <;> exact ⟨rfl, fun fiber => fiber⟩

variable (threaded : ∀ id, frame.fiber = some id → id ≠ 0 ∧
  ∃ context, findReqCtx actor id = some context ∧ context.isFiber = true)
include threaded

omit runs in
/-- The return from a fiber changes and deletes only. -/
theorem returnFromFiber_shrinks : Shrinks actor (returnFromFiber actor frame).1 := by
  unfold returnFromFiber
  cases own : frame.fiber with
  | none => exact shrinks_same actor actor rfl
  | some fiber =>
    obtain ⟨-, known, there, fibrous⟩ := threaded fiber own
    have dies := shrinks_update actor fiber
      (fun context => { context with shape := .fiber .dead }) (by
        intro context found
        cases there.symm.trans found
        exact ⟨rfl, fun _ => fibrous⟩)
    dsimp only
    split
    · exact dies.trans (shrinks_same _ _ rfl)
    · exact (dies.trans (shrinks_delete _ fiber)).trans (shrinks_same _ _ rfl)

omit runs in
/-- The return of a callback ends its turn, or stops the process. -/
theorem finish_proceeds (value : Option Body) (result : Actor Body × List (Effect Body))
    (returned : finish actor frame value = some result) : Proceeds actor frame result.1 := by
  have back := returnFromFiber_shrinks actor frame threaded
  have ended := back.trans (shrinks_endExecute (returnFromFiber actor frame).1 frame)
  have rests := endExecute_status (returnFromFiber actor frame).1 frame
  have ends : Proceeds actor frame (endExecute (returnFromFiber actor frame).1 frame).1 := by
    refine ⟨ended.keeps, ?_⟩
    intro later status
    rw [rests] at status
    cases status
  unfold finish at returned
  dsimp only at returned
  split at returned
  · cases returned
    exact ends
  · split at returned
    · cases returned
    · split at returned <;> cases returned
      · refine ⟨(back.trans (shrinks_same _ _ rfl)).keeps, ?_⟩
        intro later status
        cases status
      · exact ends

/-- A call on a fiber suspends it and ends the turn, or fails. -/
theorem sendAndRecv_proceeds (fiber intf : Nat) (own : frame.fiber = some fiber)
    (target : Address) (body : Body) (outcome : Outcome) :
    Proceeds actor frame (sendAndRecv actor frame fiber intf target body outcome).1 := by
  obtain ⟨positive, context, found, fibrous⟩ := threaded fiber own
  by_cases failed : outcome = .failed
  · rw [sendAndRecv_failed intf target body runs positive failed]
    exact ⟨(shrinks_same actor actor rfl).keeps, sameTurn_status actor actor frame runs rfl⟩
  · rw [sendAndRecv_made actor frame fiber intf target body outcome runs positive failed context
      found]
    have suspends : Shrinks actor (suspendedBy actor frame fiber context) :=
      ((shrinks_same actor (nextCall actor) rfl).trans
        (shrinks_assign (nextCall actor) fiber context
          ⟨context.initiator, .fiber (.suspend frame.stage), actor.calls + 1⟩ found
          ⟨rfl, fun _ => fibrous⟩)).trans (shrinks_same _ _ rfl)
    refine ⟨(suspends.trans (shrinks_endExecute _ frame)).keeps, ?_⟩
    intro later status
    rw [endExecute_status] at status
    cases status

/-- Whatever a callback does, no fiber starts, and its turn goes on or ends. -/
theorem act_proceeds (act : Act Body) (result : Actor Body × List (Effect Body))
    (stepped : step actor act = some result) : Proceeds actor frame result.1 := by
  unfold step at stepped
  rw [runs] at stepped
  cases act with
  | receive => cases stepped
  | send target returnIntf body outcome =>
    cases stepped
    exact dispatch_proceeds actor frame runs target returnIntf body outcome
  | scatter gatherIntf postings =>
    dsimp only at stepped
    split at stepped <;> cases stepped
    exact scatterToIntf_proceeds actor frame runs gatherIntf postings
  | lock returnIntf =>
    cases stepped
    exact lockOrSubscribe_proceeds actor frame runs returnIntf
  | call target body outcome =>
    dsimp only at stepped
    split at stepped
    next fiber message own handles =>
      cases stepped
      exact sendAndRecv_proceeds actor frame runs threaded fiber _ own target body outcome
    next => cases stepped
  | save =>
    cases stepped
    exact ⟨(shrinks_same actor _ rfl).keeps, sameTurn_status actor _ frame runs rfl⟩
  | reply handle vtab body =>
    exact replyMsg_proceeds actor frame runs handle vtab body result stepped
  | gatherReturn value =>
    dsimp only at stepped
    split at stepped <;> cases stepped
    exact gatherReturn_proceeds actor frame _ _ value
  | finish value =>
    dsimp only at stepped
    split at stepped
    · exact finish_proceeds actor frame threaded value result stepped
    · cases stepped

end

/-- Whom a message is handled for: a request or scatter message for itself, an answer for
the initiator that its context has recorded. -/
def whom (actor : Actor Body) (message : Message Body) (ctx : Option Nat) :
    Option (Message Body) :=
  if message.isCall then some message
  else (ctx.bind (findReqCtx actor)).bind Context.initiator

/-- What the actor does with a message up to the callback. A context that is new is that
of the fiber that starts. The turn of a fiber that goes on is for the initiator of its
context; the turn of one that starts, and its context, are for the starter. -/
structure Receives (starter : Option (Message Body)) (actor after : Actor Body) : Prop where
  contexts : ∀ id context, findReqCtx after id = some context →
    (∃ earlier, findReqCtx actor id = some earlier ∧ Inherits earlier context) ∨
      findReqCtx actor id = none ∧
        (∃ frame, after.status = .running frame ∧ frame.fiber = some id) ∧
        ∀ initiator, starter = some initiator → context.initiator = some initiator
  turn : ∀ frame id, after.status = .running frame → frame.fiber = some id →
    ∃ message, frame.message = some message ∧
      ((∃ context, findReqCtx actor id = some context ∧ context.isFiber = true ∧
          whom after message frame.ctx = context.initiator) ∨
        findReqCtx actor id = none ∧
          ∀ initiator, starter = some initiator → whom after message frame.ctx = some initiator)

theorem Shrinks.receives {actor after : Actor Body} (starter : Option (Message Body))
    (shrinks : Shrinks actor after)
    (unthreaded : ∀ frame, after.status = .running frame → frame.fiber = none) :
    Receives starter actor after := by
  refine ⟨fun id context found => Or.inl (shrinks id context found), ?_⟩
  intro frame id status threaded
  rw [unthreaded frame status] at threaded
  cases threaded

variable {message : Message Body} {ctx : Option Nat} {entered : Actor Body}

/-- Without a context a request or scatter message is handled for itself, and with one an
answer is handled for the initiator in it. -/
theorem initiatorOf_whom {actor : Actor Body} {initiator : Message Body}
    (opened : message.isCall = true → ctx = none)
    (whose : whom actor message ctx = some initiator) :
    initiatorOf actor (opening message ctx) = some initiator := by
  unfold whom at whose
  split at whose
  next calls =>
    rw [opened calls]
    exact whose
  next =>
    cases ctx with
    | none => cases whose
    | some => exact whose

/-- A callback starts on a new fiber. -/
theorem newFiber_receives {actor running : Actor Body} {id : Nat}
    (opened : message.isCall = true → ctx = none) (contexts : running.contexts = actor.contexts)
    (status : running.status = .running ⟨some message, ctx, some id, .interface⟩) :
    Receives (whom actor message ctx) actor
      (insertReqCtx running id
        ⟨initiatorOf actor (opening message ctx), .fiber .running, 0⟩) := by
  have find : findReqCtx running = findReqCtx actor := by
    funext other
    rw [findReqCtx, contexts]
    rfl
  cases found : findReqCtx actor id with
  | some =>
    have stops : insertReqCtx running id
        ⟨initiatorOf actor (opening message ctx), .fiber .running, 0⟩ =
        halt running .insertAssertion := by
      rw [insertReqCtx, find, found]
    rw [stops]
    apply Shrinks.receives _ (shrinks_same actor (halt running .insertAssertion) contexts)
    intro frame runs
    cases runs
  | none =>
    rw [insert_new _ (by rw [find]; exact found)]
    generalize made : assignReqCtx running id
      ⟨initiatorOf actor (opening message ctx), .fiber .running, 0⟩ = after
    have there : findReqCtx after id =
        some ⟨initiatorOf actor (opening message ctx), .fiber .running, 0⟩ := by
      rw [← made]
      exact AList.lookup_insert _
    have elsewhere (other : Nat) (different : other ≠ id) :
        findReqCtx after other = findReqCtx actor other := by
      rw [← made, ← find]
      exact AList.lookup_insert_ne different
    have runs : after.status = .running ⟨some message, ctx, some id, .interface⟩ := by
      rw [← made]
      exact status
    constructor
    · intro other context stored
      by_cases same : other = id
      · subst same
        cases there.symm.trans stored
        refine Or.inr ⟨found, ⟨_, runs, rfl⟩, ?_⟩
        intro initiator whose
        exact initiatorOf_whom opened whose
      · exact Or.inl ⟨context, (elsewhere other same).symm.trans stored, rfl, fun fiber => fiber⟩
    · intro frame other again threaded
      obtain rfl := Status.running.inj (runs.symm.trans again)
      cases threaded
      refine ⟨message, rfl, Or.inr ⟨found, ?_⟩⟩
      intro initiator whose
      rw [← whose]
      unfold whom at whose ⊢
      split at whose
      next calls => rw [if_pos calls, if_pos calls]
      next answer =>
        rw [if_neg answer, if_neg answer]
        obtain ⟨context, bound, -⟩ := Option.bind_eq_some_iff.mp whose
        obtain ⟨reqid, rfl, stored⟩ := Option.bind_eq_some_iff.mp bound
        have different : reqid ≠ id := by
          rintro rfl
          rw [found] at stored
          cases stored
        dsimp only [Option.bind_some]
        rw [elsewhere reqid different]

/-- A callback starts: without a fiber, on the suspended one of its context, or on a new
one. -/
theorem callIntf_receives {actor : Actor Body} (opened : message.isCall = true → ctx = none)
    (calls : callIntf actor message ctx = some entered) :
    Receives (whom actor message ctx) actor entered := by
  unfold callIntf at calls
  dsimp only at calls
  split at calls
  next =>
    split at calls
    next initiator stage number found =>
      cases calls
      obtain ⟨reqid, rfl, there⟩ := Option.bind_eq_some_iff.mp found
      have answer : ¬ message.isCall = true := fun request => nomatch opened request
      constructor
      · intro id context stored
        left
        exact shrinks_assign actor reqid _ ⟨initiator, .fiber .running, number⟩ there
          ⟨rfl, fun fiber => fiber⟩ id context stored
      · intro frame id status threaded
        cases status
        cases threaded
        refine ⟨message, rfl, Or.inl ⟨_, there, rfl, ?_⟩⟩
        have again : findReqCtx (assignReqCtx actor reqid ⟨initiator, .fiber .running, number⟩)
            reqid = some ⟨initiator, .fiber .running, number⟩ := AList.lookup_insert _
        rw [whom, if_neg answer]
        exact congrArg (Option.bind · Context.initiator) again
    next => cases calls
    next =>
      cases calls
      exact newFiber_receives opened rfl rfl
  next =>
    cases calls
    apply Shrinks.receives
    · exact shrinks_same actor _ rfl
    · intro frame status
      cases status
      rfl

/-- Changing a context without its initiator keeps all initiators. -/
theorem initiator_update (actor : Actor Body) (reqid id : Nat)
    (change : Context Body → Context Body)
    (same : ∀ context, (change context).initiator = context.initiator) :
    (findReqCtx (updateReqCtx actor reqid change) id).bind Context.initiator =
      (findReqCtx actor id).bind Context.initiator := by
  unfold updateReqCtx
  cases found : findReqCtx actor reqid with
  | none => rfl
  | some context =>
    by_cases here : id = reqid
    · subst here
      have stored : findReqCtx (assignReqCtx actor id (change context)) id =
          some (change context) := AList.lookup_insert _
      dsimp only
      rw [stored, found]
      exact same context
    · have stored : findReqCtx (assignReqCtx actor reqid (change context)) id =
          findReqCtx actor id := AList.lookup_insert_ne here
      dsimp only
      rw [stored]

/-- What is handled for somebody is handled for the same one when no initiator changes. -/
theorem whom_same {actor after : Actor Body} (message : Message Body) (ctx : Option Nat)
    (initiators : ∀ id, (findReqCtx after id).bind Context.initiator =
      (findReqCtx actor id).bind Context.initiator) :
    whom after message ctx = whom actor message ctx := by
  unfold whom
  cases ctx with
  | none => rfl
  | some reqid =>
    dsimp only [Option.bind_some]
    rw [initiators reqid]

/-- Code that changes contexts but no initiator goes on with what was received. -/
theorem Receives.continues {starter : Option (Message Body)} {actor after : Actor Body}
    {frame later : Frame Body} (receives : Receives starter actor entered)
    (runs : entered.status = .running frame) (shrinks : Shrinks entered after)
    (initiators : ∀ id, (findReqCtx after id).bind Context.initiator =
      (findReqCtx entered id).bind Context.initiator)
    (status : after.status = .running later) (message : later.message = frame.message)
    (ctx : later.ctx = frame.ctx) (fiber : later.fiber = frame.fiber) :
    Receives starter actor after := by
  constructor
  · intro id context found
    obtain ⟨between, known, whose, own⟩ := shrinks id context found
    rcases receives.contexts id between known with
      ⟨earlier, stored, whoseEarlier, ownEarlier⟩ | ⟨new, ⟨running, started, threaded⟩, starts⟩
    · exact Or.inl ⟨earlier, stored, whoseEarlier.trans whose, fun is => ownEarlier (own is)⟩
    · obtain rfl := Status.running.inj (runs.symm.trans started)
      refine Or.inr ⟨new, ⟨later, status, fiber.trans threaded⟩, ?_⟩
      intro initiator given
      exact whose.symm.trans (starts initiator given)
  · intro running id again threaded
    obtain rfl := Status.running.inj (status.symm.trans again)
    have handled := receives.turn frame id runs (fiber.symm.trans threaded)
    rw [message, ctx]
    obtain ⟨handles, own, either⟩ := handled
    refine ⟨handles, own, ?_⟩
    rw [whom_same handles frame.ctx initiators]
    exact either

/-- The wrapper of a gather interface changes a group only. -/
theorem gather_receives {starter : Option (Message Body)} {actor : Actor Body}
    {frame : Frame Body} (group : Nat) (body : Body) (runs : entered.status = .running frame)
    (receives : Receives starter actor entered) :
    Receives starter actor
      (switchToGatherCtx (insertToGatherCtx entered group body) frame group).1 := by
  have shrinks : Shrinks entered (insertToGatherCtx entered group body) := by
    apply shrinks_update
    intro context _
    obtain ⟨whose, shape, call⟩ := context
    cases shape <;> exact ⟨rfl, fun fiber => fiber⟩
  have initiators (id : Nat) :
      (findReqCtx (insertToGatherCtx entered group body) id).bind Context.initiator =
        (findReqCtx entered id).bind Context.initiator := by
    apply initiator_update
    intro context
    obtain ⟨whose, shape, call⟩ := context
    cases shape <;> rfl
  have status : (insertToGatherCtx entered group body).status = .running frame := by
    unfold insertToGatherCtx updateReqCtx
    split <;> exact runs
  generalize insertToGatherCtx entered group body = collected at *
  have rests : Receives starter actor collected :=
    receives.continues runs shrinks initiators status rfl rfl rfl
  unfold switchToGatherCtx
  split
  · split
    · exact rests.continues status (shrinks_same collected _ rfl) (fun _ => rfl) rfl rfl rfl rfl
    · exact rests
  · exact rests

/-- A message is invoked with its context. -/
theorem invokeMessage_receives {actor : Actor Body} {result : Actor Body × List (Effect Body)}
    (opened : message.isCall = true → ctx = none)
    (invoked : invokeMessage actor message ctx = some result) :
    Receives (whom actor message ctx) actor result.1 := by
  unfold invokeMessage at invoked
  split at invoked
  next found =>
    have answer : message.isCall = false := by
      cases calls : message.isCall with
      | false => rfl
      | true =>
        rw [opened calls] at found
        cases found
    have gathers : ({ message with kind := .gather } : Message Body).isCall = false := rfl
    have same : whom actor { message with kind := .gather } ctx = whom actor message ctx := by
      rw [whom, whom, gathers, answer]
      rfl
    split at invoked
    next => cases invoked
    next entered calls =>
      have receives := callIntf_receives
        (fun call => Bool.noConfusion (gathers.symm.trans call)) calls
      rw [same] at receives
      split at invoked
      next frame runs =>
        cases invoked
        exact gather_receives _ message.body runs receives
      next =>
        cases invoked
        exact receives
  next =>
    split at invoked
    next =>
      cases invoked
      apply (shrinks_same actor (halt actor .gatherAssertion) rfl).receives
      intro frame status
      cases status
    next =>
      obtain ⟨entered, calls, rfl⟩ := Option.map_eq_some_iff.mp invoked
      exact callIntf_receives opened calls

/-- A message is taken from the mailbox. -/
theorem execute_receives {actor : Actor Body} {message : Message Body}
    {result : Actor Body × List (Effect Body)} (invalid : findReqCtx actor 0 = none)
    (executed : execute actor message = some result) :
    Receives (whom actor message (some message.reqid)) actor result.1 := by
  unfold execute at executed
  split at executed
  next answer =>
    have response : message.isCall = false := by
      rcases answer.1 with kind | kind <;> simp [Message.isCall, kind]
    obtain ⟨invoked, received, rfl⟩ := Option.map_eq_some_iff.mp executed
    have receives := invokeMessage_receives (by simp [response]) received
    have same : whom actor message ((findReqCtx actor message.reqid).map fun _ => message.reqid) =
        whom actor message (some message.reqid) := by
      cases found : findReqCtx actor message.reqid with
      | none => simp [whom, found]
      | some => rfl
    rw [same] at receives
    exact receives
  next other =>
    have receives := invokeMessage_receives (fun _ => rfl) executed
    have same : whom actor message none = whom actor message (some message.reqid) := by
      cases calls : message.isCall with
      | true => simp [whom, calls]
      | false =>
        have zero : message.reqid = 0 := by
          by_contra positive
          apply other
          refine ⟨?_, positive⟩
          cases kind : message.kind with
          | request | scatter => simp [Message.isCall, kind] at calls
          | response => exact Or.inl rfl
          | gather => exact Or.inr rfl
        simp [whom, zero, invalid]
    rw [same] at receives
    exact receives

end Mola.Requests
