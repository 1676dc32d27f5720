import Mola.RequestIds
import Mola.RequestSteps

/-!
# The beginning of a turn as moves

An actor that waits takes a message. A request has no context. An answer to a call finds
the context of the call, by the law of the view: a plain context, a group, or a suspended
fiber. The callback then starts on a new fiber, on the suspended one, or without a
fiber, and the wrapper of a gather interface puts the answer into its group.
-/

namespace Mola.Requests

open Tickets Relation

universe u
variable {Body : Type u} (quiet : Prop) (solo : Solo Body)

/-- What the callback of a message that starts has in hand: its frame, and the contexts
that were there. -/
structure Entered (actor entered : Actor Body) (ctx : Option Nat) (frame : Frame Body) :
    Prop where
  status : entered.status = .running frame
  account : Exact entered
  ctx : frame.ctx = ctx
  stage : frame.stage = .interface
  find : ∀ id context, findReqCtx actor id = some context → findReqCtx entered id = some context

/-- A callback of a synchronous interface gets a new fiber when none waits. -/
theorem callIntf_fiber (actor : Actor Body) (message : Message Body) (ctx : Option Nat)
    (synchronous : actor.sync message.target.intf = true)
    (awake : ∀ context state, ctx.bind (findReqCtx actor) = some context →
      context.shape ≠ .fiber state) :
    callIntf actor message ctx =
      some (insertReqCtx
        (resume (newReqid actor).2
          { opening message ctx with fiber := some (newReqid actor).1 })
        (newReqid actor).1 ⟨initiatorOf actor (opening message ctx), .fiber .running, 0⟩) := by
  unfold callIntf
  rw [if_pos synchronous]
  cases found : ctx.bind (findReqCtx actor) with
  | none => rfl
  | some context =>
    obtain ⟨initiator, shape, call⟩ := context
    cases shape with
    | fiber state => exact absurd rfl (awake _ state found)
    | _ => rfl

/-- The message of a synchronous interface takes an id when no fiber waits for it. -/
theorem invoke_takes (actor : Actor Body) (message : Message Body) (ctx : Option Nat)
    (result : Actor Body × List (Effect Body))
    (synchronous : actor.sync message.target.intf = true)
    (awake : ∀ context state, ctx.bind (findReqCtx actor) = some context →
      context.shape ≠ .fiber state)
    (handled : message.kind ≠ .gather ∨ ∃ initiator size messages done number,
      ctx.bind (findReqCtx actor) = some ⟨initiator, .group size messages done, number⟩)
    (invoked : invokeMessage actor message ctx = some result) :
    result.1.issued.length ≠ actor.issued.length := by
  suffices drawn : result.1.issued = (newReqid actor).1 :: actor.issued by
    rw [drawn, List.length_cons]
    exact Nat.succ_ne_self _
  unfold invokeMessage at invoked
  split at invoked
  next =>
    rw [callIntf_fiber actor { message with kind := .gather } ctx synchronous awake] at invoked
    dsimp only at invoked
    split at invoked <;> cases invoked
    · exact (switchToGatherCtx_issued _ _ _).trans ((updateReqCtx_issued _ _ _).trans
        (insertReqCtx_issued _ _ _))
    · exact insertReqCtx_issued _ _ _
  next other =>
    obtain response | ⟨initiator, size, messages, done, number, found⟩ := handled
    · rw [if_neg response, callIntf_fiber actor message ctx synchronous awake] at invoked
      cases invoked
      exact insertReqCtx_issued _ _ _
    · exact absurd found (other initiator size messages done number)

/-- A callback of a synchronous interface goes on in the fiber that waits. -/
theorem callIntf_wakes {actor : Actor Body} {message : Message Body} {reqid number : Nat}
    {initiator : Option (Message Body)} {stage : Stage Body}
    (synchronous : actor.sync message.target.intf = true)
    (found : findReqCtx actor reqid = some ⟨initiator, .fiber (.suspend stage), number⟩) :
    callIntf actor message (some reqid) =
      some (resume (assignReqCtx actor reqid ⟨initiator, .fiber .running, number⟩)
        ⟨some message, some reqid, some reqid, stage⟩) := by
  unfold callIntf
  rw [if_pos synchronous, Option.bind_some, found]
  rfl

variable (message : Message Body)

/-- A callback starts in its frame or on a new fiber. -/
theorem callIntf_enters (ctx : Option Nat) (account : Exact solo.actor)
    (awake : ∀ context state, ctx.bind (findReqCtx solo.actor) = some context →
      context.shape ≠ .fiber state)
    (room : solo.actor.sync message.target.intf = true → Room solo.actor) :
    ∃ entered frame, callIntf solo.actor message ctx = some entered ∧
      Entered solo.actor entered ctx frame ∧
      ReflTransGen (Move quiet) (shown solo (some (opening message ctx)))
        (shown { solo with actor := entered } (some frame)) := by
  cases synchronous : solo.actor.sync message.target.intf with
  | false =>
    refine ⟨resume solo.actor (opening message ctx), opening message ctx, ?_,
      ⟨rfl, account, rfl, rfl, fun _ _ found => found⟩, .refl⟩
    simp [callIntf, synchronous, opening]
  | true =>
    have drawn := newReqid_drawn solo.actor account (room synchronous)
    let reqid := (newReqid solo.actor).1
    let frame : Frame Body := { opening message ctx with fiber := some reqid }
    let running := resume (newReqid solo.actor).2 frame
    let context : Context Body :=
      ⟨initiatorOf solo.actor (opening message ctx), .fiber .running, 0⟩
    have new : findReqCtx running reqid = none := drawn.new
    have inserted : callIntf solo.actor message ctx =
        some (assignReqCtx running reqid context) :=
      (callIntf_fiber solo.actor message ctx synchronous awake).trans
        (congrArg some (insert_new context new))
    refine ⟨_, frame, inserted, ⟨rfl, ?_, rfl, rfl, ?_⟩, .single ?_⟩
    · exact exact_insert running reqid context new drawn.account
    · intro id known found
      have different : id ≠ reqid := by
        rintro rfl
        exact Option.some_ne_none known (found.symm.trans new)
      exact (AList.lookup_insert_ne different).trans found
    · have shows := shown_assign { solo with actor := running } (some frame) reqid context
      refine Eq.mpr (congrArg (Move quiet _) shows) ?_
      exact .enter (opening message ctx) reqid message rfl rfl rfl rfl drawn.new drawn.usable
        synchronous

/-- A message without a context: a gather message halts the actor, and the callback of
any other one starts. -/
theorem invoke_goes (account : Exact solo.actor) (result : Actor Body × List (Effect Body))
    (invoked : invokeMessage solo.actor message none = some result)
    (room : result.1.issued.length ≠ solo.actor.issued.length → Room solo.actor) :
    Goes quiet (shown solo none)
      (advance { solo with root := if message.isCall then some message else none } result) := by
  let rooted := { solo with root := if message.isCall then some message else none }
  apply goes_after quiet _ (shown rooted (some (opening message none))) _
    (.single (.arrive message rfl))
  have received := invoked
  unfold invokeMessage at received
  dsimp only [Option.bind_none] at received
  split at received
  next =>
    cases received
    exact halts quiet rooted (opening message none) account .gatherAssertion nofun
  next response =>
    have awake : ∀ context state, (none : Option Nat).bind (findReqCtx solo.actor) = some context →
        context.shape ≠ .fiber state := by
      intro context state found
      cases found
    have roomy : solo.actor.sync message.target.intf = true → Room solo.actor :=
      fun synchronous =>
        room (invoke_takes solo.actor message none result synchronous awake (Or.inl response)
          invoked)
    obtain ⟨entered, frame, starts, facts, moves⟩ :=
      callIntf_enters quiet rooted message none account awake roomy
    rw [show callIntf solo.actor message none = some entered from starts] at received
    cases received
    rw [advance_nil]
    exact ⟨some frame, moves, fits_running entered frame facts.status facts.account⟩

/-- A request or scatter message, and a message without a request id, has no context. -/
theorem arrive_goes (account : Exact solo.actor)
    (foreign : message.isCall = true ∨ message.reqid = 0)
    (result : Actor Body × List (Effect Body))
    (received : execute solo.actor message = some result)
    (room : result.1.issued.length ≠ solo.actor.issued.length → Room solo.actor) :
    Goes quiet (shown solo none)
      (advance { solo with root := if message.isCall then some message else none } result) := by
  have absent : execute solo.actor message = invokeMessage solo.actor message none := by
    unfold execute
    rw [if_neg]
    rintro ⟨answer, positive⟩
    rcases foreign with calls | zero
    · rcases answer with kind | kind <;> simp [Message.isCall, kind] at calls
    · exact positive zero
  exact invoke_goes quiet solo message account result (absent.symm.trans received) room

theorem shown_installed (number : Nat) (found : Option Nat) (frame : Option (Frame Body)) :
    shown { solo with log := solo.log ++ [.installed number found] } frame =
      (shown solo frame).install number found := by
  refine View.ext rfl rfl rfl rfl rfl rfl rfl rfl rfl rfl ?_ ?_ ?_
  · exact List.filterMap_append
  · exact gathers_skip _ _ fun _ => rfl
  · exact recycles_skip _ _ fun _ => rfl

theorem shown_gathered (actor : Actor Body) (number : Nat) (messages : List Body)
    (frame : Option (Frame Body)) :
    shown (advance solo (actor, [.gathered number messages])) frame =
      (shown { solo with actor := actor } frame).fire number messages := by
  refine View.ext rfl rfl rfl rfl rfl rfl rfl rfl rfl rfl ?_ ?_ ?_
  · exact installs_skip _ _ rfl
  · exact gathers_one solo.log number messages
  · exact recycles_skip _ _ fun _ => rfl

/-- The ledger after an answer, and the root of its call. -/
def heard (number : Nat) (call : Call Body) (body : Body) : Solo Body :=
  { solo with
    ledger := Function.update solo.ledger number
      (some { call with answers := call.answers ++ [body] })
    root := call.root }

section
variable (number : Nat) (call : Call Body) (sender : Address) (body : Body)

theorem execute_miss (law : (shown solo none).Law) (entered : solo.ledger number = some call)
    (unrecorded : call.recorded = false) (positive : call.reqid ≠ 0) :
    execute solo.actor (answerTo solo number call sender body) =
      some (halt solo.actor .gatherAssertion, [.installed number none]) := by
  obtain ⟨scattered, given⟩ := law.lost number call entered unrecorded
  have absent : findReqCtx solo.actor call.reqid = none := law.absent call.reqid given
  simp [execute, answerTo, scattered, positive, absent, invokeMessage]

/-- An answer to a call that was not recorded halts the actor. -/
theorem miss_goes (law : (shown solo none).Law) (account : Exact solo.actor)
    (entered : solo.ledger number = some call) (waits : call.Open)
    (unrecorded : call.recorded = false) (positive : call.reqid ≠ 0)
    (result : Actor Body × List (Effect Body))
    (received : execute solo.actor (answerTo solo number call sender body) = some result) :
    Goes quiet (shown solo none) (advance (heard solo number call body) result) := by
  rw [execute_miss solo number call sender body law entered unrecorded positive] at received
  cases received
  refine ⟨none, .single ?_, fits_halted none nofun account⟩
  refine Eq.mpr (congrArg (Move quiet _)
    (shown_installed (heard solo number call body) number none none)) ?_
  exact .miss number call body entered waits unrecorded rfl

theorem answer_isCall : (answerTo solo number call sender body).isCall = false := by
  unfold Message.isCall answerTo
  cases call.scatter <;> rfl

/-- An answer is invoked with the context under its id, which is installed. -/
theorem execute_answer (positive : call.reqid ≠ 0) (context : Context Body)
    (found : findReqCtx solo.actor call.reqid = some context) :
    execute solo.actor (answerTo solo number call sender body) =
      (invokeMessage solo.actor (answerTo solo number call sender body) (some call.reqid)).map
        fun result => (result.1, .installed number (some context.call) :: result.2) := by
  unfold execute
  rw [if_pos]
  · rw [show findReqCtx solo.actor (answerTo solo number call sender body).reqid = some context
      from found]
    rfl
  · refine ⟨?_, positive⟩
    unfold answerTo
    cases call.scatter
    · exact Or.inl rfl
    · exact Or.inr rfl

/-- A response whose context is no group starts its callback. -/
theorem invoke_single (actor : Actor Body) (message : Message Body) (reqid : Nat)
    (context : Context Body) (found : findReqCtx actor reqid = some context)
    (other : ∀ size messages done, context.shape ≠ .group size messages done)
    (response : message.kind ≠ .gather) :
    invokeMessage actor message (some reqid) =
      (callIntf actor message (some reqid)).map fun entered => (entered, []) := by
  unfold invokeMessage
  rw [Option.bind_some, found]
  obtain ⟨initiator, shape, number⟩ := context
  cases shape with
  | group size messages done => exact absurd rfl (other size messages done)
  | _ =>
    dsimp only
    rw [if_neg response]

/-- The context of a response is no fiber when the one stored under its id is none. -/
theorem stored_awake (actor : Actor Body) (reqid : Nat) (known : Context Body)
    (found : findReqCtx actor reqid = some known)
    (single : ∀ state, known.shape ≠ .fiber state) (context : Context Body)
    (state : FiberState Body) (same : (some reqid).bind (findReqCtx actor) = some context) :
    context.shape ≠ .fiber state := by
  cases found.symm.trans same
  exact single state

/-- The callback of an answer to a plain call starts. -/
theorem hearPlain_goes (account : Exact solo.actor) (entered : solo.ledger number = some call)
    (waits : call.Open) (single : call.scatter = false) (positive : call.reqid ≠ 0)
    (initiator : Option (Message Body))
    (found : findReqCtx solo.actor call.reqid = some ⟨initiator, .plain, number⟩)
    (result : Actor Body × List (Effect Body))
    (received : execute solo.actor (answerTo solo number call sender body) = some result)
    (room : result.1.issued.length ≠ solo.actor.issued.length → Room solo.actor) :
    Goes quiet (shown solo none) (advance (heard solo number call body) result) := by
  have response : (answerTo solo number call sender body).kind ≠ .gather := by
    simp [answerTo, single]
  have awake := stored_awake solo.actor call.reqid _ found nofun
  rw [execute_answer solo number call sender body positive _ found] at received
  obtain ⟨before, handled, rfl⟩ := Option.map_eq_some_iff.mp received
  obtain ⟨started, frame, calls, facts, moves⟩ := callIntf_enters quiet
    { heard solo number call body with log := solo.log ++ [.installed number (some number)] }
    (answerTo solo number call sender body) (some call.reqid) account awake fun synchronous =>
      room (invoke_takes solo.actor _ _ before synchronous awake (Or.inl response) handled)
  have invoked : invokeMessage solo.actor (answerTo solo number call sender body)
      (some call.reqid) = some (started, []) :=
    (invoke_single solo.actor _ call.reqid _ found nofun response).trans (congrArg _ calls)
  cases invoked.symm.trans handled
  refine ⟨some frame, .trans (.single ?_) moves,
    fits_running started frame facts.status facts.account⟩
  rw [show solo.log = (heard solo number call body).log from rfl, shown_installed]
  exact .hearPlain number call body _ initiator rfl entered waits
    (answer_isCall solo number call sender body) found

/-- A response under the id of a suspended fiber is handled on that fiber. -/
theorem execute_resumes {actor : Actor Body} {message : Message Body}
    (response : message.kind = .response) (positive : message.reqid ≠ 0)
    {initiator : Option (Message Body)} {stage : Stage Body} {stamp : Nat}
    (found : findReqCtx actor message.reqid = some ⟨initiator, .fiber (.suspend stage), stamp⟩)
    (synchronous : actor.sync message.target.intf = true) :
    execute actor message =
      some (resume (assignReqCtx actor message.reqid ⟨initiator, .fiber .running, stamp⟩)
          ⟨some message, some message.reqid, some message.reqid, stage⟩,
        [.installed message.call (some stamp)]) := by
  have other : message.kind ≠ .gather := by rw [response]; exact nofun
  have calls := callIntf_wakes synchronous found
  have invoked := (invoke_single actor message message.reqid _ found nofun other).trans
    (congrArg _ calls)
  unfold execute
  rw [if_pos ⟨Or.inl response, positive⟩]
  dsimp only
  rw [found]
  dsimp only [Option.map_some]
  rw [invoked]
  rfl

/-- The answer to a call of a suspended fiber is handled on that fiber. -/
theorem execute_wakes (single : call.scatter = false) (positive : call.reqid ≠ 0)
    (initiator : Option (Message Body)) (stage : Stage Body)
    (found : findReqCtx solo.actor call.reqid =
      some ⟨initiator, .fiber (.suspend stage), number⟩)
    (synchronous : solo.actor.sync call.intf = true) :
    execute solo.actor (answerTo solo number call sender body) =
      some (resume
          (assignReqCtx solo.actor call.reqid ⟨initiator, .fiber .running, number⟩)
          ⟨some (answerTo solo number call sender body), some call.reqid, some call.reqid, stage⟩,
        [.installed number (some number)]) := by
  have response : (answerTo solo number call sender body).kind = .response := by
    simp [answerTo, single]
  exact execute_resumes response positive found synchronous

/-- A message that answers the call of a suspended fiber wakes it. -/
theorem wakes_goes (message : Message Body) (account : Exact solo.actor)
    (entered : solo.ledger number = some call) (waits : call.Open)
    (answer : message.isCall = false) (initiator : Option (Message Body)) (stage : Stage Body)
    (found : findReqCtx solo.actor call.reqid =
      some ⟨initiator, .fiber (.suspend stage), number⟩)
    (synchronous : solo.actor.sync message.target.intf = true) :
    Goes quiet (shown solo none) (advance (heard solo number call body)
      (resume (assignReqCtx solo.actor call.reqid ⟨initiator, .fiber .running, number⟩)
          ⟨some message, some call.reqid, some call.reqid, stage⟩,
        [.installed number (some number)])) := by
  let frame : Frame Body := ⟨some message, some call.reqid, some call.reqid, stage⟩
  let woken := resume
    (assignReqCtx solo.actor call.reqid ⟨initiator, .fiber .running, number⟩) frame
  refine ⟨some frame, .single ?_, fits_running woken frame rfl
    (exact_replace solo.actor call.reqid _ _ found account)⟩
  have shows := shown_assign
    { heard solo number call body with log := solo.log ++ [.installed number (some number)] }
    (some frame) call.reqid ⟨initiator, .fiber .running, number⟩
  rw [show solo.log = (heard solo number call body).log from rfl, shown_installed] at shows
  refine Eq.mpr (congrArg (Move quiet _) shows) ?_
  exact .wake number call body message initiator stage rfl entered waits answer found synchronous

/-- The answer to a call of a suspended fiber wakes it. -/
theorem wake_goes (account : Exact solo.actor) (entered : solo.ledger number = some call)
    (waits : call.Open) (single : call.scatter = false) (positive : call.reqid ≠ 0)
    (initiator : Option (Message Body)) (stage : Stage Body)
    (found : findReqCtx solo.actor call.reqid =
      some ⟨initiator, .fiber (.suspend stage), number⟩)
    (synchronous : solo.actor.sync call.intf = true)
    (result : Actor Body × List (Effect Body))
    (received : execute solo.actor (answerTo solo number call sender body) = some result) :
    Goes quiet (shown solo none) (advance (heard solo number call body) result) := by
  rw [execute_wakes solo number call sender body single positive initiator stage found
    synchronous] at received
  cases received
  exact wakes_goes quiet solo number call body (answerTo solo number call sender body) account
    entered waits (answer_isCall solo number call sender body) initiator stage found synchronous

/-- The gather callback of a group runs when the group is ready. -/
theorem switch_group (actor : Actor Body) (frame : Frame Body) (group size : Nat)
    (initiator : Option (Message Body)) (messages : List Body) (done : Bool)
    (found : findReqCtx actor group = some ⟨initiator, .group size messages done, number⟩) :
    switchToGatherCtx actor frame group =
      if messages.length = size then
        (resume actor { frame with stage := .gather group initiator },
          [.gathered number messages])
      else (actor, []) := by
  unfold switchToGatherCtx
  rw [found]

/-- The wrapper of a gather interface puts the answer into its group and runs the gather
callback when the group is complete. -/
theorem invoke_group (actor started : Actor Body) (message : Message Body) (frame : Frame Body)
    (reqid size : Nat) (initiator : Option (Message Body)) (messages : List Body) (done : Bool)
    (found : findReqCtx actor reqid = some ⟨initiator, .group size messages done, number⟩)
    (calls : callIntf actor { message with kind := .gather } (some reqid) = some started)
    (facts : Entered actor started (some reqid) frame) (collected : Actor Body)
    (stored : collected = assignReqCtx started reqid
      ⟨initiator, .group size (messages ++ [message.body]) done, number⟩) :
    invokeMessage actor message (some reqid) =
      some (if (messages ++ [message.body]).length = size then
        (resume collected { frame with stage := .gather reqid initiator },
          [.gathered number (messages ++ [message.body])])
      else (collected, [])) := by
  have inserted : insertToGatherCtx started reqid message.body = collected :=
    (update_found started reqid _ _ (facts.find reqid _ found)).trans stored.symm
  have there : findReqCtx collected reqid =
      some ⟨initiator, .group size (messages ++ [message.body]) done, number⟩ := by
    rw [stored]
    exact AList.lookup_insert _
  unfold invokeMessage
  rw [Option.bind_some, found]
  dsimp only
  rw [calls]
  dsimp only
  rw [facts.status]
  dsimp only
  rw [Option.getD_some, inserted, switch_group number collected frame reqid size initiator _ done
    there]

/-- The answer to a scatter is collected, and the last one starts the gather callback. -/
theorem hearGroup_goes (account : Exact solo.actor) (entered : solo.ledger number = some call)
    (waits : call.Open) (positive : call.reqid ≠ 0) (initiator : Option (Message Body))
    (size : Nat) (messages : List Body) (done : Bool)
    (found : findReqCtx solo.actor call.reqid =
      some ⟨initiator, .group size messages done, number⟩)
    (result : Actor Body × List (Effect Body))
    (received : execute solo.actor (answerTo solo number call sender body) = some result)
    (room : result.1.issued.length ≠ solo.actor.issued.length → Room solo.actor) :
    Goes quiet (shown solo none) (advance (heard solo number call body) result) := by
  let message : Message Body := { answerTo solo number call sender body with kind := .gather }
  have awake := stored_awake solo.actor call.reqid _ found nofun
  rw [execute_answer solo number call sender body positive _ found] at received
  obtain ⟨before, handled, rfl⟩ := Option.map_eq_some_iff.mp received
  -- the ledger hears the answer only when the wrapper has collected it
  obtain ⟨started, frame, calls, facts, moves⟩ := callIntf_enters quiet
    { solo with root := call.root, log := solo.log ++ [.installed number (some number)] }
    message (some call.reqid) account awake fun synchronous =>
      room (invoke_takes solo.actor (answerTo solo number call sender body) _ before synchronous
        awake (Or.inr ⟨_, _, _, _, _, found⟩) handled)
  let collected := assignReqCtx started call.reqid
    ⟨initiator, .group size (messages ++ [body]) done, number⟩
  let last : Frame Body := { frame with stage := .gather call.reqid initiator }
  have invoked : invokeMessage solo.actor (answerTo solo number call sender body)
      (some call.reqid) =
      some (if (messages ++ [body]).length = size then
        (resume collected last, [.gathered number (messages ++ [body])]) else (collected, [])) :=
    invoke_group number solo.actor started (answerTo solo number call sender body) frame
      call.reqid size initiator messages done found calls facts collected rfl
  rw [invoked] at handled
  have begun : Move quiet (shown solo none)
      (shown { solo with root := call.root, log := solo.log ++ [.installed number (some number)] }
        (some (opening message (some call.reqid)))) := by
    refine Eq.mpr (congrArg (Move quiet _) (shown_installed { solo with root := call.root } number
      (some number) (some (opening message (some call.reqid))))) ?_
    exact .hearGroup number call message _ size messages done rfl entered rfl found rfl rfl
  apply goes_after quiet _ _ _ (.head begun moves)
  have there := facts.find call.reqid _ found
  have account : Exact collected := exact_replace started call.reqid _ _ there facts.account
  have stored (after : Option (Frame Body)) := shown_assign { heard solo number call body with
    actor := started, log := solo.log ++ [.installed number (some number)] }
    after call.reqid ⟨initiator, .group size (messages ++ [body]) done, number⟩
  by_cases ready : (messages ++ [body]).length = size
  · rw [if_pos ready] at handled
    cases handled
    refine Eq.mpr (congrArg (Goes quiet _) (advance_append (heard solo number call body) collected
      (resume collected last) [.installed number (some number)]
      [.gathered number (messages ++ [body])])) ?_
    refine ⟨some last, .single ?_, fits_running _ last rfl account⟩
    refine Eq.mpr (congrArg (Move quiet _) ((shown_gathered _ _ number (messages ++ [body])
      (some last)).trans (congrArg (fun view : View Body => view.fire number (messages ++ [body]))
        (stored (some last))))) ?_
    exact .complete number call body frame initiator size messages done rfl facts.ctx facts.stage
      entered waits there ready
  · rw [if_neg ready] at handled
    cases handled
    refine ⟨some frame, .single ?_, fits_running collected frame facts.status account⟩
    refine Eq.mpr (congrArg (Move quiet _) (stored (some frame))) ?_
    exact .collect number call body frame initiator size messages done rfl facts.ctx entered waits
      there ready

end

end Mola.Requests
