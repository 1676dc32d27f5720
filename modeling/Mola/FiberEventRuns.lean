import Mola.FiberEvents

/-!
# What suspended fibers get

The message that resumes a fiber is the answer under its id. A reply resumes the fiber
that waits for its call, by the laws of the ledger, in which waits have their numbers as
calls have. An event that comes in time answers the wait of the fiber that created it, or
starts a callback without a context.

When an event is handled while its fiber waits for a reply, the call returns the
notification. The reply comes later, and a wait returns it.
-/

namespace Mola.Requests.FiberEvents

universe u
variable {Body : Type u}

/-- What is known of an actor, with open calls for its suspended fibers. -/
def Attended (solo : Solo Body) : Prop :=
  ∃ frame, Fits solo.actor frame ∧ Good False (shown solo frame) ∧ (shown solo frame).Awaiting

/-- Moves keep what is known, and they keep the kinds of the interfaces. -/
theorem goes_attended {solo next : Solo Body} {frame : Option (Frame Body)}
    (good : Good False (shown solo frame)) (awaiting : (shown solo frame).Awaiting)
    (goes : Goes False (shown solo frame) next) :
    Attended next ∧ next.actor.sync = solo.actor.sync := by
  obtain ⟨after, moves, fits⟩ := goes
  suffices known : Good False (shown next after) ∧ (shown next after).Awaiting ∧
      (shown next after).sync = (shown solo frame).sync from
    ⟨⟨after, fits, known.1, known.2.1⟩, known.2.2⟩
  generalize shown next after = final at moves
  induction moves with
  | refl => exact ⟨good, awaiting, rfl⟩
  | tail _ move hypothesis =>
    obtain ⟨before, open_, same⟩ := hypothesis
    refine ⟨moves_good False _ _ (.single move) before,
      View.move_awaiting move before.law open_, ?_⟩
    rw [← same]
    cases move <;> rfl

theorem Attended.held {solo : Solo Body} (attended : Attended solo) : Held False solo := by
  obtain ⟨frame, fits, good, -⟩ := attended
  exact ⟨frame, fits, good⟩

/-- The invariant: what is known of the actor, events only for synchronous interfaces, and
right results. -/
structure Kept (world : World Body) : Prop where
  attended : Attended world.solo
  synchronous : ∀ number event, world.events number = some event →
    world.solo.actor.sync event.intf = true
  right : ∀ result ∈ world.results, result.Right

variable {message : Message Body}

/-- A callback starts: the fiber that is resumed, if any, is that of the context. -/
theorem callIntf_resumed {actor entered : Actor Body} {ctx : Option Nat} {number : Nat}
    (calls : callIntf actor message ctx = some entered)
    (returns : resumed actor entered = some number) :
    ∃ reqid initiator stage, ctx = some reqid ∧
      findReqCtx actor reqid = some ⟨initiator, .fiber (.suspend stage), number⟩ := by
  unfold callIntf at calls
  dsimp only at calls
  split at calls
  next =>
    split at calls
    next initiator stage stamp found =>
      cases calls
      obtain ⟨reqid, rfl, there⟩ := Option.bind_eq_some_iff.mp found
      unfold resumed fiberOf at returns
      dsimp only [resume, Option.bind_some] at returns
      rw [there] at returns
      cases returns
      exact ⟨reqid, initiator, stage, rfl, there⟩
    next => cases calls
    next =>
      -- the fiber is new, or the process stops
      cases calls
      exfalso
      unfold insertReqCtx at returns
      split at returns
      next absent =>
        have new : findReqCtx actor (newReqid actor).1 = none := absent
        unfold resumed fiberOf at returns
        dsimp only [assignReqCtx, resume, Option.bind_some] at returns
        rw [new] at returns
        cases returns
      next => cases returns
  next =>
    cases calls
    cases returns

theorem fiberOf_status {before after : Actor Body} (same : after.status = before.status) :
    fiberOf after = fiberOf before := by
  unfold fiberOf
  rw [same]

/-- The wrapper of a gather interface goes on with the same fiber. -/
theorem gather_fiberOf {entered : Actor Body} {frame : Frame Body} (group : Nat) (body : Body)
    (runs : entered.status = .running frame) :
    fiberOf (switchToGatherCtx (insertToGatherCtx entered group body) frame group).1 =
      fiberOf entered := by
  have same : (insertToGatherCtx entered group body).status = entered.status := by
    unfold insertToGatherCtx updateReqCtx
    split <;> rfl
  unfold switchToGatherCtx
  split
  · split
    · unfold fiberOf
      rw [runs]
      rfl
    · exact fiberOf_status same
  · exact fiberOf_status same

/-- A message is invoked: the fiber that is resumed, if any, is that of the context. -/
theorem invokeMessage_resumed {actor : Actor Body} {ctx : Option Nat}
    {result : Actor Body × List (Effect Body)} {number : Nat}
    (invoked : invokeMessage actor message ctx = some result)
    (returns : resumed actor result.1 = some number) :
    ∃ reqid initiator stage, ctx = some reqid ∧
      findReqCtx actor reqid = some ⟨initiator, .fiber (.suspend stage), number⟩ := by
  unfold invokeMessage at invoked
  split at invoked
  next =>
    split at invoked
    next => cases invoked
    next entered calls =>
      split at invoked
      next frame runs =>
        cases invoked
        unfold resumed at returns
        rw [gather_fiberOf _ message.body runs] at returns
        exact callIntf_resumed calls returns
      next =>
        cases invoked
        exact callIntf_resumed calls returns
  next =>
    split at invoked
    next =>
      cases invoked
      cases returns
    next =>
      obtain ⟨entered, calls, rfl⟩ := Option.map_eq_some_iff.mp invoked
      exact callIntf_resumed calls returns

/-- A message is taken from the mailbox: the fiber that is resumed, if any, is that under
its id, and the message is an answer. -/
theorem execute_resumed {actor : Actor Body} {result : Actor Body × List (Effect Body)}
    {number : Nat} (executed : execute actor message = some result)
    (returns : resumed actor result.1 = some number) :
    message.isCall = false ∧ message.reqid ≠ 0 ∧
      ∃ initiator stage, findReqCtx actor message.reqid =
        some ⟨initiator, .fiber (.suspend stage), number⟩ := by
  unfold execute at executed
  split at executed
  next answer =>
    obtain ⟨invoked, received, rfl⟩ := Option.map_eq_some_iff.mp executed
    obtain ⟨reqid, initiator, stage, context, found⟩ :=
      invokeMessage_resumed received returns
    obtain ⟨-, -, rfl⟩ := Option.map_eq_some_iff.mp context
    refine ⟨?_, answer.2, initiator, stage, found⟩
    rcases answer.1 with kind | kind <;> simp [Message.isCall, kind]
  next =>
    obtain ⟨reqid, -, -, impossible, -⟩ :=
      invokeMessage_resumed executed returns
    cases impossible

/-- What `deliver` adds to the results is right when the result of a resumed fiber is. -/
theorem deliver_right (world : World Body) (solo : Solo Body) (origin : Origin Body)
    (message : Message Body) (right : ∀ result ∈ world.results, result.Right)
    (new : ∀ number, resumed world.solo.actor solo.actor = some number →
      Result.Right ⟨number, world.waits number, origin, message⟩) :
    ∀ result ∈ (deliver world solo origin message).results, result.Right := by
  intro result member
  obtain old | added := List.mem_append.mp member
  · exact right result old
  · obtain ⟨number, returns, rfl⟩ := Option.map_eq_some_iff.mp (Option.mem_toList.mp added)
    exact new number returns

/-- A response without a context is invoked as a message without a request id. -/
theorem execute_absent (actor : Actor Body) (message : Message Body)
    (result : Actor Body × List (Effect Body)) (response : message.kind = .response)
    (absent : findReqCtx actor message.reqid = none)
    (executed : execute actor message = some result) :
    invokeMessage actor message none = some (result.1, []) := by
  have calls : invokeMessage actor message none =
      (callIntf actor message none).map fun entered => (entered, []) := by
    unfold invokeMessage
    dsimp only [Option.bind_none]
    rw [if_neg (by rw [response]; exact nofun)]
  unfold execute at executed
  rw [absent] at executed
  dsimp only [Option.map_none] at executed
  rw [calls] at executed ⊢
  cases entered : callIntf actor message none with rw [entered] at executed
  | none =>
    split at executed <;> cases executed
  | some =>
    split at executed <;> obtain rfl := Option.some.inj executed <;> rfl

/-- An event for a synchronous interface is stored. -/
theorem events_store (events : Nat → Option (Event Body)) (sync : Nat → Bool) (number : Nat)
    (event : Event Body)
    (others : ∀ other known, events other = some known → sync known.intf = true)
    (own : sync event.intf = true) (other : Nat) (known : Event Body)
    (given : Function.update events number (some event) other = some known) :
    sync known.intf = true := by
  by_cases same : other = number
  · subst same
    rw [Function.update_self] at given
    cases given
    exact own
  · rw [Function.update_of_ne same] at given
    exact others other known given

/-- There is an id left for a step that takes one. -/
theorem roomy_room {world next : World Body} {deed : Deed Body}
    (room : roomy world deed = true) (stepped : worldStep world deed = some next)
    (takes : next.solo.actor.issued.length ≠ world.solo.actor.issued.length) :
    Room world.solo.actor := by
  unfold roomy at room
  rw [stepped] at room
  dsimp only at room
  rw [decide_eq_false takes, Bool.false_or] at room
  exact room_few (of_decide_eq_true room)

/-- A step of the actor with its ledger keeps what is known. -/
theorem soloStep_attended {world next : World Body} {deed : Deed Body} {action : Action Body}
    (attended : Attended world.solo) (room : roomy world deed = true)
    (stepped : worldStep world deed = some next)
    (taken : soloStep world.solo action = some next.solo) :
    Attended next.solo ∧ next.solo.actor.sync = world.solo.actor.sync := by
  have few : fewIds world.solo action = true := by
    unfold roomy at room
    rw [stepped] at room
    unfold fewIds
    rw [taken]
    exact room
  obtain ⟨frame, fits, good, awaiting⟩ := attended
  exact goes_attended good awaiting
    (soloStep_goes False world.solo frame action next.solo fits good.law few nofun taken)

section
variable (world next : World Body) (kept : Kept world)
include kept

theorem Kept.after (attended : Attended next.solo ∧ next.solo.actor.sync = world.solo.actor.sync)
    (events : next.events = world.events) (right : ∀ result ∈ next.results, result.Right) :
    Kept next := by
  refine ⟨attended.1, ?_, right⟩
  intro number event given
  rw [attended.2]
  exact kept.synchronous number event (events ▸ given)

/-- A request arrives and resumes no fiber. -/
theorem arrive_kept (message : Message Body) (room : roomy world (.arrive message) = true)
    (stepped : worldStep world (.arrive message) = some next) : Kept next := by
  have again := stepped
  obtain ⟨solo, taken, rfl⟩ := Option.map_eq_some_iff.mp again
  apply kept.after world _
  · exact soloStep_attended kept.attended room stepped taken
  · rfl
  · apply deliver_right world solo .other message kept.right
    intro number returns
    exfalso
    unfold soloStep at taken
    dsimp only at taken
    split at taken
    next foreign =>
      obtain ⟨result, received, rfl⟩ := Option.map_eq_some_iff.mp taken
      obtain ⟨-, executed⟩ := step_receive world.solo.actor message result received
      obtain ⟨answer, positive, -⟩ :=
        execute_resumed executed returns
      rcases foreign with calls | zero
      · exact Bool.false_ne_true (answer.symm.trans calls)
      · exact positive zero
    next => cases taken

/-- A reply arrives. It resumes the fiber that waits for it, if any. -/
theorem reply_kept (call : Nat) (sender : Address) (body : Body)
    (room : roomy world (.reply call sender body) = true)
    (stepped : worldStep world (.reply call sender body) = some next) : Kept next := by
  have again := stepped
  unfold worldStep at again
  dsimp only at again
  split at again
  next known sent entered =>
    obtain ⟨solo, taken, rfl⟩ := Option.map_eq_some_iff.mp again
    apply kept.after world _
    · exact soloStep_attended kept.attended room stepped taken
    · rfl
    · apply deliver_right world solo _ _ kept.right
      intro number returns
      have found : ∃ initiator stage, findReqCtx world.solo.actor known.reqid =
          some ⟨initiator, .fiber (.suspend stage), number⟩ := by
        have received := taken
        unfold soloStep at received
        dsimp only at received
        rw [entered] at received
        dsimp only at received
        split at received
        next =>
          obtain ⟨result, hears, rfl⟩ := Option.map_eq_some_iff.mp received
          obtain ⟨-, executed⟩ := step_receive world.solo.actor _ result hears
          exact (execute_resumed executed returns).2.2
        next => cases received
      obtain ⟨initiator, stage, found⟩ := found
      obtain ⟨rfl, -⟩ := answer_resumes world.solo solo call known sender body initiator stage
        number kept.attended.held entered found taken
      unfold Result.Right
      dsimp only
      rw [sent]
  next => cases again

theorem act_kept (act : Act Body) (room : roomy world (.act act) = true)
    (stepped : worldStep world (.act act) = some next) : Kept next := by
  have again := stepped
  obtain ⟨solo, taken, rfl⟩ := Option.map_eq_some_iff.mp again
  apply kept.after world _
  · exact soloStep_attended kept.attended room stepped taken
  · rfl
  · exact kept.right

/-- A fiber creates an event, for its own interface. -/
theorem createEvent_kept (stepped : worldStep world .createEvent = some next) : Kept next := by
  unfold worldStep at stepped
  dsimp only at stepped
  split at stepped
  next message ctx fiber stage runs =>
    cases stepped
    refine ⟨kept.attended, ?_, kept.right⟩
    obtain ⟨-, good⟩ := held_running kept.attended.held runs
    obtain ⟨-, handled, handles, synchronous⟩ := (good.law.framed _ rfl).fiber fiber rfl
    cases handles
    exact events_store world.events _ world.created _ kept.synchronous synchronous
  next => cases stepped

/-- A fiber waits for an event. -/
theorem waitForNotify_kept (stepped : worldStep world .waitForNotify = some next) :
    Kept next := by
  unfold worldStep at stepped
  dsimp only at stepped
  split at stepped
  next message ctx fiber stage runs =>
    cases stepped
    obtain ⟨frame, fits, good, awaiting⟩ := kept.attended
    rw [Fits, runs] at fits
    obtain ⟨rfl, account⟩ := fits
    obtain ⟨⟨context, found, -⟩, -⟩ := (good.law.framed _ rfl).fiber fiber rfl
    have silent : Sent ([] : List (Effect Body)) := by
      intro effect member
      cases member
    have waits : waitForNotify world.solo.actor ⟨some message, ctx, some fiber, stage⟩ fiber
        message.target.intf =
        ((endExecute (suspendedBy world.solo.actor ⟨some message, ctx, some fiber, stage⟩ fiber
            context) ⟨some message, ctx, some fiber, stage⟩).1,
          ([.called (world.solo.actor.calls + 1) fiber message.target.intf 1 false true] ++ []) ++
            (endExecute (suspendedBy world.solo.actor ⟨some message, ctx, some fiber, stage⟩
              fiber context) ⟨some message, ctx, some fiber, stage⟩).2) := by
      unfold waitForNotify suspendFiber
      dsimp only
      rw [update_found (nextCall world.solo.actor) fiber context _ found]
      rfl
    apply kept.after world _
    · dsimp only
      rw [waits]
      exact goes_attended good awaiting (suspend_goes False world.solo _ account
        good.law fiber message context [] silent rfl rfl found False.elim)
    · rfl
    · exact kept.right
  next => cases stepped

/-- An event is notified. -/
theorem notifyEvent_kept (number : Nat) (sender : Address) (data : Body)
    (stepped : worldStep world (.notifyEvent number sender data) = some next) : Kept next := by
  unfold worldStep at stepped
  dsimp only at stepped
  split at stepped
  next reqid intf life handled given =>
    cases stepped
    have own := kept.synchronous number _ given
    exact ⟨kept.attended, events_store world.events _ number _ kept.synchronous own, kept.right⟩
  next => cases stepped

/-- The message of an event finds no context under its id. -/
theorem stale_attended (event : Event Body) (sender : Address) (data : Body)
    (result : Actor Body × List (Effect Body))
    (rests : world.solo.actor.status = .idle)
    (executed : execute world.solo.actor (notification world.solo.actor event sender data) =
      some result)
    (room : result.1.issued.length ≠ world.solo.actor.issued.length → Room world.solo.actor)
    (absent : findReqCtx world.solo.actor event.reqid = none) :
    Attended { noted world event data with actor := result.1 } ∧
      result.1.sync = world.solo.actor.sync := by
  obtain ⟨frame, fits, good, awaiting⟩ := kept.attended
  rw [Fits, rests] at fits
  obtain ⟨rfl, account⟩ := fits
  have unnoted : noted world event data = { world.solo with root := none } := by
    unfold noted
    rw [absent]
  have invoked := execute_absent world.solo.actor
    (notification world.solo.actor event sender data) result rfl absent executed
  have goes := invoke_goes False world.solo _ account _ invoked room
  rw [advance_nil] at goes
  rw [unnoted]
  exact goes_attended good awaiting goes

/-- The message of an event resumes the fiber that waits for it. -/
theorem notified_attended (event : Event Body) (sender : Address) (data : Body)
    (result : Actor Body × List (Effect Body))
    (rests : world.solo.actor.status = .idle)
    (executed : execute world.solo.actor (notification world.solo.actor event sender data) =
      some result)
    (synchronous : world.solo.actor.sync event.intf = true)
    (initiator : Option (Message Body)) (stage : Stage Body) (wait life : Nat)
    (found : findReqCtx world.solo.actor event.reqid =
      some ⟨initiator, .fiber (.suspend stage), wait⟩)
    (waits : world.waits wait = some life) :
    Attended { noted world event data with actor := result.1 } ∧
      result.1.sync = world.solo.actor.sync := by
  obtain ⟨frame, fits, good, awaiting⟩ := kept.attended
  rw [Fits, rests] at fits
  obtain ⟨rfl, account⟩ := fits
  obtain ⟨call, entered, unanswered⟩ := awaiting event.reqid _ found stage rfl
  obtain ⟨known, again, waiting, -⟩ := good.law.stored event.reqid _ found
  cases entered.symm.trans again
  have same : call.reqid = event.reqid := waiting.reqid
  have positive := exact_positive account
    (find_outstanding found)
  have answered : noted world event data = { heard world.solo wait call data with
      log := world.solo.log ++ [.installed wait (some wait)] } := by
    have opened : world.solo.ledger wait = some call := entered
    unfold noted
    rw [found]
    dsimp only
    rw [waits, opened]
  rw [execute_resumes rfl
    positive found synchronous] at executed
  cases executed
  have goes := wakes_goes False world.solo wait call data
    (notification world.solo.actor event sender data) account entered unanswered rfl initiator
    stage (same ▸ found) synchronous
  rw [same] at goes
  rw [answered]
  exact goes_attended good awaiting goes

/-- The message of an event that comes in time is taken from the mailbox. -/
theorem handle_kept (number : Nat) (room : roomy world (.handle number) = true)
    (right : timely world (.handle number) = true)
    (stepped : worldStep world (.handle number) = some next) : Kept next := by
  have again := stepped
  unfold worldStep at again
  dsimp only at again
  split at again
  next reqid intf life sender data given =>
    obtain ⟨result, received, rfl⟩ := Option.map_eq_some_iff.mp again
    obtain ⟨rests, executed⟩ := step_receive world.solo.actor _ result received
    have synchronous := kept.synchronous number _ given
    have left := roomy_room room stepped
    let event : Event Body := ⟨reqid, intf, life, some (sender, data), true⟩
    suffices known : (Attended { noted world event data with actor := result.1 } ∧
        result.1.sync = world.solo.actor.sync) ∧
        ∀ wait, resumed world.solo.actor result.1 = some wait → world.waits wait = some life by
      obtain ⟨⟨attended, same⟩, waits⟩ := known
      refine ⟨attended, ?_, ?_⟩
      · intro other known stored
        refine (congrFun same known.intf).trans ?_
        exact events_store world.events _ number event kept.synchronous synchronous other known
          stored
      · apply deliver_right world _ _ _ kept.right
        intro wait returns
        unfold Result.Right
        dsimp only
        rw [waits wait returns]
        rfl
    have found (wait : Nat) (returns : resumed world.solo.actor result.1 = some wait) :=
      (execute_resumed executed returns).2.2
    unfold timely at right
    dsimp only at right
    rw [given] at right
    dsimp only at right
    split at right
    next absent =>
      refine ⟨stale_attended world kept event sender data result rests executed left absent, ?_⟩
      intro wait returns
      obtain ⟨initiator, stage, there⟩ := found wait returns
      exact absurd (there.symm.trans absent) nofun
    next initiator stage wait suspended =>
      have waits : world.waits wait = some life := eq_of_beq right
      refine ⟨notified_attended world kept event sender data result rests executed synchronous
        initiator stage wait life suspended waits, ?_⟩
      intro other returns
      obtain ⟨again, _, there⟩ := found other returns
      obtain ⟨-, -, rfl⟩ := Context.mk.inj (Option.some.inj (suspended.symm.trans there))
      exact waits
    next => cases right
  next => cases again

end

/-- Every step that finds a free id, and that handles no event at the wrong moment, keeps
the invariant. -/
theorem worldStep_kept (world : World Body) (deed : Deed Body) (next : World Body)
    (kept : Kept world) (allowed : roomy world deed = true ∧ timely world deed = true)
    (stepped : worldStep world deed = some next) : Kept next := by
  cases deed with
  | arrive message => exact arrive_kept world next kept message allowed.1 stepped
  | reply call sender body => exact reply_kept world next kept call sender body allowed.1 stepped
  | act act => exact act_kept world next kept act allowed.1 stepped
  | createEvent => exact createEvent_kept world next kept stepped
  | waitForNotify => exact waitForNotify_kept world next kept stepped
  | notifyEvent number sender data =>
    exact notifyEvent_kept world next kept number sender data stepped
  | handle number => exact handle_kept world next kept number allowed.1 allowed.2 stepped

/-- In every run in which fewer than `2 ^ 32` ids are outstanding or abandoned and no event
is handled at the wrong moment, each call returned its own reply, and each wait the data of
an event of its fiber. -/
theorem run_results_right (self : Address) (sync : Nat → Bool) (schedule : List (Deed Body))
    (final : World Body)
    (allowed : Runs.Along worldStep
      (fun world deed => roomy world deed = true ∧ timely world deed = true) (start self sync)
      schedule)
    (executed : Runs.run worldStep (start self sync) schedule = some final) :
    ∀ result ∈ final.results, result.Right := by
  have initial : Kept (start self sync : World Body) := by
    refine ⟨⟨some ⟨none, none, none, .interface⟩, ⟨rfl, Nat.two_pow_pos 32, rfl⟩,
      blank_good False _ (begin_blank self sync), ?_⟩, nofun, nofun⟩
    intro id context found
    cases found
  exact (Runs.run_preserves worldStep _ Kept worldStep_kept _ final schedule initial allowed
    executed).right

/-- A fiber creates an event and waits for it, and then makes a call. -/
def notifiedThenCalled : List (Deed Nat) :=
  [.act (.finish none), .arrive ⟨.request, 5, ⟨7, 1⟩, ⟨0, 1⟩, 0, 30⟩, .createEvent,
    .waitForNotify, .notifyEvent 0 ⟨8, 0⟩ 50, .handle 0, .act (.call ⟨3, 0⟩ 31 .kept),
    .reply 2 ⟨3, 0⟩ 32]

theorem notifiedThenCalled_completes :
    (Runs.run worldStep (start ⟨0, 0⟩ fun intf => intf == 1) notifiedThenCalled).isSome := by
  decide +kernel

/-- The wait returned the data of the event and the call its reply. -/
theorem run_results_right_notified :
    ∃ final, Runs.run worldStep (start ⟨0, 0⟩ fun intf => intf == 1) notifiedThenCalled =
        some final ∧
      final.results.map (fun result => (result.number, result.waiter, result.origin)) =
        [(1, some 0, .event 0 50), (2, none, .reply 2)] ∧
      ∀ result ∈ final.results, result.Right := by
  refine ⟨Option.get _ notifiedThenCalled_completes, (Option.some_get _).symm, ?_, ?_⟩
  · decide +kernel
  · apply run_results_right ⟨0, 0⟩ (fun intf => intf == 1) notifiedThenCalled
    · decide +kernel
    · exact (Option.some_get _).symm

/-- A fiber creates an event and makes a call. The event is handled first, and the fiber
then waits for its event. -/
def notifiedDuringCall : List (Deed Nat) :=
  [.act (.finish none), .arrive ⟨.request, 5, ⟨7, 1⟩, ⟨0, 1⟩, 0, 30⟩, .createEvent,
    .act (.call ⟨3, 0⟩ 31 .kept), .notifyEvent 0 ⟨8, 0⟩ 50, .handle 0, .waitForNotify,
    .reply 1 ⟨3, 0⟩ 32]

theorem notifiedDuringCall_completes :
    (Runs.run worldStep (start ⟨0, 0⟩ fun intf => intf == 1) notifiedDuringCall).isSome := by
  decide +kernel

/-- The call returned the notification, and the wait returned the reply to the call. -/
theorem notified_during_call :
    ∃ final, Runs.run worldStep (start ⟨0, 0⟩ fun intf => intf == 1) notifiedDuringCall =
        some final ∧
      final.results.map (fun result => (result.number, result.waiter, result.origin)) =
        [(1, none, .event 0 50), (2, some 0, .reply 1)] ∧
      ¬ ∀ result ∈ final.results, result.Right := by
  refine ⟨Option.get _ notifiedDuringCall_completes, (Option.some_get _).symm, ?_, ?_⟩
  · decide +kernel
  · decide +kernel

end Mola.Requests.FiberEvents
