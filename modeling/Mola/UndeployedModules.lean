import Mola.Sends

/-!
# Messages for a module that is not loaded

`Dispatcher::dispatch` turns a message for this node whose module is not loaded into an error
message: the node of the sender becomes that of the target, and the sender's node the local
one. The error message then takes the way of a message for another node.

That way is open if the sender's node is a known peer with a connection, or if it is not known
and the message can be put off. The error message of a sender on this node comes back to this
node, which asserts that the module is loaded; a node id that stands for this node or for any
is not looked up at all. An error message that is lost is not reported.

`SendMsgToIntf` asks the name service before it dispatches, and the name service dereferences
the module that is not there.
-/

namespace Mola.UndeployedModules

open Dispatch RequestDispatch Sends

/-- The call reports an error, has sent the error message to the node of the sender, or has
put the message off. -/
inductive Refused (thread : Thread) (before : World) (message : Message) :
    Dispatch.Outcome → Prop where
  | failed (code : Int) (handle : Option Message) (after : World) (reported : code ≠ 0) :
      Refused thread before message (.returned code handle after)
  | bounced (handle : Option Message) (after looked : World) (place : Nat) (node : Node)
      (id : UInt32) (earlier : List (List UInt8))
      (here : Gateway.isLocal before.localNode.id message.metadata.target)
      (named : findNode thread before message.metadata.sender.dnodeId =
        some (some (.peer place), looked))
      (found : after.peers[place]? = some node)
      (kept : accepted before place <+: earlier)
      (put : accepted after place =
        earlier ++ [Gateway.deliver after.host node.order id node.id (bounce message)]) :
      Refused thread before message (.returned 0 handle after)
  | deferred (handle : Option Message) (after : World) (sent : Message)
      (travels : Travels message sent) (put : after.delayed = before.delayed ++ [sent]) :
      Refused thread before message (.returned 0 handle after)

/-- The second half of `dispatch` reports an error, or puts the message off. -/
def forwardFails (thread : Thread) (world : World) (sent : Message) : Bool :=
  match findNode thread world sent.metadata.target.dnodeId with
  | none => false
  | some (none, looked) => !(isWorker thread && looked.singleNode)
  | some (some pointer, looked) => (deref looked pointer).any fun node => node.id = invalidId

/-- The second half of `dispatch` writes the message to the connection of a peer. -/
def forwardWrites (thread : Thread) (world : World) (sent : Message) : Bool :=
  match findNode thread world sent.metadata.target.dnodeId with
  | some (some (.peer place), looked) =>
      (looked.peers[place]?).any fun node =>
        node.id != invalidId && sentByModule thread sent && !loses looked node
  | _ => false

/-- The message is refused. For a message for this node the error message counts, for one for
another node the message itself. -/
def refuses (thread : Thread) (world : World) (message : Message) : Bool :=
  if Gateway.isLocal world.localNode.id message.metadata.target then
    !message.isError &&
      (forwardFails thread world (bounce message) || forwardWrites thread world (bounce message))
  else forwardFails thread world message

theorem looked_frame {before after : World} (looked : Looked before after) :
    after.delayed = before.delayed ∧ after.modules = before.modules := by
  obtain ⟨fresh, alive, cache, needSync, -, rfl⟩ := looked
  exact ⟨rfl, rfl⟩

variable (thread : Thread) {world : World} {message : Message}

/-- A failure is reported, or the message is the last delayed task. -/
theorem forward_fails {thread : Thread} {sent : Message}
    (fails : forwardFails thread world sent = true) :
    ∃ code handle after, forward thread world sent = .returned code handle after ∧
      (code ≠ 0 ∨ code = 0 ∧ after.delayed = world.delayed ++ [sent]) := by
  unfold forwardFails at fails
  cases search : findNode thread world sent.metadata.target.dnodeId with
  | none => simp [search] at fails
  | some answer =>
    obtain ⟨found, looked⟩ := answer
    obtain ⟨tasks, -⟩ := looked_frame (findNode_looked thread world looked _ _ search)
    simp only [search] at fails
    cases found with
    | none =>
      cases thread with
      | worker =>
        have pool : looked.singleNode = false := by simpa [isWorker] using fails
        refine ⟨0, some sent, (addDelayTask looked sent).2, ?_, Or.inr ⟨rfl, ?_⟩⟩
        · simp only [forward, search]
        · simp only [addDelayTask, pool, Bool.false_eq_true, if_false, tasks]
      | outside | helper =>
        exact ⟨-2, some sent, looked, by simp only [forward, search], Or.inl (by decide)⟩
    | some =>
      obtain ⟨node, present, gone⟩ := (Option.any_eq_true _ _).mp fails
      refine ⟨-1, some sent, looked, ?_, Or.inl (by decide)⟩
      simp only [forward, search, present, if_pos (of_decide_eq_true gone)]

theorem getClient_delayed (world : World) (node : Node) :
    (getClient world node).2.delayed = world.delayed := by
  unfold getClient
  split
  · rfl
  · split <;> rfl

/-- Delivery to a peer leaves the delayed tasks. -/
theorem deliverMessage_delayed {place : Nat} {node : Node} (message : Message)
    (present : world.peers[place]? = some node) :
    ∃ code handle after, deliverMessage world (.peer place) message = some (code, handle, after) ∧
      after.delayed = world.delayed := by
  have tasks := getClient_delayed world node
  unfold deliverMessage
  simp only [present]
  generalize getClient world node = opened at tasks
  obtain ⟨client, middle⟩ := opened
  cases client with
  | none => exact ⟨-1, some message, middle, rfl, tasks⟩
  | some client => exact ⟨0, none, writeMessage middle place node client message, rfl, tasks⟩

/-- A message that is written is new at the end of the transactions of the peer. -/
theorem forward_writes {thread : Thread} {sent : Message}
    (writes : forwardWrites thread world sent = true) :
    ∃ handle after looked place node id earlier,
      forward thread world sent = .returned 0 handle after ∧
      after.delayed = world.delayed ∧
      findNode thread world sent.metadata.target.dnodeId = some (some (.peer place), looked) ∧
      after.peers[place]? = some node ∧ accepted world place <+: earlier ∧
      accepted after place =
        earlier ++ [Gateway.deliver after.host node.order id node.id sent] := by
  unfold forwardWrites at writes
  split at writes
  · rename_i place looked search
    have frame := findNode_looked thread world looked _ _ search
    obtain ⟨node, present, keeps⟩ := (Option.any_eq_true _ _).mp writes
    simp only [Bool.and_eq_true, bne_iff_ne, Bool.not_eq_true'] at keeps
    obtain ⟨⟨valid, own⟩, stays⟩ := keeps
    obtain ⟨code, handle, after, delivery, tasks⟩ :=
      deliverMessage_delayed sent present
    obtain ⟨-, written, id, earlier, found, kept, put⟩ :=
      deliverMessage_written looked after place node sent code handle present stays delivery
    rw [looked_accepted world looked frame place] at kept
    refine ⟨handle, after, looked, place, written, id, earlier, ?_,
      tasks.trans (looked_frame frame).1, search, found, kept, put⟩
    simp only [forward, search, deref, present, if_neg valid, own, if_true, delivery]
  · cases writes

/-- What neither fails nor is written ends the process, or is lost without a report. -/
theorem forward_otherwise {thread : Thread} {sent : Message}
    (missing : world.modules sent.metadata.target.dmoduleId = none)
    (succeeds : forwardFails thread world sent = false)
    (unwritten : forwardWrites thread world sent = false) :
    forward thread world sent = .aborted ∨
      ∃ handle after, forward thread world sent = .returned 0 handle after ∧
        after.delayed = world.delayed ∧ ∀ place, accepted after place = accepted world place := by
  cases result : forward thread world sent with
  | aborted => exact Or.inl rfl
  | returned code handle after =>
    right
    rw [← result]
    suffices lost : forwardDrops thread world sent = true by
      obtain ⟨handle, after, result, -, tasks, connections⟩ :=
        forward_lost thread world sent lost
      exact ⟨handle, after, result, tasks, connections⟩
    cases forward_forwarded thread world after sent code handle result with
    | putOff _ search => simpa [forwardFails, forwardDrops, search] using succeeds
    | refused _ search helper => simp [forwardFails, search, helper] at succeeds
    | invalid _ _ _ search present gone =>
      simp [forwardFails, search, present, gone] at succeeds
    | given pointer node looked _ _ _ search present valid own delivery =>
      cases pointer with
      | own =>
        have frame := findNode_looked thread world looked _ _ search
        have nowhere : looked.modules sent.metadata.target.dmoduleId = none := by
          rw [(looked_frame frame).2, missing]
        simp [deliverMessage, nowhere] at delivery
      | peer place =>
        have inTable : looked.peers[place]? = some node := present
        simpa [forwardWrites, forwardDrops, search, inTable, valid, own] using unwritten

/-- A call that returns zero with the same delayed tasks and transactions refuses nothing. -/
theorem unmoved_not_refused {before after : World} (handle : Option Message)
    (delayed : after.delayed = before.delayed)
    (connections : Gateway.isLocal before.localNode.id message.metadata.target →
      ∀ place, accepted after place = accepted before place) :
    ¬Refused thread before message (.returned 0 handle after) := by
  intro refused
  cases refused with
  | failed _ _ _ reported => exact reported rfl
  | bounced _ _ _ place _ _ _ here _ _ kept put =>
    rw [connections here place] at put
    have longer := kept.length_le
    rw [put, List.length_append, List.length_singleton] at longer
    omega
  | deferred _ _ _ _ put =>
    rw [delayed] at put
    simpa using congrArg List.length put

/-- The second half refuses exactly what fails, and an error message that is written. -/
theorem forward_refused_iff {sent : Message} (travels : Travels message sent)
    (missing : world.modules sent.metadata.target.dmoduleId = none)
    (error : Gateway.isLocal world.localNode.id message.metadata.target → sent = bounce message) :
    Refused thread world message (forward thread world sent) ↔
      (forwardFails thread world sent ||
        (Gateway.isLocal world.localNode.id message.metadata.target &&
          forwardWrites thread world sent)) = true := by
  cases fails : forwardFails thread world sent with
  | true =>
    obtain ⟨code, handle, after, result, outcome⟩ := forward_fails fails
    refine iff_of_true ?_ rfl
    rw [result]
    rcases outcome with reported | ⟨rfl, put⟩
    · exact .failed code handle after reported
    · exact .deferred handle after sent travels put
  | false =>
    cases writes : forwardWrites thread world sent with
    | true =>
      obtain ⟨handle, after, looked, place, node, id, earlier, result, tasks, named, found, kept,
        put⟩ := forward_writes writes
      rw [result]
      cases here : Gateway.isLocal world.localNode.id message.metadata.target with
      | true =>
        obtain rfl := error here
        exact iff_of_true
          (.bounced handle after looked place node id earlier here named found kept put) rfl
      | false =>
        refine iff_of_false ?_ Bool.false_ne_true
        exact unmoved_not_refused thread handle tasks
          (fun local_ => absurd local_ (by rw [here]; exact Bool.false_ne_true))
    | false =>
      rw [Bool.and_false]
      refine iff_of_false ?_ Bool.false_ne_true
      rcases forward_otherwise missing fails writes with
        aborted | ⟨handle, after, result, tasks, connections⟩
      · rw [aborted]
        intro refused
        cases refused
      · rw [result]
        exact unmoved_not_refused thread handle tasks fun _ => connections

/-- Deleting a node leaves the delayed tasks and the connections. -/
theorem deleteNode_frame {after : World} {id : UInt32}
    (deleted : deleteNode world id = some after) :
    after.delayed = world.delayed ∧ after.peers = world.peers := by
  unfold deleteNode at deleted
  split at deleted
  · cases deleted
  · split at deleted <;> cases deleted <;> exact ⟨rfl, rfl⟩

/-- An error message for this node is consumed, not refused. -/
theorem error_not_refused (here : Gateway.isLocal world.localNode.id message.metadata.target)
    (error : message.isError) :
    ¬Refused thread world message (dispatch thread world message) := by
  simp only [dispatch, here, if_true, error]
  cases search : findNode thread world message.metadata.sender.dnodeId with
  | none =>
    intro refused
    cases refused
  | some answer =>
    obtain ⟨found, looked⟩ := answer
    have frame := findNode_looked thread world looked _ _ search
    cases found with
    | none =>
      intro refused
      cases refused
    | some =>
      dsimp only
      cases deletion : deleteNode looked message.metadata.sender.dnodeId with
      | none =>
        intro refused
        cases refused
      | some =>
        obtain ⟨tasks, peers⟩ := deleteNode_frame deletion
        refine unmoved_not_refused thread (some message)
          (tasks.trans (looked_frame frame).1) fun _ place => ?_
        rw [← looked_accepted world looked frame place, accepted, accepted, peers]

/-- `dispatch` refuses a message whose module is not loaded in exactly these cases. -/
theorem dispatch_refused_iff (missing : world.modules message.metadata.target.dmoduleId = none) :
    Refused thread world message (dispatch thread world message) ↔
      refuses thread world message = true := by
  unfold refuses
  by_cases here : Gateway.isLocal world.localNode.id message.metadata.target
  · rw [if_pos here]
    by_cases error : message.isError
    · rw [error]
      exact iff_of_false (error_not_refused thread here error) Bool.false_ne_true
    · have bounces : forwarded world message = some (bounce message) := by
        simp only [forwarded, here, if_true, error, Bool.false_eq_true, if_false, missing]
      obtain ⟨path, travels, -⟩ := dispatch_forwarded thread world message _ bounces
      rw [path, forward_refused_iff thread travels missing fun _ => rfl]
      simp only [here, error, Bool.true_and, Bool.not_false]
  · have passes : forwarded world message = some message := by
      simp only [forwarded, here, Bool.false_eq_true, if_false]
    obtain ⟨path, travels, -⟩ := dispatch_forwarded thread world message _ passes
    rw [path, if_neg here, forward_refused_iff thread travels missing
      fun local_ => absurd local_ here]
    simp only [here, Bool.false_and, Bool.or_false]

/-- With a module that is not loaded, `dispatch` refuses a message in exactly the cases of
`refuses`, and `SendMsgToIntf` always dereferences the missing module. -/
theorem undeployed_refused_iff (world : World) (mid : UInt32)
    (missing : world.modules mid.toUInt16 = none) :
    (∀ thread message, message.metadata.target.dmoduleId = mid.toUInt16 →
      (Refused thread world message (dispatch thread world message) ↔
        refuses thread world message = true)) ∧
      ∀ requester directories intf inst message retIntf ctx,
        (sendMsgToIntf requester world directories mid intf inst message retIntf ctx).1 =
          .nullPointer := by
  constructor
  · intro thread message addressed
    exact dispatch_refused_iff thread (addressed ▸ missing)
  · intro requester directories intf inst message retIntf ctx
    simp only [sendMsgToIntf, getActorAddr, missing]

/-- A message of an actor of node 2 for module 7 on node 1. -/
def inquiry : Message :=
  (errand.setSender ⟨2, 7, 0, 1⟩).setTarget ⟨1, 7, 3, 1⟩

/-- Node 1 without module 7, with an open connection to node 2. -/
def bare : World := outpost false (some ⟨2, 9, .little, some ⟨false, []⟩⟩)

/-- The error message is written to node 2. -/
theorem undeployed_refused_remote :
    bare.modules (7 : UInt32).toUInt16 = none ∧
      Refused .helper bare inquiry (dispatch .helper bare inquiry) :=
  ⟨rfl, ((undeployed_refused_iff bare 7 rfl).1 .helper inquiry rfl).mpr (by decide)⟩

/-- A message of an actor of node 1 ends the process, and so does `SendMsgToIntf`. -/
theorem local_sender_aborts :
    dispatch (.worker (some clerk.id)) bare (inquiry.setSender ⟨0, 7, 0, 1⟩) = .aborted ∧
      (sendMsgToIntf clerk bare unlocated 7 3 1 errand 4 5).1 = .nullPointer :=
  ⟨rfl, rfl⟩

end Mola.UndeployedModules
