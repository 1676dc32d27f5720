import Mathlib.Data.List.Basic
import Mola.Runs

/-!
# The identity of client connections

Each `ClientConn` of a process has a node manager of its own, and obtains an id from `join`
when it connects. A message to a node goes through `Node::deliver_message`, which writes the
result of `local_node_id` into the sender's id. That function remembers its first result in a
static variable, and so all connections of the process share it. The handshake on a new
connection to a node is written by `send_message`, with the id of the connection itself; that
of `Node::get_client` is with `local_node_id`, for a node that has no client yet.

A send looks whether its node has a client, opens one if not, and delivers the message; these
are steps of their own. A node is known by its number in its manager. A connection may connect
again and has the new id then. The history records each handshake and message with the id of
its connection at that time. Replies and the encoding of messages are modelled elsewhere.
-/

namespace Mola.ClientIdentity

/-- Where a send is. -/
inductive Phase where
  | opening
  | greeting
  | delivering
  | done
deriving DecidableEq

/-- A call of `send_message` for a node. -/
structure Send where
  conn : Nat
  node : Nat
  phase : Phase
deriving DecidableEq

/-- A handshake or a message that was written: the connection, the id that it had from `join`,
and the id of the sender that was written. -/
structure Written where
  conn : Nat
  own : UInt32
  handshake : Bool
  sender : UInt32
deriving DecidableEq

/-- The static variable, the id of each connection in `m_cid`, the nodes that have a client,
the sends, and what was written. -/
structure State where
  remembered : Option UInt32
  conns : List (Option UInt32)
  clients : List (Nat × Nat)
  sends : List Send
  wire : List Written

/-- A process without connections. -/
def start : State := ⟨none, [], [], [], []⟩

/-- A `ClientConn` is created; it connects and is given an id by `join`; a thread sends a
message over it to a node; a send goes on. -/
inductive Action where
  | create
  | connect (conn : Nat) (id : UInt32)
  | send (conn node : Nat)
  | proceed (index : Nat)

/-- `local_node_id` of a node in the manager of a connection with this id. -/
def localNodeId (state : State) (id : UInt32) : UInt32 := state.remembered.getD id

/-- A send is at another phase. -/
def move (state : State) (index : Nat) (send : Send) (phase : Phase) : State :=
  { state with sends := state.sends.set index { send with phase := phase } }

/-- `Node::deliver_message`: the handshake of `get_client`, if the node has no client, and the
message. Both call `local_node_id`. -/
def deliverMessage (state : State) (send : Send) (id : UInt32) : State :=
  let greeting : List Written :=
    if state.clients.contains (send.conn, send.node) then []
    else [⟨send.conn, id, true, localNodeId state id⟩]
  { state with
    remembered := some (localNodeId state id)
    clients := (send.conn, send.node) :: state.clients
    wire := state.wire ++ greeting ++ [⟨send.conn, id, false, localNodeId state id⟩] }

/-- A send goes on, over a connection with this id. -/
def proceed (state : State) (index : Nat) (send : Send) (id : UInt32) : Option State :=
  match send.phase with
  | .opening =>
      if state.clients.contains (send.conn, send.node) then some (move state index send .delivering)
      else some (move state index send .greeting)
  | .greeting =>
      some { move state index send .delivering with
        clients := (send.conn, send.node) :: state.clients
        wire := state.wire ++ [⟨send.conn, id, true, id⟩] }
  | .delivering => some (move (deliverMessage state send id) index send .done)
  | .done => none

/-- One step. Only a connection that has connected is used to send. -/
def step (state : State) : Action → Option State
  | .create => some { state with conns := state.conns ++ [none] }
  | .connect conn id =>
      if conn < state.conns.length then some { state with conns := state.conns.set conn (some id) }
      else none
  | .send conn node =>
      match state.conns[conn]? with
      | some (some _) => some { state with sends := state.sends ++ [⟨conn, node, .opening⟩] }
      | _ => none
  | .proceed index =>
      match state.sends[index]? with
      | none => none
      | some send =>
          match state.conns[send.conn]? with
          | some (some id) => proceed state index send id
          | _ => none

/-- A message is delivered only when `local_node_id` has not been called before, or remembers
the id of this connection. -/
def firstCaller (state : State) : Action → Bool
  | .proceed index =>
      match state.sends[index]? with
      | none => true
      | some send => send.phase ≠ .delivering || state.remembered = none ||
          state.conns[send.conn]? = some state.remembered
  | _ => true

/-- What was written carries the id of its connection. -/
def Signed (state : State) : Prop := ∀ written ∈ state.wire, written.sender = written.own

/-- What a step writes: nothing, or the handshake of a send, or what `deliver_message` does. -/
theorem step_wire {state : State} {action : Action} {next : State}
    (stepped : step state action = some next) :
    (next.wire = state.wire ∧ next.remembered = state.remembered) ∨
    (∃ conn id, next.wire = state.wire ++ [⟨conn, id, true, id⟩] ∧
      next.remembered = state.remembered) ∨
    ∃ index send id, action = .proceed index ∧ state.sends[index]? = some send ∧
      send.phase = .delivering ∧ state.conns[send.conn]? = some (some id) ∧
      next.wire = (deliverMessage state send id).wire ∧
      next.remembered = some (localNodeId state id) := by
  cases action with simp only [step] at stepped
  | create =>
    cases stepped
    exact Or.inl ⟨rfl, rfl⟩
  | connect | send =>
    split at stepped <;> cases stepped
    exact Or.inl ⟨rfl, rfl⟩
  | proceed index =>
    split at stepped
    · cases stepped
    · rename_i send found
      split at stepped
      · rename_i id connected
        unfold proceed at stepped
        split at stepped
        · split at stepped <;> cases stepped <;> exact Or.inl ⟨rfl, rfl⟩
        · cases stepped
          exact Or.inr (Or.inl ⟨send.conn, id, rfl, rfl⟩)
        · rename_i delivering
          cases stepped
          exact Or.inr (Or.inr ⟨index, send, id, rfl, found, delivering, connected, rfl, rfl⟩)
        · cases stepped
      · cases stepped

/-- Everything that `deliver_message` writes has the same id. -/
theorem deliverMessage_wire {state : State} {send : Send} {id : UInt32} {written : Written}
    (member : written ∈ (deliverMessage state send id).wire) :
    written ∈ state.wire ∨ (written.own = id ∧ written.sender = localNodeId state id) := by
  simp only [deliverMessage] at member
  rcases List.mem_append.mp member with early | last
  · rcases List.mem_append.mp early with old | greeting
    · exact Or.inl old
    · split at greeting
      · cases greeting
      · rw [List.mem_singleton.mp greeting]
        exact Or.inr ⟨rfl, rfl⟩
  · rw [List.mem_singleton.mp last]
    exact Or.inr ⟨rfl, rfl⟩

/-- A step that meets the condition writes the right id. -/
theorem step_signed (state : State) (action : Action) (next : State) (signed : Signed state)
    (allowed : firstCaller state action = true) (stepped : step state action = some next) :
    Signed next := by
  intro written member
  rcases step_wire stepped with ⟨wire, -⟩ | ⟨conn, id, wire, -⟩ |
    ⟨index, send, id, rfl, found, delivering, connected, wire, -⟩
  · rw [wire] at member
    exact signed written member
  · rw [wire] at member
    rcases List.mem_append.mp member with old | new
    · exact signed written old
    · rw [List.mem_singleton.mp new]
  · rw [wire] at member
    rcases deliverMessage_wire member with old | ⟨own, sender⟩
    · exact signed written old
    · simp only [firstCaller, found, delivering, connected, ne_eq, not_true_eq_false, decide_false,
        Bool.false_or, Bool.or_eq_true, decide_eq_true_eq, Option.some.injEq] at allowed
      rw [sender, own]
      unfold localNodeId
      rcases allowed with first | same
      · rw [first, Option.getD_none]
      · rw [← same, Option.getD_some]

/-- In every run in which messages are delivered only by connections whose id `local_node_id`
remembers or will remember, each message and each handshake carries the id that its connection
obtained from `join`. -/
theorem run_signs (schedule : List Action) (final : State)
    (allowed : Runs.Along step (fun state action => firstCaller state action = true) start
      schedule)
    (executed : Runs.run step start schedule = some final) :
    ∀ written ∈ final.wire, written.sender = written.own :=
  Runs.run_preserves step _ Signed step_signed start final schedule
    (fun _ member => by cases member) allowed executed

/-- Two connections of which only one sends messages, to two nodes. -/
def oneSender : List Action :=
  [.create, .create, .connect 0 0x10000, .connect 1 0x10001, .send 1 5, .proceed 0, .send 1 6,
    .proceed 1, .proceed 0, .proceed 0, .proceed 1, .proceed 1, .send 1 5, .proceed 2, .proceed 2]

theorem oneSender_completes : (Runs.run step start oneSender).isSome := by decide +kernel

/-- Two handshakes and three messages, all with the id of the sender. -/
theorem run_signs_one_sender :
    ∃ final, Runs.run step start oneSender = some final ∧
      final.wire.map (fun written => (written.handshake, written.sender)) =
        [(true, 0x10001), (false, 0x10001), (true, 0x10001), (false, 0x10001),
          (false, 0x10001)] ∧
      ∀ written ∈ final.wire, written.sender = written.own := by
  refine ⟨Option.get _ oneSender_completes, (Option.some_get _).symm, ?_, ?_⟩
  · decide +kernel
  · apply run_signs oneSender _ ?_ (Option.some_get _).symm
    decide +kernel

/-- Two connections send a message to the same node, one after the other. -/
def twoSenders : List Action :=
  [.create, .create, .connect 0 0x10000, .connect 1 0x10001, .send 0 5, .proceed 0, .proceed 0,
    .proceed 0, .send 1 5, .proceed 1, .proceed 1, .proceed 1]

theorem twoSenders_completes : (Runs.run step start twoSenders).isSome := by decide +kernel

/-- The message of the second connection is signed with the id of the first, behind a handshake
with its own. -/
theorem second_misnamed :
    ∃ final, Runs.run step start twoSenders = some final ∧
      final.wire = [⟨0, 0x10000, true, 0x10000⟩, ⟨0, 0x10000, false, 0x10000⟩,
        ⟨1, 0x10001, true, 0x10001⟩, ⟨1, 0x10001, false, 0x10000⟩] := by
  refine ⟨Option.get _ twoSenders_completes, (Option.some_get _).symm, ?_⟩
  decide +kernel

/-- The messages that were written carry the id that is remembered. -/
def Remembers (state : State) : Prop :=
  ∀ written ∈ state.wire, written.handshake = false → state.remembered = some written.sender

/-- The static variable is set once. -/
theorem step_remembers (state : State) (action : Action) (next : State)
    (kept : Remembers state) (stepped : step state action = some next) : Remembers next := by
  intro written member message
  rcases step_wire stepped with ⟨wire, same⟩ | ⟨conn, id, wire, same⟩ |
    ⟨index, send, id, -, -, -, -, wire, set⟩
  · rw [wire] at member
    rw [same]
    exact kept written member message
  · rw [wire] at member
    rw [same]
    rcases List.mem_append.mp member with old | new
    · exact kept written old message
    · rw [List.mem_singleton.mp new] at message
      cases message
  · rw [wire] at member
    rw [set]
    rcases deliverMessage_wire member with old | ⟨-, sender⟩
    · have before := kept written old message
      rw [localNodeId, before, Option.getD_some]
    · rw [sender]

/-- In every run, whatever connections there are, all messages of the process carry one id. -/
theorem run_signs_alike (schedule : List Action) (final : State)
    (executed : Runs.run step start schedule = some final) (first second : Written)
    (member : first ∈ final.wire) (member' : second ∈ final.wire)
    (message : first.handshake = false) (message' : second.handshake = false) :
    first.sender = second.sender := by
  have kept := Runs.run_invariant step Remembers step_remembers start final schedule
    (fun _ member => by cases member) executed
  have one := kept first member message
  rw [kept second member' message'] at one
  exact (Option.some.inj one).symm

theorem run_signs_alike_two_senders :
    ∃ first ∈ (Option.get _ twoSenders_completes).wire,
      ∃ second ∈ (Option.get _ twoSenders_completes).wire,
        first.own ≠ second.own ∧ first.sender = second.sender :=
  ⟨⟨0, 0x10000, false, 0x10000⟩, by decide +kernel, ⟨1, 0x10001, false, 0x10000⟩,
    by decide +kernel, by decide, run_signs_alike twoSenders _
      (Option.some_get twoSenders_completes).symm _ _ (by decide +kernel) (by decide +kernel) rfl rfl⟩

end Mola.ClientIdentity
