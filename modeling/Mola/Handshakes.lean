import Mola.Runs
import Mola.Places
import Mola.Gateway

/-!
# Handshakes of several connections

The receiver of an accepted connection first waits for four bytes, the id of its peer. The
buffer that `get_buffer` returns for them is a static variable of that function, and so the
same one for all receivers of the process. Each READ event copies what has arrived to the
place in the buffer that the connection has reached; when it has all four bytes, `consume`
takes the id from the buffer.

The reads of a connection and the taking of the id are steps of their own, since the events of
different connections may be handled by different threads. A read takes between one byte and
what is left of the handshake. What comes after the handshake goes to buffers of its own and
is modelled with the stream; the registration of the connection with its node is not modelled.
-/

namespace Mola.Handshakes

open ByteOrder (Order)
open Gateway (handshake handshake_length htonl htonl_handshake)

/-- How far the handshake of a connection is. -/
inductive Stage where
  | waiting
  | closed
  | ended
deriving DecidableEq

/-- A passive connection: the byte order and the id of its peer, the bytes that it has read,
and the `m_nid` of its receiver. -/
structure Connection where
  host : Order
  peer : UInt32
  collected : Nat
  stage : Stage
  nid : UInt32
deriving DecidableEq

/-- The static buffer, and the connections in the order in which they were accepted. -/
structure State where
  buffer : List UInt8
  connections : List Connection

/-- `Node::invalid_id`. -/
def invalidId : UInt32 := 0xffffffff

/-- The buffer is initialised with the invalid id. -/
def start : State := ⟨[0xff, 0xff, 0xff, 0xff], []⟩

/-- A peer connects, with its byte order and id; a connection reads some bytes, or takes the
id, or is closed. -/
inductive Action where
  | accept (host : Order) (peer : UInt32)
  | read (index count : Nat)
  | consume (index : Nat)
  | close (index : Nat)

/-- `read` into a buffer at an offset. -/
def write (buffer bytes : List UInt8) (offset : Nat) : List UInt8 :=
  buffer.take offset ++ bytes ++ buffer.drop (offset + bytes.length)

/-- A connection is replaced by a later stage of it. -/
def update (state : State) (index : Nat) (connection : Connection) : State :=
  { state with connections := state.connections.set index connection }

/-- One step of a process with the given byte order. -/
def step (order : Order) (state : State) : Action → Option State
  | .accept host peer =>
      some { state with
        connections := state.connections ++ [⟨host, peer, 0, .waiting, invalidId⟩] }
  | .read index count =>
      match state.connections[index]? with
      | none => none
      | some connection =>
          if connection.stage = .waiting ∧ 0 < count ∧ connection.collected + count ≤ 4 then
            let bytes :=
              ((handshake connection.host connection.peer).drop connection.collected).take count
            some { update state index { connection with
                collected := connection.collected + count } with
              buffer := write state.buffer bytes connection.collected }
          else none
  | .consume index =>
      match state.connections[index]? with
      | none => none
      | some connection =>
          if connection.stage = .waiting ∧ connection.collected = 4 then
            some (update state index { connection with
              stage := .ended
              nid := htonl order (Metadata.load32 order state.buffer).1 })
          else none
  | .close index =>
      match state.connections[index]? with
      | none => none
      | some connection =>
          if connection.stage = .waiting ∧ connection.collected < 4 then
            some (update state index { connection with stage := .closed })
          else none

/-- The connection has read a part of its handshake, or all of it, and not taken the id. -/
def Connection.midway (connection : Connection) : Bool :=
  connection.stage = .waiting && 0 < connection.collected

/-- A connection reads only when no other one is midway. -/
def exclusive (state : State) : Action → Bool
  | .read index _ => (state.connections.eraseIdx index).all fun other => !other.midway
  | _ => true

/-- What is true of a connection: the buffer has what it has read, and the id that it took
is that of its peer. -/
structure Sound (buffer : List UInt8) (connection : Connection) : Prop where
  bounded : connection.collected ≤ 4
  copied : connection.stage = .waiting → buffer.take connection.collected =
    (handshake connection.host connection.peer).take connection.collected
  taken : connection.stage = .ended → connection.nid = connection.peer

/-- What is true in every state. -/
structure Invariant (state : State) : Prop where
  size : state.buffer.length = 4
  sound : ∀ connection ∈ state.connections, Sound state.buffer connection

theorem read_length {connection : Connection} {count : Nat}
    (room : connection.collected + count ≤ 4) :
    (((handshake connection.host connection.peer).drop connection.collected).take count).length =
      count := by
  rw [List.length_take, List.length_drop, handshake_length]
  omega

/-- What is in the buffer after a read, up to the end of the bytes that were read. -/
theorem write_take (buffer bytes : List UInt8) (offset : Nat) (inside : offset ≤ buffer.length) :
    (write buffer bytes offset).take (offset + bytes.length) = buffer.take offset ++ bytes := by
  unfold write
  rw [List.take_left']
  rw [List.length_append, List.length_take, Nat.min_eq_left inside]

theorem write_length (buffer bytes : List UInt8) (offset : Nat)
    (inside : offset + bytes.length ≤ buffer.length) :
    (write buffer bytes offset).length = buffer.length := by
  unfold write
  rw [List.length_append, List.length_append, List.length_take, List.length_drop]
  omega

/-- A connection that is not midway is sound whatever the buffer has. -/
theorem Sound.frame {buffer : List UInt8} {connection : Connection}
    (sound : Sound buffer connection) (idle : connection.midway = false) (other : List UInt8) :
    Sound other connection := by
  refine ⟨sound.bounded, fun waiting => ?_, sound.taken⟩
  have none : connection.collected = 0 := by
    simp only [Connection.midway, waiting, decide_true, Bool.true_and, decide_eq_false_iff_not,
      Nat.not_lt, Nat.le_zero] at idle
    exact idle
  rw [none, List.take_zero, List.take_zero]

theorem Invariant.update {state : State} (kept : Invariant state) (index : Nat)
    (connection : Connection) (sound : Sound state.buffer connection) :
    Invariant (update state index connection) := by
  refine ⟨kept.size, fun other member => ?_⟩
  rcases List.mem_or_eq_of_mem_set member with old | rfl
  · exact kept.sound other old
  · exact sound

/-- A connection reads while no other one is midway. -/
theorem Invariant.read {state : State} (kept : Invariant state) (index count : Nat)
    (connection : Connection) (found : state.connections[index]? = some connection)
    (waiting : connection.stage = .waiting) (room : connection.collected + count ≤ 4)
    (alone : ∀ other ∈ state.connections.eraseIdx index, other.midway = false) :
    Invariant { Handshakes.update state index { connection with
        collected := connection.collected + count } with
      buffer := write state.buffer
        (((handshake connection.host connection.peer).drop connection.collected).take count)
        connection.collected } := by
  have sound := kept.sound connection (List.mem_of_getElem? found)
  have size := kept.size
  have length := read_length room
  constructor
  · dsimp only
    rw [write_length]
    · exact size
    · rw [length, size]
      exact room
  · intro other member
    obtain ⟨place, present⟩ := List.getElem?_of_mem member
    simp only [Handshakes.update, Places.set_place _ found]
      at present
    rcases present with ⟨-, rfl⟩ | ⟨different, present⟩
    · refine ⟨room, fun _ => ?_, fun ended => ?_⟩
      · -- What was there before, and the bytes that were read now.
        have front := write_take state.buffer
          (((handshake connection.host connection.peer).drop connection.collected).take count)
          connection.collected (by rw [size]; exact sound.bounded)
        rw [length, sound.copied waiting] at front
        dsimp only
        rw [front, List.take_add]
      · rw [waiting] at ended
        cases ended
    · have elsewhere : other ∈ state.connections.eraseIdx index :=
        List.mem_eraseIdx_iff_getElem?.mpr ⟨place, different, present⟩
      exact (kept.sound other (List.mem_of_getElem? present)).frame (alone other elsewhere) _

/-- Every step in which a connection reads alone keeps the invariant. -/
theorem step_invariant (order : Order) (state : State) (action : Action) (next : State)
    (kept : Invariant state) (allowed : exclusive state action = true)
    (stepped : step order state action = some next) : Invariant next := by
  cases action with simp only [step] at stepped
  | accept =>
    cases stepped
    refine ⟨kept.size, fun connection member => ?_⟩
    rcases List.mem_append.mp member with old | new
    · exact kept.sound connection old
    · obtain rfl := List.mem_singleton.mp new
      exact ⟨Nat.zero_le _, fun _ => rfl, fun ended => by cases ended⟩
  | read index count =>
    split at stepped
    · cases stepped
    · rename_i connection found
      split at stepped <;> cases stepped
      rename_i enabled
      simp only [exclusive, List.all_eq_true, Bool.not_eq_true'] at allowed
      exact kept.read index count connection found enabled.1 enabled.2.2 allowed
  | consume =>
    split at stepped
    · cases stepped
    · rename_i connection found
      split at stepped <;> cases stepped
      rename_i enabled
      have sound := kept.sound connection (List.mem_of_getElem? found)
      have whole := sound.copied enabled.1
      rw [enabled.2, List.take_of_length_le (Nat.le_of_eq kept.size),
        List.take_of_length_le (Nat.le_of_eq (handshake_length _ _))] at whole
      apply kept.update
      refine ⟨sound.bounded, fun waiting => ?_, fun _ => ?_⟩
      · cases waiting
      · dsimp only
        rw [whole, htonl_handshake]
  | close =>
    split at stepped
    · cases stepped
    · rename_i connection found
      split at stepped <;> cases stepped
      have sound := kept.sound connection (List.mem_of_getElem? found)
      apply kept.update
      exact ⟨sound.bounded, (fun waiting => by cases waiting), (fun ended => by cases ended)⟩

/-- In every run in which a connection reads only while no other one has a part of its
handshake in the buffer, each handshake that has ended gave the id that the peer sent. -/
theorem run_learns_peer (order : Order) (schedule : List Action) (final : State)
    (allowed : Runs.Along (step order) (fun state action => exclusive state action = true) start
      schedule)
    (executed : Runs.run (step order) start schedule = some final) :
    ∀ connection ∈ final.connections, connection.stage = .ended →
      connection.nid = connection.peer := by
  have initial : Invariant start := by
    refine ⟨rfl, fun connection member => ?_⟩
    cases member
  have kept := Runs.run_preserves (step order) _ Invariant (step_invariant order) start final
    schedule initial allowed executed
  intro connection member
  exact (kept.sound connection member).taken

/-- Two peers are accepted; the second one closes in the middle, and a third one and the first
end their handshakes. -/
def inTurn : List Action :=
  [.accept .little 1, .accept .big 0x10000, .read 1 2, .close 1, .accept .little 0x10001,
    .read 0 3, .read 0 1, .consume 0, .read 2 1, .read 2 3, .consume 2]

theorem inTurn_completes : (Runs.run (step .little) start inTurn).isSome := by decide +kernel

/-- Both receivers know their peers. -/
theorem run_learns_peer_in_turn :
    ∃ final, Runs.run (step .little) start inTurn = some final ∧
      final.connections.map (fun connection => (connection.stage, connection.nid)) =
        [(.ended, 1), (.closed, invalidId), (.ended, 0x10001)] ∧
      ∀ connection ∈ final.connections, connection.stage = .ended →
        connection.nid = connection.peer := by
  refine ⟨Option.get _ inTurn_completes, (Option.some_get _).symm, ?_, ?_⟩
  · decide +kernel
  · apply run_learns_peer .little inTurn _ ?_ (Option.some_get _).symm
    decide +kernel

/-- A node and a client connect; each has sent two bytes when the node sends the rest. -/
def overlapping : List Action :=
  [.accept .little 1, .accept .little 0x10000, .read 0 2, .read 1 2, .read 0 2, .consume 0]

theorem overlapping_completes : (Runs.run (step .little) start overlapping).isSome := by
  decide +kernel

/-- The receiver of node 1 ends its handshake with an id that nobody has sent. -/
theorem handshakes_mixed :
    ∃ final, Runs.run (step .little) start overlapping = some final ∧
      final.connections =
        [⟨.little, 1, 4, .ended, 0x10001⟩, ⟨.little, 0x10000, 2, .waiting, invalidId⟩] := by
  refine ⟨Option.get _ overlapping_completes, (Option.some_get _).symm, ?_⟩
  decide +kernel

end Mola.Handshakes
