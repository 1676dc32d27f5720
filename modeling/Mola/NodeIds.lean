import Mola.Decimals
import Mola.Dispatch

/-!
# The ids of nodes and clients

ZooKeeper numbers the znodes that are created in a directory, and `join` makes the id of a node
or of a client from the number of its znode. Nodes get the number plus one, clients the number
plus 0x10000. `_find_node` tells the two by the threshold 0x10000 and takes the offset back to
find the znode.

The numbers of a directory never start again. A client's id is found back whatever its number is.
The ids of nodes reach ANY with the number 65534, and those of clients with the next one.

The additions wrap at 32 bits. Connections and the data of the znodes are not modelled.
-/

namespace Mola.NodeIds

open Decimals

/-- What `join` is compiled for. -/
inductive Kind where
  | node
  | client
deriving DecidableEq

/-- `Node::invalid_id`. -/
def invalidId : UInt32 := 0xffffffff

/-- The path of the top directory. `join` has it in a format of `sscanf`, where a percent sign or
white space would not stand for itself, and the paths below it are built in buffers of 1024
bytes. -/
structure Namespace where
  path : List UInt8
  literal : ∀ byte ∈ path, byte ≠ 37 ∧ isSpace byte = false
  fits : path.length + 20 ≤ 1024

/-- `NODE_ZNODE` or `CLIENT_ZNODE`. -/
def directory (space : Namespace) : Kind → List UInt8
  | .node => space.path ++ ascii "/NODES"
  | .client => space.path ++ ascii "/CLIENTS"

/-- The path of the znode that ZooKeeper creates with a sequence number. -/
def znodePath (space : Namespace) (kind : Kind) (sequence : Nat) : List UInt8 :=
  directory space kind ++ ascii "/" ++ padded 10 sequence

/-- `sscanf` with a directory, a slash and `%010d`: at most ten bytes are read as a number. -/
def scanSequence (directory path : List UInt8) : Option Int :=
  let start := directory ++ ascii "/"
  if start <+: path then
    (scanSigned ((skipSpace (path.drop start.length)).take 10)).map fun (minus, number, _) =>
      if minus then -number else number
  else none

/-- The id that `join` gives to a znode with that number: `ZKID_TO_NODEID` or
`ZKID_TO_CLIENTID`. -/
def idOfSequence (sequence : Int) : Kind → UInt32
  | .node => UInt32.ofInt sequence + 1
  | .client => UInt32.ofInt sequence + 0x10000

/-- The id that `join` takes from the path of the created znode. There is none if the assertion
that the number was read fails. -/
def join (space : Namespace) (kind : Kind) (sequence : Nat) : Option UInt32 :=
  (scanSequence (directory space kind) (znodePath space kind sequence)).map fun number =>
    idOfSequence number kind

/-- `%010d` for an unsigned argument, which is printed as a signed one. -/
def printSequence (number : UInt32) : List UInt8 :=
  if number.toNat < 2 ^ 31 then padded 10 number.toNat
  else ascii "-" ++ padded 9 (2 ^ 32 - number.toNat)

/-- The path that `_find_node` queries. The reserved ids fail an assertion. -/
def findNodePath (space : Namespace) (id : UInt32) : Option (List UInt8) :=
  if id = ActorID.any ∨ id = ActorID.localId then none
  else if 0x10000 ≤ id then
    some (directory space .client ++ ascii "/" ++ printSequence (id - 0x10000))
  else some (directory space .node ++ ascii "/" ++ printSequence (id - 1))

/-- The number of a client's znode is found back from its id. -/
def ClientFound (space : Namespace) (sequence : Nat) : Prop :=
  ∃ id, join space .client sequence = some id ∧
    findNodePath space id = some (znodePath space .client sequence)

/-- The id of a node is none of the reserved ones and not that of a client, and the number of its
znode is found back from it. -/
def NodeSeparate (space : Namespace) (sequence : Nat) : Prop :=
  ∃ id, join space .node sequence = some id ∧ id ≠ ActorID.localId ∧ id ≠ ActorID.any ∧
    id ≠ invalidId ∧ (∀ client < 2 ^ 31, join space .client client ≠ some id) ∧
    findNodePath space id = some (znodePath space .node sequence)

variable (space : Namespace) {sequence : Nat}

/-- `join` reads the number that ZooKeeper has written. -/
theorem scanSequence_znodePath (kind : Kind) (positive : sequence < 2 ^ 31) :
    scanSequence (directory space kind) (znodePath space kind sequence) =
      some (sequence : Int) := by
  have width : (padded 10 sequence).length = 10 := length_padded 10 sequence (by omega) (by omega)
  unfold scanSequence znodePath
  dsimp only
  rw [if_pos (List.prefix_append ..), List.drop_left]
  have whole : (skipSpace (padded 10 sequence)).take 10 = padded 10 sequence ++ [] := by
    have solid := skipSpace_run (padded 10 sequence) [] (padded_ne_nil 10 sequence)
      (padded_digits 10 sequence)
    rw [List.append_nil] at solid
    rw [solid, List.append_nil, List.take_of_length_le width.le]
  have stops : Stops isDigit [] := by
    intro byte front
    cases front
  rw [whole, scanSigned_run _ [] (padded_ne_nil 10 sequence) (padded_digits 10 sequence) stops,
    value_padded]
  rfl

theorem join_eq (kind : Kind) (positive : sequence < 2 ^ 31) :
    join space kind sequence = some (idOfSequence sequence kind) := by
  rw [join, scanSequence_znodePath space kind positive, Option.map_some]

theorem toNat_ofInt (positive : sequence < 2 ^ 31) :
    (UInt32.ofInt sequence).toNat = sequence := by
  have whole : ((sequence : Int) % 2 ^ 32).toNat = sequence := by omega
  unfold UInt32.ofInt
  rw [whole, UInt32.toNat_ofNat_of_lt']
  change sequence < 2 ^ 32
  omega

theorem toNat_nodeId (positive : sequence < 2 ^ 31) :
    (idOfSequence sequence .node).toNat = sequence + 1 := by
  change (UInt32.ofInt sequence + 1).toNat = sequence + 1
  rw [UInt32.toNat_add, toNat_ofInt positive]
  change (sequence + 1) % 2 ^ 32 = sequence + 1
  omega

theorem toNat_clientId (positive : sequence < 2 ^ 31) :
    (idOfSequence sequence .client).toNat = sequence + 0x10000 := by
  change (UInt32.ofInt sequence + 0x10000).toNat = sequence + 0x10000
  rw [UInt32.toNat_add, toNat_ofInt positive]
  change (sequence + 0x10000) % 2 ^ 32 = sequence + 0x10000
  omega

/-- The offset of an id is taken back, and the number is printed as ZooKeeper does. -/
theorem printSequence_sub {id offset : UInt32} (positive : sequence < 2 ^ 31)
    (shifted : id.toNat = sequence + offset.toNat) :
    printSequence (id - offset) = padded 10 sequence := by
  have back : (id - offset).toNat = sequence := by
    have below : offset ≤ id := UInt32.le_iff_toNat_le.mpr (by omega)
    rw [UInt32.toNat_sub_of_le id offset below]
    omega
  unfold printSequence
  rw [back, if_pos positive]

theorem reserved_iff (id : UInt32) :
    (id = ActorID.any ∨ id = ActorID.localId) ↔ id.toNat = 0xffff ∨ id.toNat = 0 := by
  rw [← UInt32.toNat_inj, ← UInt32.toNat_inj]
  rfl

/-- A client's znode is found back from its id, whatever its number is. -/
theorem clientFound (positive : sequence < 2 ^ 31) :
    ClientFound space sequence := by
  have id := toNat_clientId positive
  refine ⟨_, join_eq space .client positive, ?_⟩
  have free : ¬(idOfSequence sequence .client = ActorID.any ∨
      idOfSequence sequence .client = ActorID.localId) := by
    rw [reserved_iff, id]
    omega
  have above : 0x10000 ≤ idOfSequence sequence .client := by
    rw [UInt32.le_iff_toNat_le, id]
    exact Nat.le_add_left ..
  unfold findNodePath
  rw [if_neg free, if_pos above, printSequence_sub positive id]
  rfl

/-- The znode of a node with a small number is found back from its id. -/
theorem findNodePath_node (small : sequence < 65534) :
    findNodePath space (idOfSequence sequence .node) =
      some (znodePath space .node sequence) := by
  have positive : sequence < 2 ^ 31 := by omega
  have id := toNat_nodeId positive
  have free : ¬(idOfSequence sequence .node = ActorID.any ∨
      idOfSequence sequence .node = ActorID.localId) := by
    rw [reserved_iff, id]
    omega
  have below : ¬0x10000 ≤ idOfSequence sequence .node := by
    rw [UInt32.le_iff_toNat_le, id]
    change ¬0x10000 ≤ _
    omega
  unfold findNodePath
  rw [if_neg free, if_neg below, printSequence_sub positive id]
  rfl

theorem node_eq_client (positive : sequence < 2 ^ 31) (large : 65535 ≤ sequence) :
    idOfSequence sequence .node = idOfSequence ((sequence - 65535 : Nat) : Int) .client := by
  rw [← UInt32.toNat_inj, toNat_nodeId positive, toNat_clientId (by omega)]
  omega

/-- A node is separate from the reserved ids and from every client exactly if its number is below
65534. -/
theorem nodeSeparate_iff (positive : sequence < 2 ^ 31) :
    NodeSeparate space sequence ↔ sequence < 65534 := by
  have id := toNat_nodeId positive
  constructor
  · rintro ⟨given, joined, -, notAny, -, noClient, -⟩
    cases joined.symm.trans (join_eq space .node positive)
    by_contra large
    obtain last | beyond := Nat.eq_or_lt_of_le (Nat.le_of_not_lt large)
    · refine notAny (UInt32.toNat_inj.mp ?_)
      rw [id, ← last]
      rfl
    · have client : sequence - 65535 < 2 ^ 31 := by omega
      exact noClient _ client
        ((join_eq space .client client).trans (by rw [node_eq_client positive beyond]))
  · intro small
    refine ⟨_, join_eq space .node positive, ?_, ?_, ?_, ?_,
      findNodePath_node space small⟩
    · exact fun same => absurd ((reserved_iff _).mp (.inr same)) (by rw [id]; omega)
    · exact fun same => absurd ((reserved_iff _).mp (.inl same)) (by rw [id]; omega)
    · intro same
      have equal : (idOfSequence sequence .node).toNat = 0xffffffff := by
        rw [same]
        rfl
      omega
    · intro client bound joined
      have same := Option.some.inj ((join_eq space .client bound).symm.trans joined)
      have other := toNat_clientId bound
      rw [same] at other
      omega

/-- For every sequence number, the znode of a client is found back from its id, and the id of a
node is separate from the reserved ones and from those of clients, and leads back to its znode,
exactly if the number is below 65534. -/
theorem ids_separate_iff (space : Namespace) (sequence : Nat) (positive : sequence < 2 ^ 31) :
    ClientFound space sequence ∧ (NodeSeparate space sequence ↔ sequence < 65534) :=
  ⟨clientFound space positive, nodeSeparate_iff space positive⟩

theorem default_literal : ∀ byte ∈ ascii "/MOLA", byte ≠ 37 ∧ isSpace byte = false := by
  have text : ascii "/MOLA" = [47, 77, 79, 76, 65] := by decide
  rw [text]
  simp [isSpace]

theorem default_fits : (ascii "/MOLA").length + 20 ≤ 1024 := by decide

/-- The namespace that is used if none is given. -/
def defaultNamespace : Namespace := ⟨ascii "/MOLA", default_literal, default_fits⟩

/-- The last node that is separate. -/
theorem ids_separate_last : NodeSeparate defaultNamespace 65533 :=
  (ids_separate_iff defaultNamespace 65533 (by decide)).2.mpr (by decide)

/-- The node with the number 65534 has the id ANY, which `_find_node` asserts against. The next one
has the id of the first client, and `_find_node` queries that client's znode. -/
theorem ids_collide :
    join defaultNamespace .node 65534 = some ActorID.any ∧
      findNodePath defaultNamespace ActorID.any = none ∧
      join defaultNamespace .node 65535 = join defaultNamespace .client 0 ∧
      (join defaultNamespace .node 65535).bind (findNodePath defaultNamespace) =
        some (znodePath defaultNamespace .client 0) := by
  decide +kernel

end Mola.NodeIds
