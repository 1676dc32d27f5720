import Mola.Decimals

/-!
# The description of a node

A node is registered at ZooKeeper by a line of text: its endianness, protocol, host and port, and
the ids of its public modules, each followed by a blank. `Node::decode` reads the line by formatted
extraction from a string stream, and module ids until an extraction fails.

An extraction on a stream that has failed leaves its variable as it is; one that finds no digit
stores zero, and one that finds too large a number stores the largest. The first four variables
have no initial value. The names of modules come from the node manager, which is asked for the
name of an id.
-/

namespace Mola.NodeRecords

open Decimals

/-- `Node::ModuleInfo`. -/
structure ModuleInfo where
  name : List UInt8
  id : UInt16
  pub : Bool
deriving DecidableEq

/-- A `Node`, without its connection. -/
structure Node where
  id : UInt32
  endian : UInt32
  proto : UInt32
  ip : List UInt8
  port : UInt16
  modules : List ModuleInfo
deriving DecidableEq

/-- The ids of the public modules. -/
def publicIds (modules : List ModuleInfo) : List UInt16 :=
  (modules.filter ModuleInfo.pub).map ModuleInfo.id

/-- `Node::encode`. -/
def encode (node : Node) : List UInt8 :=
  decimal node.endian.toNat ++ ascii " " ++ decimal node.proto.toNat ++ ascii " " ++ node.ip ++
    ascii " " ++ decimal node.port.toNat ++ ascii " " ++
    (publicIds node.modules).flatMap fun id => decimal id.toNat ++ ascii " "

/-- An input string stream: what is left, and whether no extraction has failed. -/
structure Stream where
  rest : List UInt8
  good : Bool

/-- The extraction of an unsigned integer below a limit into a variable, whose previous value is
given. -/
def extractNat (limit : Nat) (stream : Stream) (previous : Nat) : Nat × Stream :=
  if stream.good then
    match scanSigned (skipSpace stream.rest) with
    | none => (0, ⟨skipSpace stream.rest, false⟩)
    | some (minus, number, rest) =>
        if limit ≤ number then (limit - 1, ⟨rest, false⟩)
        else (if minus then (limit - number) % limit else number, ⟨rest, true⟩)
  else (previous, stream)

/-- The extraction of a word into a string. -/
def extractWord (stream : Stream) (previous : List UInt8) : List UInt8 × Stream :=
  if stream.good then
    match skipSpace stream.rest with
    | [] => (previous, ⟨[], false⟩)
    | text => (word text, ⟨afterWord text, true⟩)
  else (previous, stream)

/-- The loop that reads module ids until an extraction fails. Every extraction that succeeds takes
a byte, and the length of the text is fuel enough. -/
def readModules : Nat → Stream → Nat → List UInt32
  | 0, _, _ => []
  | fuel + 1, stream, previous =>
      let (mid, stream) := extractNat (2 ^ 32) stream previous
      if stream.good then UInt32.ofNat mid :: readModules fuel stream mid else []

/-- `Node::add_module` with the default arguments: the id is stored in 16 bits. -/
def addModule (names : UInt16 → List UInt8) (mid : UInt32) : ModuleInfo :=
  ⟨names mid.toUInt16, mid.toUInt16, true⟩

/-- What the local variables of `Node::decode` hold before they are set. -/
structure Locals where
  proto : Nat
  endian : Nat
  port : Nat
  mid : Nat

/-- `Node::decode`. -/
def decode (names : UInt16 → List UInt8) (locals : Locals) (id : UInt32) (info : List UInt8) :
    Node :=
  let (endian, stream) := extractNat (2 ^ 32) ⟨info, true⟩ locals.endian
  let (proto, stream) := extractNat (2 ^ 32) stream locals.proto
  let (ip, stream) := extractWord stream []
  let (port, stream) := extractNat (2 ^ 16) stream locals.port
  { id := id
    endian := UInt32.ofNat endian
    proto := UInt32.ofNat proto
    ip := ip
    port := UInt16.ofNat port
    modules := (readModules (info.length + 1) stream locals.mid).map (addModule names) }

/-- `Node::has_module` for an id. -/
def hasModule (node : Node) (id : UInt32) : Bool :=
  node.modules.any fun info => info.id.toUInt32 = id

/-- The node with its public modules only. -/
def Node.publicPart (node : Node) : Node :=
  { node with modules := node.modules.filter ModuleInfo.pub }

theorem skipSpace_blank (text : List UInt8) : skipSpace (32 :: text) = skipSpace text := rfl

theorem stops_digit (text : List UInt8) : Stops isDigit (32 :: text) := by
  intro byte front
  cases front
  rfl

theorem extractNat_decimal (limit number previous : Nat) (text : List UInt8)
    (small : number < limit) :
    extractNat limit ⟨decimal number ++ 32 :: text, true⟩ previous =
      (number, ⟨32 :: text, true⟩) := by
  unfold extractNat
  simp only [if_true, skipSpace_run _ _ (decimal_ne_nil number) (decimal_digits number),
    scanSigned_decimal _ (stops_digit text), Nat.not_le.mpr small, if_false,
    Bool.false_eq_true]

theorem extractNat_blank (limit previous : Nat) (text : List UInt8) :
    extractNat limit ⟨32 :: text, true⟩ previous = extractNat limit ⟨text, true⟩ previous := by
  unfold extractNat
  simp only [if_true, skipSpace_blank]

/-- A host that was printed is extracted after a blank, and the blank after it is left. -/
theorem extractWord_host {host : List UInt8} (text previous : List UInt8) (some_ : host ≠ [])
    (solid : ∀ byte ∈ host, isSpace byte = false) :
    extractWord ⟨32 :: (host ++ 32 :: text), true⟩ previous = (host, ⟨32 :: text, true⟩) := by
  have starts : Stops isSpace (host ++ 32 :: text) := by
    intro byte front
    cases host with
    | nil => exact absurd rfl some_
    | cons =>
      cases front
      exact solid byte List.mem_cons_self
  have ends : Stops (fun byte => !isSpace byte) (32 :: text) := by
    intro byte front
    cases front
    rfl
  obtain ⟨read, left⟩ := word_run host (32 :: text) solid ends
  unfold extractWord
  simp only [if_true, skipSpace_blank, skipSpace_of_stops _ starts]
  split
  case h_1 empty => exact absurd (List.append_eq_nil_iff.mp empty).1 some_
  case h_2 => rw [read, left]

/-- The module ids that were printed are read until the text ends. -/
theorem readModules_ids (ids : List UInt16) (fuel previous : Nat) (enough : ids.length < fuel) :
    readModules fuel ⟨32 :: ids.flatMap fun id => decimal id.toNat ++ ascii " ", true⟩ previous =
      ids.map UInt16.toUInt32 := by
  induction ids generalizing fuel previous with
  | nil =>
    cases fuel with
    | zero => cases enough
    | succ => rfl
  | cons id rest inductionHypothesis =>
    cases fuel with
    | zero => cases enough
    | succ fuel =>
      have small : id.toNat < 2 ^ 32 := Nat.lt_trans id.toNat_lt (by decide)
      have text : ((id :: rest).flatMap fun id => decimal id.toNat ++ ascii " ") =
          decimal id.toNat ++ 32 :: rest.flatMap fun id => decimal id.toNat ++ ascii " " := by
        rw [List.flatMap_cons, List.append_assoc]
        rfl
      have same : UInt32.ofNat id.toNat = id.toUInt32 := by
        rw [← UInt32.toNat_inj, UInt32.toNat_ofNat_of_lt' small, UInt16.toNat_toUInt32]
      unfold readModules
      rw [text, extractNat_blank, extractNat_decimal _ _ _ _ small]
      dsimp only
      rw [if_pos rfl, inductionHypothesis fuel id.toNat (Nat.lt_of_succ_lt_succ enough), same,
        List.map_cons]

theorem encode_eq (node : Node) :
    encode node =
      decimal node.endian.toNat ++ 32 :: (decimal node.proto.toNat ++ 32 :: (node.ip ++ 32 ::
        (decimal node.port.toNat ++ 32 ::
          (publicIds node.modules).flatMap fun id => decimal id.toNat ++ ascii " "))) := by
  have blank : ascii " " = [32] := by decide
  unfold encode
  simp only [blank, List.append_assoc, List.cons_append, List.nil_append]

/-- The ids of a node take fewer bytes than its description. -/
theorem publicIds_length_le (node : Node) :
    (publicIds node.modules).length ≤ (encode node).length := by
  have each (ids : List UInt16) :
      ids.length ≤ (ids.flatMap fun id => decimal id.toNat ++ ascii " ").length := by
    induction ids with
    | nil => exact Nat.le_refl 0
    | cons =>
      have blank : (ascii " ").length = 1 := by decide
      rw [List.flatMap_cons, List.length_append, List.length_append, blank, List.length_cons]
      omega
  have ids := each (publicIds node.modules)
  rw [encode_eq]
  simp only [List.length_append, List.length_cons]
  omega

/-- What is decoded from the description of a node. -/
theorem decode_encode (names : UInt16 → List UInt8) (locals : Locals) (id : UInt32) {node : Node}
    (some_ : node.ip ≠ []) (solid : ∀ byte ∈ node.ip, isSpace byte = false) :
    decode names locals id (encode node) =
      { node with
        id := id
        modules := (publicIds node.modules).map fun mid => ⟨names mid, mid, true⟩ } := by
  have fuel := publicIds_length_le node
  unfold decode
  generalize length : (encode node).length + 1 = fuel at *
  rw [encode_eq]
  simp only [extractNat_decimal _ _ _ _ node.endian.toNat_lt, extractNat_blank,
    extractNat_decimal _ _ _ _ node.proto.toNat_lt, extractWord_host _ _ some_ solid,
    extractNat_decimal _ _ _ _ node.port.toNat_lt]
  rw [readModules_ids _ _ _ (by omega)]
  simp [addModule, Function.comp_def]

/-- The description of a node is read back: the endianness, the protocol, the host and the port are
the same, the module ids are the public ones in their order, `has_module` answers as the node
with its public modules only, and the decoded node has the same description. -/
theorem decode_encode_spec (names : UInt16 → List UInt8) (locals : Locals) (id : UInt32)
    (node : Node) (some_ : node.ip ≠ []) (solid : ∀ byte ∈ node.ip, isSpace byte = false) :
    let decoded := decode names locals id (encode node)
    decoded.endian = node.endian ∧ decoded.proto = node.proto ∧ decoded.ip = node.ip ∧
      decoded.port = node.port ∧
      decoded.modules.map ModuleInfo.id =
        (node.modules.filter ModuleInfo.pub).map ModuleInfo.id ∧
      (∀ mid, hasModule decoded mid = hasModule node.publicPart mid) ∧
      encode decoded = encode node := by
  have ids : ((publicIds node.modules).map fun mid => (⟨names mid, mid, true⟩ : ModuleInfo)).map
      ModuleInfo.id = publicIds node.modules := by
    simp [Function.comp_def]
  have same : publicIds ((publicIds node.modules).map fun mid => ⟨names mid, mid, true⟩) =
      publicIds node.modules := by
    conv_lhs => rw [publicIds]
    rw [List.filter_eq_self.mpr (by simp), ids]
  rw [decode_encode names locals id some_ solid]
  refine ⟨rfl, rfl, rfl, rfl, ids, fun mid => ?_, ?_⟩
  · unfold hasModule Node.publicPart
    rw [List.any_map]
    simp [publicIds, Function.comp_def]
  · rw [encode_eq, encode_eq]
    dsimp only
    rw [same]

/-- A node with a public and a private module. -/
def registered : Node :=
  ⟨1, 0, 1, ascii "10.0.0.1", 8080, [⟨ascii "a", 3, true⟩, ⟨ascii "b", 4, false⟩]⟩

/-- The node is read back with its public module. -/
theorem decode_encode_registered :
    (decode (fun _ => []) ⟨9, 9, 9, 9⟩ 1 (encode registered)).modules.map ModuleInfo.id =
      [3] ∧
    encode (decode (fun _ => []) ⟨9, 9, 9, 9⟩ 1 (encode registered)) = encode registered := by
  have host : registered.ip = [49, 48, 46, 48, 46, 48, 46, 49] := by decide
  obtain ⟨-, -, -, -, ids, -, same⟩ := decode_encode_spec (fun _ => []) ⟨9, 9, 9, 9⟩ 1 registered
    (by rw [host]; exact List.cons_ne_nil _ _) (by rw [host]; simp [isSpace])
  exact ⟨ids, same⟩

end Mola.NodeRecords
