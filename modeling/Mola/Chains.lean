import Mathlib.Logic.Function.Basic
import Mathlib.Data.List.Basic

/-!
# Singly linked chains in a store

A link field maps each node to the node after it. A chain from a start pointer
is the finite list of nodes met by following that field until it is null. The
list is a mathematical reading of the store; it is not part of the store and no
operation consults it.

Three facts are used by clients: nodes that are each linked to the next one of a list
form a chain, a write to a node outside a chain leaves the chain alone, and putting a
node in front of a chain is a write to that node only. Cyclic links denote no chain.
-/

namespace Mola.Chains

universe u
variable {Node : Type u}

/-- Following `next` from `start` meets exactly these nodes, in this order, and
then the null pointer. -/
def Chain (next : Node → Option Node) : Option Node → List Node → Prop
  | start, [] => start = none
  | start, node :: rest => start = some node ∧ Chain next (next node) rest

@[simp] theorem chain_none (next : Node → Option Node) (nodes : List Node) :
    Chain next none nodes ↔ nodes = [] := by
  cases nodes with
  | nil | cons => simp [Chain]

/-- A chain that starts at a node begins with that node. -/
theorem chain_some (next : Node → Option Node) (first : Node) (nodes : List Node)
    (chain : Chain next (some first) nodes) :
    ∃ rest, nodes = first :: rest ∧ Chain next (next first) rest := by
  cases nodes with
  | nil => exact absurd chain (by simp [Chain])
  | cons _ rest =>
    obtain ⟨same, tail⟩ := chain
    cases same
    exact ⟨rest, rfl, tail⟩

/-- Stores that agree on the nodes of a chain give the same chain. -/
theorem chain_congr (next changed : Node → Option Node) (start : Option Node)
    (nodes : List Node) (agree : ∀ node ∈ nodes, changed node = next node)
    (chain : Chain next start nodes) : Chain changed start nodes := by
  induction nodes generalizing start with
  | nil => exact chain
  | cons node _ inductionHypothesis =>
    obtain ⟨starts, tail⟩ := chain
    refine ⟨starts, ?_⟩
    rw [agree node (by simp)]
    exact inductionHypothesis (next node)
      (fun other member => agree other (List.mem_cons_of_mem node member)) tail

/-- Nodes that are each linked to the next one of a list form a chain, from any place of the
list on. -/
theorem chain_drop {next : Node → Option Node} {nodes : List Node}
    (links : ∀ place node, nodes[place]? = some node → next node = nodes[place + 1]?)
    (place : Nat) : Chain next nodes[place]? (nodes.drop place) := by
  induction rest : nodes.drop place generalizing place with
  | nil => exact List.getElem?_eq_none (List.drop_eq_nil_iff.mp rest)
  | cons node _ inductionHypothesis =>
    have here : nodes[place]? = some node := by
      rw [← Nat.add_zero place, ← List.getElem?_drop, rest]
      rfl
    refine ⟨here, ?_⟩
    rw [links place node here]
    apply inductionHypothesis
    rw [← List.drop_drop, rest]
    rfl

variable [DecidableEq Node]

theorem chain_update (next : Node → Option Node) (start target : Option Node)
    (node : Node) (nodes : List Node) (outside : node ∉ nodes)
    (chain : Chain next start nodes) :
    Chain (Function.update next node target) start nodes := by
  apply chain_congr next _ start nodes _ chain
  intro other member
  have different : other ≠ node := fun same => outside (same ▸ member)
  exact Function.update_of_ne different target next

theorem chain_push {next : Node → Option Node} {start : Option Node}
    {node : Node} {nodes : List Node} (outside : node ∉ nodes)
    (chain : Chain next start nodes) :
    Chain (Function.update next node start) (some node) (node :: nodes) := by
  refine ⟨rfl, ?_⟩
  rw [Function.update_self]
  exact chain_update next start start node nodes outside chain

end Mola.Chains
