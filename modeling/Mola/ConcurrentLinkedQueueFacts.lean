import Mola.ConcurrentLinkedQueue
import Mola.Places
import Mathlib.Data.List.Nodup

/-!
# What the threads of the lock-free queue know

All nodes that were ever linked stand in one list, behind the first dummy, in the order of the
exchanges of next-pointers. The list only grows. `m_head` and `m_tail` are at places of it that
only grow as well, with `m_head` never behind `m_tail`, and every pointer that a thread has
loaded is at a place that it will keep. This is what each thread knows; the exchanges succeed
only at the places that the threads expect.

A node that is not linked yet belongs to the thread that made it, and one that `m_head` has
passed to the thread whose exchange that was, until its item is returned.
-/

namespace Mola.ConcurrentLinkedQueue

universe u v w
variable {Id : Type w} {Node : Type u} {Item : Type v}

/-- The nodes that were linked, behind the dummy of the constructor. -/
def nodes (dummy : Node) (state : State Id Node Item) : List Node :=
  dummy :: state.linked.map Entry.node

/-- A pointer to the node at a place. -/
def At (dummy : Node) (state : State Id Node Item) (pointer : Option Node) (place : Nat) : Prop :=
  ∃ node, pointer = some node ∧ (nodes dummy state)[place]? = some node

/-- The node that belongs to a thread: one that is not linked yet, or one whose item is to be
returned. -/
def owned : Position Node Item → Option Node
  | .enqueueTail entry => some entry.node
  | .enqueueNext entry _ => some entry.node
  | .enqueueCheck entry _ _ => some entry.node
  | .link entry _ => some entry.node
  | .enqueueHelp entry _ _ => some entry.node
  | .take first => first
  | .clear first _ => some first
  | _ => none

/-- A node that is not linked yet. -/
structure Fresh (dummy : Node) (state : State Id Node Item) (entry : Entry Node Item) : Prop where
  apart : entry.node ∉ nodes dummy state
  last : state.next entry.node = none
  filled : state.item entry.node = some entry.item
  made : entry.node ∈ state.allocated

/-- An entry that `m_head` has passed and that was not returned yet. -/
structure Claimed (state : State Id Node Item) (entry : Entry Node Item) : Prop where
  linked : entry ∈ state.linked
  taken : entry.node ∈ state.taken
  filled : state.item entry.node = some entry.item
  unreturned : entry.node ∉ (returned state).map Entry.node

/-- What a thread knows at its position, when `m_tail` is at the given place. -/
def Fact (dummy : Node) (state : State Id Node Item) (last : Nat) : Position Node Item → Prop
  | .idle => True
  | .enqueueTail entry => Fresh dummy state entry
  | .enqueueNext entry t => Fresh dummy state entry ∧ ∃ place ≤ last, At dummy state t place
  | .enqueueCheck entry t s => Fresh dummy state entry ∧
      ∃ place ≤ last, At dummy state (some t) place ∧ (s = none ∨ At dummy state s (place + 1))
  | .link entry t => Fresh dummy state entry ∧ ∃ place ≤ last, At dummy state (some t) place
  | .swing entry t => ∃ place, At dummy state (some t) place ∧
      At dummy state (some entry.node) (place + 1)
  | .enqueueHelp entry t s => Fresh dummy state entry ∧
      ∃ place, At dummy state (some t) place ∧ At dummy state s (place + 1)
  | .loadHead _ => True
  | .loadTail _ h => ∃ place ≤ state.taken.length, At dummy state h place
  | .loadNext _ h t => ∃ place ≤ state.taken.length, At dummy state h place ∧
      ∃ behind ≤ last, place ≤ behind ∧ At dummy state t behind
  | .check _ h t first => ∃ place ≤ state.taken.length, At dummy state (some h) place ∧
      ∃ behind ≤ last, place ≤ behind ∧ At dummy state t behind ∧
        (At dummy state first (place + 1) ∨ first = none ∧ place = behind)
  | .help _ t first => ∃ place, At dummy state t place ∧ At dummy state first (place + 1)
  | .advance h first => ∃ place < last, At dummy state (some h) place ∧
      At dummy state first (place + 1)
  | .take first => ∃ entry, first = some entry.node ∧ Claimed state entry
  | .clear first item => Claimed state ⟨first, item⟩
  | .peek h first => ∃ place < last, At dummy state (some h) place ∧
      At dummy state first (place + 1)
  | .skip h _ => ∃ place < state.taken.length, At dummy state (some h) place
  | .fault => False

/-- The nodes in memory: each has its successor in the list as its next-pointer, `m_head` is at
the place that the exchanges have reached, `m_tail` at the given one, and an item that was not
taken is in its node. -/
structure Heap (dummy : Node) (state : State Id Node Item) (last : Nat) : Prop where
  distinct : (nodes dummy state).Nodup
  links : ∀ place node, (nodes dummy state)[place]? = some node →
    state.next node = (nodes dummy state)[place + 1]?
  head : At dummy state state.head state.taken.length
  tail : At dummy state state.tail last
  behind : state.taken.length ≤ last
  order : state.taken <+: state.linked.map Entry.node
  filled : ∀ place entry, state.linked[place]? = some entry → state.taken.length ≤ place →
    state.item entry.node = some entry.item
  made : ∀ node ∈ nodes dummy state, node ∈ state.allocated

/-- The memory is as it should be, every thread knows what its position says, no node belongs to
two threads, and what was returned was taken, each node once. -/
structure Invariant (dummy : Node) (state : State Id Node Item) (last : Nat) : Prop where
  heap : Heap dummy state last
  facts : ∀ id, Fact dummy state last (state.threads id)
  separate : ∀ id other node, owned (state.threads id) = some node →
    owned (state.threads other) = some node → id = other
  origin : ∀ entry ∈ returned state, entry ∈ state.linked ∧ entry.node ∈ state.taken
  once : ((returned state).map Entry.node).Nodup

/-- The list of nodes and the places have only grown. -/
structure Later (dummy : Node) (before after : State Id Node Item) (last later : Nat) : Prop where
  nodes : nodes dummy before <+: nodes dummy after
  linked : before.linked <+: after.linked
  taken : before.taken <+: after.taken
  last : last ≤ later
  allocated : ∀ node ∈ before.allocated, node ∈ after.allocated

/-- A node that a thread may own is left alone: it keeps its item, is not returned, and if it is
not linked, it stays so. -/
structure Untouched (dummy : Node) (before after : State Id Node Item) (node : Node) : Prop where
  item : after.item node = before.item node
  apart : node ∉ nodes dummy before →
    node ∉ nodes dummy after ∧ after.next node = before.next node
  unreturned : node ∉ (returned before).map Entry.node → node ∉ (returned after).map Entry.node

section
variable {dummy : Node} {before after : State Id Node Item} {last beyond : Nat}

theorem At.later {pointer : Option Node} {place : Nat} (found : At dummy before pointer place)
    (grown : Later dummy before after last beyond) : At dummy after pointer place := by
  obtain ⟨node, rfl, inside⟩ := found
  obtain ⟨rest, grows⟩ := grown.nodes
  refine ⟨node, rfl, ?_⟩
  rw [← grows, List.getElem?_append_left (List.getElem?_eq_some_iff.mp inside).1]
  exact inside

theorem Fresh.later {entry : Entry Node Item} (fresh : Fresh dummy before entry)
    (grown : Later dummy before after last beyond)
    (untouched : Untouched dummy before after entry.node) : Fresh dummy after entry := by
  obtain ⟨apart, next⟩ := untouched.apart fresh.apart
  exact ⟨apart, next.trans fresh.last, untouched.item.trans fresh.filled,
    grown.allocated _ fresh.made⟩

theorem Claimed.later {entry : Entry Node Item} (claimed : Claimed before entry)
    (grown : Later dummy before after last beyond)
    (untouched : Untouched dummy before after entry.node) : Claimed after entry :=
  ⟨grown.linked.subset claimed.linked, grown.taken.subset claimed.taken,
    untouched.item.trans claimed.filled, untouched.unreturned claimed.unreturned⟩

/-- A thread knows what it knew while others take steps that leave its node alone. -/
theorem Fact.later {position : Position Node Item} (fact : Fact dummy before last position)
    (grown : Later dummy before after last beyond)
    (untouched : ∀ node, owned position = some node → Untouched dummy before after node) :
    Fact dummy after beyond position := by
  have longer : before.taken.length ≤ after.taken.length := grown.taken.length_le
  have farther := grown.last
  cases position with
  | idle | loadHead => trivial
  | enqueueTail => exact Fresh.later fact grown (untouched _ rfl)
  | enqueueNext | link =>
    obtain ⟨fresh, place, near, found⟩ := fact
    exact ⟨fresh.later grown (untouched _ rfl), place, Nat.le_trans near farther, found.later grown⟩
  | enqueueCheck =>
    obtain ⟨fresh, place, near, found, seen⟩ := fact
    exact ⟨fresh.later grown (untouched _ rfl), place, Nat.le_trans near farther, found.later grown,
      seen.imp_right fun linked => linked.later grown⟩
  | swing | help =>
    obtain ⟨place, found, linked⟩ := fact
    exact ⟨place, found.later grown, linked.later grown⟩
  | enqueueHelp =>
    obtain ⟨fresh, place, found, linked⟩ := fact
    exact ⟨fresh.later grown (untouched _ rfl), place, found.later grown, linked.later grown⟩
  | loadTail =>
    obtain ⟨place, reached, found⟩ := fact
    exact ⟨place, Nat.le_trans reached longer, found.later grown⟩
  | loadNext =>
    obtain ⟨place, reached, found, behind, near, ordered, tail⟩ := fact
    exact ⟨place, Nat.le_trans reached longer, found.later grown, behind,
      Nat.le_trans near farther, ordered, tail.later grown⟩
  | check =>
    obtain ⟨place, reached, found, behind, near, ordered, tail, seen⟩ := fact
    exact ⟨place, Nat.le_trans reached longer, found.later grown, behind,
      Nat.le_trans near farther, ordered, tail.later grown, seen.imp_left fun linked => linked.later grown⟩
  | advance | peek =>
    obtain ⟨place, near, found, linked⟩ := fact
    exact ⟨place, Nat.lt_of_lt_of_le near farther, found.later grown, linked.later grown⟩
  | take =>
    obtain ⟨entry, rfl, claimed⟩ := fact
    exact ⟨entry, rfl, claimed.later grown (untouched _ rfl)⟩
  | clear => exact Claimed.later fact grown (untouched _ rfl)
  | skip =>
    obtain ⟨place, passed, found⟩ := fact
    exact ⟨place, Nat.lt_of_lt_of_le passed longer, found.later grown⟩
  | fault => exact fact

end

section
variable {dummy : Node} {state : State Id Node Item} {last : Nat}

theorem Heap.place_unique (heap : Heap dummy state last) {pointer : Option Node}
    {place other : Nat} (found : At dummy state pointer place)
    (again : At dummy state pointer other) : place = other := by
  obtain ⟨node, rfl, here⟩ := found
  obtain ⟨same, equal, there⟩ := again
  cases equal
  exact (List.getElem?_inj (List.getElem?_eq_some_iff.mp here).1 heap.distinct).mp
    (here.trans there.symm)

variable {node : Node}

/-- A next-pointer is null or at the place after its node. -/
theorem Heap.next_at (heap : Heap dummy state last) {place : Nat}
    (found : At dummy state (some node) place) :
    state.next node = none ∨ At dummy state (state.next node) (place + 1) := by
  obtain ⟨same, equal, inside⟩ := found
  cases equal
  rw [heap.links place node inside]
  cases next : (nodes dummy state)[place + 1]? with
  | none => exact Or.inl rfl
  | some following => exact Or.inr ⟨following, rfl, next⟩

/-- A node with a null next-pointer is the last one. -/
theorem Heap.next_none (heap : Heap dummy state last) {place : Nat}
    (found : At dummy state (some node) place) (ends : state.next node = none) :
    place = state.linked.length := by
  obtain ⟨same, equal, inside⟩ := found
  cases equal
  have within := (List.getElem?_eq_some_iff.mp inside).1
  have beyond := List.getElem?_eq_none_iff.mp ((heap.links place node inside).symm.trans ends)
  simp only [nodes, List.length_cons, List.length_map] at within beyond
  omega

/-- Before the place of `m_tail` there is always a next node. -/
theorem Heap.next_within (heap : Heap dummy state last) {place : Nat}
    (found : At dummy state (some node) place) (before : place < last) :
    At dummy state (state.next node) (place + 1) := by
  rcases heap.next_at found with ends | linked
  · obtain ⟨other, -, inside⟩ := heap.tail
    have within := (List.getElem?_eq_some_iff.mp inside).1
    have final := heap.next_none found ends
    simp only [nodes, List.length_cons, List.length_map] at within
    omega
  · exact linked

theorem linked_at {pointer : Option Node} {place : Nat}
    (found : At dummy state pointer (place + 1)) :
    ∃ entry, pointer = some entry.node ∧ state.linked[place]? = some entry := by
  obtain ⟨node, rfl, inside⟩ := found
  rw [nodes, List.getElem?_cons_succ, List.getElem?_map] at inside
  obtain ⟨entry, stored, rfl⟩ := Option.map_eq_some_iff.mp inside
  exact ⟨entry, rfl, stored⟩

/-- A node that was taken is before the place of `m_head`. -/
theorem Heap.taken_before (heap : Heap dummy state last) {place : Nat} {entry : Entry Node Item}
    (stored : state.linked[place]? = some entry) (taken : entry.node ∈ state.taken) :
    place < state.taken.length := by
  obtain ⟨other, within, same⟩ := List.getElem_of_mem taken
  obtain ⟨rest, order⟩ := heap.order
  have here : (state.linked.map Entry.node)[place]? = some entry.node := by
    rw [List.getElem?_map, stored]
    rfl
  have there : (state.linked.map Entry.node)[other]? = some entry.node := by
    rw [← order, List.getElem?_append_left within, List.getElem?_eq_getElem within, same]
  have equal : place = other :=
    (List.getElem?_inj (List.getElem?_eq_some_iff.mp here).1
      (List.nodup_cons.mp heap.distinct).2).mp (here.trans there.symm)
  omega

/-- The node of a thread was made, and if it is linked, it is one that was taken. -/
theorem Fact.owned {position : Position Node Item} (fact : Fact dummy state last position)
    (owns : owned position = some node) :
    node ∉ nodes dummy state ∧ node ∈ state.allocated ∨
      ∃ entry, entry.node = node ∧ Claimed state entry := by
  have unlinked : ∀ {entry : Entry Node Item}, Fresh dummy state entry → entry.node = node →
      node ∉ nodes dummy state ∧ node ∈ state.allocated ∨
        ∃ entry, entry.node = node ∧ Claimed state entry := by
    rintro entry fresh rfl
    exact Or.inl ⟨fresh.apart, fresh.made⟩
  cases position with
  | enqueueTail => exact unlinked fact (Option.some.inj owns)
  | enqueueNext | enqueueCheck | link | enqueueHelp => exact unlinked fact.1 (Option.some.inj owns)
  | take =>
    obtain ⟨entry, rfl, claimed⟩ := fact
    exact Or.inr ⟨entry, Option.some.inj owns, claimed⟩
  | clear first item => exact Or.inr ⟨⟨first, item⟩, Option.some.inj owns, fact⟩
  | _ => cases owns

end

theorem mem_nodes (dummy : Node) {state : State Id Node Item} {entry : Entry Node Item}
    (linked : entry ∈ state.linked) : entry.node ∈ nodes dummy state :=
  List.mem_cons_of_mem dummy (List.mem_map_of_mem linked)

theorem nodes_length (dummy : Node) (state : State Id Node Item) :
    (nodes dummy state).length = state.linked.length + 1 := by
  rw [nodes, List.length_cons, List.length_map]

theorem nodes_append (dummy : Node) (before after : State Id Node Item) (entry : Entry Node Item)
    (grows : after.linked = before.linked ++ [entry]) :
    nodes dummy after = nodes dummy before ++ [entry.node] := by
  rw [nodes, grows, List.map_append]
  rfl

/-- A node is linked behind the last one. -/
theorem Heap.link [DecidableEq Node] {dummy : Node} {state : State Id Node Item} {last : Nat}
    (heap : Heap dummy state last) {entry : Entry Node Item} {t : Node} {place : Nat}
    (fresh : Fresh dummy state entry) (found : At dummy state (some t) place)
    (ends : state.next t = none) :
    Heap dummy { state with
      next := Function.update state.next t (some entry.node)
      linked := state.linked ++ [entry] } last := by
  have final := heap.next_none found ends
  have size := nodes_length dummy state
  have longer := nodes_append dummy state { state with
    next := Function.update state.next t (some entry.node)
    linked := state.linked ++ [entry] } entry rfl
  have grown : Later dummy state { state with
      next := Function.update state.next t (some entry.node)
      linked := state.linked ++ [entry] } last last :=
    ⟨⟨[entry.node], longer.symm⟩, List.prefix_append _ _, List.prefix_rfl, Nat.le_refl last,
      fun _ made => made⟩
  obtain ⟨same, equal, inside⟩ := found
  cases equal
  have mine : entry.node ≠ t := fun equal => fresh.apart (equal ▸ List.mem_of_getElem? inside)
  refine ⟨?_, ?_, heap.head.later grown, heap.tail.later grown, heap.behind, ?_, ?_, ?_⟩
  · rw [longer, ← List.concat_eq_append]
    exact heap.distinct.concat fresh.apart
  · intro other node stored
    rw [longer] at stored ⊢
    dsimp only
    rcases (Places.append_place _ _ _ _).mp stored with old | ⟨rfl, rfl⟩
    · by_cases here : node = t
      · subst here
        obtain rfl : other = place := heap.place_unique ⟨node, rfl, old⟩ ⟨node, rfl, inside⟩
        rw [Function.update_self, final, ← size]
        exact List.getElem?_concat_length.symm
      · have before : other ≠ place := by
          rintro rfl
          exact here (Option.some.inj (old.symm.trans inside))
        have within := (List.getElem?_eq_some_iff.mp old).1
        rw [Function.update_of_ne here, List.getElem?_append_left (by omega)]
        exact heap.links other node old
    · rw [Function.update_of_ne mine, fresh.last, eq_comm, List.getElem?_eq_none_iff,
        List.length_append]
      exact Nat.le_refl _
  · rw [List.map_append]
    exact heap.order.trans (List.prefix_append _ _)
  · intro other found stored untaken
    rcases (Places.append_place _ _ _ _).mp stored with old | ⟨-, rfl⟩
    · exact heap.filled other found old untaken
    · exact fresh.filled
  · intro node member
    rw [longer, List.mem_append, List.mem_singleton] at member
    rcases member with old | rfl
    · exact heap.made node old
    · exact fresh.made

end Mola.ConcurrentLinkedQueue
