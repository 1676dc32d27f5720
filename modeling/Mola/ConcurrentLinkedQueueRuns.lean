import Mola.ConcurrentLinkedQueueFacts
import Mathlib.Data.List.Infix

/-!
# Runs of the lock-free queue

Every step leads from one state of the invariant to a later one: a step of one thread leaves
the nodes of the others alone, and the lists have only grown. So the queue is a first-in
first-out one in every state of every run.

A reader that loaded a null next-pointer has seen the empty queue, or `m_head` has moved on
and its second load of `m_head` will tell. So null is returned only if the queue was empty at
some instant of the call.
-/

namespace Mola.ConcurrentLinkedQueue

universe u v w
variable {Id : Type w} {Node : Type u} {Item : Type v}

/-- A step leads from one state of the invariant to a later one. -/
def Steps (dummy : Node) (state : State Id Node Item) (last : Nat) (after : State Id Node Item) :
    Prop :=
  ∃ beyond, Later dummy state after last beyond ∧ Invariant dummy after beyond

/-- A tail exchange followed by other steps. -/
theorem Steps.trans {dummy : Node} {state middle after : State Id Node Item} {last : Nat}
    (first : Steps dummy state last middle)
    (second : ∀ beyond, Later dummy state middle last beyond → Invariant dummy middle beyond →
      Steps dummy middle beyond after) : Steps dummy state last after := by
  obtain ⟨beyond, grown, kept⟩ := first
  obtain ⟨farther, grows, final⟩ := second beyond grown kept
  exact ⟨farther, ⟨grown.nodes.trans grows.nodes, grown.linked.trans grows.linked,
    grown.taken.trans grows.taken, Nat.le_trans grown.last grows.last,
    fun node made => grows.allocated node (grown.allocated node made)⟩, final⟩

section
variable {dummy : Node} {state : State Id Node Item} {last : Nat}

theorem Heap.frame (heap : Heap dummy state last) (threads : Id → Position Node Item)
    (answers : List (Id × Answer Node Item)) :
    Heap dummy { state with threads := threads, answers := answers } last :=
  { heap with }

theorem Later.frame (threads : Id → Position Node Item) (answers : List (Id × Answer Node Item)) :
    Later dummy state { state with threads := threads, answers := answers } last last :=
  ⟨List.prefix_rfl, List.prefix_rfl, List.prefix_rfl, Nat.le_refl last, fun _ made => made⟩

section
variable [DecidableEq Node]

/-- `m_tail` moves to the next node, or the exchange fails. -/
theorem Invariant.exchange (kept : Invariant dummy state last) (t desired : Option Node)
    (place : Nat) (found : At dummy state t place) (linked : At dummy state desired (place + 1)) :
    Steps dummy state last (exchangeTail state t desired) := by
  unfold exchangeTail
  split
  · rename_i current
    obtain rfl : place = last := kept.heap.place_unique (current ▸ found) kept.heap.tail
    have grown : Later dummy state { state with tail := desired } place (place + 1) :=
      ⟨List.prefix_rfl, List.prefix_rfl, List.prefix_rfl, Nat.le_succ place, fun _ made => made⟩
    refine ⟨place + 1, grown, ?_, ?_, kept.separate, kept.origin, kept.once⟩
    · exact { kept.heap with tail := linked, behind := Nat.le_succ_of_le kept.heap.behind }
    · intro id
      apply (kept.facts id).later grown
      exact fun node _ => ⟨rfl, fun apart => ⟨apart, rfl⟩, fun unreturned => unreturned⟩
  · exact ⟨last, Later.frame state.threads state.answers, kept⟩

end

variable [DecidableEq Id]

/-- One thread goes on and may change the memory, so long as it leaves the nodes of the others
alone. -/
theorem Invariant.update (kept : Invariant dummy state last) (after : State Id Node Item)
    (beyond : Nat) (id : Id) (position : Position Node Item)
    (threads : after.threads = Function.update state.threads id position)
    (heap : Heap dummy after beyond) (grown : Later dummy state after last beyond)
    (untouched : ∀ other node, other ≠ id → owned (state.threads other) = some node →
      Untouched dummy state after node)
    (fact : Fact dummy after beyond position)
    (apart : ∀ other node, other ≠ id → owned position = some node →
      owned (state.threads other) ≠ some node)
    (origin : ∀ entry ∈ returned after, entry ∈ after.linked ∧ entry.node ∈ after.taken)
    (once : ((returned after).map Entry.node).Nodup) : Steps dummy state last after := by
  have here : after.threads id = position := by rw [threads, Function.update_self]
  have there (other : Id) (different : other ≠ id) : after.threads other = state.threads other := by
    rw [threads, Function.update_of_ne different]
  refine ⟨beyond, grown, heap, ?_, ?_, origin, once⟩
  · intro other
    by_cases same : other = id
    · subst same
      rwa [here]
    · rw [there other same]
      exact (kept.facts other).later grown fun node => untouched other node same
  · intro first second node owns again
    by_cases firstHere : first = id
    · by_cases secondHere : second = id
      · exact firstHere.trans secondHere.symm
      · rw [firstHere, here] at owns
        rw [there second secondHere] at again
        exact absurd again (apart second node secondHere owns)
    · rw [there first firstHere] at owns
      by_cases secondHere : second = id
      · rw [secondHere, here] at again
        exact absurd owns (apart first node firstHere again)
      · rw [there second secondHere] at again
        exact kept.separate first second node owns again

/-- A thread goes on without a change of the memory, with no node that was not its own. -/
theorem Invariant.move (kept : Invariant dummy state last) (id : Id)
    (position : Position Node Item) (fact : Fact dummy state last position)
    (owns : ∀ node, owned position = some node → owned (state.threads id) = some node) :
    Steps dummy state last (move state id position) := by
  have grown : Later dummy state (ConcurrentLinkedQueue.move state id position) last last :=
    Later.frame _ state.answers
  have untouched (node : Node) :
      Untouched dummy state (ConcurrentLinkedQueue.move state id position) node :=
    ⟨rfl, fun apart => ⟨apart, rfl⟩, fun unreturned => unreturned⟩
  apply kept.update (ConcurrentLinkedQueue.move state id position) last id position rfl
    (kept.heap.frame _ state.answers) grown (fun _ node _ _ => untouched node)
    (fact.later grown fun node _ => untouched node) _ kept.origin kept.once
  intro other node different own again
  exact different (kept.separate other id node again (owns node own))

/-- A call returns something that is no item. -/
theorem Invariant.answer (kept : Invariant dummy state last) (id : Id)
    (result : Answer Node Item) (noItem : ∀ entry, result ≠ .got entry) :
    Steps dummy state last (answer state id result) := by
  have same : returned (ConcurrentLinkedQueue.answer state id result) = returned state := by
    simp only [returned, ConcurrentLinkedQueue.answer, List.filterMap_append]
    cases result with
    | got entry => exact absurd rfl (noItem entry)
    | _ => exact List.append_nil _
  apply kept.update (ConcurrentLinkedQueue.answer state id result) last id .idle rfl
    (kept.heap.frame _ _) (Later.frame _ _) _ trivial _
  · rw [same]
    exact kept.origin
  · rw [same]
    exact kept.once
  · intro other node _ _
    refine ⟨rfl, fun apart => ⟨apart, rfl⟩, ?_⟩
    rw [same]
    exact fun unreturned => unreturned
  · intro other node _ own
    cases own

/-- `m_head` moves to the next node, which then belongs to the thread. -/
theorem Invariant.advance (kept : Invariant dummy state last) (id : Id) (h : Node)
    (first : Option Node) (stands : state.threads id = .advance h first)
    (current : state.head = some h) :
    Steps dummy state last { ConcurrentLinkedQueue.move state id (.take first) with
      head := first
      taken := state.taken ++ first.toList } := by
  have fact := kept.facts id
  rw [stands] at fact
  obtain ⟨place, before, found, linked⟩ := fact
  obtain rfl : place = state.taken.length :=
    kept.heap.place_unique found (current ▸ kept.heap.head)
  obtain ⟨entry, rfl, stored⟩ := linked_at linked
  have untaken : entry.node ∉ state.taken := fun taken =>
    Nat.lt_irrefl _ (kept.heap.taken_before stored taken)
  have inside := List.mem_of_getElem? stored
  have grown : Later dummy state { ConcurrentLinkedQueue.move state id (.take (some entry.node)) with
      head := some entry.node
      taken := state.taken ++ [entry.node] } last last :=
    ⟨List.prefix_rfl, List.prefix_rfl, List.prefix_append _ _, Nat.le_refl last,
      fun _ made => made⟩
  refine kept.update _ last id _ rfl ?_ grown ?_ ?_ ?_ ?_ kept.once
  · refine { kept.heap with head := ?_, behind := ?_, order := ?_, filled := ?_ }
    · rw [Option.toList_some, List.length_append]
      exact linked
    · rw [Option.toList_some, List.length_append]
      exact before
    · obtain ⟨within, same⟩ := List.getElem?_eq_some_iff.mp stored
      have next := List.concat_get_prefix kept.heap.order (by rwa [List.length_map])
      rwa [List.get_eq_getElem, List.getElem_map, same] at next
    · intro place other found untaken
      rw [Option.toList_some, List.length_append] at untaken
      exact kept.heap.filled place other found (Nat.le_of_succ_le untaken)
  · exact fun other own _ _ => ⟨rfl, fun apart => ⟨apart, rfl⟩, fun unreturned => unreturned⟩
  · refine ⟨entry, rfl, inside, List.mem_append_right _ (List.mem_singleton_self _),
      kept.heap.filled _ entry stored (Nat.le_refl _), ?_⟩
    intro member
    obtain ⟨other, returns, same⟩ := List.mem_map.mp member
    exact untaken (same ▸ (kept.origin other returns).2)
  · intro other own _ mine owns
    cases mine
    rcases (kept.facts other).owned owns with ⟨apart, -⟩ | ⟨owner, same, claimed⟩
    · exact apart (mem_nodes dummy inside)
    · exact untaken (same ▸ claimed.taken)
  · intro other member
    obtain ⟨linked, taken⟩ := kept.origin other member
    exact ⟨linked, List.mem_append_left _ taken⟩

variable [DecidableEq Node]

/-- A thread makes a node. -/
theorem Invariant.allocate (kept : Invariant dummy state last) (id : Id) (item : Item)
    (node : Node) (unused : node ∉ state.allocated) :
    Steps dummy state last { ConcurrentLinkedQueue.move state id (.enqueueTail ⟨node, item⟩) with
      next := Function.update state.next node none
      item := Function.update state.item node (some item)
      allocated := node :: state.allocated } := by
  have linkedNe {other : Node} (inside : other ∈ nodes dummy state) : other ≠ node := by
    rintro rfl
    exact unused (kept.heap.made other inside)
  have ownedNe {other : Id} {own : Node} (owns : owned (state.threads other) = some own) :
      own ≠ node := by
    rcases (kept.facts other).owned owns with ⟨-, made⟩ | ⟨entry, rfl, claimed⟩
    · rintro rfl
      exact unused made
    · exact linkedNe (mem_nodes dummy claimed.linked)
  refine kept.update _ last id _ rfl ?_ ?_ ?_ ?_ ?_ kept.origin kept.once
  · refine { kept.heap with
      links := ?_, filled := ?_
      made := fun other inside => List.mem_cons_of_mem node (kept.heap.made _ inside) }
    · intro place other inside
      dsimp only
      rw [Function.update_of_ne (linkedNe (List.mem_of_getElem? inside))]
      exact kept.heap.links place other inside
    · intro place entry stored untaken
      dsimp only
      rw [Function.update_of_ne (linkedNe (mem_nodes dummy (List.mem_of_getElem? stored)))]
      exact kept.heap.filled place entry stored untaken
  · exact ⟨List.prefix_rfl, List.prefix_rfl, List.prefix_rfl, Nat.le_refl last,
      fun other made => List.mem_cons_of_mem node made⟩
  · intro other own _ owns
    have different := ownedNe owns
    exact ⟨Function.update_of_ne different _ _,
      fun apart => ⟨apart, Function.update_of_ne different _ _⟩, fun unreturned => unreturned⟩
  · exact ⟨fun inside => linkedNe inside rfl, Function.update_self _ _ _,
      Function.update_self _ _ _, List.mem_cons_self⟩
  · intro other own _ mine owns
    exact ownedNe owns (Option.some.inj mine).symm

/-- A thread links its node behind the last one. -/
theorem Invariant.link (kept : Invariant dummy state last) (id : Id) (entry : Entry Node Item)
    (t : Node) (stands : state.threads id = .link entry t) (ends : state.next t = none) :
    Steps dummy state last { ConcurrentLinkedQueue.move state id (.swing entry t) with
      next := Function.update state.next t (some entry.node)
      linked := state.linked ++ [entry] } := by
  have fact := kept.facts id
  rw [stands] at fact
  obtain ⟨fresh, place, -, found⟩ := fact
  have grown : Later dummy state { ConcurrentLinkedQueue.move state id (.swing entry t) with
      next := Function.update state.next t (some entry.node)
      linked := state.linked ++ [entry] } last last :=
    ⟨⟨[entry.node], (nodes_append dummy state _ entry rfl).symm⟩, List.prefix_append _ _,
      List.prefix_rfl, Nat.le_refl last, fun _ made => made⟩
  refine kept.update _ last id _ rfl ((kept.heap.link fresh found ends).frame _ state.answers) grown
    ?_ ?_ ?_ ?_ kept.once
  · intro other own different owns
    have others : own ≠ entry.node := by
      rintro rfl
      refine different (kept.separate other id _ owns ?_)
      rw [stands]
      rfl
    refine ⟨rfl, fun apart => ⟨?_, Function.update_of_ne ?_ _ _⟩, fun unreturned => unreturned⟩
    · rw [nodes_append dummy state _ entry rfl, List.mem_append, List.mem_singleton]
      exact fun either => either.elim apart others
    · rintro rfl
      obtain ⟨same, equal, inside⟩ := found
      exact apart (Option.some.inj equal ▸ List.mem_of_getElem? inside)
  · refine ⟨place, found.later grown, entry.node, rfl, ?_⟩
    rw [nodes_append dummy state _ entry rfl, kept.heap.next_none found ends,
      ← nodes_length dummy state]
    exact List.getElem?_concat_length
  · intro other own _ mine
    cases mine
  · intro other member
    obtain ⟨linked, taken⟩ := kept.origin other member
    exact ⟨List.mem_append_left _ linked, taken⟩

/-- A thread clears the node that it has taken and returns the item. -/
theorem Invariant.clear (kept : Invariant dummy state last) (id : Id) (first : Node) (item : Item)
    (stands : state.threads id = .clear first item) :
    Steps dummy state last { ConcurrentLinkedQueue.answer state id (.got ⟨first, item⟩) with
      item := Function.update state.item first none } := by
  have claimed : Claimed state ⟨first, item⟩ := by
    have fact := kept.facts id
    rwa [stands] at fact
  have longer : returned { ConcurrentLinkedQueue.answer state id (.got ⟨first, item⟩) with
      item := Function.update state.item first none } = returned state ++ [⟨first, item⟩] := by
    simp only [returned, ConcurrentLinkedQueue.answer, List.filterMap_append]
    rfl
  refine kept.update _ last id _ rfl ?_ ?_ ?_ trivial ?_ ?_ ?_
  · refine { kept.heap with filled := ?_ }
    intro place other stored untaken
    have different : other.node ≠ first := by
      rintro rfl
      exact Nat.not_lt_of_le untaken (kept.heap.taken_before stored claimed.taken)
    dsimp only
    rw [Function.update_of_ne different]
    exact kept.heap.filled place other stored untaken
  · exact ⟨List.prefix_rfl, List.prefix_rfl, List.prefix_rfl, Nat.le_refl last,
      fun _ made => made⟩
  · intro other own different owns
    have others : own ≠ first := by
      rintro rfl
      refine different (kept.separate other id _ owns ?_)
      rw [stands]
      rfl
    refine ⟨Function.update_of_ne others _ _, fun apart => ⟨apart, rfl⟩, fun unreturned => ?_⟩
    rw [longer, List.map_append, List.mem_append, List.map_singleton, List.mem_singleton]
    exact fun either => either.elim unreturned others
  · intro other own _ mine
    cases mine
  · intro other member
    rw [longer, List.mem_append, List.mem_singleton] at member
    rcases member with old | rfl
    · exact kept.origin other old
    · exact ⟨claimed.linked, claimed.taken⟩
  · rw [longer, List.map_append, List.map_singleton, ← List.concat_eq_append]
    exact kept.once.concat claimed.unreturned

variable {id : Id} {action : Action Id Node Item}

omit [DecidableEq Id] in
theorem exchangeTail_threads (t desired : Option Node) :
    (exchangeTail state t desired).threads = state.threads := by
  unfold exchangeTail
  split <;> rfl

omit [DecidableEq Id] in
theorem exchangeTail_answers (t desired : Option Node) :
    (exchangeTail state t desired).answers = state.answers := by
  unfold exchangeTail
  split <;> rfl

/-- Every step of `enqueue` keeps the invariant. -/
theorem enqueueStep_steps (kept : Invariant dummy state last) {after : State Id Node Item}
    (stepped : enqueueStep state id (state.threads id) = some after) :
    Steps dummy state last after := by
  have fact := kept.facts id
  have own := kept.move id
  cases stands : state.threads id with rw [stands] at fact stepped own
  | enqueueTail =>
    cases stepped
    exact own _ ⟨fact, last, Nat.le_refl last, kept.heap.tail⟩ fun _ mine => mine
  | enqueueNext _ t =>
    obtain ⟨fresh, place, near, found⟩ := fact
    cases t with
    | none =>
      obtain ⟨node, null, -⟩ := found
      cases null
    | some =>
      cases stepped
      exact own _ ⟨fresh, place, near, found, kept.heap.next_at found⟩ fun _ mine => mine
  | enqueueCheck _ _ s =>
    obtain ⟨fresh, place, near, found, seen⟩ := fact
    dsimp only [enqueueStep] at stepped
    split at stepped
    · cases s with
      | none =>
        cases stepped
        exact own _ ⟨fresh, place, near, found⟩ fun _ mine => mine
      | some node =>
        cases stepped
        exact own _ ⟨fresh, place, found, seen.resolve_left (Option.some_ne_none node)⟩
          fun _ mine => mine
    · cases stepped
      exact own _ fresh fun _ mine => mine
  | link entry t =>
    dsimp only [enqueueStep] at stepped
    split at stepped <;> cases stepped
    · rename_i ends
      exact kept.link id entry t stands ends
    · exact own _ fact.1 fun _ mine => mine
  | swing =>
    obtain ⟨place, found, linked⟩ := fact
    cases stepped
    apply (kept.exchange _ _ place found linked).trans
    intro beyond _ moved
    exact moved.answer id (.put true) nofun
  | enqueueHelp entry t s =>
    obtain ⟨fresh, place, found, linked⟩ := fact
    cases stepped
    apply (kept.exchange _ _ place found linked).trans
    intro beyond grown moved
    have fact := moved.facts id
    rw [exchangeTail_threads, stands] at fact
    refine moved.move id _ fact.1 fun node mine => ?_
    rw [exchangeTail_threads, stands]
    exact mine
  | _ => cases stepped

/-- Every step of `dequeue` and `first` keeps the invariant. -/
theorem readStep_steps (kept : Invariant dummy state last) {after : State Id Node Item}
    (stepped : readStep state id (state.threads id) = some after) :
    Steps dummy state last after := by
  have fact := kept.facts id
  have own := kept.move id
  have plain (position : Position Node Item) (fact : Fact dummy state last position)
      (nothing : owned position = none) : Steps dummy state last (move state id position) := by
    apply own position fact
    intro node mine
    rw [nothing] at mine
    cases mine
  cases stands : state.threads id with rw [stands] at fact stepped own
  | loadHead =>
    cases stepped
    exact plain _ ⟨_, Nat.le_refl _, kept.heap.head⟩ rfl
  | loadTail =>
    obtain ⟨place, reached, found⟩ := fact
    cases stepped
    exact plain _ ⟨place, reached, found, last, Nat.le_refl last,
      Nat.le_trans reached kept.heap.behind, kept.heap.tail⟩ rfl
  | loadNext _ h =>
    obtain ⟨place, reached, found, behind, near, ordered, tail⟩ := fact
    cases h with
    | none =>
      obtain ⟨node, null, -⟩ := found
      cases null
    | some =>
      cases stepped
      refine plain _ ⟨place, reached, found, behind, near, ordered, tail, ?_⟩ rfl
      rcases Nat.lt_or_eq_of_le ordered with before | same
      · exact Or.inl (kept.heap.next_within found (Nat.lt_of_lt_of_le before near))
      · exact (kept.heap.next_at found).symm.imp_right fun ends => ⟨ends, same⟩
  | check purpose _ _ first =>
    obtain ⟨place, reached, found, behind, near, ordered, tail, seen⟩ := fact
    dsimp only [readStep] at stepped
    split at stepped
    · split at stepped
      · rename_i current same
        cases first with
        | none =>
          cases stepped
          apply kept.answer id (nothing purpose)
          intro entry equal
          cases purpose <;> cases equal
        | some node =>
          cases stepped
          have linked := seen.resolve_right fun null => Option.some_ne_none node null.1
          exact plain _ ⟨place, same ▸ found, linked⟩ rfl
      · rename_i current different
        have apart : place ≠ behind := by
          rintro rfl
          obtain ⟨node, here, inside⟩ := found
          obtain ⟨other, there, again⟩ := tail
          rw [inside] at again
          exact different (here.trans (again.trans there.symm))
        have linked := seen.resolve_right fun null => apart null.2
        have before : place < last := by omega
        cases purpose <;> cases stepped <;> exact plain _ ⟨place, before, found, linked⟩ rfl
    · cases stepped
      exact plain _ trivial rfl
  | help =>
    obtain ⟨place, found, linked⟩ := fact
    cases stepped
    apply (kept.exchange _ _ place found linked).trans
    intro beyond _ moved
    exact moved.move id _ trivial nofun
  | advance h first =>
    dsimp only [readStep] at stepped
    split at stepped <;> cases stepped
    · rename_i current
      exact kept.advance id h first stands current
    · exact plain _ trivial rfl
  | take =>
    obtain ⟨entry, rfl, claimed⟩ := fact
    dsimp only [readStep] at stepped
    rw [claimed.filled] at stepped
    cases stepped
    exact own _ claimed fun _ mine => mine
  | clear first item =>
    cases stepped
    exact kept.clear id first item stands
  | peek =>
    obtain ⟨place, before, found, linked⟩ := fact
    obtain ⟨entry, rfl, stored⟩ := linked_at linked
    dsimp only [readStep] at stepped
    split at stepped <;> cases stepped
    · exact kept.answer id (.empty false) nofun
    · rename_i cleared
      refine plain _ ⟨place, Nat.lt_of_not_le fun untaken => ?_, found⟩ rfl
      rw [kept.heap.filled place entry stored untaken] at cleared
      cases cleared
  | skip h =>
    obtain ⟨place, passed, found⟩ := fact
    have moved : state.head ≠ some h := by
      intro current
      exact Nat.ne_of_lt passed (kept.heap.place_unique found (current ▸ kept.heap.head))
    dsimp only [readStep] at stepped
    rw [if_neg moved] at stepped
    cases stepped
    exact plain _ trivial rfl
  | _ => cases stepped

/-- Every step keeps the invariant. -/
theorem step_steps (kept : Invariant dummy state last) {after : State Id Node Item}
    (stepped : step state action = some after) :
    Steps dummy state last after := by
  cases action with dsimp only [step] at stepped
  | enqueue id _ node =>
    split at stepped
    · cases stepped
      exact kept.answer id (.put false) nofun
    · split at stepped <;> cases stepped
      rename_i unused
      exact kept.allocate id _ node unused
    · cases stepped
  | dequeue id | empty id =>
    split at stepped <;> cases stepped
    exact kept.move id _ trivial nofun
  | proceed =>
    split at stepped
    · rename_i moved
      cases stepped
      exact enqueueStep_steps kept moved
    · exact readStep_steps kept stepped

omit [DecidableEq Id] [DecidableEq Node] in
/-- The queue of the constructor. -/
theorem start_invariant (dummy : Node) :
    Invariant dummy (start dummy : State Id Node Item) 0 where
  heap :=
    { distinct := List.nodup_singleton dummy
      links := by
        intro place node inside
        exact (List.getElem?_eq_none (Nat.le_add_left 1 place)).symm
      head := ⟨dummy, rfl, rfl⟩
      tail := ⟨dummy, rfl, rfl⟩
      behind := Nat.le_refl 0
      order := List.prefix_rfl
      filled := by
        intro place entry stored
        cases stored
      made := fun node inside => inside }
  facts := fun _ => trivial
  separate := by
    intro id other node owns
    cases owns
  origin := by
    intro entry member
    cases member
  once := List.nodup_nil

omit [DecidableEq Id] [DecidableEq Node] in
/-- The invariant makes the queue a first-in first-out one. -/
theorem Invariant.fifo (kept : Invariant dummy state last) : Fifo state where
  chain := by
    obtain ⟨first, head, front⟩ := kept.heap.head
    obtain ⟨final, tail, inside⟩ := kept.heap.tail
    refine ⟨(nodes dummy state).drop state.taken.length, ?_, final, ?_, tail⟩
    · rw [head, ← front]
      exact Chains.chain_drop kept.heap.links state.taken.length
    · apply List.mem_of_getElem? (i := last - state.taken.length)
      rw [List.getElem?_drop, Nat.add_sub_cancel' kept.heap.behind]
      exact inside
  order := kept.heap.order
  distinct := (List.nodup_cons.mp kept.heap.distinct).2
  origin := kept.origin
  once := kept.once
  safe := by
    intro id fault
    have fact := kept.facts id
    rw [fault] at fact
    exact fact

/-- A thread that is about to compare a next-pointer with null. -/
def compares : Position Node Item → Bool
  | .check _ _ _ _ => true
  | _ => false

/-- What a step does to its thread and to the answers: a next-pointer is compared only after it
was loaded, and null is returned only after the second load of `m_head`. -/
structure Effect (state after : State Id Node Item) (id : Id) (position : Position Node Item) :
    Prop where
  threads : after.threads = Function.update state.threads id position
  loaded : ∀ purpose h t first, position = .check purpose h t first →
    state.threads id = .loadNext purpose (some h) t ∧
      after = ConcurrentLinkedQueue.move state id position ∧ first = state.next h
  answers : after.answers = state.answers ∨
    ∃ result, after.answers = state.answers ++ [(id, result)] ∧ (result = .null →
      ∃ h t, state.threads id = .check .dequeue h t none ∧ state.head = some h)

omit [DecidableEq Node] in
/-- A step that returns from no call and compares no next-pointer. -/
theorem Effect.silent {next after : State Id Node Item} (id : Id) (position : Position Node Item)
    (stepped : some next = some after)
    (threads : next.threads = Function.update state.threads id position)
    (answers : next.answers = state.answers) (unread : compares position = false) :
    ∃ position, Effect state after id position := by
  cases stepped
  refine ⟨position, threads, ?_, Or.inl answers⟩
  rintro purpose h t first rfl
  cases unread

omit [DecidableEq Node] in
/-- A step that returns something other than null. -/
theorem Effect.returns {next after : State Id Node Item} (id : Id) (result : Answer Node Item)
    (stepped : some next = some after)
    (threads : next.threads = Function.update state.threads id .idle)
    (answers : next.answers = state.answers ++ [(id, result)]) (other : result ≠ .null) :
    ∃ position, Effect state after id position := by
  cases stepped
  refine ⟨.idle, threads, ?_, Or.inr ⟨result, answers, fun null => absurd null other⟩⟩
  intro purpose h t first equal
  cases equal

theorem Effect.exchange {after : State Id Node Item} (id : Id) (t desired : Option Node)
    (position : Position Node Item)
    (stepped : some (move (exchangeTail state t desired) id position) = some after)
    (unread : compares position = false) : ∃ position, Effect state after id position := by
  apply Effect.silent id position stepped _ _ unread
  · exact congrArg (Function.update · id position) (exchangeTail_threads t desired)
  · exact exchangeTail_answers t desired

/-- What a step of `enqueue` does. -/
theorem enqueueStep_effect {after : State Id Node Item}
    (stepped : enqueueStep state id (state.threads id) = some after) :
    ∃ position, Effect state after id position := by
  cases stands : state.threads id with rw [stands] at stepped
  | enqueueTail => exact Effect.silent id _ stepped rfl rfl rfl
  | enqueueNext _ t => cases t <;> exact Effect.silent id _ stepped rfl rfl rfl
  | enqueueCheck | link =>
    dsimp only [enqueueStep] at stepped
    repeat' split at stepped
    all_goals exact Effect.silent id _ stepped rfl rfl rfl
  | swing entry t =>
    refine Effect.returns id (.put true) stepped ?_ ?_ ?_
    · exact congrArg (Function.update · id .idle)
        (exchangeTail_threads (some t) (some entry.node))
    · exact congrArg (· ++ [(id, .put true)])
        (exchangeTail_answers (some t) (some entry.node))
    · intro equal
      cases equal
  | enqueueHelp => exact Effect.exchange id _ _ _ stepped rfl
  | _ => cases stepped

/-- What a step of `dequeue` or `first` does. -/
theorem readStep_effect {after : State Id Node Item}
    (stepped : readStep state id (state.threads id) = some after) :
    ∃ position, Effect state after id position := by
  cases stands : state.threads id with rw [stands] at stepped
  | loadHead | loadTail | skip => exact Effect.silent id _ stepped rfl rfl rfl
  | loadNext _ h =>
    cases h with
    | none => exact Effect.silent id _ stepped rfl rfl rfl
    | some =>
      cases stepped
      refine ⟨_, rfl, ?_, Or.inl rfl⟩
      intro purpose h t first equal
      cases equal
      exact ⟨stands, rfl, rfl⟩
  | check purpose h t first =>
    dsimp only [readStep] at stepped
    split at stepped
    · rename_i current
      split at stepped
      · split at stepped
        · cases stepped
          refine ⟨.idle, rfl, ?_, Or.inr ⟨nothing purpose, rfl, ?_⟩⟩
          · intro purpose h t first equal
            cases equal
          · intro null
            cases purpose with
            | dequeue => exact ⟨h, t, stands, current⟩
            | first => cases null
        · exact Effect.silent id _ stepped rfl rfl rfl
      · split at stepped <;> exact Effect.silent id _ stepped rfl rfl rfl
    · exact Effect.silent id _ stepped rfl rfl rfl
  | help => exact Effect.exchange id _ _ _ stepped rfl
  | advance =>
    dsimp only [readStep] at stepped
    split at stepped <;> exact Effect.silent id _ stepped rfl rfl rfl
  | take first =>
    cases first with
    | none => exact Effect.silent id _ stepped rfl rfl rfl
    | some =>
      dsimp only [readStep] at stepped
      split at stepped <;> exact Effect.silent id _ stepped rfl rfl rfl
  | clear first item => exact Effect.returns id (.got ⟨first, item⟩) stepped rfl rfl (by simp)
  | peek _ first =>
    cases first with
    | none => exact Effect.silent id _ stepped rfl rfl rfl
    | some =>
      dsimp only [readStep] at stepped
      split at stepped
      · exact Effect.returns id (.empty false) stepped rfl rfl (by simp)
      · exact Effect.silent id _ stepped rfl rfl rfl
  | _ => cases stepped

/-- What a step does. -/
theorem step_effect {after : State Id Node Item} (stepped : step state action = some after) :
    ∃ id position, Effect state after id position := by
  cases action with dsimp only [step] at stepped
  | enqueue id =>
    split at stepped
    · exact ⟨id, Effect.returns id (.put false) stepped rfl rfl (by simp)⟩
    · split at stepped
      · cases stepped
      · exact ⟨id, Effect.silent id _ stepped rfl rfl rfl⟩
    · cases stepped
  | dequeue id | empty id =>
    split at stepped
    · exact ⟨id, Effect.silent id _ stepped rfl rfl rfl⟩
    · cases stepped
  | proceed id =>
    split at stepped
    · cases stepped
      exact ⟨id, enqueueStep_effect ‹_›⟩
    · exact ⟨id, readStep_effect stepped⟩

/-- A reader that has loaded a null next-pointer knows that `m_head` has passed its node. -/
def Passed (dummy : Node) (state : State Id Node Item) (id : Id) : Prop :=
  ∀ purpose h t, state.threads id = .check purpose h t none →
    ∃ place < state.taken.length, At dummy state (some h) place

/-- After each step this is so, or the queue is empty at that instant. -/
theorem step_passed (kept : Invariant dummy state last) (passed : Passed dummy state id)
    {after : State Id Node Item} (stepped : step state action = some after) :
    Passed dummy after id ∨ held after = [] := by
  obtain ⟨beyond, grown, -⟩ := step_steps kept stepped
  obtain ⟨other, position, effect⟩ := step_effect stepped
  by_cases mine : other = id
  · subst mine
    cases compared : compares position with
    | false =>
      left
      intro purpose h t stands
      rw [effect.threads, Function.update_self] at stands
      rw [stands] at compared
      cases compared
    | true =>
      cases position with
      | check purpose h t first =>
        obtain ⟨stands, rfl, loaded⟩ := effect.loaded purpose h t first rfl
        have fact := kept.facts other
        rw [stands] at fact
        obtain ⟨place, reached, found, -⟩ := fact
        rcases Nat.lt_or_eq_of_le reached with before | current
        · left
          intro _ _ _ now
          rw [effect.threads, Function.update_self] at now
          obtain ⟨-, rfl, -, -⟩ := Position.check.inj now
          exact ⟨place, before, found⟩
        · cases first with
          | none =>
            right
            have final := kept.heap.next_none found loaded.symm
            exact List.drop_eq_nil_of_le (Nat.le_of_eq (final.symm.trans current))
          | some =>
            left
            intro _ _ _ now
            rw [effect.threads, Function.update_self] at now
            cases now
      | _ => cases compared
  · left
    intro purpose h t stands
    rw [effect.threads, Function.update_of_ne (Ne.symm mine)] at stands
    obtain ⟨place, before, found⟩ := passed purpose h t stands
    exact ⟨place, Nat.lt_of_lt_of_le before grown.taken.length_le, found.later grown⟩

/-- Null is not returned to a reader whose node `m_head` has passed. -/
theorem null_unpassed (kept : Invariant dummy state last) {after : State Id Node Item}
    (stepped : step state action = some after)
    (null : after.answers = state.answers ++ [(id, .null)]) : ¬ Passed dummy state id := by
  intro passed
  obtain ⟨other, position, effect⟩ := step_effect stepped
  rcases effect.answers with same | ⟨result, returns, reads⟩
  · have longer := congrArg List.length (same.symm.trans null)
    rw [List.length_append] at longer
    exact absurd longer (Nat.ne_of_lt (Nat.lt_succ_self _))
  · have last := List.append_cancel_left (returns.symm.trans null)
    obtain ⟨rfl, rfl⟩ := Prod.mk.inj (List.cons.inj last).1
    obtain ⟨h, t, stands, current⟩ := reads rfl
    obtain ⟨place, before, found⟩ := passed _ h t stands
    exact Nat.ne_of_lt before (kept.heap.place_unique found (current ▸ kept.heap.head))

theorem continues (dummy : Node) (id : Id) (state : State Id Node Item)
    (action : Action Id Node Item) (after : State Id Node Item)
    (before : (∃ last, Invariant dummy state last) ∧ Passed dummy state id)
    (stepped : step state action = some after) :
    (∃ last, Invariant dummy after last) ∧ Passed dummy after id ∨ held after = [] := by
  obtain ⟨⟨last, kept⟩, passed⟩ := before
  obtain ⟨beyond, -, later⟩ := step_steps kept stepped
  exact (step_passed kept passed stepped).imp_left fun still => ⟨⟨beyond, later⟩, still⟩

theorem called_passed (dummy : Node) {state after : State Id Node Item}
    (stepped : step state (.dequeue id) = some after) : Passed dummy after id := by
  intro purpose h t stands
  dsimp only [step] at stepped
  split at stepped <;> cases stepped
  simp only [move, Function.update_self] at stands
  cases stands

/-- Every run reaches a state of the invariant. -/
theorem run_reaches {dummy : Node} {schedule : List (Action Id Node Item)}
    {final : State Id Node Item}
    (executed : Runs.run step (start dummy) schedule = some final) :
    ∃ last, Invariant dummy final last := by
  apply Runs.run_invariant step (fun state => ∃ last, Invariant dummy state last) _ _ final
    schedule ⟨0, start_invariant dummy⟩ executed
  rintro state action next ⟨last, kept⟩ stepped
  obtain ⟨beyond, -, after⟩ := step_steps kept stepped
  exact ⟨beyond, after⟩

/-- In every run with any number of threads the queue is a first-in first-out one, and when
the last step returns null from a `dequeue`, the queue held no item at some instant between the
call and that step. -/
theorem run_fifo (dummy : Node) (schedule : List (Action Id Node Item))
    (final : State Id Node Item)
    (executed : Runs.run step (start dummy) schedule = some final) :
    Fifo final ∧
      ∀ before during action id called waiting,
        schedule = before ++ .dequeue id :: (during ++ [action]) →
        Runs.run step (start dummy) (before ++ [.dequeue id]) = some called →
        Runs.run step called during = some waiting →
        final.answers = waiting.answers ++ [(id, .null)] →
        Runs.Visits step (fun state => held state = []) called during := by
  constructor
  · obtain ⟨last, kept⟩ := run_reaches executed
    exact kept.fifo
  · rintro before during action id called waiting rfl calls waits null
    obtain ⟨last, kept⟩ := run_reaches calls
    have fresh : Passed dummy called id := by
      obtain ⟨opened, -, single⟩ := Runs.run_split step _ called before _ calls
      obtain ⟨next, stepped, rest⟩ := (Runs.run_cons step opened called _ []).mp single
      obtain rfl := Option.some.inj rest
      exact called_passed dummy stepped
    have stepped : step waiting action = some final := by
      rw [← List.singleton_append, ← List.append_assoc,
        Runs.run_append step _ called _ _ calls,
        Runs.run_append step _ waiting _ _ waits] at executed
      obtain ⟨next, stepped, rest⟩ := (Runs.run_cons step waiting final action []).mp executed
      obtain rfl := Option.some.inj rest
      exact stepped
    rcases Runs.run_visits step
        (fun state => (∃ last, Invariant dummy state last) ∧ Passed dummy state id)
        (fun state => held state = []) (continues dummy id) called waiting during
        (Or.inl ⟨⟨last, kept⟩, fresh⟩) waits with ⟨⟨later, holds⟩, passed⟩ | visits
    · exact absurd passed (null_unpassed holds stepped null)
    · exact visits

end

/-- Thread 0 links the item 7 and is late with `m_tail`; thread 1 moves `m_tail` on and takes
the item. -/
def lateTail : List (Action Nat Nat Nat) :=
  .enqueue 0 (some 7) 1 :: List.replicate 4 (.proceed 0) ++
    (.dequeue 1 :: List.replicate 12 (.proceed 1) ++ [.proceed 0])

/-- Thread 1 then calls `dequeue` again; before its check nothing more has been answered. -/
theorem lateTail_waits :
    (Runs.run step (start 0) (lateTail ++ .dequeue 1 :: List.replicate 3 (.proceed 1))).map
      State.answers = some [(1, .got ⟨1, 7⟩), (0, .put true)] := by
  decide +kernel

theorem lateTail_answers :
    (Runs.run step (start 0)
      (lateTail ++ .dequeue 1 :: (List.replicate 3 (.proceed 1) ++ [.proceed 1]))).map
      State.answers = some [(1, .got ⟨1, 7⟩), (0, .put true), (1, .null)] := by
  decide +kernel

/-- The item is returned, and then null from the empty queue. -/
theorem run_fifo_late_tail :
    ∃ final called waiting : State Nat Nat Nat,
      Runs.run step (start 0)
        (lateTail ++ .dequeue 1 :: (List.replicate 3 (.proceed 1) ++ [.proceed 1])) = some final ∧
      Runs.run step (start 0) (lateTail ++ [.dequeue 1]) = some called ∧
      Runs.run step called (List.replicate 3 (.proceed 1)) = some waiting ∧
      final.answers = waiting.answers ++ [(1, .null)] ∧
      Fifo final ∧
      Runs.Visits step (fun state => held state = []) called (List.replicate 3 (.proceed 1)) := by
  obtain ⟨final, executed, answered⟩ := Option.map_eq_some_iff.mp lateTail_answers
  obtain ⟨waiting, reaches, unanswered⟩ := Option.map_eq_some_iff.mp lateTail_waits
  obtain ⟨called, calls, waits⟩ := Runs.run_split step (start 0) waiting
    (lateTail ++ [.dequeue 1]) (List.replicate 3 (.proceed 1)) reaches
  have null : final.answers = waiting.answers ++ [(1, .null)] := by
    rw [answered, unanswered]
    rfl
  obtain ⟨fifo, empty⟩ := run_fifo 0 _ final executed
  exact ⟨final, called, waiting, executed, calls, waits, null, fifo,
    empty lateTail _ (.proceed 1) 1 called waiting rfl calls waits null⟩

end Mola.ConcurrentLinkedQueue
