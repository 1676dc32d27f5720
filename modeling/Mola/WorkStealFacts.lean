import Mola.WorkSteal
import Mathlib.Algebra.Order.BigOperators.Group.Multiset
import Mathlib.Tactic.Abel

/-!
# What the threads of the scheduler know

Each thread relies on facts about its own ring, which only it extends, and about the
ring of its victim, of which it holds a snapshot. Other threads can only advance the
head of a ring that they do not own, and both kinds of facts survive that; the owner
can do more, and a snapshot survives that too.

The invariant says that the rings are valid, that every thread has its facts, and
that no task is lost or invented: what was enqueued is what was returned together
with what the rings, the global queue and the threads hold. One lemma reduces its
preservation to the thread that moves and the ring that it touches.
-/

namespace Mola.WorkSteal

open Rings Tallies

universe u v
variable {Item : Type u} {Id : Type v}

/-- The tasks that a thief stores beside the one that it returns are fewer than half a
ring. -/
def FewStolen (capacity : Nat) (temp : List Item) : Prop :=
  0 < temp.length ∧ temp.length < capacity / 2

/-- What a thread knows of its own ring. Positions of a search know that it is empty. -/
def OwnFacts (capacity : Nat) (ring : Buffer Item) : Position Item Id → Prop
  | .idle => True
  | .enqueueHead _ => True
  | .enqueueTail _ head since =>
      Snapshot capacity ring head since 0 [] ∧ ring.added ≤ since + capacity
  | .enqueueWrite _ tail => tail = word ring.added ∧ ring.added < ring.passed + capacity
  | .enqueueStore task tail =>
      tail = word ring.added ∧ ring.added < ring.passed + capacity ∧
        slots capacity ring.content ring.added 1 = [task]
  | .moveCopy _ head since count temp =>
      Snapshot capacity ring head since count temp ∧ ring.added ≤ since + capacity ∧
        count = capacity / 2 ∧ temp.length < count
  | .moveExchange _ head since count temp =>
      Snapshot capacity ring head since count temp ∧ ring.added ≤ since + capacity ∧
        count = capacity / 2 ∧ temp.length = count
  | .moveGlobal _ => True
  | .dequeueHead => True
  | .dequeueTail head since =>
      Snapshot capacity ring head since 0 [] ∧ ring.added ≤ since + capacity
  | .dequeueRead head since =>
      Snapshot capacity ring head since 1 [] ∧ ring.added ≤ since + capacity
  | .dequeueExchange head since task =>
      Snapshot capacity ring head since 1 [task] ∧ ring.added ≤ since + capacity
  | .search => ring.passed = ring.added
  | .globalLoad => ring.passed = ring.added
  | .globalLock => ring.passed = ring.added
  | .grabHead _ => ring.passed = ring.added
  | .grabTail _ _ _ => ring.passed = ring.added
  | .grabCopy _ _ _ _ _ => ring.passed = ring.added
  | .grabExchange _ _ _ _ _ => ring.passed = ring.added
  | .stealHead temp _ => ring.passed = ring.added ∧ FewStolen capacity temp
  | .stealTail temp _ head =>
      ring.passed = ring.added ∧ FewStolen capacity temp ∧ head = word ring.added
  | .stealWrite temp _ tail written =>
      ring.passed = ring.added ∧ FewStolen capacity temp ∧ tail = word (ring.added + written) ∧
        written < temp.length ∧ slots capacity ring.content ring.added written = temp.take written
  | .stealStore temp _ tail =>
      ring.passed = ring.added ∧ FewStolen capacity temp ∧
        tail = word (ring.added + temp.length) ∧
        slots capacity ring.content ring.added temp.length = temp
  | .fault => False

/-- The ring that a thief is at. -/
def victimOf : Position Item Id → Option Id
  | .grabHead victim => some victim
  | .grabTail victim _ _ => some victim
  | .grabCopy victim _ _ _ _ => some victim
  | .grabExchange victim _ _ _ _ => some victim
  | _ => none

/-- What a thief knows of the ring of its victim. -/
def VictimFacts (capacity : Nat) (ring : Buffer Item) : Position Item Id → Prop
  | .grabTail _ head since => Snapshot capacity ring head since 0 []
  | .grabCopy _ head since count temp =>
      Snapshot capacity ring head since count temp ∧ temp.length < count ∧ count ≤ capacity / 2
  | .grabExchange _ head since count temp =>
      Snapshot capacity ring head since count temp ∧ temp.length = count ∧
        0 < count ∧ count ≤ capacity / 2
  | _ => True

/-- A thread keeps its facts when a thief advances the head of its ring. -/
theorem ownFacts_advance {capacity : Nat} {ring : Buffer Item} {position : Position Item Id}
    {count : Nat} (within : ring.passed + count ≤ ring.added)
    (facts : OwnFacts capacity ring position) :
    OwnFacts capacity (advance ring count) position := by
  have change : Change capacity ring (advance ring count) := .advance count within
  have stable := fun head since size copied =>
    snapshot_stable capacity ring _ change head since size copied
  have empty : ring.passed = ring.added → (advance ring count).passed = ring.added := by
    intro none_
    dsimp only [advance]
    omega
  have room : ring.added < ring.passed + capacity →
      ring.added < (advance ring count).passed + capacity := by
    intro free
    dsimp only [advance]
    omega
  cases position with
  | idle | enqueueHead _ | moveGlobal _ | dequeueHead => trivial
  | fault => exact facts
  | enqueueTail | moveCopy | moveExchange | dequeueTail | dequeueRead | dequeueExchange =>
    exact ⟨stable _ _ _ _ facts.1, facts.2⟩
  | enqueueWrite => exact ⟨facts.1, room facts.2⟩
  | enqueueStore => exact ⟨facts.1, room facts.2.1, facts.2.2⟩
  | search | globalLoad | globalLock | grabHead | grabTail | grabCopy | grabExchange =>
    exact empty facts
  | stealHead | stealTail | stealWrite | stealStore => exact ⟨empty facts.1, facts.2⟩

/-- A thief keeps its facts whatever happens to the ring of its victim. -/
theorem victimFacts_change {capacity : Nat} {ring after : Buffer Item}
    (change : Change capacity ring after) {position : Position Item Id}
    (facts : VictimFacts capacity ring position) : VictimFacts capacity after position := by
  have stable := fun head since size copied =>
    snapshot_stable capacity ring _ change head since size copied
  cases position with
  | grabTail => exact stable _ _ _ _ facts
  | grabCopy | grabExchange => exact ⟨stable _ _ _ _ facts.1, facts.2⟩
  | _ => trivial

/-- A thief is at a ring that it does not own, and has its facts. -/
def ForeignFacts (capacity : Nat) (rings : Id → Buffer Item) (id : Id)
    (position : Position Item Id) : Prop :=
  ∀ victim, victimOf position = some victim →
    victim ≠ id ∧ VictimFacts capacity (rings victim) position

theorem foreignFacts_none (capacity : Nat) (rings : Id → Buffer Item) (id : Id)
    {position : Position Item Id} (alone : victimOf position = none) :
    ForeignFacts capacity rings id position := by
  intro victim at_
  rw [alone] at at_
  cases at_

section
variable (task : Item) (victim : Id) (head since count : Nat) (temp : List Item)

theorem victimOf_moving :
    victimOf (moving task head since count temp : Position Item Id) = none := by
  unfold moving
  split <;> rfl

theorem detached_moving :
    detached (moving task head since count temp : Position Item Id) = [] := by
  unfold moving
  split <;> rfl

theorem detached_grabbing :
    detached (grabbing victim head since count temp : Position Item Id) = [] := by
  unfold grabbing
  split <;> rfl

/-- The overflow path goes on with the facts that its copies give it. -/
theorem ownFacts_moving (capacity : Nat) (ring : Buffer Item)
    (snapshot : Snapshot capacity ring head since (capacity / 2) temp)
    (recent : ring.added ≤ since + capacity) :
    OwnFacts capacity ring (moving task head since (capacity / 2) temp : Position Item Id) := by
  have short := snapshot.short
  unfold moving
  split
  next more => exact ⟨snapshot, recent, rfl, more⟩
  next full => exact ⟨snapshot, recent, rfl, by omega⟩

theorem ownFacts_grabbing (capacity : Nat) (ring : Buffer Item)
    (empty : ring.passed = ring.added) :
    OwnFacts capacity ring (grabbing victim head since count temp : Position Item Id) := by
  unfold grabbing
  split <;> exact empty

/-- A thief goes on with the facts that its copies give it. -/
theorem foreignFacts_grabbing (capacity : Nat) (rings : Id → Buffer Item) (id : Id)
    (other : victim ≠ id) (snapshot : Snapshot capacity (rings victim) head since count temp)
    (some_ : 0 < count) (half : count ≤ capacity / 2) :
    ForeignFacts capacity rings id (grabbing victim head since count temp) := by
  have short := snapshot.short
  unfold grabbing
  split
  next more =>
    rintro _ ⟨⟩
    exact ⟨other, snapshot, more, half⟩
  next full =>
    rintro _ ⟨⟩
    exact ⟨other, snapshot, by omega, some_, half⟩

end

section
variable [DecidableEq Id] [Fintype Id]

/-- What was enqueued is what was returned together with what is held. -/
def Balanced (capacity : Nat) (state : State Item Id) : Prop :=
  (state.enqueued : Multiset Item) =
    (state.returned : Multiset Item) +
      tally (fun ring => (items capacity ring : Multiset Item)) state.rings +
      (state.global : Multiset Item) +
      tally (fun position => (detached position : Multiset Item)) state.threads

/-- The rings are valid, the threads know what they rely on, and nothing is lost. -/
structure Invariant (capacity : Nat) (state : State Item Id) : Prop where
  valid : ∀ id, Valid capacity (state.rings id)
  own : ∀ id, OwnFacts capacity (state.rings id) (state.threads id)
  foreign : ∀ id, ForeignFacts capacity state.rings id (state.threads id)
  balanced : Balanced capacity state

/-- A step of one thread at one ring keeps the balance when the tasks that enter with
those in that ring, in the global queue and in the hands of that thread are the tasks
that leave with those that are then in the same places. -/
theorem balanced_touch {capacity : Nat} {state next : State Item Id} {id owner : Id}
    {after : Buffer Item} {position : Position Item Id} {entered gone : List Item}
    (rings : next.rings = Function.update state.rings owner after)
    (threads : next.threads = Function.update state.threads id position)
    (enqueued : next.enqueued = state.enqueued ++ entered)
    (returned : next.returned = state.returned ++ gone)
    (exchange : (entered : Multiset Item) + items capacity (state.rings owner) + state.global +
      detached (state.threads id) =
        gone + items capacity after + next.global + detached position)
    (balanced : Balanced capacity state) : Balanced capacity next := by
  have ringTally := tally_update (fun ring => (items capacity ring : Multiset Item))
    state.rings owner after
  have threadTally := tally_update (fun position => (detached position : Multiset Item))
    state.threads id position
  unfold Balanced at balanced ⊢
  rw [enqueued, returned, rings, threads, ← Multiset.coe_add, ← Multiset.coe_add, balanced]
  generalize tally (fun ring => (items capacity ring : Multiset Item))
    (Function.update state.rings owner after) = ringsAfter at *
  generalize tally (fun position => (detached position : Multiset Item))
    (Function.update state.threads id position) = threadsAfter at *
  generalize tally (fun ring => (items capacity ring : Multiset Item)) state.rings = ringsBefore
    at *
  generalize tally (fun position => (detached position : Multiset Item)) state.threads =
    threadsBefore at *
  -- both sides are compared with the old contents of the touched places added
  apply add_right_cancel (b := (items capacity (state.rings owner) : Multiset Item) +
    state.global + detached (state.threads id))
  calc (state.returned + ringsBefore + state.global + threadsBefore + entered : Multiset Item) +
        (items capacity (state.rings owner) + state.global + detached (state.threads id))
      = state.returned + ringsBefore + state.global + threadsBefore +
          (entered + items capacity (state.rings owner) + state.global +
            detached (state.threads id)) := by abel
    _ = state.returned + ringsBefore + state.global + threadsBefore +
          (gone + items capacity after + next.global + detached position) := by rw [exchange]
    _ = state.returned + gone + (ringsBefore + items capacity after) + next.global +
          (threadsBefore + detached position) + state.global := by abel
    _ = state.returned + gone + (ringsAfter + items capacity (state.rings owner)) + next.global +
          (threadsAfter + detached (state.threads id)) + state.global := by
        rw [← ringTally, ← threadTally]
    _ = state.returned + gone + ringsAfter + next.global + threadsAfter +
          (items capacity (state.rings owner) + state.global +
            detached (state.threads id)) := by abel

/-- A step of one thread at one ring keeps the invariant when it changes that ring as
owners and thieves may, establishes the facts of its new position, and keeps the
balance. -/
theorem invariant_touch {capacity : Nat} {state next : State Item Id} {id owner : Id}
    {after : Buffer Item} {position : Position Item Id} (entered gone : List Item)
    (invariant : Invariant capacity state)
    (rings : next.rings = Function.update state.rings owner after)
    (threads : next.threads = Function.update state.threads id position)
    (enqueued : next.enqueued = state.enqueued ++ entered)
    (returned : next.returned = state.returned ++ gone)
    (change : Change capacity (state.rings owner) after)
    (stolen : owner ≠ id → ∃ count, after = advance (state.rings owner) count ∧
      (state.rings owner).passed + count ≤ (state.rings owner).added)
    (own : OwnFacts capacity (next.rings id) position)
    (foreign : ForeignFacts capacity next.rings id position)
    (exchange : (entered : Multiset Item) + items capacity (state.rings owner) + state.global +
      detached (state.threads id) =
        gone + items capacity after + next.global + detached position) :
    Invariant capacity next := by
  have changed : ∀ other, Change capacity (state.rings other) (next.rings other) := by
    intro other
    rw [rings]
    by_cases same : other = owner
    · subst same
      rw [Function.update_self]
      exact change
    · rw [Function.update_of_ne same]
      exact .same
  constructor
  · intro other
    exact change_valid capacity _ _ (changed other) (invariant.valid other)
  · intro other
    by_cases moved : other = id
    · subst moved
      rw [threads, Function.update_self]
      exact own
    · rw [threads, Function.update_of_ne moved, rings]
      by_cases same : other = owner
      · subst same
        obtain ⟨count, rfl, within⟩ := stolen moved
        rw [Function.update_self]
        exact ownFacts_advance within (invariant.own other)
      · rw [Function.update_of_ne same]
        exact invariant.own other
  · intro other
    by_cases moved : other = id
    · subst moved
      rw [threads, Function.update_self]
      exact foreign
    · rw [threads, Function.update_of_ne moved]
      intro victim at_
      obtain ⟨different, facts⟩ := invariant.foreign other victim at_
      exact ⟨different, victimFacts_change (changed victim) facts⟩
  · exact balanced_touch rings threads
      enqueued returned exchange invariant.balanced

/-- The case of a thread that changes its own ring and is then at no victim. -/
theorem invariant_own {capacity : Nat} {state next : State Item Id} {id : Id}
    {after : Buffer Item} {position : Position Item Id} (entered gone : List Item)
    (invariant : Invariant capacity state)
    (rings : next.rings = Function.update state.rings id after)
    (threads : next.threads = Function.update state.threads id position)
    (enqueued : next.enqueued = state.enqueued ++ entered)
    (returned : next.returned = state.returned ++ gone)
    (change : Change capacity (state.rings id) after)
    (own : OwnFacts capacity after position) (alone : victimOf position = none)
    (exchange : (entered : Multiset Item) + items capacity (state.rings id) + state.global +
      detached (state.threads id) =
        gone + items capacity after + next.global + detached position) :
    Invariant capacity next := by
  apply invariant_touch entered gone invariant rings threads enqueued returned change
    (fun other => absurd rfl other) _ (foreignFacts_none capacity _ id alone) exchange
  rw [rings, Function.update_self]
  exact own

/-- The case of a thread that only moves and holds the same tasks. -/
theorem invariant_place {capacity : Nat} {state : State Item Id} {id : Id}
    {position before : Position Item Id} (invariant : Invariant capacity state)
    (stands : state.threads id = before) (held : detached position = detached before)
    (own : OwnFacts capacity (state.rings id) position)
    (foreign : ForeignFacts capacity state.rings id position) :
    Invariant capacity (place state id position) := by
  refine invariant_touch [] [] invariant (Function.update_eq_self id state.rings).symm rfl
    (List.append_nil _).symm (List.append_nil _).symm .same (fun other => absurd rfl other) own
    foreign ?_
  rw [held, stands]
  rfl

/-- It is then at no victim. -/
theorem invariant_rest {capacity : Nat} {state : State Item Id} {id : Id}
    {position before : Position Item Id} (invariant : Invariant capacity state)
    (stands : state.threads id = before) (held : detached position = detached before)
    (alone : victimOf position = none) (own : OwnFacts capacity (state.rings id) position) :
    Invariant capacity (place state id position) :=
  invariant_place invariant stands held own (foreignFacts_none capacity _ id alone)

/-- Or at one whose ring it does not own. -/
theorem invariant_grab {capacity : Nat} {state : State Item Id} {id victim : Id}
    {position before : Position Item Id} (invariant : Invariant capacity state)
    (stands : state.threads id = before) (held : detached position = detached before)
    (at_ : victimOf position = some victim) (own : OwnFacts capacity (state.rings id) position)
    (other : victim ≠ id) (facts : VictimFacts capacity (state.rings victim) position) :
    Invariant capacity (place state id position) := by
  refine invariant_place invariant stands held own fun found same => ?_
  cases at_.symm.trans same
  exact ⟨other, facts⟩

end

end Mola.WorkSteal
