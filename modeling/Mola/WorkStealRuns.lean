import Mola.Runs
import Mola.WorkStealFacts

/-!
# Runs of the work-stealing scheduler

Every step of every thread keeps the invariant, so it holds at the end of every run,
with any number of threads and however the counters wrap. It gives the balance of
tasks, the bound on the rings, and that no thread reaches the fault position: every
index into a temporary array is within its size and the assertion of `__steal` holds.

The owner of a ring needs no assumption for its exchanges, since at most one capacity
of items can leave its ring while it does not extend it. A thief needs one: fewer than
2^32 items leave the ring between its load of the head and its exchange.
-/

namespace Mola.WorkSteal

open Rings Tallies

universe u v
variable {Item : Type u} {Id : Type v} [DecidableEq Id] [Fintype Id]

section
variable (capacity : Nat) (divides : capacity ∣ 2 ^ 32) (small : capacity < 2 ^ 32)

include divides small

variable (state : State Item Id) (position : Position Item Id)

/-- A step of `enqueue` keeps the invariant. -/
theorem enqueueStep_invariant (next : State Item Id) (id : Id) (position : Position Item Id)
    (stands : state.threads id = position) (invariant : Invariant capacity state)
    (taken : enqueueStep capacity state id position = some next) : Invariant capacity next := by
  have valid := invariant.valid id
  have ordered := valid.ordered
  have bounded := valid.bounded
  have facts := invariant.own id
  rw [stands] at facts
  cases position with
  | enqueueHead =>
    cases taken
    exact invariant_rest invariant stands rfl rfl ⟨snapshot_load capacity _ valid, bounded⟩
  | enqueueTail _ head since =>
    obtain ⟨snapshot, recent⟩ := facts
    have past := snapshot.past
    have measured : distance head (state.rings id).tail = (state.rings id).added - since := by
      rw [snapshot.loaded, valid.tail, distance_word _ _ (by omega) (by omega)]
    dsimp only [enqueueStep] at taken
    split at taken
    next free =>
      cases taken
      exact invariant_rest invariant stands rfl rfl ⟨valid.tail, by omega⟩
    next full =>
      cases taken
      have half : distance head (state.rings id).tail / 2 = capacity / 2 := by
        rw [measured]
        congr 1
        omega
      refine invariant_rest invariant stands (detached_moving ..) (victimOf_moving ..) ?_
      rw [half]
      apply ownFacts_moving _ _ _ _ _ _ _ recent
      apply snapshot_measure capacity small _ valid _ _ _ snapshot
      omega
  | enqueueWrite task =>
    cases taken
    obtain ⟨rfl, free⟩ := facts
    rw [write_word capacity divides]
    refine invariant_own [] [] invariant rfl rfl (List.append_nil _).symm
      (List.append_nil _).symm (.write _ task (Nat.le_refl _) free) ?_ rfl ?_
    · refine ⟨rfl, free, ?_⟩
      simp [slots, write]
    · rw [items_write capacity divides small _ valid _ _ (Nat.le_refl _) free, stands]
      rfl
  | enqueueStore task =>
    cases taken
    obtain ⟨rfl, free, written⟩ := facts
    rw [word_add]
    refine invariant_own [task] [] invariant rfl rfl rfl
      (List.append_nil _).symm (.extend _ 1 rfl free) trivial rfl ?_
    rw [items_extend capacity divides small _ valid _ 1 rfl free, written, stands,
      ← Multiset.coe_add]
    dsimp only [touch, detached, Multiset.coe_nil]
    abel
  | moveCopy =>
    obtain ⟨snapshot, recent, rfl, more⟩ := facts
    dsimp only [enqueueStep] at taken
    rw [if_pos (by omega)] at taken
    cases taken
    exact invariant_rest invariant stands (detached_moving ..) (victimOf_moving ..)
      (ownFacts_moving _ _ _ _ _ _ (snapshot_copy capacity divides _ _ _ _ _ snapshot more) recent)
  | moveExchange task =>
    obtain ⟨snapshot, recent, rfl, full⟩ := facts
    have past := snapshot.past
    dsimp only [enqueueStep] at taken
    split at taken
    next exchanged =>
      obtain ⟨within, removed⟩ := snapshot_exchange capacity divides small _ valid _ _ _ _
        snapshot full (by omega) exchanged
      rw [if_pos (by omega)] at taken
      cases taken
      refine invariant_own [task] [] invariant rfl rfl rfl
        (List.append_nil _).symm (.advance _ within) trivial rfl ?_
      rw [removed, stands, ← Multiset.coe_add]
      dsimp only [touch, detached, Multiset.coe_nil]
      rw [← Multiset.coe_add]
      abel
    next lost =>
      cases taken
      exact invariant_rest invariant stands rfl rfl trivial
  | moveGlobal =>
    cases taken
    refine invariant_own [] [] invariant
      (Function.update_eq_self id state.rings).symm rfl (List.append_nil _).symm
      (List.append_nil _).symm .same trivial rfl ?_
    rw [stands]
    dsimp only [place, detached, Multiset.coe_nil]
    rw [← Multiset.coe_add]
    abel
  | _ => cases taken

/-- A step of `dequeue` or of `global_dequeue` keeps the invariant. -/
theorem dequeueStep_invariant (next : State Item Id) (id : Id) (position : Position Item Id)
    (stands : state.threads id = position) (invariant : Invariant capacity state)
    (taken : dequeueStep capacity state id position = some next) : Invariant capacity next := by
  have valid := invariant.valid id
  have ordered := valid.ordered
  have bounded := valid.bounded
  have facts := invariant.own id
  rw [stands] at facts
  cases position with
  | dequeueHead =>
    cases taken
    exact invariant_rest invariant stands rfl rfl ⟨snapshot_load capacity _ valid, bounded⟩
  | dequeueTail _ since =>
    obtain ⟨snapshot, recent⟩ := facts
    have past := snapshot.past
    dsimp only [dequeueStep] at taken
    split at taken
    next empty =>
      cases taken
      refine invariant_rest invariant stands rfl rfl ?_
      have same : (state.rings id).added = since := by
        apply word_inj since _ (by omega) (by omega)
        rw [← valid.tail, ← empty, snapshot.loaded]
      change (state.rings id).passed = (state.rings id).added
      omega
    next filled =>
      cases taken
      refine invariant_rest invariant stands rfl rfl ?_
      refine ⟨snapshot_measure capacity small _ valid _ _ 1 snapshot ?_, recent⟩
      rw [snapshot.loaded, valid.tail] at filled ⊢
      rw [distance_word _ _ (by omega) (by omega)]
      have different : since ≠ (state.rings id).added := by
        intro same
        exact filled (congrArg word same)
      omega
  | dequeueRead =>
    obtain ⟨snapshot, recent⟩ := facts
    cases taken
    refine invariant_rest invariant stands rfl rfl ?_
    have copied := snapshot_copy capacity divides _ _ _ _ _ snapshot Nat.zero_lt_one
    rw [snapshot.loaded, List.length_nil, Nat.add_zero, word_mod capacity divides] at copied
    rw [snapshot.loaded]
    exact ⟨copied, recent⟩
  | dequeueExchange _ _ task =>
    obtain ⟨snapshot, recent⟩ := facts
    have past := snapshot.past
    dsimp only [dequeueStep] at taken
    split at taken
    next exchanged =>
      cases taken
      obtain ⟨within, removed⟩ := snapshot_exchange capacity divides small _ valid _ _ _ _
        snapshot rfl (by omega) exchanged
      refine invariant_own [] [task] invariant rfl rfl (List.append_nil _).symm
        rfl (.advance _ within) trivial rfl ?_
      rw [removed, stands, ← Multiset.coe_add]
      dsimp only [touch, detached, Multiset.coe_nil]
      abel
    next lost =>
      cases taken
      exact invariant_rest invariant stands rfl rfl trivial
  | globalLoad =>
    dsimp only [dequeueStep] at taken
    split at taken
    all_goals
      cases taken
      exact invariant_rest invariant stands rfl rfl facts
  | globalLock =>
    dsimp only [dequeueStep] at taken
    split at taken
    next none_ =>
      cases taken
      exact invariant_rest invariant stands rfl rfl facts
    next task rest front =>
      cases taken
      refine invariant_own [] [task] invariant
        (Function.update_eq_self id state.rings).symm rfl (List.append_nil _).symm
        rfl .same trivial rfl ?_
      rw [front, stands, ← Multiset.cons_coe]
      dsimp only [place, detached, Multiset.coe_nil, Multiset.coe_singleton]
      rw [← Multiset.singleton_add]
      abel
  | _ => cases taken

omit divides small in
/-- A successful exchange of a thief keeps the invariant: it takes the tasks that it
copied, and its own ring has room for all but the one that it returns. -/
theorem detach_invariant (id victim : Id) (head since count : Nat) (temp : List Item)
    (stands : state.threads id = .grabExchange victim head since count temp)
    (invariant : Invariant capacity state) (other : victim ≠ id) (full : temp.length = count)
    (some_ : 0 < count) (half : count ≤ capacity / 2)
    (within : (state.rings victim).passed + count ≤ (state.rings victim).added)
    (removed : items capacity (state.rings victim) =
      temp ++ items capacity (advance (state.rings victim) count)) :
    Invariant capacity (detach state id victim count temp) := by
  have empty := invariant.own id
  rw [stands] at empty
  have unshared : Function.update state.rings victim (advance (state.rings victim) count) id =
      state.rings id := Function.update_of_ne other.symm _ _
  have inside : count - 1 < temp.length := by omega
  have parts : temp = temp.take (count - 1) ++ [temp[count - 1]] := by
    rw [List.take_append_getElem, Nat.sub_add_cancel some_, ← full, List.take_length]
  unfold detach
  rw [List.getElem?_eq_getElem inside]
  generalize temp[count - 1] = task at parts
  dsimp only
  split
  next only =>
    refine invariant_touch [] [task] invariant rfl rfl
      (List.append_nil _).symm rfl (.advance count within) (fun _ => ⟨count, rfl, within⟩) trivial
      (foreignFacts_none _ _ _ rfl) ?_
    rw [only] at parts
    rw [removed, parts, stands]
    simp [touch, detached, add_comm]
  next several =>
    refine invariant_touch [] [] invariant rfl rfl
      (List.append_nil _).symm (List.append_nil _).symm (.advance count within)
      (fun _ => ⟨count, rfl, within⟩) ?_ (foreignFacts_none _ _ _ rfl) ?_
    · dsimp only [touch]
      rw [unshared]
      refine ⟨empty, ?_⟩
      unfold FewStolen
      rw [List.length_take]
      omega
    · have held : (temp : Multiset Item) =
          (task :: temp.take (count - 1) : List Item) := by
        nth_rewrite 1 [parts]
        exact Multiset.coe_eq_coe.mpr List.perm_append_comm
      rw [removed, stands, ← Multiset.coe_add, held]
      dsimp only [touch, detached, Multiset.coe_nil]
      abel

/-- A step of `__grab` keeps the invariant, when few items have left the ring of the
victim before an exchange. -/
theorem grabStep_invariant (next : State Item Id) (id : Id) (position : Position Item Id)
    (stands : state.threads id = position) (invariant : Invariant capacity state)
    (few : fewPassed state (.proceed id) = true)
    (taken : grabStep capacity state id position = some next) : Invariant capacity next := by
  have facts := invariant.own id
  have foreign := invariant.foreign id
  rw [stands] at facts foreign
  cases position with
  | grabHead victim =>
    obtain ⟨other, _⟩ := foreign victim rfl
    cases taken
    exact invariant_grab invariant stands rfl rfl facts other
      (snapshot_load capacity _ (invariant.valid victim))
  | grabTail victim =>
    obtain ⟨other, snapshot⟩ := foreign victim rfl
    dsimp only [grabStep] at taken
    split at taken
    next none_ =>
      cases taken
      exact invariant_rest invariant stands rfl rfl facts
    next some_ =>
      split at taken
      next many =>
        cases taken
        exact invariant_grab invariant stands rfl rfl facts other trivial
      next half =>
        cases taken
        apply invariant_place invariant stands (detached_grabbing ..)
          (ownFacts_grabbing _ _ _ _ _ _ _ facts)
        apply foreignFacts_grabbing _ _ _ _ _ _ _ _ other _ (by omega) (by omega)
        apply snapshot_measure capacity small _ (invariant.valid victim) _ _ _ snapshot
        omega
  | grabCopy victim =>
    obtain ⟨other, snapshot, more, half⟩ := foreign victim rfl
    dsimp only [grabStep] at taken
    rw [if_pos (by omega)] at taken
    cases taken
    apply invariant_place invariant stands (detached_grabbing ..)
      (ownFacts_grabbing _ _ _ _ _ _ _ facts)
    exact foreignFacts_grabbing _ _ _ _ _ _ _ _ other
      (snapshot_copy capacity divides _ _ _ _ _ snapshot more) (by omega) half
  | grabExchange victim head since count temp =>
    obtain ⟨other, snapshot, full, some_, half⟩ := foreign victim rfl
    dsimp only [grabStep] at taken
    split at taken
    next exchanged =>
      have near : (state.rings victim).passed - since < 2 ^ 32 := by
        simpa only [fewPassed, stands, decide_eq_true_eq] using few
      obtain ⟨within, removed⟩ := snapshot_exchange capacity divides small _
        (invariant.valid victim) _ _ _ _ snapshot full near exchanged
      cases taken
      exact detach_invariant capacity state id victim head since count temp stands invariant other
        full some_ half within removed
    next lost =>
      cases taken
      exact invariant_grab invariant stands rfl rfl facts other trivial
  | _ => cases taken

/-- A step of `__steal` keeps the invariant: the assertion holds because the ring of a
searching thread is empty. -/
theorem stealStep_invariant (next : State Item Id) (id : Id) (position : Position Item Id)
    (stands : state.threads id = position) (invariant : Invariant capacity state)
    (taken : stealStep capacity state id position = some next) : Invariant capacity next := by
  have valid := invariant.valid id
  have facts := invariant.own id
  rw [stands] at facts
  cases position with
  | stealHead =>
    obtain ⟨empty, few⟩ := facts
    cases taken
    exact invariant_rest invariant stands rfl rfl ⟨empty, few, by rw [valid.head, empty]⟩
  | stealTail temp =>
    obtain ⟨empty, few, rfl⟩ := facts
    have count := few.2
    have start : distance (word (state.rings id).added) (state.rings id).tail = 0 := by
      rw [valid.tail, distance_word _ _ (Nat.le_refl _) (by omega), Nat.sub_self]
    have asserted : word (distance (word (state.rings id).added) (state.rings id).tail +
        temp.length) < capacity := by
      rw [start, Nat.zero_add]
      exact Nat.lt_of_le_of_lt (Nat.mod_le _ _) (by omega)
    dsimp only [stealStep] at taken
    rw [if_pos asserted] at taken
    cases taken
    exact invariant_rest invariant stands rfl rfl ⟨empty, few, valid.tail, few.1, rfl⟩
  | stealWrite temp _ _ written =>
    obtain ⟨empty, few, rfl, more, stored⟩ := facts
    have count := few.2
    have free : (state.rings id).added + written < (state.rings id).passed + capacity := by omega
    dsimp only [stealStep] at taken
    rw [List.getElem?_eq_getElem more] at taken
    dsimp only at taken
    rw [write_word capacity divides, word_add] at taken
    cases taken
    generalize item_ : temp[written] = item
    have next_ : slots capacity (write capacity (state.rings id)
        ((state.rings id).added + written) item).content (state.rings id).added (written + 1) =
        temp.take (written + 1) := by
      rw [slots_succ, slots_write capacity _ _ _ _ _ (Nat.le_refl _) (by omega), stored,
        ← List.take_append_getElem more, item_]
      simp [write]
    refine invariant_own [] [] invariant rfl rfl (List.append_nil _).symm
      (List.append_nil _).symm (.write _ _ (Nat.le_add_right _ _) free) ?_ ?_ ?_
    · split
      next further => exact ⟨empty, few, rfl, further, next_⟩
      next last =>
        have whole : written + 1 = temp.length := by omega
        rw [whole, List.take_length] at next_
        exact ⟨empty, few, by rw [Nat.add_assoc, whole]; rfl, next_⟩
    · split <;> rfl
    · rw [items_write capacity divides small _ valid _ _ (Nat.le_add_right _ _) free, stands]
      split <;> rfl
  | stealStore temp task =>
    obtain ⟨empty, few, rfl, stored⟩ := facts
    cases taken
    have count := few.2
    have fits : (state.rings id).added + temp.length ≤ (state.rings id).passed + capacity := by
      omega
    refine invariant_own [] [task] invariant rfl rfl (List.append_nil _).symm
      rfl (.extend _ temp.length rfl fits) trivial rfl ?_
    rw [items_extend capacity divides small _ valid _ temp.length rfl fits, stored, stands,
      ← Multiset.coe_add]
    dsimp only [touch, detached, Multiset.coe_nil, Multiset.coe_singleton]
    rw [← Multiset.cons_coe, ← Multiset.singleton_add]
    abel
  | _ => cases taken

/-- The next step of a thread keeps the invariant. -/
theorem threadStep_invariant (next : State Item Id) (id : Id)
    (invariant : Invariant capacity state) (few : fewPassed state (.proceed id) = true)
    (taken : threadStep capacity state id = some next) : Invariant capacity next := by
  simp only [threadStep, Option.orElse_eq_orElse, Option.orElse_eq_or, Option.or_eq_some_iff]
    at taken
  rcases taken with enqueues | ⟨_, dequeues | ⟨_, grabs | ⟨_, steals⟩⟩⟩
  · exact enqueueStep_invariant capacity divides small state next id _ rfl invariant enqueues
  · exact dequeueStep_invariant capacity divides small state next id _ rfl invariant dequeues
  · exact grabStep_invariant capacity divides small state next id _ rfl invariant few grabs
  · exact stealStep_invariant capacity divides small state next id _ rfl invariant steals

/-- Every step keeps the invariant. -/
theorem step_invariant (action : Action Item Id) (next : State Item Id)
    (invariant : Invariant capacity state) (few : fewPassed state action = true)
    (taken : step capacity state action = some next) :
    Invariant capacity next := by
  cases action with
  | enqueue | dequeue =>
    dsimp only [step] at taken
    split at taken
    next stands =>
      cases taken
      exact invariant_rest invariant stands rfl rfl trivial
    next => cases taken
  | globalDequeue id =>
    have facts := invariant.own id
    dsimp only [step] at taken
    split at taken
    next stands =>
      rw [stands] at facts
      cases taken
      exact invariant_rest invariant stands rfl rfl facts
    next => cases taken
  | steal id =>
    have facts := invariant.own id
    dsimp only [step] at taken
    split at taken
    next stands =>
      rw [stands] at facts
      split at taken
      next => cases taken
      next other =>
        cases taken
        exact invariant_grab invariant stands rfl rfl facts other trivial
    next => cases taken
  | globalEnqueue =>
    cases taken
    refine ⟨invariant.valid, invariant.own, invariant.foreign, ?_⟩
    have balanced := invariant.balanced
    unfold Balanced at balanced ⊢
    rw [← Multiset.coe_add, ← Multiset.coe_add, balanced]
    abel
  | count =>
    dsimp only [step] at taken
    split at taken
    next => cases taken
    next =>
      cases taken
      exact ⟨invariant.valid, invariant.own, invariant.foreign, invariant.balanced⟩
  | proceed id =>
    exact threadStep_invariant capacity divides small state next id invariant few taken

omit [DecidableEq Id] divides small in
/-- The scheduler starts in the invariant. -/
theorem start_invariant (content : Id → Nat → Item) :
    Invariant capacity (start content : State Item Id) := by
  constructor
  · intro id
    exact ⟨rfl, rfl, Nat.le_refl _, Nat.zero_le _⟩
  · intro id
    trivial
  · intro id
    exact foreignFacts_none _ _ _ rfl
  · simp [Balanced, start, tally, items, distance, slots, detached]

end

/-- The account of a state: the tasks enqueued so far are those returned together with
those in the rings, in the global queue and in the arrays that threads have detached;
no task is returned more often than it was enqueued; no ring exceeds its capacity; and
no thread has failed the assertion of `__steal` or indexed a temporary array beyond its
size. -/
structure Accounted (capacity : Nat) (state : State Item Id) : Prop where
  balanced : Balanced capacity state
  once : state.returned.Subperm state.enqueued
  bounded : ∀ id, distance (state.rings id).head (state.rings id).tail ≤ capacity
  safe : ∀ id, state.threads id ≠ .fault

/-- In every run of the scheduler, with any number of threads, every state that is
reached has its account. -/
theorem run_accounted (capacity : Nat) (divides : capacity ∣ 2 ^ 32) (small : capacity < 2 ^ 32)
    (content : Id → Nat → Item) (schedule : List (Action Item Id)) (final : State Item Id)
    (few : Runs.Along (step capacity) (fun state action => fewPassed state action = true)
      (start content) schedule)
    (executed : Runs.run (step capacity) (start content) schedule = some final) :
    Accounted capacity final := by
  have invariant : Invariant capacity final :=
    Runs.run_preserves (step capacity) (fun state action => fewPassed state action = true)
      (Invariant capacity) (step_invariant capacity divides small) (start content) final schedule
      (start_invariant capacity content) few executed
  constructor
  · exact invariant.balanced
  · apply Multiset.coe_le.mp
    rw [invariant.balanced, add_assoc, add_assoc]
    exact Multiset.le_add_right _ _
  · intro id
    have valid := invariant.valid id
    have bounded := valid.bounded
    rw [valid.head, valid.tail, distance_word _ _ valid.ordered (by omega)]
    omega
  · intro id failed
    have facts := invariant.own id
    rw [failed] at facts
    exact facts

/-- An action of a thread followed by a number of its steps. -/
def call (action : Action Nat Bool) (id : Bool) (steps : Nat) : List (Action Nat Bool) :=
  action :: List.replicate steps (.proceed id)

/-- The owner fills a ring of four slots, overflows, and adds one more task. The other
thread finds its own ring empty, steals two tasks, returns both, and then takes one from
the global queue. -/
def overflowSteal : List (Action Nat Bool) :=
  [call (.enqueue false 0) false 4, call (.enqueue false 1) false 4,
    call (.enqueue false 2) false 4, call (.enqueue false 3) false 4,
    call (.enqueue false 4) false 6, call (.enqueue false 5) false 4,
    call (.dequeue true) true 2, call (.steal true false) true 9,
    call (.dequeue true) true 4, call (.dequeue true) true 2,
    call (.globalDequeue true) true 2].flatten

theorem overflowSteal_completes :
    (Runs.run (step 4) (start fun _ _ => 0) overflowSteal).isSome := by
  decide +kernel

/-- After the overflow and the theft three tasks are returned, one is in the ring of
the owner and two are in the global queue. -/
theorem run_accounted_overflow :
    ∃ final, Runs.run (step 4) (start fun _ _ => 0) overflowSteal = some final ∧
      final.returned = [3, 2, 0] ∧ items 4 (final.rings false) = [5] ∧ final.global = [1, 4] ∧
      Accounted 4 final := by
  refine ⟨Option.get _ overflowSteal_completes, (Option.some_get _).symm, ?_, ?_, ?_, ?_⟩
  · decide +kernel
  · decide +kernel
  · decide +kernel
  · apply run_accounted 4 (by decide) (by decide) (fun _ _ => 0) overflowSteal
    · decide +kernel
    · exact (Option.some_get _).symm

end Mola.WorkSteal
