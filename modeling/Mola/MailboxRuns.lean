import Mola.MailboxContents
import Mola.Runs

/-!
# Interleaved runs of a mailbox

Any number of producers call `enqueue` while one owner calls `dequeue` and
`try_block`. A step is one atomic operation of one thread with the local code
that follows it. A run starts with a new mailbox and takes steps in any order.
Histories record the successful enqueues, the batches that the owner took, and
the items that `dequeue` returned; no thread reads them.

An item that was returned may be allocated again, so a pointer that a thread
loaded earlier may name a different use of the same memory. The delivery theorem
holds in every state of every run in which no batch reaches 2^32 items. A run that
takes 2^32 items at once makes the private counter zero while all of them wait in
the private lists.

The owner never closes the mailbox here.
-/

namespace Mola.MailboxRuns

open Mailbox Runs

universe u v

/-- Where the owner's call of `dequeue` or `try_block` stands. -/
inductive Owner (Item : Type u) where
  | idle
  | load
  | exchange (seen : Top Item)
  | blockLoad
  | blockExchange
  | fault
deriving DecidableEq

/-- The mailbox, the positions of its threads, and the histories. -/
structure System (Item : Type u) (Thread : Type v) where
  mailbox : Mailbox Item
  allocated : List Item
  producers : Thread → Enqueue Item
  owner : Owner Item
  enqueued : List Item
  batches : List (List Item)
  returned : List Item

/-- One step of one thread. The copy loop of the owner's exchange is given fuel. -/
inductive Action (Item : Type u) (Thread : Type v) where
  | enqueue (thread : Thread) (item : Item)
  | enqueueLoad (thread : Thread)
  | enqueueExchange (thread : Thread)
  | dequeue
  | dequeueLoad
  | dequeueExchange (fuel : Nat)
  | tryBlock
  | tryBlockLoad
  | tryBlockExchange

variable {Item : Type u} [DecidableEq Item] {Thread : Type v} [DecidableEq Thread]

/-- A new mailbox, before any call. -/
def start (lastp : Nat) (next : Item → Option Item) : System Item Thread where
  mailbox := create lastp next
  allocated := []
  producers := fun _ => .idle
  owner := .idle
  enqueued := []
  batches := []
  returned := []

/-- Record where a step left a call of `dequeue`. A returned item is recorded and
its memory is free again. -/
def settle (system : System Item Thread) (mailbox : Mailbox Item) :
    Fetch Item → System Item Thread
  | .returned none => { system with mailbox := mailbox, owner := .idle }
  | .returned (some item) =>
      { system with
        mailbox := mailbox
        owner := .idle
        allocated := system.allocated.filter (fun other => other ≠ item)
        returned := system.returned ++ [item] }
  | .load => { system with mailbox := mailbox, owner := .load }
  | .exchange seen => { system with mailbox := mailbox, owner := .exchange seen }
  | .fault => { system with mailbox := mailbox, owner := .fault }

/-- Record a batch in the order in which its items were published. -/
def record (batches : List (List Item)) (moved : List Item) : List (List Item) :=
  if moved = [] then batches else batches ++ [moved.reverse]

/-- One step. An action of a thread that stands elsewhere is not enabled. -/
def step (levels : Nat) (priority : Item → Nat) (system : System Item Thread) :
    Action Item Thread → Option (System Item Thread)
  | .enqueue thread item =>
      if system.producers thread = .idle ∧ item ∉ system.allocated then
        some { system with
          allocated := item :: system.allocated
          producers := Function.update system.producers thread (.load item) }
      else none
  | .enqueueLoad thread =>
      match system.producers thread with
      | .load item =>
          match enqueueLoad system.mailbox item with
          | none => some { system with
              producers := Function.update system.producers thread .idle }
          | some (seen, mailbox) => some { system with
              mailbox := mailbox
              producers := Function.update system.producers thread (.exchange item seen) }
      | _ => none
  | .enqueueExchange thread =>
      match system.producers thread with
      | .exchange item seen =>
          match enqueueExchange system.mailbox item seen with
          | none => some { system with
              producers := Function.update system.producers thread (.load item) }
          | some (_, mailbox) => some { system with
              mailbox := mailbox
              producers := Function.update system.producers thread .idle
              enqueued := system.enqueued ++ [item] }
      | _ => none
  | .dequeue =>
      if system.owner = .idle then
        some (settle system (dequeueEnter levels system.mailbox).2
          (dequeueEnter levels system.mailbox).1)
      else none
  | .dequeueLoad =>
      if system.owner = .load then
        some (settle system system.mailbox (dequeueLoad system.mailbox))
      else none
  | .dequeueExchange fuel =>
      match system.owner with
      | .exchange seen =>
          match dequeueExchange levels priority fuel system.mailbox seen with
          | none => none
          | some (moved, fetch, mailbox) =>
              some (settle { system with batches := record system.batches moved } mailbox fetch)
      | _ => none
  | .tryBlock =>
      if system.owner = .idle then
        some { system with
          owner := if tryBlockEnter system.mailbox then .idle else .blockLoad }
      else none
  | .tryBlockLoad =>
      if system.owner = .blockLoad then
        some { system with
          owner := if tryBlockLoad system.mailbox then .blockExchange else .idle }
      else none
  | .tryBlockExchange =>
      if system.owner = .blockExchange then
        match tryBlockExchange system.mailbox with
        | none => some { system with owner := .blockLoad }
        | some mailbox => some { system with mailbox := mailbox, owner := .idle }
      else none

/-- The published items that no batch has taken yet. -/
def untaken (system : System Item Thread) : Nat :=
  system.enqueued.length - system.batches.flatten.length

/-- The condition on a step: an exchange of the owner finds fewer than 2^32 items
on the stack. -/
def shortBatch (system : System Item Thread) : Action Item Thread → Bool
  | .dequeueExchange _ => decide (untaken system < 2 ^ 32)
  | _ => true

/-- Delivery exactly once and in order, for a state whose stack and private lists
hold the given items: no published item is lost, repeated or invented; batches
are taken in order of publication and served by level; items of one level are
returned as they were published; the private counter is exact; and no assertion
has failed. -/
structure Delivers (levels : Nat) (priority : Item → Nat) (system : System Item Thread)
    (stacked : List Item) (queued : Nat → List Item) : Prop where
  contents : Represents priority system.mailbox stacked queued
  conserved : system.enqueued.Perm (system.returned ++ (stacked ++ held levels queued))
  batched : system.enqueued = system.batches.flatten ++ stacked.reverse
  served : system.returned ++ held levels queued =
    (system.batches.map (byLevel levels priority)).flatten
  ordered : ∀ level,
    system.returned.filter (fun item => priority item = level) <+:
      system.enqueued.filter (fun item => priority item = level)
  counted : system.mailbox.numInque = (held levels queued).length
  asserted : system.owner ≠ .fault

/-- What the owner's position says about the mailbox: past the entry of a call the
private lists are empty, and only an item is exchanged for EMPTY. -/
def Agrees (mailbox : Mailbox Item) : Owner Item → Prop
  | .idle => True
  | .exchange seen => mailbox.numInque = 0 ∧ ∃ first, seen = .item first
  | .fault => False
  | _ => mailbox.numInque = 0

/-- The invariant of a run, for the contents that witness it. -/
structure Invariant (levels : Nat) (priority : Item → Nat) (system : System Item Thread)
    (stacked : List Item) (queued : Nat → List Item) : Prop where
  sound : Sound levels priority system.mailbox system.allocated system.producers stacked queued
  batched : system.enqueued = system.batches.flatten ++ stacked.reverse
  served : system.returned ++ held levels queued =
    (system.batches.map (byLevel levels priority)).flatten
  position : Agrees system.mailbox system.owner

section
variable {levels : Nat} {priority : Item → Nat} {system next : System Item Thread}
  {stacked : List Item} {queued : Nat → List Item}

omit [DecidableEq Item] [DecidableEq Thread] in
theorem start_invariant (levels : Nat) (priority : Item → Nat) (lastp : Nat)
    (next : Item → Option Item) :
    Invariant levels priority (start lastp next : System Item Thread) [] (fun _ => []) where
  sound := sound_create levels priority lastp next
  batched := by simp [start]
  served := by simp [start, held]
  position := trivial

omit [DecidableEq Item] [DecidableEq Thread] in
theorem untaken_stacked (invariant : Invariant levels priority system stacked queued) :
    untaken system = stacked.length := by
  simp [untaken, invariant.batched]

omit [DecidableEq Item] in
/-- The position of the owner is about the private fields only. -/
theorem agrees_counter (before after : Mailbox Item) (owner : Owner Item)
    (same : after.numInque = before.numInque) (agrees : Agrees before owner) :
    Agrees after owner := by
  cases owner with
  | exchange => exact ⟨same.trans agrees.1, agrees.2⟩
  | idle => trivial
  | fault => exact agrees
  | load | blockLoad | blockExchange => exact same.trans agrees

variable {thread : Thread}

theorem enqueue_invariant {item : Item}
    (invariant : Invariant levels priority system stacked queued)
    (taken : step levels priority system (.enqueue thread item) = some next) :
    Invariant levels priority next stacked queued := by
  simp only [step, Option.ite_none_right_eq_some, Option.some.injEq] at taken
  obtain ⟨⟨_, fresh⟩, rfl⟩ := taken
  exact ⟨sound_call invariant.sound thread fresh, invariant.batched, invariant.served,
    invariant.position⟩

/-- A producer's load writes one link, of an item that only this producer holds. -/
theorem enqueueLoad_invariant (invariant : Invariant levels priority system stacked queued)
    (taken : step levels priority system (.enqueueLoad thread) = some next) :
    Invariant levels priority next stacked queued := by
  cases calling : system.producers thread with
  | idle | exchange => simp [step, calling] at taken
  | load item =>
    obtain ⟨after, loaded, _, sameCount, sound⟩ :=
      sound_load invariant.sound thread item calling
    simp only [step, calling, loaded] at taken
    cases taken
    exact ⟨sound, invariant.batched, invariant.served,
      agrees_counter _ _ _ sameCount invariant.position⟩

/-- A producer's exchange publishes its item on the stack or changes nothing. -/
theorem enqueueExchange_invariant (invariant : Invariant levels priority system stacked queued)
    (taken : step levels priority system (.enqueueExchange thread) = some next) :
    ∃ stacked', Invariant levels priority next stacked' queued := by
  cases calling : system.producers thread with
  | idle | load => simp [step, calling] at taken
  | exchange item seen =>
    rcases sound_exchange invariant.sound thread item seen calling with
      ⟨failed, _, sound⟩ | ⟨_, exchanged, sound⟩
    · simp only [step, calling, failed] at taken
      cases taken
      exact ⟨stacked, sound, invariant.batched, invariant.served, invariant.position⟩
    · simp only [step, calling, exchanged] at taken
      cases taken
      refine ⟨item :: stacked, sound, ?_, invariant.served, invariant.position⟩
      simp [invariant.batched]

/-- Entering `dequeue` returns the first private item, or finds none and goes on
to the shared pointer. -/
theorem dequeue_invariant (invariant : Invariant levels priority system stacked queued)
    (taken : step levels priority system .dequeue = some next) :
    ∃ queued', Invariant levels priority next stacked queued' := by
  simp only [step, Option.ite_none_right_eq_some, Option.some.injEq] at taken
  obtain ⟨_, rfl⟩ := taken
  by_cases positive : 0 < system.mailbox.numInque
  · obtain ⟨first, rest, queued', after, order, remaining, entered, _, sound⟩ :=
      sound_enter invariant.sound positive
    rw [entered]
    refine ⟨queued', sound, invariant.batched, ?_, trivial⟩
    have before := invariant.served
    rw [order] at before
    simpa [settle, remaining] using before
  · have none_left : system.mailbox.numInque = 0 := by omega
    rw [(dequeueEnter_empty invariant.sound.consistent none_left).1]
    exact ⟨queued, invariant.sound, invariant.batched, invariant.served, none_left⟩

/-- The owner's load remembers an item or ends the call with null. -/
theorem dequeueLoad_invariant (invariant : Invariant levels priority system stacked queued)
    (taken : step levels priority system .dequeueLoad = some next) :
    Invariant levels priority next stacked queued := by
  simp only [step, Option.ite_none_right_eq_some, Option.some.injEq] at taken
  obtain ⟨loading, rfl⟩ := taken
  have none_left : system.mailbox.numInque = 0 := by
    simpa only [loading, Agrees] using invariant.position
  cases pointer : system.mailbox.stack with
  | closed => exact absurd pointer invariant.sound.unclosed
  | empty | blocked =>
    simp only [dequeueLoad, pointer, settle]
    exact ⟨invariant.sound, invariant.batched, invariant.served, trivial⟩
  | item first =>
    simp only [dequeueLoad, pointer, settle]
    exact ⟨invariant.sound, invariant.batched, invariant.served, none_left, first, rfl⟩

/-- The owner's exchange takes the whole stack as one batch and serves its first
item, or fails and loads again. The batch must be short enough for the counter. -/
theorem dequeueExchange_invariant (bounded : ∀ item, priority item < levels) {fuel : Nat}
    (invariant : Invariant levels priority system stacked queued)
    (short : shortBatch system (.dequeueExchange fuel))
    (taken : step levels priority system (.dequeueExchange fuel) = some next) :
    ∃ stacked' queued', Invariant levels priority next stacked' queued' := by
  cases calling : system.owner with
  | idle | load | blockLoad | blockExchange | fault => simp [step, calling] at taken
  | exchange seen =>
    obtain ⟨none_left, first, rfl⟩ : system.mailbox.numInque = 0 ∧ ∃ first, seen = .item first := by
      simpa only [calling, Agrees] using invariant.position
    by_cases current : system.mailbox.stack = .item first
    · cases exchanged : dequeueExchange levels priority fuel system.mailbox (.item first) with
      | none => simp [step, calling, exchanged] at taken
      | some outcome =>
        obtain ⟨moved, fetch, after⟩ := outcome
        have bound : stacked.length < 2 ^ 32 := by
          rw [← untaken_stacked invariant]
          simpa [shortBatch] using short
        obtain ⟨served, rest, queued', rfl, nonempty, rfl, order, remaining, vacant, _, sound⟩ :=
          sound_taken invariant.sound bounded none_left current
            bound exchanged
        simp only [step, calling, exchanged] at taken
        cases taken
        refine ⟨[], queued', sound, ?_, ?_, trivial⟩
        · simp [settle, record, nonempty, invariant.batched]
        · have before := invariant.served
          rw [vacant, List.append_nil] at before
          simp [settle, record, nonempty, remaining, before, order]
    · have failed : dequeueExchange levels priority fuel system.mailbox (.item first) =
          some ([], .load, system.mailbox) := by
        simp [dequeueExchange, current]
      simp only [step, calling, failed] at taken
      cases taken
      exact ⟨stacked, queued, invariant.sound, by simpa [settle, record] using invariant.batched,
        by simpa [settle, record] using invariant.served, none_left⟩

/-- No step of `try_block` moves an item. Its exchange replaces EMPTY by BLOCKED. -/
theorem tryBlock_invariant {action : Action Item Thread}
    (blocking : action = .tryBlock ∨ action = .tryBlockLoad ∨ action = .tryBlockExchange)
    (invariant : Invariant levels priority system stacked queued)
    (taken : step levels priority system action = some next) :
    Invariant levels priority next stacked queued := by
  obtain ⟨sound, batched, served, position⟩ := invariant
  rcases blocking with rfl | rfl | rfl
  · simp only [step, Option.ite_none_right_eq_some, Option.some.injEq] at taken
    obtain ⟨_, rfl⟩ := taken
    refine ⟨sound, batched, served, ?_⟩
    by_cases positive : 0 < system.mailbox.numInque
    · simp [tryBlockEnter, positive, Agrees]
    · have none_left : system.mailbox.numInque = 0 := by omega
      simp [tryBlockEnter, none_left, Agrees]
  · simp only [step, Option.ite_none_right_eq_some, Option.some.injEq] at taken
    obtain ⟨loading, rfl⟩ := taken
    refine ⟨sound, batched, served, ?_⟩
    rw [loading] at position
    by_cases vacant : system.mailbox.stack = .empty
    · simpa [tryBlockLoad, vacant, Agrees] using position
    · simp [tryBlockLoad, vacant, Agrees]
  · simp only [step, Option.ite_none_right_eq_some] at taken
    obtain ⟨exchanging, taken⟩ := taken
    rw [exchanging] at position
    by_cases vacant : system.mailbox.stack = .empty
    · simp only [tryBlockExchange, vacant, if_true] at taken
      cases taken
      exact ⟨sound_block sound vacant, batched, served, trivial⟩
    · simp only [tryBlockExchange, vacant, if_false] at taken
      cases taken
      exact ⟨sound, batched, served, position⟩

/-- Every step that meets the condition keeps the invariant, with contents of its
own. -/
theorem step_invariant (bounded : ∀ item, priority item < levels) (action : Action Item Thread)
    (invariant : ∃ stacked queued, Invariant levels priority system stacked queued)
    (short : shortBatch system action)
    (taken : step levels priority system action = some next) :
    ∃ stacked queued, Invariant levels priority next stacked queued := by
  obtain ⟨stacked, queued, invariant⟩ := invariant
  cases action with
  | enqueue =>
    exact ⟨stacked, queued, enqueue_invariant invariant taken⟩
  | enqueueLoad => exact ⟨stacked, queued, enqueueLoad_invariant invariant taken⟩
  | enqueueExchange =>
    obtain ⟨stacked', kept⟩ := enqueueExchange_invariant invariant taken
    exact ⟨stacked', queued, kept⟩
  | dequeue => exact ⟨stacked, dequeue_invariant invariant taken⟩
  | dequeueLoad => exact ⟨stacked, queued, dequeueLoad_invariant invariant taken⟩
  | dequeueExchange => exact dequeueExchange_invariant bounded invariant short taken
  | tryBlock | tryBlockLoad | tryBlockExchange =>
    exact ⟨stacked, queued, tryBlock_invariant (by simp) invariant taken⟩

/-- The owner is never stuck in its copy loop: with fuel for the items that no batch
has taken, a pending exchange completes. -/
theorem exchange_completes (invariant : Invariant levels priority system stacked queued)
    (seen : Top Item) (calling : system.owner = .exchange seen) :
    (step levels priority system (.dequeueExchange (untaken system))).isSome := by
  have none_left : system.mailbox.numInque = 0 := by
    have position := invariant.position
    rw [calling] at position
    exact position.1
  have completes := dequeueExchange_completes levels seen
    invariant.sound.consistent.toRepresents (by omega)
  rw [← untaken_stacked invariant] at completes
  obtain ⟨outcome, exchanged⟩ := Option.isSome_iff_exists.mp completes
  simp [step, calling, exchanged]

omit [DecidableEq Item] in
theorem served_perm (batches : List (List Item)) (bounded : ∀ item, priority item < levels) :
    (batches.map (byLevel levels priority)).flatten.Perm batches.flatten := by
  induction batches with
  | nil => simp
  | cons batch _ inductionHypothesis =>
    simp only [List.map_cons, List.flatten_cons]
    exact (byLevel_perm levels priority batch bounded).append inductionHypothesis

omit [DecidableEq Item] in
/-- Serving batches by level keeps the order inside each level. -/
theorem served_filter (batches : List (List Item)) (bounded : ∀ item, priority item < levels)
    (level : Nat) :
    (batches.map (byLevel levels priority)).flatten.filter (fun item => priority item = level) =
      batches.flatten.filter (fun item => priority item = level) := by
  induction batches with
  | nil => rfl
  | cons _ _ inductionHypothesis =>
    simp only [List.map_cons, List.flatten_cons, List.filter_append, inductionHypothesis,
      byLevel_filter]
    congr 1
    by_cases below : level < levels
    · simp [below]
    · rw [if_neg below, eq_comm, List.filter_eq_nil_iff]
      intro item _ same
      have here := bounded item
      rw [of_decide_eq_true same] at here
      exact below here

omit [DecidableEq Item] [DecidableEq Thread] in
/-- The invariant is delivery exactly once and in order. -/
theorem invariant_delivers (bounded : ∀ item, priority item < levels)
    (invariant : Invariant levels priority system stacked queued) :
    Delivers levels priority system stacked queued := by
  have rearranged := served_perm system.batches bounded
  rw [← invariant.served] at rearranged
  refine ⟨invariant.sound.consistent.toRepresents, ?_, invariant.batched, invariant.served, ?_,
    invariant.sound.consistent.counted, ?_⟩
  · calc system.enqueued
        = system.batches.flatten ++ stacked.reverse := invariant.batched
      _ |>.Perm ((system.returned ++ held levels queued) ++ stacked) :=
          rearranged.symm.append (List.reverse_perm stacked)
      _ |>.Perm (system.returned ++ (stacked ++ held levels queued)) := by
          rw [List.append_assoc]
          exact List.perm_append_comm.append_left _
  · intro level
    have kept := served_filter system.batches bounded level
    rw [← invariant.served, List.filter_append] at kept
    rw [invariant.batched, List.filter_append, ← kept, List.append_assoc]
    exact List.prefix_append _ _
  · intro faulted
    have position := invariant.position
    rw [faulted] at position
    exact position

/-- A call of `enqueue` that no other thread disturbs publishes its item in three
steps. -/
theorem enqueue_undisturbed {item : Item}
    (invariant : Invariant levels priority system stacked queued)
    (calling : system.producers thread = .idle) (fresh : item ∉ system.allocated) :
    ∃ mailbox,
      run (step levels priority) system
        [.enqueue thread item, .enqueueLoad thread, .enqueueExchange thread] =
        some { system with
          mailbox := mailbox
          allocated := item :: system.allocated
          producers := system.producers
          enqueued := system.enqueued ++ [item] } ∧
      mailbox.numInque = system.mailbox.numInque ∧
      Invariant levels priority { system with
          mailbox := mailbox
          allocated := item :: system.allocated
          enqueued := system.enqueued ++ [item] } (item :: stacked) queued := by
  have called := sound_call invariant.sound thread fresh
  obtain ⟨linked, loaded, sameStack, sameCount, sound⟩ :=
    sound_load called thread item (Function.update_self ..)
  rcases sound_exchange sound thread item system.mailbox.stack (Function.update_self ..) with
    ⟨_, moved, _⟩ | ⟨_, exchanged, published⟩
  · exact absurd sameStack moved
  · have restored : Function.update system.producers thread .idle = system.producers :=
      Function.update_eq_self_iff.mpr calling.symm
    simp only [Function.update_idem, restored] at published
    refine ⟨{ linked with stack := .item item }, ?_, sameCount, published, ?_,
      invariant.served, agrees_counter _ _ _ sameCount invariant.position⟩
    · simp [run, step, calling, fresh, loaded, exchanged, restored]
    · simp [invariant.batched]

end

/-- In every run whose batches are short, delivery is exactly once and in order in
the state reached, whatever the links and the cursor held before the mailbox was
created. Every earlier state of the run is reached by a part of its schedule, so
the statement covers it too. -/
theorem run_delivers (levels : Nat) (priority : Item → Nat)
    (bounded : ∀ item, priority item < levels) (lastp : Nat) (next : Item → Option Item)
    (schedule : List (Action Item Thread)) (final : System Item Thread)
    (short : Along (step levels priority) (fun system action => shortBatch system action)
      (start lastp next) schedule)
    (executed : run (step levels priority) (start lastp next) schedule = some final) :
    ∃ stacked queued, Delivers levels priority final stacked queued := by
  obtain ⟨stacked, queued, invariant⟩ :=
    run_preserves (step levels priority) (fun system action => shortBatch system action)
      (fun system => ∃ stacked queued, Invariant levels priority system stacked queued)
      (fun _ action _ kept allowed taken => step_invariant bounded action kept allowed taken)
      (start lastp next) final schedule
      ⟨[], fun _ => [], start_invariant levels priority lastp next⟩ short executed
  exact ⟨stacked, queued, invariant_delivers bounded invariant⟩

/-- Two producers race for an empty mailbox: the second exchange succeeds first, so
the other producer loads again. The owner then takes both items. -/
def race : List (Action Nat Bool) :=
  [.enqueue true 3, .enqueueLoad true, .enqueue false 2, .enqueueLoad false,
    .enqueueExchange false, .enqueueExchange true, .enqueueLoad true, .enqueueExchange true,
    .dequeue, .dequeueLoad, .dequeueExchange 2]

/-- The race delivers in order: the owner has taken one batch and returned its item
of the first level. -/
theorem run_delivers_race :
    ∃ final, run (step 2 (fun item => item % 2)) (start 0 (fun _ => none)) race = some final ∧
      final.batches = [[2, 3]] ∧ final.returned = [2] ∧
      ∃ stacked queued, Delivers 2 (fun item => item % 2) final stacked queued := by
  have completes : (run (step 2 (fun item => item % 2)) (start 0 (fun _ => none)) race).isSome := by
    decide
  refine ⟨Option.get _ completes, (Option.some_get completes).symm, by decide +revert,
    by decide +revert, ?_⟩
  exact run_delivers 2 (fun item => item % 2) (fun item => Nat.mod_lt item (by decide)) 0
    (fun _ => none) race _ (by decide) (Option.some_get completes).symm

/-- One producer enqueues the given number of items, one after the other. -/
def fill : Nat → List (Action Nat Unit)
  | 0 => []
  | count + 1 =>
      fill count ++ [.enqueue () count, .enqueueLoad (), .enqueueExchange ()]

/-- The run in which the owner takes the given number of items at once. -/
def takeAll (count : Nat) : List (Action Nat Unit) :=
  fill count ++ [.dequeue, .dequeueLoad, .dequeueExchange count]

/-- Filling a mailbox leaves every item on the stack and the owner idle. -/
theorem fill_run (count : Nat) :
    ∃ system stacked queued,
      run (step 1 (fun _ => 0)) (start 0 (fun _ => none)) (fill count) = some system ∧
      Invariant 1 (fun _ => 0) system stacked queued ∧
      stacked.length = count ∧ system.enqueued.length = count ∧ system.returned = [] ∧
      system.owner = .idle ∧ system.mailbox.numInque = 0 ∧ system.producers () = .idle ∧
      ∀ item ∈ system.allocated, item < count := by
  induction count with
  | zero =>
    exact ⟨_, [], fun _ => [], rfl, start_invariant 1 _ 0 _, rfl, rfl, rfl, rfl, rfl, rfl,
      by simp [start]⟩
  | succ count inductionHypothesis =>
    obtain ⟨system, stacked, queued, filled, invariant, height, history, none_returned, idle,
      counter, calling, below⟩ := inductionHypothesis
    have fresh : count ∉ system.allocated := fun member => absurd (below count member) (by omega)
    obtain ⟨mailbox, published, sameCounter, kept⟩ :=
      enqueue_undisturbed invariant calling fresh
    refine ⟨_, count :: stacked, queued, ?_, kept, by simp [height], by simp [history],
      none_returned, idle, sameCounter.trans counter, calling, ?_⟩
    · rw [fill, run_append _ _ system _ _ filled]
      exact published
    · intro item member
      rcases List.mem_cons.mp member with rfl | earlier
      · omega
      · have := below item earlier
        omega

/-- Taking a positive multiple of 2^32 items at once leaves the private counter at
zero. The owner then goes back to the shared pointer with nothing returned. -/
theorem takeAll_run (count : Nat) (positive : 0 < count) (wraps : count % 2 ^ 32 = 0) :
    ∃ final, run (step 1 (fun _ => 0)) (start 0 (fun _ => none)) (takeAll count) = some final ∧
      final.mailbox.numInque = 0 ∧ final.mailbox.stack = .empty ∧ final.returned = [] ∧
      final.enqueued.length = count := by
  obtain ⟨system, stacked, queued, filled, invariant, height, history, none_returned, idle,
    counter, _, _⟩ := fill_run count
  have represented := invariant.sound.consistent.toRepresents
  have nonempty : stacked ≠ [] := List.ne_nil_of_length_pos (by omega)
  obtain ⟨first, pointer⟩ := represents_top _ _ _ _ represented nonempty
  obtain ⟨after, taken, counted, emptied, _⟩ :=
    dequeueExchange_wraps 1 represented
      counter pointer (height ▸ wraps) height.le
  have loaded : dequeueLoad system.mailbox = .exchange (.item first) := by
    simp [dequeueLoad, pointer]
  have entered : dequeueEnter 1 system.mailbox = (.load, system.mailbox) := by
    simp [dequeueEnter, counter]
  refine ⟨{ system with
      mailbox := after
      owner := .load
      batches := record system.batches stacked }, ?_, counted, emptied, none_returned, history⟩
  rw [takeAll, run_append _ _ system _ _ filled]
  simp only [run, step, idle, if_true, entered, settle, loaded, taken]

/-- A batch of 2^32 items is not delivered: after the owner's exchange the counter
says that the private lists are empty, nothing is on the stack, and nothing was
returned, although 2^32 items were enqueued. -/
theorem takeAll_not_delivered :
    ∃ final, run (step 1 (fun _ => 0)) (start 0 (fun _ => none)) (takeAll (2 ^ 32)) =
        some final ∧
      ¬ ∃ stacked queued, Delivers 1 (fun _ => 0) final stacked queued := by
  obtain ⟨final, executed, counter, vacant, none_returned, history⟩ :=
    takeAll_run (2 ^ 32) (by decide) (by decide)
  refine ⟨final, executed, ?_⟩
  rintro ⟨stacked, queued, delivers⟩
  have unstacked : stacked = [] :=
    represents_unstacked _ _ _ _ delivers.contents (by simp [vacant, linkTo])
  have none_held : (held 1 queued).length = 0 := delivers.counted.symm.trans counter
  have lengths := delivers.conserved.length_eq
  simp only [none_returned, unstacked, List.nil_append, none_held, history] at lengths
  exact absurd lengths (by decide)

end Mola.MailboxRuns
