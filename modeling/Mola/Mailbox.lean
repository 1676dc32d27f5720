import Mola.Chains
import Mathlib.Data.List.Nodup
import Mathlib.Data.List.Range
import Mathlib.Algebra.Order.Ring.Nat

/-!
# The lock-free mailbox

A mailbox has one shared pointer and a group of private lists. Producers link an
item to the pointer they loaded and publish it by compare-exchange. The owner
takes the whole stack by exchanging the pointer for the EMPTY mark, then moves
the items one by one to the front of the list of their priority level, which
turns each level back to the order of publication. Later calls serve the private
lists from a saved level cursor without touching the shared pointer.

Each atomic load and each compare-exchange is a separate definition, together
with the thread-local code up to the next atomic operation. Item links live in
an explicit store. The private counter and the cursor are 32-bit words; the
counter is incremented modulo the word size. The cursor is not initialised by
the constructor, so a new mailbox has an arbitrary one.

Weak memory orders, reclamation of items and the callers' loops are not modelled
here. The copy loop is given fuel because arbitrary links may be cyclic; its
exactness theorem shows that the length of the taken chain is enough.
-/

namespace Mola

universe u

/-- The value of the shared pointer: one of the three dummy marks or an item. -/
inductive Top (Item : Type u) where
  | empty
  | blocked
  | closed
  | item (first : Item)
deriving DecidableEq

/-- The outcome that `enqueue` reports to its caller. -/
inductive EnqueueStatus where
  | success
  | unblocked
  | failure
deriving DecidableEq

/-- The fields of the mailbox together with the link field of every item. -/
structure Mailbox (Item : Type u) where
  stack : Top Item
  headers : Nat → Option Item
  numInque : Nat
  lastp : Nat
  next : Item → Option Item

namespace Mailbox

open Chains

variable {Item : Type u} [DecidableEq Item]

/-- The constructor: private lists are null and the shared pointer is BLOCKED.
The cursor and the links of unallocated items hold whatever memory held. -/
def create (lastp : Nat) (next : Item → Option Item) : Mailbox Item where
  stack := .blocked
  headers := fun _ => none
  numInque := 0
  lastp := lastp
  next := next

/-- The link that a producer writes: null after a dummy mark, else the item that
the pointer names. -/
def linkTo : Top Item → Option Item
  | .item first => some first
  | _ => none

/-- One load of the producer's loop and the write of the new item's link. A
closed mailbox ends the call; otherwise the loaded pointer is kept for the
exchange. -/
def enqueueLoad (mailbox : Mailbox Item) (item : Item) : Option (Top Item × Mailbox Item) :=
  if mailbox.stack = .closed then none
  else some (mailbox.stack,
    { mailbox with next := Function.update mailbox.next item (linkTo mailbox.stack) })

/-- The producer's compare-exchange. A pointer that changed since the load sends
the producer back to its loop with the mailbox untouched. -/
def enqueueExchange (mailbox : Mailbox Item) (item : Item) (seen : Top Item) :
    Option (EnqueueStatus × Mailbox Item) :=
  if mailbox.stack = seen then
    some (if seen = .blocked then .unblocked else .success,
      { mailbox with stack := .item item })
  else none

/-- Where a producer's call of `enqueue` stands: it is about to load the shared
pointer, or about to exchange the pointer it saw for its item. -/
inductive Enqueue (Item : Type u) where
  | idle
  | load (item : Item)
  | exchange (item : Item) (seen : Top Item)
deriving DecidableEq

/-- The item that a call of `enqueue` has not published yet. -/
def Enqueue.hand : Enqueue Item → Option Item
  | .idle => none
  | .load item => some item
  | .exchange item _ => some item

/-- The cursor loop over the private lists. Exhausting the levels is the failed
assertion of the source and has no result. -/
def fetchFrom : Nat → Mailbox Item → Option (Item × Mailbox Item)
  | 0, _ => none
  | remaining + 1, mailbox =>
      match mailbox.headers mailbox.lastp with
      | some first => some (first, { mailbox with
          headers := Function.update mailbox.headers mailbox.lastp (mailbox.next first)
          numInque := mailbox.numInque - 1 })
      | none => fetchFrom remaining { mailbox with lastp := mailbox.lastp + 1 }

/-- One iteration of the copy loop: the item becomes the first of the private list
of its level, and the private counter is incremented modulo the word size. -/
def prepend (priority : Item → Nat) (mailbox : Mailbox Item) (first : Item) : Mailbox Item :=
  { mailbox with
    next := Function.update mailbox.next first (mailbox.headers (priority first))
    headers := Function.update mailbox.headers (priority first) (some first)
    numInque := (mailbox.numInque + 1) % 2 ^ 32 }

/-- The copy loop over the taken chain. The link of an item is read before the
iteration overwrites it. The moved items are reported in the order of traversal. -/
def collect (priority : Item → Nat) :
    Nat → Mailbox Item → Option Item → Option (List Item × Mailbox Item)
  | _, mailbox, none => some ([], mailbox)
  | 0, _, some _ => none
  | fuel + 1, mailbox, some first =>
      match collect priority fuel (prepend priority mailbox first) (mailbox.next first) with
      | none => none
      | some (moved, final) => some (first :: moved, final)

/-- Where a call of `dequeue` stands after a step: it returned an item or null,
it is about to load the shared pointer, it is about to exchange the pointer it
saw, or it was ended by a failed assertion or a dereferenced mark. -/
inductive Fetch (Item : Type u) where
  | returned (item : Option Item)
  | load
  | exchange (seen : Top Item)
  | fault
deriving DecidableEq

/-- The entry of `dequeue`, and the target of its backward jump: serve a private
list when the counter is positive, else go on to the shared pointer. -/
def dequeueEnter (levels : Nat) (mailbox : Mailbox Item) : Fetch Item × Mailbox Item :=
  if 0 < mailbox.numInque then
    match fetchFrom (levels - mailbox.lastp) mailbox with
    | some (item, rest) => (.returned (some item), rest)
    | none => (.fault, mailbox)
  else (.load, mailbox)

/-- A load in `dequeue`, the first one or the one after a failed exchange. -/
def dequeueLoad (mailbox : Mailbox Item) : Fetch Item :=
  match mailbox.stack with
  | .blocked => .returned none
  | .empty => .returned none
  | seen => .exchange seen

/-- The owner's exchange for EMPTY and the code up to its next atomic operation:
the copy loop, the reset of the cursor and the jump back to the entry. A CLOSED
mark that was exchanged is dereferenced as an item. The moved chain is reported
for the caller's records; running out of fuel has no result. -/
def dequeueExchange (levels : Nat) (priority : Item → Nat) (fuel : Nat)
    (mailbox : Mailbox Item) (seen : Top Item) :
    Option (List Item × Fetch Item × Mailbox Item) :=
  if mailbox.stack = seen then
    match seen with
    | .item first =>
        match collect priority fuel { mailbox with stack := .empty } (some first) with
        | none => none
        | some (moved, taken) => some (moved, dequeueEnter levels { taken with lastp := 0 })
    | _ => some ([], .fault, { mailbox with stack := .empty })
  else some ([], .load, mailbox)

/-- The load of `is_blocked`. -/
def isBlocked (mailbox : Mailbox Item) : Bool := decide (mailbox.stack = .blocked)

/-- The entry of `try_block`: a positive counter answers false at once. -/
def tryBlockEnter (mailbox : Mailbox Item) : Bool := decide (0 < mailbox.numInque)

/-- A load in `try_block`: only an EMPTY pointer leads on to the exchange. -/
def tryBlockLoad (mailbox : Mailbox Item) : Bool := decide (mailbox.stack = .empty)

/-- The exchange of EMPTY for BLOCKED. A changed pointer sends the owner back to
the load. -/
def tryBlockExchange (mailbox : Mailbox Item) : Option (Mailbox Item) :=
  if mailbox.stack = .empty then some { mailbox with stack := .blocked } else none

/-- The private lists as they stand in memory: each header starts the chain of
the items queued at its level, without repetition. -/
structure Queues (priority : Item → Nat) (mailbox : Mailbox Item)
    (queued : Nat → List Item) : Prop where
  chained : ∀ level, Chain mailbox.next (mailbox.headers level) (queued level)
  leveled : ∀ level, ∀ item ∈ queued level, priority item = level
  distinct : ∀ level, (queued level).Nodup

/-- The contents of a mailbox: the stack from its newest item down, and the
private lists. No item stands in two places. -/
structure Represents (priority : Item → Nat) (mailbox : Mailbox Item)
    (stacked : List Item) (queued : Nat → List Item) : Prop where
  chained : Chain mailbox.next (linkTo mailbox.stack) stacked
  distinct : stacked.Nodup
  queues : Queues priority mailbox queued
  apart : ∀ level, ∀ item ∈ queued level, item ∉ stacked

/-- The private items in the order in which the cursor serves them. -/
def held (levels : Nat) (queued : Nat → List Item) : List Item :=
  (List.range levels).flatMap queued

/-- The order in which one batch is served: by increasing level, and inside a
level as it was published. -/
def byLevel (levels : Nat) (priority : Item → Nat) (batch : List Item) : List Item :=
  (List.range levels).flatMap (fun level => batch.filter (fun item => priority item = level))

variable (levels : Nat) (priority : Item → Nat) (fuel : Nat) (mailbox : Mailbox Item)
  (stacked batch : List Item) (queued : Nat → List Item) (moved : List Item)

omit [DecidableEq Item] in
theorem create_represents (lastp : Nat) (next : Item → Option Item) :
    Represents priority (create lastp next) [] (fun _ => []) where
  chained := by simp [create, linkTo]
  distinct := List.nodup_nil
  queues := ⟨by simp [create], by simp, by simp⟩
  apart := by simp

/-- Writing the link of an item that the mailbox does not hold changes none of
its contents. -/
theorem represents_link (item : Item) (target : Option Item)
    (represented : Represents priority mailbox stacked queued) (offStack : item ∉ stacked)
    (offQueues : ∀ level, item ∉ queued level) :
    Represents priority { mailbox with next := Function.update mailbox.next item target }
      stacked queued where
  chained := chain_update _ _ target item stacked offStack represented.chained
  distinct := represented.distinct
  queues :=
    { chained := fun level => chain_update _ _ target item (queued level)
        (offQueues level) (represented.queues.chained level)
      leveled := represented.queues.leveled
      distinct := represented.queues.distinct }
  apart := represented.apart

omit [DecidableEq Item] in
/-- Publishing an item that is already linked to the current pointer puts it on
top of the stack. The exchange itself writes nothing but the pointer. -/
theorem represents_push (item : Item) (represented : Represents priority mailbox stacked queued)
    (linked : mailbox.next item = linkTo mailbox.stack) (offStack : item ∉ stacked)
    (offQueues : ∀ level, item ∉ queued level) :
    Represents priority { mailbox with stack := .item item } (item :: stacked) queued where
  chained := ⟨rfl, by simpa only [linked] using represented.chained⟩
  distinct := List.nodup_cons.mpr ⟨offStack, represented.distinct⟩
  queues := ⟨represented.queues.chained, represented.queues.leveled, represented.queues.distinct⟩
  apart := by
    intro level other member onStack
    rcases List.mem_cons.mp onStack with rfl | below
    · exact offQueues level member
    · exact represented.apart level other member below

omit [DecidableEq Item] in
/-- A pointer that is not an item stands for an empty stack, so replacing one
mark by another keeps the contents. -/
theorem represents_mark (mark : Top Item)
    (represented : Represents priority mailbox stacked queued)
    (before : linkTo mailbox.stack = none) (after : linkTo mark = none) :
    Represents priority { mailbox with stack := mark } stacked queued where
  chained := by simpa only [before, after] using represented.chained
  distinct := represented.distinct
  queues := ⟨represented.queues.chained, represented.queues.leveled, represented.queues.distinct⟩
  apart := represented.apart

omit [DecidableEq Item] in
theorem represents_unstacked (represented : Represents priority mailbox stacked queued)
    (mark : linkTo mailbox.stack = none) : stacked = [] := by
  have chained := represented.chained
  rwa [mark, chain_none] at chained

omit [DecidableEq Item] in
theorem represents_top (represented : Represents priority mailbox stacked queued)
    (nonempty : stacked ≠ []) :
    ∃ first, mailbox.stack = .item first := by
  cases pointer : mailbox.stack with
  | item first => exact ⟨first, rfl⟩
  | _ => exact absurd (represents_unstacked priority mailbox stacked queued represented
      (by simp [pointer, linkTo])) nonempty

omit [DecidableEq Item] in
/-- The cursor loop returns the first item at or after the cursor and stops the
cursor at its level. The induction is on the levels left; an empty level moves
the cursor past it. -/
theorem fetchFrom_first (remaining : Nat) (mailbox : Mailbox Item) (queued : Nat → List Item)
    (first : Item) (rest : List Item) (queues : Queues priority mailbox queued)
    (order : (List.range' mailbox.lastp remaining).flatMap queued = first :: rest) :
    ∃ level tail, mailbox.lastp ≤ level ∧ level < mailbox.lastp + remaining ∧
      (∀ below, mailbox.lastp ≤ below → below < level → queued below = []) ∧
      queued level = first :: tail ∧
      fetchFrom remaining mailbox = some (first, { mailbox with
        headers := Function.update mailbox.headers level (mailbox.next first)
        numInque := mailbox.numInque - 1
        lastp := level }) := by
  induction remaining generalizing mailbox with
  | zero => simp at order
  | succ _ inductionHypothesis =>
    rw [List.range'_succ, List.flatMap_cons] at order
    have chain := queues.chained mailbox.lastp
    cases header : mailbox.headers mailbox.lastp with
    | none =>
      rw [header, chain_none] at chain
      rw [chain, List.nil_append] at order
      obtain ⟨level, tail, above, within, skipped, found, fetched⟩ :=
        inductionHypothesis { mailbox with lastp := mailbox.lastp + 1 }
          ⟨queues.chained, queues.leveled, queues.distinct⟩ order
      dsimp only at above within skipped
      refine ⟨level, tail, by omega, by omega, ?_, found, ?_⟩
      · intro below from_ upTo
        by_cases here : below = mailbox.lastp
        · rw [here, chain]
        · exact skipped below (by omega) upTo
      · simpa only [fetchFrom, header] using fetched
    | some item =>
      rw [header] at chain
      obtain ⟨tail, found, _⟩ := chain_some _ item _ chain
      rw [found, List.cons_append] at order
      have same : item = first := (List.cons.inj order).1
      subst same
      refine ⟨mailbox.lastp, tail, le_rfl, by omega, ?_, found, ?_⟩
      · intro below from_ upTo
        omega
      · simp only [fetchFrom, header]

/-- Prepending an item that no private list holds lengthens exactly the list of
its level. Its new link disturbs no other chain. -/
theorem prepend_queues {priority : Item → Nat} {mailbox : Mailbox Item}
    {queued : Nat → List Item} {first : Item} (queues : Queues priority mailbox queued)
    (outside : ∀ level, first ∉ queued level) :
    Queues priority (prepend priority mailbox first)
      (Function.update queued (priority first) (first :: queued (priority first))) := by
  refine ⟨?_, ?_, ?_⟩
  · intro level
    by_cases here : level = priority first
    · subst here
      simp only [prepend, Function.update_self]
      exact chain_push (outside _) (queues.chained _)
    · simp only [prepend, Function.update_of_ne here]
      exact chain_update _ _ _ first _ (outside level) (queues.chained level)
  · intro level item member
    by_cases here : level = priority first
    · subst here
      simp only [Function.update_self, List.mem_cons] at member
      rcases member with rfl | member
      · rfl
      · exact queues.leveled _ item member
    · simp only [Function.update_of_ne here] at member
      exact queues.leveled level item member
  · intro level
    by_cases here : level = priority first
    · subst here
      simp only [Function.update_self]
      exact List.nodup_cons.mpr ⟨outside _, queues.distinct _⟩
    · simp only [Function.update_of_ne here]
      exact queues.distinct level

/-- With fuel for the whole chain the copy loop ends, reports the chain, adds its
length to the counter modulo the word size, and leaves the shared pointer and
the cursor alone. Each private list receives the items of its level in front,
in the reverse of the traversal, and no link outside the chain is written.

Proof: induct on the chain. The first item is outside the rest of the chain and
outside every private list, so prepending it disturbs neither; the remaining
chain then meets private lists that are longer by one. -/
theorem collect_exact (start : Option Item) (chain : List Item) (queued : Nat → List Item)
    (chained : Chain mailbox.next start chain) (distinct : chain.Nodup)
    (queues : Queues priority mailbox queued)
    (apart : ∀ level, ∀ item ∈ queued level, item ∉ chain) (bounded : mailbox.numInque < 2 ^ 32)
    (enough : chain.length ≤ fuel) :
    ∃ next headers,
      collect priority fuel mailbox start = some (chain, { mailbox with
        next := next
        headers := headers
        numInque := (mailbox.numInque + chain.length) % 2 ^ 32 }) ∧
      Queues priority { mailbox with next := next, headers := headers }
        (fun level => (chain.filter (fun item => priority item = level)).reverse ++
          queued level) ∧
      ∀ node, node ∉ chain → next node = mailbox.next node := by
  induction chain generalizing fuel mailbox start queued with
  | nil =>
    have null : start = none := chained
    subst null
    have counted : (mailbox.numInque + ([] : List Item).length) % 2 ^ 32 = mailbox.numInque :=
      Nat.mod_eq_of_lt bounded
    refine ⟨mailbox.next, mailbox.headers, ?_, ?_, fun _ _ => rfl⟩
    · rw [counted, collect]
    · simpa using queues
  | cons first rest inductionHypothesis =>
    obtain ⟨rfl, tail⟩ := chained
    obtain ⟨firstFresh, restDistinct⟩ := List.nodup_cons.mp distinct
    have outside : ∀ level, first ∉ queued level := by
      intro level member
      exact apart level first member (by simp)
    let lists := Function.update queued (priority first) (first :: queued (priority first))
    have listsApart : ∀ level, ∀ item ∈ lists level, item ∉ rest := by
      intro level item member inRest
      by_cases here : level = priority first
      · subst here
        simp only [lists, Function.update_self, List.mem_cons] at member
        rcases member with rfl | member
        · exact firstFresh inRest
        · exact apart _ item member (List.mem_cons_of_mem first inRest)
      · simp only [lists, Function.update_of_ne here] at member
        exact apart level item member (List.mem_cons_of_mem first inRest)
    cases fuel with
    | zero => simp at enough
    | succ fuel =>
      obtain ⟨next, headers, collected, final, untouched⟩ :=
        inductionHypothesis fuel (prepend priority mailbox first) (mailbox.next first) lists
          (chain_update _ _ _ first rest firstFresh tail) restDistinct
          (prepend_queues queues outside) listsApart
          (Nat.mod_lt _ (by decide)) (by simpa using enough)
      refine ⟨next, headers, ?_, ?_, ?_⟩
      · have counted : ((prepend priority mailbox first).numInque + rest.length) % 2 ^ 32 =
            (mailbox.numInque + (first :: rest).length) % 2 ^ 32 := by
          simp only [prepend, List.length_cons, Nat.mod_add_mod]
          congr 1
          omega
        rw [counted] at collected
        simp only [collect, collected]
        rfl
      · have lengthened : (fun level =>
            (rest.filter (fun item => priority item = level)).reverse ++ lists level) =
            (fun level => ((first :: rest).filter (fun item => priority item = level)).reverse ++
              queued level) := by
          funext level
          by_cases here : level = priority first
          · subst here
            simp [lists]
          · have other : priority first ≠ level := fun same => here same.symm
            simp [lists, Function.update_of_ne here, other]
        rw [← lengthened]
        exact ⟨final.chained, final.leveled, final.distinct⟩
      · intro node outsideChain
        have notRest : node ∉ rest := fun member =>
          outsideChain (List.mem_cons_of_mem first member)
        have notFirst : node ≠ first := fun same => outsideChain (same ▸ List.mem_cons_self)
        rw [untouched node notRest]
        exact Function.update_of_ne notFirst _ _

/-- More fuel does not change a completed copy loop. -/
theorem collect_fuel (more : Nat) (mailbox : Mailbox Item) (start : Option Item)
    (result : List Item × Mailbox Item)
    (completed : collect priority fuel mailbox start = some result) (enough : fuel ≤ more) :
    collect priority more mailbox start = some result := by
  induction fuel generalizing more mailbox start result with
  | zero =>
    cases start with
    | none => simpa [collect] using completed
    | some => simp [collect] at completed
  | succ fuel inductionHypothesis =>
    cases start with
    | none => simpa [collect] using completed
    | some first =>
      obtain ⟨less, rfl⟩ : ∃ less, more = less + 1 := ⟨more - 1, by omega⟩
      cases inner : collect priority fuel (prepend priority mailbox first)
          (mailbox.next first) with
      | none => simp [collect, inner] at completed
      | some reached =>
        have kept := inductionHypothesis less _ _ reached inner (by omega)
        simp only [collect, inner] at completed
        simp only [collect, kept, completed]

omit [DecidableEq Item] in
/-- Serving a private list leaves the shared pointer alone. -/
theorem dequeueEnter_stack :
    (dequeueEnter levels mailbox).2.stack = mailbox.stack := by
  have served : ∀ (remaining : Nat) (mailbox rest : Mailbox Item) (item : Item),
      fetchFrom remaining mailbox = some (item, rest) → rest.stack = mailbox.stack := by
    intro remaining
    induction remaining with
    | zero => simp [fetchFrom]
    | succ _ inductionHypothesis =>
      intro mailbox rest item fetched
      cases header : mailbox.headers mailbox.lastp with
      | none =>
        simp only [fetchFrom, header] at fetched
        exact inductionHypothesis { mailbox with lastp := mailbox.lastp + 1 } rest item fetched
      | some =>
        simp only [fetchFrom, header, Option.some.injEq, Prod.mk.injEq] at fetched
        rw [← fetched.2]
  unfold dequeueEnter
  split
  · cases found : fetchFrom (levels - mailbox.lastp) mailbox with
    | none => rfl
    | some result => exact served _ mailbox result.2 result.1 found
  · rfl

/-- The copy loop leaves the shared pointer alone. -/
theorem collect_stack (final : Mailbox Item) (start : Option Item) (moved : List Item)
    (collected : collect priority fuel mailbox start = some (moved, final)) :
    final.stack = mailbox.stack := by
  induction fuel generalizing mailbox start moved with
  | zero =>
    cases start with
    | none => simp_all [collect]
    | some => simp [collect] at collected
  | succ fuel inductionHypothesis =>
    cases start with
    | none => simp_all [collect]
    | some first =>
      cases inner : collect priority fuel (prepend priority mailbox first)
          (mailbox.next first) with
      | none => simp [collect, inner] at collected
      | some reached =>
        simp only [collect, inner, Option.some.injEq, Prod.mk.injEq] at collected
        obtain ⟨_, rfl⟩ := collected
        exact inductionHypothesis (prepend priority mailbox first) _ reached.1 inner

/-- The owner's exchange leaves EMPTY behind, or fails and changes nothing. -/
theorem dequeueExchange_stack (after : Mailbox Item) (seen : Top Item) (moved : List Item)
    (fetch : Fetch Item)
    (exchanged : dequeueExchange levels priority fuel mailbox seen = some (moved, fetch, after)) :
    (mailbox.stack = seen ∧ after.stack = .empty) ∨ (moved = [] ∧ after = mailbox) := by
  unfold dequeueExchange at exchanged
  by_cases current : mailbox.stack = seen
  · left
    refine ⟨current, ?_⟩
    rw [if_pos current] at exchanged
    cases seen with
    | item first =>
      cases collected : collect priority fuel { mailbox with stack := .empty } (some first) with
      | none => simp [collected] at exchanged
      | some result =>
        simp only [collected, Option.some.injEq, Prod.mk.injEq] at exchanged
        have kept := dequeueEnter_stack levels { result.2 with lastp := 0 }
        rw [exchanged.2] at kept
        refine kept.trans ?_
        exact collect_stack priority fuel _ result.2 _ result.1 collected
    | _ =>
      simp only [Option.some.injEq, Prod.mk.injEq] at exchanged
      rw [← exchanged.2.2]
  · right
    simp only [if_neg current, Option.some.injEq, Prod.mk.injEq] at exchanged
    exact ⟨exchanged.1.symm, exchanged.2.2.symm⟩

omit [DecidableEq Item] in
/-- The entry of `dequeue` ends with an item or goes on to the load; it leaves no
exchange pending. -/
theorem dequeueEnter_fetch (seen : Top Item) :
    (dequeueEnter levels mailbox).1 ≠ .exchange seen := by
  unfold dequeueEnter
  split
  · split <;> simp
  · simp

/-- Neither does the owner's exchange. -/
theorem dequeueExchange_fetch (after : Mailbox Item) (seen other : Top Item) (moved : List Item)
    (fetch : Fetch Item)
    (exchanged : dequeueExchange levels priority fuel mailbox seen = some (moved, fetch, after)) :
    fetch ≠ .exchange other := by
  unfold dequeueExchange at exchanged
  by_cases current : mailbox.stack = seen
  · rw [if_pos current] at exchanged
    cases seen with
    | item first =>
      cases collected : collect priority fuel { mailbox with stack := .empty } (some first) with
      | none => simp [collected] at exchanged
      | some result =>
        simp only [collected, Option.some.injEq, Prod.mk.injEq] at exchanged
        have kept := dequeueEnter_fetch levels { result.2 with lastp := 0 } other
        rwa [exchanged.2] at kept
    | _ =>
      simp only [Option.some.injEq, Prod.mk.injEq] at exchanged
      rw [← exchanged.2.1]
      simp
  · simp only [if_neg current, Option.some.injEq, Prod.mk.injEq] at exchanged
    rw [← exchanged.2.1]
    simp

omit [DecidableEq Item] in
/-- Serving a batch by level rearranges its items below the level bound. -/
theorem byLevel_below :
    (byLevel levels priority batch).Perm
      (batch.filter (fun item => decide (priority item < levels))) := by
  induction levels with
  | zero => simp [byLevel]
  | succ levels inductionHypothesis =>
    have split := List.filter_append_perm (fun item => decide (priority item < levels))
      (batch.filter (fun item => decide (priority item < levels + 1)))
    have lower : (batch.filter (fun item => decide (priority item < levels + 1))).filter
        (fun item => decide (priority item < levels)) =
        batch.filter (fun item => decide (priority item < levels)) := by
      rw [List.filter_filter]
      apply List.filter_congr
      intro item _
      simp only [← Bool.decide_and]
      congr 1
      exact propext ⟨fun both => both.1, fun below => ⟨below, by omega⟩⟩
    have last : (batch.filter (fun item => decide (priority item < levels + 1))).filter
        (fun item => !decide (priority item < levels)) =
        batch.filter (fun item => decide (priority item = levels)) := by
      rw [List.filter_filter]
      apply List.filter_congr
      intro item _
      simp only [← Bool.decide_and, ← decide_not]
      congr 1
      exact propext ⟨fun both => by omega, fun same => ⟨by omega, by omega⟩⟩
    rw [lower, last] at split
    refine List.Perm.trans ?_ split
    simp only [byLevel, List.range_succ, List.flatMap_append, List.flatMap_singleton]
    exact inductionHypothesis.append_right _

omit [DecidableEq Item] in
/-- When every priority is below the bound, a served batch is a rearrangement of
the batch: nothing is dropped and nothing is repeated. -/
theorem byLevel_perm (bounded : ∀ item, priority item < levels) :
    (byLevel levels priority batch).Perm batch := by
  have everything : batch.filter (fun item => decide (priority item < levels)) = batch := by
    rw [List.filter_eq_self]
    intro item _
    exact decide_eq_true (bounded item)
  simpa only [everything] using byLevel_below levels priority batch

omit [DecidableEq Item] in
/-- Serving by level keeps the items of one level in the order of the batch. -/
theorem byLevel_filter (level : Nat) :
    (byLevel levels priority batch).filter (fun item => priority item = level) =
      if level < levels then batch.filter (fun item => priority item = level) else [] := by
  induction levels with
  | zero => simp [byLevel]
  | succ levels inductionHypothesis =>
    have unrolled : byLevel (levels + 1) priority batch =
        byLevel levels priority batch ++
          batch.filter (fun item => priority item = levels) := by
      simp only [byLevel, List.range_succ, List.flatMap_append, List.flatMap_singleton]
    rw [unrolled, List.filter_append, inductionHypothesis, List.filter_filter]
    by_cases last : level = levels
    · subst last
      simp
    · have none_here : batch.filter (fun item =>
          decide (priority item = level) && decide (priority item = levels)) = [] := by
        rw [List.filter_eq_nil_iff]
        intro item _
        simp only [← Bool.decide_and, decide_eq_true_eq]
        rintro ⟨one, other⟩
        exact last (one.symm.trans other)
      rw [none_here, List.append_nil]
      have same : level < levels ↔ level < levels + 1 := by omega
      simp only [same]

end Mailbox
end Mola
