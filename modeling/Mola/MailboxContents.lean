import Mola.Mailbox
import Mola.Places

/-!
# What the mailbox operations do to its contents

The representation of a mailbox by a stack and private lists is strengthened by
the two private fields: the counter is the number of private items, and every
level below the cursor is empty. Each operation of the source has one law here,
in terms of the contents before and after it. Callers use these laws and do not
unfold the operations.

A second predicate follows the items themselves. An item is allocated, in the
hands of one producer, on the stack, or in one private list; the allocator hands
out only items that are in none of these places. The counter law needs a bound on
the length of one batch, because the counter is a 32-bit word.
-/

namespace Mola.Mailbox

open Chains

universe u v
variable {Item : Type u} [DecidableEq Item]

/-- The contents together with the private counter and the cursor. -/
structure Consistent (levels : Nat) (priority : Item → Nat) (mailbox : Mailbox Item)
    (stacked : List Item) (queued : Nat → List Item) : Prop
    extends Represents priority mailbox stacked queued where
  counted : mailbox.numInque = (held levels queued).length
  passed : ∀ level, level < mailbox.lastp → level < levels → queued level = []

omit [DecidableEq Item] in
/-- Membership in the served order is membership at some level below the bound. -/
theorem mem_held (levels : Nat) (queued : Nat → List Item) (item : Item) :
    item ∈ held levels queued ↔ ∃ level, level < levels ∧ item ∈ queued level := by
  simp [held]

omit [DecidableEq Item] in
theorem held_eq_nil (levels : Nat) (queued : Nat → List Item) :
    held levels queued = [] ↔ ∀ level, level < levels → queued level = [] := by
  simp [held]

omit [DecidableEq Item] in
/-- Levels before the cursor are empty, so the served order starts at the cursor. -/
theorem held_from (levels cursor : Nat) (queued : Nat → List Item)
    (passed : ∀ level, level < cursor → level < levels → queued level = []) :
    held levels queued = (List.range' cursor (levels - cursor)).flatMap queued := by
  by_cases within : cursor ≤ levels
  · have split : List.range levels =
        List.range' 0 cursor ++ List.range' cursor (levels - cursor) := by
      have added : levels = cursor + (levels - cursor) := by omega
      rw [List.range_eq_range', added, ← List.range'_append_1]
      simp
    have before : (List.range' 0 cursor).flatMap queued = [] := by
      simp only [List.flatMap_eq_nil_iff, List.mem_range'_1]
      intro level bound
      exact passed level (by omega) (by omega)
    rw [held, split, List.flatMap_append, before, List.nil_append]
  · have none_left : levels - cursor = 0 := by omega
    have vacant : held levels queued = [] :=
      (held_eq_nil levels queued).mpr (fun level bound => passed level (by omega) bound)
    simp [none_left, vacant]

omit [DecidableEq Item] in
/-- Removing the first item of a level whose predecessors are empty removes the
first item of the served order. -/
theorem held_tail (levels level : Nat) (queued : Nat → List Item) (first : Item)
    (tail rest : List Item) (within : level < levels)
    (before : ∀ below, below < level → queued below = [])
    (found : queued level = first :: tail) (order : held levels queued = first :: rest) :
    held levels (Function.update queued level tail) = rest := by
  have passed : ∀ below, below < level → below < levels → queued below = [] :=
    fun below early _ => before below early
  have passedAfter : ∀ below, below < level → below < levels →
      Function.update queued level tail below = [] := by
    intro below early _
    rw [Function.update_of_ne (by omega)]
    exact before below early
  obtain ⟨count, size⟩ : ∃ count, levels - level = count + 1 := ⟨levels - level - 1, by omega⟩
  have later : (List.range' (level + 1) count).flatMap (Function.update queued level tail) =
      (List.range' (level + 1) count).flatMap queued := by
    apply List.flatMap_congr
    intro other member
    have above := (List.mem_range'_1.mp member).1
    rw [Function.update_of_ne (by omega)]
  rw [held_from levels level queued passed, size, List.range'_succ, List.flatMap_cons, found,
    List.cons_append] at order
  rw [held_from levels level _ passedAfter, size, List.range'_succ, List.flatMap_cons,
    Function.update_self, later]
  exact (List.cons.inj order).2

omit [DecidableEq Item] in
/-- The entry of `dequeue` on an empty counter goes on to the shared pointer, and
there is no private item. -/
theorem dequeueEnter_empty {levels : Nat} {priority : Item → Nat} {mailbox : Mailbox Item}
    {stacked : List Item} {queued : Nat → List Item}
    (consistent : Consistent levels priority mailbox stacked queued)
    (none_left : mailbox.numInque = 0) :
    dequeueEnter levels mailbox = (.load, mailbox) ∧ held levels queued = [] := by
  refine ⟨by simp [dequeueEnter, none_left], ?_⟩
  have counted := consistent.counted
  rw [none_left] at counted
  exact List.length_eq_zero_iff.mp counted.symm

omit [DecidableEq Item] in
/-- Unlinking the first item of a level leaves the private lists without it. -/
theorem queues_tail (priority : Item → Nat) (mailbox : Mailbox Item)
    (queued : Nat → List Item) (level : Nat) (first : Item) (tail : List Item)
    (queues : Queues priority mailbox queued) (found : queued level = first :: tail) :
    Queues priority { mailbox with
        headers := Function.update mailbox.headers level (mailbox.next first) }
      (Function.update queued level tail) := by
  have chain := queues.chained level
  have distinct := queues.distinct level
  rw [found] at chain distinct
  refine ⟨?_, ?_, ?_⟩
  · intro other
    by_cases here : other = level
    · subst here
      simp only [Function.update_self]
      exact chain.2
    · simp only [Function.update_of_ne here]
      exact queues.chained other
  · intro other item member
    by_cases here : other = level
    · subst here
      rw [Function.update_self] at member
      exact queues.leveled other item (found ▸ List.mem_cons_of_mem first member)
    · rw [Function.update_of_ne here] at member
      exact queues.leveled other item member
  · intro other
    by_cases here : other = level
    · subst here
      rw [Function.update_self]
      exact (List.nodup_cons.mp distinct).2
    · rw [Function.update_of_ne here]
      exact queues.distinct other

omit [DecidableEq Item] in
/-- An unlinked first item is in no private list, and the lists only shrink. -/
theorem tail_members (priority : Item → Nat) (mailbox : Mailbox Item)
    (queued : Nat → List Item) (level : Nat) (first : Item) (tail : List Item)
    (queues : Queues priority mailbox queued) (found : queued level = first :: tail)
    (other : Nat) (item : Item) (member : item ∈ Function.update queued level tail other) :
    item ∈ queued other ∧ item ≠ first := by
  by_cases here : other = level
  · subst here
    rw [Function.update_self] at member
    have distinct := queues.distinct other
    rw [found] at distinct ⊢
    refine ⟨List.mem_cons_of_mem first member, ?_⟩
    rintro rfl
    exact (List.nodup_cons.mp distinct).1 member
  · rw [Function.update_of_ne here] at member
    refine ⟨member, ?_⟩
    rintro rfl
    have itsLevel : priority item = level :=
      queues.leveled level item (by rw [found]; exact List.mem_cons_self)
    exact here ((queues.leveled other item member).symm.trans itsLevel)

omit [DecidableEq Item] in
/-- The entry of `dequeue` on a positive counter returns the first private item
and never meets the failed assertion. The shared pointer and the links stay as
they were.

Proof: a positive counter makes the served order nonempty, and it starts at the
cursor. The cursor loop finds its first item; what remains is the rest of the
served order, with the cursor at the level just served. -/
theorem dequeueEnter_first (levels : Nat) (priority : Item → Nat) (mailbox : Mailbox Item)
    (stacked : List Item) (queued : Nat → List Item)
    (consistent : Consistent levels priority mailbox stacked queued)
    (positive : 0 < mailbox.numInque) :
    ∃ first rest queued' after,
      held levels queued = first :: rest ∧ held levels queued' = rest ∧
      dequeueEnter levels mailbox = (.returned (some first), after) ∧
      after.stack = mailbox.stack ∧ after.next = mailbox.next ∧
      Consistent levels priority after stacked queued' ∧
      (∀ level, ∀ item ∈ queued' level, item ∈ queued level ∧ item ≠ first) := by
  have counted := consistent.counted
  obtain ⟨first, rest, order⟩ : ∃ first rest, held levels queued = first :: rest := by
    cases shape : held levels queued with
    | nil =>
      rw [shape, List.length_nil] at counted
      omega
    | cons first rest => exact ⟨first, rest, rfl⟩
  have fromCursor := held_from levels mailbox.lastp queued consistent.passed
  obtain ⟨level, tail, above, within, skipped, found, fetched⟩ :=
    fetchFrom_first priority (levels - mailbox.lastp) mailbox queued first rest
      consistent.queues (fromCursor.symm.trans order)
  have bound : level < levels := by omega
  have before : ∀ below, below < level → queued below = [] := by
    intro below early
    by_cases reached : mailbox.lastp ≤ below
    · exact skipped below reached early
    · exact consistent.passed below (by omega) (by omega)
  have remaining : held levels (Function.update queued level tail) = rest :=
    held_tail levels level queued first tail rest bound before found order
  have queues := queues_tail priority mailbox queued level first tail consistent.queues found
  have members := tail_members priority mailbox queued level first tail consistent.queues found
  let after : Mailbox Item := { mailbox with
    headers := Function.update mailbox.headers level (mailbox.next first)
    numInque := mailbox.numInque - 1
    lastp := level }
  have entered : dequeueEnter levels mailbox = (.returned (some first), after) := by
    simp only [dequeueEnter, positive, if_true, fetched]
    rfl
  refine ⟨first, rest, Function.update queued level tail, after, order, remaining, entered,
    rfl, rfl, ?_, members⟩
  exact
    { chained := consistent.chained
      distinct := consistent.distinct
      queues := ⟨queues.chained, queues.leveled, queues.distinct⟩
      apart := fun other item member =>
        consistent.apart other item (members other item member).1
      counted := by
        rw [order, List.length_cons] at counted
        rw [remaining]
        simp only [after]
        omega
      passed := by
        intro below early _
        rw [Function.update_of_ne (Nat.ne_of_lt early)]
        exact before below early }

omit [DecidableEq Item] in
/-- With all priorities below the bound, no private item means no private list. -/
theorem queued_empty {levels : Nat} {priority : Item → Nat} {mailbox : Mailbox Item}
    {queued : Nat → List Item} (bounded : ∀ item, priority item < levels)
    (queues : Queues priority mailbox queued) (vacant : held levels queued = []) :
    queued = fun _ => [] := by
  funext level
  by_cases within : level < levels
  · exact (held_eq_nil levels queued).mp vacant level within
  · refine List.eq_nil_iff_forall_not_mem.mpr ?_
    intro item member
    have its : priority item = level := queues.leveled level item member
    have below := bounded item
    omega

/-- The owner's successful exchange takes the whole stack as one batch and returns
the first item of that batch in the order by level. The rest of the batch becomes
the private items. The batch must be shorter than the counter's range.

Proof: a zero counter means that the private lists are empty, so the copy loop
leaves in each list exactly its level of the reversed stack. Their concatenation
is the batch by level, whose length is the unwrapped counter; the entry of
`dequeue` then serves its first item. -/
theorem dequeueExchange_taken {levels : Nat} {priority : Item → Nat} {fuel : Nat}
    {mailbox after : Mailbox Item} {first : Item} {stacked moved : List Item}
    {queued : Nat → List Item} {fetch : Fetch Item}
    (bounded : ∀ item, priority item < levels)
    (consistent : Consistent levels priority mailbox stacked queued)
    (none_left : mailbox.numInque = 0) (shared : mailbox.stack = .item first)
    (short : stacked.length < 2 ^ 32)
    (exchanged : dequeueExchange levels priority fuel mailbox (.item first) =
      some (moved, fetch, after)) :
    ∃ served rest queued',
      moved = stacked ∧ fetch = .returned (some served) ∧
      byLevel levels priority stacked.reverse = served :: rest ∧
      held levels queued' = rest ∧ held levels queued = [] ∧ served ∈ stacked ∧
      after.stack = .empty ∧ Consistent levels priority after [] queued' ∧
      (∀ level, ∀ item ∈ queued' level, item ∈ stacked ∧ item ≠ served) ∧
      ∀ node, node ∉ stacked → after.next node = mailbox.next node := by
  have vacant := (dequeueEnter_empty consistent none_left).2
  have nothing := queued_empty bounded consistent.queues vacant
  subst nothing
  have chained : Chain mailbox.next (some first) stacked := by
    simpa only [shared, linkTo] using consistent.chained
  obtain ⟨next, headers, collected, queues, untouched⟩ :=
    collect_exact priority (fuel + stacked.length) { mailbox with stack := .empty } (some first)
      stacked (fun _ => []) chained consistent.distinct
      ⟨consistent.queues.chained, consistent.queues.leveled, consistent.queues.distinct⟩
      (by simp) (by simp [none_left]) (by omega)
  have counted : (mailbox.numInque + stacked.length) % 2 ^ 32 = stacked.length := by
    rw [none_left, Nat.zero_add, Nat.mod_eq_of_lt short]
  let taken : Mailbox Item := ⟨.empty, headers, stacked.length, 0, next⟩
  have entered : moved = stacked ∧ (fetch, after) = dequeueEnter levels taken := by
    simp only [dequeueExchange, shared, if_true] at exchanged
    cases looped : collect priority fuel { mailbox with stack := .empty } (some first) with
    | none => simp [looped] at exchanged
    | some result =>
      have more := collect_fuel priority fuel (fuel + stacked.length) _ _ result looped (by omega)
      have same := Option.some.inj (more.symm.trans collected)
      simp only [looped, same, counted, Option.some.injEq, Prod.mk.injEq] at exchanged
      exact ⟨exchanged.1.symm, exchanged.2.symm⟩
  let lists : Nat → List Item := fun level =>
    stacked.reverse.filter (fun item => priority item = level)
  have listed : (fun level =>
      (stacked.filter (fun item => priority item = level)).reverse ++ []) = lists := by
    funext level
    simp [lists, List.filter_reverse]
  rw [listed] at queues
  have order : held levels lists = byLevel levels priority stacked.reverse := rfl
  have batched : Consistent levels priority taken [] lists :=
    { chained := by simp [taken, linkTo]
      distinct := List.nodup_nil
      queues := ⟨queues.chained, queues.leveled, queues.distinct⟩
      apart := by simp
      counted := by
        rw [order, (byLevel_perm levels priority stacked.reverse bounded).length_eq,
          List.length_reverse]
      passed := by
        intro level early _
        simp only [taken] at early
        omega }
  have nonempty : 0 < taken.numInque := by
    obtain ⟨rest, shape, _⟩ := chain_some _ first stacked chained
    simp [taken, shape]
  obtain ⟨served, rest, queued', final, sequence, remaining, result, finalStack, finalNext,
      finalConsistent, members⟩ :=
    dequeueEnter_first levels priority taken [] lists batched nonempty
  rw [result] at entered
  obtain ⟨sameMoved, sameResult⟩ := entered
  obtain ⟨rfl, rfl⟩ := Prod.mk.inj sameResult
  have inStack : ∀ level, ∀ item ∈ lists level, item ∈ stacked := by
    intro level item member
    exact List.mem_reverse.mp (List.mem_filter.mp member).1
  have servedStack : served ∈ stacked := by
    have member : served ∈ held levels lists := by rw [sequence]; exact List.mem_cons_self
    obtain ⟨level, _, present⟩ := (mem_held levels lists served).mp member
    exact inStack level served present
  refine ⟨served, rest, queued', sameMoved, rfl, order.symm.trans sequence, remaining, vacant,
    servedStack, finalStack, finalConsistent, ?_, ?_⟩
  · intro level item member
    exact ⟨inStack level item (members level item member).1, (members level item member).2⟩
  · intro node outside
    rw [finalNext]
    exact untouched node outside

/-- A batch whose length is a multiple of 2^32 leaves the counter at zero. The owner
goes on to the shared pointer as if its private lists were empty, while the level
of every item of the batch holds at least one item.

Proof: the copy loop adds the length of the chain to a zero counter modulo the
word size. The list of the level of an item of the batch is not empty after the
loop, so its header is not null. -/
theorem dequeueExchange_wraps (levels : Nat) {priority : Item → Nat} {fuel : Nat}
    {mailbox : Mailbox Item} {first : Item} {stacked : List Item} {queued : Nat → List Item}
    (represented : Represents priority mailbox stacked queued)
    (none_left : mailbox.numInque = 0) (shared : mailbox.stack = .item first)
    (wraps : stacked.length % 2 ^ 32 = 0) (enough : stacked.length ≤ fuel) :
    ∃ after, dequeueExchange levels priority fuel mailbox (.item first) =
        some (stacked, .load, after) ∧
      after.numInque = 0 ∧ after.stack = .empty ∧
      ∀ item ∈ stacked, after.headers (priority item) ≠ none := by
  have chained : Chain mailbox.next (some first) stacked := by
    simpa only [shared, linkTo] using represented.chained
  let emptied : Mailbox Item := { mailbox with stack := .empty }
  obtain ⟨links, headers, collected, queues, _⟩ :=
    collect_exact priority fuel emptied (some first) stacked queued chained
      represented.distinct
      ⟨represented.queues.chained, represented.queues.leveled, represented.queues.distinct⟩
      represented.apart (by simp [emptied, none_left]) enough
  have wrapped : (emptied.numInque + stacked.length) % 2 ^ 32 = 0 := by
    simp only [emptied, none_left, Nat.zero_add, wraps]
  rw [wrapped] at collected
  let after : Mailbox Item :=
    { emptied with next := links, headers := headers, numInque := 0, lastp := 0 }
  refine ⟨after, ?_, rfl, rfl, ?_⟩
  · simp only [dequeueExchange, shared, if_true]
    rw [collected]
    simp [dequeueEnter, after]
  · intro item member null
    have chain := queues.chained (priority item)
    dsimp only at chain
    have header : headers (priority item) = none := null
    rw [header, chain_none, List.append_eq_nil_iff, List.reverse_eq_nil_iff,
      List.filter_eq_nil_iff] at chain
    exact chain.1 item member (decide_eq_true rfl)

/-- Enough fuel lets the owner's exchange complete: the copy loop of a represented
mailbox ends. -/
theorem dequeueExchange_completes (levels : Nat) {priority : Item → Nat}
    {mailbox : Mailbox Item} (seen : Top Item) {stacked : List Item} {queued : Nat → List Item}
    (represented : Represents priority mailbox stacked queued)
    (counter : mailbox.numInque < 2 ^ 32) :
    (dequeueExchange levels priority stacked.length mailbox seen).isSome := by
  unfold dequeueExchange
  by_cases same : mailbox.stack = seen
  · subst same
    cases pointer : mailbox.stack with
    | item first =>
      have chained : Chain mailbox.next (some first) stacked := by
        simpa only [pointer, linkTo] using represented.chained
      obtain ⟨next, headers, collected, _⟩ :=
        collect_exact priority stacked.length { mailbox with stack := .empty } (some first)
          stacked queued chained represented.distinct
          ⟨represented.queues.chained, represented.queues.leveled, represented.queues.distinct⟩
          represented.apart counter le_rfl
      simp [collected]
    | empty | blocked | closed => simp
  · simp [same]

/-- Where the allocated items are. Items in the hands of a producer are in no
list, and no two producers hold the same item. -/
structure Custody {Thread : Type v} (allocated stacked : List Item)
    (queued : Nat → List Item) (hands : Thread → Option Item) : Prop where
  onStack : ∀ item ∈ stacked, item ∈ allocated
  inQueues : ∀ level, ∀ item ∈ queued level, item ∈ allocated
  apart : ∀ thread item, hands thread = some item →
    item ∈ allocated ∧ item ∉ stacked ∧ ∀ level, item ∉ queued level
  single : ∀ one other item, hands one = some item → hands other = some item → one = other

variable {Thread : Type v} [DecidableEq Thread]

variable (first : Item) (tail : List Item) {hands : Thread → Option Item}

omit [DecidableEq Item] in
/-- A newly allocated item is in the hands of its producer only. -/
theorem custody_allocate {allocated stacked : List Item} {queued : Nat → List Item}
    (thread : Thread) {item : Item} (custody : Custody allocated stacked queued hands)
    (fresh : item ∉ allocated) :
    Custody (item :: allocated) stacked queued
      (Function.update hands thread (some item)) where
  onStack := fun other member => List.mem_cons_of_mem item (custody.onStack other member)
  inQueues := fun level other member =>
    List.mem_cons_of_mem item (custody.inQueues level other member)
  apart := by
    intro holder other held
    obtain ⟨-, new⟩ | ⟨-, older⟩ := (Places.update_place ..).mp held
    · cases new
      exact ⟨List.mem_cons_self, fun member => fresh (custody.onStack _ member),
        fun level member => fresh (custody.inQueues level _ member)⟩
    · obtain ⟨inside, offStack, offQueues⟩ := custody.apart holder other older
      exact ⟨List.mem_cons_of_mem item inside, offStack, offQueues⟩
  single := by
    intro one other shared first second
    -- The new item is in no other hand, so only two old holders or one new one are left.
    obtain ⟨rfl, firstNew⟩ | ⟨-, firstOld⟩ := (Places.update_place ..).mp first
    · obtain ⟨rfl, -⟩ | ⟨-, secondOld⟩ := (Places.update_place ..).mp second
      · rfl
      · cases firstNew
        exact absurd (custody.apart other _ secondOld).1 fresh
    · obtain ⟨-, secondNew⟩ | ⟨-, secondOld⟩ := (Places.update_place ..).mp second
      · cases secondNew
        exact absurd (custody.apart one _ firstOld).1 fresh
      · exact custody.single one other shared firstOld secondOld

omit [DecidableEq Item] in
/-- A producer that gives up its item leaves every other custody as it was. -/
theorem custody_release {allocated stacked : List Item} {queued : Nat → List Item}
    (thread : Thread) (custody : Custody allocated stacked queued hands) :
    Custody allocated stacked queued (Function.update hands thread none) := by
  have older (holder : Thread) (item : Item)
      (held : Function.update hands thread none holder = some item) : hands holder = some item := by
    obtain ⟨-, gone⟩ | ⟨-, kept⟩ := (Places.update_place ..).mp held
    · cases gone
    · exact kept
  refine ⟨custody.onStack, custody.inQueues, ?_, ?_⟩
  · intro holder other held
    exact custody.apart holder other (older holder other held)
  · intro one other shared first second
    exact custody.single one other shared (older one shared first) (older other shared second)

omit [DecidableEq Item] in
/-- Publishing moves an item from its producer's hands to the stack. -/
theorem custody_publish {allocated stacked : List Item} {queued : Nat → List Item}
    {thread : Thread} {item : Item} (custody : Custody allocated stacked queued hands)
    (holding : hands thread = some item) :
    Custody allocated (item :: stacked) queued (Function.update hands thread none) := by
  have released := custody_release thread custody
  refine ⟨?_, released.inQueues, ?_, released.single⟩
  · intro other member
    rcases List.mem_cons.mp member with rfl | member
    · exact (custody.apart thread other holding).1
    · exact custody.onStack other member
  · intro holder other held
    obtain ⟨inside, offStack, offQueues⟩ := released.apart holder other held
    refine ⟨inside, ?_, offQueues⟩
    intro member
    rcases List.mem_cons.mp member with rfl | member
    · by_cases same : holder = thread
      · subst same
        simp at held
      · rw [Function.update_of_ne same] at held
        exact same (custody.single holder thread other held holding)
    · exact offStack member

omit [DecidableEq Thread] in
/-- Returning an item to the caller frees it. Every other item stays where it was
or moves from the stack to a private list. -/
theorem custody_take (allocated stacked stacked' : List Item) (queued queued' : Nat → List Item)
    (hands : Thread → Option Item) (taken : Item)
    (custody : Custody allocated stacked queued hands)
    (wasHeld : taken ∈ stacked ∨ ∃ level, taken ∈ queued level)
    (keptStack : ∀ item ∈ stacked', item ∈ stacked ∧ item ≠ taken)
    (keptQueues : ∀ level, ∀ item ∈ queued' level,
      (item ∈ stacked ∨ item ∈ queued level) ∧ item ≠ taken) :
    Custody (allocated.filter (fun item => item ≠ taken)) stacked' queued' hands where
  onStack := by
    intro item member
    obtain ⟨before, other⟩ := keptStack item member
    simpa [other] using custody.onStack item before
  inQueues := by
    intro level item member
    obtain ⟨before, other⟩ := keptQueues level item member
    have inside : item ∈ allocated := by
      rcases before with before | before
      · exact custody.onStack item before
      · exact custody.inQueues level item before
    simpa [other] using inside
  apart := by
    intro holder item holding
    obtain ⟨inside, offStack, offQueues⟩ := custody.apart holder item holding
    have other : item ≠ taken := by
      rintro rfl
      rcases wasHeld with onStack | ⟨level, inQueue⟩
      · exact offStack onStack
      · exact offQueues level inQueue
    refine ⟨by simpa [other] using inside, ?_, ?_⟩
    · intro member
      exact offStack (keptStack item member).1
    · intro level member
      rcases (keptQueues level item member).1 with before | before
      · exact offStack before
      · exact offQueues level before
  single := custody.single

/-- The state shared by the threads of a mailbox that is never closed: its
contents, the whereabouts of every item, and the link that each producer wrote
for its pending exchange. -/
structure Sound (levels : Nat) (priority : Item → Nat) (mailbox : Mailbox Item)
    (allocated : List Item) (producers : Thread → Enqueue Item)
    (stacked : List Item) (queued : Nat → List Item) : Prop where
  consistent : Consistent levels priority mailbox stacked queued
  unclosed : mailbox.stack ≠ .closed
  custody : Custody allocated stacked queued (Enqueue.hand ∘ producers)
  linked : ∀ thread item seen, producers thread = .exchange item seen →
    mailbox.next item = linkTo seen

omit [DecidableEq Item] [DecidableEq Thread] in
/-- A new mailbox with idle producers is sound and empty. -/
theorem sound_create (levels : Nat) (priority : Item → Nat) (lastp : Nat)
    (next : Item → Option Item) :
    Sound levels priority (create lastp next) [] (fun _ : Thread => .idle) []
      (fun _ => []) where
  consistent :=
    { create_represents priority lastp next with
      counted := by simp [create, held]
      passed := fun _ _ _ => rfl }
  unclosed := by simp [create]
  custody := ⟨by simp, by simp, by simp [Enqueue.hand], by simp [Enqueue.hand]⟩
  linked := by simp

variable {levels : Nat} {priority : Item → Nat} {mailbox : Mailbox Item}
  {allocated : List Item} {producers : Thread → Enqueue Item} {stacked : List Item}
  {queued : Nat → List Item}

omit [DecidableEq Item] in
/-- A call of `enqueue` starts with a newly allocated item. -/
theorem sound_call (sound : Sound levels priority mailbox allocated producers stacked queued)
    (thread : Thread) {item : Item} (fresh : item ∉ allocated) :
    Sound levels priority mailbox (item :: allocated)
      (Function.update producers thread (.load item)) stacked queued where
  consistent := sound.consistent
  unclosed := sound.unclosed
  custody := by
    rw [Function.comp_update]
    exact custody_allocate thread sound.custody fresh
  linked := by
    intro other published seen pending
    by_cases same : other = thread
    · subst same
      simp at pending
    · rw [Function.update_of_ne same] at pending
      exact sound.linked other published seen pending

/-- The producer's load records the pointer and links the item to it. Other
producers hold other items, so their links stand. -/
theorem sound_load (sound : Sound levels priority mailbox allocated producers stacked queued)
    (thread : Thread) (item : Item) (loading : producers thread = .load item) :
    ∃ after, enqueueLoad mailbox item = some (mailbox.stack, after) ∧
      after.stack = mailbox.stack ∧ after.numInque = mailbox.numInque ∧
      Sound levels priority after allocated
        (Function.update producers thread (.exchange item mailbox.stack)) stacked queued := by
  have holding : (Enqueue.hand ∘ producers) thread = some item := by
    simp [loading, Enqueue.hand]
  obtain ⟨_, offStack, offQueues⟩ := sound.custody.apart thread item holding
  have represented := represents_link priority mailbox stacked queued item
    (linkTo mailbox.stack) sound.consistent.toRepresents offStack offQueues
  refine ⟨{ mailbox with next := Function.update mailbox.next item (linkTo mailbox.stack) },
    by simp [enqueueLoad, sound.unclosed], rfl, rfl, ?_⟩
  refine ⟨{ represented with
      counted := sound.consistent.counted
      passed := sound.consistent.passed }, sound.unclosed, ?_, ?_⟩
  · have unchanged : Enqueue.hand ∘ Function.update producers thread
        (.exchange item mailbox.stack) = Enqueue.hand ∘ producers := by
      rw [Function.comp_update]
      exact Function.update_eq_self_iff.mpr holding.symm
    rw [unchanged]
    exact sound.custody
  · intro other published seen pending
    obtain ⟨-, new⟩ | ⟨same, older⟩ := (Places.update_place ..).mp pending
    · cases new
      exact Function.update_self ..
    · have different : published ≠ item := by
        rintro rfl
        exact same (sound.custody.single other thread published
          (by simp [older, Enqueue.hand]) holding)
      exact (Function.update_of_ne different _ _).trans
        (sound.linked other published seen older)

/-- The producer's exchange either fails and returns to the load, or puts the item
on the stack. The status tells whether the pointer was BLOCKED. -/
theorem sound_exchange (sound : Sound levels priority mailbox allocated producers stacked queued)
    (thread : Thread) (item : Item) (seen : Top Item)
    (exchanging : producers thread = .exchange item seen) :
    (enqueueExchange mailbox item seen = none ∧ mailbox.stack ≠ seen ∧
      Sound levels priority mailbox allocated
        (Function.update producers thread (.load item)) stacked queued) ∨
    (mailbox.stack = seen ∧
      enqueueExchange mailbox item seen =
        some (if seen = .blocked then .unblocked else .success,
          { mailbox with stack := .item item }) ∧
      Sound levels priority { mailbox with stack := .item item } allocated
        (Function.update producers thread .idle) (item :: stacked) queued) := by
  have holding : (Enqueue.hand ∘ producers) thread = some item := by
    simp [exchanging, Enqueue.hand]
  have stillLinked : ∀ next, next = Enqueue.load item ∨ next = Enqueue.idle →
      ∀ other published seen, Function.update producers thread next other =
        .exchange published seen → mailbox.next published = linkTo seen := by
    intro next shape other published seen pending
    obtain ⟨-, new⟩ | ⟨-, older⟩ := (Places.update_place ..).mp pending
    · rcases shape with rfl | rfl <;> cases new
    · exact sound.linked other published seen older
  by_cases current : mailbox.stack = seen
  · right
    obtain ⟨_, offStack, offQueues⟩ := sound.custody.apart thread item holding
    have linked : mailbox.next item = linkTo mailbox.stack := by
      rw [current]
      exact sound.linked thread item seen exchanging
    have represented := represents_push priority mailbox stacked queued item
      sound.consistent.toRepresents linked offStack offQueues
    refine ⟨current, by simp [enqueueExchange, current], ?_⟩
    refine ⟨{ represented with
        counted := sound.consistent.counted
        passed := sound.consistent.passed }, by simp, ?_, stillLinked .idle (Or.inr rfl)⟩
    rw [Function.comp_update]
    exact custody_publish sound.custody holding
  · left
    refine ⟨by simp [enqueueExchange, current], current, sound.consistent, sound.unclosed, ?_,
      stillLinked _ (Or.inl rfl)⟩
    have unchanged : Enqueue.hand ∘ Function.update producers thread (.load item) =
        Enqueue.hand ∘ producers := by
      rw [Function.comp_update]
      exact Function.update_eq_self_iff.mpr holding.symm
    rw [unchanged]
    exact sound.custody

omit [DecidableEq Thread] in
/-- Serving a private item frees it and keeps the rest in order. -/
theorem sound_enter (sound : Sound levels priority mailbox allocated producers stacked queued)
    (positive : 0 < mailbox.numInque) :
    ∃ first rest queued' after,
      held levels queued = first :: rest ∧ held levels queued' = rest ∧
      dequeueEnter levels mailbox = (.returned (some first), after) ∧
      after.stack = mailbox.stack ∧
      Sound levels priority after (allocated.filter (fun item => item ≠ first)) producers
        stacked queued' := by
  obtain ⟨first, rest, queued', after, order, remaining, entered, sameStack, sameNext,
      consistent, members⟩ :=
    dequeueEnter_first levels priority mailbox stacked queued sound.consistent positive
  have wasHeld : ∃ level, first ∈ queued level := by
    have member : first ∈ held levels queued := by rw [order]; exact List.mem_cons_self
    obtain ⟨level, _, present⟩ := (mem_held levels queued first).mp member
    exact ⟨level, present⟩
  refine ⟨first, rest, queued', after, order, remaining, entered, sameStack, consistent,
    by rw [sameStack]; exact sound.unclosed, ?_, by rw [sameNext]; exact sound.linked⟩
  apply custody_take allocated stacked stacked queued queued' _ first sound.custody (Or.inr wasHeld)
  · intro item member
    refine ⟨member, ?_⟩
    rintro rfl
    obtain ⟨level, present⟩ := wasHeld
    exact sound.consistent.apart level item present member
  · intro level item member
    exact ⟨Or.inr (members level item member).1, (members level item member).2⟩

omit [DecidableEq Thread] in
/-- Taking the stack frees the item it serves and makes the rest of the batch
private. -/
theorem sound_taken (sound : Sound levels priority mailbox allocated producers stacked queued)
    (bounded : ∀ item, priority item < levels) {fuel : Nat} {first : Item}
    {moved : List Item} {fetch : Fetch Item} {after : Mailbox Item}
    (none_left : mailbox.numInque = 0) (shared : mailbox.stack = .item first)
    (short : stacked.length < 2 ^ 32)
    (exchanged : dequeueExchange levels priority fuel mailbox (.item first) =
      some (moved, fetch, after)) :
    ∃ served rest queued',
      moved = stacked ∧ stacked ≠ [] ∧ fetch = .returned (some served) ∧
      byLevel levels priority stacked.reverse = served :: rest ∧
      held levels queued' = rest ∧ held levels queued = [] ∧ after.stack = .empty ∧
      Sound levels priority after (allocated.filter (fun item => item ≠ served)) producers
        [] queued' := by
  obtain ⟨served, rest, queued', sameMoved, returned, order, remaining, vacant, servedStack,
      emptied, consistent, members, untouched⟩ :=
    dequeueExchange_taken
      bounded sound.consistent none_left shared short exchanged
  refine ⟨served, rest, queued', sameMoved, List.ne_nil_of_mem servedStack, returned, order,
    remaining, vacant, emptied, consistent, by simp [emptied], ?_, ?_⟩
  · apply custody_take allocated stacked [] queued queued' _ served sound.custody
      (Or.inl servedStack)
    · simp
    · intro level item member
      exact ⟨Or.inl (members level item member).1, (members level item member).2⟩
  · intro thread item seen pending
    have offStack := (sound.custody.apart thread item (by simp [pending, Enqueue.hand])).2.1
    rw [untouched item offStack]
    exact sound.linked thread item seen pending

omit [DecidableEq Item] [DecidableEq Thread] in
/-- Exchanging EMPTY for BLOCKED changes no contents. -/
theorem sound_block (sound : Sound levels priority mailbox allocated producers stacked queued)
    (vacant : mailbox.stack = .empty) :
    Sound levels priority { mailbox with stack := .blocked } allocated producers stacked
      queued where
  consistent :=
    { represents_mark priority mailbox stacked queued .blocked sound.consistent.toRepresents
        (by simp [vacant, linkTo]) rfl with
      counted := sound.consistent.counted
      passed := sound.consistent.passed }
  unclosed := by simp
  custody := sound.custody
  linked := sound.linked

end Mola.Mailbox
