import Mola.MailboxContents
import Mola.Runs

/-!
# Closing a mailbox

`close` puts the CLOSED mark in the place of the shared pointer and deletes items. From each
private list at or after the cursor it deletes the first item only. On the stack it steps to the
next item and deletes that one, so that the top is never deleted, and every later test reads the
link of an item that was just deleted. The private counter keeps its value.

What follows reads the memory of a deleted item as it was, and notes that it was read. A closed
mailbox refuses `enqueue` and is not blocked or closed again by the other calls. `dequeue` looks
for private items that the counter still claims, or exchanges CLOSED for EMPTY and follows the
mark as an item.

Calls are made one after the other here.
-/

namespace Mola.Mailbox

open Chains

universe u
variable {Item : Type u} [DecidableEq Item]

/-- What `close` has done: the mailbox, the items that were deleted in order, and whether one of
them was read afterwards. -/
structure Closing (Item : Type u) where
  mailbox : Mailbox Item
  deleted : List Item
  dangling : Bool

/-- The loop over the private lists, from the cursor on. -/
def deletePrivate : Nat → Closing Item → Closing Item
  | 0, closing => closing
  | remaining + 1, ⟨mailbox, deleted, dangling⟩ =>
      match mailbox.headers mailbox.lastp with
      | none => deletePrivate remaining
          ⟨{ mailbox with lastp := mailbox.lastp + 1 }, deleted, dangling⟩
      | some cur => deletePrivate remaining
          ⟨{ mailbox with
              headers := Function.update mailbox.headers mailbox.lastp (mailbox.next cur)
              lastp := mailbox.lastp + 1 },
            deleted ++ [cur], dangling || decide (cur ∈ deleted)⟩

/-- The loop over the stack. The link of an item is read by the test, and the item that it
leads to is deleted. -/
def deleteShared (next : Item → Option Item) :
    Nat → Item → List Item → Bool → Option (List Item × Bool)
  | 0, _, _, _ => none
  | fuel + 1, e, deleted, dangling =>
      match next e with
      | none => some (deleted, dangling || decide (e ∈ deleted))
      | some following =>
          deleteShared next fuel following (deleted ++ [following])
            (dangling || decide (e ∈ deleted))

/-- `close`. Running out of fuel has no result. -/
def close (levels fuel : Nat) (mailbox : Mailbox Item) : Option (Closing Item) :=
  let marked : Closing Item := ⟨{ mailbox with stack := .closed }, [], false⟩
  let served :=
    if 0 < mailbox.numInque then deletePrivate (levels - mailbox.lastp) marked else marked
  match mailbox.stack with
  | .item first =>
      (deleteShared mailbox.next fuel first served.deleted served.dangling).map
        fun (deleted, dangling) => ⟨served.mailbox, deleted, dangling⟩
  | _ => some served

variable (priority : Item → Nat) (fuel : Nat) {levels : Nat} {mailbox : Mailbox Item}
  {queued : Nat → List Item}

/-- The private loop moves the cursor past all levels and deletes the first item of each. An item
is in the list of its own level, so none is deleted twice. -/
theorem deletePrivate_exact (remaining : Nat) (mailbox : Mailbox Item) (deleted : List Item)
    (dangling : Bool)
    (leveled : ∀ level item, mailbox.lastp ≤ level → mailbox.headers level = some item →
      priority item = level)
    (earlier : ∀ item ∈ deleted, priority item < mailbox.lastp) :
    ∃ headers, deletePrivate remaining ⟨mailbox, deleted, dangling⟩ =
      ⟨{ mailbox with headers := headers, lastp := mailbox.lastp + remaining },
        deleted ++ (List.range' mailbox.lastp remaining).filterMap mailbox.headers, dangling⟩ := by
  induction remaining generalizing mailbox deleted dangling with
  | zero => exact ⟨mailbox.headers, by simp [deletePrivate]⟩
  | succ remaining inductionHypothesis =>
    have shifted : mailbox.lastp + 1 + remaining = mailbox.lastp + (remaining + 1) := by omega
    cases header : mailbox.headers mailbox.lastp with
    | none =>
      obtain ⟨headers, result⟩ := inductionHypothesis { mailbox with lastp := mailbox.lastp + 1 }
        deleted dangling
        (fun level item above found => leveled level item (Nat.le_of_succ_le above) found)
        (fun item member => Nat.lt_succ_of_lt (earlier item member))
      refine ⟨headers, ?_⟩
      rw [deletePrivate, header]
      dsimp only at result ⊢
      rw [result, List.range'_succ, List.filterMap_cons_none header, shifted]
    | some cur =>
      have own : priority cur = mailbox.lastp := leveled _ cur (Nat.le_refl _) header
      have fresh : cur ∉ deleted := by
        intro member
        have below := earlier cur member
        omega
      have others : ∀ level, mailbox.lastp + 1 ≤ level →
          Function.update mailbox.headers mailbox.lastp (mailbox.next cur) level =
            mailbox.headers level :=
        fun level above => Function.update_of_ne (by omega) _ _
      obtain ⟨headers, result⟩ := inductionHypothesis
        { mailbox with
          headers := Function.update mailbox.headers mailbox.lastp (mailbox.next cur)
          lastp := mailbox.lastp + 1 }
        (deleted ++ [cur]) dangling
        (fun level item above found => leveled level item (Nat.le_of_succ_le above)
          ((others level above).symm.trans found))
        (by
          intro item member
          rcases List.mem_append.mp member with old | new
          · exact Nat.lt_succ_of_lt (earlier item old)
          · rw [List.mem_singleton.mp new, own]
            exact Nat.lt_succ_self _)
      have later : (List.range' (mailbox.lastp + 1) remaining).filterMap
          (Function.update mailbox.headers mailbox.lastp (mailbox.next cur)) =
          (List.range' (mailbox.lastp + 1) remaining).filterMap mailbox.headers :=
        List.filterMap_congr fun level inside => others level (List.mem_range'_1.mp inside).1
      refine ⟨headers, ?_⟩
      rw [deletePrivate, header]
      dsimp only at result ⊢
      rw [decide_eq_false fresh, Bool.or_false, result, later, List.range'_succ,
        List.filterMap_cons_some header, List.append_assoc, List.singleton_append, shifted]

/-- The shared loop deletes all items after the one it starts with, and reads each of them
afterwards. -/
theorem deleteShared_exact (next : Item → Option Item) (fuel : Nat) (first : Item)
    (rest deleted : List Item) (dangling : Bool) (chained : Chain next (next first) rest)
    (enough : rest.length < fuel) :
    deleteShared next fuel first deleted dangling =
      some (deleted ++ rest, dangling || decide (first ∈ deleted) || !rest.isEmpty) := by
  induction rest generalizing fuel first deleted dangling with
  | nil =>
    obtain ⟨less, rfl⟩ : ∃ less, fuel = less + 1 := ⟨fuel - 1, by omega⟩
    have ends : next first = none := chained
    simp [deleteShared, ends]
  | cons second rest inductionHypothesis =>
    obtain ⟨less, rfl⟩ : ∃ less, fuel = less + 1 := ⟨fuel - 1, by omega⟩
    obtain ⟨leads, tail⟩ := chained
    have shorter : rest.length < less := by simpa using enough
    simp [deleteShared, leads, inductionHypothesis less second _ _ tail shorter]

/-- The first items of the private lists. -/
def firsts (levels : Nat) (queued : Nat → List Item) : List Item :=
  held levels fun level => (queued level).head?.toList

omit [DecidableEq Item] in
theorem chain_head {next : Item → Option Item} {start : Option Item} {nodes : List Item}
    (chained : Chain next start nodes) : start = nodes.head? := by
  cases nodes with
  | nil => exact chained
  | cons => exact chained.1

omit [DecidableEq Item] in
theorem firsts_nil (nothing : held levels queued = []) :
    firsts levels queued = [] := by
  rw [firsts, held_eq_nil]
  intro level inside
  simp [(held_eq_nil levels queued).mp nothing level inside]

/-- The private part of `close`: the first items are deleted, and if the counter is positive
the cursor is behind the last level. -/
theorem private_exact {priority : Item → Nat} {stacked : List Item}
    (consistent : Consistent levels priority mailbox stacked queued) :
    ∃ headers lastp,
      (if 0 < mailbox.numInque then
        deletePrivate (levels - mailbox.lastp) ⟨{ mailbox with stack := .closed }, [], false⟩
      else ⟨{ mailbox with stack := .closed }, [], false⟩) =
        ⟨{ mailbox with stack := .closed, headers := headers, lastp := lastp },
          firsts levels queued, false⟩ ∧
      (0 < mailbox.numInque → levels ≤ lastp) := by
  have heads : ∀ level, mailbox.headers level = (queued level).head? :=
    fun level => chain_head (consistent.queues.chained level)
  by_cases some_ : 0 < mailbox.numInque
  · obtain ⟨headers, result⟩ := deletePrivate_exact priority (levels - mailbox.lastp)
      { mailbox with stack := .closed } [] false
      (by
        intro level item _ found
        rw [heads level] at found
        exact consistent.queues.leveled level item (List.mem_of_head? found))
      (by simp)
    refine ⟨headers, mailbox.lastp + (levels - mailbox.lastp), ?_, fun _ => by omega⟩
    have served := held_from levels mailbox.lastp (fun level => (queued level).head?.toList)
      fun level below inside => by simp [consistent.passed level below inside]
    rw [if_pos some_, result, firsts, served, List.nil_append, List.filterMap_eq_flatMap_toList]
    simp only [heads]
  · have nothing : held levels queued = [] :=
      List.eq_nil_of_length_eq_zero (by rw [← consistent.counted]; omega)
    refine ⟨mailbox.headers, mailbox.lastp, ?_, fun positive => absurd positive some_⟩
    rw [if_neg some_, firsts_nil nothing]

/-- What `close` does: it deletes the first item of each private list and all items of the stack
but the top, and reads a deleted item if the stack has two. The counter stays. -/
theorem close_exact {fuel : Nat} {priority : Item → Nat} {stacked : List Item}
    (consistent : Consistent levels priority mailbox stacked queued)
    (enough : stacked.length ≤ fuel) :
    ∃ headers lastp, close levels fuel mailbox =
        some ⟨{ mailbox with stack := .closed, headers := headers, lastp := lastp },
          firsts levels queued ++ stacked.tail, decide (2 ≤ stacked.length)⟩ ∧
      (0 < mailbox.numInque → levels ≤ lastp) := by
  obtain ⟨headers, lastp, served, behind⟩ :=
    private_exact consistent
  refine ⟨headers, lastp, ?_, behind⟩
  have chained := consistent.chained
  unfold close
  dsimp only
  rw [served]
  cases pointer : mailbox.stack with
  | item first =>
    rw [pointer] at chained
    obtain ⟨rest, rfl, tail⟩ := chain_some _ first _ chained
    have fresh : first ∉ firsts levels queued := by
      intro member
      obtain ⟨level, -, head⟩ := (mem_held levels _ first).mp member
      exact consistent.apart level first (List.mem_of_head? (Option.mem_toList.mp head))
        List.mem_cons_self
    dsimp only
    rw [deleteShared_exact mailbox.next fuel first rest _ false tail enough,
      decide_eq_false fresh]
    cases rest <;> simp
  | _ =>
    obtain rfl := represents_unstacked priority mailbox stacked queued
      consistent.toRepresents (by rw [pointer]; rfl)
    simp

/-- Every item of some contents was deleted once, no deleted item was read, and the counter says
that there are no private items. -/
def Releases (closing : Closing Item) (contents : List Item) : Prop :=
  closing.deleted.Perm contents ∧ closing.dangling = false ∧ closing.mailbox.numInque = 0

/-- `close` returns, and it releases the contents of a mailbox exactly if there are none. -/
theorem close_releases_iff (levels fuel : Nat) (priority : Item → Nat) (mailbox : Mailbox Item)
    (stacked : List Item) (queued : Nat → List Item)
    (consistent : Consistent levels priority mailbox stacked queued)
    (enough : stacked.length ≤ fuel) :
    ∃ closing, close levels fuel mailbox = some closing ∧
      (Releases closing (held levels queued ++ stacked) ↔
        held levels queued = [] ∧ stacked = []) := by
  obtain ⟨headers, lastp, result, -⟩ :=
    close_exact consistent enough
  refine ⟨_, result, ?_⟩
  constructor
  · rintro ⟨deleted, -, counter⟩
    have nothing : held levels queued = [] :=
      List.eq_nil_of_length_eq_zero (consistent.counted.symm.trans counter)
    refine ⟨nothing, ?_⟩
    rw [nothing, firsts_nil nothing, List.nil_append, List.nil_append] at deleted
    have length := deleted.length_eq
    rw [List.length_tail] at length
    exact List.eq_nil_of_length_eq_zero (by omega)
  · rintro ⟨nothing, rfl⟩
    refine ⟨?_, rfl, ?_⟩
    · rw [nothing, firsts_nil nothing]
      exact List.Perm.nil
    · exact consistent.counted.trans (by rw [nothing]; rfl)

/-- A mailbox with one level, an item on the stack and two private items. -/
def filled : Mailbox Nat where
  stack := .item 3
  headers := fun level => if level = 0 then some 1 else none
  numInque := 2
  lastp := 0
  next := fun item => if item = 1 then some 2 else none

/-- Its contents. -/
theorem filled_consistent :
    Consistent 1 (fun _ => 0) filled [3] (fun level => if level = 0 then [1, 2] else []) where
  chained := ⟨rfl, rfl⟩
  distinct := by decide
  queues :=
    { chained := by
        intro level
        by_cases first : level = 0
        · subst first
          exact ⟨rfl, rfl, rfl⟩
        · simp only [filled, if_neg first]
          rfl
      leveled := by
        intro level item member
        by_cases first : level = 0
        · exact first.symm
        · simp [first] at member
      distinct := by
        intro level
        by_cases first : level = 0 <;> simp [first] }
  apart := by
    intro level item member
    by_cases first : level = 0
    · simp only [first, if_true] at member
      revert member item
      decide
    · simp [first] at member
  counted := by decide
  passed := by
    intro level below
    exact absurd below (Nat.not_lt_zero level)

/-- A new mailbox is closed without a trace. -/
theorem close_releases_new :
    ∃ closing, close 1 0 (create 0 fun _ => none : Mailbox Nat) = some closing ∧
      Releases closing [] := by
  obtain ⟨closing, result, releases⟩ := close_releases_iff 1 0 (fun _ => 0)
    (create 0 fun _ => none : Mailbox Nat) [] (fun _ => [])
    { create_represents (fun _ => 0) 0 (fun _ => none) with
      counted := rfl
      passed := fun _ _ _ => rfl } (Nat.le_refl 0)
  exact ⟨closing, result, releases.mpr ⟨rfl, rfl⟩⟩

/-- Two items on the stack. -/
def twoStacked : Mailbox Nat where
  stack := .item 2
  headers := fun _ => none
  numInque := 0
  lastp := 0
  next := fun item => if item = 2 then some 1 else none

/-- Of three items one is deleted, and the counter still says two. Of two items on the stack the
lower one is deleted and then read. -/
theorem close_leaks :
    Consistent 1 (fun _ => 0) filled [3] (fun level => if level = 0 then [1, 2] else []) ∧
      (∃ closing, close 1 1 filled = some closing ∧ closing.deleted = [1] ∧
        closing.mailbox.numInque = 2) ∧
      ∃ closing, close 1 2 twoStacked = some closing ∧ closing.deleted = [1] ∧
        closing.dangling = true :=
  ⟨filled_consistent, ⟨_, rfl, rfl, rfl⟩, _, rfl, rfl, rfl⟩

/-- The calls on a mailbox. -/
inductive Call (Item : Type u) where
  | enqueue (item : Item)
  | dequeue
  | tryBlock
  | close
deriving DecidableEq

/-- What a call answers, or that it ended in a failed assertion or a dereferenced mark. -/
inductive Answer (Item : Type u) where
  | enqueued (status : EnqueueStatus)
  | dequeued (item : Option Item)
  | blocked (result : Bool)
  | closed
  | fault
deriving DecidableEq

/-- `enqueue`, with nobody else at the mailbox. -/
def enqueueCall (mailbox : Mailbox Item) (item : Item) : Option (Answer Item × Mailbox Item) :=
  match enqueueLoad mailbox item with
  | none => some (.enqueued .failure, mailbox)
  | some (seen, linked) =>
      (enqueueExchange linked item seen).map fun (status, after) => (.enqueued status, after)

omit [DecidableEq Item] in
/-- What `dequeue` answers where it stands, if it does not exchange. -/
def fetchAnswer : Fetch Item × Mailbox Item → Option (Answer Item × Mailbox Item)
  | (.returned item, mailbox) => some (.dequeued item, mailbox)
  | (.fault, mailbox) => some (.fault, mailbox)
  | _ => none

/-- `dequeue`, with nobody else at the mailbox. -/
def dequeueCall (levels : Nat) (priority : Item → Nat) (fuel : Nat) (mailbox : Mailbox Item) :
    Option (Answer Item × Mailbox Item) :=
  match dequeueEnter levels mailbox with
  | (.load, mailbox) =>
      match dequeueLoad mailbox with
      | .exchange seen =>
          match dequeueExchange levels priority fuel mailbox seen with
          | some (_, .load, after) => fetchAnswer (dequeueLoad after, after)
          | some (_, fetch, after) => fetchAnswer (fetch, after)
          | none => none
      | fetch => fetchAnswer (fetch, mailbox)
  | served => fetchAnswer served

/-- `try_block`, with nobody else at the mailbox. -/
def tryBlockCall (mailbox : Mailbox Item) : Answer Item × Mailbox Item :=
  if tryBlockEnter mailbox then (.blocked false, mailbox)
  else if tryBlockLoad mailbox then
    match tryBlockExchange mailbox with
    | some after => (.blocked true, after)
    | none => (.blocked false, mailbox)
  else (.blocked false, mailbox)

/-- One call. Running out of fuel has no result. -/
def perform (levels : Nat) (priority : Item → Nat) (fuel : Nat) (mailbox : Mailbox Item) :
    Call Item → Option (Answer Item × Mailbox Item)
  | .enqueue item => enqueueCall mailbox item
  | .dequeue => dequeueCall levels priority fuel mailbox
  | .tryBlock => some (tryBlockCall mailbox)
  | .close => (close levels fuel mailbox).map fun closing => (.closed, closing.mailbox)

/-- The mailbox after a call. -/
def callStep (levels : Nat) (priority : Item → Nat) (fuel : Nat) (mailbox : Mailbox Item)
    (call : Call Item) : Option (Mailbox Item) :=
  (perform levels priority fuel mailbox call).map Prod.snd

/-- What a call on a closed mailbox should answer: an enqueue fails, a dequeue returns null, and
nothing ends in a fault. -/
def refused : Call Item → Answer Item → Bool
  | .enqueue _, .enqueued .failure => true
  | .dequeue, .dequeued none => true
  | .tryBlock, .blocked _ => true
  | .close, .closed => true
  | _, _ => false

/-- A call answers as it should, leaves the CLOSED mark, and if it is an enqueue changes
nothing. -/
def Refuses (levels : Nat) (priority : Item → Nat) (fuel : Nat) (mailbox : Mailbox Item)
    (call : Call Item) : Prop :=
  ∃ answer after, perform levels priority fuel mailbox call = some (answer, after) ∧
    refused call answer = true ∧ after.stack = .closed ∧
    ∀ item, call = .enqueue item → after = mailbox

/-- A closed mailbox: the cursor is behind the last level if the counter is positive. -/
def Shut (levels : Nat) (mailbox : Mailbox Item) : Prop :=
  mailbox.stack = .closed ∧ (0 < mailbox.numInque → levels ≤ mailbox.lastp)

omit [DecidableEq Item] in
theorem shut_levels (shut : Shut levels mailbox) (claimed : 0 < mailbox.numInque) :
    levels - mailbox.lastp = 0 :=
  Nat.sub_eq_zero_of_le (shut.2 claimed)

/-- The private loop moves the cursor and leaves the pointer and the counter. -/
theorem deletePrivate_frame (remaining : Nat) (closing : Closing Item) :
    (deletePrivate remaining closing).mailbox.stack = closing.mailbox.stack ∧
      (deletePrivate remaining closing).mailbox.numInque = closing.mailbox.numInque ∧
      (deletePrivate remaining closing).mailbox.lastp = closing.mailbox.lastp + remaining := by
  induction remaining generalizing closing with
  | zero => exact ⟨rfl, rfl, rfl⟩
  | succ remaining inductionHypothesis =>
    obtain ⟨mailbox, deleted, dangling⟩ := closing
    have shifted : mailbox.lastp + 1 + remaining = mailbox.lastp + (remaining + 1) := by omega
    unfold deletePrivate
    split
    · obtain ⟨stack, counter, cursor⟩ := inductionHypothesis
        ⟨{ mailbox with lastp := mailbox.lastp + 1 }, deleted, dangling⟩
      exact ⟨stack, counter, cursor.trans shifted⟩
    · rename_i cur found
      obtain ⟨stack, counter, cursor⟩ := inductionHypothesis
        ⟨{ mailbox with
            headers := Function.update mailbox.headers mailbox.lastp (mailbox.next cur)
            lastp := mailbox.lastp + 1 },
          deleted ++ [cur], dangling || decide (cur ∈ deleted)⟩
      exact ⟨stack, counter, cursor.trans shifted⟩

/-- `close` leaves a closed mailbox. -/
theorem close_shut {levels fuel : Nat} {mailbox : Mailbox Item} {closing : Closing Item}
    (closes : close levels fuel mailbox = some closing) : Shut levels closing.mailbox := by
  have served : Shut levels (if 0 < mailbox.numInque then
      deletePrivate (levels - mailbox.lastp) ⟨{ mailbox with stack := .closed }, [], false⟩
    else ⟨{ mailbox with stack := .closed }, [], false⟩).mailbox := by
    split
    · obtain ⟨stack, -, cursor⟩ := deletePrivate_frame (levels - mailbox.lastp)
        ⟨{ mailbox with stack := .closed }, [], false⟩
      refine ⟨stack, fun _ => ?_⟩
      rw [cursor]
      dsimp only
      omega
    · rename_i none_
      exact ⟨rfl, fun positive => absurd positive none_⟩
  unfold close at closes
  dsimp only at closes
  split at closes
  · obtain ⟨result, -, rfl⟩ := Option.map_eq_some_iff.mp closes
    exact served
  · cases closes
    exact served

/-- Closing a closed mailbox again changes nothing. -/
theorem close_again (shut : Shut levels mailbox) :
    close levels fuel mailbox = some ⟨mailbox, [], false⟩ := by
  have same : ({ mailbox with stack := .closed } : Mailbox Item) = mailbox := by
    rw [← shut.1]
  have served : (if 0 < mailbox.numInque then
      deletePrivate (levels - mailbox.lastp) ⟨mailbox, [], false⟩
    else ⟨mailbox, [], false⟩) = ⟨mailbox, [], false⟩ := by
    split
    · rename_i claimed
      rw [shut_levels shut claimed]
      rfl
    · rfl
  unfold close
  simp only [shut.1, same, served]

/-- All calls but `dequeue` are refused, and change nothing. -/
theorem perform_shut {call : Call Item} (shut : Shut levels mailbox) (other : call ≠ .dequeue) :
    ∃ answer, perform levels priority fuel mailbox call = some (answer, mailbox) ∧
      refused call answer = true := by
  cases call with
  | enqueue =>
    refine ⟨.enqueued .failure, ?_, rfl⟩
    simp only [perform, enqueueCall, enqueueLoad, shut.1, if_true]
  | dequeue => exact absurd rfl other
  | tryBlock =>
    refine ⟨.blocked false, ?_, rfl⟩
    simp only [perform, tryBlockCall, tryBlockLoad, shut.1]
    split <;> rfl
  | close =>
    refine ⟨.closed, ?_, rfl⟩
    rw [perform, close_again fuel shut]
    rfl

/-- `dequeue` ends in a fault. -/
theorem dequeue_shut (shut : Shut levels mailbox) :
    ∃ after, perform levels priority fuel mailbox .dequeue = some (.fault, after) := by
  by_cases claimed : 0 < mailbox.numInque
  · -- The loop over the levels is over, and the assertion behind it fails.
    refine ⟨mailbox, ?_⟩
    have entered : dequeueEnter levels mailbox = (.fault, mailbox) := by
      rw [dequeueEnter, if_pos claimed, shut_levels shut claimed]
      rfl
    rw [perform, dequeueCall, entered]
    rfl
  · -- The CLOSED mark is exchanged for EMPTY and followed.
    refine ⟨{ mailbox with stack := .empty }, ?_⟩
    have entered : dequeueEnter levels mailbox = (.load, mailbox) := by
      rw [dequeueEnter, if_neg claimed]
    simp only [perform, dequeueCall, entered, dequeueLoad, dequeueExchange, shut.1, if_true,
      fetchAnswer]

/-- A closed mailbox stays closed in a sequence of calls exactly if none of them is a
`dequeue`. -/
theorem shut_refuses_iff (calls : List (Call Item)) (shut : Shut levels mailbox) :
    Runs.Along (callStep levels priority fuel) (Refuses levels priority fuel) mailbox calls ↔
      .dequeue ∉ calls := by
  induction calls with
  | nil => exact iff_of_true trivial (by simp)
  | cons call _ inductionHypothesis =>
    by_cases taking : call = .dequeue
    · subst taking
      obtain ⟨after, faults⟩ := dequeue_shut priority fuel shut
      refine iff_of_false ?_ fun absent => absent List.mem_cons_self
      rintro ⟨⟨answer, other, answered, right, -⟩, -⟩
      obtain ⟨rfl, -⟩ := Prod.mk.inj (Option.some.inj (faults.symm.trans answered))
      cases right
    · obtain ⟨answer, answered, right⟩ :=
        perform_shut priority fuel shut taking
      have stays : callStep levels priority fuel mailbox call = some mailbox := by
        rw [callStep, answered]
        rfl
      have first : Refuses levels priority fuel mailbox call :=
        ⟨answer, mailbox, answered, right, shut.1, fun _ _ => rfl⟩
      rw [Runs.Along, stays]
      dsimp only
      rw [inductionHypothesis, List.mem_cons, not_or]
      exact ⟨fun both => ⟨fun same => taking same.symm, both.2⟩, fun both => ⟨first, both.2⟩⟩

/-- After `close`, every enqueue fails, every dequeue returns null, the mark stays and nothing
faults, for exactly the sequences of calls without a `dequeue`. -/
theorem closed_refuses_iff (levels fuel : Nat) (priority : Item → Nat) (mailbox : Mailbox Item)
    (closing : Closing Item) (closes : close levels fuel mailbox = some closing) (later : Nat)
    (calls : List (Call Item)) :
    Runs.Along (callStep levels priority later) (Refuses levels priority later) closing.mailbox
      calls ↔ .dequeue ∉ calls :=
  shut_refuses_iff priority later calls
    (close_shut closes)

/-- Calls on a closed mailbox without a `dequeue`. -/
theorem closed_refuses_filled :
    ∃ closing, close 1 1 filled = some closing ∧
      Runs.Along (callStep 1 (fun _ => 0) 1) (Refuses 1 (fun _ => 0) 1) closing.mailbox
        [.enqueue 5, .tryBlock, .close, .enqueue 6] :=
  ⟨_, rfl, (closed_refuses_iff 1 1 (fun _ => 0) filled _ rfl 1 _).mpr (by decide)⟩

/-- A `dequeue` after `close`: with private items the assertion fails, without them the mark is
followed as an item and CLOSED is lost. -/
theorem dequeue_after_close :
    (∃ closing, close 1 1 filled = some closing ∧ closing.mailbox.stack = .closed ∧
        (perform 1 (fun _ => 0) 1 closing.mailbox .dequeue).map Prod.fst = some .fault) ∧
      ∃ closing after, close 1 0 (create 0 fun _ => none : Mailbox Nat) = some closing ∧
        perform 1 (fun _ => 0) 1 closing.mailbox .dequeue = some (.fault, after) ∧
        after.stack = .empty :=
  ⟨⟨_, rfl, rfl, rfl⟩, _, _, rfl, rfl, rfl⟩

end Mola.Mailbox
