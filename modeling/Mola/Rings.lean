import Mathlib.Data.List.Basic
import Mathlib.Data.List.Range
import Mathlib.Logic.Function.Basic
import Mathlib.Tactic.Common
import Mathlib.Algebra.Order.Ring.Nat

/-!
# Ring buffers with wrapping counters

A ring has a fixed number of slots and two 32-bit counters that only grow and wrap
freely. The counters are compared and subtracted as words. Behind them stand two
unbounded counts, of the items that entered and of those that left; the words are
these counts modulo the word size. When the capacity divides the word size, a slot
is found from a word as from its count.

A reader that is not the owner works from a snapshot: it remembers the head, copies
some slots, and later exchanges the head. The snapshot law says what such a reader
knows at any time, whatever the others did since: either items have left the ring,
or the copied slots are still the items at its head. It is stable under every
change that the owner or another reader can make.

Nothing here mentions threads or a scheduler.
-/

namespace Mola.Rings

universe u
variable {Item : Type u}

/-- The counters as words, the slots, and the unbounded counts of items that left
and entered. The counts are for reasoning only. -/
structure Buffer (Item : Type u) where
  head : Nat
  tail : Nat
  content : Nat → Item
  passed : Nat
  added : Nat

/-- A count as a 32-bit word. -/
def word (count : Nat) : Nat := count % 2 ^ 32

/-- The difference of two words, as unsigned subtraction computes it. -/
def distance (head tail : Nat) : Nat := (tail + 2 ^ 32 - head) % 2 ^ 32

/-- The items in consecutive slots from a counter on. -/
def slots (capacity : Nat) (content : Nat → Item) (start length : Nat) : List Item :=
  (List.range length).map (fun offset => content ((start + offset) % capacity))

/-- The items of a ring, from its head to its tail. -/
def items (capacity : Nat) (ring : Buffer Item) : List Item :=
  slots capacity ring.content ring.head (distance ring.head ring.tail)

/-- The words are the counts modulo the word size, and the ring is not overfull. -/
structure Valid (capacity : Nat) (ring : Buffer Item) : Prop where
  head : ring.head = word ring.passed
  tail : ring.tail = word ring.added
  ordered : ring.passed ≤ ring.added
  bounded : ring.added ≤ ring.passed + capacity

/-- Exchange the head for a later one. -/
def advance (ring : Buffer Item) (count : Nat) : Buffer Item :=
  { ring with head := word (ring.head + count), passed := ring.passed + count }

/-- Write the slot of a counter. -/
def write (capacity : Nat) (ring : Buffer Item) (counter : Nat) (item : Item) : Buffer Item :=
  { ring with content := Function.update ring.content (counter % capacity) item }

/-- Store the tail, which makes the items in the slots before it enter. -/
def extend (ring : Buffer Item) (tail count : Nat) : Buffer Item :=
  { ring with tail := tail, added := ring.added + count }

/-- Subtraction of words is subtraction of counts that are less than a word apart. -/
theorem distance_word (start stop : Nat) (ordered : start ≤ stop) (near : stop - start < 2 ^ 32) :
    distance (word start) (word stop) = stop - start := by
  unfold distance word
  omega

/-- Words of counts that are less than a word apart are equal only when the counts
are. -/
theorem word_inj (start stop : Nat) (ordered : start ≤ stop) (near : stop - start < 2 ^ 32)
    (same : word stop = word start) : stop = start := by
  unfold word at same
  omega

theorem word_add (count more : Nat) : word (word count + more) = word (count + more) := by
  simp [word]

theorem word_slot {capacity : Nat} (divides : capacity ∣ 2 ^ 32) (count offset : Nat) :
    (word count + offset) % capacity = (count + offset) % capacity := by
  unfold word
  rw [Nat.add_mod, Nat.mod_mod_of_dvd _ divides, ← Nat.add_mod]

variable (capacity : Nat) (content : Nat → Item) (ring : Buffer Item)

theorem word_mod (divides : capacity ∣ 2 ^ 32) (count : Nat) :
    word count % capacity = count % capacity := by
  simpa using word_slot divides count 0

theorem write_word (divides : capacity ∣ 2 ^ 32) (ring : Buffer Item) (count : Nat) (item : Item) :
    write capacity ring (word count) item = write capacity ring count item := by
  simp only [write, word_mod capacity divides]

theorem slots_word {capacity : Nat} (divides : capacity ∣ 2 ^ 32) (content : Nat → Item)
    (count length : Nat) :
    slots capacity content (word count) length = slots capacity content count length := by
  simp only [slots, word_slot divides]

theorem items_slots {capacity : Nat} (divides : capacity ∣ 2 ^ 32) (small : capacity < 2 ^ 32)
    {ring : Buffer Item} (valid : Valid capacity ring) :
    items capacity ring =
      slots capacity ring.content ring.passed (ring.added - ring.passed) := by
  have bounded := valid.bounded
  rw [items, valid.head, valid.tail, distance_word _ _ valid.ordered (by omega),
    slots_word divides]

@[simp] theorem slots_length (start length : Nat) :
    (slots capacity content start length).length = length := by
  simp [slots]

theorem slots_append (start first second : Nat) :
    slots capacity content start (first + second) =
      slots capacity content start first ++ slots capacity content (start + first) second := by
  simp [slots, List.range_add, Nat.add_assoc]

theorem slots_succ (start length : Nat) :
    slots capacity content start (length + 1) =
      slots capacity content start length ++ [content ((start + length) % capacity)] := by
  simp [slots, List.range_succ]

theorem slot_ne {capacity counter later : Nat} (before : counter < later)
    (near : later < counter + capacity) : counter % capacity ≠ later % capacity := by
  intro same
  have distance : (later - counter) % capacity = 0 := Nat.sub_mod_eq_zero_of_mod_eq same.symm
  rw [Nat.mod_eq_of_lt (by omega)] at distance
  omega

/-- Writing a slot behind a stretch, less than a capacity from its start, leaves the
stretch alone. -/
theorem slots_write (counter : Nat) (item : Item) (start length : Nat)
    (behind : start + length ≤ counter) (near : counter < start + capacity) :
    slots capacity (write capacity ring counter item).content start length =
      slots capacity ring.content start length := by
  apply List.map_congr_left
  intro offset member
  have within : offset < length := List.mem_range.mp member
  exact Function.update_of_ne (slot_ne (by omega) (by omega)) _ _

/-- What the owner or another reader can do to a ring at one step. -/
inductive Change (capacity : Nat) (ring : Buffer Item) : Buffer Item → Prop
  | same : Change capacity ring ring
  | advance (count : Nat) (within : ring.passed + count ≤ ring.added) :
      Change capacity ring (advance ring count)
  | write (counter : Nat) (item : Item) (behind : ring.added ≤ counter)
      (near : counter < ring.passed + capacity) :
      Change capacity ring (write capacity ring counter item)
  | extend (tail count : Nat) (stored : tail = word (ring.added + count))
      (fits : ring.added + count ≤ ring.passed + capacity) :
      Change capacity ring (extend ring tail count)

/-- Every change keeps the ring valid. -/
theorem change_valid (after : Buffer Item) (change : Change capacity ring after)
    (valid : Valid capacity ring) :
    Valid capacity after := by
  obtain ⟨head, tail, ordered, bounded⟩ := valid
  cases change with
  | same | write => exact ⟨head, tail, ordered, bounded⟩
  | advance _ within =>
    refine ⟨?_, tail, within, ?_⟩
    · rw [advance, head, word_add]
    · dsimp only [advance]
      omega
  | extend _ _ stored fits =>
    refine ⟨head, stored, ?_, fits⟩
    dsimp only [extend]
    omega

/-- What a reader knows of a ring whose head it loaded: either items have left since,
or the stretch that it counted is still there and the copied slots are its
beginning. -/
structure Snapshot (capacity : Nat) (ring : Buffer Item) (head since count : Nat)
    (copied : List Item) : Prop where
  loaded : head = word since
  past : since ≤ ring.passed
  short : copied.length ≤ count
  current : ring.passed = since →
    since + count ≤ ring.added ∧ copied = slots capacity ring.content since copied.length

/-- A snapshot survives every change to its ring. -/
theorem snapshot_stable (after : Buffer Item) (change : Change capacity ring after)
    (head since count : Nat) (copied : List Item)
    (snapshot : Snapshot capacity ring head since count copied) :
    Snapshot capacity after head since count copied := by
  obtain ⟨loaded, past, short, current⟩ := snapshot
  cases change with
  | same => exact ⟨loaded, past, short, current⟩
  | advance =>
    refine ⟨loaded, ?_, short, ?_⟩
    · dsimp only [advance]
      omega
    · intro still
      have unmoved : ring.passed = since := by
        dsimp only [advance] at still
        omega
      exact current unmoved
  | write counter item =>
    refine ⟨loaded, past, short, ?_⟩
    intro still
    obtain ⟨present, matching⟩ := current still
    refine ⟨present, ?_⟩
    have unmoved : ring.passed = since := still
    rw [slots_write capacity ring counter item since copied.length (by omega) (by omega)]
    exact matching
  | extend =>
    refine ⟨loaded, past, short, ?_⟩
    intro still
    obtain ⟨present, matching⟩ := current still
    refine ⟨?_, matching⟩
    dsimp only [extend]
    omega

theorem snapshot_load (valid : Valid capacity ring) :
    Snapshot capacity ring ring.head ring.passed 0 [] := by
  constructor
  · exact valid.head
  · exact Nat.le_refl _
  · exact Nat.le_refl _
  · intro _
    exact ⟨valid.ordered, rfl⟩

/-- Loading the tail afterwards measures the ring: as long as no item has left, a
number of items up to the measured distance is there. -/
theorem snapshot_measure (small : capacity < 2 ^ 32) (ring : Buffer Item)
    (valid : Valid capacity ring) (head since count : Nat)
    (snapshot : Snapshot capacity ring head since 0 []) (within : count ≤ distance head ring.tail) :
    Snapshot capacity ring head since count [] := by
  obtain ⟨loaded, past, _, _⟩ := snapshot
  refine ⟨loaded, past, Nat.zero_le _, ?_⟩
  intro still
  have ordered := valid.ordered
  have bounded := valid.bounded
  rw [loaded, valid.tail, distance_word since ring.added (by omega) (by omega)] at within
  exact ⟨by omega, rfl⟩

/-- Copying one more slot keeps the snapshot. -/
theorem snapshot_copy (divides : capacity ∣ 2 ^ 32) (ring : Buffer Item) (head since count : Nat)
    (copied : List Item) (snapshot : Snapshot capacity ring head since count copied)
    (more : copied.length < count) :
    Snapshot capacity ring head since count
      (copied ++ [ring.content (word (head + copied.length) % capacity)]) := by
  obtain ⟨loaded, past, short, current⟩ := snapshot
  refine ⟨loaded, past, by rw [List.length_append]; exact more, ?_⟩
  intro still
  obtain ⟨present, matching⟩ := current still
  refine ⟨present, ?_⟩
  rw [word_mod capacity divides, loaded, word_slot divides, List.length_append,
    List.length_singleton, slots_succ, ← matching]

/-- A head that was exchanged from a full snapshot was current, so the copied slots
are the items that leave. The reader must be less than a word behind. -/
theorem snapshot_exchange (divides : capacity ∣ 2 ^ 32) (small : capacity < 2 ^ 32)
    (ring : Buffer Item) (valid : Valid capacity ring) (head since count : Nat)
    (copied : List Item) (snapshot : Snapshot capacity ring head since count copied)
    (full : copied.length = count) (near : ring.passed - since < 2 ^ 32)
    (exchanged : ring.head = head) :
    ring.passed + count ≤ ring.added ∧
      items capacity ring = copied ++ items capacity (advance ring count) := by
  have unmoved : ring.passed = since := by
    apply word_inj since ring.passed snapshot.past near
    rw [← valid.head, exchanged, snapshot.loaded]
  obtain ⟨present, matching⟩ := snapshot.current unmoved
  have within : ring.passed + count ≤ ring.added := by omega
  refine ⟨within, ?_⟩
  have moved := change_valid capacity ring _ (.advance count within) valid
  rw [items_slots divides small valid,
    items_slots divides small moved]
  have lengths : ring.added - ring.passed = count + (ring.added - (ring.passed + count)) := by
    omega
  dsimp only [advance]
  rw [lengths, slots_append, unmoved, ← full, ← matching]

/-- Writing behind the tail changes no item of the ring. -/
theorem items_write (divides : capacity ∣ 2 ^ 32) (small : capacity < 2 ^ 32) (ring : Buffer Item)
    (valid : Valid capacity ring) (counter : Nat) (item : Item) (behind : ring.added ≤ counter)
    (near : counter < ring.passed + capacity) :
    items capacity (write capacity ring counter item) = items capacity ring := by
  have ordered := valid.ordered
  have written := change_valid capacity ring _ (.write counter item behind near) valid
  rw [items_slots divides small valid,
    items_slots divides small written]
  exact slots_write capacity ring counter item ring.passed (ring.added - ring.passed)
    (by omega) near

/-- Storing the tail adds the items in the slots before it. -/
theorem items_extend (divides : capacity ∣ 2 ^ 32) (small : capacity < 2 ^ 32)
    (ring : Buffer Item) (valid : Valid capacity ring) (tail count : Nat)
    (stored : tail = word (ring.added + count))
    (fits : ring.added + count ≤ ring.passed + capacity) :
    items capacity (extend ring tail count) =
      items capacity ring ++ slots capacity ring.content ring.added count := by
  have ordered := valid.ordered
  have extended := change_valid capacity ring _ (.extend tail count stored fits) valid
  rw [items_slots divides small valid,
    items_slots divides small extended]
  have lengths : (extend ring tail count).added - (extend ring tail count).passed =
      (ring.added - ring.passed) + count := by
    dsimp only [extend]
    omega
  have start : ring.passed + (ring.added - ring.passed) = ring.added := by omega
  rw [lengths, slots_append]
  dsimp only [extend]
  rw [start]

end Mola.Rings
