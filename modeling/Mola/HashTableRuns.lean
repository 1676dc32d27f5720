import Mola.Places
import Mola.HashTable

/-!
# The hash table refines a map

The tables of all instances represent a map from an instance and a key to a value. Every
bucket in use refers to two live blocks that hold its key and its value, in the vector that
the hash of the key selects; no two buckets of a vector have the same key; no block is the
value of two buckets, or the key of one and the value of another. So freeing the value of
one bucket leaves all others alone, and the first match of the search loop is the only one.
-/

namespace Mola.HashTable

open JenkinsHash (jenkinsHash keyHash)

/-- An index that was masked and shifted is below the size of the array, whatever the two
powers are. -/
theorem masked_index_lt (number : Nat) {actors instances : Nat} (fits : instances ≤ actors) :
    number % 2 ^ actors / 2 ^ instances < 2 ^ (actors - instances) := by
  rw [Nat.div_lt_iff_lt_mul (Nat.two_pow_pos instances), ← Nat.pow_add, Nat.sub_add_cancel fits]
  exact Nat.mod_lt _ (Nat.two_pow_pos actors)

theorem actorId_lt (hashKey : UInt32) : actorId hashKey < nActorPerInst := by
  have index : actorId hashKey = hashKey.toNat % 2 ^ nActorPower / 2 ^ nInstancePower := by
    have mask : actorMask.toNat = 2 ^ nActorPower - 1 := by decide
    simp only [actorId, UInt32.toNat_shiftRight, UInt32.toNat_and, mask,
      Nat.and_two_pow_sub_one_eq_mod, Nat.shiftRight_eq_div_pow]
    rfl
  rw [index, nActorPerInst, Nat.one_shiftLeft]
  exact masked_index_lt hashKey.toNat (Nat.le_refl _)

theorem Vector.slots_some (slots : List (Option Bucket)) (cap size : Nat) :
    (Vector.mk (some slots) cap size).slots = slots := rfl

/-- A bucket in use. -/
def Vector.Holds (vector : Vector) (index : Nat) (bucket : Bucket) : Prop :=
  index < vector.size ∧ vector.slots[index]? = some (some bucket)

/-- What is true of every bucket vector. -/
structure Vector.Ok (vector : Vector) : Prop where
  unused : vector.bk = none → vector.size = 0
  allocated : vector.bk ≠ none → vector.slots.length = vector.cap ∧ 0 < vector.cap
  bounded : vector.size ≤ vector.cap
  filled : ∀ index < vector.size, ∃ bucket, vector.slots[index]? = some (some bucket)

/-- A bucket and the blocks that it refers to. -/
structure Stores (heap : Heap) (bucket : Bucket) (key value : List UInt8) : Prop where
  keyBlock : heap bucket.key = some (key ++ [0])
  ksize : bucket.ksize = key.length
  valueBlock : heap bucket.value = some (value ++ [0])
  vsize : bucket.vsize = value.length
  keyAddress : 1 < bucket.key
  valueAddress : 1 < bucket.value

variable {contents : Contents} {heap : Heap} {bucket : Bucket}

theorem Stores.unique {key key' value value' : List UInt8} (first : Stores heap bucket key value)
    (second : Stores heap bucket key' value') :
    key = key' ∧ value = value' := by
  constructor
  · exact List.append_cancel_right (Option.some.inj (first.keyBlock.symm.trans second.keyBlock))
  · exact List.append_cancel_right
      (Option.some.inj (first.valueBlock.symm.trans second.valueBlock))

/-- The test of a bucket compares the keys. -/
theorem matchesKey_stored {key stored value behind : List UInt8} {address : Nat}
    (block : heap address = some (key ++ behind)) (stores : Stores heap bucket stored value) :
    matchesKey heap address key.length bucket = some (decide (stored = key)) := by
  unfold matchesKey
  rw [stores.ksize]
  by_cases same : stored.length = key.length
  · rw [if_pos same]
    have left : (stored ++ [0]).take key.length = stored := by rw [← same, List.take_left]
    have right : (key ++ behind).take key.length = key := List.take_left
    have long : key.length ≤ (stored ++ [0]).length ∧ key.length ≤ (key ++ behind).length := by
      simp only [List.length_append]
      omega
    simp only [memcmp, stores.keyBlock, block, if_pos long, left, right]
  · have different : stored ≠ key := fun equal => same (by rw [equal])
    rw [if_neg same, decide_eq_false different]

/-- The search loop returns the index of the first match, or none if there is none. -/
theorem search_spec (heap : Heap) (slots : List (Option Bucket)) (key ksize left start : Nat)
    (tested : ∀ index, start ≤ index → index < start + left → ∃ bucket result,
      slots[index]? = some (some bucket) ∧ matchesKey heap key ksize bucket = some result) :
    (∃ index bucket, start ≤ index ∧ index < start + left ∧
        slots[index]? = some (some bucket) ∧ matchesKey heap key ksize bucket = some true ∧
        search heap slots key ksize left start = some (some index)) ∨
      (search heap slots key ksize left start = some none ∧
        ∀ index bucket, start ≤ index → index < start + left →
          slots[index]? = some (some bucket) → matchesKey heap key ksize bucket = some false) := by
  induction left generalizing start with
  | zero =>
    refine Or.inr ⟨rfl, fun index bucket low high => ?_⟩
    omega
  | succ left inductionHypothesis =>
    obtain ⟨bucket, result, slot, compared⟩ := tested start (Nat.le_refl _) (by omega)
    cases result with
    | true =>
      refine Or.inl ⟨start, bucket, Nat.le_refl _, by omega, slot, compared, ?_⟩
      simp [search, slot, compared]
    | false =>
      have next : search heap slots key ksize (left + 1) start =
          search heap slots key ksize left (start + 1) := by
        simp [search, slot, compared]
      rw [next]
      rcases inductionHypothesis (start + 1)
        (fun index low high => tested index (by omega) (by omega)) with
        ⟨index, found, low, high, rest⟩ | ⟨missed, others⟩
      · exact Or.inl ⟨index, found, by omega, by omega, rest⟩
      · refine Or.inr ⟨missed, fun index other low high present => ?_⟩
        rcases Nat.lt_or_ge start index with later | here
        · exact others index other later (by omega) present
        · have same : index = start := by omega
          rw [same, slot] at present
          rw [← Option.some.inj (Option.some.inj present)]
          exact compared

/-- A vector with room for another bucket, and with the buckets of the old one. -/
structure Vector.Roomy (vector next : Vector) : Prop where
  ok : next.Ok
  room : next.size < next.slots.length
  size : next.size = vector.size
  same : ∀ index < vector.size, next.slots[index]? = vector.slots[index]?

/-- The first allocation keeps a vector and leaves it with an array. -/
theorem Vector.allocate_ok (vector : Vector) (ok : vector.Ok) :
    vector.allocate.Ok ∧ vector.allocate.bk ≠ none ∧ vector.allocate.size = vector.size ∧
      ∀ index < vector.size, vector.allocate.slots[index]? = vector.slots[index]? := by
  unfold Vector.allocate
  split
  · rename_i null
    have empty := ok.unused null
    refine ⟨⟨(fun h => by cases h), fun _ => ⟨by simp [Vector.slots], by decide⟩, Nat.zero_le _,
      fun index inside => absurd inside (Nat.not_lt_zero _)⟩, by simp, empty.symm,
      fun index inside => ?_⟩
    rw [empty] at inside
    exact absurd inside (Nat.not_lt_zero _)
  · rename_i slots present
    exact ⟨ok, by simp [present], rfl, fun _ _ => rfl⟩

/-- The doubling makes room. -/
theorem Vector.grow_roomy (vector : Vector) (ok : vector.Ok) (present : vector.bk ≠ none) :
    vector.Roomy vector.grow := by
  obtain ⟨length, positive⟩ := ok.allocated present
  unfold Vector.grow
  split
  · rename_i full
    have whole : (resize vector.slots (vector.cap * 2)).length = vector.cap * 2 := by
      simp only [resize, List.length_take, List.length_append, List.length_replicate]
      omega
    have old : ∀ index < vector.size,
        (resize vector.slots (vector.cap * 2))[index]? = vector.slots[index]? := by
      intro index inside
      rw [resize, List.getElem?_take_of_lt (by omega), List.getElem?_append_left (by omega)]
    refine ⟨⟨(fun h => by cases h), fun _ => ⟨whole, by dsimp only; omega⟩, by dsimp only; omega, ?_⟩,
      ?_, rfl, old⟩
    · intro index inside
      obtain ⟨bucket, slot⟩ := ok.filled index inside
      exact ⟨bucket, (old index inside).trans slot⟩
    · change vector.size < (resize vector.slots (vector.cap * 2)).length
      omega
  · rename_i room
    have bound := ok.bounded
    exact ⟨ok, by omega, rfl, fun _ _ => rfl⟩

/-- A bucket is added to a vector. -/
theorem appendBucket_spec {vector : Vector} (sreq : SetReq) (ok : vector.Ok) :
    ∃ next, appendBucket vector sreq = some next ∧ next.Ok ∧
      ∀ index bucket, next.Holds index bucket ↔
        (index = vector.size ∧ bucket = ⟨sreq.key, sreq.value, sreq.ksize, sreq.vsize⟩) ∨
          (index ≠ vector.size ∧ vector.Holds index bucket) := by
  obtain ⟨allocated, present, size, slots⟩ := vector.allocate_ok ok
  have roomy := vector.allocate.grow_roomy allocated present
  have count : vector.allocate.grow.size = vector.size := roomy.size.trans size
  have room := roomy.room
  have slot := List.getElem?_eq_getElem room
  have bound : vector.allocate.grow.slots.length = vector.allocate.grow.cap := by
    apply (roomy.ok.allocated _).1
    intro null
    simp [Vector.slots, null] at room
  have old : ∀ index < vector.size,
      vector.allocate.grow.slots[index]? = vector.slots[index]? := by
    intro index inside
    rw [roomy.same index (by omega), slots index inside]
  refine ⟨_, if_pos room, ⟨(fun h => by cases h), fun _ => ⟨?_, ?_⟩, ?_, ?_⟩, ?_⟩
  · simp only [Vector.slots_some, List.length_set]
    exact bound
  · simp only
    omega
  · simp only
    omega
  · intro index inside
    simp only [Vector.slots_some] at inside ⊢
    by_cases last : index = vector.allocate.grow.size
    · exact ⟨_, (Places.set_place _ slot index _).mpr (Or.inl ⟨last, rfl⟩)⟩
    · obtain ⟨bucket, filled⟩ := roomy.ok.filled index (by omega)
      exact ⟨bucket, (Places.set_place _ slot index _).mpr (Or.inr ⟨last, filled⟩)⟩
  · intro index bucket
    simp only [Vector.Holds, Vector.slots_some, Places.set_place _ slot]
    rw [count]
    constructor
    · rintro ⟨inside, ⟨last, equal⟩ | ⟨different, filled⟩⟩
      · exact Or.inl ⟨last, Option.some.inj equal⟩
      · have below : index < vector.size := by omega
        exact Or.inr ⟨different, below, (old index below).symm.trans filled⟩
    · rintro (⟨rfl, rfl⟩ | ⟨different, inside, filled⟩)
      · exact ⟨Nat.lt_succ_self _, Or.inl ⟨rfl, rfl⟩⟩
      · exact ⟨by omega, Or.inr ⟨different, (old index inside).trans filled⟩⟩

/-- The value of a bucket is replaced. -/
theorem replace_spec {vector : Vector} {index : Nat} (updated : Bucket) (ok : vector.Ok)
    (held : vector.Holds index bucket) :
    ({ vector with bk := some (vector.slots.set index (some updated)) } : Vector).Ok ∧
      ∀ other otherBucket,
        ({ vector with bk := some (vector.slots.set index (some updated)) } : Vector).Holds
          other otherBucket ↔
        (other = index ∧ otherBucket = updated) ∨
          (other ≠ index ∧ vector.Holds other otherBucket) := by
  obtain ⟨inside, slot⟩ := held
  have within : index < vector.slots.length := (List.getElem?_eq_some_iff.mp slot).1
  have present : vector.bk ≠ none := by
    intro null
    simp [Vector.slots, null] at within
  refine ⟨⟨(fun h => by cases h), fun _ => ?_, ok.bounded, ?_⟩, ?_⟩
  · simp only [Vector.slots_some, List.length_set]
    exact ok.allocated present
  · intro other below
    simp only [Vector.slots_some]
    by_cases same : other = index
    · exact ⟨updated, (Places.set_place _ slot other _).mpr (Or.inl ⟨same, rfl⟩)⟩
    · obtain ⟨filled, kept⟩ := ok.filled other below
      exact ⟨filled, (Places.set_place _ slot other _).mpr (Or.inr ⟨same, kept⟩)⟩
  · intro other otherBucket
    simp only [Vector.Holds, Vector.slots_some, Places.set_place _ slot]
    constructor
    · rintro ⟨below, ⟨same, equal⟩ | ⟨different, kept⟩⟩
      · exact Or.inl ⟨same, Option.some.inj equal⟩
      · exact Or.inr ⟨different, below, kept⟩
    · rintro (⟨rfl, rfl⟩ | ⟨different, below, kept⟩)
      · exact ⟨inside, Or.inl ⟨rfl, rfl⟩⟩
      · exact ⟨below, Or.inr ⟨different, kept⟩⟩

/-- A bucket in use, by its instance, its vector and its position there. -/
def At (store : Store) (place : Nat × Nat × Nat) (bucket : Bucket) : Prop :=
  ∃ vector, (store.tables place.1)[place.2.1]? = some vector ∧ vector.Holds place.2.2 bucket

/-- What the tables are for: a map from an instance and a key to a value. -/
abbrev Contents := Nat → List UInt8 → Option (List UInt8)

/-- The map after a key was set. -/
def assign (contents : Contents) (inst : Nat) (key value : List UInt8) : Contents :=
  fun other otherKey =>
    if other = inst ∧ otherKey = key then some value else contents other otherKey

/-- The tables represent a map. -/
structure Refines (store : Store) (contents : Contents) : Prop where
  intact : store.broken = false
  sized : ∀ inst, (store.tables inst).length = nActorPerInst
  ok : ∀ inst (index : Nat) vector, (store.tables inst)[index]? = some vector → vector.Ok
  stored : ∀ place bucket, At store place bucket → ∃ key value,
    Stores store.heap bucket key value ∧ contents place.1 key = some value ∧
      place.2.1 = actorId (keyHash key)
  complete : ∀ inst key value, contents inst key = some value → ∃ position bucket,
    At store (inst, actorId (keyHash key), position) bucket ∧ Stores store.heap bucket key value
  distinct : ∀ inst index first second bucket other, At store (inst, index, first) bucket →
    At store (inst, index, second) other → store.heap bucket.key = store.heap other.key →
      first = second
  values : ∀ place bucket place' bucket', At store place bucket → At store place' bucket' →
    bucket.value = bucket'.value → place = place'
  keys : ∀ place bucket place' bucket', At store place bucket → At store place' bucket' →
    bucket.key ≠ bucket'.value

/-- An address that no bucket refers to. -/
def Unowned (store : Store) (address : Nat) : Prop :=
  ∀ place bucket, At store place bucket → bucket.key ≠ address ∧ bucket.value ≠ address

theorem Stores.frame {heap' : Heap} {key value : List UInt8}
    (stores : Stores heap bucket key value) (keySame : heap' bucket.key = heap bucket.key)
    (valueSame : heap' bucket.value = heap bucket.value) : Stores heap' bucket key value :=
  { stores with
    keyBlock := keySame.trans stores.keyBlock
    valueBlock := valueSame.trans stores.valueBlock }

/-- An address that `malloc` can return is in no bucket. -/
theorem Refines.unowned {store : Store} (kept : Refines store contents) (address : Nat)
    (free : store.heap address = none) : Unowned store address := by
  intro place bucket held
  obtain ⟨key, value, stores, -⟩ := kept.stored place bucket held
  constructor
  · intro same
    have live := stores.keyBlock
    rw [same, free] at live
    cases live
  · intro same
    have live := stores.valueBlock
    rw [same, free] at live
    cases live

/-- An allocation changes no stored block. -/
theorem Refines.alloc {store : Store} (kept : Refines store contents) (address : Nat)
    (bytes : List UInt8) (free : store.heap address = none) :
    Refines (alloc store address bytes) contents := by
  have apart := kept.unowned address free
  have same : ∀ place bucket, At store place bucket →
      (HashTable.alloc store address bytes).heap bucket.key = store.heap bucket.key ∧
      (HashTable.alloc store address bytes).heap bucket.value = store.heap bucket.value := by
    intro place bucket held
    exact ⟨Function.update_of_ne (apart place bucket held).1 _ _,
      Function.update_of_ne (apart place bucket held).2 _ _⟩
  refine { kept with
    stored := ?_
    complete := ?_
    distinct := ?_
    values := kept.values
    keys := kept.keys }
  · intro place bucket held
    obtain ⟨key, value, stores, rest⟩ := kept.stored place bucket held
    exact ⟨key, value, stores.frame (same place bucket held).1 (same place bucket held).2, rest⟩
  · intro inst key value present
    obtain ⟨position, bucket, held, stores⟩ := kept.complete inst key value present
    exact ⟨position, bucket, held,
      stores.frame (same _ bucket held).1 (same _ bucket held).2⟩
  · intro inst index first second bucket other held otherHeld equal
    rw [(same _ bucket held).1, (same _ other otherHeld).1] at equal
    exact kept.distinct inst index first second bucket other held otherHeld equal

/-- Setting a key leaves the buckets with other keys and their blocks as they were, and all
blocks that belong to no bucket. No bucket refers to another new address than the two that
were given. -/
structure Spares (store next : Store) (inst : Nat) (key : List UInt8) (keyAt valueAt : Nat) :
    Prop where
  buckets : ∀ place bucket other value, At store place bucket →
    Stores store.heap bucket other value → ¬ (place.1 = inst ∧ other = key) →
      At next place bucket ∧ next.heap bucket.key = store.heap bucket.key ∧
        next.heap bucket.value = store.heap bucket.value
  blocks : ∀ address, Unowned store address → next.heap address = store.heap address
  unowned : ∀ address, Unowned store address → address ≠ keyAt → address ≠ valueAt →
    Unowned next address

/-- One bucket is written, at a place that was free or had the same key, and all other
buckets and their blocks stay. -/
theorem Refines.write {store next : Store} (kept : Refines store contents)
    (inst index position : Nat) (key value : List UInt8) (written : Bucket)
    (intact : next.broken = false) (sized : ∀ inst, (next.tables inst).length = nActorPerInst)
    (ok : ∀ inst (index : Nat) vector, (next.tables inst)[index]? = some vector → vector.Ok)
    (places : ∀ place bucket, At next place bucket ↔
      (place = (inst, index, position) ∧ bucket = written) ∨
        (place ≠ (inst, index, position) ∧ At store place bucket))
    (selected : index = actorId (keyHash key))
    (before : ∀ bucket other otherValue, At store (inst, index, position) bucket →
      Stores store.heap bucket other otherValue → other = key)
    (stores : Stores next.heap written key value)
    (others : ∀ place bucket, place ≠ (inst, index, position) → At store place bucket →
      (next.heap bucket.key = store.heap bucket.key ∧
        next.heap bucket.value = store.heap bucket.value) ∧
      (bucket.value ≠ written.value ∧ bucket.key ≠ written.value ∧ written.key ≠ bucket.value) ∧
      ∀ other otherValue, Stores store.heap bucket other otherValue →
        ¬ (place.1 = inst ∧ other = key))
    (apart : written.key ≠ written.value) :
    Refines next (assign contents inst key value) := by
  constructor
  · exact intact
  · exact sized
  · exact ok
  · intro place bucket held
    rcases (places place bucket).mp held with ⟨rfl, rfl⟩ | ⟨different, old⟩
    · exact ⟨key, value, stores, if_pos ⟨rfl, rfl⟩, selected⟩
    · obtain ⟨same, -, elsewhere⟩ := others place bucket different old
      obtain ⟨other, otherValue, was, mapped, chosen⟩ := kept.stored place bucket old
      refine ⟨other, otherValue, was.frame same.1 same.2, ?_, chosen⟩
      exact (if_neg (elsewhere other otherValue was)).trans mapped
  · intro inst' other otherValue mapped
    unfold assign at mapped
    split at mapped
    · rename_i equal
      obtain ⟨rfl, rfl⟩ := equal
      cases mapped
      rw [← selected]
      exact ⟨position, written, (places _ _).mpr (Or.inl ⟨rfl, rfl⟩), stores⟩
    · rename_i different
      obtain ⟨position', bucket, old, was⟩ := kept.complete inst' other otherValue mapped
      have elsewhere : (inst', actorId (keyHash other), position') ≠ (inst, index, position) := by
        intro equal
        rw [equal] at old
        exact different ⟨congrArg Prod.fst equal, before bucket other otherValue old was⟩
      obtain ⟨same, -, -⟩ := others _ bucket elsewhere old
      exact ⟨position', bucket, (places _ _).mpr (Or.inr ⟨elsewhere, old⟩),
        was.frame same.1 same.2⟩
  · intro inst' index' first second bucket other held otherHeld equal
    -- An old bucket of the same vector with the key that was written contradicts `others`.
    have clash : ∀ position' old, (inst', index', position') ≠ (inst, index, position) →
        At store (inst', index', position') old → inst' = inst →
        next.heap old.key ≠ next.heap written.key := by
      intro position' old different present sameInst sameKey
      obtain ⟨same, -, elsewhere⟩ := others _ old different present
      obtain ⟨oldKey, oldValue, was, -⟩ := kept.stored _ old present
      apply elsewhere oldKey oldValue was
      rw [same.1, was.keyBlock, stores.keyBlock] at sameKey
      exact ⟨sameInst, List.append_cancel_right (Option.some.inj sameKey)⟩
    rcases (places _ bucket).mp held with ⟨here, rfl⟩ | ⟨different, old⟩
    · rcases (places _ other).mp otherHeld with ⟨there, -⟩ | ⟨different', old'⟩
      · exact congrArg (fun place => place.2.2) (here.trans there.symm)
      · exact absurd equal.symm (clash second other different' old' (congrArg Prod.fst here))
    · rcases (places _ other).mp otherHeld with ⟨there, rfl⟩ | ⟨different', old'⟩
      · exact absurd equal (clash first bucket different old (congrArg Prod.fst there))
      · rw [(others _ bucket different old).1.1, (others _ other different' old').1.1] at equal
        exact kept.distinct inst' index' first second bucket other old old' equal
  · intro place bucket place' bucket' held held' equal
    rcases (places place bucket).mp held with ⟨rfl, rfl⟩ | ⟨different, old⟩
    · rcases (places place' bucket').mp held' with ⟨rfl, rfl⟩ | ⟨different', old'⟩
      · rfl
      · exact absurd equal.symm (others place' bucket' different' old').2.1.1
    · rcases (places place' bucket').mp held' with ⟨rfl, rfl⟩ | ⟨different', old'⟩
      · exact absurd equal (others place bucket different old).2.1.1
      · exact kept.values place bucket place' bucket' old old' equal
  · intro place bucket place' bucket' held held'
    rcases (places place bucket).mp held with ⟨rfl, rfl⟩ | ⟨different, old⟩
    · rcases (places place' bucket').mp held' with ⟨rfl, rfl⟩ | ⟨different', old'⟩
      · exact apart
      · exact (others place' bucket' different' old').2.1.2.2
    · rcases (places place' bucket').mp held' with ⟨rfl, rfl⟩ | ⟨different', old'⟩
      · exact (others place bucket different old).2.1.2.1
      · exact kept.keys place bucket place' bucket' old old'

/-- A vector of an instance is replaced by one that differs in one bucket. -/
theorem at_update (store : Store) (heap : Heap) (inst index position : Nat)
    (vector next : Vector) (written : Bucket)
    (old : (store.tables inst)[index]? = some vector)
    (holds : ∀ other bucket, next.Holds other bucket ↔
      (other = position ∧ bucket = written) ∨ (other ≠ position ∧ vector.Holds other bucket))
    (place : Nat × Nat × Nat) (bucket : Bucket) :
    At { store with
      heap := heap
      tables := Function.update store.tables inst ((store.tables inst).set index next) }
      place bucket ↔
      (place = (inst, index, position) ∧ bucket = written) ∨
        (place ≠ (inst, index, position) ∧ At store place bucket) := by
  obtain ⟨inst', index', position'⟩ := place
  simp only [At]
  by_cases sameInst : inst' = inst
  · subst sameInst
    simp only [Function.update_self, Places.set_place next old]
    constructor
    · rintro ⟨found, ⟨rfl, rfl⟩ | ⟨different, present⟩, held⟩
      · rcases (holds position' bucket).mp held with ⟨rfl, rfl⟩ | ⟨different, kept⟩
        · exact Or.inl ⟨rfl, rfl⟩
        · exact Or.inr ⟨fun same => different (by cases same; rfl), vector, old, kept⟩
      · exact Or.inr ⟨fun same => different (by cases same; rfl), found, present, held⟩
    · rintro (⟨same, rfl⟩ | ⟨different, found, present, held⟩)
      · cases same
        exact ⟨next, Or.inl ⟨rfl, rfl⟩, (holds _ _).mpr (Or.inl ⟨rfl, rfl⟩)⟩
      · by_cases sameIndex : index' = index
        · subst sameIndex
          cases old.symm.trans present
          have elsewhere : position' ≠ position := by
            rintro rfl
            exact different rfl
          exact ⟨next, Or.inl ⟨rfl, rfl⟩, (holds position' bucket).mpr (Or.inr ⟨elsewhere, held⟩)⟩
        · exact ⟨found, Or.inr ⟨sameIndex, present⟩, held⟩
  · rw [Function.update_of_ne sameInst]
    constructor
    · intro found
      exact Or.inr ⟨fun same => sameInst (congrArg Prod.fst same), found⟩
    · rintro (⟨same, -⟩ | ⟨-, found⟩)
      · exact absurd (congrArg Prod.fst same) sameInst
      · exact found

/-- What a write of one bucket spares. -/
theorem spares_of_places {store next : Store} {inst index position : Nat} {key : List UInt8}
    {written : Bucket} {keyAt valueAt : Nat}
    (places : ∀ place bucket, At next place bucket ↔
      (place = (inst, index, position) ∧ bucket = written) ∨
        (place ≠ (inst, index, position) ∧ At store place bucket))
    (before : ∀ bucket other otherValue, At store (inst, index, position) bucket →
      Stores store.heap bucket other otherValue → other = key)
    (others : ∀ place bucket, place ≠ (inst, index, position) → At store place bucket →
      next.heap bucket.key = store.heap bucket.key ∧
        next.heap bucket.value = store.heap bucket.value)
    (blocks : ∀ address, Unowned store address → next.heap address = store.heap address)
    (given : ∀ address, Unowned store address → address ≠ keyAt → address ≠ valueAt →
      written.key ≠ address ∧ written.value ≠ address) :
    Spares store next inst key keyAt valueAt := by
  refine ⟨fun place bucket other otherValue old was elsewhere => ?_, blocks, ?_⟩
  · have different : place ≠ (inst, index, position) := by
      rintro rfl
      exact elsewhere ⟨rfl, before bucket other otherValue old was⟩
    exact ⟨(places place bucket).mpr (Or.inr ⟨different, old⟩), others place bucket different old⟩
  · intro address unowned notKey notValue place bucket held
    rcases (places place bucket).mp held with ⟨-, rfl⟩ | ⟨-, old⟩
    · exact given address unowned notKey notValue
    · exact unowned place bucket old

/-- The vectors after one of them was replaced. -/
theorem tables_update {store : Store} (kept : Refines store contents) (inst index : Nat)
    {next : Vector} (nextOk : next.Ok) :
    (∀ other, (Function.update store.tables inst ((store.tables inst).set index next)
        other).length = nActorPerInst) ∧
      ∀ other (position : Nat) vector,
        (Function.update store.tables inst ((store.tables inst).set index next)
          other)[position]? = some vector → vector.Ok := by
  constructor
  · exact (Function.forall_update_iff store.tables fun _ table =>
      table.length = nActorPerInst).mpr
      ⟨List.length_set.trans (kept.sized inst), fun other _ => kept.sized other⟩
  · refine (Function.forall_update_iff store.tables fun _ table =>
      ∀ (position : Nat) vector, table[position]? = some vector → vector.Ok).mpr
      ⟨fun position vector found => ?_, fun other _ => kept.ok other⟩
    rcases List.mem_or_eq_of_mem_set (List.mem_of_getElem? found) with old | new
    · obtain ⟨at_, equal⟩ := List.mem_iff_getElem?.mp old
      exact kept.ok inst at_ vector equal
    · rw [new]
      exact nextOk

/-- A search for a key finds its bucket, or the key is not in the map. -/
theorem Refines.searched {store : Store} (kept : Refines store contents) (inst address : Nat)
    (key behind : List UInt8) (vector : Vector)
    (block : store.heap address = some (key ++ behind))
    (found : (store.tables inst)[actorId (keyHash key)]? = some vector) :
    (∃ position bucket value, vector.Holds position bucket ∧
        Stores store.heap bucket key value ∧ contents inst key = some value ∧
        search store.heap vector.slots address key.length vector.size 0 = some (some position)) ∨
      (search store.heap vector.slots address key.length vector.size 0 = some none ∧
        contents inst key = none) := by
  have ok := kept.ok inst _ vector found
  have compared : ∀ position bucket, vector.Holds position bucket → ∃ stored value,
      Stores store.heap bucket stored value ∧ contents inst stored = some value ∧
      matchesKey store.heap address key.length bucket = some (decide (stored = key)) := by
    intro position bucket held
    obtain ⟨stored, value, stores, mapped, -⟩ :=
      kept.stored (inst, actorId (keyHash key), position) bucket ⟨vector, found, held⟩
    exact ⟨stored, value, stores, mapped,
      matchesKey_stored block stores⟩
  have tested : ∀ position, 0 ≤ position → position < 0 + vector.size → ∃ bucket result,
      vector.slots[position]? = some (some bucket) ∧
        matchesKey store.heap address key.length bucket = some result := by
    intro position _ inside
    obtain ⟨bucket, slot⟩ := ok.filled position (by omega)
    obtain ⟨stored, value, -, -, result⟩ := compared position bucket ⟨by omega, slot⟩
    exact ⟨bucket, _, slot, result⟩
  rcases search_spec store.heap vector.slots address key.length vector.size 0 tested with
    ⟨position, bucket, -, inside, slot, hit, result⟩ | ⟨result, missed⟩
  · have held : vector.Holds position bucket := ⟨by omega, slot⟩
    obtain ⟨stored, value, stores, mapped, outcome⟩ := compared position bucket held
    have same : stored = key := of_decide_eq_true (Option.some.inj (outcome.symm.trans hit))
    subst same
    exact Or.inl ⟨position, bucket, value, held, stores, mapped, result⟩
  · refine Or.inr ⟨result, ?_⟩
    cases mapped : contents inst key with
    | none => rfl
    | some value =>
      obtain ⟨position, bucket, ⟨other, equal, held⟩, stores⟩ := kept.complete inst key value mapped
      cases found.symm.trans equal
      have inside : position < vector.size := held.1
      have miss := missed position bucket (Nat.zero_le _) (by omega) held.2
      rw [matchesKey_stored block stores] at miss
      simp at miss

theorem Refines.vector {store : Store} (kept : Refines store contents) (inst : Nat)
    (hashKey : UInt32) :
    ∃ vector, (store.tables inst)[actorId hashKey]? = some vector := by
  have inside : actorId hashKey < (store.tables inst).length := by
    rw [kept.sized inst]
    exact actorId_lt hashKey
  exact ⟨_, List.getElem?_eq_getElem inside⟩

theorem onGetReq_hit {vec : List Vector} {greq : GetReq} {vector : Vector} {index : Nat}
    (found : vec[actorId greq.hashKey]? = some vector)
    (searched : search heap vector.slots greq.key greq.ksize vector.size 0 = some (some index))
    (slot : vector.slots[index]? = some (some bucket)) :
    onGetReq heap vec greq = some ⟨bucket.key, bucket.value, bucket.ksize, bucket.vsize⟩ := by
  simp [onGetReq, found, searched, slot]

theorem onGetReq_miss {vec : List Vector} {greq : GetReq} {vector : Vector}
    (found : vec[actorId greq.hashKey]? = some vector)
    (searched : search heap vector.slots greq.key greq.ksize vector.size 0 = some none) :
    onGetReq heap vec greq = some ⟨0, 0, 0, 0⟩ := by
  simp [onGetReq, found, searched]

/-- `OnSetReq` of a key that the search finds. -/
theorem handleSet_replace (store : Store) (inst : Nat) (sreq : SetReq) (vector : Vector)
    (index : Nat) (bucket : Bucket)
    (found : (store.tables inst)[actorId sreq.hashKey]? = some vector)
    (searched : search store.heap vector.slots sreq.key sreq.ksize vector.size 0 =
      some (some index))
    (slot : vector.slots[index]? = some (some bucket)) (address : bucket.value ≠ 0)
    (live : (store.heap bucket.value).isSome = true) :
    handleSet store inst sreq = { store with
      heap := Function.update store.heap bucket.value none
      tables := Function.update store.tables inst ((store.tables inst).set (actorId sreq.hashKey)
        { vector with bk := some (vector.slots.set index
          (some { bucket with value := sreq.value, vsize := sreq.vsize })) }) } := by
  simp [handleSet, onSetReq, found, searched, replaceValue, slot, address, free, live]

/-- `OnSetReq` of a key that the search does not find. -/
theorem handleSet_append {store : Store} {inst : Nat} {sreq : SetReq} {vector next : Vector}
    (found : (store.tables inst)[actorId sreq.hashKey]? = some vector)
    (searched : search store.heap vector.slots sreq.key sreq.ksize vector.size 0 = some none)
    (appended : appendBucket vector sreq = some next) :
    handleSet store inst sreq = { store with
      heap := store.heap
      tables := Function.update store.tables inst
        ((store.tables inst).set (actorId sreq.hashKey) next) } := by
  simp [handleSet, onSetReq, found, searched, appended]

/-- What `OnGetReq` returns: the addresses of the blocks in the table and their sizes, or
NULL. -/
theorem Refines.got {store : Store} (kept : Refines store contents) (inst address : Nat)
    (key : List UInt8) (block : store.heap address = some key) :
    (∃ position bucket value, At store (inst, actorId (keyHash key), position) bucket ∧
        Stores store.heap bucket key value ∧ contents inst key = some value ∧
        onGetReq store.heap (store.tables inst) (getRequest key address) =
          some ⟨bucket.key, bucket.value, bucket.ksize, bucket.vsize⟩) ∨
      (contents inst key = none ∧
        onGetReq store.heap (store.tables inst) (getRequest key address) = some ⟨0, 0, 0, 0⟩) := by
  obtain ⟨vector, found⟩ := kept.vector inst (keyHash key)
  have selected : actorId (getRequest key address).hashKey = actorId (keyHash key) := rfl
  rcases kept.searched inst address key [] vector (by rw [List.append_nil]; exact block) found with
    ⟨position, bucket, value, held, stores, mapped, result⟩ | ⟨result, unmapped⟩
  · exact Or.inl ⟨position, bucket, value, ⟨vector, found, held⟩, stores, mapped,
      onGetReq_hit found result held.2⟩
  · exact Or.inr ⟨unmapped, onGetReq_miss found result⟩

/-- Setting a key that is present gives its bucket the new value and frees the old one. -/
theorem Refines.replaced {store : Store} (kept : Refines store contents) (inst position : Nat)
    (key value old : List UInt8) (keyAt valueAt : Nat) (vector : Vector) (bucket : Bucket)
    (found : (store.tables inst)[actorId (keyHash key)]? = some vector)
    (held : vector.Holds position bucket) (stores : Stores store.heap bucket key old)
    (valueBlock : store.heap valueAt = some (value ++ [0])) (unowned : Unowned store valueAt)
    (address : 1 < valueAt) (next : Store)
    (outcome : next = { store with
      heap := Function.update store.heap bucket.value none
      tables := Function.update store.tables inst ((store.tables inst).set (actorId (keyHash key))
        { vector with bk := some (vector.slots.set position
          (some { bucket with value := valueAt, vsize := value.length })) }) }) :
    Refines next (assign contents inst key value) ∧
      Spares store next inst key keyAt valueAt := by
  have here : At store (inst, actorId (keyHash key), position) bucket := ⟨vector, found, held⟩
  obtain ⟨nextOk, holds⟩ := replace_spec
    { bucket with value := valueAt, vsize := value.length } (kept.ok inst _ vector found) held
  obtain ⟨sized, oks⟩ := tables_update kept inst (actorId (keyHash key)) nextOk
  have own := unowned _ bucket here
  have places := at_update store (Function.update store.heap bucket.value none) inst _ position
    vector _ _ found holds
  have before : ∀ other otherKey otherValue,
      At store (inst, actorId (keyHash key), position) other →
      Stores store.heap other otherKey otherValue → otherKey = key := by
    rintro other otherKey otherValue ⟨otherVector, equal, otherHeld⟩ was
    cases found.symm.trans equal
    cases Option.some.inj (held.2.symm.trans otherHeld.2)
    exact (was.unique stores).1
  have spared : ∀ place other, place ≠ (inst, actorId (keyHash key), position) →
      At store place other →
      Function.update store.heap bucket.value none other.key = store.heap other.key ∧
        Function.update store.heap bucket.value none other.value = store.heap other.value := by
    intro place other different present
    exact ⟨Function.update_of_ne (kept.keys place other _ bucket present here) _ _,
      Function.update_of_ne (fun same =>
        different (kept.values place other _ bucket present here same)) _ _⟩
  subst outcome
  constructor
  · apply kept.write inst (actorId (keyHash key)) position key value
      { bucket with value := valueAt, vsize := value.length }
    · exact kept.intact
    · exact sized
    · exact oks
    · exact places
    · rfl
    · exact before
    · have valueDifferent : bucket.key ≠ bucket.value := kept.keys _ bucket _ bucket here here
      exact {
        keyBlock := (Function.update_of_ne valueDifferent _ _).trans stores.keyBlock
        ksize := stores.ksize
        valueBlock := (Function.update_of_ne (Ne.symm own.2) _ _).trans valueBlock
        vsize := rfl
        keyAddress := stores.keyAddress
        valueAddress := address }
    · intro place other different present
      refine ⟨spared place other different present,
        ⟨(unowned place other present).2, (unowned place other present).1,
          kept.keys _ bucket place other here present⟩, ?_⟩
      intro otherKey otherValue was same
      -- Two buckets of one vector with the same key would be one.
      obtain ⟨stored, storedValue, again, mapped, selected⟩ := kept.stored place other present
      have sameKey : stored = key := (again.unique was).1.trans same.2
      obtain ⟨placeInst, placeIndex, placePosition⟩ := place
      have sameInst : placeInst = inst := same.1
      have sameIndex : placeIndex = actorId (keyHash key) := sameKey ▸ selected
      subst sameInst
      subst sameIndex
      have samePosition := kept.distinct _ _ _ _ other bucket present here
        ((sameKey ▸ again.keyBlock).trans stores.keyBlock.symm)
      exact different (by rw [samePosition])
    · exact own.1
  · apply spares_of_places places before
      spared
    · intro other free
      exact Function.update_of_ne (Ne.symm (free _ bucket here).2) _ _
    · intro other free _ notValue
      exact ⟨(free _ bucket here).1, Ne.symm notValue⟩

/-- Setting a new key adds a bucket. -/
theorem Refines.appended {store : Store} (kept : Refines store contents) (inst : Nat)
    (key value : List UInt8) (keyAt valueAt : Nat) (vector next : Vector)
    (keyBlock : store.heap keyAt = some (key ++ [0]))
    (valueBlock : store.heap valueAt = some (value ++ [0])) (keyUnowned : Unowned store keyAt)
    (valueUnowned : Unowned store valueAt) (addresses : 1 < keyAt ∧ 1 < valueAt ∧ keyAt ≠ valueAt)
    (found : (store.tables inst)[actorId (keyHash key)]? = some vector)
    (unmapped : contents inst key = none) (nextOk : next.Ok)
    (holds : ∀ index bucket, next.Holds index bucket ↔
      (index = vector.size ∧ bucket = ⟨keyAt, valueAt, key.length, value.length⟩) ∨
        (index ≠ vector.size ∧ vector.Holds index bucket))
    (final : Store)
    (outcome : final = { store with
      heap := store.heap
      tables := Function.update store.tables inst
        ((store.tables inst).set (actorId (keyHash key)) next) }) :
    Refines final (assign contents inst key value) ∧
      Spares store final inst key keyAt valueAt := by
  obtain ⟨sized, oks⟩ := tables_update kept inst (actorId (keyHash key)) nextOk
  have places := at_update store store.heap inst _ vector.size vector next _ found holds
  have before : ∀ bucket other otherValue,
      At store (inst, actorId (keyHash key), vector.size) bucket →
      Stores store.heap bucket other otherValue → other = key := by
    rintro bucket other otherValue ⟨same, equal, beyond, -⟩
    cases found.symm.trans equal
    exact absurd beyond (Nat.lt_irrefl _)
  subst outcome
  constructor
  · apply kept.write inst (actorId (keyHash key)) vector.size key value
      ⟨keyAt, valueAt, key.length, value.length⟩
    · exact kept.intact
    · exact sized
    · exact oks
    · exact places
    · rfl
    · exact before
    · exact ⟨keyBlock, rfl, valueBlock, rfl, addresses.1, addresses.2.1⟩
    · intro place bucket _ present
      refine ⟨⟨rfl, rfl⟩, ⟨(valueUnowned place bucket present).2,
        (valueUnowned place bucket present).1, Ne.symm (keyUnowned place bucket present).2⟩, ?_⟩
      intro other otherValue was same
      obtain ⟨stored, storedValue, again, mapped, -⟩ := kept.stored place bucket present
      rw [(again.unique was).1.trans same.2, same.1, unmapped] at mapped
      cases mapped
    · exact addresses.2.2
  · apply spares_of_places places
      before
    · intro place bucket _ _
      exact ⟨rfl, rfl⟩
    · intro address _
      rfl
    · intro address _ notKey notValue
      exact ⟨Ne.symm notKey, Ne.symm notValue⟩

/-- `OnSetReq` sets the key in the map and spares all other buckets. -/
theorem Refines.handled {store : Store} (kept : Refines store contents) (inst : Nat)
    (key value : List UInt8) (keyAt valueAt : Nat)
    (keyBlock : store.heap keyAt = some (key ++ [0]))
    (valueBlock : store.heap valueAt = some (value ++ [0])) (keyUnowned : Unowned store keyAt)
    (valueUnowned : Unowned store valueAt) (addresses : 1 < keyAt ∧ 1 < valueAt ∧ keyAt ≠ valueAt) :
    Refines (handleSet store inst (setRequest key value keyAt valueAt))
        (assign contents inst key value) ∧
      Spares store (handleSet store inst (setRequest key value keyAt valueAt)) inst key keyAt
        valueAt := by
  obtain ⟨vector, found⟩ := kept.vector inst (keyHash key)
  have hashed : (setRequest key value keyAt valueAt).hashKey = keyHash key :=
    JenkinsHash.jenkinsHash_append key [0]
  have selected : (store.tables inst)[actorId (setRequest key value keyAt valueAt).hashKey]? =
      some vector := by
    rw [hashed]
    exact found
  rcases kept.searched inst keyAt key [0] vector keyBlock found with
    ⟨position, bucket, old, held, stores, -, result⟩ | ⟨result, unmapped⟩
  · have outcome := handleSet_replace store inst (setRequest key value keyAt valueAt) vector
      position bucket selected result held.2 (by have := stores.valueAddress; omega)
      (by rw [stores.valueBlock]; rfl)
    rw [hashed] at outcome
    exact kept.replaced inst position key value old keyAt valueAt vector bucket found held stores
      valueBlock valueUnowned addresses.2.1 _ outcome
  · obtain ⟨next, appended, nextOk, holds⟩ := appendBucket_spec
      (setRequest key value keyAt valueAt) (kept.ok inst _ vector found)
    have outcome := handleSet_append
      selected result appended
    rw [hashed] at outcome
    exact kept.appended inst key value keyAt valueAt vector next keyBlock valueBlock keyUnowned
      valueUnowned addresses found unmapped nextOk holds _ outcome

/-- What a request does to the map. -/
def apply (contents : Contents) : Request → Contents
  | .set inst key value _ _ => assign contents inst key value
  | .get _ _ _ => contents

/-- Every request keeps the tables a representation of the map. -/
theorem step_refines (store next : Store) (contents : Contents) (request : Request)
    (kept : Refines store contents) (stepped : step store request = some next) :
    Refines next (apply contents request) := by
  cases request with simp only [step] at stepped
  | set inst key value keyAt valueAt =>
    split at stepped <;> cases stepped
    rename_i free
    simp only [available, Bool.and_eq_true, decide_eq_true_eq, Option.isNone_iff_eq_none] at free
    obtain ⟨⟨⟨keyAddress, keyFree⟩, valueAddress, valueFree⟩, different⟩ := free
    have keyAllocated := kept.alloc keyAt (key ++ [0]) keyFree
    have stillFree : (alloc store keyAt (key ++ [0])).heap valueAt = none :=
      (Function.update_of_ne (Ne.symm different) _ _).trans valueFree
    have bothAllocated := keyAllocated.alloc valueAt (value ++ [0]) stillFree
    refine (bothAllocated.handled inst key value keyAt valueAt ?_ ?_
      (kept.unowned keyAt keyFree) (kept.unowned valueAt valueFree)
      ⟨keyAddress, valueAddress, different⟩).1
    · exact (Function.update_of_ne different _ _).trans (Function.update_self _ _ _)
    · exact Function.update_self _ _ _
  | get inst key keyAt =>
    split at stepped
    · rename_i free
      simp only [available, Bool.and_eq_true, Option.isNone_iff_eq_none] at free
      have allocated := kept.alloc keyAt key free.2
      rcases allocated.got inst keyAt key (Function.update_self _ _ _) with
        ⟨position, bucket, value, -, -, -, got⟩ | ⟨-, got⟩
      · rw [got] at stepped
        cases stepped
        exact allocated
      · rw [got] at stepped
        cases stepped
        exact allocated
    · cases stepped

/-- Instances that were just initialised represent the empty map. -/
theorem init_refines (garbage : Nat → Nat → Nat) :
    Refines (init garbage) fun _ _ => none := by
  have unused : ∀ inst (index : Nat) vector,
      ((init garbage).tables inst)[index]? = some vector →
      vector = ⟨none, garbage inst index, 0⟩ := by
    intro inst index vector found
    simp only [init, hashTableInit, List.getElem?_map, Option.map_eq_some_iff] at found
    obtain ⟨number, listed, rfl⟩ := found
    obtain ⟨inside, rfl⟩ := List.getElem?_eq_some_iff.mp listed
    rw [List.getElem_range]
  have empty : ∀ place bucket, ¬ At (init garbage) place bucket := by
    rintro ⟨inst, index, position⟩ bucket ⟨vector, found, held⟩
    rw [unused inst index vector found] at held
    exact absurd held.1 (Nat.not_lt_zero _)
  constructor
  · rfl
  · intro inst
    simp [init, hashTableInit]
  · intro inst index vector found
    rw [unused inst index vector found]
    exact ⟨fun _ => rfl, fun present => absurd rfl present, Nat.zero_le _,
      fun index inside => absurd inside (Nat.not_lt_zero _)⟩
  · intro place bucket held
    exact absurd held (empty place bucket)
  · intro inst key value mapped
    cases mapped
  · intro inst index first second bucket other held
    exact absurd held (empty _ bucket)
  · intro place bucket place' bucket' held
    exact absurd held (empty place bucket)
  · intro place bucket place' bucket' held
    exact absurd held (empty place bucket)

/-- After a run the tables represent the map that the requests make of the first one. -/
theorem run_refines (store final : Store) (contents : Contents) (schedule : List Request)
    (kept : Refines store contents) (executed : Runs.run step store schedule = some final) :
    Refines final (schedule.foldl apply contents) := by
  induction schedule generalizing store contents with
  | nil =>
    cases executed
    exact kept
  | cons request rest inductionHypothesis =>
    obtain ⟨next, stepped, following⟩ := (Runs.run_cons step store final request rest).mp executed
    exact inductionHypothesis next (apply contents request)
      (step_refines store next contents request kept stepped) following

/-- The map holds what was set last. -/
theorem foldl_apply (inst : Nat) (key : List UInt8) (contents : Contents)
    (schedule : List Request) :
    (schedule.foldl apply contents) inst key =
      schedule.foldl (latest inst key) (contents inst key) := by
  induction schedule generalizing contents with
  | nil => rfl
  | cons request _ inductionHypothesis =>
    rw [List.foldl_cons, List.foldl_cons, inductionHypothesis]
    cases request with
    | set =>
      simp only [apply, assign, latest, eq_comm]
    | get => rfl

/-- The key of a bucket, as bytes. -/
def Bucket.keyBytes (heap : Heap) (bucket : Bucket) : Option (List UInt8) :=
  (heap bucket.key).map fun block => block.take bucket.ksize

/-- A reply to a get: a miss, or the sizes and the blocks of the key and its value. -/
def Reports (heap : Heap) (key : List UInt8) (ret : Ret) : Option (List UInt8) → Prop
  | none => ret.key = 0 ∧ ret.value = 0
  | some value => 1 < ret.key ∧ ret.ksize = key.length ∧ ret.vsize = value.length ∧
      heap ret.key = some (key ++ [0]) ∧ heap ret.value = some (value ++ [0])

/-- After every sequence of requests to any instances: no handler has left its memory; every
bucket vector is within its capacity, with pairwise different keys; every index is within the
array; and a get reports the value of the last set of the same key, or a miss. -/
theorem run_refines_map (garbage : Nat → Nat → Nat) (schedule : List Request) (final : Store)
    (executed : Runs.run step (init garbage) schedule = some final) :
    final.broken = false ∧
    (∀ inst (index : Nat) vector, (final.tables inst)[index]? = some vector →
      vector.size ≤ vector.cap ∧
      ∀ first second bucket other, vector.Holds first bucket → vector.Holds second other →
        first ≠ second → bucket.keyBytes final.heap ≠ other.keyBytes final.heap) ∧
    (∀ inst hashKey, actorId hashKey < (final.tables inst).length) ∧
    ∀ inst key keyAt, available final.heap keyAt = true → ∃ ret,
      onGetReq (alloc final keyAt key).heap (final.tables inst) (getRequest key keyAt) = some ret ∧
      Reports (alloc final keyAt key).heap key ret (lastSet inst key schedule) := by
  have kept := run_refines _ final _ schedule (init_refines garbage) executed
  refine ⟨kept.intact, fun inst index vector found => ⟨?_, ?_⟩, ?_, ?_⟩
  · exact (kept.ok inst index vector found).bounded
  · intro first second bucket other held otherHeld different same
    obtain ⟨key, value, stores, -⟩ := kept.stored (inst, index, first) bucket ⟨vector, found, held⟩
    obtain ⟨key', value', stores', -⟩ :=
      kept.stored (inst, index, second) other ⟨vector, found, otherHeld⟩
    simp only [Bucket.keyBytes, stores.keyBlock, stores.ksize, stores'.keyBlock, stores'.ksize,
      Option.map_some, List.take_left, Option.some.injEq] at same
    apply different
    apply kept.distinct inst index first second bucket other ⟨vector, found, held⟩
      ⟨vector, found, otherHeld⟩
    rw [stores.keyBlock, stores'.keyBlock, same]
  · intro inst hashKey
    rw [kept.sized inst]
    exact actorId_lt hashKey
  · intro inst key keyAt free
    simp only [available, Bool.and_eq_true, Option.isNone_iff_eq_none] at free
    have allocated := kept.alloc keyAt key free.2
    rw [lastSet, ← foldl_apply inst key (fun _ _ => none) schedule]
    rcases allocated.got inst keyAt key (Function.update_self _ _ _) with
      ⟨position, bucket, value, -, stores, mapped, got⟩ | ⟨unmapped, got⟩
    · rw [mapped]
      exact ⟨_, got, stores.keyAddress, stores.ksize, stores.vsize, stores.keyBlock,
        stores.valueBlock⟩
    · rw [unmapped]
      exact ⟨_, got, rfl, rfl⟩

/-- Five keys are set, so that the vector grows, and one of them once more. -/
def sixSets : List Request :=
  [.set 3 [97] [1, 2] 10 11, .set 3 [98] [] 12 13, .set 3 [97, 98] [3] 14 15,
    .get 3 [98] 16, .set 3 [] [4] 17 18, .set 3 [99] [5] 19 20, .set 3 [97] [6, 7, 8] 21 22]

theorem sixSets_completes : (Runs.run step (init fun _ _ => 77) sixSets).isSome := by
  decide +kernel

/-- The table has five buckets in a vector of eight, and shows the second value of the key
that was set twice. -/
theorem run_refines_map_six :
    ∃ final, Runs.run step (init fun _ _ => 77) sixSets = some final ∧
      (final.tables 3).map (fun vector => (vector.size, vector.cap)) = [(5, 8)] ∧
      lastSet 3 [97] sixSets = some [6, 7, 8] ∧
      ∃ ret, onGetReq (alloc final 30 [97]).heap (final.tables 3) (getRequest [97] 30) =
          some ret ∧
        Reports (alloc final 30 [97]).heap [97] ret (lastSet 3 [97] sixSets) := by
  refine ⟨Option.get _ sixSets_completes, (Option.some_get _).symm, ?_, ?_, ?_⟩
  · decide +kernel
  · decide +kernel
  · apply (run_refines_map (fun _ _ => 77) sixSets _ (Option.some_get _).symm).2.2.2 3 [97] 30
    decide +kernel

end Mola.HashTable
