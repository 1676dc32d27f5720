import Mola.Runs
import Mola.JenkinsHash

/-!
# The hash table of the key-value store

An instance of the module `HashTable` keeps an array of bucket vectors. A request names a
key, and a value to set, by the addresses of blocks that the sender has allocated; the table
keeps these blocks. Setting a key that is present frees the old value and keeps the old key.

The heap is a map from addresses to the bytes of live blocks, shared by all instances. A
handler returns `none` where it reads or frees a block that is not live, reads behind a
block, or leaves an array. Allocation succeeds, at an address that is not in use and is
neither NULL nor 1; sizes do not overflow. A bucket array is a list of slots, those that
nobody has written being `none`, and the capacity of a vector that was never used is
whatever `malloc` found there.
-/

namespace Mola.HashTable

open JenkinsHash (jenkinsHash keyHash)

/-- The live blocks. -/
abbrev Heap := Nat → Option (List UInt8)

/-- `Bucket`, with addresses for pointers. -/
structure Bucket where
  key : Nat
  value : Nat
  ksize : Nat
  vsize : Nat
deriving DecidableEq

/-- `Vector`. The slots are those that were allocated for `bk`, if it is not NULL. -/
structure Vector where
  bk : Option (List (Option Bucket))
  cap : Nat
  size : Nat

/-- `GetReq`. -/
structure GetReq where
  key : Nat
  ksize : Nat
  hashKey : UInt32

/-- `SetReq`. -/
structure SetReq where
  key : Nat
  value : Nat
  ksize : Nat
  vsize : Nat
  hashKey : UInt32

/-- `Ret`. Fields that a handler does not set are 0 here; nobody reads them. -/
structure Ret where
  key : Nat
  value : Nat
  ksize : Nat
  vsize : Nat
deriving DecidableEq

/-- `VECTOR_CAP`. -/
def vectorCap : Nat := 4

/-- `N_ACTOR_POWER`. -/
def nActorPower : Nat := 16

/-- `N_INSTANCE_POWER`. -/
def nInstancePower : Nat := 16

/-- `ACTOR_MASK`. -/
def actorMask : UInt32 := 0xffffffff >>> (32 - UInt32.ofNat nActorPower)

/-- `n_actor_per_inst`. -/
def nActorPerInst : Nat := 1 <<< (nActorPower - nInstancePower)

/-- The index of the vector for a hash value. -/
def actorId (hashKey : UInt32) : Nat :=
  ((hashKey &&& actorMask) >>> UInt32.ofNat nInstancePower).toNat

/-- `HashTable_init`. The capacities are not set. -/
def hashTableInit (garbage : Nat → Nat) : List Vector :=
  (List.range nActorPerInst).map fun index => ⟨none, garbage index, 0⟩

/-- `memcmp` of the first bytes of two blocks, as far as it is defined. -/
def memcmp (heap : Heap) (first second size : Nat) : Option Bool :=
  match heap first, heap second with
  | some left, some right =>
      if size ≤ left.length ∧ size ≤ right.length then some (left.take size = right.take size)
      else none
  | _, _ => none

/-- The test of a bucket in the search loop. -/
def matchesKey (heap : Heap) (key ksize : Nat) (bucket : Bucket) : Option Bool :=
  if bucket.ksize = ksize then memcmp heap bucket.key key ksize else some false

/-- The search loop, with the number of buckets that are left and the index of the next. -/
def search (heap : Heap) (slots : List (Option Bucket)) (key ksize : Nat) :
    Nat → Nat → Option (Option Nat)
  | 0, _ => some none
  | left + 1, index =>
      match slots[index]? with
      | some (some bucket) =>
          match matchesKey heap key ksize bucket with
          | none => none
          | some true => some (some index)
          | some false => search heap slots key ksize left (index + 1)
      | _ => none

/-- The slots of a vector. NULL has none. -/
def Vector.slots (vector : Vector) : List (Option Bucket) := vector.bk.getD []

/-- `OnGetReq`. -/
def onGetReq (heap : Heap) (vec : List Vector) (greq : GetReq) : Option Ret :=
  match vec[actorId greq.hashKey]? with
  | none => none
  | some vector =>
      match search heap vector.slots greq.key greq.ksize vector.size 0 with
      | none => none
      | some none => some ⟨0, 0, 0, 0⟩
      | some (some index) =>
          match vector.slots[index]? with
          | some (some bucket) => some ⟨bucket.key, bucket.value, bucket.ksize, bucket.vsize⟩
          | _ => none

/-- `free`. -/
def free (heap : Heap) (address : Nat) : Option Heap :=
  if (heap address).isSome then some (Function.update heap address none) else none

/-- The update of a bucket whose key is present. -/
def replaceValue (heap : Heap) (vector : Vector) (index : Nat) (sreq : SetReq) :
    Option (Heap × Vector) :=
  match vector.slots[index]? with
  | some (some bucket) =>
      let updated := { vector with
        bk := some (vector.slots.set index
          (some { bucket with value := sreq.value, vsize := sreq.vsize })) }
      if bucket.value = 0 then some (heap, updated)
      else (free heap bucket.value).map fun heap => (heap, updated)
  | _ => none

/-- `realloc` of a bucket array. -/
def resize (slots : List (Option Bucket)) (count : Nat) : List (Option Bucket) :=
  (slots ++ List.replicate count none).take count

/-- The first allocation of a vector. -/
def Vector.allocate (vector : Vector) : Vector :=
  match vector.bk with
  | none => ⟨some (List.replicate vectorCap none), vectorCap, 0⟩
  | some _ => vector

/-- The doubling of a full vector. -/
def Vector.grow (vector : Vector) : Vector :=
  if vector.size = vector.cap then
    { vector with bk := some (resize vector.slots (vector.cap * 2)), cap := vector.cap * 2 }
  else vector

/-- The addition of a bucket. -/
def appendBucket (vector : Vector) (sreq : SetReq) : Option Vector :=
  let vector := vector.allocate.grow
  if vector.size < vector.slots.length then
    some { vector with
      bk := some (vector.slots.set vector.size
        (some ⟨sreq.key, sreq.value, sreq.ksize, sreq.vsize⟩))
      size := vector.size + 1 }
  else none

/-- `OnSetReq`. -/
def onSetReq (heap : Heap) (vec : List Vector) (sreq : SetReq) :
    Option (Heap × List Vector × Ret) :=
  match vec[actorId sreq.hashKey]? with
  | none => none
  | some vector =>
      let stored : Heap → Vector → Heap × List Vector × Ret := fun heap vector =>
        (heap, vec.set (actorId sreq.hashKey) vector, ⟨1, 0, 0, 0⟩)
      match search heap vector.slots sreq.key sreq.ksize vector.size 0 with
      | none => none
      | some (some index) =>
          (replaceValue heap vector index sreq).map fun result => stored result.1 result.2
      | some none => (appendBucket vector sreq).map fun vector => stored heap vector

/-- The heap, the tables of all instances, and whether a handler did something undefined. -/
structure Store where
  heap : Heap
  tables : Nat → List Vector
  broken : Bool

/-- Instances that were just initialised. -/
def init (garbage : Nat → Nat → Nat) : Store where
  heap := fun _ => none
  tables := fun inst => hashTableInit (garbage inst)
  broken := false

/-- An address that `malloc` can return. -/
def available (heap : Heap) (address : Nat) : Bool := 1 < address && (heap address).isNone

/-- `malloc` and the initialisation of the block. -/
def alloc (store : Store) (address : Nat) (bytes : List UInt8) : Store :=
  { store with heap := Function.update store.heap address (some bytes) }

/-- An instance handles a request to set a key. -/
def handleSet (store : Store) (inst : Nat) (sreq : SetReq) : Store :=
  match onSetReq store.heap (store.tables inst) sreq with
  | none => { store with broken := true }
  | some (heap, vec, _) =>
      { store with heap := heap, tables := Function.update store.tables inst vec }

/-- The blocks and the request that `Hash` makes of a key and a value. -/
def setRequest (key value : List UInt8) (keyAt valueAt : Nat) : SetReq :=
  ⟨keyAt, valueAt, key.length, value.length, jenkinsHash (key ++ [0]) key.length⟩

/-- The request that `Hash` makes of a key. -/
def getRequest (key : List UInt8) (keyAt : Nat) : GetReq :=
  ⟨keyAt, key.length, jenkinsHash key key.length⟩

/-- A request to an instance, with the addresses that `malloc` returns for its blocks. -/
inductive Request where
  | set (inst : Nat) (key value : List UInt8) (keyAt valueAt : Nat)
  | get (inst : Nat) (key : List UInt8) (keyAt : Nat)

/-- The blocks of a request are allocated, and the request is handled. -/
def step (store : Store) : Request → Option Store
  | .set inst key value keyAt valueAt =>
      if available store.heap keyAt && available store.heap valueAt && keyAt ≠ valueAt then
        some (handleSet (alloc (alloc store keyAt (key ++ [0])) valueAt (value ++ [0])) inst
          (setRequest key value keyAt valueAt))
      else none
  | .get inst key keyAt =>
      if available store.heap keyAt then
        let store := alloc store keyAt key
        match onGetReq store.heap (store.tables inst) (getRequest key keyAt) with
        | none => some { store with broken := true }
        | some _ => some store
      else none

/-- The value of a key of an instance after one more request. -/
def latest (inst : Nat) (key : List UInt8) (found : Option (List UInt8)) :
    Request → Option (List UInt8)
  | .set other otherKey value _ _ => if other = inst ∧ otherKey = key then some value else found
  | .get _ _ _ => found

/-- The value that the last request to set a key of an instance gave. -/
def lastSet (inst : Nat) (key : List UInt8) (past : List Request) : Option (List UInt8) :=
  past.foldl (latest inst key) none

end Mola.HashTable
