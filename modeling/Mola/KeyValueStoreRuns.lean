import Mathlib.Data.List.Perm.Basic
import Mola.KeyValueStore
import Mola.HashTableRuns

/-!
# Replies of the key-value store

A `Ret` under way refers to the blocks of a bucket. The bucket keeps its place and its key,
but a set of the same key frees its value. Where no set of a key overtakes a reply for it,
each reply under way still refers to the blocks of a bucket that holds what the get saw, and
the blocks of requests that wait for the table belong to no bucket.
-/

namespace Mola.KeyValueStore

open JenkinsHash (keyHash)
open HashTable (Heap Store Bucket SetReq GetReq Ret Refines Stores At Unowned Spares init available
  alloc handleSet onGetReq setRequest getRequest)

/-- The blocks of a message to the table. -/
def Message.addresses : Message → List Nat
  | .set sreq => [sreq.key, sreq.value]
  | .get greq => [greq.key]

/-- A message whose blocks are live and belong to no bucket. -/
inductive Ready (store : Store) : Message → Prop
  | set (key value : List UInt8) (keyAt valueAt : Nat)
      (keyBlock : store.heap keyAt = some (key ++ [0]))
      (valueBlock : store.heap valueAt = some (value ++ [0]))
      (keyUnowned : Unowned store keyAt) (valueUnowned : Unowned store valueAt)
      (addresses : 1 < keyAt ∧ 1 < valueAt ∧ keyAt ≠ valueAt) :
      Ready store (.set (setRequest key value keyAt valueAt))
  | get (key : List UInt8) (keyAt : Nat) (block : store.heap keyAt = some key)
      (unowned : Unowned store keyAt) : Ready store (.get (getRequest key keyAt))

variable {system : System} {index : Nat} {message : Message}

/-- The blocks of a message are live. -/
theorem Ready.live {store : Store} (ready : Ready store message) (address : Nat)
    (member : address ∈ message.addresses) : store.heap address ≠ none := by
  cases ready with
  | set _ _ _ _ keyBlock valueBlock =>
    rcases List.mem_cons.mp member with rfl | later
    · exact fun gone => Option.some_ne_none _ (keyBlock.symm.trans gone)
    · obtain rfl := List.mem_singleton.mp later
      exact fun gone => Option.some_ne_none _ (valueBlock.symm.trans gone)
  | get _ _ block =>
    obtain rfl := List.mem_singleton.mp member
    exact fun gone => Option.some_ne_none _ (block.symm.trans gone)

/-- A change that spares the blocks of a message. -/
theorem Ready.frame {store next : Store} (ready : Ready store message)
    (same : ∀ address ∈ message.addresses, Unowned store address →
      next.heap address = store.heap address ∧ Unowned next address) :
    Ready next message := by
  cases ready with
  | set key value keyAt valueAt keyBlock valueBlock keyUnowned valueUnowned addresses =>
    obtain ⟨keySame, keyStill⟩ := same keyAt List.mem_cons_self keyUnowned
    obtain ⟨valueSame, valueStill⟩ :=
      same valueAt (List.mem_cons_of_mem _ List.mem_cons_self) valueUnowned
    exact .set key value keyAt valueAt (keySame.trans keyBlock) (valueSame.trans valueBlock)
      keyStill valueStill addresses
  | get key keyAt block unowned =>
    obtain ⟨blockSame, still⟩ := same keyAt List.mem_cons_self unowned
    exact .get key keyAt (blockSame.trans block) still

/-- A reply refers to the blocks of a bucket, which hold what the get saw. -/
def Backed (store : Store) (reply : Reply) : Prop :=
  ∀ sight ∈ reply.seen, ∃ place bucket key value, At store place bucket ∧
    Stores store.heap bucket key value ∧ reply.ret.key = bucket.key ∧
    reply.ret.value = bucket.value ∧ sight = ⟨some key, some (key ++ [0]), some (value ++ [0])⟩

/-- What is true of the actors in every state. -/
structure Kept (system : System) : Prop where
  table : ∃ contents, Refines system.store contents
  ready : ∀ call ∈ system.calls, Ready system.store call.message
  apart : (system.calls.flatMap fun call => call.message.addresses).Nodup
  backed : ∀ reply ∈ system.returns ++ system.replies, Backed system.store reply
  right : ∀ shown ∈ system.shown, shown.Right

/-- Taking a call leaves those whose blocks are different ones. -/
theorem taken_apart {calls : List Call} {call : Call} (found : calls[index]? = some call)
    (apart : (calls.flatMap fun call => call.message.addresses).Nodup) :
    ((calls.eraseIdx index).flatMap fun call => call.message.addresses).Nodup ∧
      ∀ other ∈ calls.eraseIdx index, ∀ address ∈ other.message.addresses,
        address ∉ call.message.addresses := by
  obtain ⟨inside, rfl⟩ := List.getElem?_eq_some_iff.mp found
  have order := (List.getElem_cons_eraseIdx_perm inside).flatMap_right
    fun call => call.message.addresses
  have divided := order.nodup_iff.mpr apart
  rw [List.flatMap_cons, List.nodup_append] at divided
  obtain ⟨-, rest, different⟩ := divided
  refine ⟨rest, fun other member address owned owns => ?_⟩
  exact different address owns address (List.mem_flatMap.mpr ⟨other, member, owned⟩) rfl

theorem alloc_heap {store : Store} {address other : Nat} (bytes : List UInt8)
    (free : store.heap address = none) (live : store.heap other ≠ none) :
    (alloc store address bytes).heap other = store.heap other := by
  apply Function.update_of_ne
  rintro rfl
  exact live free

/-- A reply under way is not affected by an allocation. -/
theorem Backed.alloc {store : Store} {reply : Reply} (backed : Backed store reply) (address : Nat)
    (bytes : List UInt8) (free : store.heap address = none) :
    Backed (alloc store address bytes) reply := by
  intro sight seen
  obtain ⟨place, bucket, key, value, present, stores, rest⟩ := backed sight seen
  refine ⟨place, bucket, key, value, present, ?_, rest⟩
  apply stores.frame
  · apply alloc_heap bytes free
    rw [stores.keyBlock]
    exact Option.some_ne_none _
  · apply alloc_heap bytes free
    rw [stores.valueBlock]
    exact Option.some_ne_none _

theorem Ready.alloc {store : Store} (ready : Ready store message) (address : Nat)
    (bytes : List UInt8) (free : store.heap address = none) :
    Ready (alloc store address bytes) message := by
  apply ready.frame
  intro other member unowned
  exact ⟨alloc_heap bytes free (ready.live other member), unowned⟩

/-- An allocation keeps the invariant. -/
theorem Kept.alloc (kept : Kept system) (address : Nat) (bytes : List UInt8)
    (free : system.store.heap address = none) :
    Kept { system with store := alloc system.store address bytes } := by
  obtain ⟨contents, refines⟩ := kept.table
  exact {
    table := ⟨contents, refines.alloc address bytes free⟩
    ready := fun call member => (kept.ready call member).alloc address bytes free
    apart := kept.apart
    backed := fun reply member => (kept.backed reply member).alloc address bytes free
    right := kept.right }

/-- `Hash` sends a message with blocks of its own. -/
theorem Kept.call (kept : Kept system) (requests : List (Nat × List UInt8)) (call : Call)
    (ready : Ready system.store call.message) (own : call.message.addresses.Nodup)
    (fresh : ∀ other ∈ system.calls, ∀ address ∈ other.message.addresses,
      address ∉ call.message.addresses) :
    Kept { system with requests := requests, calls := system.calls ++ [call] } := by
  refine { kept with ready := ?_, apart := ?_ }
  · intro other member
    rcases List.mem_append.mp member with old | new
    · exact kept.ready other old
    · obtain rfl := List.mem_singleton.mp new
      exact ready
  · rw [List.flatMap_append, List.flatMap_singleton, List.nodup_append]
    refine ⟨kept.apart, own, ?_⟩
    rintro address old other new rfl
    obtain ⟨another, member, owned⟩ := List.mem_flatMap.mp old
    exact fresh another member address owned new

/-- `OnReq` keeps the invariant. -/
theorem onReq_kept {next : System} {client keyAt valueAt : Nat} {command : Command}
    (kept : Kept system) (stepped : onReq system index client keyAt valueAt command = some next) :
    Kept next := by
  obtain ⟨contents, refines⟩ := kept.table
  -- The blocks of the messages that wait are live, and so not those that `malloc` returns.
  have notFree : ∀ address, system.store.heap address = none → ∀ other ∈ system.calls,
      address ∉ other.message.addresses := by
    intro address free other member owned
    exact (kept.ready other member).live address owned free
  cases command with simp only [onReq] at stepped
  | other =>
    cases stepped
    exact { kept with }
  | set key value =>
    split at stepped <;> cases stepped
    rename_i enabled
    simp only [available, Bool.and_eq_true, decide_eq_true_eq, Option.isNone_iff_eq_none]
      at enabled
    obtain ⟨⟨⟨keyAddress, keyFree⟩, valueAddress, valueFree⟩, different⟩ := enabled
    have stillFree : (alloc system.store keyAt (key ++ [0])).heap valueAt = none :=
      (Function.update_of_ne (Ne.symm different) _ _).trans valueFree
    have allocated := (kept.alloc keyAt (key ++ [0]) keyFree).alloc valueAt (value ++ [0]) stillFree
    apply allocated.call
    · apply Ready.set key value keyAt valueAt
      · exact (Function.update_of_ne different _ _).trans (Function.update_self _ _ _)
      · exact Function.update_self _ _ _
      · exact refines.unowned keyAt keyFree
      · exact refines.unowned valueAt valueFree
      · exact ⟨keyAddress, valueAddress, different⟩
    · simpa [Message.addresses, setRequest] using different
    · intro other member address owned mine
      rcases List.mem_cons.mp mine with rfl | later
      · exact notFree _ keyFree other member owned
      · obtain rfl := List.mem_singleton.mp later
        exact notFree _ valueFree other member owned
  | get key =>
    split at stepped <;> cases stepped
    rename_i enabled
    simp only [available, Bool.and_eq_true, Option.isNone_iff_eq_none] at enabled
    apply (kept.alloc keyAt key enabled.2).call
    · apply Ready.get key keyAt
      · exact Function.update_self _ _ _
      · exact refines.unowned keyAt enabled.2
    · exact List.pairwise_singleton _ _
    · intro other member address owned mine
      obtain rfl := List.mem_singleton.mp mine
      exact notFree _ enabled.2 other member owned

/-- A set spares the replies under way for other keys. -/
theorem Backed.set {store next : Store} {reply : Reply} {inst keyAt valueAt : Nat}
    {key : List UInt8} (backed : Backed store reply)
    (spares : Spares store next inst key keyAt valueAt)
    (different : ∀ sight ∈ reply.seen, sight.key ≠ some (key ++ [0])) : Backed next reply := by
  intro sight seen
  obtain ⟨place, bucket, other, value, present, stores, keyAddress, valueAddress, same⟩ :=
    backed sight seen
  have elsewhere : ¬ (place.1 = inst ∧ other = key) := by
    rintro ⟨-, rfl⟩
    apply different sight seen
    rw [same]
  obtain ⟨still, keySame, valueSame⟩ :=
    spares.buckets place bucket other value present stores elsewhere
  exact ⟨place, bucket, other, value, still, stores.frame keySame valueSame, keyAddress,
    valueAddress, same⟩

/-- The handling of a set that overtakes no reply for its key. -/
theorem set_kept {call : Call} {sreq : SetReq} (kept : Kept system)
    (found : system.calls[index]? = some call) (message : call.message = .set sreq)
    (undisturbed : ∀ reply ∈ system.returns ++ system.replies, ∀ sight ∈ reply.seen,
      sight.key ≠ system.store.heap sreq.key) :
    Kept { system with
      store := handleSet system.store call.inst sreq
      calls := system.calls.eraseIdx index
      returns := system.returns ++ [⟨call.client, ⟨1, 0, 0, 0⟩, none⟩] } := by
  obtain ⟨contents, refines⟩ := kept.table
  obtain ⟨apart, others⟩ := taken_apart found kept.apart
  have ready := kept.ready call (List.mem_of_getElem? found)
  rw [message] at ready others
  cases ready with
  | set key value keyAt valueAt keyBlock valueBlock keyUnowned valueUnowned addresses =>
    obtain ⟨handled, spares⟩ := refines.handled call.inst key value keyAt valueAt keyBlock
      valueBlock keyUnowned valueUnowned addresses
    refine ⟨⟨_, handled⟩, fun other member => ?_, apart, fun reply member => ?_, kept.right⟩
    · apply (kept.ready other (List.mem_of_mem_eraseIdx member)).frame
      intro address owned unowned
      have notOurs := others other member address owned
      refine ⟨spares.blocks address unowned, spares.unowned address unowned ?_ ?_⟩
      · rintro rfl
        exact notOurs List.mem_cons_self
      · rintro rfl
        exact notOurs (List.mem_cons_of_mem _ List.mem_cons_self)
    · have cases : reply ∈ system.returns ++ system.replies ∨ reply.seen = none := by
        simp only [List.mem_append, List.mem_singleton] at member ⊢
        rcases member with (old | rfl) | old
        · exact Or.inl (Or.inl old)
        · exact Or.inr rfl
        · exact Or.inl (Or.inr old)
      rcases cases with old | unseen
      · apply (kept.backed reply old).set spares
        intro sight seen
        rw [← keyBlock]
        exact undisturbed reply old sight seen
      · intro sight seen
        rw [unseen] at seen
        cases seen

/-- The handling of a get. -/
theorem get_kept {call : Call} {greq : GetReq} (kept : Kept system)
    (found : system.calls[index]? = some call) (message : call.message = .get greq) :
    Kept { system with
      store := (handle system.store call).1
      calls := system.calls.eraseIdx index
      returns := system.returns ++ (handle system.store call).2.toList } := by
  obtain ⟨contents, refines⟩ := kept.table
  obtain ⟨apart, -⟩ := taken_apart found kept.apart
  have ready := kept.ready call (List.mem_of_getElem? found)
  rw [message] at ready
  cases ready with
  | get key keyAt block =>
    have answered : ∃ reply, handle system.store call = (system.store, some reply) ∧
        Backed system.store reply := by
      rcases refines.got call.inst keyAt key block with
        ⟨position, bucket, value, present, stores, -, got⟩ | ⟨-, got⟩
      · have hit : bucket.key ≠ 0 := Nat.ne_of_gt (Nat.lt_of_succ_lt stores.keyAddress)
        simp only [handle, message, got, if_neg hit]
        refine ⟨_, rfl, fun sight seen => ?_⟩
        cases seen
        refine ⟨_, bucket, key, value, present, stores, rfl, rfl, ?_⟩
        simp only [getRequest, block, stores.keyBlock, stores.valueBlock]
      · simp only [handle, message, got, if_true]
        refine ⟨_, rfl, fun sight seen => ?_⟩
        cases seen
    obtain ⟨reply, handled, backed⟩ := answered
    rw [handled]
    refine ⟨⟨contents, refines⟩, fun other member => ?_, apart, fun other member => ?_, kept.right⟩
    · exact kept.ready other (List.mem_of_mem_eraseIdx member)
    · simp only [Option.toList_some, List.mem_append, List.mem_singleton] at member
      rcases member with (old | rfl) | old
      · exact kept.backed other (List.mem_append_left _ old)
      · exact backed
      · exact kept.backed other (List.mem_append_right _ old)

/-- Every step that lets no set overtake a reply for its key keeps the invariant. -/
theorem step_kept (system : System) (action : Action) (next : System) (kept : Kept system)
    (allowed : undisturbed system action = true) (stepped : step system action = some next) :
    Kept next := by
  cases action with simp only [step] at stepped
  | onNewPackage =>
    split at stepped <;> cases stepped
    · exact kept
    · exact { kept with }
  | onReq =>
    split at stepped
    · cases stepped
    · split at stepped
      · cases stepped
      · exact onReq_kept kept stepped
  | handle =>
    split at stepped <;> cases stepped
    rename_i call found
    cases message : call.message with
    | set sreq =>
      have free : ∀ reply ∈ system.returns ++ system.replies, ∀ sight ∈ reply.seen,
          sight.key ≠ system.store.heap sreq.key := by
        obtain ⟨client, inst, content⟩ := call
        cases message
        simp only [undisturbed, found, List.all_eq_true] at allowed
        intro reply member sight seen
        have each := allowed reply member
        rw [Option.mem_def.mp seen] at each
        exact of_decide_eq_true each
      have handled := set_kept kept found message free
      simp only [handle, message]
      exact handled
    | get => exact get_kept kept found message
  | onReqRet =>
    split at stepped <;> cases stepped
    rename_i reply found
    refine { kept with backed := fun other member => ?_ }
    simp only [List.mem_append, List.mem_singleton] at member
    rcases member with old | old | rfl
    · exact kept.backed other (List.mem_append_left _ (List.mem_of_mem_eraseIdx old))
    · exact kept.backed other (List.mem_append_right _ old)
    · exact kept.backed other (List.mem_append_left _ (List.mem_of_getElem? found))
  | onReqReturn =>
    split at stepped <;> cases stepped
    rename_i reply found
    have backed := kept.backed reply (List.mem_append_right _ (List.mem_of_getElem? found))
    refine { kept with
      backed := fun other member => ?_
      right := fun shown member => ?_ }
    · rcases List.mem_append.mp member with old | old
      · exact kept.backed other (List.mem_append_left _ old)
      · exact kept.backed other (List.mem_append_right _ (List.mem_of_mem_eraseIdx old))
    · rcases List.mem_append.mp member with old | new
      · exact kept.right shown old
      · obtain rfl := List.mem_singleton.mp new
        intro sight seen
        obtain ⟨place, bucket, key, value, -, stores, keyAddress, valueAddress, same⟩ :=
          backed sight seen
        refine ⟨key, value ++ [0], same, ?_, ?_⟩
        · dsimp only
          rw [keyAddress, stores.keyBlock]
        · dsimp only
          rw [valueAddress, stores.valueBlock]

/-- The modules have just been loaded. -/
theorem start_kept (garbage : Nat → Nat → Nat) : Kept (start garbage) where
  table := ⟨_, HashTable.init_refines garbage⟩
  ready := by
    intro call member
    cases member
  apart := List.nodup_nil
  backed := by
    intro reply member
    cases member
  right := by
    intro shown member
    cases member

/-- In every run in which no set of a key is handled while a reply for that key is under way,
each formatted reply to a get shows the key that was asked for and the value that the table
had when it handled the get, in live blocks. -/
theorem run_shows_seen (garbage : Nat → Nat → Nat) (schedule : List Action) (final : System)
    (allowed : Runs.Along step (fun system action => undisturbed system action = true)
      (start garbage) schedule)
    (executed : Runs.run step (start garbage) schedule = some final) :
    ∀ shown ∈ final.shown, shown.Right :=
  (Runs.run_preserves step _ Kept step_kept _ final schedule (start_kept garbage) allowed
    executed).right

/-- In such a run the tables represent a map and no freed memory is used, a message to them has
live blocks of its own, and a reply under way refers to a bucket with what the get saw. -/
theorem run_represents (garbage : Nat → Nat → Nat) (schedule : List Action) (final : System)
    (allowed : Runs.Along step (fun system action => undisturbed system action = true)
      (start garbage) schedule)
    (executed : Runs.run step (start garbage) schedule = some final) :
    (∃ contents, Refines final.store contents) ∧
      (∀ call ∈ final.calls, Ready final.store call.message) ∧
      (final.calls.flatMap fun call => call.message.addresses).Nodup ∧
      ∀ reply ∈ final.returns ++ final.replies, Backed final.store reply := by
  have kept := Runs.run_preserves step _ Kept step_kept _ final schedule (start_kept garbage)
    allowed executed
  exact ⟨kept.table, kept.ready, kept.apart, kept.backed⟩

/-- The package that sets the key "k" to a value of two bytes. -/
def setPackage (value : String) : List UInt8 :=
  ascii "set k" ++ [0] ++ ascii " 0 02\r\n" ++ ascii value

/-- The package that gets the key "k". -/
def getPackage : List UInt8 := ascii "get k\r\n"

/-- One client sets the key and gets the reply; another gets its value, and the first client
sets it again while this reply is still to be formatted. -/
def setAfterGet : List Action :=
  [.onNewPackage 1 (setPackage "v1"), .onReq 0 10 11, .handle 0, .onReqRet 0, .onReqReturn 0,
    .onNewPackage 2 getPackage, .onNewPackage 1 (setPackage "v2"), .onReq 0 12 12, .onReq 0 13 14,
    .handle 0]

/-- The reply is formatted before the second set is handled, and the key is got once more. -/
def inTurn : List Action :=
  setAfterGet ++ [.onReqRet 0, .onReqReturn 0, .handle 0, .onNewPackage 2 getPackage,
    .onReq 0 15 15, .handle 0, .onReqRet 1, .onReqReturn 0]

/-- The second set is handled before the reply is formatted. -/
def overtaken : List Action := setAfterGet ++ [.handle 0, .onReqRet 0, .onReqReturn 0]

theorem inTurn_completes : (Runs.run step (start fun _ _ => 0) inTurn).isSome := by
  decide +kernel

theorem overtaken_completes : (Runs.run step (start fun _ _ => 0) overtaken).isSome := by
  decide +kernel

/-- Both gets show the value that the key had. -/
theorem run_shows_seen_in_turn :
    ∃ final, Runs.run step (start fun _ _ => 0) inTurn = some final ∧
      final.shown.map (fun shown => (shown.reply.client, shown.value)) =
        [(1, none), (2, some (ascii "v1" ++ [0])), (2, some (ascii "v2" ++ [0]))] ∧
      ∀ shown ∈ final.shown, shown.Right := by
  refine ⟨Option.get _ inTurn_completes, (Option.some_get _).symm, ?_, ?_⟩
  · decide +kernel
  · apply run_shows_seen (fun _ _ => 0) inTurn _ ?_ (Option.some_get _).symm
    decide +kernel

theorem run_represents_in_turn :
    ∃ contents, Refines (Option.get _ inTurn_completes).store contents :=
  (run_represents (fun _ _ => 0) inTurn _ (by decide +kernel) (Option.some_get _).symm).1

/-- The get saw "v1" in block 11, which the second set has freed when the reply is formatted. -/
theorem reply_shows_freed :
    ∃ final, Runs.run step (start fun _ _ => 0) overtaken = some final ∧
      (∃ shown ∈ final.shown, ¬ shown.Right) ∧
      final.shown.map (fun shown => (shown.reply.client, shown.reply.seen, shown.value)) =
        [(1, none, none),
          (2, some ⟨some (ascii "k"), some (ascii "k" ++ [0]), some (ascii "v1" ++ [0])⟩, none)] := by
  have shows : (Option.get _ overtaken_completes).shown.map
      (fun shown => (shown.reply.client, shown.reply.seen, shown.value)) =
        [(1, none, none),
          (2, some ⟨some (ascii "k"), some (ascii "k" ++ [0]), some (ascii "v1" ++ [0])⟩,
            none)] := by
    decide +kernel
  refine ⟨Option.get _ overtaken_completes, (Option.some_get _).symm, ?_, shows⟩
  have member := List.mem_of_getElem? (congrArg (fun entries => entries[1]?) shows)
  obtain ⟨shown, listed, entry⟩ := List.mem_map.mp member
  simp only [Prod.mk.injEq] at entry
  obtain ⟨-, seen, freed⟩ := entry
  refine ⟨shown, listed, fun right => ?_⟩
  obtain ⟨key, value, -, -, live⟩ := right _ (Option.mem_def.mpr seen)
  rw [freed] at live
  cases live

end Mola.KeyValueStore
