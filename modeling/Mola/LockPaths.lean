import Mola.Decimals
import Mathlib.Data.List.TakeWhile

/-!
# The zone and the id of a lock that was released

A waiter for a distributed lock is a znode below the directory of the lock, `zone/id`. When the
znode of the owner is deleted, the watcher takes the zone and the id out of its path and wakes up
the lock. The zone is copied into a buffer on the stack that nothing has written to, with a
`strncpy` of exactly the length of the zone: no terminating zero is written. The zone that the
waiters are looked up with goes on with whatever the buffer held.

Bytes are bytes, and a buffer has its 1024 of them. A write or a read beyond a buffer has no
defined outcome.
-/

namespace Mola.LockPaths

open Decimals

/-- `MAX_NODE_STR_LEN`. -/
def maxNodeStrLen : Nat := 1024

/-- The string that a pointer to these bytes denotes: they end at the first zero. -/
def cString (bytes : List UInt8) : List UInt8 := bytes.takeWhile fun byte => byte ≠ 0

/-- A character array of `MAX_NODE_STR_LEN` bytes. -/
structure Buffer where
  bytes : List UInt8
  size : bytes.length = maxNodeStrLen

/-- `NM_ZNODE`. -/
def nmZnode : Option (List UInt8) → List UInt8
  | none => ascii "/MOLA"
  | some space => if cString space = [] then ascii "/MOLA" else ascii "/" ++ cString space

/-- `LOCK_ZNODE`. -/
def lockZnode (space : Option (List UInt8)) : List UInt8 := nmZnode space ++ ascii "/LOCKS"

/-- The directory of a lock with a slash, as `zk_lock` prints it. -/
def parent (space : Option (List UInt8)) (zone : List UInt8) (id : UInt64) : List UInt8 :=
  lockZnode space ++ ascii "/" ++ cString zone ++ ascii "/" ++ decimal id.toNat ++ ascii "/"

/-- The path of the znode that `zk_lock` has created. There is none if its buffer overflows. -/
def lockPath (space : Option (List UInt8)) (zone : List UInt8) (id : UInt64) (sequence : Int32) :
    Option (List UInt8) :=
  if (parent space zone id).length < maxNodeStrLen then
    some (parent space zone id ++ paddedInt 10 sequence.toInt)
  else none

/-- What the watcher does with the path of a deleted znode. It goes on with the directories of
nodes and clients if the path is not below that of a lock. -/
inductive Outcome where
  | undefined
  | ignored
  | wakeup (zone : List UInt8) (id : UInt64)
deriving DecidableEq

/-- `strncpy` of a string of the given length, which has no zero among its bytes. -/
def strncpy (buffer : Buffer) (source : List UInt8) : Option Buffer :=
  if fits : source.length ≤ maxNodeStrLen then
    some ⟨source ++ buffer.bytes.drop source.length, by
      rw [List.length_append, List.length_drop, buffer.size]
      omega⟩
  else none

/-- The string in a buffer. A buffer without a zero is read beyond its end. -/
def Buffer.string (buffer : Buffer) : Option (List UInt8) :=
  if 0 ∈ buffer.bytes then some (cString buffer.bytes) else none

/-- `%lu`: a number that is too large is read as the largest one, and a minus negates. -/
def scanUInt64 (text : List UInt8) : Option (UInt64 × List UInt8) :=
  (scanSigned (skipSpace text)).map fun (minus, number, rest) =>
    (if 2 ^ 64 ≤ number then 0xffffffffffffffff
     else if minus then 0 - UInt64.ofNat number
     else UInt64.ofNat number, rest)

/-- `sscanf` with `/%lu/%s`, if both are read: the id and the name that follows it. -/
def scanLock (text : List UInt8) : Option (UInt64 × List UInt8) :=
  match text with
  | 47 :: rest =>
      match scanUInt64 rest with
      | some (id, 47 :: left) =>
          let name := word (skipSpace left)
          if name = [] then none else some (id, name)
      | _ => none
  | _ => none

/-- The watcher copies the zone, reads the id from what is left of the path, and calls
`wakeup_internal`. -/
def wakeupZone (buffer : Buffer) (zone left : List UInt8) : Outcome :=
  match strncpy buffer zone, scanLock left with
  | none, _ => .undefined
  | some _, none => .ignored
  | some copied, some (id, name) =>
      if maxNodeStrLen ≤ name.length then .undefined
      else
        match copied.string with
        | none => .undefined
        | some zone => .wakeup zone id

/-- `zk_watcher` for a znode that was deleted, up to `wakeup_internal`. The zone goes to the next
slash. -/
def zkWatcher (directory path : List UInt8) (buffer : Buffer) : Outcome :=
  match directory.isPrefixOf path, path.drop directory.length with
  | true, 47 :: rest =>
      match rest.dropWhile fun byte => byte ≠ 47 with
      | [] => .ignored
      | left => wakeupZone buffer (rest.takeWhile fun byte => byte ≠ 47) left
  | _, _ => .ignored

/-- The znode of an owner of the lock is deleted. -/
def unlocked (space : Option (List UInt8)) (zone : List UInt8) (id : UInt64) (sequence : Int32)
    (buffer : Buffer) : Outcome :=
  match lockPath space zone id sequence with
  | none => .undefined
  | some path => zkWatcher (lockZnode space) path buffer

theorem cString_of_notMem {bytes : List UInt8} (nonzero : 0 ∉ bytes) : cString bytes = bytes :=
  (cut_none 0 bytes nonzero).1

theorem notMem_cString (bytes : List UInt8) : 0 ∉ cString bytes := by
  intro member
  simpa using List.mem_takeWhile_imp member

/-- The printed id of a lock is read back, up to the slash. -/
theorem scanUInt64_decimal (id : UInt64) (rest : List UInt8) :
    scanUInt64 (decimal id.toNat ++ 47 :: rest) = some (id, 47 :: rest) := by
  have stops : Stops isDigit (47 :: rest) := by
    intro byte front
    cases front
    rfl
  have small : ¬2 ^ 64 ≤ id.toNat := Nat.not_le.mpr id.toNat_lt
  unfold scanUInt64
  rw [skipSpace_run _ _ (decimal_ne_nil _) (decimal_digits _),
    scanSigned_decimal _ stops, Option.map_some]
  simp only [if_neg small, Bool.false_eq_true, if_false, UInt64.ofNat_toNat]

/-- The id and the sequence number are read from the end of a path. -/
theorem scanLock_path (id : UInt64) (sequence : Int32) :
    scanLock (47 :: (decimal id.toNat ++ 47 :: paddedInt 10 sequence.toInt)) =
      some (id, paddedInt 10 sequence.toInt) := by
  obtain ⟨some_, solid⟩ := paddedInt_word 10 sequence.toInt
  have starts : Stops isSpace (paddedInt 10 sequence.toInt) := by
    intro byte front
    exact solid byte (List.mem_of_mem_head? front)
  have ends : Stops (fun byte => !isSpace byte) [] := by
    intro byte front
    cases front
  have name : word (paddedInt 10 sequence.toInt) = paddedInt 10 sequence.toInt := by
    simpa using (word_run (paddedInt 10 sequence.toInt) [] solid ends).1
  unfold scanLock
  simp only [scanUInt64_decimal, skipSpace_of_stops _ starts, name, if_neg some_]

theorem sequence_fits (sequence : Int32) :
    ¬maxNodeStrLen ≤ (paddedInt 10 sequence.toInt).length := by
  have length := length_paddedInt_le 10 sequence.toInt
  have above := sequence.toInt_lt
  have below := sequence.le_toInt
  have digits := length_decimal_le sequence.toInt.natAbs 10 (by omega) (by omega)
  unfold maxNodeStrLen
  omega

variable {zone : List UInt8} {buffer : Buffer}

/-- What the watcher does with a path that `zk_lock` has made: the zone is copied into the buffer
as it is, and what the buffer then holds is taken for the zone. -/
theorem zkWatcher_lockPath (space : Option (List UInt8)) (id : UInt64) (sequence : Int32)
    {copied : Buffer} (noSlash : 47 ∉ zone) (copy : strncpy buffer zone = some copied) :
    zkWatcher (lockZnode space)
        (lockZnode space ++ 47 :: (zone ++ 47 :: (decimal id.toNat ++ 47 ::
          paddedInt 10 sequence.toInt))) buffer =
      match copied.string with
      | none => .undefined
      | some zone => .wakeup zone id := by
  obtain ⟨taken, left⟩ := cut_run 47 zone (decimal id.toNat ++ 47 :: paddedInt 10 sequence.toInt)
    noSlash
  have below : (lockZnode space).isPrefixOf (lockZnode space ++ 47 :: (zone ++ 47 ::
      (decimal id.toNat ++ 47 :: paddedInt 10 sequence.toInt))) = true :=
    List.isPrefixOf_iff_prefix.mpr (List.prefix_append ..)
  unfold zkWatcher
  rw [below, List.drop_left]
  simp only [taken, left, wakeupZone, copy, scanLock_path, sequence_fits, if_false]

/-- The zone is found in the buffer after the copy exactly if it has no zero and the buffer held
one right behind it. -/
theorem string_strncpy_iff {copied : Buffer} (fits : zone.length < maxNodeStrLen)
    (copy : strncpy buffer zone = some copied) :
    copied.string = some zone ↔ 0 ∉ zone ∧ buffer.bytes[zone.length]? = some 0 := by
  have bytes : copied.bytes = zone ++ buffer.bytes.drop zone.length := by
    unfold strncpy at copy
    rw [dif_pos fits.le] at copy
    cases copy
    rfl
  have inside : zone.length < buffer.bytes.length := by rwa [buffer.size]
  rw [Buffer.string, bytes, List.drop_eq_getElem_cons inside, List.getElem?_eq_getElem inside]
  constructor
  · intro found
    simp only [Option.ite_none_right_eq_some, Option.some.injEq] at found
    have nonzero : 0 ∉ zone := found.2 ▸ notMem_cString _
    refine ⟨nonzero, ?_⟩
    by_contra other
    have different : buffer.bytes[zone.length] ≠ 0 := fun zero => other (congrArg some zero)
    have longer := congrArg List.length found.2
    rw [cString, List.takeWhile_append_of_pos (all_ne 0 zone nonzero),
      List.takeWhile_cons_of_pos (by simpa using different)] at longer
    simp at longer
  · rintro ⟨nonzero, zero⟩
    rw [Option.some.inj zero]
    rw [if_pos (by simp), cString, List.takeWhile_append_of_pos (all_ne 0 zone nonzero),
      List.takeWhile_cons_of_neg (by simp), List.append_nil]

theorem lockPath_eq {space : Option (List UInt8)} {id : UInt64} (sequence : Int32)
    (nonzero : 0 ∉ zone) (fits : (parent space zone id).length < maxNodeStrLen) :
    lockPath space zone id sequence =
      some (lockZnode space ++ 47 :: (zone ++ 47 :: (decimal id.toNat ++ 47 ::
        paddedInt 10 sequence.toInt))) := by
  have slash : ascii "/" = [47] := by decide
  rw [lockPath, if_pos fits, parent, cString_of_notMem nonzero, slash]
  simp only [List.append_assoc, List.cons_append, List.nil_append]

theorem zone_fits {space : Option (List UInt8)} {id : UInt64} (nonzero : 0 ∉ zone)
    (fits : (parent space zone id).length < maxNodeStrLen) :
    zone.length < maxNodeStrLen := by
  rw [parent, cString_of_notMem nonzero] at fits
  simp only [List.length_append] at fits
  omega

/-- The watcher wakes up with a string that has no zero. -/
theorem notMem_of_wakeup {directory path : List UInt8} {id : UInt64}
    (woken : zkWatcher directory path buffer = .wakeup zone id) : 0 ∉ zone := by
  have copied (left name : List UInt8) (woken : wakeupZone buffer name left = .wakeup zone id) :
      0 ∉ zone := by
    unfold wakeupZone at woken
    split at woken
    · cases woken
    · cases woken
    · split at woken
      · cases woken
      · split at woken
        case h_1 => cases woken
        case h_2 found =>
          cases woken
          unfold Buffer.string at found
          simp only [Option.ite_none_right_eq_some, Option.some.injEq] at found
          exact found.2 ▸ notMem_cString _
  unfold zkWatcher at woken
  split at woken
  · split at woken
    · cases woken
    · exact copied _ _ woken
  · cases woken

/-- A buffer that repeats a byte. -/
def filled (byte : UInt8) : Buffer := ⟨List.replicate maxNodeStrLen byte, List.length_replicate ..⟩

end Mola.LockPaths
