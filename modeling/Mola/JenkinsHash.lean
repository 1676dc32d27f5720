import Mola.ByteOrder
import Mathlib.Data.List.Basic

/-!
# The hash of a key

`jenkins_hash` reads the key as little endian words of 32 bits, in blocks of three, and
the last block of at most twelve bytes by its length. A last word that the key does not
fill is read as a whole and masked, so bytes behind the key are read. The hash depends on
the bytes of the key alone.

This is the branch for an aligned key, such as one that was allocated by `malloc`.
-/

namespace Mola.JenkinsHash

open ByteOrder (value)

/-- The internal state. -/
structure Words where
  a : UInt32
  b : UInt32
  c : UInt32
deriving DecidableEq

/-- A rotation. -/
def rot (word : UInt32) (count : UInt32) : UInt32 := (word <<< count) ^^^ (word >>> (32 - count))

/-- `mix`, assignment by assignment. -/
def mix (words : Words) : Words :=
  let ⟨a, b, c⟩ := words
  let a := a - c; let a := a ^^^ rot c 4; let c := c + b
  let b := b - a; let b := b ^^^ rot a 6; let a := a + c
  let c := c - b; let c := c ^^^ rot b 8; let b := b + a
  let a := a - c; let a := a ^^^ rot c 16; let c := c + b
  let b := b - a; let b := b ^^^ rot a 19; let a := a + c
  let c := c - b; let c := c ^^^ rot b 4; let b := b + a
  ⟨a, b, c⟩

/-- `final`, assignment by assignment. -/
def final (words : Words) : Words :=
  let ⟨a, b, c⟩ := words
  let c := c ^^^ b; let c := c - rot b 14
  let a := a ^^^ c; let a := a - rot c 11
  let b := b ^^^ a; let b := b - rot a 25
  let c := c ^^^ b; let c := c - rot b 16
  let a := a ^^^ c; let a := a - rot c 4
  let b := b ^^^ a; let b := b - rot a 14
  let c := c ^^^ b; let c := c - rot b 24
  ⟨a, b, c⟩

/-- `k[index]` of the memory from a pointer on. -/
def word (memory : List UInt8) (index : Nat) : UInt32 :=
  UInt32.ofNat (value ((memory.drop (4 * index)).take 4))

/-- The loop over all blocks but the last, with the number of rounds as fuel. -/
def blocks : Nat → List UInt8 → Nat → Words → Words × List UInt8 × Nat
  | 0, memory, length, words => (words, memory, length)
  | fuel + 1, memory, length, words =>
      if 12 < length then
        blocks fuel (memory.drop 12) (length - 12)
          (mix ⟨words.a + word memory 0, words.b + word memory 1, words.c + word memory 2⟩)
      else (words, memory, length)

/-- The switch over the length of the last block, which reads the words `k`. -/
def lastBlock (k : Nat → UInt32) (words : Words) : Nat → Words
  | 12 => ⟨words.a + k 0, words.b + k 1, words.c + k 2⟩
  | 11 => ⟨words.a + k 0, words.b + k 1, words.c + (k 2 &&& 0xffffff)⟩
  | 10 => ⟨words.a + k 0, words.b + k 1, words.c + (k 2 &&& 0xffff)⟩
  | 9 => ⟨words.a + k 0, words.b + k 1, words.c + (k 2 &&& 0xff)⟩
  | 8 => ⟨words.a + k 0, words.b + k 1, words.c⟩
  | 7 => ⟨words.a + k 0, words.b + (k 1 &&& 0xffffff), words.c⟩
  | 6 => ⟨words.a + k 0, words.b + (k 1 &&& 0xffff), words.c⟩
  | 5 => ⟨words.a + k 0, words.b + (k 1 &&& 0xff), words.c⟩
  | 4 => ⟨words.a + k 0, words.b, words.c⟩
  | 3 => ⟨words.a + (k 0 &&& 0xffffff), words.b, words.c⟩
  | 2 => ⟨words.a + (k 0 &&& 0xffff), words.b, words.c⟩
  | 1 => ⟨words.a + (k 0 &&& 0xff), words.b, words.c⟩
  | _ => words

/-- `jenkins_hash` of a key that the memory starts with. -/
def jenkinsHash (memory : List UInt8) (length : Nat) : UInt32 :=
  let seed : UInt32 := 0xdeadbeef + UInt32.ofNat length
  let (words, memory, length) := blocks length memory length ⟨seed, seed, seed⟩
  if length = 0 then words.c else (final (lastBlock (word memory) words length)).c

/-- The low bytes of a number are the first ones. -/
theorem value_mod (bytes : List UInt8) (count : Nat) :
    value bytes % 256 ^ count = value (bytes.take count) := by
  induction bytes generalizing count with
  | nil => simp [value]
  | cons byte _ inductionHypothesis =>
    cases count with
    | zero => simp [value, Nat.mod_one]
    | succ count =>
      have small := byte.toNat_lt
      rw [List.take_succ_cons, value, value, ← inductionHypothesis count, Nat.pow_succ,
        Nat.mul_comm (256 ^ count) 256, Nat.mod_mul]
      congr 1
      · omega
      · congr 2
        omega

theorem value_word {bytes : List UInt8} (short : bytes.length ≤ 4) :
    (UInt32.ofNat (value bytes)).toNat = value bytes := by
  apply UInt32.toNat_ofNat_of_lt'
  calc value bytes < 256 ^ bytes.length := ByteOrder.value_lt bytes
    _ ≤ 256 ^ 4 := Nat.pow_le_pow_right (by decide) short

/-- A masked word is made of the bytes that the mask leaves. -/
theorem word_masked (memory : List UInt8) (index count : Nat) (few : count ≤ 3) :
    word memory index &&& UInt32.ofNat (256 ^ count - 1) =
      UInt32.ofNat (value ((memory.drop (4 * index)).take count)) := by
  have mask : (UInt32.ofNat (256 ^ count - 1)).toNat = 2 ^ (8 * count) - 1 := by
    have bound : 256 ^ count ≤ 256 ^ 3 := Nat.pow_le_pow_right (by decide) few
    have small : 256 ^ count - 1 < UInt32.size := by
      rw [show UInt32.size = 4294967296 from rfl]
      omega
    rw [UInt32.toNat_ofNat_of_lt' small, Nat.pow_mul]
  apply UInt32.toNat_inj.mp
  rw [UInt32.toNat_and, mask, Nat.and_two_pow_sub_one_eq_mod, word,
    value_word (List.length_take_le _ _), value_word (by simp; omega), Nat.pow_mul,
    value_mod, List.take_take, Nat.min_eq_left (by omega)]

variable {first second : List UInt8} {length : Nat}

theorem word_congr {index : Nat} (same : first.take length = second.take length)
    (inside : 4 * index + 4 ≤ length) :
    word first index = word second index := by
  have bytes : ∀ memory : List UInt8, (memory.drop (4 * index)).take 4 =
      ((memory.take length).drop (4 * index)).take 4 := by
    intro memory
    rw [List.drop_take, List.take_take, Nat.min_eq_left (by omega)]
  rw [word, word, bytes first, bytes second, same]

/-- Memory that agrees on the bytes that a mask leaves has the same masked word. -/
theorem masked_congr {index count : Nat} (same : first.take length = second.take length)
    (few : count ≤ 3) (inside : 4 * index + count ≤ length) :
    word first index &&& UInt32.ofNat (256 ^ count - 1) =
      word second index &&& UInt32.ofNat (256 ^ count - 1) := by
  have bytes : ∀ memory : List UInt8, (memory.drop (4 * index)).take count =
      ((memory.take length).drop (4 * index)).take count := by
    intro memory
    rw [List.drop_take, List.take_take, Nat.min_eq_left (by omega)]
  rw [word_masked first index count few, word_masked second index count few, bytes first,
    bytes second, same]

/-- The last block reads nothing behind the key. -/
theorem lastBlock_congr (words : Words) (same : first.take length = second.take length) :
    lastBlock (word first) words length = lastBlock (word second) words length := by
  have full : ∀ index, 4 * index + 4 ≤ length → word first index = word second index :=
    fun index => word_congr same
  have part : ∀ index count, count ≤ 3 → 4 * index + count ≤ length →
      word first index &&& UInt32.ofNat (256 ^ count - 1) =
        word second index &&& UInt32.ofNat (256 ^ count - 1) :=
    fun index count => masked_congr same
  unfold lastBlock
  split
  · rw [full 0 (by decide), full 1 (by decide), full 2 (by decide)]
  · have last := part 2 3 (by decide) (by decide)
    rw [full 0 (by decide), full 1 (by decide)]
    exact congrArg (fun c => Words.mk _ _ (words.c + c)) last
  · have last := part 2 2 (by decide) (by decide)
    rw [full 0 (by decide), full 1 (by decide)]
    exact congrArg (fun c => Words.mk _ _ (words.c + c)) last
  · have last := part 2 1 (by decide) (by decide)
    rw [full 0 (by decide), full 1 (by decide)]
    exact congrArg (fun c => Words.mk _ _ (words.c + c)) last
  · rw [full 0 (by decide), full 1 (by decide)]
  · have last := part 1 3 (by decide) (by decide)
    rw [full 0 (by decide)]
    exact congrArg (fun b => Words.mk _ (words.b + b) _) last
  · have last := part 1 2 (by decide) (by decide)
    rw [full 0 (by decide)]
    exact congrArg (fun b => Words.mk _ (words.b + b) _) last
  · have last := part 1 1 (by decide) (by decide)
    rw [full 0 (by decide)]
    exact congrArg (fun b => Words.mk _ (words.b + b) _) last
  · rw [full 0 (by decide)]
  · exact congrArg (fun a => Words.mk (words.a + a) _ _) (part 0 3 (by decide) (by decide))
  · exact congrArg (fun a => Words.mk (words.a + a) _ _) (part 0 2 (by decide) (by decide))
  · exact congrArg (fun a => Words.mk (words.a + a) _ _) (part 0 1 (by decide) (by decide))
  · rfl

/-- The blocks before the last one read nothing behind the key. -/
theorem blocks_congr (fuel : Nat) (words : Words) (same : first.take length = second.take length) :
    (blocks fuel first length words).1 = (blocks fuel second length words).1 ∧
      (blocks fuel first length words).2.2 = (blocks fuel second length words).2.2 ∧
      (blocks fuel first length words).2.1.take (blocks fuel first length words).2.2 =
        (blocks fuel second length words).2.1.take (blocks fuel first length words).2.2 := by
  induction fuel generalizing first second length words with
  | zero => exact ⟨rfl, rfl, same⟩
  | succ _ inductionHypothesis =>
    unfold blocks
    split
    · rename_i long
      rw [word_congr same (by omega),
        word_congr same (by omega),
        word_congr same (by omega)]
      apply inductionHypothesis
      rw [← List.drop_take, ← List.drop_take, same]
    · exact ⟨rfl, rfl, same⟩

theorem jenkinsHash_congr (first second : List UInt8) (length : Nat)
    (same : first.take length = second.take length) :
    jenkinsHash first length = jenkinsHash second length := by
  obtain ⟨words, rest, bytes⟩ := blocks_congr length
    ⟨0xdeadbeef + UInt32.ofNat length, 0xdeadbeef + UInt32.ofNat length,
      0xdeadbeef + UInt32.ofNat length⟩ same
  simp only [jenkinsHash]
  rw [words, ← rest, lastBlock_congr _ bytes]

/-- The hash of a byte string. -/
def keyHash (key : List UInt8) : UInt32 := jenkinsHash key key.length

theorem jenkinsHash_append (key behind : List UInt8) :
    jenkinsHash (key ++ behind) key.length = keyHash key := by
  apply jenkinsHash_congr
  rw [List.take_left, List.take_length]

end Mola.JenkinsHash
