import Mola.JenkinsHash

/-!
# The hash of a key that is not aligned

`jenkins_hash` has three branches. Which one it takes is decided by the address of the key:
one reads words of 32 bits, one halves of 16 bits, one single bytes. The latter two do not
read behind the key, and their cases for the last block fall through to shorter ones.

On a little endian machine the branches compute the same hash. What they add to the
internal state for a group of one to four bytes is the number that these bytes stand for,
gathered from a masked word, from halves or from bytes.
-/

namespace Mola.JenkinsHash

open ByteOrder (value)

/-- `k[index]` of the branch that reads halves, as a word. -/
def half (memory : List UInt8) (index : Nat) : UInt32 :=
  UInt32.ofNat (value ((memory.drop (2 * index)).take 2))

/-- `k[index]` of the branch that reads bytes, and `k8[index]`, as a word. -/
def byte (memory : List UInt8) (index : Nat) : UInt32 :=
  UInt32.ofNat (value ((memory.drop index).take 1))

/-- The loop over all blocks but the last, with what a branch adds for a block. The number of
rounds is the fuel. -/
def loop (add : List UInt8 → Words → Words) :
    Nat → List UInt8 → Nat → Words → Words × List UInt8 × Nat
  | 0, memory, length, words => (words, memory, length)
  | fuel + 1, memory, length, words =>
      if 12 < length then
        loop add fuel (memory.drop 12) (length - 12) (mix (add memory words))
      else (words, memory, length)

/-- The body of the loop that reads halves, before `mix`. -/
def addHalves (memory : List UInt8) (words : Words) : Words :=
  let k := half memory
  ⟨words.a + (k 0 + (k 1 <<< 16)), words.b + (k 2 + (k 3 <<< 16)),
    words.c + (k 4 + (k 5 <<< 16))⟩

/-- The body of the loop that reads bytes, before `mix`. -/
def addBytes (memory : List UInt8) (words : Words) : Words :=
  let k := byte memory
  ⟨words.a + k 0 + (k 1 <<< 8) + (k 2 <<< 16) + (k 3 <<< 24),
    words.b + k 4 + (k 5 <<< 8) + (k 6 <<< 16) + (k 7 <<< 24),
    words.c + k 8 + (k 9 <<< 8) + (k 10 <<< 16) + (k 11 <<< 24)⟩

/-- The switch over the length of the last block in the branch that reads halves. A case for
an odd length adds its byte and falls through to the case below. -/
def lastHalves (memory : List UInt8) (words : Words) (length : Nat) : Words :=
  let k := half memory
  let k8 := byte memory
  let case2 := fun words : Words => { words with a := words.a + k 0 }
  let case4 := fun words : Words => { words with a := words.a + (k 0 + (k 1 <<< 16)) }
  let case6 := fun words : Words =>
    { words with a := words.a + (k 0 + (k 1 <<< 16)), b := words.b + k 2 }
  let case8 := fun words : Words =>
    { words with
      a := words.a + (k 0 + (k 1 <<< 16))
      b := words.b + (k 2 + (k 3 <<< 16)) }
  let case10 := fun words : Words =>
    ⟨words.a + (k 0 + (k 1 <<< 16)), words.b + (k 2 + (k 3 <<< 16)), words.c + k 4⟩
  match length with
  | 12 => ⟨words.a + (k 0 + (k 1 <<< 16)), words.b + (k 2 + (k 3 <<< 16)),
      words.c + (k 4 + (k 5 <<< 16))⟩
  | 11 => case10 { words with c := words.c + (k8 10 <<< 16) }
  | 10 => case10 words
  | 9 => case8 { words with c := words.c + k8 8 }
  | 8 => case8 words
  | 7 => case6 { words with b := words.b + (k8 6 <<< 16) }
  | 6 => case6 words
  | 5 => case4 { words with b := words.b + k8 4 }
  | 4 => case4 words
  | 3 => case2 { words with a := words.a + (k8 2 <<< 16) }
  | 2 => case2 words
  | 1 => { words with a := words.a + k8 0 }
  | _ => words

/-- The switch over the length of the last block in the branch that reads bytes. Every case
falls through to the one below. -/
def lastBytes (memory : List UInt8) (words : Words) (length : Nat) : Words :=
  let k := byte memory
  let case1 := fun words : Words => { words with a := words.a + k 0 }
  let case2 := fun words : Words => case1 { words with a := words.a + (k 1 <<< 8) }
  let case3 := fun words : Words => case2 { words with a := words.a + (k 2 <<< 16) }
  let case4 := fun words : Words => case3 { words with a := words.a + (k 3 <<< 24) }
  let case5 := fun words : Words => case4 { words with b := words.b + k 4 }
  let case6 := fun words : Words => case5 { words with b := words.b + (k 5 <<< 8) }
  let case7 := fun words : Words => case6 { words with b := words.b + (k 6 <<< 16) }
  let case8 := fun words : Words => case7 { words with b := words.b + (k 7 <<< 24) }
  let case9 := fun words : Words => case8 { words with c := words.c + k 8 }
  let case10 := fun words : Words => case9 { words with c := words.c + (k 9 <<< 8) }
  let case11 := fun words : Words => case10 { words with c := words.c + (k 10 <<< 16) }
  match length with
  | 12 => case11 { words with c := words.c + (k 11 <<< 24) }
  | 11 => case11 words
  | 10 => case10 words
  | 9 => case9 words
  | 8 => case8 words
  | 7 => case7 words
  | 6 => case6 words
  | 5 => case5 words
  | 4 => case4 words
  | 3 => case3 words
  | 2 => case2 words
  | 1 => case1 words
  | _ => words

/-- A branch, by its body of the loop and its switch. -/
def branch (add : List UInt8 → Words → Words) (last : List UInt8 → Words → Nat → Words)
    (memory : List UInt8) (length : Nat) : UInt32 :=
  let seed : UInt32 := 0xdeadbeef + UInt32.ofNat length
  let (words, memory, length) := loop add length memory length ⟨seed, seed, seed⟩
  if length = 0 then words.c else (final (last memory words length)).c

/-- The branch that reads halves. -/
def hashHalves : List UInt8 → Nat → UInt32 := branch addHalves lastHalves

/-- The branch that reads bytes. -/
def hashBytes : List UInt8 → Nat → UInt32 := branch addBytes lastBytes

/-- `jenkins_hash` of a key at an address, by the alignment of the address. -/
def jenkinsHashAt (address : Nat) (memory : List UInt8) (length : Nat) : UInt32 :=
  if address &&& 0x3 = 0 then jenkinsHash memory length
  else if address &&& 0x1 = 0 then hashHalves memory length
  else hashBytes memory length

/-- The number of some bytes is that of the first ones and, above it, that of the others. -/
theorem value_take_add (bytes : List UInt8) (first second : Nat) :
    value (bytes.take (first + second)) =
      value (bytes.take first) + 256 ^ first * value ((bytes.drop first).take second) := by
  induction first generalizing bytes with
  | zero => simp [value]
  | succ first inductionHypothesis =>
    cases bytes with
    | nil => simp [value]
    | cons _ rest =>
      rw [Nat.add_right_comm, List.take_succ_cons, List.take_succ_cons, List.drop_succ_cons,
        value, value, inductionHypothesis rest, Nat.mul_add, Nat.pow_succ,
        Nat.mul_comm (256 ^ first) 256, Nat.mul_assoc, Nat.add_assoc]

/-- The number that the first bytes of a word stand for. -/
def front (memory : List UInt8) (index count : Nat) : UInt32 :=
  UInt32.ofNat (value ((memory.drop (4 * index)).take count))

/-- A shift by bytes is a multiplication. -/
theorem shift_bytes (word : UInt32) {count : Nat} (few : count < 4) :
    word <<< UInt32.ofNat (8 * count) = UInt32.ofNat (256 ^ count) * word := by
  apply UInt32.toNat_inj.mp
  have amount : (UInt32.ofNat (8 * count)).toNat = 8 * count :=
    UInt32.toNat_ofNat_of_lt' (by rw [show UInt32.size = 4294967296 from rfl]; omega)
  have factor : (UInt32.ofNat (256 ^ count)).toNat = 2 ^ (8 * count) := by
    rw [Nat.pow_mul]
    apply UInt32.toNat_ofNat_of_lt'
    calc 256 ^ count ≤ 256 ^ 3 := Nat.pow_le_pow_right (by decide) (Nat.le_of_lt_succ few)
      _ < UInt32.size := by decide
  have whole : 8 * count % 32 = 8 * count := Nat.mod_eq_of_lt (by omega)
  rw [UInt32.toNat_shiftLeft, UInt32.toNat_mul, Nat.shiftLeft_eq, amount, factor, whole,
    Nat.mul_comm]

variable (memory : List UInt8) (index : Nat) (words : Words)

theorem front_add {first : Nat} (second : Nat) (few : first < 4) :
    front memory index (first + second) = front memory index first +
      UInt32.ofNat (value ((memory.drop (4 * index + first)).take second)) <<<
        UInt32.ofNat (8 * first) := by
  rw [front, value_take_add, List.drop_drop, UInt32.ofNat_add, UInt32.ofNat_mul,
    shift_bytes _ few]
  rfl

theorem front_one :
    front memory index 1 = byte memory (4 * index) :=
  rfl

theorem front_two :
    front memory index 2 = front memory index 1 + (byte memory (4 * index + 1) <<< 8) :=
  front_add memory index 1 (by decide)

theorem front_three :
    front memory index 3 = front memory index 2 + (byte memory (4 * index + 2) <<< 16) :=
  front_add memory index 1 (by decide)

theorem word_bytes :
    word memory index = front memory index 3 + (byte memory (4 * index + 3) <<< 24) :=
  front_add memory index 1 (by decide)

theorem front_half :
    front memory index 2 = half memory (2 * index) := by
  rw [half, front, ← Nat.mul_assoc]

theorem word_halves :
    word memory index = half memory (2 * index) + (half memory (2 * index + 1) <<< 16) := by
  have second : 4 * index + 2 = 2 * (2 * index + 1) := by omega
  rw [← front_half, half, ← second]
  exact front_add memory index 2 (by decide)

theorem masked_front :
    word memory index &&& 0xffffff = front memory index 3 ∧
      word memory index &&& 0xffff = front memory index 2 ∧
      word memory index &&& 0xff = front memory index 1 :=
  ⟨word_masked memory index 3 (by decide), word_masked memory index 2 (by decide),
    word_masked memory index 1 (by decide)⟩

theorem add_falls (word first second : UInt32) :
    word + (first + second) = word + second + first := by
  rw [UInt32.add_assoc, UInt32.add_comm first]

theorem lastHalves_eq (length : Nat) :
    lastHalves memory words length = lastBlock (word memory) words length := by
  unfold lastBlock
  -- In every case the masked words become fronts, and words and fronts become halves and bytes.
  split <;> simp only [lastHalves, ↓masked_front, word_halves, front_three, front_half, front_one,
    Nat.reduceMul, Nat.reduceAdd, add_falls]

theorem lastBytes_eq (length : Nat) :
    lastBytes memory words length = lastBlock (word memory) words length := by
  unfold lastBlock
  split <;> simp only [lastBytes, ↓masked_front, word_bytes, front_three, front_two, front_one,
    Nat.reduceMul, Nat.reduceAdd, add_falls]

theorem addHalves_eq :
    addHalves memory words =
      ⟨words.a + word memory 0, words.b + word memory 1, words.c + word memory 2⟩ := by
  simp only [addHalves, word_halves, Nat.reduceMul, Nat.reduceAdd]

theorem addBytes_eq :
    addBytes memory words =
      ⟨words.a + word memory 0, words.b + word memory 1, words.c + word memory 2⟩ := by
  simp only [addBytes, word_bytes, front_three, front_two, front_one, Nat.reduceMul,
    Nat.reduceAdd, UInt32.add_assoc]

/-- A loop that adds the words of each block is the loop by words. -/
theorem loop_eq_blocks {add : List UInt8 → Words → Words}
    (adds : ∀ memory words, add memory words =
      ⟨words.a + word memory 0, words.b + word memory 1, words.c + word memory 2⟩)
    (fuel : Nat) (memory : List UInt8) (length : Nat) (words : Words) :
    loop add fuel memory length words = blocks fuel memory length words := by
  induction fuel generalizing memory length words with
  | zero => rfl
  | succ _ inductionHypothesis =>
    unfold loop blocks
    split
    · rw [adds, inductionHypothesis]
    · rfl

/-- A branch that adds what the branch by words adds computes its hash. -/
theorem branch_eq_jenkinsHash {add : List UInt8 → Words → Words}
    {last : List UInt8 → Words → Nat → Words}
    (adds : ∀ memory words, add memory words =
      ⟨words.a + word memory 0, words.b + word memory 1, words.c + word memory 2⟩)
    (ends : ∀ memory words length, last memory words length =
      lastBlock (word memory) words length)
    (memory : List UInt8) (length : Nat) :
    branch add last memory length = jenkinsHash memory length := by
  simp only [branch, jenkinsHash]
  rw [loop_eq_blocks adds, ends]

/-- Every branch computes the hash of the bytes of the key, whatever is in memory behind them,
and so does `jenkins_hash` at every address. -/
theorem branches_agree (address : Nat) (key behind : List UInt8) :
    jenkinsHash (key ++ behind) key.length = keyHash key ∧
      hashHalves (key ++ behind) key.length = keyHash key ∧
      hashBytes (key ++ behind) key.length = keyHash key ∧
      jenkinsHashAt address (key ++ behind) key.length = keyHash key := by
  have words := jenkinsHash_append key behind
  have halves : hashHalves (key ++ behind) key.length = keyHash key := by
    rw [hashHalves, branch_eq_jenkinsHash addHalves_eq lastHalves_eq, words]
  have bytes : hashBytes (key ++ behind) key.length = keyHash key := by
    rw [hashBytes, branch_eq_jenkinsHash addBytes_eq lastBytes_eq, words]
  refine ⟨words, halves, bytes, ?_⟩
  unfold jenkinsHashAt
  split
  · exact words
  · split
    · exact halves
    · exact bytes

end Mola.JenkinsHash
