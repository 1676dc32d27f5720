import Mathlib.Tactic.NormNum.Prime
import Mathlib.Tactic.NormNum
import Mathlib.Tactic.ReduceModChar
import Mola.Generators
import Mola.LoadBalance

/-!
# Choosing a victim

A worker that looks for work elsewhere draws a thread at random, and draws again as long as it has
drawn itself. The loop has no bound of its own. It ends because the generator behind it runs
through all its states: 69070 is a primitive root of the prime 2^32 - 5, so whatever the number of
threads, a worker does not draw itself for ever.

The seed of a thread is its worker number, reduced, and never zero. The product of a step is taken
in 64 bits. A draw is a step of the generator; what other calls of `random` the thread makes between
two choices is left open, so a choice can start at any later seed.
-/

namespace Mola.VictimSelection

open Generators LoadBalance

/-- `AbsolateWorker::srand`: the seed that a thread starts with. -/
def srand (s : UInt32) : UInt32 :=
  let reduced := UInt32.ofNat (s.toNat % rngMod)
  if reduced = 0 then reduced + 1 else reduced

/-- The step of `AbsolateWorker::random` in the words of the machine: the product and the remainder
are taken in 64 bits, and the result is cut to 32. -/
def randomWord (seed : UInt32) : UInt32 :=
  (UInt64.ofNat rngMul * seed.toUInt64 % UInt64.ofNat rngMod).toUInt32

/-- The seed of a worker after a number of calls of `random`. -/
def seedAfter (worker : UInt32) (calls : Nat) : UInt32 := random^[calls] (srand worker)

/-- The draws of a victim in `WorkStealStrategy::dequeue`: the first one and the loop, for at most
the given number of draws. The result is the victim and the seed that is left. -/
def drawVictim (total id : Nat) : Nat → UInt32 → Option (Nat × UInt32)
  | 0, _ => none
  | draws + 1, seed =>
      let drawn := random seed
      let victim := drawn.toNat % total
      if victim = id then drawVictim total id draws drawn else some (victim, drawn)

/-- The victims of one sweep of `WorkStealStrategy::dequeue` in which nothing is stolen, each
chosen with at most the given number of draws. -/
def sweep (total id draws : Nat) : Nat → UInt32 → Option (List Nat × UInt32)
  | 0, seed => some ([], seed)
  | turns + 1, seed => do
      let (victim, drawn) ← drawVictim total id draws seed
      let (victims, left) ← sweep total id draws turns drawn
      some (victim :: victims, left)

/-- A seed that the generator can go on from: between one and 2^32 - 6. -/
def Seeded (seed : UInt32) : Prop := 0 < seed.toNat ∧ seed.toNat ≤ 2 ^ 32 - 6

instance (seed : UInt32) : Decidable (Seeded seed) := inferInstanceAs (Decidable (_ ∧ _))

/-- The multiplier is a primitive root of the modulus, by the factors of 2^32 - 6. -/
theorem rng_fullPeriod : FullPeriod rngMod rngMul := by
  have full : (69070 : ZMod 4294967291) ^ 4294967290 = 1 := by reduce_mod_char
  have halved : (69070 : ZMod 4294967291) ^ 2147483645 ≠ 1 := by
    reduce_mod_char
    decide
  have byFive : (69070 : ZMod 4294967291) ^ 858993458 ≠ 1 := by
    reduce_mod_char
    decide
  have byNineteen : (69070 : ZMod 4294967291) ^ 226050910 ≠ 1 := by
    reduce_mod_char
    decide
  have byLargest : (69070 : ZMod 4294967291) ^ 190 ≠ 1 := by
    reduce_mod_char
    decide
  refine FullPeriod.of_powers rngMod rngMul [2, 5, 19, 22605091] (by decide) (by decide) ?_ full ?_
  · intro factor member
    simp only [List.mem_cons, List.not_mem_nil, or_false] at member
    rcases member with rfl | rfl | rfl | rfl <;> norm_num
  · intro factor member
    simp only [List.mem_cons, List.not_mem_nil, or_false] at member
    rcases member with rfl | rfl | rfl | rfl
    · exact halved
    · exact byFive
    · exact byNineteen
    · exact byLargest

variable (total : Nat) (seed : UInt32)

theorem random_toNat : (random seed).toNat = next rngMod rngMul seed.toNat := by
  have below : rngMul * seed.toNat % rngMod < 2 ^ 32 :=
    Nat.lt_trans (Nat.mod_lt _ (by decide)) (by decide)
  exact UInt32.toNat_ofNat_of_lt' below

theorem iterate_random_toNat (calls : Nat) (seed : UInt32) :
    (random^[calls] seed).toNat = (next rngMod rngMul)^[calls] seed.toNat := by
  induction calls with
  | zero => rfl
  | succ _ inductionHypothesis =>
    rw [Function.iterate_succ_apply', Function.iterate_succ_apply', random_toNat,
      inductionHypothesis]

/-- A thread starts with a seed that the generator can go on from. -/
theorem srand_seeded (s : UInt32) : Seeded (srand s) := by
  have small : s.toNat % rngMod < rngMod := Nat.mod_lt _ (by decide)
  have value : (UInt32.ofNat (s.toNat % rngMod)).toNat = s.toNat % rngMod :=
    UInt32.toNat_ofNat_of_lt' (Nat.lt_trans small (by decide))
  simp only [srand]
  split
  case isTrue zero =>
    rw [zero]
    decide
  case isFalse nonzero =>
    have positive : (UInt32.ofNat (s.toNat % rngMod)).toNat ≠ 0 := by
      intro zero
      exact nonzero (UInt32.toNat_inj.mp zero)
    refine ⟨Nat.pos_of_ne_zero positive, ?_⟩
    rw [value]
    exact Nat.le_of_lt_succ small

theorem product_lt : rngMul * seed.toNat < 2 ^ 64 := by
  have bound := seed.toNat_lt
  rw [rngMul]
  omega

/-- The words of the machine compute the step. -/
theorem randomWord_eq : randomWord seed = random seed := by
  have product : (UInt64.ofNat rngMul * seed.toUInt64).toNat = rngMul * seed.toNat := by
    rw [UInt64.toNat_mul, UInt32.toNat_toUInt64]
    exact Nat.mod_eq_of_lt (product_lt seed)
  have remainder : (UInt64.ofNat rngMul * seed.toUInt64 % UInt64.ofNat rngMod).toNat =
      rngMul * seed.toNat % rngMod := by
    rw [UInt64.toNat_mod, product]
    rfl
  apply UInt32.toNat_inj.mp
  rw [randomWord, UInt64.toNat_toUInt32, remainder]
  rfl

/-- A seed other than zero is followed by one: the modulus is prime and divides neither factor. -/
theorem random_seeded (seeded : Seeded seed) : Seeded (random seed) := by
  have below : (random seed).toNat < rngMod := by
    rw [random_toNat]
    exact next_lt _ (by decide)
  refine ⟨?_, Nat.le_of_lt_succ below⟩
  rw [random_toNat]
  apply Nat.pos_of_ne_zero
  intro divides
  rcases rng_fullPeriod.prime.dvd_mul.mp (Nat.dvd_of_mod_eq_zero divides) with factor | factor
  · exact absurd (Nat.le_of_dvd (by decide) factor) (by decide)
  · have large := Nat.le_of_dvd seeded.1 factor
    have small : seed.toNat < rngMod := Nat.lt_succ_of_le seeded.2
    omega

theorem seedAfter_seeded (worker : UInt32) (calls : Nat) : Seeded (seedAfter worker calls) := by
  induction calls with
  | zero => exact srand_seeded worker
  | succ _ inductionHypothesis =>
    rw [seedAfter, Function.iterate_succ_apply']
    exact random_seeded _ inductionHypothesis

/-- What a choice returns is not the thread itself, is one of the threads, and leaves a seed that
the generator can go on from. The induction is on the number of draws. -/
theorem drawVictim_sound (id draws : Nat) (positive : 0 < total) (seed left : UInt32)
    (victim : Nat) (seeded : Seeded seed)
    (chosen : drawVictim total id draws seed = some (victim, left)) :
    victim < total ∧ victim ≠ id ∧ Seeded left := by
  induction draws generalizing seed with
  | zero => exact absurd chosen (by simp [drawVictim])
  | succ _ inductionHypothesis =>
    have drawn := random_seeded seed seeded
    simp only [drawVictim] at chosen
    split at chosen
    case isTrue own => exact inductionHypothesis (random seed) drawn chosen
    case isFalse other =>
      cases chosen
      exact ⟨Nat.mod_lt _ positive, other, drawn⟩

/-- Where some later value of the generator is not the thread itself, a choice is made with so many
draws as lead to it. The induction is on the draws before that value. -/
theorem drawVictim_of_iterate (id steps draws : Nat) (enough : steps < draws) (seed : UInt32)
    (other : (random^[steps + 1] seed).toNat % total ≠ id) :
    ∃ victim left, drawVictim total id draws seed = some (victim, left) := by
  induction steps generalizing seed draws with
  | zero =>
    obtain ⟨draws, rfl⟩ : ∃ fewer, draws = fewer + 1 := ⟨draws - 1, by omega⟩
    exact ⟨(random seed).toNat % total, random seed, if_neg other⟩
  | succ _ inductionHypothesis =>
    obtain ⟨draws, rfl⟩ : ∃ fewer, draws = fewer + 1 := ⟨draws - 1, by omega⟩
    simp only [drawVictim]
    split
    case isTrue => exact inductionHypothesis draws (by omega) (random seed) other
    case isFalse => exact ⟨_, _, rfl⟩

/-- A choice among several threads is made within one period of the generator. -/
theorem drawVictim_ends (id : Nat) (several : 2 ≤ total) (seed : UInt32) (seeded : Seeded seed) :
    ∃ victim left, drawVictim total id (rngMod - 1) seed = some (victim, left) := by
  obtain ⟨steps, small, other⟩ := rng_fullPeriod.leaves_residue (by decide) seed.toNat total id
    seeded.1 (Nat.lt_succ_of_le seeded.2) several
  rw [← iterate_random_toNat] at other
  exact drawVictim_of_iterate total id steps (rngMod - 1) small seed other

/-- Every victim of a sweep is chosen within one period, and none is the thread itself. The
induction is on the turns of the sweep; each leaves a seed for the next. -/
theorem sweep_ends (id turns : Nat) (several : 2 ≤ total) (seed : UInt32) (seeded : Seeded seed) :
    ∃ victims left, sweep total id (rngMod - 1) turns seed = some (victims, left) ∧
      victims.length = turns ∧ ∀ victim ∈ victims, victim < total ∧ victim ≠ id := by
  induction turns generalizing seed with
  | zero => exact ⟨[], seed, rfl, rfl, fun _ member => absurd member List.not_mem_nil⟩
  | succ _ inductionHypothesis =>
    obtain ⟨victim, drawn, chosen⟩ := drawVictim_ends total id several seed seeded
    obtain ⟨inside, other, drawnSeeded⟩ :=
      drawVictim_sound total id (rngMod - 1) (by omega) seed drawn victim seeded chosen
    obtain ⟨victims, left, swept, count, each⟩ := inductionHypothesis drawn drawnSeeded
    refine ⟨victim :: victims, left, ?_, by rw [List.length_cons, count], ?_⟩
    · simp only [sweep, chosen, swept, Option.bind_eq_bind, Option.bind_some]
    · intro chosenVictim member
      rcases List.mem_cons.mp member with rfl | later
      · exact ⟨inside, other⟩
      · exact each chosenVictim later

/-- For every worker, after any number of calls of `random`, and for any number of threads above
one: the state of the generator is between one and 2^32 - 6, the product of its step fits into 64
bits and is computed by the words of the machine, and the choice of a victim ends within one period
of the generator, with a thread other than the worker. So does a whole sweep over victims. -/
theorem victim_selection_ends (worker : UInt32) (calls total id : Nat) (several : 2 ≤ total)
    (own : id < total) :
    (1 ≤ (seedAfter worker calls).toNat ∧ (seedAfter worker calls).toNat ≤ 2 ^ 32 - 6) ∧
      rngMul * (seedAfter worker calls).toNat < 2 ^ 64 ∧
      randomWord (seedAfter worker calls) = random (seedAfter worker calls) ∧
      (∃ draws victim left,
        drawVictim total id draws (seedAfter worker calls) = some (victim, left) ∧
          draws < rngMod ∧ victim < total ∧ victim ≠ id) ∧
      ∃ draws victims left,
        sweep total id draws (total - 1) (seedAfter worker calls) = some (victims, left) ∧
          draws < rngMod ∧ victims.length = total - 1 ∧
          ∀ victim ∈ victims, victim < total ∧ victim ≠ id := by
  have seeded := seedAfter_seeded worker calls
  obtain ⟨victim, left, chosen⟩ := drawVictim_ends total id several _ seeded
  have positive : 0 < total := Nat.lt_of_le_of_lt (Nat.zero_le id) own
  obtain ⟨inside, other, _⟩ :=
    drawVictim_sound total id (rngMod - 1) positive _ left victim seeded chosen
  obtain ⟨victims, rest, swept, count, each⟩ := sweep_ends total id (total - 1) several _ seeded
  exact ⟨seeded, product_lt _, randomWord_eq _,
    ⟨rngMod - 1, victim, left, chosen, by decide, inside, other⟩,
    rngMod - 1, victims, rest, swept, by decide, count, each⟩

/-- Worker 1 of two threads, at its first choice. -/
theorem victim_selection_ends_two_threads : 2 ≤ 2 ∧ 1 < 2 ∧
    ∃ draws victim left, drawVictim 2 1 draws (seedAfter 1 0) = some (victim, left) ∧
      draws < rngMod ∧ victim < 2 ∧ victim ≠ 1 :=
  ⟨by decide, by decide, (victim_selection_ends 1 0 2 1 (by decide) (by decide)).2.2.2.1⟩

end Mola.VictimSelection
