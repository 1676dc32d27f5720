import Mathlib.NumberTheory.LucasPrimality
import Mathlib.FieldTheory.Finite.Basic

/-!
# Multiplicative generators of full period

A multiplicative generator keeps a residue of a modulus and multiplies it by a constant at every
step. Where the modulus is prime and the constant has the largest possible order, the states other
than zero form one cycle, so every one of them is reached from every other. A cycle through one and
two is not inside one residue class of any number above one.

The order is established from a factorisation of the predecessor of the modulus by Lucas's test,
which shows that the modulus is prime as well.
-/

namespace Mola.Generators

/-- One step of the generator. -/
def next (modulus multiplier state : Nat) : Nat := multiplier * state % modulus

/-- The modulus is prime, and the powers of the multiplier are all the residues but zero. -/
structure FullPeriod (modulus multiplier : Nat) : Prop where
  prime : modulus.Prime
  order : orderOf (multiplier : ZMod modulus) = modulus - 1

/-- Lucas's test, with the prime factors of the predecessor of the modulus in a list: no quotient
by one of them is an exponent that gives one. -/
theorem FullPeriod.of_powers (modulus multiplier : Nat) (factors : List Nat)
    (above : 1 < modulus) (product : factors.prod = modulus - 1)
    (primes : ∀ factor ∈ factors, factor.Prime)
    (full : (multiplier : ZMod modulus) ^ (modulus - 1) = 1)
    (proper : ∀ factor ∈ factors, (multiplier : ZMod modulus) ^ ((modulus - 1) / factor) ≠ 1) :
    FullPeriod modulus multiplier := by
  have everyFactor : ∀ factor : Nat, factor.Prime → factor ∣ modulus - 1 →
      (multiplier : ZMod modulus) ^ ((modulus - 1) / factor) ≠ 1 := by
    intro factor isPrime divides
    refine proper factor (mem_list_primes_of_dvd_prod isPrime.prime ?_ (product ▸ divides))
    exact fun other member => (primes other member).prime
  exact ⟨lucas_primality modulus multiplier full everyFactor,
    orderOf_eq_of_pow_and_pow_div_prime (by omega) full everyFactor⟩

section

variable {modulus multiplier : Nat} (period : FullPeriod modulus multiplier)

theorem next_lt (state : Nat) (positive : 0 < modulus) :
    next modulus multiplier state < modulus :=
  Nat.mod_lt _ positive

theorem iterate_next_cast (steps state : Nat) :
    (((next modulus multiplier)^[steps] state : Nat) : ZMod modulus) =
      (multiplier : ZMod modulus) ^ steps * state := by
  induction steps with
  | zero => simp
  | succ _ inductionHypothesis =>
    rw [Function.iterate_succ_apply', next, ZMod.natCast_mod, Nat.cast_mul, inductionHypothesis,
      pow_succ', mul_assoc]

theorem cast_ne_zero {state : Nat} (positive : 0 < state) (below : state < modulus) :
    (state : ZMod modulus) ≠ 0 := by
  rw [Ne, ZMod.natCast_eq_zero_iff]
  exact Nat.not_dvd_of_pos_of_lt positive below

include period

/-- A generator of full period has a multiplier that is not zero modulo the modulus. -/
theorem FullPeriod.multiplier_ne_zero : (multiplier : ZMod modulus) ≠ 0 := by
  have : Fact modulus.Prime := ⟨period.prime⟩
  have above : 1 < modulus := period.prime.one_lt
  intro zero
  have power : (multiplier : ZMod modulus) ^ (modulus - 1) = 1 :=
    period.order ▸ pow_orderOf_eq_one _
  rw [zero, zero_pow (by omega)] at power
  exact zero_ne_one power

/-- Every residue but zero is a power of the multiplier, with an exponent below the period. -/
theorem FullPeriod.exists_pow (residue : ZMod modulus) (nonzero : residue ≠ 0) :
    ∃ exponent < modulus - 1, (multiplier : ZMod modulus) ^ exponent = residue := by
  have : Fact modulus.Prime := ⟨period.prime⟩
  let generator := Units.mk0 (multiplier : ZMod modulus) period.multiplier_ne_zero
  have order : orderOf generator = modulus - 1 := by
    rw [← orderOf_units, Units.val_mk0, period.order]
  have everything : Subgroup.zpowers generator = ⊤ := by
    apply Subgroup.eq_top_of_card_eq
    rw [Nat.card_zpowers, order, Nat.card_eq_fintype_card, ZMod.card_units]
  have member : Units.mk0 residue nonzero ∈ Subgroup.zpowers generator :=
    everything ▸ Subgroup.mem_top _
  obtain ⟨exponent, small, same⟩ :=
    Finset.mem_image.mp (mem_zpowers_iff_mem_range_orderOf.mp member)
  refine ⟨exponent, order ▸ Finset.mem_range.mp small, ?_⟩
  have values := congrArg Units.val same
  rwa [Units.val_pow_eq_pow_val, Units.val_mk0, Units.val_mk0] at values

/-- From a state other than zero every such state is reached, itself included, after at least one
step and at most a period. -/
theorem FullPeriod.reaches (start target : Nat) (startPositive : 0 < start)
    (startBelow : start < modulus) (targetPositive : 0 < target) (targetBelow : target < modulus) :
    ∃ steps < modulus - 1, (next modulus multiplier)^[steps + 1] start = target := by
  have : Fact modulus.Prime := ⟨period.prime⟩
  have startUnit := cast_ne_zero startPositive startBelow
  have targetUnit := cast_ne_zero targetPositive targetBelow
  have multiplierUnit := period.multiplier_ne_zero
  obtain ⟨steps, small, power⟩ := period.exists_pow (target / start / multiplier)
    (div_ne_zero (div_ne_zero targetUnit startUnit) multiplierUnit)
  refine ⟨steps, small, ?_⟩
  have casts : (((next modulus multiplier)^[steps + 1] start : Nat) : ZMod modulus) = target := by
    rw [iterate_next_cast, pow_succ, power, div_mul_cancel₀ _ multiplierUnit,
      div_mul_cancel₀ _ startUnit]
  have below : (next modulus multiplier)^[steps + 1] start < modulus := by
    rw [Function.iterate_succ_apply']
    exact next_lt _ period.prime.pos
  rw [ZMod.natCast_eq_natCast_iff'] at casts
  rwa [Nat.mod_eq_of_lt below, Nat.mod_eq_of_lt targetBelow] at casts

/-- The states that follow do not all have one given residue modulo a number above one: one and
two are among them. -/
theorem FullPeriod.leaves_residue (above : 2 < modulus) (start count residue : Nat)
    (positive : 0 < start) (below : start < modulus) (several : 2 ≤ count) :
    ∃ steps < modulus - 1, (next modulus multiplier)^[steps + 1] start % count ≠ residue := by
  obtain ⟨toOne, oneSmall, one⟩ := period.reaches start 1 positive below (by omega) (by omega)
  obtain ⟨toTwo, twoSmall, two⟩ := period.reaches start 2 positive below (by omega) (by omega)
  by_cases same : 1 % count = residue
  · refine ⟨toTwo, twoSmall, ?_⟩
    have unequal : 2 % count ≠ 1 % count := by
      rcases Nat.eq_or_lt_of_le several with two | more
      · rw [← two]
        decide
      · rw [Nat.mod_eq_of_lt more, Nat.mod_eq_of_lt several]
        decide
    rw [two]
    exact same ▸ unequal
  · refine ⟨toOne, oneSmall, ?_⟩
    rw [one]
    exact same

end

end Mola.Generators
