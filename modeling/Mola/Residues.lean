import Mathlib.Data.Int.CardIntervalMod

/-!
# Residues of consecutive numbers

Consecutive numbers are dealt to the residues of a modulus in turn. A run of them gives every
residue its length divided by the modulus, rounded down, and one more to the residues that are
left over after the full rounds. The counts of one run differ by at most one. Those of two runs
together do not if a residue is left over by both and another by neither.
-/

namespace Mola.Residues

/-- The residues of a run of consecutive numbers. -/
def residues (modulus : Nat) : Nat → Nat → List Nat
  | _, 0 => []
  | start, length + 1 => start % modulus :: residues modulus (start + 1) length

/-- A residue is left over by a run: it is met once more than every residue is. -/
def LeftOver (modulus start length residue : Nat) : Prop :=
  (residue + modulus - start % modulus) % modulus < length % modulus

instance (modulus start length residue : Nat) :
    Decidable (LeftOver modulus start length residue) :=
  inferInstanceAs (Decidable (_ < _))

/-- The counts of any two residues differ by at most one. -/
def Balanced (modulus : Nat) (counts : Nat → Nat) : Prop :=
  ∀ first < modulus, ∀ second < modulus, counts first ≤ counts second + 1

theorem residues_eq_map (modulus start length : Nat) :
    residues modulus start length =
      (List.range length).map fun index => (start + index) % modulus := by
  induction length generalizing start with
  | zero => rfl
  | succ _ inductionHypothesis =>
    rw [residues, inductionHypothesis, List.range_succ_eq_map, List.map_cons, List.map_map]
    simp [Function.comp_def, Nat.add_comm 1, Nat.add_assoc]

theorem countP_range (property : Nat → Prop) [DecidablePred property] (bound : Nat) :
    (List.range bound).countP property = Nat.count property bound := by
  induction bound with
  | zero => rfl
  | succ _ inductionHypothesis =>
    rw [List.range_succ, List.countP_append, inductionHypothesis, Nat.count_succ]
    simp

/-- The numbers of a run with a residue are those at a fixed residue from its start. -/
theorem add_mod_eq_iff {modulus : Nat} (start index : Nat) {residue : Nat} (below : residue < modulus) :
    (start + index) % modulus = residue ↔
      index ≡ residue + modulus - start % modulus [MOD modulus] := by
  have positive : 0 < modulus := Nat.lt_of_le_of_lt (Nat.zero_le _) below
  have small : start % modulus < modulus := Nat.mod_lt start positive
  have shifted : start + (residue + modulus - start % modulus) ≡ residue [MOD modulus] :=
    calc start + (residue + modulus - start % modulus)
        ≡ start % modulus + (residue + modulus - start % modulus) [MOD modulus] :=
          (Nat.mod_modEq start modulus).symm.add_right _
      _ = residue + modulus := by omega
      _ ≡ residue [MOD modulus] := Nat.add_mod_right residue modulus
  have reduced : (start + index) % modulus = residue ↔ start + index ≡ residue [MOD modulus] := by
    rw [Nat.ModEq, Nat.mod_eq_of_lt below]
  rw [reduced]
  constructor
  · intro same
    exact Nat.ModEq.add_left_cancel' start (same.trans shifted.symm)
  · intro same
    exact (same.add_left start).trans shifted

/-- How often a run meets a residue. -/
theorem count_residues {modulus : Nat} (start length : Nat) {residue : Nat} (below : residue < modulus) :
    (residues modulus start length).count residue =
      length / modulus + if LeftOver modulus start length residue then 1 else 0 := by
  have positive : 0 < modulus := Nat.lt_of_le_of_lt (Nat.zero_le _) below
  have counted := Nat.count_modEq_card length positive (residue + modulus - start % modulus)
  refine Eq.trans ?_ counted
  rw [← countP_range, residues_eq_map, List.count, List.countP_map]
  refine List.countP_congr fun index _ => ?_
  simp only [Function.comp_apply, beq_iff_eq, decide_eq_true_eq]
  exact add_mod_eq_iff start index below

theorem balanced_residues (modulus start length : Nat) :
    Balanced modulus fun residue => (residues modulus start length).count residue := by
  intro first firstBelow second secondBelow
  dsimp only
  rw [count_residues start length firstBelow,
    count_residues start length secondBelow]
  split <;> split <;> omega

section Extras

variable (first second : Prop) [Decidable first] [Decidable second]

theorem extras_le_two : (if first then 1 else 0) + (if second then 1 else 0) ≤ 2 := by
  by_cases firstHolds : first <;> by_cases secondHolds : second <;> simp [firstHolds, secondHolds]

theorem extras_le_one (notBoth : ¬(first ∧ second)) :
    (if first then 1 else 0) + (if second then 1 else 0) ≤ 1 := by
  by_cases firstHolds : first
  · rw [if_pos firstHolds, if_neg fun secondHolds => notBoth ⟨firstHolds, secondHolds⟩]
  · rw [if_neg firstHolds]
    split <;> decide

theorem one_le_extras (either : first ∨ second) :
    1 ≤ (if first then 1 else 0) + (if second then 1 else 0) := by
  obtain firstHolds | secondHolds := either
  · rw [if_pos firstHolds]
    exact Nat.le_add_right ..
  · rw [if_pos secondHolds]
    exact Nat.le_add_left ..

end Extras

/-- Two runs together are balanced exactly if no residue is left over by both, or every one by one
of them. -/
theorem balanced_two_iff (modulus start length otherStart otherLength : Nat) :
    Balanced modulus (fun residue =>
        (residues modulus start length ++ residues modulus otherStart otherLength).count residue) ↔
      (∀ residue < modulus, ¬(LeftOver modulus start length residue ∧
        LeftOver modulus otherStart otherLength residue)) ∨
      ∀ residue < modulus, LeftOver modulus start length residue ∨
        LeftOver modulus otherStart otherLength residue := by
  have counts (residue : Nat) (below : residue < modulus) :
      (residues modulus start length ++ residues modulus otherStart otherLength).count residue =
        length / modulus + otherLength / modulus +
          ((if LeftOver modulus start length residue then 1 else 0) +
            if LeftOver modulus otherStart otherLength residue then 1 else 0) := by
    rw [List.count_append, count_residues start length below,
      count_residues otherStart otherLength below]
    omega
  constructor
  · intro balanced
    by_contra neither
    obtain ⟨some_, notAll⟩ := not_or.mp neither
    push Not at some_ notAll
    obtain ⟨both, bothBelow, twice⟩ := some_
    obtain ⟨none_, noneBelow, never⟩ := notAll
    have apart := balanced both bothBelow none_ noneBelow
    dsimp only at apart
    rw [counts both bothBelow, counts none_ noneBelow, if_pos twice.1, if_pos twice.2,
      if_neg never.1, if_neg never.2] at apart
    omega
  · intro either first firstBelow second secondBelow
    dsimp only
    rw [counts first firstBelow, counts second secondBelow]
    obtain neverBoth | always := either
    · have atMost := extras_le_one _ _ (neverBoth first firstBelow)
      omega
    · have atMost := extras_le_two (LeftOver modulus start length first)
        (LeftOver modulus otherStart otherLength first)
      have atLeast := one_le_extras _ _ (always second secondBelow)
      omega

end Mola.Residues
