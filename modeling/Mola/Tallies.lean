import Mathlib.Algebra.BigOperators.Group.Finset.Basic
import Mathlib.Algebra.Order.BigOperators.Group.Finset
import Mathlib.Data.Fintype.BigOperators

/-!
# Tallies over a finite family of positions

A system with finitely many threads keeps one position for each of them. A tally
adds a weight of every position: how many threads stand somewhere, or which items
they hold between them. A step of one thread changes one position, so the tally
changes by the difference of two weights. Differences are stated as equations
between sums, which need no subtraction and hold for multisets as for numbers.
-/

namespace Mola.Tallies

universe u v w
variable {Index : Type u} [Fintype Index] {Position : Type v} {Weight : Type w}

/-- The sum of the weights of all positions. -/
def tally [AddCommMonoid Weight] (weight : Position → Weight) (positions : Index → Position) :
    Weight :=
  ∑ index, weight (positions index)

section
variable [DecidableEq Index] [AddCommMonoid Weight]

/-- Moving one index exchanges its old weight for its new one. -/
theorem tally_update (weight : Position → Weight) (positions : Index → Position)
    (index : Index) (position : Position) :
    tally weight (Function.update positions index position) + weight (positions index) =
      tally weight positions + weight position := by
  have member : index ∈ (Finset.univ : Finset Index) := Finset.mem_univ index
  have rest : ∑ other ∈ Finset.univ.erase index,
      weight (Function.update positions index position other) =
      ∑ other ∈ Finset.univ.erase index, weight (positions other) := by
    apply Finset.sum_congr rfl
    intro other outside
    rw [Function.update_of_ne (Finset.ne_of_mem_erase outside)]
  unfold tally
  rw [← Finset.sum_erase_add _ _ member, ← Finset.sum_erase_add Finset.univ
    (fun other => weight (positions other)) member, rest, Function.update_self]
  exact add_right_comm _ _ _

theorem tally_same [IsCancelAdd Weight] {weight : Position → Weight}
    {positions : Index → Position} {index : Index} {position : Position}
    (same : weight position = weight (positions index)) :
    tally weight (Function.update positions index position) = tally weight positions := by
  have moved := tally_update weight positions index position
  rw [same] at moved
  exact add_right_cancel moved

end

theorem weight_le_tally (weight : Position → Nat) (positions : Index → Position)
    (index : Index) : weight (positions index) ≤ tally weight positions :=
  Finset.single_le_sum (f := fun other => weight (positions other)) (fun _ _ => Nat.zero_le _)
    (Finset.mem_univ index)

theorem weight_alone [DecidableEq Index] (weight : Position → Nat) (positions : Index → Position)
    (index other : Index) (different : other ≠ index) (present : 0 < weight (positions index))
    (bound : tally weight positions ≤ 1) : weight (positions other) = 0 := by
  have pair : weight (positions index) + weight (positions other) ≤ tally weight positions := by
    unfold tally
    rw [← Finset.sum_pair (f := fun each => weight (positions each)) different.symm]
    exact Finset.sum_le_sum_of_subset (Finset.subset_univ _)
  omega

end Mola.Tallies
