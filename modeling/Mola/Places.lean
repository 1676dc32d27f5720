import Mathlib.Data.List.Basic
import Mathlib.Logic.Function.Basic

/-!
# Elements by their places

A system that keeps the calls that were made in a list names a call by its place, replaces it
by a later stage of it, and adds new ones at the end. A table is changed at one place at a time.
The rules here say what such a list or table has at which place, and how a count over a list
changes. Nothing mentions a particular system.
-/

namespace Mola.Places

universe u v
variable {Element : Type u}

/-- After a table was changed at one place: the new entry there, and the old ones elsewhere. -/
theorem update_place {Index : Type v} [DecidableEq Index] (table : Index → Element)
    (index : Index) (new : Element) (place : Index) (element : Element) :
    Function.update table index new place = element ↔
      (place = index ∧ new = element) ∨ (place ≠ index ∧ table place = element) := by
  by_cases same : place = index
  · rw [same, Function.update_self]
    simp
  · rw [Function.update_of_ne same]
    simp [same]

/-- After one element was replaced: the new one in its place, and the old ones elsewhere. -/
theorem set_place {list : List Element} {index : Nat} {old : Element} (new : Element)
    (found : list[index]? = some old) (place : Nat) (element : Element) :
    (list.set index new)[place]? = some element ↔
      (place = index ∧ element = new) ∨ (place ≠ index ∧ list[place]? = some element) := by
  have inside : index < list.length := (List.getElem?_eq_some_iff.mp found).1
  by_cases same : place = index
  · rw [same, List.getElem?_set_self inside]
    simp [eq_comm]
  · rw [List.getElem?_set_ne (Ne.symm same)]
    simp [same]

/-- After one element was added: the old ones in their places, and the new one behind. -/
theorem append_place (list : List Element) (last : Element) (place : Nat) (element : Element) :
    (list ++ [last])[place]? = some element ↔
      list[place]? = some element ∨ (place = list.length ∧ element = last) := by
  rw [List.getElem?_append]
  split
  · rename_i inside
    simp [Nat.ne_of_lt inside]
  · rename_i beyond
    have vacant : list[place]? = none := List.getElem?_eq_none (Nat.le_of_not_lt beyond)
    rw [vacant, List.getElem?_singleton]
    split
    · rename_i first
      have here : place = list.length := by omega
      simp [here, eq_comm]
    · rename_i later
      have different : place ≠ list.length := by omega
      simp [different]

/-- Replacing one element changes a count by what the two elements count. -/
theorem countP_set_add (property : Element → Bool) {list : List Element} {index : Nat}
    {old : Element} (new : Element) (found : list[index]? = some old) :
    (list.set index new).countP property + (if property old then 1 else 0) =
      list.countP property + if property new then 1 else 0 := by
  obtain ⟨inside, rfl⟩ := List.getElem?_eq_some_iff.mp found
  have positive : property list[index] = true → 0 < list.countP property := fun holds =>
    List.countP_pos_iff.mpr ⟨list[index], List.getElem_mem inside, holds⟩
  rw [List.countP_set inside]
  split
  · rename_i holds
    have := positive holds
    omega
  · omega

end Mola.Places
