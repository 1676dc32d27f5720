import Mathlib.Data.List.AList
import Mathlib.Data.Multiset.AddSub
import Mathlib.Data.Multiset.Range
import Mathlib.Tactic.Common
import Mathlib.Algebra.Order.Ring.Nat

/-!
# Tickets that are issued, returned and issued again

A dispenser issues numbers. A returned number is issued again before a new one is
generated, the last one returned first, and the generator counts modulo a limit.
The account of a dispenser says that the returned numbers and those that are out are
together the numbers from one to the generator, each once. Issuing and returning keep
it as long as fewer numbers than the limit are out, and a number that is issued is then
neither zero nor out.

The second part is about finite maps whose keys are such numbers: how inserting,
replacing and erasing an entry change the entries and the multiset of keys. Nothing here
mentions requests.
-/

namespace Mola.Tickets

/-- The last number generated, and the returned numbers, the last one first. -/
structure Dispenser where
  generator : Nat
  recycle : List Nat
deriving DecidableEq

/-- Issue the number that was returned last, or generate one. -/
def issue (limit : Nat) (dispenser : Dispenser) : Nat × Dispenser :=
  match dispenser.recycle with
  | number :: rest => (number, { dispenser with recycle := rest })
  | [] =>
      let number := (dispenser.generator + 1) % limit
      (number, { dispenser with generator := number })

/-- Return a number. -/
def giveBack (dispenser : Dispenser) (number : Nat) : Dispenser :=
  { dispenser with recycle := number :: dispenser.recycle }

/-- The returned numbers and those that are out are the numbers up to the generator. -/
structure Accounted (limit : Nat) (dispenser : Dispenser) (out : Multiset Nat) : Prop where
  bounded : dispenser.generator < limit
  parts : (dispenser.recycle : Multiset Nat) + out = List.range' 1 dispenser.generator

theorem accounted_nodup {limit : Nat} {dispenser : Dispenser} {out : Multiset Nat}
    (accounted : Accounted limit dispenser out) :
    ((dispenser.recycle : Multiset Nat) + out).Nodup := by
  rw [accounted.parts]
  exact Multiset.coe_nodup.mpr List.nodup_range'

variable (limit : Nat) (dispenser : Dispenser) (out : Multiset Nat)

theorem accounted_recycle_nodup (accounted : Accounted limit dispenser out) :
    dispenser.recycle.Nodup :=
  Multiset.coe_nodup.mp
    (Multiset.nodup_of_le (Multiset.le_add_right _ _) (accounted_nodup accounted))

theorem accounted_disjoint (accounted : Accounted limit dispenser out) (number : Nat)
    (returned : number ∈ dispenser.recycle) : number ∉ out := by
  intro held
  have apart := (Multiset.nodup_add.mp (accounted_nodup accounted)).2.2
  exact Multiset.disjoint_left.mp apart returned held

theorem accounted_range (accounted : Accounted limit dispenser out) (number : Nat)
    (member : number ∈ dispenser.recycle ∨ number ∈ out) :
    1 ≤ number ∧ number ≤ dispenser.generator := by
  have present : number ∈ (List.range' 1 dispenser.generator : Multiset Nat) := by
    rw [← accounted.parts]
    exact Multiset.mem_add.mpr member
  have range := List.mem_range'_1.mp (Multiset.mem_coe.mp present)
  omega

/-- When nothing is returned, the numbers that are out are as many as were generated. -/
theorem accounted_card {limit : Nat} {dispenser : Dispenser} {out : Multiset Nat}
    (accounted : Accounted limit dispenser out) (empty : dispenser.recycle = []) :
    out.card = dispenser.generator := by
  have parts := congrArg Multiset.card accounted.parts
  simpa [empty] using parts

/-- Issuing keeps the account, with the issued number out. -/
theorem issue_accounted (accounted : Accounted limit dispenser out) (room : out.card + 1 < limit) :
    Accounted limit (issue limit dispenser).2 ((issue limit dispenser).1 ::ₘ out) := by
  obtain ⟨bounded, parts⟩ := accounted
  unfold issue
  split
  next number rest returned =>
    refine ⟨bounded, ?_⟩
    rw [returned, ← Multiset.cons_coe] at parts
    rw [← parts, Multiset.add_cons, Multiset.cons_add]
  next empty =>
    have generated := accounted_card ⟨bounded, parts⟩ empty
    have next_ : (dispenser.generator + 1) % limit = dispenser.generator + 1 :=
      Nat.mod_eq_of_lt (by omega)
    refine ⟨?_, ?_⟩
    · dsimp only
      omega
    · dsimp only
      rw [next_, List.range'_1_concat, ← Multiset.coe_add, ← parts, Multiset.add_cons,
        Nat.add_comm 1, Multiset.coe_singleton, ← Multiset.singleton_add, Multiset.add_comm]

/-- A number that is issued is neither zero nor out. -/
theorem issue_fresh (accounted : Accounted limit dispenser out) (room : out.card + 1 < limit) :
    (issue limit dispenser).1 ≠ 0 ∧ (issue limit dispenser).1 ∉ out := by
  have after := issue_accounted limit dispenser out accounted room
  constructor
  · have range := accounted_range limit _ _ after _ (Or.inr (Multiset.mem_cons_self _ _))
    omega
  · have distinct := accounted_nodup after
    have held := (Multiset.nodup_add.mp distinct).2.1
    exact (Multiset.nodup_cons.mp held).1

theorem giveBack_accounted (number : Nat) (accounted : Accounted limit dispenser (number ::ₘ out)) :
    Accounted limit (giveBack dispenser number) out := by
  refine ⟨accounted.bounded, ?_⟩
  have parts := accounted.parts
  rw [Multiset.add_cons] at parts
  rw [giveBack, ← Multiset.cons_coe, Multiset.cons_add]
  exact parts

section
universe u
variable {Value : Type u} (entries : AList fun _ : Nat => Value)

/-- The keys of a finite map, as a multiset. -/
def keys : Multiset Nat := (entries.keys : Multiset Nat)

theorem mem_keys (key : Nat) : key ∈ keys entries ↔ (entries.lookup key).isSome := by
  rw [keys, Multiset.mem_coe, AList.lookup_isSome, AList.mem_keys]

theorem lookup_insert (key : Nat) (value : Value) :
    (fun other => (entries.insert key value).lookup other) =
      Function.update (fun other => entries.lookup other) key (some value) := by
  funext other
  by_cases same : other = key
  · subst same
    rw [AList.lookup_insert, Function.update_self]
  · rw [AList.lookup_insert_ne same, Function.update_of_ne same]

theorem lookup_erase (key : Nat) :
    (fun other => (entries.erase key).lookup other) =
      Function.update (fun other => entries.lookup other) key none := by
  funext other
  by_cases same : other = key
  · subst same
    rw [AList.lookup_erase, Function.update_self]
  · rw [AList.lookup_erase_ne same, Function.update_of_ne same]

theorem keys_insert_new (key : Nat) (value : Value) (new : entries.lookup key = none) :
    keys (entries.insert key value) = key ::ₘ keys entries := by
  have absent : key ∉ entries.keys := by
    rw [← AList.mem_keys]
    exact AList.lookup_eq_none.mp new
  rw [keys, AList.keys_insert, List.erase_of_not_mem absent]
  rfl

theorem keys_replace (key : Nat) (value old : Value) (present : entries.lookup key = some old) :
    keys (entries.insert key value) = keys entries := by
  have member : key ∈ keys entries := (mem_keys entries key).mpr (by rw [present]; rfl)
  rw [keys, AList.keys_insert, ← Multiset.cons_coe, ← Multiset.coe_erase]
  exact Multiset.cons_erase member

theorem keys_erase (key : Nat) (old : Value) (present : entries.lookup key = some old) :
    key ::ₘ keys (entries.erase key) = keys entries := by
  have member : key ∈ keys entries := (mem_keys entries key).mpr (by rw [present]; rfl)
  rw [keys, AList.keys_erase, ← Multiset.coe_erase]
  exact Multiset.cons_erase member

end

end Mola.Tickets
