import Mathlib.Data.List.Basic
import Mathlib.Tactic.Common
import Mathlib.Algebra.Order.Ring.Nat

/-!
# Words in memory, in either byte order

A word of a given number of bytes is stored with its least significant byte first
or last. Reversing the bytes of a word before it is stored in one order leaves in
memory what the other order stores. These laws are all that a conversion between
hosts of different byte order uses.

Words are natural numbers with an explicit width; nothing here mentions a message
or a connection.
-/

namespace Mola.ByteOrder

/-- The order in which a host stores the bytes of a word. -/
inductive Order where
  | little
  | big
deriving DecidableEq

/-- The opposite order. -/
def Order.other : Order → Order
  | .little => .big
  | .big => .little

/-- The given number of low bytes of a number, least significant first. -/
def digits : Nat → Nat → List UInt8
  | 0, _ => []
  | width + 1, number => UInt8.ofNat number :: digits width (number / 256)

/-- The number whose bytes are given, least significant first. -/
def value : List UInt8 → Nat
  | [] => 0
  | byte :: rest => byte.toNat + 256 * value rest

/-- The image of a word in the memory of a host. -/
def store : Order → Nat → Nat → List UInt8
  | .little, width, number => digits width number
  | .big, width, number => (digits width number).reverse

/-- The word that a host reads from memory. -/
def load : Order → List UInt8 → Nat
  | .little, bytes => value bytes
  | .big, bytes => value bytes.reverse

/-- Reverse the bytes of a word. -/
def swap (width number : Nat) : Nat := value (digits width number).reverse

@[simp] theorem digits_length (width number : Nat) : (digits width number).length = width := by
  induction width generalizing number with
  | zero => rfl
  | succ _ inductionHypothesis => simp [digits, inductionHypothesis]

/-- A word that fits is recovered from its bytes. -/
theorem value_digits (width number : Nat) (fits : number < 256 ^ width) :
    value (digits width number) = number := by
  induction width generalizing number with
  | zero =>
    have zero : number = 0 := by simpa using fits
    rw [zero]
    rfl
  | succ width inductionHypothesis =>
    have below : number / 256 < 256 ^ width := by
      apply Nat.div_lt_of_lt_mul
      rwa [← Nat.pow_succ']
    have low : (UInt8.ofNat number).toNat = number % 256 := by simp
    rw [digits, value, inductionHypothesis _ below, low]
    exact Nat.mod_add_div number 256

/-- The bytes of a number that was read from bytes are those bytes. -/
theorem digits_value (bytes : List UInt8) : digits bytes.length (value bytes) = bytes := by
  induction bytes with
  | nil => rfl
  | cons byte rest inductionHypothesis =>
    have small : byte.toNat < 256 := byte.toNat_lt
    have high : (byte.toNat + 256 * value rest) / 256 = value rest := by omega
    have low : UInt8.ofNat (byte.toNat + 256 * value rest) = byte := by
      apply UInt8.toNat_inj.mp
      simp only [UInt8.toNat_ofNat']
      omega
    rw [List.length_cons, value, digits, high, low, inductionHypothesis]

theorem value_lt (bytes : List UInt8) : value bytes < 256 ^ bytes.length := by
  induction bytes with
  | nil => simp [value]
  | cons byte =>
    have small : byte.toNat < 256 := byte.toNat_lt
    rw [value, List.length_cons, Nat.pow_succ]
    omega

@[simp] theorem store_length (order : Order) (width number : Nat) :
    (store order width number).length = width := by
  cases order <;> simp [store]

theorem load_store (order : Order) {width number : Nat} (fits : number < 256 ^ width) :
    load order (store order width number) = number := by
  cases order with
  | little => exact value_digits width number fits
  | big =>
    rw [load, store, List.reverse_reverse]
    exact value_digits width number fits

theorem swap_lt (width number : Nat) : swap width number < 256 ^ width := by
  have bound := value_lt (digits width number).reverse
  rwa [List.length_reverse, digits_length] at bound

theorem store_swap (order : Order) (width number : Nat) :
    store order width (swap width number) = store order.other width number := by
  have exact_ : digits width (swap width number) = (digits width number).reverse := by
    have read := digits_value (digits width number).reverse
    rwa [List.length_reverse, digits_length] at read
  cases order with
  | little => exact exact_
  | big => rw [store, exact_, List.reverse_reverse]; rfl

end Mola.ByteOrder
