import Mathlib.Data.List.TakeWhile
import Mola.Decimals

/-!
# The integer notation of C

A number is written in base eight, ten or sixteen: a leading zero tells an octal number, `0x` or
`0X` a hexadecimal one. A sign may stand in front. The scanner skips white space, takes the sign
and the longest number at the front of a text, and says where it stopped. The letter of `0x` alone
is not a number: only the zero is taken.

The grammar is stated apart from the scanner. What the scanner takes is white space and a number of
the grammar, and a number of the grammar is taken as a whole if the text after it does not go on
with a digit or the letter of a hexadecimal number.
-/

namespace Mola.Numerals

open Decimals

/-- The value of a digit, in bases up to sixteen. -/
def digitOf (byte : UInt8) : Option Nat :=
  if isDigit byte then some (byte.toNat - 48)
  else if 97 ≤ byte && byte ≤ 102 then some (byte.toNat - 87)
  else if 65 ≤ byte && byte ≤ 70 then some (byte.toNat - 55)
  else none

/-- A digit of a base. -/
def belongs (base : Nat) (byte : UInt8) : Bool := (digitOf byte).any (· < base)

/-- The number that digits denote in a base. -/
def valueIn (base : Nat) (digits : List UInt8) : Nat :=
  digits.foldl (fun number byte => number * base + (digitOf byte).getD 0) 0

/-- The digits of a base at the front are read as a number. There has to be one. -/
def scanIn (base : Nat) (text : List UInt8) : Option (Nat × List UInt8) :=
  let digits := text.takeWhile (belongs base)
  if digits = [] then none else some (valueIn base digits, text.dropWhile (belongs base))

/-- A number without a sign. Where no digit follows the letter of a hexadecimal number, the zero in
front of the letter is read. -/
def scanUnsigned (text : List UInt8) : Option (Nat × List UInt8) :=
  match text with
  | 48 :: 120 :: rest => some ((scanIn 16 rest).getD (0, 120 :: rest))
  | 48 :: 88 :: rest => some ((scanIn 16 rest).getD (0, 88 :: rest))
  | 48 :: _ => scanIn 8 text
  | _ => scanIn 10 text

/-- A number with an optional sign after white space. The flag tells a minus. -/
def scan (text : List UInt8) : Option (Bool × Nat × List UInt8) :=
  match skipSpace text with
  | 45 :: rest => (scanUnsigned rest).map fun (number, left) => (true, number, left)
  | 43 :: rest => (scanUnsigned rest).map fun (number, left) => (false, number, left)
  | rest => (scanUnsigned rest).map fun (number, left) => (false, number, left)

/-- How a number is written. -/
inductive Radix where
  | octal
  | decimal
  | hexadecimal (upper : Bool)

/-- The base of the digits. -/
def Radix.base : Radix → Nat
  | .octal => 8
  | .decimal => 10
  | .hexadecimal _ => 16

/-- What stands in front of the digits. The zero of an octal number is one of its digits. -/
def Radix.mark : Radix → List UInt8
  | .octal => []
  | .decimal => []
  | .hexadecimal false => [48, 120]
  | .hexadecimal true => [48, 88]

/-- The first digit tells an octal number from a decimal one. -/
def Radix.Leads (radix : Radix) (first : UInt8) : Prop :=
  match radix with
  | .octal => first = 48
  | .decimal => first ≠ 48
  | .hexadecimal _ => True

/-- A number of the notation: its sign, where `true` is a minus, how it is written, and its
digits. -/
structure Numeral where
  sign : Option Bool
  radix : Radix
  first : UInt8
  others : List UInt8
  inBase : ∀ byte ∈ first :: others, belongs radix.base byte = true
  leads : radix.Leads first

/-- The digits of a number. -/
def Numeral.digits (numeral : Numeral) : List UInt8 := numeral.first :: numeral.others

/-- The text of a sign. -/
def signText : Option Bool → List UInt8
  | none => []
  | some false => [43]
  | some true => [45]

/-- The text of a number without its sign. -/
def Numeral.unsigned (numeral : Numeral) : List UInt8 := numeral.radix.mark ++ numeral.digits

/-- The text of a number. -/
def Numeral.text (numeral : Numeral) : List UInt8 := signText numeral.sign ++ numeral.unsigned

/-- The number without its sign. -/
def Numeral.magnitude (numeral : Numeral) : Nat := valueIn numeral.radix.base numeral.digits

/-- A minus stands in front. -/
def Numeral.negative (numeral : Numeral) : Bool := numeral.sign = some true

/-- The number. -/
def Numeral.value (numeral : Numeral) : Int :=
  if numeral.negative then -numeral.magnitude else numeral.magnitude

/-- A byte that can go on a number: a digit of some base, or the letter of a hexadecimal number. -/
def continues (byte : UInt8) : Bool := belongs 16 byte || byte = 120 || byte = 88

/-- A digit of a base is one of every larger base. -/
theorem belongs_mono {small large : Nat} (ordered : small ≤ large) {byte : UInt8}
    (digit : belongs small byte = true) : belongs large byte = true := by
  unfold belongs at digit ⊢
  cases value : digitOf byte with rw [value] at digit
  | none =>
    exact digit
  | some =>
    exact decide_eq_true (Nat.lt_of_lt_of_le (of_decide_eq_true digit) ordered)

theorem Radix.base_le (radix : Radix) : radix.base ≤ 16 := by
  cases radix with
  | octal | decimal => decide
  | hexadecimal => exact Nat.le_refl 16

variable (numeral : Numeral) {rest : List UInt8}

theorem stops_belongs (radix : Radix) (stops : Stops continues rest) :
    Stops (belongs radix.base) rest := by
  intro byte front
  have other := stops byte front
  cases digit : belongs radix.base byte with
  | false => rfl
  | true => simp [continues, belongs_mono radix.base_le digit] at other

/-- A byte below the digits is none. -/
theorem belongs_ge {base : Nat} {byte : UInt8} (digit : belongs base byte = true) :
    48 ≤ byte.toNat := by
  by_contra small
  have none_ : digitOf byte = none := by
    unfold digitOf isDigit
    simp only [UInt8.le_iff_toNat_le, Bool.and_eq_true, decide_eq_true_eq]
    rw [if_neg fun both => small both.1, if_neg, if_neg]
    · exact fun both => small (Nat.le_trans (by decide) both.1)
    · exact fun both => small (Nat.le_trans (by decide) both.1)
  rw [belongs, none_] at digit
  cases digit

/-- A digit is not white space. -/
theorem isSpace_of_belongs {base : Nat} {byte : UInt8} (digit : belongs base byte = true) :
    isSpace byte = false := by
  have large := belongs_ge digit
  cases space : isSpace byte with
  | false => rfl
  | true =>
    unfold isSpace at space
    simp only [Bool.or_eq_true, Bool.and_eq_true, decide_eq_true_eq, UInt8.le_iff_toNat_le,
      ← UInt8.toNat_inj] at space
    change (9 ≤ _ ∧ _ ≤ 13) ∨ _ = 32 at space
    omega

theorem belongs_ne {base : Nat} {byte : UInt8} (digit : belongs base byte = true) :
    byte ≠ 120 ∧ byte ≠ 88 := by
  constructor
  all_goals
    rintro rfl
    cases digit

theorem scanIn_run {base : Nat} {digits : List UInt8} (some_ : digits ≠ [])
    (all : ∀ byte ∈ digits, belongs base byte = true) (stops : Stops (belongs base) rest) :
    scanIn base (digits ++ rest) = some (valueIn base digits, rest) := by
  unfold scanIn
  rw [takeWhile_run _ digits rest all stops, dropWhile_run _ digits rest all stops]
  exact if_neg some_

/-- What is read in a base are digits of it. -/
theorem scanIn_split {base number : Nat} {text : List UInt8}
    (read : scanIn base text = some (number, rest)) :
    ∃ first others, text = first :: others ++ rest ∧
      (∀ byte ∈ first :: others, belongs base byte = true) ∧
      number = valueIn base (first :: others) := by
  simp only [scanIn] at read
  split at read
  case isTrue => cases read
  case isFalse nonempty =>
    cases read
    obtain ⟨first, others, taken⟩ := List.exists_cons_of_ne_nil nonempty
    refine ⟨first, others, ?_, ?_, by rw [taken]⟩
    · rw [← taken, List.takeWhile_append_dropWhile]
    · rw [← taken]
      exact fun byte member => List.mem_takeWhile_imp member

/-- After a zero that no letter of a hexadecimal number follows, the number is octal. -/
theorem scanUnsigned_octal {text : List UInt8}
    (noLetter : ∀ byte ∈ text.head?, byte ≠ 120 ∧ byte ≠ 88) :
    scanUnsigned (48 :: text) = scanIn 8 (48 :: text) := by
  unfold scanUnsigned
  split
  case h_1 rest same =>
    cases same
    exact absurd rfl (noLetter 120 rfl).1
  case h_2 rest same =>
    cases same
    exact absurd rfl (noLetter 88 rfl).2
  case h_3 => rfl
  case h_4 other => exact absurd rfl (other text)

/-- A number that does not start with a zero is decimal. -/
theorem scanUnsigned_decimal {first : UInt8} (text : List UInt8) (nonzero : first ≠ 48) :
    scanUnsigned (first :: text) = scanIn 10 (first :: text) := by
  unfold scanUnsigned
  split
  case h_1 same =>
    cases same
    exact absurd rfl nonzero
  case h_2 same =>
    cases same
    exact absurd rfl nonzero
  case h_3 same =>
    cases same
    exact absurd rfl nonzero
  case h_4 => rfl

/-- After the mark of a hexadecimal number its digits are read, if there are any. -/
theorem scanUnsigned_hexadecimal (upper : Bool) (text : List UInt8) :
    scanUnsigned ((Radix.hexadecimal upper).mark ++ text) =
      some ((scanIn 16 text).getD (0, (Radix.hexadecimal upper).mark.drop 1 ++ text)) := by
  cases upper with
  | false | true => rfl

/-- A number without its sign is read as a whole. -/
theorem scanUnsigned_numeral (stops : Stops continues rest) :
    scanUnsigned (numeral.unsigned ++ rest) = some (numeral.magnitude, rest) := by
  obtain ⟨sign, radix, first, others, inBase, leads⟩ := numeral
  have read := scanIn_run (List.cons_ne_nil _ _) inBase
    (stops_belongs radix stops)
  cases radix with
  | octal =>
    have zero : first = 48 := leads
    subst zero
    refine (scanUnsigned_octal fun byte front => ?_).trans read
    cases others with
    | nil =>
      have other := stops byte front
      constructor
      all_goals
        rintro rfl
        cases other
    | cons =>
      cases front
      exact belongs_ne (inBase byte (by simp))
  | decimal => exact (scanUnsigned_decimal (others ++ rest) leads).trans read
  | hexadecimal =>
    rw [Numeral.unsigned, List.append_assoc, scanUnsigned_hexadecimal]
    have sixteen : scanIn 16 (first :: others ++ rest) =
        some (valueIn 16 (first :: others), rest) := read
    simp only [Numeral.digits, sixteen, Option.getD_some]
    rfl

/-- The zero in front of a letter is a number of the notation. -/
def Numeral.zero (sign : Option Bool) : Numeral where
  sign := sign
  radix := .octal
  first := 48
  others := []
  inBase := by simp [belongs, digitOf, isDigit, Radix.base]
  leads := rfl

/-- Digits after the mark of a hexadecimal number, or the zero of the mark alone. -/
theorem hexadecimal_split (sign : Option Bool) (upper : Bool) (text rest : List UInt8)
    (number : Nat)
    (read : (scanIn 16 text).getD (0, (Radix.hexadecimal upper).mark.drop 1 ++ text) =
      (number, rest)) :
    ∃ numeral : Numeral, numeral.sign = sign ∧ numeral.magnitude = number ∧
      (Radix.hexadecimal upper).mark ++ text = numeral.unsigned ++ rest := by
  cases found : scanIn 16 text with
  | none =>
    rw [found, Option.getD_none] at read
    obtain ⟨rfl, rfl⟩ := Prod.mk.inj read
    refine ⟨Numeral.zero sign, rfl, rfl, ?_⟩
    cases upper with
    | false | true => rfl
  | some =>
    rw [found, Option.getD_some] at read
    obtain ⟨first, others, rfl, inBase, rfl⟩ := scanIn_split (read ▸ found)
    exact ⟨⟨sign, .hexadecimal upper, first, others, inBase, trivial⟩, rfl, rfl,
      (List.append_assoc _ _ _).symm⟩

/-- What is read without a sign is a number of the notation. -/
theorem scanUnsigned_split (sign : Option Bool) {text : List UInt8} {number : Nat}
    (read : scanUnsigned text = some (number, rest)) :
    ∃ numeral : Numeral, numeral.sign = sign ∧ numeral.magnitude = number ∧
      text = numeral.unsigned ++ rest := by
  unfold scanUnsigned at read
  split at read
  case h_1 text => exact hexadecimal_split sign false text rest number (Option.some.inj read)
  case h_2 text => exact hexadecimal_split sign true text rest number (Option.some.inj read)
  case h_3 tail _ _ =>
    obtain ⟨first, others, same, inBase, rfl⟩ := scanIn_split read
    have zero : 48 = first := (List.cons.inj same).1
    exact ⟨⟨sign, .octal, first, others, inBase, zero.symm⟩, rfl, rfl, same⟩
  case h_4 _ _ other =>
    obtain ⟨first, others, same, inBase, rfl⟩ := scanIn_split read
    have nonzero : first ≠ 48 := by
      rintro rfl
      exact other _ same
    exact ⟨⟨sign, .decimal, first, others, inBase, nonzero⟩, rfl, rfl, same⟩

/-- The text of a number without its sign starts with a digit. -/
theorem Numeral.unsigned_front :
    ∃ byte tail, numeral.unsigned = byte :: tail ∧ belongs 16 byte = true := by
  obtain ⟨sign, radix, first, others, inBase, leads⟩ := numeral
  have digit : belongs 16 first = true :=
    belongs_mono radix.base_le (inBase first List.mem_cons_self)
  cases radix with
  | octal | decimal => exact ⟨first, others, rfl, digit⟩
  | hexadecimal upper =>
    cases upper with
    | false => exact ⟨48, 120 :: first :: others, rfl, rfl⟩
    | true => exact ⟨48, 88 :: first :: others, rfl, rfl⟩

/-- The text of a number starts with a digit or a sign, so not with white space. -/
theorem Numeral.text_front :
    ∃ byte tail, numeral.text = byte :: tail ∧ isSpace byte = false := by
  obtain ⟨byte, tail, front, digit⟩ := numeral.unsigned_front
  unfold Numeral.text
  rw [front]
  cases numeral.sign with
  | none =>
    exact ⟨byte, tail, rfl, isSpace_of_belongs digit⟩
  | some minus =>
    cases minus with
    | false => exact ⟨43, byte :: tail, rfl, rfl⟩
    | true => exact ⟨45, byte :: tail, rfl, rfl⟩

/-- The bytes of a number are its sign, and bytes that can go on a number. -/
theorem Numeral.text_bytes :
    ∀ byte ∈ numeral.text, byte = 43 ∨ byte = 45 ∨ continues byte = true := by
  intro byte member
  rcases List.mem_append.mp member with inSign | inUnsigned
  · unfold signText at inSign
    split at inSign
    · cases inSign
    · exact Or.inl (List.mem_singleton.mp inSign)
    · exact Or.inr (Or.inl (List.mem_singleton.mp inSign))
  · refine Or.inr (Or.inr ?_)
    rcases List.mem_append.mp inUnsigned with inMark | inDigits
    · unfold Radix.mark at inMark
      split at inMark
      · cases inMark
      · cases inMark
      · rcases List.mem_pair.mp inMark with rfl | rfl <;> rfl
      · rcases List.mem_pair.mp inMark with rfl | rfl <;> rfl
    · have digit := belongs_mono numeral.radix.base_le (numeral.inBase byte inDigits)
      rw [continues, digit]
      rfl

/-- A number after white space is read as a whole, with its sign. -/
theorem scan_numeral {spaces : List UInt8} (numeral : Numeral) {rest : List UInt8}
    (blank : ∀ byte ∈ spaces, isSpace byte = true) (stops : Stops continues rest) :
    scan (spaces ++ numeral.text ++ rest) = some (numeral.negative, numeral.magnitude, rest) := by
  have skipped : skipSpace (spaces ++ numeral.text ++ rest) = numeral.text ++ rest := by
    obtain ⟨byte, tail, front, solid⟩ := numeral.text_front
    rw [List.append_assoc, front]
    refine dropWhile_run isSpace spaces _ blank ?_
    rintro _ ⟨⟩
    exact solid
  have read := scanUnsigned_numeral numeral stops
  obtain ⟨byte, tail, front, digit⟩ := numeral.unsigned_front
  have large := belongs_ge digit
  unfold scan
  rw [skipped, Numeral.text, List.append_assoc]
  unfold Numeral.negative
  cases numeral.sign with
  | none =>
    rw [signText, List.nil_append]
    split
    case h_1 same =>
      rw [front] at same
      cases same
      exact absurd large (by decide)
    case h_2 same =>
      rw [front] at same
      cases same
      exact absurd large (by decide)
    case h_3 =>
      rw [read]
      rfl
  | some minus =>
    cases minus with
    | false | true => exact congrArg (Option.map _) read

/-- What is read is a number of the notation after white space. -/
theorem scan_split {text rest : List UInt8} {negative : Bool} {number : Nat}
    (read : scan text = some (negative, number, rest)) :
    ∃ spaces, ∃ numeral : Numeral, (∀ byte ∈ spaces, isSpace byte = true) ∧
      numeral.negative = negative ∧ numeral.magnitude = number ∧
      text = spaces ++ numeral.text ++ rest := by
  have blank : ∀ byte ∈ text.takeWhile isSpace, isSpace byte = true :=
    fun byte member => List.mem_takeWhile_imp member
  have parts : text = text.takeWhile isSpace ++ skipSpace text :=
    List.takeWhile_append_dropWhile.symm
  -- The sign that was read is the one of the number.
  have signed : ∃ sign unsigned, skipSpace text = signText sign ++ unsigned ∧
      decide (sign = some true) = negative ∧ scanUnsigned unsigned = some (number, rest) := by
    unfold scan at read
    split at read
    case h_1 unsigned same =>
      obtain ⟨found, foundRead, result⟩ := Option.map_eq_some_iff.mp read
      cases result
      exact ⟨some true, unsigned, same, rfl, foundRead⟩
    case h_2 unsigned same =>
      obtain ⟨found, foundRead, result⟩ := Option.map_eq_some_iff.mp read
      cases result
      exact ⟨some false, unsigned, same, rfl, foundRead⟩
    case h_3 =>
      obtain ⟨found, foundRead, result⟩ := Option.map_eq_some_iff.mp read
      cases result
      exact ⟨none, _, rfl, rfl, foundRead⟩
  obtain ⟨sign, unsigned, front, flag, unsignedRead⟩ := signed
  obtain ⟨numeral, rfl, same, rfl⟩ := scanUnsigned_split sign unsignedRead
  refine ⟨text.takeWhile isSpace, numeral, blank, flag, same, ?_⟩
  rw [Numeral.text, List.append_assoc, List.append_assoc, ← front]
  exact parts

end Mola.Numerals
