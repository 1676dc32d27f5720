import Mola.Numerals

/-!
# Reading an address from a host name

A host is tried as an address before it is looked up by name. An address is meant to be a dotted
quad, four numbers below 256 with a dot between each two. The loop that reads it is more liberal and
less careful than that. It takes what the conversion of the C library takes, white space included,
and reduces it to 32 and then to eight bits. A number may be missing in front of a dot. It stops
after the fourth number whatever follows its dot. It takes 256 as well. A text that ends before the
fourth number is not an error of the loop but a failed assertion, which ends the process.

A string is its bytes. The text of a string that is passed to C ends at its first zero byte. The
address is kept as the four bytes of the word in memory. The conversion is that of a 64-bit
`unsigned long` in the C locale, and looking up a name is a parameter.
-/

namespace Mola.HostNames

open Decimals Numerals

/-- The text that `c_str` shows of a string. -/
def cText (host : List UInt8) : List UInt8 := host.takeWhile fun byte => byte ≠ 0

/-- The value of `strtoul` for a number and its sign. A number that does not fit is replaced by the
largest value; a minus is taken modulo the word. -/
def unsignedLong (negative : Bool) (magnitude : Nat) : Nat :=
  if 2 ^ 64 ≤ magnitude then 2 ^ 64 - 1
  else if negative then (2 ^ 64 - magnitude) % 2 ^ 64
  else magnitude

/-- `strtoul` with base zero: the value and the text that is left. Where there is no number, the
value is zero and nothing is taken. -/
def strtoul (text : List UInt8) : Nat × List UInt8 :=
  match scan text with
  | none => (0, text)
  | some (negative, magnitude, rest) => (unsignedLong negative magnitude, rest)

/-- What becomes of a call: the address was found, the text is not an address, or the process was
ended by an assertion. -/
inductive Outcome where
  | found (octets : List UInt8)
  | rejected
  | aborted
  deriving DecidableEq, Repr

/-- A number is stored before those that follow. -/
def Outcome.after (octet : UInt8) : Outcome → Outcome
  | .found octets => .found (octet :: octets)
  | .rejected => .rejected
  | .aborted => .aborted

/-- The body of the loop of `parseip` after the conversion: the value and the text that is left are
checked, and the loop goes on. -/
def advance (goOn : List UInt8 → Outcome) (value : Nat) (left : List UInt8) : Outcome :=
  let x := value % 2 ^ 32
  if 256 < x then .rejected
  else
    match left with
    | [] => (goOn []).after (UInt8.ofNat x)
    | 46 :: rest => (goOn rest).after (UInt8.ofNat x)
    | _ => .rejected

/-- The loop of `parseip` with the number of components that are still to be read. The assertion
after the loop fails unless none is. -/
def parseLoop : Nat → List UInt8 → Outcome
  | 0, _ => .found []
  | _ + 1, [] => .aborted
  | count + 1, byte :: text =>
      advance (parseLoop count) (strtoul (byte :: text)).1 (strtoul (byte :: text)).2

/-- `Connection::parseip`. -/
def parseip (host : List UInt8) : Outcome := parseLoop 4 (cText host)

/-- `Connection::host_to_ip`: the name is looked up if it is not an address. -/
def hostToIp (gethostbyname : List UInt8 → Option (List UInt8)) (host : List UInt8) : Outcome :=
  match parseip host with
  | .found octets => .found octets
  | .aborted => .aborted
  | .rejected =>
      match gethostbyname (cText host) with
      | some octets => .found octets
      | none => .rejected

/-- A dotted quad: four numbers from 0 to 255 with one dot between each two, and nothing else. -/
def Quad (host octets : List UInt8) : Prop :=
  ∃ (first second third fourth : Numeral) (a b c d : UInt8),
    first.value = a.toNat ∧ second.value = b.toNat ∧ third.value = c.toNat ∧
      fourth.value = d.toNat ∧ octets = [a, b, c, d] ∧
      host = first.text ++ 46 :: (second.text ++ 46 :: (third.text ++ 46 :: fourth.text))

/-- What is meant of `parseip` for a host: a dotted quad is found, and every other string is
rejected and looked up by name. -/
def Meets (gethostbyname : List UInt8 → Option (List UInt8)) (host : List UInt8) : Prop :=
  (∀ octets, Quad host octets → parseip host = .found octets) ∧
    ((∀ octets, ¬Quad host octets) → parseip host = .rejected ∧
      hostToIp gethostbyname host =
        ((gethostbyname (cText host)).map Outcome.found).getD .rejected)

/-- The value that the loop compares with its bound. -/
def taken (numeral : Numeral) : Nat :=
  unsignedLong numeral.negative numeral.magnitude % 2 ^ 32

/-- What the loop takes for a number of an address: nothing, or white space and a number that is at
most 256 after it was reduced. -/
inductive Component : List UInt8 → UInt8 → Prop
  | missing : Component [] 0
  | number (spaces : List UInt8) (numeral : Numeral)
      (blank : ∀ byte ∈ spaces, isSpace byte = true) (small : taken numeral ≤ 256) :
      Component (spaces ++ numeral.text) (UInt8.ofNat (taken numeral))

/-- A text starts with so many components, with these octets. The dot after the last one may be
missing only at the end of the text, and only if the component is not. -/
inductive Begins : Nat → List UInt8 → List UInt8 → Prop
  | enough (text : List UInt8) : Begins 0 text []
  | last (component : List UInt8) (octet : UInt8) (reads : Component component octet)
      (present : component ≠ []) : Begins 1 component [octet]
  | dot (count : Nat) (component rest octets : List UInt8) (octet : UInt8)
      (reads : Component component octet) (others : Begins count rest octets) :
      Begins (count + 1) (component ++ 46 :: rest) (octet :: octets)

/-- A text consists of fewer than so many components. -/
inductive Short : Nat → List UInt8 → Prop
  | ends (count : Nat) : Short (count + 1) []
  | last (count : Nat) (component : List UInt8) (octet : UInt8) (reads : Component component octet)
      (present : component ≠ []) : Short (count + 2) component
  | dot (count : Nat) (component rest : List UInt8) (octet : UInt8)
      (reads : Component component octet) (others : Short count rest) :
      Short (count + 1) (component ++ 46 :: rest)

variable (count : Nat) (rest : List UInt8) {octet : UInt8} {host octets : List UInt8}

theorem strtoul_dot : strtoul (46 :: rest) = (0, 46 :: rest) := rfl

theorem stops_nil : Stops continues [] := by
  rintro _ ⟨⟩

theorem stops_dot : Stops continues (46 :: rest) := by
  rintro _ ⟨⟩
  rfl

theorem strtoul_numeral (spaces : List UInt8) (numeral : Numeral) (rest : List UInt8)
    (blank : ∀ byte ∈ spaces, isSpace byte = true) (stops : Stops continues rest) :
    strtoul (spaces ++ numeral.text ++ rest) =
      (unsignedLong numeral.negative numeral.magnitude, rest) := by
  unfold strtoul
  rw [scan_numeral numeral blank stops]

theorem parseLoop_read (text : List UInt8) (present : text ≠ []) :
    parseLoop (count + 1) text =
      advance (parseLoop count) (strtoul text).1 (strtoul text).2 := by
  cases text with
  | nil => exact absurd rfl present
  | cons => rfl

/-- A text that is not empty cannot be made empty by what is in front of it or behind. -/
theorem text_ne_nil (spaces : List UInt8) (numeral : Numeral) (rest : List UInt8) :
    spaces ++ numeral.text ++ rest ≠ [] := by
  obtain ⟨byte, tail, front, _⟩ := numeral.text_front
  rw [front]
  simp

/-- A component in front of a dot is taken, and the loop goes on after the dot. -/
theorem parseLoop_dot {component : List UInt8} (reads : Component component octet) :
    parseLoop (count + 1) (component ++ 46 :: rest) = (parseLoop count rest).after octet := by
  cases reads with
  | missing => rfl
  | number spaces numeral blank small =>
    rw [parseLoop_read _ _ (text_ne_nil spaces numeral _),
      strtoul_numeral spaces numeral _ blank (stops_dot rest)]
    exact if_neg (Nat.not_lt.mpr small)

/-- A component at the end of the text is taken, and the loop goes on with nothing. -/
theorem parseLoop_last {component : List UInt8} (reads : Component component octet)
    (present : component ≠ []) :
    parseLoop (count + 1) component = (parseLoop count []).after octet := by
  cases reads with
  | missing => exact absurd rfl present
  | number spaces numeral blank small =>
    have converted := strtoul_numeral spaces numeral [] blank stops_nil
    rw [List.append_nil] at converted
    rw [parseLoop_read _ _ present, converted]
    exact if_neg (Nat.not_lt.mpr small)

/-- What the loop can do with a text that is not at its end: it takes a component in front of a dot
or at the end, or it rejects the text. -/
theorem parseLoop_cases {text : List UInt8} (present : text ≠ []) :
    (∃ component rest octet, Component component octet ∧ text = component ++ 46 :: rest) ∨
      (∃ octet, Component text octet) ∨ parseLoop (count + 1) text = .rejected := by
  rw [parseLoop_read count text present]
  unfold strtoul
  cases read : scan text with
  | none =>
    -- Nothing was taken, so the text itself has to start with a dot.
    simp only [advance]
    rw [if_neg (by decide)]
    split
    case h_1 => exact absurd rfl present
    case h_2 rest => exact Or.inl ⟨[], rest, 0, .missing, rfl⟩
    case h_3 => exact Or.inr (Or.inr rfl)
  | some result =>
    obtain ⟨negative, magnitude, left⟩ := result
    obtain ⟨spaces, numeral, blank, rfl, rfl, rfl⟩ := scan_split read
    simp only [advance]
    split
    case isTrue => exact Or.inr (Or.inr rfl)
    case isFalse within =>
      have reads := Component.number spaces numeral blank (Nat.not_lt.mp within)
      split
      case h_1 =>
        rw [List.append_nil]
        exact Or.inr (Or.inl ⟨_, reads⟩)
      case h_2 rest => exact Or.inl ⟨spaces ++ numeral.text, rest, _, reads, rfl⟩
      case h_3 => exact Or.inr (Or.inr rfl)

/-- Storing a number in front finds an address exactly if the rest does. -/
theorem after_eq_found (octet : UInt8) (outcome : Outcome) (octets : List UInt8) :
    outcome.after octet = .found octets ↔
      ∃ others, outcome = .found others ∧ octets = octet :: others := by
  cases outcome with
  | found others =>
    simp only [Outcome.after, Outcome.found.injEq]
    constructor
    · exact fun same => ⟨others, rfl, same.symm⟩
    · rintro ⟨_, rfl, rfl⟩
      rfl
  | rejected | aborted => simp [Outcome.after]

theorem after_eq_aborted (octet : UInt8) (outcome : Outcome) :
    outcome.after octet = .aborted ↔ outcome = .aborted := by
  cases outcome <;> simp [Outcome.after]

/-- The loop finds an address exactly if the text starts with so many components. The induction is
on the components that are still to be read, and on how the text starts with them. -/
theorem parseLoop_found_iff (text octets : List UInt8) :
    parseLoop count text = .found octets ↔ Begins count text octets := by
  constructor
  · intro found
    induction count generalizing text octets with
    | zero =>
      cases found
      exact .enough text
    | succ count inductionHypothesis =>
      by_cases present : text = []
      · rw [present] at found
        cases found
      · rcases parseLoop_cases count present with
          ⟨component, rest, octet, reads, rfl⟩ | ⟨octet, reads⟩ | rejected
        · rw [parseLoop_dot count rest reads] at found
          obtain ⟨others, later, rfl⟩ := (after_eq_found _ _ _).mp found
          exact .dot count component rest others octet reads (inductionHypothesis rest others later)
        · rw [parseLoop_last count reads present] at found
          obtain ⟨others, later, rfl⟩ := (after_eq_found _ _ _).mp found
          cases count with
          | zero =>
            cases later
            exact .last text octet reads present
          | succ => cases later
        · rw [rejected] at found
          cases found
  · intro begins
    induction begins with
    | enough => rfl
    | last _ _ reads present =>
      rw [parseLoop_last 0 reads present]
      rfl
    | dot count _ rest _ _ reads _ inductionHypothesis =>
      rw [parseLoop_dot count rest reads, inductionHypothesis]
      rfl

/-- The assertion fails exactly if the text consists of too few components. -/
theorem parseLoop_aborted_iff (text : List UInt8) :
    parseLoop count text = .aborted ↔ Short count text := by
  constructor
  · intro aborted
    induction count generalizing text with
    | zero => cases aborted
    | succ count inductionHypothesis =>
      by_cases present : text = []
      · rw [present]
        exact .ends count
      · rcases parseLoop_cases count present with
          ⟨component, rest, octet, reads, rfl⟩ | ⟨octet, reads⟩ | rejected
        · rw [parseLoop_dot count rest reads, after_eq_aborted] at aborted
          exact .dot count component rest octet reads (inductionHypothesis rest aborted)
        · rw [parseLoop_last count reads present, after_eq_aborted] at aborted
          cases count with
          | zero => cases aborted
          | succ count => exact .last count text octet reads present
        · rw [rejected] at aborted
          cases aborted
  · intro short
    induction short with
    | ends => rfl
    | last count _ _ reads present =>
      rw [parseLoop_last (count + 1) reads present]
      rfl
    | dot count _ rest _ reads _ inductionHypothesis =>
      rw [parseLoop_dot count rest reads, inductionHypothesis]
      rfl

/-- A number from 0 to 255 is taken as it is. -/
theorem taken_of_value {numeral : Numeral} (same : numeral.value = octet.toNat) :
    taken numeral = octet.toNat := by
  have small : octet.toNat < 256 := octet.toNat_lt
  unfold Numeral.value at same
  unfold taken unsignedLong
  cases negative : numeral.negative with
  | false =>
    rw [negative, if_neg Bool.false_ne_true] at same
    rw [if_neg (by omega), if_neg Bool.false_ne_true]
    omega
  | true =>
    rw [negative, if_pos rfl] at same
    rw [if_neg (by omega), if_pos rfl]
    omega

theorem component_of_value {numeral : Numeral} (same : numeral.value = octet.toNat) :
    Component numeral.text octet := by
  have value := taken_of_value same
  have small : taken numeral ≤ 256 := by
    rw [value]
    exact Nat.le_of_lt octet.toNat_lt
  have reads := Component.number [] numeral (fun _ member => absurd member List.not_mem_nil) small
  rwa [value, UInt8.ofNat_toNat, List.nil_append] at reads

/-- No byte of a number is zero, and none is a dot. -/
theorem text_plain (numeral : Numeral) : 0 ∉ numeral.text ∧ 46 ∉ numeral.text := by
  constructor
  · intro member
    rcases numeral.text_bytes 0 member with plus | minus | digit
    · cases plus
    · cases minus
    · cases digit
  · intro member
    rcases numeral.text_bytes 46 member with plus | minus | digit
    · cases plus
    · cases minus
    · cases digit

theorem Quad.cText_eq (quad : Quad host octets) : cText host = host := by
  obtain ⟨first, second, third, fourth, a, b, c, d, _, _, _, _, _, rfl⟩ := quad
  refine (cut_none 0 _ ?_).1
  simp [(text_plain first).1, (text_plain second).1, (text_plain third).1, (text_plain fourth).1]

theorem Quad.dots (quad : Quad host octets) : host.count 46 = 3 := by
  obtain ⟨first, second, third, fourth, a, b, c, d, _, _, _, _, _, rfl⟩ := quad
  simp [List.count_eq_zero_of_not_mem (text_plain first).2,
    List.count_eq_zero_of_not_mem (text_plain second).2,
    List.count_eq_zero_of_not_mem (text_plain third).2,
    List.count_eq_zero_of_not_mem (text_plain fourth).2]

/-- The first number of a dotted quad is converted to an octet. -/
theorem Quad.first_le (quad : Quad host octets) :
    (strtoul host).1 % 2 ^ 32 ≤ 255 := by
  obtain ⟨first, second, third, fourth, a, b, c, d, value, _, _, _, _, rfl⟩ := quad
  have converted := strtoul_numeral [] first (46 :: (second.text ++ 46 :: (third.text ++
    46 :: fourth.text))) (fun _ member => absurd member List.not_mem_nil) (stops_dot _)
  rw [List.nil_append] at converted
  rw [converted]
  change taken first ≤ 255
  rw [taken_of_value value]
  exact Nat.le_of_lt_succ a.toNat_lt

/-- A dotted quad starts with four components, its octets. -/
theorem Quad.begins (quad : Quad host octets) :
    Begins 4 host octets := by
  obtain ⟨first, second, third, fourth, a, b, c, d, va, vb, vc, vd, rfl, rfl⟩ := quad
  have present : fourth.text ≠ [] := by
    obtain ⟨byte, tail, front, _⟩ := fourth.text_front
    rw [front]
    exact List.cons_ne_nil byte tail
  exact .dot 3 _ _ _ a (component_of_value va) (.dot 2 _ _ _ b
    (component_of_value vb) (.dot 1 _ _ _ c (component_of_value vc)
      (.last _ d (component_of_value vd) present)))

/-- For every host: an address is found exactly if the text starts with four components, and the
process is ended exactly if it consists of fewer. What is meant of `parseip` holds exactly for the
dotted quads, and for the strings that neither start with four components nor consist of fewer. -/
theorem parseip_meets_iff (gethostbyname : List UInt8 → Option (List UInt8))
    (host : List UInt8) :
    (∀ octets, parseip host = .found octets ↔ Begins 4 (cText host) octets) ∧
      (parseip host = .aborted ↔ Short 4 (cText host)) ∧
      (Meets gethostbyname host ↔ (∃ octets, Quad host octets) ∨
        (¬∃ octets, Begins 4 (cText host) octets) ∧ ¬Short 4 (cText host)) := by
  have found := parseLoop_found_iff 4 (cText host)
  have aborted := parseLoop_aborted_iff 4 (cText host)
  refine ⟨found, aborted, ?_⟩
  constructor
  · rintro ⟨_, otherwise_⟩
    by_cases quad : ∃ octets, Quad host octets
    · exact Or.inl quad
    · have rejected := (otherwise_ fun octets is => quad ⟨octets, is⟩).1
      refine Or.inr ⟨?_, ?_⟩
      · rintro ⟨octets, begins⟩
        have same := rejected.symm.trans ((found octets).mpr begins)
        cases same
      · intro short
        have same := rejected.symm.trans (aborted.mpr short)
        cases same
  · intro condition
    refine ⟨?_, ?_⟩
    · intro octets quad
      refine (found octets).mpr ?_
      rw [quad.cText_eq]
      exact quad.begins
    · intro noQuad
      rcases condition with ⟨octets, quad⟩ | ⟨noAddress, long⟩
      · exact absurd quad (noQuad octets)
      · have rejected : parseip host = .rejected := by
          cases outcome : parseip host with
          | found octets => exact absurd ⟨octets, (found octets).mp outcome⟩ noAddress
          | rejected => rfl
          | aborted => exact absurd (aborted.mp outcome) long
        refine ⟨rejected, ?_⟩
        unfold hostToIp
        rw [rejected]
        cases gethostbyname (cText host) <;> rfl

/-- A text of three numbers ends the process, and so does the empty one. A first number of 256 is
taken for zero, and a fifth number is ignored, although neither string is a dotted quad. -/
theorem parseip_not_exact :
    parseip (ascii "1.2.3") = .aborted ∧ parseip (ascii "") = .aborted ∧
      (parseip (ascii "256.1.1.1") = .found [0, 1, 1, 1] ∧
        ∀ octets, ¬Quad (ascii "256.1.1.1") octets) ∧
      (parseip (ascii "1.2.3.4.5") = .found [1, 2, 3, 4] ∧
        ∀ octets, ¬Quad (ascii "1.2.3.4.5") octets) := by
  refine ⟨by decide, by decide, ⟨by decide, fun octets quad => ?_⟩, by decide, fun octets quad => ?_⟩
  · exact absurd quad.first_le (by decide)
  · exact absurd quad.dots (by decide)

end Mola.HostNames
