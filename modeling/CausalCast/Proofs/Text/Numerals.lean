import CausalCast.Text.Numeral

/-!
# What numerals denote

`Numeral` says which texts are unsigned decimal numerals, and which number each
of them denotes, without a bound.  The reader gives up at its bound and does not
look further; it accepts exactly the numerals of the numbers below that bound.
-/

namespace CausalCast.Text

def IsDigit (character : Char) : Prop :=
  '0' ≤ character ∧ character ≤ '9'

/-- The number that digits denote when they follow the digits of a number. -/
def valueAfter (value : Nat) (digits : List Char) : Nat :=
  digits.foldl (fun value digit => 10 * value + (digit.toNat - '0'.toNat)) value

/-- A text that denotes a number: one digit or more, after at most one plus
sign. -/
inductive Numeral : List Char → Nat → Prop where
  | bare {digits : List Char} (inhabited : digits ≠ [])
      (decimal : ∀ character ∈ digits, IsDigit character) :
      Numeral digits (valueAfter 0 digits)
  | plus {digits : List Char} (inhabited : digits ≠ [])
      (decimal : ∀ character ∈ digits, IsDigit character) :
      Numeral ('+' :: digits) (valueAfter 0 digits)

theorem digitValue?_eq_some_iff {character : Char} {digit : Nat} :
    digitValue? character = some digit ↔
      IsDigit character ∧ digit = character.toNat - '0'.toNat := by
  unfold digitValue?
  split
  case isTrue decimal => simp [IsDigit, decimal, eq_comm]
  case isFalse other => simp [IsDigit, other]

theorem digitsFrom?_eq_some_iff {bound value result : Nat} {text : List Char} :
    digitsFrom? bound (min bound value) text = some result ↔
      (∀ character ∈ text, IsDigit character) ∧
        result = min bound (valueAfter value text) := by
  induction text generalizing value with
  | nil => simp [digitsFrom?, valueAfter, eq_comm]
  | cons character text induction =>
      rw [digitsFrom?, List.forall_mem_cons]
      cases read : digitValue? character with
      | none =>
          have other : ¬IsDigit character := by
            intro decimal
            have found := digitValue?_eq_some_iff.mpr ⟨decimal, rfl⟩
            rw [read] at found
            contradiction
          simp [other]
      | some digit =>
          obtain ⟨decimal, rfl⟩ := digitValue?_eq_some_iff.mp read
          have cut : ∀ digit, min bound (10 * min bound value + digit) =
              min bound (10 * value + digit) := by
            omega
          simp only [cut, induction, decimal, true_and]
          rfl

theorem digits?_eq_some_iff {bound result : Nat} {text : List Char} :
    digits? bound text = some result ↔
      text ≠ [] ∧ (∀ character ∈ text, IsDigit character) ∧
        result = min bound (valueAfter 0 text) := by
  cases text with
  | nil => simp [digits?]
  | cons character text =>
      have read := @digitsFrom?_eq_some_iff bound 0 result (character :: text)
      rw [Nat.min_zero] at read
      simpa [digits?] using read

theorem not_isDigit_plus : ¬IsDigit '+' := by
  unfold IsDigit
  decide

theorem unsigned?_eq_some_iff {bound value : Nat} {text : List Char} :
    unsigned? bound text = some value ↔ Numeral text value ∧ value < bound := by
  have read : ∀ digits, (digits? bound digits).filter (· < bound) = some value ↔
      (digits ≠ [] ∧ ∀ character ∈ digits, IsDigit character) ∧
        value = valueAfter 0 digits ∧ value < bound := by
    intro digits
    rw [Option.filter_eq_some_iff, digits?_eq_some_iff, decide_eq_true_eq]
    constructor
    · rintro ⟨⟨inhabited, decimal, rfl⟩, small⟩
      exact ⟨⟨inhabited, decimal⟩, by omega, small⟩
    · rintro ⟨⟨inhabited, decimal⟩, rfl, small⟩
      exact ⟨⟨inhabited, decimal, by omega⟩, small⟩
  unfold unsigned?
  split
  case h_1 digits =>
      rw [read]
      constructor
      · rintro ⟨⟨inhabited, decimal⟩, rfl, small⟩
        exact ⟨.plus inhabited decimal, small⟩
      · rintro ⟨numeral, small⟩
        cases numeral with
        | bare _ decimal =>
            exact absurd (decimal '+' List.mem_cons_self) not_isDigit_plus
        | plus inhabited decimal => exact ⟨⟨inhabited, decimal⟩, rfl, small⟩
  case h_2 unsigned =>
      rw [read]
      constructor
      · rintro ⟨⟨inhabited, decimal⟩, rfl, small⟩
        exact ⟨.bare inhabited decimal, small⟩
      · rintro ⟨numeral, small⟩
        cases numeral with
        | bare inhabited decimal => exact ⟨⟨inhabited, decimal⟩, rfl, small⟩
        | plus => exact absurd rfl (unsigned _)

theorem unsigned32?_eq_some_iff {text : List Char} {number : UInt32} :
    unsigned32? text = some number ↔ Numeral text number.toNat := by
  unfold unsigned32?
  rw [Option.map_eq_some_iff]
  constructor
  · rintro ⟨value, read, rfl⟩
    obtain ⟨numeral, small⟩ := unsigned?_eq_some_iff.mp read
    rwa [UInt32.toNat_ofNat_of_lt' small]
  · intro numeral
    refine ⟨number.toNat, unsigned?_eq_some_iff.mpr ⟨numeral, ?_⟩, ?_⟩
    · exact number.toNat_lt
    · exact UInt32.ofNat_toNat

theorem unsigned16?_eq_some_iff {text : List Char} {number : UInt16} :
    unsigned16? text = some number ↔ Numeral text number.toNat := by
  unfold unsigned16?
  rw [Option.map_eq_some_iff]
  constructor
  · rintro ⟨value, read, rfl⟩
    obtain ⟨numeral, small⟩ := unsigned?_eq_some_iff.mp read
    rwa [UInt16.toNat_ofNat_of_lt' small]
  · intro numeral
    refine ⟨number.toNat, unsigned?_eq_some_iff.mpr ⟨numeral, ?_⟩, ?_⟩
    · exact number.toNat_lt
    · exact UInt16.ofNat_toNat

end CausalCast.Text
