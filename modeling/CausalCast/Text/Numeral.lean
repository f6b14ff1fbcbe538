/-!
# Decimal numerals

An unsigned numeral is a non-empty run of ASCII digits, after at most one
plus sign, whose value stays below a bound.  Leading zeros are allowed; a
minus sign, a separator and a lone sign are not.
-/

namespace CausalCast.Text

def digitValue? (character : Char) : Option Nat :=
  if '0' ≤ character ∧ character ≤ '9' then
    some (character.toNat - '0'.toNat)
  else none

/-- Read digits from the left, `value` being what was read so far.  A value
that reaches the bound stays there. -/
def digitsFrom? (bound value : Nat) : List Char → Option Nat
  | [] => some value
  | character :: rest =>
      match digitValue? character with
      | some digit => digitsFrom? bound (min bound (10 * value + digit)) rest
      | none => none

/-- The value of a non-empty run of digits, cut down to the bound. -/
def digits? (bound : Nat) : List Char → Option Nat
  | [] => none
  | text => digitsFrom? bound 0 text

/-- The value of an unsigned numeral below `bound`. -/
def unsigned? (bound : Nat) (text : List Char) : Option Nat :=
  let magnitude := match text with
    | '+' :: rest => rest
    | _ => text
  (digits? bound magnitude).filter (· < bound)

def unsigned16? (text : List Char) : Option UInt16 :=
  (unsigned? 0x10000 text).map UInt16.ofNat

def unsigned32? (text : List Char) : Option UInt32 :=
  (unsigned? 0x100000000 text).map UInt32.ofNat

/-- The decimal digits of a number, without leading zeros. -/
def decimal (value : Nat) : List Char :=
  Nat.toDigits 10 value

end CausalCast.Text
