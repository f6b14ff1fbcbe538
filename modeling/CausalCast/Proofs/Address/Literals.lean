import CausalCast.Address.Parser
import Mathlib.Tactic.Common

/-!
# Which texts are address literals

The IPv4 literals are the texts in which IPv4 hosts are shown: each literal is
read as the host that is shown by it, and there are no others.  An IPv6 literal
holds a colon, and is therefore no IPv4 literal.
-/

namespace CausalCast

/-! ## Digits at the front -/

/-- No decimal digit stands at the front of a text. -/
def Undigited (text : List Char) : Prop :=
  ∀ character, text.head? = some character →
    hexDigitValue? 10 character = none

theorem hexDigitValue?_eq_some_iff {character : Char} {digit : Nat} :
    hexDigitValue? 10 character = some digit ↔
      digit < 10 ∧ character = digit.digitChar := by
  constructor
  · intro read
    unfold hexDigitValue? at read
    obtain ⟨value, small⟩ := Option.filter_eq_some_iff.mp read
    have small : digit < 10 := by simpa using small
    refine ⟨small, ?_⟩
    split at value
    case isTrue range =>
        obtain ⟨low, high⟩ := range
        obtain rfl := Option.some.inj value
        apply Char.toNat_inj.mp
        rw [Nat.toNat_digitChar_of_lt_ten small]
        have low : '0'.toNat ≤ character.toNat := low
        change 48 ≤ character.toNat at low
        change character.toNat = 48 + (character.toNat - 48)
        omega
    case isFalse =>
        split at value
        · obtain rfl := Option.some.inj value
          omega
        · split at value
          · obtain rfl := Option.some.inj value
            omega
          · contradiction
  · rintro ⟨small, rfl⟩
    decide +revert

theorem undigited_cons {character : Char}
    (other : hexDigitValue? 10 character = none) (rest : List Char) :
    Undigited (character :: rest) := by
  rintro _ ⟨rfl⟩
  exact other

theorem undigited_nil : Undigited [] := by
  rintro _ ⟨⟩

theorem takeDigits_of_undigited {rest : List Char} (stops : Undigited rest) :
    takeDigits 10 rest = ([], rest) := by
  cases rest with
  | nil => rfl
  | cons character rest => rw [takeDigits, stops character rfl]

theorem takeDigits_append {digits : List Nat}
    (small : ∀ digit ∈ digits, digit < 10) {rest : List Char}
    (stops : Undigited rest) :
    takeDigits 10 (digits.map Nat.digitChar ++ rest) = (digits, rest) := by
  induction digits with
  | nil => exact takeDigits_of_undigited stops
  | cons digit digits induction =>
      obtain ⟨here, there⟩ := List.forall_mem_cons.mp small
      have read := hexDigitValue?_eq_some_iff.mpr
        ⟨here, Eq.refl digit.digitChar⟩
      rw [List.map_cons, List.cons_append, takeDigits, read, induction there]

theorem of_takeDigits {text rest : List Char} {digits : List Nat}
    (taken : takeDigits 10 text = (digits, rest)) :
    text = digits.map Nat.digitChar ++ rest ∧
      (∀ digit ∈ digits, digit < 10) ∧ Undigited rest := by
  induction text generalizing digits with
  | nil =>
      obtain ⟨rfl, rfl⟩ := Prod.mk.inj taken
      exact ⟨rfl, List.forall_mem_nil _, undigited_nil⟩
  | cons character text induction =>
      rw [takeDigits] at taken
      cases read : hexDigitValue? 10 character with
      | none =>
          rw [read] at taken
          obtain ⟨rfl, rfl⟩ := Prod.mk.inj taken
          exact ⟨rfl, List.forall_mem_nil _, undigited_cons read text⟩
      | some digit =>
          rw [read] at taken
          obtain ⟨rfl, rfl⟩ := Prod.mk.inj taken
          obtain ⟨small, rfl⟩ := hexDigitValue?_eq_some_iff.mp read
          obtain ⟨split, others, stops⟩ := induction rfl
          refine ⟨congrArg _ split, ?_, stops⟩
          exact List.forall_mem_cons.mpr ⟨small, others⟩

theorem takeDigits_suffix (base : Nat) (text : List Char) :
    (takeDigits base text).2 <:+ text := by
  induction text with
  | nil => exact List.suffix_refl _
  | cons character text induction =>
      rw [takeDigits]
      split
      · exact induction.trans (List.suffix_cons _ _)
      · exact List.suffix_refl _

theorem takeNumber?_rest {base width bound value : Nat} {leadingZeros : Bool}
    {text rest : List Char}
    (read : takeNumber? base width bound leadingZeros text =
      some (value, rest)) : (takeDigits base text).2 = rest := by
  unfold takeNumber? at read
  cases taken : takeDigits base text with
  | mk digits remainder =>
      rw [taken] at read
      dsimp only at read
      split at read
      · contradiction
      · split at read
        · contradiction
        · exact (Prod.mk.inj (Option.some.inj read)).2

theorem takeNumber?_suffix {base width bound value : Nat} {leadingZeros : Bool}
    {text rest : List Char}
    (read : takeNumber? base width bound leadingZeros text =
      some (value, rest)) : rest <:+ text := by
  rw [← takeNumber?_rest read]
  exact takeDigits_suffix base text

/-! ## Decimal numbers -/

/-- The number that digits denote when they follow those of a number. -/
def numberAfter (value : Nat) (digits : List Nat) : Nat :=
  digits.foldl (fun value digit => 10 * value + digit) value

/-- The digits of a number, without leading zeros. -/
structure DigitsOf (value : Nat) (digits : List Nat) : Prop where
  inhabited : digits ≠ []
  small : ∀ digit ∈ digits, digit < 10
  number : numberAfter 0 digits = value
  plain : digits.head? = some 0 → digits.length = 1

theorem foldl_min {bound : Nat} (value : Nat) (digits : List Nat) :
    digits.foldl (fun value digit => min bound (10 * value + digit))
        (min bound value) =
      min bound (numberAfter value digits) := by
  induction digits generalizing value with
  | nil => rfl
  | cons digit digits induction =>
      have cut : min bound (10 * min bound value + digit) =
          min bound (10 * value + digit) := by
        omega
      rw [List.foldl_cons, cut, induction]
      rfl

theorem decimal_append {value : Nat} (positive : 0 < value) {digits : List Nat}
    (small : ∀ digit ∈ digits, digit < 10) :
    Text.decimal value ++ digits.map Nat.digitChar =
      Text.decimal (numberAfter value digits) := by
  induction digits generalizing value with
  | nil => exact List.append_nil _
  | cons digit digits induction =>
      obtain ⟨here, there⟩ := List.forall_mem_cons.mp small
      have longer : Text.decimal value ++ [digit.digitChar] =
          Text.decimal (10 * value + digit) := by
        unfold Text.decimal
        rw [← Nat.toDigits_append_toDigits (by decide) positive here,
          Nat.toDigits_of_lt_base here]
      have later : Text.decimal (10 * value + digit) ++
          digits.map Nat.digitChar =
            Text.decimal (numberAfter (10 * value + digit) digits) :=
        induction (by omega) there
      calc Text.decimal value ++ (digit :: digits).map Nat.digitChar
          = Text.decimal value ++ [digit.digitChar] ++
              digits.map Nat.digitChar := by simp
        _ = Text.decimal (numberAfter value (digit :: digits)) := by
            rw [longer, later]
            rfl

theorem DigitsOf.decimal_eq {value : Nat} {digits : List Nat}
    (made : DigitsOf value digits) :
    Text.decimal value = digits.map Nat.digitChar := by
  cases digits with
  | nil => exact absurd rfl made.inhabited
  | cons first digits =>
      obtain ⟨here, there⟩ := List.forall_mem_cons.mp made.small
      have single : Text.decimal first = [first.digitChar] :=
        Nat.toDigits_of_lt_base here
      have number : numberAfter first digits = value := by
        simpa [numberAfter] using made.number
      rcases Nat.eq_zero_or_pos first with rfl | positive
      · obtain rfl : digits = [] := by
          simpa using made.plain rfl
        obtain rfl : 0 = value := number
        exact single
      · rw [← number, ← decimal_append positive there, single]
        rfl

theorem exists_digitsOf (value : Nat) : ∃ digits, DigitsOf value digits := by
  induction value using Nat.strongRecOn with
  | ind value induction =>
      by_cases short : value < 10
      · refine ⟨[value], by simp, by simpa using short, ?_, fun _ => rfl⟩
        simp [numberAfter]
      · obtain ⟨digits, made⟩ := induction (value / 10) (by omega)
        refine ⟨digits ++ [value % 10], by simp, ?_, ?_, ?_⟩
        · intro digit listed
          rcases List.mem_append.mp listed with early | last
          · exact made.small digit early
          · obtain rfl := List.mem_singleton.mp last
            omega
        · have front : digits.foldl (fun value digit => 10 * value + digit) 0 =
              value / 10 := made.number
          rw [numberAfter, List.foldl_append, front]
          simp only [List.foldl_cons, List.foldl_nil]
          omega
        · intro zero
          obtain ⟨first, others, rfl⟩ :=
            List.exists_cons_of_ne_nil made.inhabited
          obtain rfl : first = 0 := Option.some.inj zero
          have alone : others = [] := by simpa using made.plain rfl
          have small := made.number
          rw [alone] at small
          change 0 = value / 10 at small
          omega

/-- The numbers that are read are those with a limited number of digits, below
a bound. -/
theorem takeNumber?_eq_some_iff {width bound value : Nat}
    {text rest : List Char} :
    takeNumber? 10 width bound false text = some (value, rest) ↔
      (text = Text.decimal value ++ rest ∧ Undigited rest) ∧
        (Text.decimal value).length ≤ width ∧ value < bound := by
  have cut : ∀ digits : List Nat,
      digits.foldl (fun value digit => min bound (10 * value + digit)) 0 =
        min bound (numberAfter 0 digits) := by
    intro digits
    rw [← foldl_min, Nat.min_zero]
  constructor
  · intro read
    unfold takeNumber? at read
    cases taken : takeDigits 10 text with
    | mk digits remainder =>
        obtain ⟨split, small, stops⟩ := of_takeDigits taken
        simp only [taken, cut, Bool.or_eq_true, List.isEmpty_iff,
          decide_eq_true_eq, Bool.and_eq_true, Bool.not_false, true_and,
          beq_iff_eq] at read
        split at read
        · contradiction
        case isFalse fits =>
            split at read
            · contradiction
            case isFalse plain =>
                simp only [not_or, Nat.not_lt, Nat.not_le] at fits
                obtain ⟨⟨inhabited, short⟩, below⟩ := fits
                have length := List.length_pos_iff.mpr inhabited
                obtain ⟨number, rfl⟩ := Prod.mk.inj (Option.some.inj read)
                have made : DigitsOf value digits := by
                  refine ⟨inhabited, small, by omega, ?_⟩
                  intro zero
                  by_contra other
                  exact plain ⟨zero, by omega⟩
                rw [made.decimal_eq, List.length_map]
                exact ⟨⟨split, stops⟩, short, by omega⟩
  · rintro ⟨⟨rfl, stops⟩, short, below⟩
    obtain ⟨digits, made⟩ := exists_digitsOf value
    rw [made.decimal_eq, List.length_map] at short
    rw [made.decimal_eq]
    have taken := takeDigits_append made.small stops
    have number := made.number
    have fits : ¬((digits = [] ∨ width < digits.length) ∨
        bound ≤ min bound (numberAfter 0 digits)) := by
      rintro ((empty | long) | large)
      · exact made.inhabited empty
      · omega
      · omega
    have plain : ¬(digits.head? = some 0 ∧ 1 < digits.length) := by
      rintro ⟨zero, several⟩
      have single := made.plain zero
      omega
    unfold takeNumber?
    simp only [taken, cut, Bool.or_eq_true, List.isEmpty_iff,
      decide_eq_true_eq, Bool.and_eq_true, Bool.not_false, true_and,
      beq_iff_eq]
    rw [if_neg fits, if_neg plain, number, Nat.min_eq_right (by omega)]

/-! ## IPv4 literals -/

theorem takeChar?_eq_some_iff {expected : Char} {text rest : List Char} :
    takeChar? expected text = some rest ↔ text = expected :: rest := by
  cases text with
  | nil => simp [takeChar?]
  | cons character text =>
      rw [takeChar?]
      split
      case isTrue same => simp [same]
      case isFalse other => simp [other]

namespace IPv4

theorem takeByte?_eq_some_iff {text rest : List Char} {byte : UInt8} :
    takeByte? text = some (byte, rest) ↔
      text = Text.decimal byte.toNat ++ rest ∧ Undigited rest := by
  unfold takeByte?
  rw [Option.map_eq_some_iff]
  constructor
  · rintro ⟨⟨value, remainder⟩, read, same⟩
    obtain ⟨rfl, rfl⟩ := Prod.mk.inj same
    obtain ⟨front, _, small⟩ := takeNumber?_eq_some_iff.mp read
    rwa [UInt8.toNat_ofNat_of_lt' small]
  · intro front
    have small := byte.toNat_lt
    have short : (Text.decimal byte.toNat).length ≤ 3 := by
      apply (Nat.length_toDigits_le_iff (by decide) (by decide)).mpr
      omega
    refine ⟨(byte.toNat, rest), ?_, by simp⟩
    exact takeNumber?_eq_some_iff.mpr ⟨front, short, small⟩

theorem toText_toList (host : IPv4) :
    host.toText.toList =
      Text.decimal host.a.toNat ++ '.' :: (Text.decimal host.b.toNat ++
        '.' :: (Text.decimal host.c.toNat ++
          '.' :: Text.decimal host.d.toNat)) := by
  simp [toText, Text.decimal, Nat.repr_eq_ofList_toDigits, toString]

theorem take?_eq_some_iff {text rest : List Char} {host : IPv4} :
    take? text = some (host, rest) ↔
      text = host.toText.toList ++ rest ∧ Undigited rest := by
  have undotted : ∀ text, Undigited ('.' :: text) :=
    undigited_cons (by decide)
  rw [toText_toList]
  constructor
  · intro read
    simp only [take?, Option.bind_eq_bind, Option.bind_eq_some_iff,
      Option.pure_def, Option.some.injEq, Prod.exists, Prod.mk.injEq,
      takeByte?_eq_some_iff, takeChar?_eq_some_iff] at read
    obtain ⟨a, _, ⟨rfl, _⟩, _, rfl, b, _, ⟨rfl, _⟩, _, rfl, c, _, ⟨rfl, _⟩, _,
      rfl, d, _, ⟨rfl, stops⟩, rfl, rfl⟩ := read
    refine ⟨?_, stops⟩
    simp
  · rintro ⟨rfl, stops⟩
    have dotted : ∀ (byte : UInt8) (text : List Char),
        takeByte? (Text.decimal byte.toNat ++ '.' :: text) =
          some (byte, '.' :: text) :=
      fun _ text => takeByte?_eq_some_iff.mpr ⟨rfl, undotted text⟩
    have last : takeByte? (Text.decimal host.d.toNat ++ rest) =
        some (host.d, rest) := takeByte?_eq_some_iff.mpr ⟨rfl, stops⟩
    simp [take?, takeChar?, dotted, last]

theorem parse?_eq_some_iff {text : List Char} {host : IPv4} :
    parse? text = some host ↔ text = host.toText.toList := by
  have whole : parse? text = some host ↔ take? text = some (host, []) := by
    unfold parse?
    split
    case h_1 found read => simp [read]
    case h_2 other =>
      constructor
      · exact fun absent => by contradiction
      · exact fun read => absurd read (other host)
  rw [whole, take?_eq_some_iff, List.append_nil]
  exact and_iff_left undigited_nil

theorem take?_suffix {text rest : List Char} {host : IPv4}
    (read : take? text = some (host, rest)) : rest <:+ text := by
  obtain ⟨rfl, _⟩ := take?_eq_some_iff.mp read
  exact List.suffix_append _ _

theorem parse?_of_colon {text : List Char} (colon : ':' ∈ text) :
    parse? text = none := by
  cases read : parse? text with
  | none => rfl
  | some host =>
      have shown := parse?_eq_some_iff.mp read
      have absent : ∀ value, ':' ∉ Text.decimal value := by
        intro value listed
        have digit := Nat.isDigit_of_mem_toDigits (by decide) (by decide) listed
        contradiction
      rw [shown, toText_toList] at colon
      simp [absent] at colon

end IPv4

/-! ## IPv6 literals -/

namespace IPv6

/-- Where the first group of a text begins, or a later one after its colon. -/
def Opens (isFirst : Bool) (text entry : List Char) : Prop :=
  if isFirst then text = entry else text = ':' :: entry

/-- What reading groups can come to: no group is there, an IPv4 literal ends the
reading, or a group is followed by what is read after it. -/
inductive Taken (isFirst : Bool) (room : Nat) (text : List Char) :
    List UInt16 × List Char × Bool → Prop where
  | nothing : Taken isFirst room text ([], text, false)
  | host {entry rest : List Char} {host : IPv4}
      (opens : Opens isFirst text entry) (left : rest <:+ entry) :
      Taken isFirst room text (groupsOf host, rest, true)
  | group {entry rest final : List Char} {value : UInt16}
      {groups : List UInt16} {embedded : Bool}
      (opens : Opens isFirst text entry) (left : rest <:+ entry)
      (later : takeGroups false room rest = (groups, final, embedded)) :
      Taken isFirst room text (value :: groups, final, embedded)

theorem taken_takeGroups (isFirst : Bool) (room : Nat) (text : List Char) :
    Taken isFirst room text (takeGroups isFirst (room + 1) text) := by
  have opened : ∀ {entry},
      (if isFirst then some text else takeChar? ':' text) = some entry →
        Opens isFirst text entry := by
    intro entry found
    unfold Opens
    cases isFirst
    · exact takeChar?_eq_some_iff.mp found
    · exact Option.some.inj found
  rw [takeGroups]
  dsimp only
  split
  case h_1 host rest inner =>
      split at inner
      · contradiction
      · obtain ⟨entry, found, read⟩ := Option.bind_eq_some_iff.mp inner
        exact .host (opened found) (IPv4.take?_suffix read)
  case h_2 =>
      split
      case h_1 value rest read =>
          obtain ⟨entry, found, read⟩ := Option.bind_eq_some_iff.mp read
          exact .group (opened found) (takeNumber?_suffix read) rfl
      case h_2 => exact .nothing

theorem Opens.suffix {isFirst : Bool} {text entry : List Char}
    (opens : Opens isFirst text entry) : entry <:+ text := by
  unfold Opens at opens
  cases isFirst
  · obtain rfl := opens
    exact List.suffix_cons _ _
  · obtain rfl := opens
    exact List.suffix_refl _

theorem takeGroups_suffix (isFirst : Bool) (room : Nat) (text : List Char) :
    (takeGroups isFirst room text).2.1 <:+ text := by
  induction room generalizing isFirst text with
  | zero => exact List.suffix_refl _
  | succ room induction =>
      have taken := taken_takeGroups isFirst room text
      generalize takeGroups isFirst (room + 1) text = found at taken ⊢
      cases taken with
      | nothing => exact List.suffix_refl _
      | host opens left => exact left.trans opens.suffix
      | @group _ middle _ _ _ _ opens left later =>
          have final := induction false middle
          rw [later] at final
          exact final.trans (left.trans opens.suffix)

theorem colon_of_later {room : Nat} {text : List Char}
    (some : (takeGroups false (room + 1) text).1 ≠ []) : ':' ∈ text := by
  have taken := taken_takeGroups false room text
  generalize takeGroups false (room + 1) text = found at some taken
  cases taken with
  | nothing => contradiction
  | host opens | group opens =>
      obtain rfl := opens
      exact List.mem_cons_self

/-- Eight groups have colons between them, and fewer are not enough without a
double colon. -/
theorem colon_of_take? {text rest : List Char} {host : IPv6}
    (read : take? text = some (host, rest)) : ':' ∈ text := by
  unfold take? at read
  have suffix := takeGroups_suffix true 8 text
  have taken := taken_takeGroups true 7 text
  generalize takeGroups true 8 text = found at *
  obtain ⟨before, left, embedded⟩ := found
  dsimp only at read
  split at read
  case isTrue full =>
      cases taken with
      | nothing => contradiction
      | host =>
          change 2 = 8 at full
          contradiction
      | @group _ middle _ _ _ _ opens front later =>
          have some : (takeGroups false 7 middle).1 ≠ [] := by
            rw [later]
            rintro rfl
            simp at full
          exact (front.trans opens.suffix).mem (colon_of_later some)
  case isFalse =>
      split at read
      · contradiction
      · obtain ⟨_, colon, _⟩ := Option.bind_eq_some_iff.mp read
        obtain rfl := takeChar?_eq_some_iff.mp colon
        exact suffix.mem List.mem_cons_self

theorem colon_of_parse? {text : List Char} {host : IPv6}
    (read : parse? text = some host) : ':' ∈ text := by
  unfold parse? at read
  split at read
  case h_1 taken => exact colon_of_take? taken
  case h_2 => contradiction

end IPv6

end CausalCast
