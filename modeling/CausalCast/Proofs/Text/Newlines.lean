import CausalCast.Text.Utf8
import Mathlib.Data.List.Count

/-!
# Newlines in encoded text

The byte of a newline stands for a newline wherever it occurs: no longer
sequence contains it, and a malformed stretch ends before it.  So reading bytes
as text, replacing what is malformed and writing the text down again neither
adds newlines nor loses any.
-/

namespace CausalCast.Text.Utf8

def newline : UInt8 := 10

/-! ## Writing -/

theorem ofNat_add_ne_newline {offset bits : Nat} (high : 0x80 ≤ offset)
    (small : offset + bits < 256) :
    UInt8.ofNat (offset + bits) ≠ newline := by
  intro same
  have value := congrArg UInt8.toNat same
  rw [UInt8.toNat_ofNat_of_lt' small] at value
  change offset + bits = 10 at value
  omega

theorem newline_not_mem_encodeChar {character : Char}
    (long : 0x80 ≤ character.toNat) : newline ∉ encodeChar character := by
  have bound : character.toNat < 0x110000 := by
    rcases character.valid with low | ⟨_, high⟩
    · exact Nat.lt_trans low (by decide)
    · exact high
  unfold encodeChar
  generalize character.toNat = value at long bound
  dsimp only
  intro member
  split at member
  case isTrue single => omega
  case isFalse =>
      split at member
      case isTrue =>
          simp only [List.mem_cons, List.not_mem_nil, or_false] at member
          rcases member with same | same <;>
            exact ofNat_add_ne_newline (by decide) (by omega) same.symm
      case isFalse =>
          split at member
          case isTrue =>
              simp only [List.mem_cons, List.not_mem_nil, or_false] at member
              rcases member with same | same | same <;>
                exact ofNat_add_ne_newline (by decide) (by omega) same.symm
          case isFalse =>
              simp only [List.mem_cons, List.not_mem_nil, or_false] at member
              rcases member with same | same | same | same <;>
                exact ofNat_add_ne_newline (by decide) (by omega) same.symm

theorem count_encodeChar (character : Char) :
    (encodeChar character).count newline =
      if character = '\n' then 1 else 0 := by
  by_cases long : 0x80 ≤ character.toNat
  case pos =>
      have different : character ≠ '\n' := by
        rintro rfl
        contradiction
      rw [if_neg different]
      exact List.count_eq_zero.mpr (newline_not_mem_encodeChar long)
  case neg =>
      have single : encodeChar character = [UInt8.ofNat character.toNat] := by
        simp [encodeChar, Nat.lt_of_not_le long]
      rw [single, List.count_singleton]
      by_cases same : character = '\n'
      · rw [if_pos same, same]
        rfl
      · rw [if_neg same, if_neg]
        intro equal
        have value := congrArg UInt8.toNat (beq_iff_eq.mp equal)
        have small := Nat.lt_trans (Nat.lt_of_not_le long)
          (by decide : 0x80 < UInt8.size)
        rw [UInt8.toNat_ofNat_of_lt' small] at value
        exact same (Char.toNat_inj.mp value)

theorem count_encode (text : List Char) :
    (encode text).count newline = text.count '\n' := by
  induction text with
  | nil => rfl
  | cons character rest induction =>
      have split : encode (character :: rest) =
          encodeChar character ++ encode rest := rfl
      rw [split, List.count_append, count_encodeChar, induction,
        List.count_cons, Nat.add_comm]
      simp only [beq_iff_eq]

/-! ## Reading -/

/-- What a leading byte announces: itself, or a longer sequence.  Where its own
bits are 0, the range of the second byte excludes small values. -/
theorem of_lead? {byte low high : UInt8} {value missing : Nat}
    (announced : lead? byte = some (value, missing, low, high)) :
    (missing = 0 ∧ value = byte.toNat) ∨
      (missing ≠ 0 ∧ byte ≠ newline ∧ 0x80 ≤ low ∧ high ≤ 0xBF ∧
        (value = 0 → 0x90 ≤ low)) := by
  have newlineValue : newline.toNat = 10 := rfl
  unfold lead? at announced
  simp only [UInt8.lt_iff_toNat_lt, UInt8.le_iff_toNat_le, UInt8.reduceToNat,
    Ne, ← UInt8.toNat_inj, newlineValue] at announced ⊢
  generalize byte.toNat = lead at announced ⊢
  split at announced
  case isTrue =>
      simp only [Option.some.injEq, Prod.mk.injEq] at announced
      exact .inl ⟨announced.2.1.symm, announced.1.symm⟩
  case isFalse single =>
      refine .inr ?_
      split at announced
      case isTrue => contradiction
      case isFalse =>
          split at announced
          case isTrue =>
              simp only [Option.some.injEq, Prod.mk.injEq] at announced
              obtain ⟨rfl, rfl, rfl, rfl⟩ := announced
              exact ⟨by decide, by omega, by decide, by decide, by omega⟩
          case isFalse =>
              split at announced
              case isTrue =>
                  simp only [Option.some.injEq, Prod.mk.injEq] at announced
                  obtain ⟨rfl, rfl, rfl, rfl⟩ := announced
                  refine ⟨by decide, by omega, by split <;> decide,
                    by split <;> decide, fun zero => ?_⟩
                  rw [if_pos (by omega)]
                  decide
              case isFalse =>
                  split at announced
                  case isFalse => contradiction
                  case isTrue =>
                      simp only [Option.some.injEq, Prod.mk.injEq] at announced
                      obtain ⟨rfl, rfl, rfl, rfl⟩ := announced
                      refine ⟨by decide, by omega, by split <;> decide,
                        by split <;> decide, fun zero => ?_⟩
                      rw [if_pos (by omega)]
                      decide

theorem ne_newline_of_le {byte low : UInt8} (above : low ≤ byte)
    (high : 0x80 ≤ low) : byte ≠ newline := by
  rintro rfl
  exact absurd (UInt8.le_trans high above) (by decide)

theorem ofNat_eq_newline_iff {value : Nat} :
    Char.ofNat value = '\n' ↔ value = 10 := by
  constructor
  · intro same
    by_cases valid : value.isValidChar
    case pos =>
        rw [Char.ofNat, dif_pos valid] at same
        exact congrArg Char.toNat same
    case neg =>
        rw [Char.ofNat, dif_neg valid] at same
        contradiction
  · rintro rfl
    rfl

theorem of_tails {value missing : Nat} {low high : UInt8}
    {bytes rest : List UInt8} {segment : Segment} (above : 0x80 ≤ low)
    (read : tails value missing low high bytes = (segment, rest)) :
    bytes.count newline = rest.count newline ∧
      (segment = .malformed ∨ ∃ result, segment = .scalar result ∧
        value ≤ result) := by
  fun_induction tails value missing low high bytes with
  | case1 value low high bytes =>
      obtain ⟨rfl, rfl⟩ := Prod.mk.inj read
      exact ⟨rfl, .inr ⟨value, rfl, Nat.le_refl _⟩⟩
  | case2 =>
      obtain ⟨rfl, rfl⟩ := Prod.mk.inj read
      exact ⟨rfl, .inl rfl⟩
  | case3 value missing low high byte bytes inRange induction =>
      simp only [Bool.and_eq_true, decide_eq_true_eq] at inRange
      obtain ⟨same, ending⟩ := induction (by decide) read
      refine ⟨?_, ?_⟩
      · rw [List.count_cons_of_ne (ne_newline_of_le inRange.1 above), same]
      · rcases ending with malformed | ⟨result, scalar, larger⟩
        · exact .inl malformed
        · exact .inr ⟨result, scalar, by omega⟩
  | case4 =>
      obtain ⟨rfl, rfl⟩ := Prod.mk.inj read
      exact ⟨rfl, .inl rfl⟩

theorem of_tails_of_lead {value missing : Nat} {low high : UInt8}
    {bytes rest : List UInt8} {segment : Segment} (long : missing ≠ 0)
    (above : 0x80 ≤ low) (below : high ≤ 0xBF)
    (large : value = 0 → 0x90 ≤ low)
    (read : tails value missing low high bytes = (segment, rest)) :
    bytes.count newline = rest.count newline ∧ segment.replaced ≠ '\n' := by
  obtain ⟨same, ending⟩ := of_tails above read
  refine ⟨same, ?_⟩
  obtain ⟨missing, rfl⟩ := Nat.exists_eq_succ_of_ne_zero long
  cases bytes with
  | nil =>
      obtain ⟨rfl, _⟩ := Prod.mk.inj read
      decide
  | cons byte bytes =>
      rw [tails] at read
      split at read
      case isFalse =>
          obtain ⟨rfl, _⟩ := Prod.mk.inj read
          decide
      case isTrue inRange =>
          simp only [Bool.and_eq_true, decide_eq_true_eq,
            UInt8.le_iff_toNat_le, UInt8.reduceToNat] at inRange below large
          rcases (of_tails (by decide) read).2 with rfl | ⟨result, rfl, larger⟩
          · decide
          · rw [Segment.replaced, Ne, ofNat_eq_newline_iff]
            rw [tailBits] at larger
            omega

theorem count_decodeLossy (bytes : List UInt8) :
    (decodeLossy bytes).count '\n' = bytes.count newline := by
  unfold decodeLossy
  fun_induction segments bytes with
  | case1 => rfl
  | case2 byte rest unknown induction =>
      have different : byte ≠ newline := by
        rintro rfl
        contradiction
      rw [List.map_cons, List.count_cons_of_ne (by decide), induction,
        List.count_cons_of_ne different]
  | case3 byte rest value missing low high announced step induction =>
      rw [List.map_cons]
      rcases of_lead? announced with
        ⟨rfl, rfl⟩ | ⟨long, different, above, below, large⟩
      · have single : step = (.scalar byte.toNat, rest) := rfl
        rw [single] at induction ⊢
        have stands : Char.ofNat byte.toNat = '\n' ↔ byte = newline := by
          rw [ofNat_eq_newline_iff, ← UInt8.toNat_inj]
          rfl
        simp only [Segment.replaced, List.count_cons, induction, beq_iff_eq,
          stands]
      · have read : tails value missing low high rest = (step.1, step.2) := rfl
        obtain ⟨same, other⟩ := of_tails_of_lead long above below large read
        rw [List.count_cons_of_ne other, induction, ← same,
          List.count_cons_of_ne different]

end CausalCast.Text.Utf8
