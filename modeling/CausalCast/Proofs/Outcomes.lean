import Mathlib.Data.List.Forall2

/-!
# Results that two relations decide

A reader that may fail is described by two relations: which values it may give,
and which problems it may report.  `Decided` says that it does what they say,
and nothing else.  What is decided part by part is decided as a whole, and a
list whose elements are read one after the other fails at the first element
that cannot be read: the one that it `Reaches`.
-/

namespace CausalCast

variable {α β ε : Type}

theorem bind_eq_ok_iff {result : Except ε α} {next : α → Except ε β}
    {final : β} :
    (result >>= next) = .ok final ↔
      ∃ value, result = .ok value ∧ next value = .ok final := by
  cases result <;> simp [bind, Except.bind]

theorem bind_eq_error_iff {result : Except ε α} {next : α → Except ε β}
    {problem : ε} :
    (result >>= next) = .error problem ↔
      result = .error problem ∨
        ∃ value, result = .ok value ∧ next value = .error problem := by
  cases result <;> simp [bind, Except.bind]

/-- A result is a value or a problem exactly if a relation says so. -/
structure Decided (result : Except ε α) (answer : α → Prop)
    (fault : ε → Prop) : Prop where
  ok_iff : ∀ value, result = .ok value ↔ answer value
  error_iff : ∀ problem, result = .error problem ↔ fault problem

namespace Decided

variable {result : Except ε α} {answer other : α → Prop}
  {fault failing : ε → Prop}

theorem ok (value : α) :
    Decided (.ok value : Except ε α) (· = value) fun _ => False := by
  constructor
  · intro other
    rw [Except.ok.injEq, eq_comm]
  · intro problem
    simp

theorem error (problem : ε) :
    Decided (.error problem : Except ε α) (fun _ => False) (· = problem) := by
  constructor
  · intro value
    simp
  · intro other
    rw [Except.error.injEq, eq_comm]

/-- It is enough that the relations are met and that one of them always says
something. -/
theorem of_total (ok : ∀ value, answer value → result = .ok value)
    (error : ∀ problem, fault problem → result = .error problem)
    (total : (∃ value, answer value) ∨ ∃ problem, fault problem) :
    Decided result answer fault := by
  constructor
  · intro value
    constructor
    · intro given
      rcases total with ⟨other, right⟩ | ⟨problem, wrong⟩
      · rw [ok other right] at given
        rwa [← Except.ok.inj given]
      · rw [error problem wrong] at given
        contradiction
    · exact ok value
  · intro problem
    constructor
    · intro given
      rcases total with ⟨value, right⟩ | ⟨other, wrong⟩
      · rw [ok value right] at given
        contradiction
      · rw [error other wrong] at given
        rwa [← Except.error.inj given]
    · exact error problem

theorem not_fault (decided : Decided result answer fault) {value : α}
    (right : answer value) (problem : ε) : ¬fault problem := by
  intro wrong
  have given := (decided.ok_iff value).mpr right
  rw [(decided.error_iff problem).mpr wrong] at given
  contradiction

theorem congr (decided : Decided result answer fault)
    (answers : ∀ value, answer value ↔ other value)
    (faults : ∀ problem, fault problem ↔ failing problem) :
    Decided result other failing :=
  ⟨fun value => (decided.ok_iff value).trans (answers value),
    fun problem => (decided.error_iff problem).trans (faults problem)⟩

theorem ite {condition : Prop} [Decidable condition] {second : Except ε α}
    (holds : condition → Decided result answer fault)
    (fails : ¬condition → Decided second answer fault) :
    Decided (if condition then result else second) answer fault := by
  split
  case isTrue here => exact holds here
  case isFalse here => exact fails here

theorem bind {next : α → Except ε β} {answerNext : α → β → Prop}
    {faultNext : α → ε → Prop} (decided : Decided result answer fault)
    (nextDecided : ∀ value, answer value →
      Decided (next value) (answerNext value) (faultNext value)) :
    Decided (result >>= next)
      (fun final => ∃ value, answer value ∧ answerNext value final)
      fun problem => fault problem ∨
        ∃ value, answer value ∧ faultNext value problem := by
  constructor
  · intro final
    rw [bind_eq_ok_iff]
    constructor
    · rintro ⟨value, given, made⟩
      have right := (decided.ok_iff value).mp given
      exact ⟨value, right, ((nextDecided value right).ok_iff final).mp made⟩
    · rintro ⟨value, right, made⟩
      have given := (decided.ok_iff value).mpr right
      exact ⟨value, given, ((nextDecided value right).ok_iff final).mpr made⟩
  · intro problem
    rw [bind_eq_error_iff, decided.error_iff]
    apply or_congr_right
    constructor
    · rintro ⟨value, given, failed⟩
      have right := (decided.ok_iff value).mp given
      exact ⟨value, right,
        ((nextDecided value right).error_iff problem).mp failed⟩
    · rintro ⟨value, right, failed⟩
      have given := (decided.ok_iff value).mpr right
      exact ⟨value, given,
        ((nextDecided value right).error_iff problem).mpr failed⟩

end Decided

/-- An element of a list at a position, where each element before it has an
answer. -/
inductive Reaches (answer : α → β → Prop) : List α → Nat → α → Prop where
  | here {element : α} {rest : List α} :
      Reaches answer (element :: rest) 0 element
  | there {first : α} {value : β} {rest : List α} {position : Nat}
      {element : α} (known : answer first value)
      (later : Reaches answer rest position element) :
      Reaches answer (first :: rest) (position + 1) element

end CausalCast
