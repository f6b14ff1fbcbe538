/-!
# First-in first-out sequences

A sequence that grows at one end and shrinks at the other.  It is kept as two
lists, the second one reversed, so that either end is reached without walking
through the whole; `toList` is what it stands for.
-/

namespace CausalCast

/-- A sequence in two lists. -/
structure Fifo (α : Type) where
  front : List α
  back : List α
deriving Repr

namespace Fifo

variable {α : Type}

def empty : Fifo α :=
  ⟨[], []⟩

/-- The elements, the oldest first. -/
def toList (fifo : Fifo α) : List α :=
  fifo.front ++ fifo.back.reverse

def push (fifo : Fifo α) (item : α) : Fifo α :=
  { fifo with back := item :: fifo.back }

def pop? (fifo : Fifo α) : Option (α × Fifo α) :=
  match fifo.front with
  | item :: rest => some (item, { fifo with front := rest })
  | [] =>
      match fifo.back.reverse with
      | item :: rest => some (item, ⟨rest, []⟩)
      | [] => none

@[simp] theorem toList_empty : (empty : Fifo α).toList = [] := rfl

@[simp] theorem toList_push (fifo : Fifo α) (item : α) :
    (fifo.push item).toList = fifo.toList ++ [item] := by
  simp [push, toList]

theorem pop?_eq_none_iff {fifo : Fifo α} :
    fifo.pop? = none ↔ fifo.toList = [] := by
  obtain ⟨front, back⟩ := fifo
  cases front with
  | cons item rest => simp [pop?, toList]
  | nil =>
      simp only [pop?, toList, List.nil_append]
      cases back.reverse <;> simp

theorem toList_of_pop? {fifo rest : Fifo α} {item : α}
    (taken : fifo.pop? = some (item, rest)) :
    fifo.toList = item :: rest.toList := by
  obtain ⟨front, back⟩ := fifo
  cases front with
  | cons head tail =>
      simp only [pop?, Option.some.injEq, Prod.mk.injEq] at taken
      obtain ⟨rfl, rfl⟩ := taken
      simp [toList]
  | nil =>
      simp only [pop?] at taken
      split at taken
      · rename_i head tail reversed
        simp only [Option.some.injEq, Prod.mk.injEq] at taken
        obtain ⟨rfl, rfl⟩ := taken
        simp [toList, reversed]
      · simp at taken

end Fifo

end CausalCast
