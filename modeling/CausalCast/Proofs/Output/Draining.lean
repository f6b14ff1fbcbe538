import CausalCast.Output
import Mathlib.Data.List.Basic

/-!
# What is left in a writer

The line of an event is written piece by piece, each piece in as many calls as
the writer wants, and any of these calls may fail.  None of this shows in what
the writer has accepted in the end: that is the text of the lines up to the
writer's limit.  Flushes come after the last line only, so a fault of a flush
leaves all lines complete.
-/

namespace CausalCast

namespace OutputEvent

/-- The bytes of the lines of some events. -/
def lines (events : List OutputEvent) : List UInt8 :=
  events.flatMap line

@[simp] theorem lines_nil : lines [] = [] := rfl

@[simp] theorem lines_cons (event : OutputEvent) (rest : List OutputEvent) :
    lines (event :: rest) = event.line ++ lines rest := by
  simp [lines]

theorem flatMap_encode_pieces (event : OutputEvent) :
    event.pieces.flatMap Text.Utf8.encode = event.line := by
  rw [line, ← flatten_pieces]
  induction event.pieces with
  | nil => rfl
  | cons piece rest induction => simp [induction]

end OutputEvent

namespace Writer

/-- Two states of a writer between which it has accepted some bytes and was
not flushed. -/
structure Accepts (before after : Writer) (bytes : List UInt8) : Prop where
  written_eq : after.written.toList = before.written.toList ++ bytes
  limit_eq : after.limit = before.limit.map (· - bytes.length)
  within : ∀ limit, before.limit = some limit → bytes.length ≤ limit
  writeFault_eq : after.writeFault = before.writeFault
  flushFault_eq : after.flushFault = before.flushFault
  flushFails_eq : after.flushFails = before.flushFails
  flushes_eq : after.flushes = before.flushes

namespace Accepts

theorem refl (writer : Writer) : Accepts writer writer [] := by
  refine ⟨by simp, ?_, by simp, rfl, rfl, rfl, rfl⟩
  cases writer.limit <;> rfl

theorem trans {first second third : Writer} {front back : List UInt8}
    (left : Accepts first second front) (right : Accepts second third back) :
    Accepts first third (front ++ back) := by
  constructor
  case written_eq =>
    rw [right.written_eq, left.written_eq, List.append_assoc]
  case limit_eq =>
    rw [right.limit_eq, left.limit_eq, Option.map_map]
    congr 1
    funext limit
    simp [Nat.sub_sub]
  case within =>
    intro limit limited
    have first := left.within limit limited
    have second := right.within (limit - front.length)
      (by rw [left.limit_eq, limited]; rfl)
    rw [List.length_append]
    omega
  case writeFault_eq => exact right.writeFault_eq.trans left.writeFault_eq
  case flushFault_eq => exact right.flushFault_eq.trans left.flushFault_eq
  case flushFails_eq => exact right.flushFails_eq.trans left.flushFails_eq
  case flushes_eq => exact right.flushes_eq.trans left.flushes_eq

end Accepts

/-- What becomes of a writer that some bytes are written to: it accepts all of
them, or fails where its limit is reached. -/
inductive Writes (before : Writer) (bytes : List UInt8) :
    Writer × Option Fault → Prop where
  | whole {after : Writer} (accepts : Accepts before after bytes) :
      Writes before bytes (after, none)
  | cut {after : Writer} {limit : Nat} (limited : before.limit = some limit)
      (short : limit < bytes.length)
      (accepts : Accepts before after (bytes.take limit)) :
      Writes before bytes (after, some before.writeFault.fault)

namespace Writes

variable {before after : Writer} {front back : List UInt8}

theorem append {result : Writer × Option Fault}
    (first : Accepts before after front) (second : Writes after back result) :
    Writes before (front ++ back) result := by
  cases second with
  | whole accepts => exact .whole (first.trans accepts)
  | @cut last limit limited short accepts =>
      rw [first.limit_eq] at limited
      obtain ⟨total, known, rfl⟩ := Option.map_eq_some_iff.mp limited
      have within := first.within total known
      rw [first.writeFault_eq]
      refine .cut known ?_ ?_
      · rw [List.length_append]
        omega
      · rw [List.take_append, List.take_of_length_le within]
        exact first.trans accepts

theorem append_of_cut {fault : Fault}
    (failed : Writes before front (after, some fault)) (back : List UInt8) :
    Writes before (front ++ back) (after, some fault) := by
  cases failed with
  | @cut _ limit limited short accepts =>
      refine .cut limited ?_ ?_
      · rw [List.length_append]
        omega
      · rw [List.take_append_of_le_length (Nat.le_of_lt short)]
        exact accepts

end Writes

/-! ## Writing -/

theorem accepts_accept {writer : Writer} {bytes : List UInt8} {number : Nat}
    (fits : number ≤ bytes.length)
    (within : ∀ limit, writer.limit = some limit → number ≤ limit) :
    Accepts writer (writer.accept bytes number) (bytes.take number) := by
  have length : (bytes.take number).length = number := by
    rw [List.length_take, Nat.min_eq_left fits]
  refine ⟨by simp [accept], ?_, ?_, rfl, rfl, rfl, rfl⟩
  · rw [length]
    rfl
  · rw [length]
    exact within

theorem accepts_le (writer : Writer) (offered : Nat) :
    writer.accepts offered ≤ offered ∧
      ∀ limit, writer.limit = some limit → writer.accepts offered ≤ limit := by
  unfold accepts
  cases writer.limit with
  | none => exact ⟨Nat.min_le_left _ _, by simp⟩
  | some limit =>
      refine ⟨Nat.le_trans (Nat.min_le_left _ _) (Nat.min_le_left _ _), ?_⟩
      intro known same
      obtain rfl := Option.some.inj same
      exact Nat.min_le_right _ _

theorem limit_of_accepts_eq_zero {writer : Writer} {offered : Nat}
    (some_offered : 0 < offered) (nothing : writer.accepts offered = 0) :
    writer.limit = some 0 := by
  unfold accepts at nothing
  cases limited : writer.limit with
  | none =>
      simp only [limited] at nothing
      omega
  | some limit =>
      simp only [limited] at nothing
      congr 1
      omega

theorem writes_writeAll (writer : Writer) (bytes : List UInt8) :
    Writes writer bytes (writer.writeAll bytes) := by
  fun_induction writer.writeAll bytes with
  | case1 writer => exact .whole (.refl writer)
  | case2 writer bytes present number nothing =>
      have positive := List.length_pos_of_ne_nil present
      have limited := limit_of_accepts_eq_zero positive nothing
      exact .cut limited positive (.refl writer)
  | case3 writer bytes present number accepted rest =>
      obtain ⟨fits, within⟩ := writer.accepts_le bytes.length
      have written := rest.append (accepts_accept fits within)
      rwa [List.take_append_drop] at written

theorem writes_writePieces (writer : Writer) (pieces : List (List Char)) :
    Writes writer (pieces.flatMap Text.Utf8.encode)
      (writer.writePieces pieces) := by
  induction pieces generalizing writer with
  | nil => exact .whole (.refl writer)
  | cons piece rest induction =>
      have first := writer.writes_writeAll (Text.Utf8.encode piece)
      rw [List.flatMap_cons, writePieces]
      split
      case h_1 failed =>
          rw [failed] at first
          exact first.append_of_cut _
      case h_2 after written =>
          rw [written] at first
          cases first with
          | whole accepts => exact .append accepts (induction after)

theorem writes_writeEvent (writer : Writer) (event : OutputEvent) :
    Writes writer event.line (writer.writeEvent event) := by
  rw [← event.flatMap_encode_pieces]
  exact writer.writes_writePieces event.pieces

/-! ## Draining -/

/-- How often a drain flushes: once when the last line is written, if there is
any, and once at the end. -/
def flushCount (events : List OutputEvent) : Nat :=
  if events = [] then 1 else 2

/-- Whether no flush of a drain fails. -/
def Flushes (writer : Writer) (events : List OutputEvent) : Prop :=
  ∀ number < flushCount events,
    writer.flushOutcome (writer.flushes + number) = none

theorem flushFault_of_flushOutcome {writer : Writer} {number : Nat}
    {fault : Fault} (failed : writer.flushOutcome number = some fault) :
    writer.flushFault = some fault :=
  (Option.filter_eq_some_iff.mp failed).1

/-- What becomes of a writer that some events are drained into: it fails in the
middle of the lines, or it has all of them and is flushed. -/
inductive Drains (before : Writer) (events : List OutputEvent) :
    Writer × Option Fault → Prop where
  | cut {after : Writer} {fault : Fault}
      (failed : Writes before (OutputEvent.lines events) (after, some fault)) :
      Drains before events (after, some fault)
  | flushed {after : Writer} {number : Nat} {fault? : Option Fault}
      (accepts : Accepts before after (OutputEvent.lines events))
      (outcome : fault? = none ∧ before.Flushes events ∨
        ∃ fault, fault? = some fault ∧ ¬before.Flushes events ∧
          before.flushFault = some fault) :
      Drains before events
        ({ after with flushes := before.flushes + (number + 1) }, fault?)

/-- A flush of a writer that has accepted some bytes and was flushed a number
of times since. -/
theorem Accepts.flush_eq {before after : Writer} {bytes : List UInt8}
    (accepts : Accepts before after bytes) (number : Nat) :
    flush { after with flushes := before.flushes + number } =
      ({ after with flushes := before.flushes + (number + 1) },
        before.flushOutcome (before.flushes + number)) := by
  simp only [flush, flushOutcome, accepts.flushFault_eq,
    accepts.flushFails_eq, Nat.add_assoc]

theorem Accepts.flush_zero_eq {before after : Writer} {bytes : List UInt8}
    (accepts : Accepts before after bytes) :
    flush after =
      ({ after with flushes := before.flushes + 1 },
        before.flushOutcome before.flushes) := by
  have same : after = { after with flushes := before.flushes + 0 } := by
    rw [Nat.add_zero, ← accepts.flushes_eq]
  rw [same]
  exact accepts.flush_eq 0

theorem Drains.of_flush_failed {before after : Writer}
    {events : List OutputEvent}
    (accepts : Accepts before after (OutputEvent.lines events))
    {number : Nat} (below : number < flushCount events) {fault : Fault}
    (failed : before.flushOutcome (before.flushes + number) = some fault) :
    Drains before events
      ({ after with flushes := before.flushes + (number + 1) },
        some fault) := by
  refine .flushed accepts (.inr ⟨fault, rfl, fun flushes => ?_, ?_⟩)
  · have fine := flushes number below
    rw [failed] at fine
    contradiction
  · exact flushFault_of_flushOutcome failed

theorem drains_flush (writer : Writer) : Drains writer [] writer.flush := by
  have nothing : Accepts writer writer (OutputEvent.lines []) := .refl writer
  rw [nothing.flush_zero_eq]
  cases outcome : writer.flushOutcome writer.flushes with
  | some fault => exact .of_flush_failed nothing Nat.zero_lt_one outcome
  | none =>
      refine .flushed nothing (.inl ⟨rfl, fun number below => ?_⟩)
      obtain rfl := Nat.lt_one_iff.mp below
      exact outcome

theorem drains_last {before after : Writer} {event : OutputEvent}
    (accepts : Accepts before after event.line) :
    Drains before [event]
      (match after.flush with
        | (flushed, some fault) => (flushed, some fault)
        | (flushed, none) => flushed.flush) := by
  have whole : Accepts before after (OutputEvent.lines [event]) := by
    rw [OutputEvent.lines_cons, OutputEvent.lines_nil, List.append_nil]
    exact accepts
  rw [accepts.flush_zero_eq]
  cases first : before.flushOutcome before.flushes with
  | some fault => exact .of_flush_failed whole Nat.zero_lt_two first
  | none =>
      dsimp only
      rw [accepts.flush_eq 1]
      cases second : before.flushOutcome (before.flushes + 1) with
      | some fault => exact .of_flush_failed whole Nat.one_lt_two second
      | none =>
          refine .flushed whole (.inl ⟨rfl, fun number below => ?_⟩)
          have either : number = 0 ∨ number = 1 :=
            Nat.le_one_iff_eq_zero_or_eq_one.mp (Nat.le_of_lt_succ below)
          rcases either with rfl | rfl
          · exact first
          · exact second

theorem Drains.prepend {before after : Writer} {event next : OutputEvent}
    {rest : List OutputEvent} {result : Writer × Option Fault}
    (accepts : Accepts before after event.line)
    (drains : Drains after (next :: rest) result) :
    Drains before (event :: next :: rest) result := by
  have flushes_iff : after.Flushes (next :: rest) ↔
      before.Flushes (event :: next :: rest) := by
    simp only [Flushes, flushOutcome, accepts.flushFault_eq,
      accepts.flushFails_eq, accepts.flushes_eq]
    rfl
  cases drains with
  | cut failed =>
      apply Drains.cut
      rw [OutputEvent.lines_cons]
      exact .append accepts failed
  | flushed more outcome =>
      rw [flushes_iff, accepts.flushFault_eq] at outcome
      rw [accepts.flushes_eq]
      refine .flushed ?_ outcome
      rw [OutputEvent.lines_cons]
      exact accepts.trans more

theorem drains_drain (writer : Writer) (events : List OutputEvent) :
    Drains writer events (writer.drain events) := by
  induction events generalizing writer with
  | nil => exact writer.drains_flush
  | cons event rest induction =>
      have first := writer.writes_writeEvent event
      rw [drain]
      split
      case h_1 failed =>
          rw [failed] at first
          apply Drains.cut
          rw [OutputEvent.lines_cons]
          exact first.append_of_cut _
      case h_2 after written =>
          rw [written] at first
          cases first with
          | whole accepts =>
              cases rest with
              | nil => exact drains_last accepts
              | cons next others => exact .prepend accepts (induction after)

/-! ## What a drain comes to -/

theorem written_drain_of_limitless {writer : Writer}
    (limitless : writer.limit = none) (events : List OutputEvent) :
    (writer.drain events).1.written.toList =
        writer.written.toList ++ OutputEvent.lines events ∧
      ((writer.drain events).2 = none ↔ writer.Flushes events) := by
  have drains := writer.drains_drain events
  generalize writer.drain events = result at drains
  cases drains with
  | cut failed =>
      cases failed with
      | cut limited =>
          rw [limitless] at limited
          contradiction
  | flushed accepts outcome =>
      refine ⟨accepts.written_eq, ?_⟩
      rcases outcome with ⟨rfl, flushes⟩ | ⟨fault, rfl, fails, _⟩
      · exact iff_of_true rfl flushes
      · exact iff_of_false (Option.some_ne_none fault) fails

/-- However many calls the pieces of the lines take, a writer that fails beyond
a limit has exactly the text of the lines up to there.  The drain succeeds if
the limit leaves room for all of it and no flush fails; otherwise its fault is
that of the writes or, once everything was written, that of the flushes.  If it
succeeds, or if it fails after it has come to a flush, all lines are
complete. -/
theorem drained_up_to_limit {writer : Writer} {limit : Nat}
    (limited : writer.limit = some limit) (events : List OutputEvent) :
    (writer.drain events).1.written.toList = writer.written.toList ++
      (OutputEvent.lines events).take
        (min limit (OutputEvent.lines events).length) ∧
    ((writer.drain events).2 = none ↔
      (OutputEvent.lines events).length ≤ limit ∧ writer.Flushes events) ∧
    (limit < (OutputEvent.lines events).length →
      (writer.drain events).2 = some writer.writeFault.fault) ∧
    ((OutputEvent.lines events).length ≤ limit → ¬writer.Flushes events →
      (writer.drain events).2 = writer.flushFault) ∧
    ((writer.drain events).2 = none ∨
        writer.flushes < (writer.drain events).1.flushes →
      (writer.drain events).1.written.toList =
        writer.written.toList ++ OutputEvent.lines events) := by
  have drains := writer.drains_drain events
  generalize writer.drain events = result at drains
  cases drains with
  | cut failed =>
      cases failed with
      | @cut after reached known short accepts =>
          obtain rfl := Option.some.inj (limited.symm.trans known)
          have tooLong := Nat.not_le_of_lt short
          refine ⟨?_, ?_, fun _ => rfl, fun fits => absurd fits tooLong, ?_⟩
          · rw [Nat.min_eq_left (Nat.le_of_lt short)]
            exact accepts.written_eq
          · exact iff_of_false (Option.some_ne_none _)
              fun whole => tooLong whole.1
          · rintro (success | flushed)
            · contradiction
            · exact absurd accepts.flushes_eq (Nat.ne_of_gt flushed)
  | flushed accepts outcome =>
      have fits := accepts.within limit limited
      refine ⟨?_, ?_, fun short => absurd fits (Nat.not_le_of_lt short), ?_,
        fun _ => accepts.written_eq⟩
      · rw [Nat.min_eq_right fits, List.take_length]
        exact accepts.written_eq
      · rcases outcome with ⟨rfl, flushes⟩ | ⟨fault, rfl, broken, _⟩
        · exact iff_of_true rfl ⟨fits, flushes⟩
        · exact iff_of_false (Option.some_ne_none fault)
            fun whole => broken whole.2
      · intro _ broken
        rcases outcome with ⟨_, flushes⟩ | ⟨fault, rfl, _, same⟩
        · exact absurd flushes broken
        · exact same.symm

/-- Two lines of ten bytes in all, written a byte or two at a time.  A writer
with room for six of them breaks off in the second line; one with room for all
of them has both, although its second flush fails. -/
theorem drained_up_to_limit_of_two_lines :
    ∃ (events : List OutputEvent) (narrow wide : Writer),
      narrow.limit = some 6 ∧ wide.limit = some 10 ∧
      (narrow.drain events).1.written.toList = [98, 32, 49, 10, 100, 32] ∧
      (narrow.drain events).2 = some .brokenPipe ∧
      (wide.drain events).1.written.toList =
        [98, 32, 49, 10, 100, 32, 50, 32, 55, 10] ∧
      (wide.drain events).2 = some .timedOut := by
  let events : List OutputEvent :=
    [.broadcast [49], .delivered (.data 2 1 [55] 3)]
  let narrow : Writer := { Writer.boundless with
    limit := some 6
    appetite := fun call => call % 2
    writeFault := ⟨.brokenPipe, by decide⟩ }
  let wide : Writer := { narrow with
    limit := some 10
    flushFault := some .timedOut
    flushFails := (· == 1) }
  have lines : OutputEvent.lines events =
      [98, 32, 49, 10, 100, 32, 50, 32, 55, 10] := by decide +kernel
  have breaks : ¬wide.Flushes events :=
    fun flushes => absurd (flushes 1 Nat.one_lt_two) (by decide)
  obtain ⟨cut, _, broken, _⟩ := @drained_up_to_limit narrow 6 rfl events
  obtain ⟨whole, _, _, fault, _⟩ := @drained_up_to_limit wide 10 rfl events
  rw [lines] at cut broken whole fault
  exact ⟨events, narrow, wide, rfl, rfl, cut,
    broken (by decide), whole, fault (Nat.le_refl _) breaks⟩

end Writer

end CausalCast
