import CausalCast.Proofs.Output.Draining
import CausalCast.Proofs.Text.Newlines
import Mathlib.Data.List.Basic

/-!
# One line for each event

An event is written as one line only if its content keeps to one: contents are
written as they are, newlines included.  The log has one line for each event
and one more for every newline in a content, and what follows such a newline
reads like the line of another event.
-/

namespace CausalCast

open Text.Utf8 (newline encode)

theorem length_splitOn_newline (bytes : List UInt8) :
    (bytes.splitOn newline).length = bytes.count newline + 1 := by
  by_cases present : newline ∈ bytes
  case neg =>
      rw [List.splitOn_eq_singleton present,
        List.count_eq_zero.mpr present]
      rfl
  case pos =>
      obtain ⟨line, rest, rfl, whole⟩ := List.eq_append_cons_of_mem present
      have shorter : rest.length < (line ++ newline :: rest).length := by
        rw [List.length_append, List.length_cons]
        omega
      rw [List.splitOn_append_cons_self_of_not_mem whole, List.length_cons,
        length_splitOn_newline rest, List.count_append, List.count_cons_self,
        List.count_eq_zero.mpr whole, Nat.zero_add]
termination_by bytes.length

namespace OutputEvent

def content : OutputEvent → List UInt8
  | broadcast content => content
  | delivered payload => payload.content

def rendering (event : OutputEvent) : List UInt8 :=
  encode event.text

theorem line_eq (event : OutputEvent) :
    event.line = event.rendering ++ [newline] := by
  rw [line, rendering, encode, List.flatMap_append]
  rfl

theorem newline_not_mem_decimal (value : Nat) : '\n' ∉ Text.decimal value := by
  intro member
  have digit := Nat.isDigit_of_mem_toDigits (by decide) (by decide) member
  contradiction

theorem count_rendering (event : OutputEvent) :
    event.rendering.count newline = event.content.count newline := by
  rw [rendering, Text.Utf8.count_encode, ← Text.Utf8.count_decodeLossy]
  cases event with
  | broadcast content =>
      rw [text, List.count_append]
      exact Nat.zero_add _
  | delivered payload =>
      have number : (Text.decimal payload.owner.toNat).count '\n' = 0 :=
        List.count_eq_zero.mpr (newline_not_mem_decimal _)
      have space : [' '].count '\n' = 0 := rfl
      have kind : ['d', ' '].count '\n' = 0 := rfl
      rw [text, List.count_append, List.count_append, List.count_append,
        number, space, kind]
      exact Nat.zero_add _

theorem newline_mem_rendering_iff (event : OutputEvent) :
    newline ∈ event.rendering ↔ newline ∈ event.content := by
  rw [← List.count_pos_iff, ← List.count_pos_iff, count_rendering]

theorem splitOn_lines_cons (event : OutputEvent) (rest : List OutputEvent) :
    (lines (event :: rest)).splitOn newline =
      event.rendering.splitOn newline ++ (lines rest).splitOn newline := by
  rw [lines_cons, line_eq, List.append_assoc, List.singleton_append,
    List.splitOn_append_cons_self]

theorem splitOn_lines (events : List OutputEvent) :
    (lines events).splitOn newline =
      events.flatMap (fun event => event.rendering.splitOn newline) ++
        [[]] := by
  induction events with
  | nil => rfl
  | cons event rest induction =>
      rw [splitOn_lines_cons, induction, List.flatMap_cons, List.append_assoc]

/-- They are as many as the events and the newlines in their contents, and the
empty piece after the last newline. -/
theorem length_splitOn_lines (events : List OutputEvent) :
    ((lines events).splitOn newline).length =
      events.length + (events.flatMap content).count newline + 1 := by
  induction events with
  | nil => rfl
  | cons event rest induction =>
      rw [splitOn_lines_cons, List.length_append, length_splitOn_newline,
        count_rendering, induction, List.flatMap_cons, List.count_append,
        List.length_cons]
      omega

/-- There is one line for each event exactly if no content has a newline. -/
theorem splitOn_lines_eq_iff {events : List OutputEvent} :
    (lines events).splitOn newline = events.map rendering ++ [[]] ↔
      ∀ event ∈ events, newline ∉ event.content := by
  constructor
  · intro single event member present
    have number := congrArg List.length single
    rw [length_splitOn_lines, List.length_append, List.length_map,
      List.length_singleton] at number
    have more : 0 < (events.flatMap content).count newline :=
      List.count_pos_iff.mpr
        (List.mem_flatMap.mpr ⟨event, member, present⟩)
    omega
  · intro whole
    rw [splitOn_lines, List.append_left_inj, List.map_eq_flatMap]
    refine List.flatMap_congr fun event member => ?_
    apply List.splitOn_eq_singleton
    rw [newline_mem_rendering_iff]
    exact whole event member

end OutputEvent

namespace Writer

/-- A writer that accepts everything gets, besides one line for each event, one
line more for every newline in a content; so its lines are those of the events,
one by one, exactly if the contents have no newlines. -/
theorem one_line_per_event_exactly {writer : Writer}
    (limitless : writer.limit = none) (events : List OutputEvent) :
    ∃ log,
      (writer.drain events).1.written.toList = writer.written.toList ++ log ∧
      log.splitOn newline =
        events.flatMap (fun event => event.rendering.splitOn newline) ++
          [[]] ∧
      (log.splitOn newline).length = events.length +
        (events.flatMap OutputEvent.content).count newline + 1 ∧
      (log.splitOn newline = events.map OutputEvent.rendering ++ [[]] ↔
        ∀ event ∈ events, newline ∉ event.content) :=
  ⟨OutputEvent.lines events,
    (written_drain_of_limitless limitless events).1,
    OutputEvent.splitOn_lines events,
    OutputEvent.length_splitOn_lines events,
    OutputEvent.splitOn_lines_eq_iff⟩

/-- Two contents without newlines take two lines. -/
theorem one_line_per_event_of_two :
    ∃ events : List OutputEvent, ∃ log,
      (boundless.drain events).1.written.toList = log ∧
      log.splitOn newline = [[98, 32, 49], [100, 32, 50, 32, 55], []] := by
  let events : List OutputEvent :=
    [.broadcast [49], .delivered (.data 2 1 [55] 3)]
  have renderings : events.map OutputEvent.rendering ++ [[]] =
      [[98, 32, 49], [100, 32, 50, 32, 55], []] := by decide +kernel
  have whole : ∀ event ∈ events, newline ∉ event.content := by decide
  have limitless : boundless.limit = none := rfl
  obtain ⟨log, written, _, _, single⟩ :=
    one_line_per_event_exactly limitless events
  rw [renderings] at single
  exact ⟨events, log, written, single.mpr whole⟩

/-- A content that somebody sent may end its line and go on with what reads
like another delivery: the log of a delivery of the content `1`, a newline and
`d 2 7` is that of two deliveries. -/
theorem delivery_shown_by_content :
    (boundless.drain
        [.delivered (.data 3 1 [49, 10, 100, 32, 50, 32, 55] 4)]).1.written =
      (boundless.drain [.delivered (.data 3 1 [49] 4),
        .delivered (.data 2 1 [55] 4)]).1.written ∧
    (boundless.drain [.delivered
        (.data 3 1 [49, 10, 100, 32, 50, 32, 55] 4)]).1.written.toList.splitOn
      newline =
        [[100, 32, 51, 32, 49], [100, 32, 50, 32, 55], []] := by
  decide +kernel

end Writer

end CausalCast
