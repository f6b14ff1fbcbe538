import CausalCast.Proofs.Tracker.Quorum

/-!
# What is released at once

Under the immediate policy a tracker counts data and acknowledgements in one
counter, and it releases a message when the count is one and the testimony
brought data.  So the first testimony to a message settles what becomes of it:
data is released there and then, and after an acknowledgement the message is
never released, whatever data comes later.  Leaving out the acknowledgements
makes no difference exactly if none of them came before the data of its
message.
-/

namespace CausalCast

namespace Testimony

/-- Whether a testimony brings the message, and not just word of it. -/
def isData (testimony : Testimony) : Bool :=
  !testimony.payload.isAck

end Testimony

namespace Tracker

/-- A fresh tracker that releases at once. -/
def Eager (tracker : Tracker) : Prop :=
  ∃ me nodeCount graph, tracker = new me nodeCount graph .immediate

/-- Well-formed testimonies to messages with proper numbers. -/
def Regular (origin : Tracker) (heard : List Testimony) : Prop :=
  ∀ testimony ∈ heard, origin.admits testimony = true ∧
    1 ≤ testimony.payload.uid.toNat

/-- What a testimony releases at once when others were heard before it. -/
def promptly (earlier : List Testimony) (testimony : Testimony) :
    List Payload :=
  if (∀ other ∈ earlier,
      other.payload.message ≠ testimony.payload.message) ∧
        testimony.isData = true then [testimony.payload]
  else []

theorem contains_hearAll_iff {origin : Tracker}
    (blank : ∀ sender message, origin.contains sender message = false)
    (heard : List Testimony) (sender : NodeId) (message : MessageId) :
    (origin.hearAll heard).1.contains sender message = true ↔
      ∃ testimony ∈ origin.admitted heard,
        testimony.witness = ⟨sender, message⟩ := by
  induction heard using List.reverseRecOn with
  | nil => simp [blank, admitted]
  | append_singleton heard testimony induction =>
      have same := (sameSetup_hearAll origin heard).admits_eq testimony
      rw [hearAll_concat, contains_hear_iff, induction, same]
      cases admits : origin.admits testimony with
      | false => simp [admitted_concat_of_not_admits admits]
      | true =>
          rw [admitted_concat_of_admits admits]
          simp only [List.mem_append, List.mem_singleton, or_and_right,
            exists_or, exists_eq_left, Testimony.witness, Witness.mk.injEq,
            true_and]
          rw [or_comm]
          simp only [eq_comm]

namespace Regular

variable {origin : Tracker} {heard earlier later : List Testimony}

theorem of_append (regular : origin.Regular (earlier ++ later)) :
    origin.Regular earlier :=
  fun testimony listed =>
    regular testimony (List.mem_append_left later listed)

theorem admitted_eq (regular : origin.Regular heard) :
    origin.admitted heard = heard := by
  apply List.filter_eq_self.mpr
  intro testimony listed
  exact (regular testimony listed).1

theorem data (regular : origin.Regular heard) :
    origin.Regular (heard.filter Testimony.isData) :=
  fun testimony listed => regular testimony (List.mem_of_mem_filter listed)

end Regular

/-! ## The first testimony to a message -/

section First

variable {heard : List Testimony} {testimony : Testimony} {message : MessageId}

theorem of_find?_message
    (found : heard.find? (·.payload.message = message) = some testimony) :
    testimony ∈ heard ∧ testimony.payload.message = message :=
  ⟨List.mem_of_find?_eq_some found, by simpa using List.find?_some found⟩

theorem exists_find?_message (listed : testimony ∈ heard) :
    ∃ first, heard.find?
      (·.payload.message = testimony.payload.message) = some first := by
  apply Option.isSome_iff_exists.mp
  apply List.find?_isSome.mpr
  exact ⟨testimony, listed, decide_eq_true rfl⟩

end First

/-! ## One testimony more -/

section Promptly

variable {origin : Tracker} {heard : List Testimony} {testimony : Testimony}

theorem mem_promptly_iff {message : MessageId} :
    message ∈ (promptly heard testimony).map Payload.message ↔
      testimony.payload.message = message ∧
        (∀ other ∈ heard, other.payload.message ≠ message) ∧
        testimony.isData = true := by
  unfold promptly
  split
  case isTrue first =>
      rw [List.map_singleton, List.mem_singleton]
      constructor
      · rintro rfl
        exact ⟨rfl, first⟩
      · rintro ⟨about, _⟩
        exact about.symm
  case isFalse later =>
      constructor
      · intro member
        contradiction
      · rintro ⟨rfl, first⟩
        exact absurd first later

theorem promptly_of_ack (ack : testimony.isData = false) :
    promptly heard testimony = [] := by
  simp [promptly, ack]

theorem Eager.witnessesOf_eq_nil_iff (eager : origin.Eager)
    (regular : origin.Regular heard) (message : MessageId) :
    (origin.hearAll heard).1.witnessesOf message = [] ↔
      ∀ other ∈ heard, other.payload.message ≠ message := by
  obtain ⟨me, nodeCount, graph, rfl⟩ := eager
  have blank : ∀ sender message,
      (new me nodeCount graph .immediate).contains sender message = false := by
    simp [contains, new]
  simp only [List.eq_nil_iff_forall_not_mem, mem_witnessesOf,
    contains_hearAll_iff blank, regular.admitted_eq, Testimony.witness,
    Witness.mk.injEq]
  constructor
  · intro nobody other listed about
    exact nobody other.sender ⟨other, listed, rfl, about⟩
  · rintro unheard sender ⟨other, listed, _, about⟩
    exact unheard other listed about

theorem Eager.prompt (eager : origin.Eager) (heard : List Testimony) :
    (origin.hearAll heard).1.Prompt := by
  obtain ⟨me, nodeCount, graph, rfl⟩ := eager
  exact (prompt_new me nodeCount graph).hearAll heard

/-- A testimony releases its message at once if it is the first to it and
brings data; otherwise it releases nothing. -/
theorem Eager.released_concat (eager : origin.Eager)
    (regular : origin.Regular (heard ++ [testimony])) :
    (origin.hearAll (heard ++ [testimony])).2 =
      (origin.hearAll heard).2 ++ promptly heard testimony := by
  obtain ⟨admits, positive⟩ := regular testimony (by simp)
  have nobody := eager.witnessesOf_eq_nil_iff regular.of_append
    testimony.payload.message
  have same := (sameSetup_hearAll origin heard).admits_eq testimony
  rw [hearAll_concat, hear_of_admits (same.trans admits)]
  apply congrArg ((origin.hearAll heard).2 ++ ·)
  cases known : (origin.hearAll heard).1.contains testimony.sender
      testimony.payload.message with
  | true =>
      have witness := mem_witnessesOf.mpr known
      rw [record_of_contains known]
      apply Eq.symm
      apply if_neg
      rintro ⟨unheard, _⟩
      rw [nobody.mpr unheard] at witness
      contradiction
  | false =>
      have recorded := (eager.prompt heard).record_eq known positive
      rw [recorded.2, promptly, Testimony.isData]
      simp only [nobody, Bool.not_eq_true']

end Promptly

/-! ## All testimonies -/

/-- No message was heard of through an acknowledgement before its data. -/
def DataFirst (heard : List Testimony) : Prop :=
  ∀ testimony ∈ heard, testimony.isData = true →
    ∀ first, heard.find? (·.payload.message = testimony.payload.message) =
      some first → first.isData = true

section Released

variable {origin : Tracker} {heard : List Testimony}

/-- A message is released exactly if the first testimony to it brought data. -/
theorem Eager.mem_released_iff (eager : origin.Eager)
    (regular : origin.Regular heard) (message : MessageId) :
    message ∈ (origin.hearAll heard).2.map Payload.message ↔
      ∃ first, heard.find? (·.payload.message = message) = some first ∧
        first.isData = true := by
  induction heard using List.reverseRecOn with
  | nil => simp
  | append_singleton heard testimony induction =>
      rw [eager.released_concat regular, List.map_append, List.mem_append,
        induction regular.of_append, mem_promptly_iff, List.find?_append,
        List.find?_singleton]
      cases found : heard.find? (·.payload.message = message) with
      | some first =>
          obtain ⟨listed, about⟩ := of_find?_message found
          have known : ¬∀ other ∈ heard, other.payload.message ≠ message :=
            fun unheard => unheard first listed about
          simp [known]
      | none =>
          have unheard : ∀ other ∈ heard, other.payload.message ≠ message := by
            simpa using List.find?_eq_none.mp found
          by_cases about : testimony.payload.message = message
          · simpa [about] using fun _ => unheard
          · simp [about]

theorem Eager.nodup_released (eager : origin.Eager)
    (regular : origin.Regular heard) :
    ((origin.hearAll heard).2.map Payload.message).Nodup := by
  induction heard using List.reverseRecOn with
  | nil => exact List.nodup_nil
  | append_singleton heard testimony induction =>
      have before := induction regular.of_append
      rw [eager.released_concat regular, List.map_append, List.nodup_append]
      refine ⟨before, ?_, ?_⟩
      · unfold promptly
        split
        · exact List.nodup_singleton _
        · exact List.nodup_nil
      · rintro message old _ new rfl
        obtain ⟨earlier, found, _⟩ :=
          (eager.mem_released_iff regular.of_append message).mp old
        obtain ⟨listed, about⟩ := of_find?_message found
        obtain ⟨_, unheard, _⟩ := mem_promptly_iff.mp new
        exact unheard earlier listed about

theorem Eager.released_sublist (eager : origin.Eager)
    (regular : origin.Regular heard) :
    List.Sublist (origin.hearAll heard).2
      (origin.hearAll (heard.filter Testimony.isData)).2 := by
  induction heard using List.reverseRecOn with
  | nil => exact List.Sublist.refl _
  | append_singleton heard testimony induction =>
      have before := induction regular.of_append
      have still := regular.data
      rw [eager.released_concat regular]
      cases data : testimony.isData with
      | false =>
          rw [promptly_of_ack data, List.append_nil, List.filter_append]
          simpa [data] using before
      | true =>
          have kept : (heard ++ [testimony]).filter Testimony.isData =
              heard.filter Testimony.isData ++ [testimony] := by
            simp [data]
          rw [kept] at still ⊢
          rw [eager.released_concat still]
          apply before.append
          unfold promptly
          split
          case isFalse => exact List.nil_sublist _
          case isTrue first =>
              rw [if_pos]
              refine ⟨?_, data⟩
              intro other listed
              exact first.1 other (List.mem_of_mem_filter listed)

/-- Leaving out the acknowledgements makes no difference exactly if none of
them came before the data of its message. -/
theorem Eager.messages_data_eq_iff (eager : origin.Eager)
    (regular : origin.Regular heard) :
    (origin.hearAll (heard.filter Testimony.isData)).2.map Payload.message =
        (origin.hearAll heard).2.map Payload.message ↔
      DataFirst heard := by
  have all := eager.mem_released_iff regular
  have dataOnly := eager.mem_released_iff regular.data
  constructor
  · intro same testimony listed data first found
    obtain ⟨other, otherFound⟩ :=
      exists_find?_message (List.mem_filter.mpr ⟨listed, data⟩)
    have otherData :=
      (List.mem_filter.mp (of_find?_message otherFound).1).2
    have released := (dataOnly _).mpr ⟨other, otherFound, otherData⟩
    rw [same] at released
    obtain ⟨_, again, isData⟩ := (all _).mp released
    rw [found] at again
    obtain rfl := Option.some.inj again
    exact isData
  · intro dataFirst
    have covered : (origin.hearAll (heard.filter Testimony.isData)).2.map
        Payload.message ⊆ (origin.hearAll heard).2.map Payload.message := by
      intro message released
      obtain ⟨other, found, _⟩ := (dataOnly message).mp released
      obtain ⟨member, rfl⟩ := of_find?_message found
      obtain ⟨listed, data⟩ := List.mem_filter.mp member
      obtain ⟨first, firstFound⟩ := exists_find?_message listed
      apply (all _).mpr
      exact ⟨first, firstFound, dataFirst other listed data first firstFound⟩
    have fewer :=
      ((eager.nodup_released regular.data).subperm covered).length_le
    have sublist := (eager.released_sublist regular).map Payload.message
    exact (sublist.eq_of_length_le fewer).symm

/-- Under the immediate policy a message is released at most once, namely by
the first testimony to it and only if that one brought data.  So all messages
that data was heard of are released, and the acknowledgements make no
difference, exactly if no acknowledgement came before the data. -/
theorem released_by_first_testimony (eager : origin.Eager)
    (regular : origin.Regular heard) :
    ((origin.hearAll heard).2.map Payload.message).Nodup ∧
      (∀ message, message ∈ (origin.hearAll heard).2.map Payload.message ↔
        ∃ first, heard.find? (·.payload.message = message) = some first ∧
          first.isData = true) ∧
      (∀ earlier testimony, earlier ++ [testimony] <+: heard →
        (origin.hearAll (earlier ++ [testimony])).2 =
          (origin.hearAll earlier).2 ++
            if (∀ other ∈ earlier,
                other.payload.message ≠ testimony.payload.message) ∧
                  testimony.isData = true then [testimony.payload]
            else []) ∧
      ((∀ testimony ∈ heard, testimony.isData = true →
          testimony.payload.message ∈
            (origin.hearAll heard).2.map Payload.message) ↔
        DataFirst heard) ∧
      ((origin.hearAll (heard.filter Testimony.isData)).2.map
            Payload.message =
          (origin.hearAll heard).2.map Payload.message ↔
        DataFirst heard) := by
  have released := eager.mem_released_iff regular
  refine ⟨eager.nodup_released regular, released, ?_, ?_,
    eager.messages_data_eq_iff regular⟩
  · rintro earlier testimony ⟨later, rfl⟩
    exact eager.released_concat regular.of_append
  · apply forall₃_congr
    intro testimony listed data
    rw [released]
    constructor
    · rintro ⟨first, found, isData⟩ other again
      rw [found] at again
      obtain rfl := Option.some.inj again
      exact isData
    · intro dataFirst
      obtain ⟨first, found⟩ := exists_find?_message listed
      exact ⟨first, found, dataFirst first found⟩

/-- Of two copies and an acknowledgement in between the first copy counts. -/
theorem released_by_first_of_two_copies :
    ((new 2 2 (.empty 3) .immediate).hearAll
        [⟨1, ⟨1, 1, 1, false, [104], [0, 0, 0]⟩⟩,
          ⟨2, ⟨1, 2, 1, true, [104], [0, 0, 0]⟩⟩,
          ⟨2, ⟨1, 2, 1, false, [104], [0, 0, 0]⟩⟩]).2.map
      Payload.message = [⟨1, 1⟩] := by
  let copy : Testimony := ⟨1, ⟨1, 1, 1, false, [104], [0, 0, 0]⟩⟩
  let ack : Testimony := ⟨2, ⟨1, 2, 1, true, [104], [0, 0, 0]⟩⟩
  let again : Testimony := ⟨2, ⟨1, 2, 1, false, [104], [0, 0, 0]⟩⟩
  have eager : (new 2 2 (.empty 3) .immediate).Eager := ⟨2, 2, .empty 3, rfl⟩
  have regular : (new 2 2 (.empty 3) .immediate).Regular [copy, ack, again] := by
    unfold Regular
    decide
  obtain ⟨_, _, step, _, _⟩ := released_by_first_testimony eager regular
  have first := step [] copy ⟨[ack, again], rfl⟩
  have second := step [copy] ack ⟨[again], rfl⟩
  have third := step [copy, ack] again ⟨[], rfl⟩
  rw [if_pos (by decide)] at first
  rw [if_neg (by decide)] at second third
  rw [List.append_nil] at second third
  have all := (third.trans second).trans first
  exact congrArg (List.map Payload.message) all

/-- After an acknowledgement the data of the message is not released; heard
alone, it is. -/
theorem unreleased_after_acknowledgement :
    ((new 2 2 (.empty 3) .immediate).hearAll
        [⟨2, ⟨1, 2, 1, true, [104], [0, 0, 0]⟩⟩,
          ⟨1, ⟨1, 1, 1, false, [104], [0, 0, 0]⟩⟩]).2 = [] ∧
      ((new 2 2 (.empty 3) .immediate).hearAll
        [⟨1, ⟨1, 1, 1, false, [104], [0, 0, 0]⟩⟩]).2 =
          [⟨1, 1, 1, false, [104], [0, 0, 0]⟩] := by
  let ack : Testimony := ⟨2, ⟨1, 2, 1, true, [104], [0, 0, 0]⟩⟩
  let copy : Testimony := ⟨1, ⟨1, 1, 1, false, [104], [0, 0, 0]⟩⟩
  have eager : (new 2 2 (.empty 3) .immediate).Eager := ⟨2, 2, .empty 3, rfl⟩
  have both : (new 2 2 (.empty 3) .immediate).Regular ([ack] ++ [copy]) := by
    unfold Regular
    decide
  have alone : (new 2 2 (.empty 3) .immediate).Regular ([] ++ [copy]) := by
    unfold Regular
    decide
  constructor
  · have early : (new 2 2 (.empty 3) .immediate).Regular ([] ++ [ack]) :=
      both.of_append
    have first : ((new 2 2 (.empty 3) .immediate).hearAll [ack]).2 = [] :=
      eager.released_concat early
    have second := eager.released_concat both
    rw [first] at second
    exact second
  · exact eager.released_concat alone

end Released

end Tracker

end CausalCast
