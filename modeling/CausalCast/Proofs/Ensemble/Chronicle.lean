import CausalCast.Proofs.Ensemble.Steps
import CausalCast.Proofs.Streams

/-!
# Chronicles

A history is a chronicle if each of its entries follows from the earlier ones:
the messages of a node are numbered without a gap, and the clock of a message
counts what its owner had delivered, except that the owner's own entry counts
the messages that it had originated.
-/

namespace CausalCast

/-- An entry that may stand in a history after the entries of the past. -/
structure Origination.Follows (entry : Origination) (membership : Membership)
    (past : List Origination) : Prop where
  member : membership.contains entry.origin = true
  owner_eq : entry.payload.owner = entry.origin
  original_eq : entry.payload.original = entry.payload
  uid_eq : entry.payload.uid.toNat =
    past.countP (·.origin = entry.origin) + 1
  notLast : entry.payload.uid ≠ lastUid
  length_clock : entry.payload.clock.length = membership.clockLength
  own_entry : (entry.payload.clock.entry entry.origin).toNat + 1 =
    entry.payload.uid.toNat
  entry_eq : ∀ id, id ≠ entry.origin → 1 ≤ id.toNat →
    id.toNat < membership.clockLength →
      (entry.payload.clock.entry id).toNat =
        (stream entry.delivered id).length
  numbered : Numbered entry.delivered
  genuine : ∀ earlier ∈ entry.delivered,
    earlier.original ∈ past.map Origination.payload

/-- Histories in which each entry follows from the earlier ones. -/
inductive Chronicle (membership : Membership) : List Origination → Prop where
  | nil : Chronicle membership []
  | snoc {past : List Origination} {entry : Origination} :
      Chronicle membership past → entry.Follows membership past →
      Chronicle membership (past ++ [entry])

namespace Chronicle

variable {membership : Membership} {history : List Origination}

theorem follows_of_split (chronicle : Chronicle membership history)
    {past later : List Origination} {entry : Origination}
    (split : history = past ++ entry :: later) :
    entry.Follows membership past := by
  induction chronicle generalizing later with
  | nil => simp at split
  | @snoc front last _ follows induction =>
      rcases split_of_concat split with ⟨_, rfl, rfl⟩ | ⟨_, _, earlier⟩
      · exact follows
      · exact induction earlier

theorem exists_follows (chronicle : Chronicle membership history)
    {payload : Payload}
    (member : payload ∈ history.map Origination.payload) :
    ∃ past entry later, history = past ++ entry :: later ∧
      entry.payload = payload ∧ entry.Follows membership past := by
  obtain ⟨entry, listed, rfl⟩ := List.mem_map.mp member
  obtain ⟨past, later, split⟩ := List.append_of_mem listed
  exact ⟨past, entry, later, split, rfl, chronicle.follows_of_split split⟩

theorem length_stream (chronicle : Chronicle membership history)
    (id : NodeId) :
    (stream (history.map Origination.payload) id).length =
      history.countP (·.origin = id) := by
  induction chronicle with
  | nil => rfl
  | @snoc past entry _ follows induction =>
      rw [List.map_append, stream_append, List.length_append, induction,
        List.countP_append, List.map_cons, List.map_nil, List.countP_singleton]
      by_cases same : entry.origin = id
      · have owned : entry.payload.owner = id := follows.owner_eq.trans same
        rw [← owned, stream_cons_self, owned]
        simp [same]
      · have foreign : entry.payload.owner ≠ id := by
          rw [follows.owner_eq]
          exact same
        rw [stream_singleton_of_ne foreign]
        simp [same]

theorem numbered (chronicle : Chronicle membership history) :
    Numbered (history.map Origination.payload) := by
  induction chronicle with
  | nil => exact .nil
  | @snoc past entry earlier follows induction =>
      rw [List.map_append, List.map_cons, List.map_nil]
      apply induction.append_one
      rw [earlier.length_stream, follows.owner_eq]
      exact follows.uid_eq

theorem notLast (chronicle : Chronicle membership history) {payload : Payload}
    (genuine : payload.original ∈ history.map Origination.payload) :
    payload.uid ≠ lastUid := by
  obtain ⟨past, entry, later, _, same, follows⟩ :=
    chronicle.exists_follows genuine
  have identity : entry.payload.uid = payload.uid := by
    rw [same]
    rfl
  rw [← identity]
  exact follows.notLast

theorem length_clock (chronicle : Chronicle membership history)
    {payload : Payload}
    (genuine : payload.original ∈ history.map Origination.payload) :
    payload.clock.length = membership.clockLength := by
  obtain ⟨past, entry, later, _, same, follows⟩ :=
    chronicle.exists_follows genuine
  have clock : entry.payload.clock = payload.clock := by
    rw [same]
    rfl
  rw [← clock]
  exact follows.length_clock

theorem owner_member (chronicle : Chronicle membership history)
    {payload : Payload}
    (genuine : payload.original ∈ history.map Origination.payload) :
    membership.contains payload.owner = true := by
  obtain ⟨past, entry, later, _, same, follows⟩ :=
    chronicle.exists_follows genuine
  have owner : entry.origin = payload.owner := by
    rw [← follows.owner_eq, same]
    rfl
  rw [← owner]
  exact follows.member

/-- A message has one first copy. -/
theorem original_eq (chronicle : Chronicle membership history)
    {left right : Payload}
    (leftGenuine : left.original ∈ history.map Origination.payload)
    (rightGenuine : right.original ∈ history.map Origination.payload)
    (same : left.message = right.message) : left.original = right.original := by
  apply chronicle.numbered.eq_of_message_eq leftGenuine rightGenuine
  exact same

end Chronicle

end CausalCast
