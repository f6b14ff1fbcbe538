import CausalCast.Proofs.Ensemble.Convergence

/-!
# Causal order

A message precedes the later ones of its owner, and those of a node that
depends on its owner and had delivered it before it originated them.  A vector
clock keeps of this only numbers, and a tracker looks only at the entries of
the nodes that the owner depends on; nevertheless no node delivers a message
before one that precedes it, directly or over others.
-/

namespace CausalCast

namespace Ensemble

/-- One message precedes another directly. -/
inductive Precedes (ensemble : Ensemble) : MessageId → MessageId → Prop where
  | sameOwner {past between later : List Origination}
      {first second : Origination}
      (split : ensemble.history =
        past ++ first :: (between ++ second :: later))
      (same : first.origin = second.origin) :
      Precedes ensemble first.payload.message second.payload.message
  | observed {cause : Payload} {entry : Origination}
      (entered : entry ∈ ensemble.history)
      (delivered : cause ∈ entry.delivered)
      (depends : cause.owner ∈ ensemble.graph.dependencies entry.origin) :
      Precedes ensemble cause.message entry.payload.message

namespace Invariant

variable {ensemble : Ensemble} (invariant : ensemble.Invariant)

include invariant

/-- The clock of a message counts what its owner had delivered of a node that
it depends on. -/
theorem uid_le_entry {past later : List Origination} {entry : Origination}
    (split : ensemble.history = past ++ entry :: later) {cause : Payload}
    (delivered : cause ∈ entry.delivered)
    (inRange : 1 ≤ cause.owner.toNat ∧
      cause.owner.toNat < ensemble.membership.clockLength) :
    cause.uid.toNat ≤ (entry.payload.clock.entry cause.owner).toNat := by
  have follows := invariant.chronicle.follows_of_split split
  by_cases own : cause.owner = entry.origin
  · have messages := invariant.chronicle.numbered
    rw [split, List.map_append, List.map_cons] at messages
    have position := messages.uid_eq
    have bounds := messages.of_append.uid_bounds
      (follows.genuine cause delivered)
    change _ ∧ cause.uid.toNat ≤ (stream _ cause.owner).length at bounds
    rw [follows.owner_eq, ← own] at position
    have counted := follows.own_entry
    rw [← own] at counted
    omega
  · rw [follows.entry_eq cause.owner own inRange.1 inRange.2]
    exact (follows.numbered.uid_bounds delivered).2

/-- A node delivers the messages of an owner in the order of origination. -/
theorem exists_before_of_sameOwner {id : NodeId}
    (member : ensemble.membership.contains id = true)
    {past between later : List Origination} {first second : Origination}
    (split : ensemble.history = past ++ first :: (between ++ second :: later))
    (same : first.origin = second.origin)
    {before after : List Payload} {payload : Payload}
    (delivered : (ensemble.node id).delivered = before ++ payload :: after)
    (identity : payload.message = second.payload.message) :
    ∃ cause ∈ before, cause.message = first.payload.message := by
  have numbered := (invariant.nodeSound member).sound.accounts.numbered
  rw [delivered] at numbered
  have position := numbered.uid_eq
  have regrouped : ensemble.history =
      (past ++ first :: between) ++ second :: later := by
    simp [split]
  have firstFollows := invariant.chronicle.follows_of_split split
  have secondFollows := invariant.chronicle.follows_of_split regrouped
  obtain ⟨owner, uid⟩ := MessageId.mk.inj identity
  have sameOwner : first.payload.owner = payload.owner := by
    rw [firstFollows.owner_eq, same, ← secondFollows.owner_eq, owner]
  have messages := invariant.chronicle.numbered
  rw [regrouped, List.map_append, List.map_cons] at messages
  have secondPosition := messages.uid_eq
  rw [List.map_append, List.map_cons] at secondPosition messages
  rw [← owner, ← sameOwner, stream_append, stream_cons_self,
    List.length_append, List.length_cons, ← uid] at secondPosition
  have firstPosition := messages.of_append.uid_eq
  rw [← sameOwner] at position
  apply numbered.of_append.exists_message_of_le
  · omega
  · omega

/-- A node delivers a message after all that its owner had delivered of the
nodes that it depends on. -/
theorem exists_before_of_observed {id : NodeId}
    (member : ensemble.membership.contains id = true)
    {cause : Payload} {entry : Origination}
    (entered : entry ∈ ensemble.history) (observed : cause ∈ entry.delivered)
    (depends : cause.owner ∈ ensemble.graph.dependencies entry.origin)
    {before after : List Payload} {payload : Payload}
    (delivered : (ensemble.node id).delivered = before ++ payload :: after)
    (identity : payload.message = entry.payload.message) :
    ∃ earlier ∈ before, earlier.message = cause.message := by
  have sound := invariant.nodeSound member
  have numbered := sound.sound.accounts.numbered
  rw [delivered] at numbered
  obtain ⟨past, later, split⟩ := List.append_of_mem entered
  have follows := invariant.chronicle.follows_of_split split
  have clock : payload.clock = entry.payload.clock := by
    have genuine : payload.original ∈ ensemble.messages := by
      apply sound.delivered
      simp [delivered]
    have entryGenuine : entry.payload.original ∈ ensemble.messages := by
      rw [follows.original_eq]
      exact List.mem_map_of_mem entered
    have copy := invariant.chronicle.original_eq genuine entryGenuine identity
    exact (Payload.original_eq_iff.mp copy).2.2
  have required : cause.owner ∈
      (ensemble.node id).tracker.graph.dependencies payload.owner := by
    have owner : payload.owner = entry.origin := by
      rw [← follows.owner_eq]
      exact congrArg MessageId.owner identity
    rw [sound.graph_eq, owner]
    exact depends
  have inRange := sound.sound.coherent.inRange _ _ required
  rw [sound.sound.covers, sound.clockLength_eq] at inRange
  have claimed := invariant.uid_le_entry split observed inRange
  have gate := sound.sound.accounts.gate before payload after delivered
    cause.owner required
  rw [clock] at gate
  apply numbered.of_append.exists_message_of_le
  · exact (follows.numbered.uid_bounds observed).1
  · exact Nat.le_trans claimed gate

/-- A node delivers no message before one that precedes it directly. -/
theorem exists_before {id : NodeId}
    (member : ensemble.membership.contains id = true)
    {earlier later : MessageId} (precedes : ensemble.Precedes earlier later)
    {before after : List Payload} {payload : Payload}
    (delivered : (ensemble.node id).delivered = before ++ payload :: after)
    (identity : payload.message = later) :
    ∃ cause ∈ before, cause.message = earlier := by
  cases precedes with
  | sameOwner split same =>
      exact invariant.exists_before_of_sameOwner member split same delivered
        identity
  | observed entered observed depends =>
      exact invariant.exists_before_of_observed member entered observed depends
        delivered identity

theorem exists_before_of_transGen {id : NodeId}
    (member : ensemble.membership.contains id = true)
    {earlier later : MessageId}
    (order : Relation.TransGen ensemble.Precedes earlier later)
    {before after : List Payload} {payload : Payload}
    (delivered : (ensemble.node id).delivered = before ++ payload :: after)
    (identity : payload.message = later) :
    ∃ cause ∈ before, cause.message = earlier := by
  induction order generalizing before after payload with
  | single precedes =>
      exact invariant.exists_before member precedes delivered identity
  | tail _ precedes induction =>
      obtain ⟨middle, listed, middleIdentity⟩ :=
        invariant.exists_before member precedes delivered identity
      obtain ⟨front, back, rfl⟩ := List.append_of_mem listed
      rw [List.append_assoc, List.cons_append] at delivered
      obtain ⟨cause, inFront, causeIdentity⟩ := induction delivered middleIdentity
      exact ⟨cause, List.mem_append_left _ inFront, causeIdentity⟩

end Invariant

/-- Causal order: whoever has delivered a message has delivered every message
that precedes it, and at an earlier position of its output. -/
theorem delivered_causally {ensemble : Ensemble}
    (reachable : ensemble.Reachable) {id : NodeId}
    (member : ensemble.membership.contains id = true)
    {earlier later : MessageId}
    (order : Relation.TransGen ensemble.Precedes earlier later)
    {position : Nat} {payload : Payload}
    (delivered : (ensemble.node id).output.events[position]? =
      some (.delivered payload))
    (identity : payload.message = later) :
    ∃ before < position, ∃ cause : Payload,
      (ensemble.node id).output.events[before]? = some (.delivered cause) ∧
        cause.message = earlier := by
  have invariant := invariant_of_reachable reachable
  have split := OutputLog.delivered_of_getElem? delivered
  obtain ⟨cause, listed, causeIdentity⟩ :=
    invariant.exists_before_of_transGen member order split identity
  obtain ⟨before, below, found⟩ := OutputLog.exists_lt_of_mem_take listed
  exact ⟨before, below, cause, found, causeIdentity⟩

theorem delivered_causally_of_pair :
    ∃ (ensemble : Ensemble) (position : Nat) (payload : Payload),
      ensemble.Reachable ∧ ensemble.membership.contains 1 = true ∧
      Relation.TransGen ensemble.Precedes ⟨1, 1⟩ ⟨2, 1⟩ ∧
      (ensemble.node 1).output.events[position]? =
        some (.delivered payload) ∧
      payload.message = ⟨2, 1⟩ ∧
      ∃ before < position, ∃ cause : Payload,
        (ensemble.node 1).output.events[before]? = some (.delivered cause) ∧
          cause.message = ⟨1, 1⟩ := by
  obtain ⟨ensemble, reachable, healthy, membership, depends, idle, first,
    second, cause, history, _, secondIdentity, origin, observed,
    causeIdentity⟩ := exists_reachable_pair
  have member : ensemble.membership.contains 1 = true := by
    rw [membership]
    rfl
  have precedes : ensemble.Precedes ⟨1, 1⟩ ⟨2, 1⟩ := by
    rw [← causeIdentity, ← secondIdentity]
    apply Precedes.observed _ observed
    · have owner : cause.owner = 1 := congrArg MessageId.owner causeIdentity
      rw [owner, origin]
      exact depends
    · simp [history]
  obtain ⟨payload, delivered, identity⟩ :=
    healthy.invariant.exists_delivered (healthy.informed_of_idle idle) member
      (List.append_nil _).symm second.payload (by simp [history])
  rw [secondIdentity] at identity
  obtain ⟨position, found⟩ :=
    OutputLog.exists_getElem?_of_mem_delivered delivered
  exact ⟨ensemble, position, payload, reachable, member, .single precedes,
    found, identity, delivered_causally reachable member (.single precedes)
      found identity⟩

end Ensemble

end CausalCast
