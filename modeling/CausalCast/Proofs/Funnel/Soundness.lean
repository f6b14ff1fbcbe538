import CausalCast.Proofs.Funnel.Steps
import CausalCast.Proofs.Link.Retention
import CausalCast.Proofs.Link.Traffic
import CausalCast.Proofs.Tracker.Immediate

/-!
# Who may say what in a funnel

Data in a funnel is sent by its owner and meant for the receiver, and an
acknowledgement is sent by the receiver and meant for the owner of a message
that the receiver has recorded.  So the receiver learns of each message from
its owner only, and delivers it the first time; any other node hears nothing
but acknowledgements, and delivers nothing.
-/

namespace CausalCast

namespace Funnel

/-- A message as its owner makes it. -/
def firstCopy (funnel : Funnel) (message : MessageId) : Payload :=
  Payload.data message.owner message.uid (Node.numberedContent message.uid)
    funnel.membership.clockLength

/-- What the owner of a message hands to its link. -/
def parcel (funnel : Funnel) (message : MessageId) : Parcel :=
  ⟨funnel.firstCopy message, funnel.receiver⟩

/-- The owner of a message has handed it to its link. -/
structure Sent (funnel : Funnel) (message : MessageId) : Prop where
  member : funnel.membership.contains message.owner = true
  other : message.owner ≠ funnel.receiver
  positive : 1 ≤ message.uid.toNat
  bound : message.uid.toNat ≤ (funnel.node message.owner).enqueued.toNat

/-- A payload is a copy of a message that its owner has sent. -/
structure Genuine (funnel : Funnel) (payload : Payload) : Prop where
  sent : funnel.Sent payload.message
  original_eq : payload.original = funnel.firstCopy payload.message

/-- The receiver knows of the owner of a message that it has sent it. -/
def Received (funnel : Funnel) (message : MessageId) : Prop :=
  (funnel.node funnel.receiver).tracker.contains message.owner message = true

/-- What a node may send to whom. -/
inductive Posted (funnel : Funnel) (id : NodeId) (payload : Payload)
    (recipient : NodeId) : Prop where
  | data (genuine : funnel.Genuine payload) (own : payload.owner = id)
      (kind : payload.isAck = false) (target : recipient = funnel.receiver)
  | ack (genuine : funnel.Genuine payload)
      (received : funnel.Received payload.message)
      (collector : id = funnel.receiver) (kind : payload.isAck = true)
      (target : recipient = payload.owner)

/-- Of two funnels the later knows at least as much. -/
structure Grows (before after : Funnel) : Prop where
  membership_eq : after.membership = before.membership
  receiver_eq : after.receiver = before.receiver
  messages_eq : after.messages = before.messages
  enqueued : ∀ id, (before.node id).enqueued.toNat ≤
    (after.node id).enqueued.toNat
  received : ∀ message, before.Received message → after.Received message

section Growth

variable {before after : Funnel} (grows : Grows before after)

include grows

theorem Grows.firstCopy_eq (message : MessageId) :
    after.firstCopy message = before.firstCopy message := by
  rw [firstCopy, firstCopy, grows.membership_eq]

theorem Grows.parcel_eq (message : MessageId) :
    after.parcel message = before.parcel message := by
  rw [parcel, parcel, grows.firstCopy_eq, grows.receiver_eq]

theorem Sent.grow {message : MessageId} (sent : before.Sent message) :
    after.Sent message := by
  constructor
  · rw [grows.membership_eq]
    exact sent.member
  · rw [grows.receiver_eq]
    exact sent.other
  · exact sent.positive
  · exact Nat.le_trans sent.bound (grows.enqueued message.owner)

theorem Genuine.grow {payload : Payload} (genuine : before.Genuine payload) :
    after.Genuine payload := by
  constructor
  · exact genuine.sent.grow grows
  · rw [grows.firstCopy_eq]
    exact genuine.original_eq

theorem Posted.grow {id recipient : NodeId} {payload : Payload}
    (posted : before.Posted id payload recipient) :
    after.Posted id payload recipient := by
  cases posted with
  | data genuine own kind target =>
      apply Posted.data (genuine.grow grows) own kind
      rw [grows.receiver_eq]
      exact target
  | ack genuine received collector kind target =>
      refine Posted.ack (genuine.grow grows)
        (grows.received payload.message received) ?_ kind target
      rw [grows.receiver_eq]
      exact collector

end Growth

theorem Genuine.length_clock {funnel : Funnel} {payload : Payload}
    (genuine : funnel.Genuine payload) :
    payload.clock.length = funnel.membership.clockLength := by
  have lengths := congrArg (fun payload => payload.clock.length)
    genuine.original_eq
  exact lengths.trans (VectorClock.length_zero _)

theorem Posted.genuine {funnel : Funnel} {id recipient : NodeId}
    {payload : Payload} (posted : funnel.Posted id payload recipient) :
    funnel.Genuine payload := by
  cases posted <;> assumption

theorem Posted.recipient_eq {funnel : Funnel} {id recipient : NodeId}
    {payload : Payload} (posted : funnel.Posted id payload recipient) :
    recipient =
      if payload.isAck then payload.owner else funnel.receiver := by
  cases posted with
  | data _ _ kind target => simpa [kind] using target
  | ack _ _ _ kind target => simpa [kind] using target

theorem Posted.recipient_member {funnel : Funnel} {id recipient : NodeId}
    {payload : Payload} (posted : funnel.Posted id payload recipient)
    (receiver : funnel.membership.contains funnel.receiver = true) :
    funnel.membership.contains recipient = true := by
  cases posted with
  | data _ _ _ target =>
      rw [target]
      exact receiver
  | ack genuine _ _ _ target =>
      rw [target]
      exact genuine.sent.member

theorem Genuine.congr {funnel : Funnel} {payload other : Payload}
    (genuine : funnel.Genuine payload)
    (alike : other.original = payload.original) : funnel.Genuine other := by
  have identity := congrArg Payload.message alike
  rw [Payload.message_original, Payload.message_original] at identity
  constructor
  · rw [identity]
    exact genuine.sent
  · rw [alike, identity]
    exact genuine.original_eq

theorem Posted.congr {funnel : Funnel} {id : NodeId} {message other : Message}
    (posted : funnel.Posted id message.payload message.recipient)
    (alike : other.Alike message) :
    funnel.Posted id other.payload other.recipient := by
  have identity := congrArg Payload.message alike.original_eq
  rw [Payload.message_original, Payload.message_original] at identity
  have owner := congrArg MessageId.owner identity
  have kinds : other.payload.isAck = message.payload.isAck :=
    Bool.not_inj alike.isData_eq
  cases posted with
  | data genuine own kind target =>
      exact .data (genuine.congr alike.original_eq) (owner.trans own)
        (kinds.trans kind) (alike.recipient_eq.trans target)
  | ack genuine received collector kind target =>
      refine .ack (genuine.congr alike.original_eq) ?_ collector
        (kinds.trans kind) (alike.recipient_eq.trans (target.trans owner.symm))
      rw [identity]
      exact received

/-! ## What a node believes and delivers -/

/-- A node that only sends hears of the receiver only, and only what the
receiver has recorded; it delivers nothing. -/
structure Contributor (funnel : Funnel) (node : Node) : Prop where
  witness : ∀ sender message, node.tracker.contains sender message = true →
    sender = funnel.receiver ∧ funnel.Received message
  delivered_eq : node.delivered = []

/-- The receiver hears of owners only, and has delivered exactly the messages
that it heard of, each once. -/
structure Collector (funnel : Funnel) (node : Node) : Prop where
  witness : ∀ sender message, node.tracker.contains sender message = true →
    sender = message.owner
  delivered_iff : ∀ message : MessageId,
    (∃ payload ∈ node.delivered, payload.message = message) ↔
      node.tracker.contains message.owner message = true
  genuine : ∀ payload ∈ node.delivered, funnel.Genuine payload
  nodup : (node.delivered.map Payload.message).Nodup

namespace Collector

variable {funnel : Funnel} {node : Node} (collector : funnel.Collector node)
  {payload : Payload}
  (unknown : node.tracker.contains payload.owner payload.message = false)

include collector unknown

theorem witnessesOf_eq_nil :
    node.tracker.witnessesOf payload.message = [] := by
  apply List.eq_nil_iff_forall_not_mem.mpr
  intro sender listed
  have witness := Tracker.mem_witnessesOf.mp listed
  obtain rfl := collector.witness sender payload.message witness
  exact Bool.false_ne_true (unknown.symm.trans witness)

/-- A message that the receiver has not heard of is new among those that it has
delivered. -/
theorem deliver (genuine : funnel.Genuine payload) {after : Node}
    (contains : ∀ sender message,
      after.tracker.contains sender message = true ↔
        (sender = payload.owner ∧ message = payload.message) ∨
          node.tracker.contains sender message = true)
    (delivered : after.delivered = node.delivered ++ [payload]) :
    funnel.Collector after := by
  constructor
  · intro sender message heard
    rcases (contains sender message).mp heard with ⟨rfl, rfl⟩ | old
    · rfl
    · exact collector.witness sender message old
  · intro message
    rw [delivered, contains, ← collector.delivered_iff]
    simp only [List.mem_append, List.mem_singleton, or_and_right, exists_or,
      exists_eq_left]
    constructor
    · rintro (old | rfl)
      · exact .inr old
      · exact .inl ⟨rfl, rfl⟩
    · rintro (⟨_, rfl⟩ | old)
      · exact .inr rfl
      · exact .inl old
  · intro other member
    rw [delivered] at member
    rcases List.mem_append.mp member with old | new
    · exact collector.genuine other old
    · obtain rfl := List.mem_singleton.mp new
      exact genuine
  · have undelivered : payload.message ∉ node.delivered.map Payload.message := by
      intro listed
      have known :=
        (collector.delivered_iff _).mp (List.mem_map.mp listed)
      exact Bool.false_ne_true (unknown.symm.trans known)
    rw [delivered, List.map_append]
    apply List.nodup_append.mpr
    refine ⟨collector.nodup, by simp, ?_⟩
    rintro _ earlier _ latest rfl
    obtain rfl := List.mem_singleton.mp latest
    exact undelivered earlier

end Collector

/-- The node with a given id has its place in the funnel, and keeps to its
part. -/
structure NodeSound (funnel : Funnel) (id : NodeId) (node : Node) : Prop where
  proper : node.Proper
  me_eq : node.me = id
  membership_eq : node.membership = funnel.membership
  workload_eq : node.workload =
    .pointToPoint funnel.receiver funnel.messages
  prompt : node.tracker.Prompt
  contributor : id ≠ funnel.receiver → funnel.Contributor node
  collector : id = funnel.receiver → funnel.Collector node

namespace NodeSound

variable {funnel : Funnel} {id : NodeId} {node : Node}

theorem of_create {graph : CausalityGraph} {settings : LinkSettings}
    (created : Node.create id funnel.membership graph
      (.pointToPoint funnel.receiver funnel.messages) settings =
        .ok node) : funnel.NodeSound id node := by
  have proper := Node.proper_of_create created
  unfold Node.create at created
  split at created
  · contradiction
  · split at created
    · contradiction
    · obtain rfl := Except.ok.inj created
      refine ⟨proper, rfl, rfl, rfl, Tracker.prompt_new _ _ _, ?_, ?_⟩
      · intro _
        constructor
        · intro sender message known
          simp [Tracker.contains, Tracker.new] at known
        · rfl
      · intro _
        constructor
        · intro sender message known
          simp [Tracker.contains, Tracker.new] at known
        · simp [Node.delivered, OutputLog.delivered, OutputLog.new,
            Tracker.contains, Tracker.new]
        · simp [Node.delivered, OutputLog.delivered, OutputLog.new]
        · simp [Node.delivered, OutputLog.delivered, OutputLog.new]

theorem grow {before after : Funnel} (sound : before.NodeSound id node)
    (grows : Grows before after) : after.NodeSound id node := by
  refine ⟨sound.proper, sound.me_eq, ?_, ?_, sound.prompt, ?_, ?_⟩
  · rw [grows.membership_eq]
    exact sound.membership_eq
  · rw [grows.receiver_eq, grows.messages_eq]
    exact sound.workload_eq
  · intro different
    rw [grows.receiver_eq] at different
    have contributor := sound.contributor different
    constructor
    · intro sender message known
      obtain ⟨same, received⟩ := contributor.witness sender message known
      rw [grows.receiver_eq]
      exact ⟨same, grows.received message received⟩
    · exact contributor.delivered_eq
  · intro same
    rw [grows.receiver_eq] at same
    have collector := sound.collector same
    refine ⟨collector.witness, collector.delivered_iff, ?_, collector.nodup⟩
    intro payload member
    exact (collector.genuine payload member).grow grows

theorem congr (sound : funnel.NodeSound id node) {after : Node}
    (proper : after.Proper) (me : after.me = node.me)
    (membership : after.membership = node.membership)
    (workload : after.workload = node.workload)
    (tracker : after.tracker = node.tracker)
    (delivered : after.delivered = node.delivered) :
    funnel.NodeSound id after := by
  refine ⟨proper, me.trans sound.me_eq, membership.trans sound.membership_eq,
    workload.trans sound.workload_eq, ?_, ?_, ?_⟩
  · rw [tracker]
    exact sound.prompt
  · intro different
    have contributor := sound.contributor different
    constructor
    · rw [tracker]
      exact contributor.witness
    · rw [delivered]
      exact contributor.delivered_eq
  · intro same
    have collector := sound.collector same
    constructor
    · rw [tracker]
      exact collector.witness
    · rw [tracker, delivered]
      exact collector.delivered_iff
    · rw [delivered]
      exact collector.genuine
    · rw [delivered]
      exact collector.nodup

theorem queuesOnly (sound : funnel.NodeSound id node) {after : Node}
    (only : Node.QueuesOnly node after) : funnel.NodeSound id after :=
  sound.congr (only.proper sound.proper) only.me_eq only.membership_eq
    only.workload_eq only.tracker_eq
    (congrArg OutputLog.delivered only.output_eq)

theorem announce (sound : funnel.NodeSound id node) (content : List UInt8) :
    funnel.NodeSound id (node.announce content) :=
  sound.congr (sound.proper.announce content) rfl rfl rfl rfl
    (OutputLog.delivered_emit_broadcast node.output content)

theorem countEnqueued (sound : funnel.NodeSound id node) :
    funnel.NodeSound id node.countEnqueued :=
  sound.congr ⟨sound.proper.me_eq, sound.proper.nodeCount_eq,
    sound.proper.member, sound.proper.length_clock, sound.proper.sendingOpen,
    sound.proper.retransmissionsOpen, sound.proper.outputOpen,
    sound.proper.running⟩ rfl rfl rfl rfl rfl

theorem isNode_of_member (sound : funnel.NodeSound id node) {other : NodeId}
    (member : funnel.membership.contains other = true) :
    node.tracker.isNode other = true := by
  have bounds := Membership.bounds_of_contains member
  rw [← sound.membership_eq] at bounds
  simp only [Tracker.isNode, sound.proper.nodeCount_eq, Bool.and_eq_true,
    decide_eq_true_eq]
  exact bounds

theorem problem?_eq_none (sound : funnel.NodeSound id node) {sender : NodeId}
    (member : funnel.membership.contains sender = true) {payload : Payload}
    (genuine : funnel.Genuine payload) :
    node.tracker.problem? sender payload = none := by
  simp only [Tracker.problem?, sound.isNode_of_member member]
  have owner := sound.isNode_of_member genuine.sent.member
  change node.tracker.isNode payload.owner = true at owner
  have length : payload.clock.length = node.tracker.clockLength := by
    rw [genuine.length_clock, Tracker.clockLength, sound.proper.nodeCount_eq,
      sound.membership_eq]
    rfl
  simp [owner, length]

theorem witnessedAck (sound : funnel.NodeSound id node) {payload : Payload}
    (different : id ≠ funnel.receiver) (genuine : funnel.Genuine payload)
    (received : funnel.Received payload.message)
    (ack : payload.isAck = true) :
    funnel.NodeSound id (node.witnessed funnel.receiver payload) := by
  have contributor := sound.contributor different
  have positive : 1 ≤ payload.uid.toNat := genuine.sent.positive
  have released : (node.tracker.record funnel.receiver payload).released =
      [] := by
    cases known : node.tracker.contains funnel.receiver payload.message with
    | true => rw [Tracker.record_of_contains known]
    | false =>
        rw [(sound.prompt.record_eq known positive).2]
        simp [ack]
  refine ⟨sound.proper.witnessed _ _, sound.me_eq, sound.membership_eq,
    sound.workload_eq, sound.prompt.record _ positive, ?_, ?_⟩
  · intro _
    constructor
    · intro sender message known
      rw [Node.tracker_witnessed, Tracker.contains_record_iff] at known
      rcases known with ⟨rfl, rfl⟩ | old
      · exact ⟨rfl, received⟩
      · exact contributor.witness sender message old
    · rw [Node.delivered_witnessed _ _ _ sound.proper.outputOpen, released,
        contributor.delivered_eq]
      rfl
  · intro same
    contradiction

/-- The receiver delivers data that it has not heard of, and takes no notice of
any other. -/
theorem witnessedData (sound : funnel.NodeSound id node) {payload : Payload}
    (same : id = funnel.receiver) (genuine : funnel.Genuine payload)
    (data : payload.isAck = false) :
    funnel.NodeSound id (node.witnessed payload.owner payload) := by
  have collector := sound.collector same
  have positive : 1 ≤ payload.uid.toNat := genuine.sent.positive
  cases known : node.tracker.contains payload.owner payload.message with
  | true =>
      rw [Node.witnessed_of_contains _ _ _ known]
      exact sound
  | false =>
      have delivered : (node.witnessed payload.owner payload).delivered =
          node.delivered ++ [payload] := by
        rw [Node.delivered_witnessed _ _ _ sound.proper.outputOpen,
          (sound.prompt.record_eq known positive).2,
          if_pos ⟨collector.witnessesOf_eq_nil known, data⟩]
      refine ⟨sound.proper.witnessed _ _, sound.me_eq, sound.membership_eq,
        sound.workload_eq, sound.prompt.record _ positive, ?_, ?_⟩
      · intro different
        contradiction
      · intro _
        apply collector.deliver known genuine _ delivered
        exact Tracker.contains_record_iff node.tracker payload.owner payload

end NodeSound

end Funnel

end CausalCast
