import CausalCast.Proofs.Node.Handling
import Mathlib.Data.List.Induction

/-!
# One relay for each message, one answer for each copy

A broadcast node handles payloads that anybody may have made up.  Each data
payload that its tracker accepts is answered by one acknowledgement.  A message
is relayed when the first of its data is accepted, one copy to each other
node, and never again.  The one exception is a message that was accepted
before, or then, from a payload that bears the node's own name: the node takes
it for a message that it has seen already and relays it to nobody.
-/

namespace CausalCast

namespace Node

def handleAll (node : Node) (payloads : List Payload) : Node :=
  payloads.foldl handlePayload node

/-- Whether the tracker of a node accepts a payload that the node handles. -/
def accepts (node : Node) (payload : Payload) : Bool :=
  (node.insert payload.sender payload).isOk

/-- Whether the tracker of a node accepts a payload of a message that bears the
node's own name. -/
def acceptsAsOwn (node : Node) (message : MessageId) (payload : Payload) :
    Bool :=
  node.accepts payload && payload.message == message &&
    payload.sender == node.me

/-- Whether the tracker of a node accepts data of a message. -/
def acceptsData (node : Node) (message : MessageId) (payload : Payload) :
    Bool :=
  node.accepts payload && payload.message == message && !payload.isAck

/-- The answer to a payload, addressed to the node that it names as its
sender. -/
def answerTo (node : Node) (payload : Payload) : Message :=
  Message.new payload.toAck payload.sender node.now

/-- One copy of a payload for each other node, under the node's own name. -/
def copiesOf (node : Node) (payload : Payload) : List Message :=
  (node.membership.peerIds node.me).map fun peer =>
    Message.new (payload.stamped node.me).toData peer node.now

def queuedData (node : Node) (message : MessageId) : List Message :=
  node.sending.toList.filter fun queued =>
    queued.payload.message == message && !queued.payload.isAck

/-! ## One payload -/

section Step

variable {node : Node} {payload : Payload}

theorem of_mem_copiesOf {copy : Message}
    (member : copy ∈ node.copiesOf payload) :
    copy.payload.message = payload.message ∧ copy.payload.isAck = false := by
  obtain ⟨peer, _, rfl⟩ := List.mem_map.mp member
  exact ⟨rfl, rfl⟩

theorem filter_copiesOf :
    (node.copiesOf payload).filter (fun queued =>
      queued.payload.message == payload.message && !queued.payload.isAck) =
      node.copiesOf payload := by
  rw [List.filter_eq_self]
  intro copy member
  obtain ⟨same, data⟩ := of_mem_copiesOf member
  simp [same, data]

theorem filter_copiesOf_of_ne {message : MessageId}
    (different : payload.message ≠ message) :
    (node.copiesOf payload).filter (fun queued =>
      queued.payload.message == message && !queued.payload.isAck) = [] := by
  rw [List.filter_eq_nil_iff]
  intro copy member
  simp [(of_mem_copiesOf member).1, different]

theorem accepts_iff :
    node.accepts payload = true ↔
      node.tracker.problem? payload.sender payload = none := by
  unfold accepts Node.insert Tracker.insert
  cases node.tracker.problem? payload.sender payload with
  | none => simp [Except.isOk, Except.toBool]
  | some problem => simp [Except.isOk, Except.toBool]

theorem sameSetup_heard (node : Node) (payload : Payload) :
    Tracker.SameSetup node.tracker (node.heard payload).tracker := by
  unfold heard
  split
  · exact .refl _
  · have first := Tracker.sameSetup_record node.tracker payload.sender payload
    split
    · exact first
    · exact first.trans (Tracker.sameSetup_record _ node.me payload)

/-- Handling a payload puts its replies at the end of the sending queue, and
changes nothing else that the link holds. -/
theorem handlePayload_appends (proper : node.Proper) (payload : Payload) :
    ∃ sending unacked, node.handlePayload payload =
        { node.heard payload with sending := sending, unacked := unacked } ∧
      sending.toList =
        node.sending.toList ++ (node.replies payload).map fun parcel =>
          Message.new parcel.payload parcel.recipient node.now := by
  have learns := learns_heard node payload
  obtain ⟨sending, items, _, sent⟩ :=
    sendAll_of_open (learns.proper proper).sendingOpen (node.replies payload)
  refine ⟨sending, _, (handlePayload_eq proper payload).trans sent, ?_⟩
  rw [items, learns.node_eq]

theorem replies_of_not_accepts (rejects : node.accepts payload = false) :
    node.replies payload = [] := by
  cases valid : node.tracker.problem? payload.sender payload with
  | none => simp [accepts_iff.mpr valid] at rejects
  | some problem => simp [replies, valid]

/-- What a broadcast node relays of data: a copy for each other node, if it
knew nothing of the message and the payload does not bear its own name. -/
theorem relays_witnessed (proper : node.Proper) (payload : Payload) :
    (node.witnessed payload.sender payload).relays payload =
      if node.tracker.contains node.me payload.message ||
          payload.sender == node.me then []
      else (node.membership.peerIds node.me).map fun peer =>
        ⟨(payload.stamped node.me).toData, peer⟩ := by
  have recorded := proper.witnessed payload.sender payload
  have seen : (node.witnessed payload.sender payload).tracker.wasSeen payload =
      (node.tracker.contains node.me payload.message ||
        payload.sender == node.me) := by
    rw [Bool.eq_iff_iff, Tracker.wasSeen, recorded.me_eq, tracker_witnessed,
      Tracker.contains_record_iff]
    simp only [me_witnessed, and_true, Bool.or_eq_true, beq_iff_eq]
    exact or_comm.trans (or_congr_right eq_comm)
  unfold relays
  rw [seen]
  rfl

end Step

/-! ## Payload after payload -/

/-- A node after handling some payloads, compared with the node before: its
setup is the same, and it has seen the messages of which it accepted data or a
payload that bears its own name. -/
structure Handled (origin : Node) (payloads : List Payload) (node : Node) :
    Prop where
  proper : node.Proper
  setup : Tracker.SameSetup origin.tracker node.tracker
  me_eq : node.me = origin.me
  membership_eq : node.membership = origin.membership
  workload_eq : node.workload = origin.workload
  now_eq : node.now = origin.now
  seen_iff : ∀ message, node.tracker.contains origin.me message = true ↔
    ∃ payload ∈ payloads, origin.acceptsData message payload = true ∨
      origin.acceptsAsOwn message payload = true

section Handled

variable {origin node : Node} {payloads : List Payload} {payload : Payload}

theorem parts_of_create {me : NodeId} {membership : Membership}
    {graph : CausalityGraph} {workload : Workload} {settings : LinkSettings}
    (created : create me membership graph workload settings = .ok node) :
    node.me = me ∧ node.membership = membership ∧ node.workload = workload ∧
      node.now = 0 ∧ (∀ message, node.queuedData message = []) ∧
      ∀ sender message, node.tracker.contains sender message = false := by
  unfold create at created
  split at created
  · contradiction
  · split at created
    · contradiction
    · obtain rfl := Except.ok.inj created
      refine ⟨rfl, rfl, rfl, rfl, fun _ => rfl, ?_⟩
      simp [Tracker.contains, Tracker.new]

theorem handled_of_create {me : NodeId} {membership : Membership}
    {graph : CausalityGraph} {workload : Workload} {settings : LinkSettings}
    (created : create me membership graph workload settings = .ok node) :
    Handled node [] node := by
  obtain ⟨_, _, _, _, _, unseen⟩ := parts_of_create created
  exact ⟨proper_of_create created, .refl _, rfl, rfl, rfl, rfl,
    by simp [unseen]⟩

namespace Handled

variable (handled : Handled origin payloads node)

include handled

theorem accepts_eq (payload : Payload) :
    node.accepts payload = origin.accepts payload := by
  rw [Bool.eq_iff_iff, accepts_iff, accepts_iff, handled.setup.problem?_eq]

theorem answerTo_eq (payload : Payload) :
    node.answerTo payload = origin.answerTo payload := by
  rw [answerTo, handled.now_eq, answerTo]

theorem copiesOf_eq (payload : Payload) :
    node.copiesOf payload = origin.copiesOf payload := by
  rw [copiesOf, handled.membership_eq, handled.me_eq, handled.now_eq, copiesOf]

/-- A payload adds its message to those seen, if it is accepted and is data or
bears the node's own name. -/
theorem contains_heard_iff (broadcast : origin.workload.isBroadcast = true)
    (payload : Payload) (message : MessageId) :
    (node.heard payload).tracker.contains origin.me message = true ↔
      (origin.acceptsData message payload = true ∨
        origin.acceptsAsOwn message payload = true) ∨
      node.tracker.contains origin.me message = true := by
  have kind : node.workload.isBroadcast = true := by
    rw [handled.workload_eq, broadcast]
  cases valid : node.tracker.problem? payload.sender payload with
  | some problem =>
      have rejects : origin.accepts payload = false := by
        rw [← handled.accepts_eq, ← Bool.not_eq_true, accepts_iff, valid]
        simp
      simp [heard, valid, acceptsData, acceptsAsOwn, rejects]
  | none =>
      have accepts : origin.accepts payload = true := by
        rw [← handled.accepts_eq, accepts_iff, valid]
      simp only [acceptsData, acceptsAsOwn, accepts, Bool.true_and,
        Bool.and_eq_true, beq_iff_eq, Bool.not_eq_true']
      cases ack : payload.isAck with
      | true =>
          rw [(heard_of_ack valid ack).1, tracker_witnessed,
            Tracker.contains_record_iff]
          simp only [Bool.true_eq_false, and_false, false_or]
          constructor
          · rintro (⟨own, same⟩ | known)
            · exact .inl ⟨same.symm, own.symm⟩
            · exact .inr known
          · rintro (⟨same, own⟩ | known)
            · exact .inl ⟨own.symm, same.symm⟩
            · exact .inr known
      | false =>
          rw [(heard_of_data valid ack kind).1, tracker_witnessed,
            Tracker.contains_record_iff, tracker_witnessed,
            Tracker.contains_record_iff, handled.me_eq]
          simp only [true_and, and_true]
          constructor
          · rintro (rfl | ⟨own, rfl⟩ | known)
            · exact .inl (.inl rfl)
            · exact .inl (.inl rfl)
            · exact .inr known
          · rintro ((rfl | ⟨rfl, _⟩) | known)
            · exact .inl rfl
            · exact .inl rfl
            · exact .inr (.inr known)

theorem handle (broadcast : origin.workload.isBroadcast = true)
    (payload : Payload) :
    Handled origin (payloads ++ [payload]) (node.handlePayload payload) := by
  have learns := learns_heard node payload
  have proper := (queuesOnly_handlePayload handled.proper payload).proper
    (learns.proper handled.proper)
  obtain ⟨sending, unacked, after, _⟩ :=
    handlePayload_appends handled.proper payload
  rw [after] at proper ⊢
  refine ⟨proper, handled.setup.trans (sameSetup_heard node payload), ?_, ?_,
    ?_, ?_, ?_⟩
  · rw [learns.node_eq]
    exact handled.me_eq
  · rw [learns.node_eq]
    exact handled.membership_eq
  · rw [learns.node_eq]
    exact handled.workload_eq
  · rw [learns.node_eq]
    exact handled.now_eq
  · intro message
    refine (handled.contains_heard_iff broadcast payload message).trans ?_
    rw [handled.seen_iff]
    simp only [List.mem_append, List.mem_singleton, or_and_right, exists_or,
      exists_eq_left]
    exact or_comm

/-- What handling a payload queues: nothing if it is rejected or an
acknowledgement, and otherwise an answer, followed by copies if the node has not
seen the message and the payload does not bear its own name. -/
theorem toList_sending_handlePayload
    (broadcast : origin.workload.isBroadcast = true) (payload : Payload) :
    (node.handlePayload payload).sending.toList = node.sending.toList ++
      if origin.acceptsData payload.message payload then
        origin.answerTo payload ::
          if node.tracker.contains origin.me payload.message ||
              payload.sender == origin.me then []
          else origin.copiesOf payload
      else [] := by
  have kind : node.workload.isBroadcast = true := by
    rw [handled.workload_eq, broadcast]
  obtain ⟨sending, unacked, after, items⟩ :=
    handlePayload_appends handled.proper payload
  rw [after, items, List.append_cancel_left_eq, acceptsData,
    ← handled.accepts_eq, ← handled.answerTo_eq, ← handled.copiesOf_eq,
    ← handled.me_eq]
  cases accepts : node.accepts payload with
  | false => simp [replies_of_not_accepts accepts]
  | true =>
      have valid := accepts_iff.mp accepts
      cases ack : payload.isAck with
      | true => simp [(heard_of_ack valid ack).2]
      | false =>
          rw [(heard_of_data valid ack kind).2,
            relays_witnessed handled.proper]
          simp only [List.map_cons, Bool.true_and, beq_self_eq_true,
            Bool.not_false, if_true, answerTo, copiesOf]
          split
          · rfl
          · rw [List.map_map]
            rfl

theorem handlePayload_of_data
    (broadcast : origin.workload.isBroadcast = true)
    (data : origin.acceptsData payload.message payload = true) :
    ∃ copies, (node.handlePayload payload).sending.toList =
        node.sending.toList ++ origin.answerTo payload :: copies ∧
      ∀ copy ∈ copies, copy.payload.message = payload.message ∧
        copy.payload.isAck = false := by
  refine ⟨_, (handled.toList_sending_handlePayload broadcast payload).trans
    (by rw [if_pos data]), ?_⟩
  split
  · simp
  · exact fun copy => of_mem_copiesOf

theorem queuedData_handlePayload
    (broadcast : origin.workload.isBroadcast = true) (payload : Payload)
    (message : MessageId) :
    (node.handlePayload payload).queuedData message = node.queuedData message ++
      if origin.acceptsData message payload &&
          !(node.tracker.contains origin.me message ||
            payload.sender == origin.me) then origin.copiesOf payload
      else [] := by
  rw [queuedData, handled.toList_sending_handlePayload broadcast,
    List.filter_append, queuedData, List.append_cancel_left_eq]
  cases data : origin.acceptsData payload.message payload with
  | false =>
      have other : origin.acceptsData message payload = false := by
        simp only [acceptsData, beq_self_eq_true, Bool.and_true] at data ⊢
        rw [Bool.and_right_comm, data, Bool.false_and]
      simp [other]
  | true =>
      have answer : (origin.answerTo payload).payload.isAck = true := rfl
      by_cases same : payload.message = message
      · subst same
        simp only [data, if_true, answer, Bool.not_true, Bool.and_false,
          Bool.false_eq_true, not_false_eq_true, List.filter_cons_of_neg,
          Bool.true_and, Bool.not_eq_true', apply_ite (List.filter _),
          List.filter_nil, filter_copiesOf]
        cases node.tracker.contains origin.me payload.message ||
          payload.sender == origin.me <;> rfl
      · have other : origin.acceptsData message payload = false := by
          simp [acceptsData, same]
        simp only [if_true, answer, Bool.not_true, Bool.and_false,
          Bool.false_eq_true, not_false_eq_true, List.filter_cons_of_neg,
          apply_ite (List.filter _), List.filter_nil,
          filter_copiesOf_of_ne same, ite_self, other, Bool.false_and,
          if_false]

end Handled

end Handled

/-! ## A whole run -/

section Run

variable {origin : Node} (start : Handled origin [] origin)
  (broadcast : origin.workload.isBroadcast = true)

theorem handleAll_concat (node : Node) (payloads : List Payload)
    (payload : Payload) :
    node.handleAll (payloads ++ [payload]) =
      (node.handleAll payloads).handlePayload payload := by
  simp [handleAll]

include start broadcast

theorem handled_handleAll (payloads : List Payload) :
    Handled origin payloads (origin.handleAll payloads) := by
  induction payloads using List.reverseRecOn with
  | nil => exact start
  | append_singleton payloads payload induction =>
      rw [handleAll_concat]
      exact induction.handle broadcast payload

theorem queuedData_of_no_data (payloads : List Payload) {message : MessageId}
    (nothing : origin.queuedData message = [])
    (absent : ∀ payload ∈ payloads,
      origin.acceptsData message payload = false) :
    (origin.handleAll payloads).queuedData message = [] := by
  induction payloads using List.reverseRecOn with
  | nil => exact nothing
  | append_singleton payloads payload induction =>
      have handled := handled_handleAll start broadcast payloads
      rw [handleAll_concat, handled.queuedData_handlePayload broadcast,
        absent payload (by simp), induction fun earlier member =>
          absent earlier (List.mem_append_left _ member)]
      simp

/-- Once data of a message was accepted, no further copy of it is queued. -/
theorem queuedData_append (earlier later : List Payload) {message : MessageId}
    (accepted : ∃ payload ∈ earlier,
      origin.acceptsData message payload = true) :
    (origin.handleAll (earlier ++ later)).queuedData message =
      (origin.handleAll earlier).queuedData message := by
  induction later using List.reverseRecOn with
  | nil => rw [List.append_nil]
  | append_singleton later payload induction =>
      have handled := handled_handleAll start broadcast (earlier ++ later)
      have seen : (origin.handleAll (earlier ++ later)).tracker.contains
          origin.me message = true := by
        obtain ⟨payload, member, data⟩ := accepted
        exact (handled.seen_iff message).mpr
          ⟨payload, List.mem_append_left _ member, .inl data⟩
      rw [← List.append_assoc, handleAll_concat,
        handled.queuedData_handlePayload broadcast, induction, seen]
      simp

/-- The first data of a message that is accepted brings its copies, unless the
message has come under the node's own name. -/
theorem queuedData_first {earlier : List Payload} {first : Payload}
    {message : MessageId} (nothing : origin.queuedData message = [])
    (data : origin.acceptsData message first = true)
    (absent : ∀ payload ∈ earlier, origin.acceptsData message payload = false) :
    (origin.handleAll (earlier ++ [first])).queuedData message =
      if (earlier ++ [first]).any (origin.acceptsAsOwn message) then []
      else origin.copiesOf first := by
  have handled := handled_handleAll start broadcast earlier
  have seen : (origin.handleAll earlier).tracker.contains origin.me message =
      earlier.any (origin.acceptsAsOwn message) := by
    rw [Bool.eq_iff_iff, handled.seen_iff, List.any_eq_true]
    refine exists_congr fun payload => and_congr_right fun member => ?_
    simp [absent payload member]
  have own : origin.acceptsAsOwn message first =
      (first.sender == origin.me) := by
    simp only [acceptsData, Bool.and_eq_true] at data
    simp [acceptsAsOwn, data.1.1, data.1.2]
  rw [handleAll_concat, handled.queuedData_handlePayload broadcast,
    queuedData_of_no_data start broadcast earlier nothing absent, data, seen,
    List.any_append, List.any_cons, List.any_nil, Bool.or_false, own]
  cases earlier.any (origin.acceptsAsOwn message) ||
    first.sender == origin.me <;> rfl

end Run

/-- A broadcast node answers every data payload that its tracker accepts with
one acknowledgement; what it rejects and acknowledgements bring no message.
A message of which it accepts data is relayed to each other node once, namely
when its first data is accepted, unless it was accepted by then from a payload
that bears the node's own name; it is then never relayed. -/
theorem relayed_once_answered_always {me : NodeId} {membership : Membership}
    {graph : CausalityGraph} {workload : Workload} {settings : LinkSettings}
    {node : Node}
    (created : create me membership graph workload settings = .ok node)
    (broadcast : workload.isBroadcast = true) :
    (∀ payloads payload,
      (node.handleAll payloads).accepts payload = node.accepts payload) ∧
    (∀ payloads payload, node.accepts payload = true → payload.isAck = false →
      ∃ copies, (node.handleAll (payloads ++ [payload])).sending.toList =
          (node.handleAll payloads).sending.toList ++
            node.answerTo payload :: copies ∧
        ∀ copy ∈ copies, copy.payload.message = payload.message ∧
          copy.payload.isAck = false) ∧
    (∀ payloads payload, node.accepts payload = false ∨ payload.isAck = true →
      (node.handleAll (payloads ++ [payload])).sending.toList =
        (node.handleAll payloads).sending.toList) ∧
    ∀ payloads message, payloads.any (node.acceptsData message) = true →
      ∃ earlier first later, payloads = earlier ++ first :: later ∧
        (∀ payload ∈ earlier, node.acceptsData message payload = false) ∧
        node.acceptsData message first = true ∧
        (node.handleAll earlier).queuedData message = [] ∧
        (node.handleAll (earlier ++ [first])).queuedData message =
          (node.handleAll payloads).queuedData message ∧
        (node.handleAll payloads).queuedData message =
          if (earlier ++ [first]).any (node.acceptsAsOwn message) then []
          else (membership.peerIds me).map fun peer =>
            Message.new (first.stamped me) peer 0 := by
  have start := handled_of_create created
  obtain ⟨me_eq, membership_eq, rfl, now_eq, empty, _⟩ :=
    parts_of_create created
  refine ⟨?_, ?_, ?_, ?_⟩
  · intro payloads payload
    exact (handled_handleAll start broadcast payloads).accepts_eq payload
  · intro payloads payload accepts data
    have accepted : node.acceptsData payload.message payload = true := by
      simp [acceptsData, accepts, data]
    rw [handleAll_concat]
    exact (handled_handleAll start broadcast
      payloads).handlePayload_of_data broadcast accepted
  · intro payloads payload silent
    have unaccepted : node.acceptsData payload.message payload = false := by
      rcases silent with rejected | ack
      · simp [acceptsData, rejected]
      · simp [acceptsData, ack]
    rw [handleAll_concat, (handled_handleAll start broadcast
      payloads).toList_sending_handlePayload broadcast, unaccepted]
    simp
  · intro payloads message accepted
    obtain ⟨first, found⟩ := Option.isSome_iff_exists.mp
      (List.find?_isSome.mpr (List.any_eq_true.mp accepted))
    obtain ⟨data, earlier, later, rfl, absent⟩ :=
      List.find?_eq_some_iff_append.mp found
    simp only [Bool.not_eq_true'] at absent
    have whole := queuedData_append start broadcast (earlier ++ [first]) later
      ⟨first, by simp, data⟩
    rw [List.append_assoc, List.singleton_append] at whole
    have copies := queuedData_first start broadcast (empty message) data absent
    have bare : (first.stamped me).toData = first.stamped me := by
      simp only [acceptsData, Bool.and_eq_true, Bool.not_eq_true'] at data
      simp [Payload.toData, Payload.stamped, data.2]
    rw [copiesOf, me_eq, membership_eq, now_eq, bare] at copies
    exact ⟨earlier, first, later, rfl, absent, data,
      queuedData_of_no_data start broadcast earlier (empty message) absent,
      whole.symm, whole.trans copies⟩

/-- Of two nodes, the second relays a message of the first back to it. -/
theorem relayed_once_of_pair :
    ∃ node, create 2 .pair (.empty 3) (.broadcast 1) {} = .ok node ∧
      (node.handleAll [.data 1 1 [49] 3]).queuedData ⟨1, 1⟩ =
        [Message.new ((Payload.data 1 1 [49] 3).stamped 2) 1 0] := by
  obtain ⟨node, created, valid⟩ :
      ∃ node, create 2 .pair (.empty 3) (.broadcast 1) {} = .ok node ∧
        node.tracker.problem? 1 (.data 1 1 [49] 3) = none :=
    ⟨_, rfl, rfl⟩
  obtain ⟨me_eq, _⟩ := parts_of_create created
  obtain ⟨_, _, _, relayed⟩ := relayed_once_answered_always created rfl
  have accepted : node.acceptsData ⟨1, 1⟩ (.data 1 1 [49] 3) = true := by
    rw [acceptsData, accepts_iff.mpr valid]
    rfl
  obtain ⟨earlier, first, later, split, _, _, _, _, copies⟩ :=
    relayed [.data 1 1 [49] 3] ⟨1, 1⟩ (by simp [accepted])
  obtain ⟨rfl, rfl, rfl⟩ : earlier = [] ∧
      first = .data 1 1 [49] 3 ∧ later = [] := by
    have short := congrArg List.length split
    cases earlier with
    | nil => simpa [eq_comm] using split
    | cons _ _ => simp at short
  have foreign : node.acceptsAsOwn ⟨1, 1⟩ (.data 1 1 [49] 3) = false := by
    simp [acceptsAsOwn, me_eq, Payload.data]
  refine ⟨node, created, copies.trans ?_⟩
  simp only [List.nil_append, List.any_cons, foreign, List.any_nil]
  rfl

/-- A message whose first data bears the node's own name is answered, but not
relayed to the other node. -/
theorem unrelayed_under_own_name :
    ∃ node, create 2 .pair (.empty 3) (.broadcast 1) {} = .ok node ∧
      node.accepts ((Payload.data 1 1 [49] 3).stamped 2) = true ∧
      ((Payload.data 1 1 [49] 3).stamped 2).isAck = false ∧
      (node.handleAll [(Payload.data 1 1 [49] 3).stamped 2]).queuedData
        ⟨1, 1⟩ = [] ∧
      Membership.pair.peerIds 2 = [1] := by
  obtain ⟨node, created, valid⟩ :
      ∃ node, create 2 .pair (.empty 3) (.broadcast 1) {} = .ok node ∧
        node.tracker.problem? ((Payload.data 1 1 [49] 3).stamped 2).sender
          ((Payload.data 1 1 [49] 3).stamped 2) = none :=
    ⟨_, rfl, rfl⟩
  obtain ⟨me_eq, _, kind, _, empty, _⟩ := parts_of_create created
  have accepts := accepts_iff.mpr valid
  have data : node.acceptsData ⟨1, 1⟩ ((Payload.data 1 1 [49] 3).stamped 2) =
      true := by
    rw [acceptsData, accepts]
    rfl
  have own : node.acceptsAsOwn ⟨1, 1⟩ ((Payload.data 1 1 [49] 3).stamped 2) =
      true := by
    rw [acceptsAsOwn, accepts, me_eq]
    rfl
  have copies := queuedData_first (handled_of_create created)
    (congrArg Workload.isBroadcast kind) (empty _) data
    (List.forall_mem_nil _)
  refine ⟨node, created, accepts, rfl, copies.trans ?_, rfl⟩
  simp [own]

end Node

end CausalCast
