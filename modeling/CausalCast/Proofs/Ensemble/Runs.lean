import CausalCast.Proofs.Ensemble.Handling

/-!
# Runs keep the invariant

A step changes one link, or takes something from the air, or repeats what is
there.  In each case what the ensemble knows grows, and the link that moves
stays in order; so every step keeps the invariant, and every reachable ensemble
has it.
-/

namespace CausalCast

namespace Ensemble

/-! ## Steps -/

theorem Grows.of_links {before after : Ensemble} {id : NodeId} {link : Link}
    (membership : after.membership = before.membership)
    (graph : after.graph = before.graph)
    (history : before.history <+: after.history)
    (links : after.links = Function.update before.links id link)
    (kept : ∀ message,
      (before.node id).tracker.contains id message = true →
        link.node.tracker.contains id message = true) :
    Grows before after := by
  refine ⟨membership, graph, ?_, ?_⟩
  · intro payload member
    obtain ⟨entry, listed, rfl⟩ := List.mem_map.mp member
    exact List.mem_map_of_mem (history.subset listed)
  · intro other message saw
    rw [node, links]
    by_cases same : other = id
    · subst same
      rw [Function.update_self]
      exact kept message saw
    · rw [Function.update_of_ne same]
      exact saw

theorem grows_of_queuesOnly (before : Ensemble) (id : NodeId) (link : Link)
    (only : Node.QueuesOnly (before.node id) link.node)
    (air : List Datagram) :
    Grows before { before.setLink id link with air := air } := by
  refine Grows.of_links rfl rfl (List.prefix_refl _) rfl ?_
  intro message saw
  rw [only.tracker_eq]
  exact saw

def originated (ensemble : Ensemble) (id : NodeId) (uid : UInt32)
    (content : List UInt8) : Ensemble :=
  { ensemble.setLink id ((ensemble.links id).withNode
      ((ensemble.node id).originate uid content).1) with
    history := ensemble.history ++ [⟨id,
      (ensemble.node id).firstCopy uid content, (ensemble.node id).delivered⟩] }

theorem invariant_of_initial {ensemble : Ensemble}
    (initial : ensemble.Initial) : ensemble.Invariant := by
  obtain ⟨edges, built⟩ := initial.graph_eq
  have coherent := (CausalityGraph.coherent_ofEdges built).1
  refine ⟨?_, ?_, ?_, ?_⟩
  · rw [initial.history_eq]
    exact .nil
  · simp [messages, initial.history_eq]
  · intro id member
    obtain ⟨messages, settings, created⟩ := initial.created id member
    exact .of_create coherent rfl created (initial.flight_eq id member)
      (initial.held_eq id member)
  · rw [initial.air_eq]
    simp

namespace Invariant

variable {before : Ensemble} (invariant : before.Invariant)

include invariant

/-- A step that changes one link keeps the invariant if that link stays in
order and what is new in the history and in the air is vouched for. -/
theorem update {after : Ensemble} {id : NodeId} {link : Link}
    (grows : Grows before after)
    (chronicle : Chronicle after.membership after.history)
    (links : after.links = Function.update before.links id link)
    (owned : ∀ payload ∈ after.messages, payload ∈ before.messages ∨
      after.Vouched payload.owner payload)
    (moved : after.LinkSound id link)
    (air : ∀ datagram ∈ after.air,
      datagram ∈ before.air ∨ after.Borne datagram) : after.Invariant := by
  refine ⟨chronicle, ?_, ?_, ?_⟩
  · intro payload member
    rcases owned payload member with old | new
    · exact (invariant.owned payload old).grow grows
    · exact new
  · intro other member
    rw [links]
    by_cases same : other = id
    · subst same
      rw [Function.update_self]
      exact moved
    · rw [Function.update_of_ne same]
      rw [grows.membership_eq] at member
      exact (invariant.links other member).grow grows
  · intro datagram aloft
    rcases air datagram aloft with old | new
    · exact (invariant.air datagram old).grow grows
    · exact new

/-- A step that originates nothing keeps the invariant if the link that it
changes stays in order and what is new in the air is vouched for. -/
theorem setLink {id : NodeId} {link : Link} {air : List Datagram}
    (grows : Grows before { before.setLink id link with air := air })
    (moved : LinkSound { before.setLink id link with air := air } id link)
    (borne : ∀ datagram ∈ air, datagram ∈ before.air ∨
      Borne { before.setLink id link with air := air } datagram) :
    Invariant { before.setLink id link with air := air } :=
  invariant.update grows invariant.chronicle rfl (fun _ old => .inl old) moved
    borne

theorem withAir {air : List Datagram} (subset : air ⊆ before.air) :
    Invariant { before with air := air } := by
  have grows : Grows before { before with air := air } :=
    ⟨rfl, rfl, fun _ member => member, fun _ _ saw => saw⟩
  refine ⟨invariant.chronicle, ?_, ?_, ?_⟩
  · intro payload member
    exact (invariant.owned payload member).grow grows
  · intro id member
    exact (invariant.links id member).grow grows
  · intro datagram aloft
    exact (invariant.air datagram (subset aloft)).grow grows

theorem handleDatagram_eq {id : NodeId}
    (member : before.membership.contains id = true) {bytes : List UInt8}
    {payload : Payload} (made : bytes = payload.toBytes)
    (fits : payload.encodedLength ≤ Payload.maxDatagram)
    (vouched : before.Vouched payload.sender payload) :
    (before.node id).handleDatagram bytes =
      (before.node id).handlePayload payload := by
  have length : payload.clock.length = (before.node id).clockLength := by
    rw [Node.clockLength, (invariant.nodeSound member).membership_eq]
    exact invariant.chronicle.length_clock vouched.genuine
  rw [made, Node.handleDatagram_toBytes _ fits length]

/-- Handling a payload that is vouched for keeps the invariant. -/
theorem handle {id : NodeId}
    (member : before.membership.contains id = true) {payload : Payload}
    (vouched : before.Vouched payload.sender payload) {air : List Datagram}
    (subset : air ⊆ before.air) :
    Invariant { before.setLink id ((before.links id).withNode
      ((before.node id).handlePayload payload)) with air := air } := by
  have sound := invariant.links id member
  have grows : Grows before { before.setLink id ((before.links id).withNode
      ((before.node id).handlePayload payload)) with air := air } := by
    refine Grows.of_links rfl rfl (List.prefix_refl _) rfl ?_
    intro message saw
    exact Node.contains_handlePayload sound.node.proper payload saw
  have known := sound.grow grows
  have sent := vouched.grow grows
  have echo : payload.sender = id →
      (before.node id).tracker.contains id payload.message = true := by
    intro same
    have saw := vouched.saw
    rw [same] at saw
    exact saw
  apply invariant.setLink grows ?_ (fun _ aloft => .inl (subset aloft))
  cases ack : payload.isAck with
  | true => exact known.handleAck invariant.chronicle sent ack echo
  | false =>
      refine known.handleData invariant.chronicle sent ?_ ack echo
      refine ⟨sent.genuine, member, ?_⟩
      have valid := known.node.problem?_eq_none invariant.chronicle sent
      have saw := Node.contains_me_handlePayload sound.node.proper valid ack
        sound.node.broadcast
      rw [sound.node.me_eq] at saw
      rw [Ensemble.node]
      simp only [Ensemble.setLink, Function.update_self, Link.node_withNode]
      exact saw

theorem quiet {after : Ensemble} (step : Quiet before after) :
    after.Invariant := by
  cases step with
  | @sender id outcomes link datagrams member step =>
      have move := Link.senderMove_of_stepSender step
      have grows := before.grows_of_queuesOnly id link move.queuesOnly
        (before.air ++ datagrams)
      have sound := (invariant.links id member).grow grows
      apply invariant.setLink grows (sound.sender move)
      intro datagram aloft
      rcases List.mem_append.mp aloft with old | new
      · exact .inl old
      · exact .inr (sound.borne move new)
  | @retransmitter id link member step =>
      have move := Link.retransmitterMove_of_stepRetransmitter step
      have grows :=
        before.grows_of_queuesOnly id link move.queuesOnly before.air
      have sound := (invariant.links id member).grow grows
      exact invariant.setLink grows (sound.retransmitter move)
        (fun _ old => .inl old)
  | tick id member =>
      have grows := before.grows_of_queuesOnly id (before.links id).tick
        (before.node id).queuesOnly_tick before.air
      have sound := (invariant.links id member).grow grows
      exact invariant.setLink grows sound.tick (fun _ old => .inl old)
  | lose index => exact invariant.withAir (List.eraseIdx_subset)
  | copy aloft =>
      apply invariant.withAir
      apply List.append_subset.mpr
      exact ⟨List.Subset.refl _, List.cons_subset.mpr ⟨aloft, List.nil_subset _⟩⟩
  | @arrive id index datagram found addressed =>
      have member : before.membership.contains id = true := by
        rw [← Membership.address?_isSome, addressed]
        rfl
      obtain ⟨payload, bytes, fits, vouched⟩ :=
        invariant.air datagram (List.mem_of_getElem? found)
      rw [invariant.handleDatagram_eq member bytes fits vouched]
      exact invariant.handle member vouched List.eraseIdx_subset

/-- Originating the next message keeps the invariant. -/
theorem originate {id : NodeId} {uid : UInt32} {content : List UInt8}
    (member : before.membership.contains id = true)
    (next : uid.toNat = before.history.countP (·.origin = id) + 1)
    (room : uid ≠ lastUid) :
    (before.originated id uid content).Invariant := by
  have sound := invariant.links id member
  have proper := sound.node.proper
  have chronicle := invariant.chronicle.snoc
    (sound.node.follows member content next room)
  have fresh := sound.node.fresh_firstCopy invariant.chronicle content next
  have grows : Grows before (before.originated id uid content) := by
    refine Grows.of_links rfl rfl (List.prefix_append _ _) rfl ?_
    intro message saw
    exact (Node.contains_originate_iff proper uid content id message).mpr
      (.inr saw)
  have seen : (before.originated id uid content).Vouched id
      ((before.node id).firstCopy uid content) := by
    refine ⟨?_, member, ?_⟩
    · simp only [messages, originated, List.map_append, List.mem_append]
      right
      exact List.mem_singleton.mpr rfl
    · rw [Ensemble.node]
      simp only [originated, Ensemble.setLink, Function.update_self,
        Link.node_withNode]
      apply (Node.contains_originate_iff proper uid content id _).mpr
      left
      exact ⟨sound.node.me_eq.symm, rfl⟩
  have moved := (sound.grow grows).originate chronicle fresh seen
  refine invariant.update grows chronicle rfl ?_ moved (fun _ old => .inl old)
  intro payload listed
  simp only [messages, originated, List.map_append, List.mem_append] at listed
  rcases listed with old | new
  · exact .inl old
  · right
    obtain rfl := List.mem_singleton.mp new
    have owner : ((before.node id).firstCopy uid content).owner = id :=
      sound.node.me_eq
    change Vouched _ ((before.node id).firstCopy uid content).owner _
    rw [owner]
    exact seen

theorem originated_of_made {id : NodeId} {uid : UInt32} {content : List UInt8}
    {after : Node} {payload : Payload}
    (member : before.membership.contains id = true)
    (made : (before.node id).originate uid content = (after, .ok payload)) :
    { before.setLink id ((before.links id).withNode after) with
      history := before.history ++
        [⟨id, payload, (before.node id).delivered⟩] } =
      before.originated id uid content := by
  have proper := (invariant.nodeSound member).proper
  have result := Node.originate_eq proper uid content
  rw [made] at result
  obtain ⟨_, firstCopy⟩ := Prod.mk.inj result
  obtain rfl := Except.ok.inj firstCopy
  rw [originated, made]

theorem step {after : Ensemble} (step : Step before after) :
    after.Invariant := by
  cases step with
  | quiet step => exact invariant.quiet step
  | originate id uid content member next room made =>
      rw [invariant.originated_of_made member made]
      exact invariant.originate member next room

end Invariant

theorem invariant_of_reachable {ensemble : Ensemble}
    (reachable : ensemble.Reachable) : ensemble.Invariant := by
  induction reachable with
  | initial initial => exact invariant_of_initial initial
  | step _ step induction => exact induction.step step

end Ensemble

end CausalCast
