import CausalCast.Proofs.Link.Accounts

/-!
# Looking whether a node is idle

Whether a node is idle is found out by four reads: of the number of its
messages that were handed to the link, of the depths of the two queues, and of
the count of data that is not acknowledged.  A probe makes these reads one after
the other while everything else goes on, and stops at the first that speaks
against it.  The last read carries the answer: since every send is counted
before it enters the queue, a count of 0 means that there is no data in the
link or on its way to it, whatever happened since the reads before.
-/

namespace CausalCast

/-- Two states of a node of which the later has the same workload and counts no
fewer messages as enqueued. -/
structure Node.Produces (before after : Node) : Prop where
  me_eq : after.me = before.me
  workload_eq : after.workload = before.workload
  enqueued_le : before.enqueued ≤ after.enqueued

theorem Node.QueuesOnly.produces {before after : Node}
    (only : QueuesOnly before after) : Produces before after :=
  ⟨only.me_eq, only.workload_eq, UInt32.le_of_eq only.enqueued_eq.symm⟩

/-- How far a probe has come: what it reads next, or what it answered. -/
inductive Probe where
  | enqueued
  | sending
  | retransmissions
  | unacked
  | answered (idle : Bool)
deriving DecidableEq

namespace Probe

def read (node : Node) : Probe → Option Probe
  | enqueued =>
      some (if node.workload.originatedBy node.me ≤ node.enqueued then sending
        else answered false)
  | sending =>
      some (if node.sending.depth = 0 then retransmissions else answered false)
  | retransmissions =>
      some (if node.retransmissions.depth = 0 then unacked
        else answered false)
  | unacked => some (answered (node.unacked == 0))
  | answered _ => none

/-- A probe that nothing interrupts answers what the node does in one go. -/
theorem reads_isIdle (node : Node) :
    Relation.ReflTransGen (fun before after => before.read node = some after)
      enqueued (answered node.isIdle) := by
  by_cases whole : node.workload.originatedBy node.me ≤ node.enqueued
  case neg =>
      refine .single ?_
      simp [read, Node.isIdle, whole]
  case pos =>
      have first : enqueued.read node = some sending := by
        simp [read, whole]
      refine .head first ?_
      by_cases sent : node.sending.depth = 0
      case neg =>
          refine .single ?_
          simp [read, Node.isIdle, Node.isLinkIdle, sent]
      case pos =>
          have second : sending.read node = some retransmissions := by
            simp [read, sent]
          refine .head second ?_
          by_cases parked : node.retransmissions.depth = 0
          case neg =>
              refine .single ?_
              simp [read, Node.isIdle, Node.isLinkIdle, parked]
          case pos =>
              have third : retransmissions.read node = some unacked := by
                simp [read, parked]
              refine .head third (.single ?_)
              simp [read, Node.isIdle, Node.isLinkIdle, whole, sent, parked]

/-- Whether a probe has found that the whole workload was handed to the link. -/
def Assured (node : Node) : Probe → Prop
  | enqueued | answered _ => True
  | _ => node.workload.originatedBy node.me ≤ node.enqueued

/-- What a probe has found stays true. -/
theorem assured_of_produces {before after : Node}
    (produces : before.Produces after) {probe : Probe}
    (assured : probe.Assured before) : probe.Assured after := by
  have kept : before.workload.originatedBy before.me ≤ before.enqueued →
      after.workload.originatedBy after.me ≤ after.enqueued := by
    rw [produces.me_eq, produces.workload_eq]
    exact fun whole => UInt32.le_trans whole produces.enqueued_le
  cases probe with
  | enqueued => exact trivial
  | sending => exact kept assured
  | retransmissions => exact kept assured
  | unacked => exact kept assured
  | answered => exact trivial

theorem assured_of_read {node : Node} {probe next : Probe}
    (assured : probe.Assured node) (read : probe.read node = some next) :
    next.Assured node := by
  cases probe with
  | enqueued =>
      obtain rfl := Option.some.inj read
      split
      case isTrue whole => exact whole
      case isFalse => exact trivial
  | sending =>
      obtain rfl := Option.some.inj read
      split
      · exact assured
      · exact trivial
  | retransmissions =>
      obtain rfl := Option.some.inj read
      split
      · exact assured
      · exact trivial
  | unacked =>
      obtain rfl := Option.some.inj read
      exact trivial
  | answered => contradiction

/-- A probe answers that the node is idle at its last read, and only if nothing
is counted then. -/
theorem of_read_idle {node : Node} {probe : Probe}
    (read : probe.read node = some (.answered true)) :
    probe = .unacked ∧ node.unacked = 0 := by
  cases probe with
  | enqueued =>
      have answer := Option.some.inj read
      split at answer <;> simp at answer
  | sending =>
      have answer := Option.some.inj read
      split at answer <;> simp at answer
  | retransmissions =>
      have answer := Option.some.inj read
      split at answer <;> simp at answer
  | unacked => exact ⟨rfl, by simpa [Probe.read] using read⟩
  | answered => contradiction

end Probe

namespace Depot

/-- One step at a depot that a probe looks at: something happens there, the
probe makes its next read, or it starts again. -/
inductive Watch : Depot × Probe → Depot × Probe → Prop where
  | step {depot after : Depot} {probe : Probe} (step : Step depot after) :
      Watch (depot, probe) (after, probe)
  | read {depot : Depot} {probe next : Probe}
      (read : probe.read depot.node = some next) :
      Watch (depot, probe) (depot, next)
  | again {depot : Depot} {idle : Bool} :
      Watch (depot, .answered idle) (depot, .enqueued)

/-- Whether a fresh depot can come to a state while a probe looks at it. -/
def Reached (depot : Depot) (probe : Probe) : Prop :=
  ∃ origin : Depot, origin.Fresh ∧
    Relation.ReflTransGen Watch (origin, .enqueued) (depot, probe)

theorem Step.produces {depot after : Depot} (step : Step depot after) :
    Node.Produces depot.node after.node := by
  cases step with
  | count parcel =>
      rw [Node.countUnacked_eq]
      exact ⟨rfl, rfl, UInt32.le_refl _⟩
  | post _ accepted =>
      obtain ⟨filled, _, rfl⟩ := Node.of_post accepted
      exact ⟨rfl, rfl, UInt32.le_refl _⟩
  | refuse _ closed =>
      obtain rfl := Node.eq_of_post_error closed
      exact ⟨rfl, rfl, UInt32.le_refl _⟩
  | takeBack =>
      rw [Node.discountUnacked_eq]
      exact ⟨rfl, rfl, UInt32.le_refl _⟩
  | sender _ step =>
      exact (Link.senderMove_of_stepSender step).queuesOnly.produces
  | @endSender outcomes link _ ended =>
      obtain ⟨_, _, stopped, node_eq⟩ := Link.of_endSender ended
      change Node.Produces depot.link.node link.node
      rw [node_eq]
      exact ⟨rfl, rfl, UInt32.le_refl _⟩
  | retransmitter _ step =>
      exact (Link.retransmitterMove_of_stepRetransmitter
        step).queuesOnly.produces
  | @endRetransmitter link _ ended =>
      obtain ⟨_, _, stopped, node_eq⟩ := Link.of_endRetransmitter ended
      change Node.Produces depot.link.node link.node
      rw [node_eq]
      exact ⟨rfl, rfl, UInt32.le_refl _⟩
  | hear recorded =>
      obtain rfl := Node.eq_witnessed_of_insert recorded
      exact ⟨rfl, rfl, UInt32.le_refl _⟩
  | produce room => exact ⟨rfl, rfl, UInt32.le_of_lt room⟩
  | tick => exact ⟨rfl, rfl, UInt32.le_refl _⟩
  | stop => exact ⟨rfl, rfl, UInt32.le_refl _⟩

theorem Reached.invariant {depot : Depot} {probe : Probe}
    (reached : Reached depot probe) :
    depot.Balanced ∧ probe.Assured depot.node := by
  obtain ⟨origin, fresh, steps⟩ := reached
  generalize ended : (depot, probe) = last at steps
  induction steps generalizing depot probe with
  | refl =>
      obtain ⟨rfl, rfl⟩ := Prod.mk.inj ended
      exact ⟨fresh.balanced, trivial⟩
  | tail _ watch induction =>
      cases watch with
      | step step =>
          obtain ⟨rfl, rfl⟩ := Prod.mk.inj ended
          obtain ⟨balanced, assured⟩ := induction rfl
          exact ⟨balanced.step step,
            Probe.assured_of_produces step.produces assured⟩
      | read read =>
          obtain ⟨rfl, rfl⟩ := Prod.mk.inj ended
          obtain ⟨balanced, assured⟩ := induction rfl
          exact ⟨balanced, Probe.assured_of_read assured read⟩
      | again =>
          obtain ⟨rfl, rfl⟩ := Prod.mk.inj ended
          exact ⟨(induction rfl).1, trivial⟩

/-- However sends, the loops, sightings and a probe interleave: where the count
of data is lowered, namely as the sender drops data that cannot be sent, as the
retransmitter drops what was seen, and as a refused send takes its count back,
it is not 0.  While both loops run, it is the number of data messages in the
queues and in the hands of the loops and of sends that are under way; once a
loop has ended, it is at least that.  A send that fails leaves the node as it
was.  When the last read of a probe makes it answer that the node is idle, the
workload has been handed to the link, and no data is in the link or on its way
to it. -/
theorem unacked_accounted {depot : Depot} {probe : Probe}
    (reached : Reached depot probe) :
    (∀ message ∈ depot.link.abandoning, message.isData = true →
      0 < depot.node.unacked) ∧
    (∀ message ∈ depot.link.settling, 0 < depot.node.unacked) ∧
    (∀ parcel ∈ depot.refused, parcel.isData = true →
      0 < depot.node.unacked) ∧
    (depot.sends = true → depot.retransmits = true →
      depot.node.unacked = depot.owed) ∧
    depot.owed ≤ depot.node.unacked ∧
    (∀ payload recipient after error,
      depot.node.send payload recipient = (after, .error error) →
        after = depot.node) ∧
    (probe.read depot.node = some (.answered true) →
      depot.node.workload.originatedBy depot.node.me ≤ depot.node.enqueued ∧
        (∀ message ∈ depot.link.pipeline, message.isData = false) ∧
        ∀ parcel ∈ depot.counted ++ depot.refused, parcel.isData = false) := by
  obtain ⟨balanced, assured⟩ := reached.invariant
  obtain ⟨lost, total, exact⟩ := balanced.unacked_eq
  refine ⟨?_, ?_, ?_, ?_, ?_, ?_, ?_⟩
  · intro message abandoned data
    exact balanced.unacked_pos_of_mem
      (Link.mem_pipeline_of_abandoning abandoned) data
  · intro message settled
    have waiting := Link.mem_waiting_of_settling settled
    refine balanced.unacked_pos_of_mem ?_ (balanced.data message waiting)
    rcases List.mem_append.mp waiting with parked | held
    · exact Link.mem_pipeline.mpr (.inr (.inr (.inl parked)))
    · exact Link.mem_pipeline.mpr (.inr (.inr (.inr held)))
  · intro parcel refused data
    exact balanced.unacked_pos_of_underWay
      (List.mem_append_right _ refused) data
  · intro sends retransmits
    rw [total, exact sends retransmits, Nat.add_zero]
  · omega
  · intro payload recipient after error failed
    exact Node.eq_of_send_error failed
  · intro read
    obtain ⟨rfl, zero⟩ := Probe.of_read_idle read
    exact ⟨assured, balanced.nothing_owed zero⟩

/-- Three reads of a probe find nothing at a node without a workload.  Its last
read answers that the node is idle, unless a send of data is counted before
it. -/
theorem unacked_accounted_of_pair :
    ∃ idle busy : Depot, Reached idle .unacked ∧
      Probe.unacked.read idle.node = some (.answered true) ∧
      (∀ message ∈ idle.link.pipeline, message.isData = false) ∧
      Reached busy .unacked ∧
      busy.counted = [⟨.data 1 1 [49] 3, 2⟩] ∧
      busy.node.unacked = busy.owed ∧ busy.node.unacked = 1 := by
  obtain ⟨node, created, whole, sent, parked, zero⟩ :
      ∃ node, Node.create 1 .pair (.empty 3) (.broadcast 0) {} = .ok node ∧
        node.workload.originatedBy node.me ≤ node.enqueued ∧
        node.sending.depth = 0 ∧ node.retransmissions.depth = 0 ∧
        node.unacked = 0 :=
    ⟨_, rfl, UInt32.le_refl _, rfl, rfl, rfl⟩
  let idle : Depot := ⟨Link.idle (Station.new node), true, true, [], []⟩
  have fresh : idle.Fresh :=
    ⟨⟨_, _, _, _, _, created, rfl, rfl⟩, rfl, rfl, rfl, rfl⟩
  have first : Watch (idle, .enqueued) (idle, .sending) :=
    .read (congrArg some (if_pos whole))
  have second : Watch (idle, .sending) (idle, .retransmissions) :=
    .read (congrArg some (if_pos sent))
  have third : Watch (idle, .retransmissions) (idle, .unacked) :=
    .read (congrArg some (if_pos parked))
  have steps : Relation.ReflTransGen Watch (idle, .enqueued) (idle, .unacked) :=
    .tail (.tail (.single first) second) third
  have last : Probe.unacked.read idle.node = some (.answered true) := by
    change some (Probe.answered (node.unacked == 0)) = _
    rw [zero]
    rfl
  have counts := @Step.count idle ⟨.data 1 1 [49] 3, 2⟩
  have reached : Reached idle .unacked := ⟨idle, fresh, steps⟩
  have reachedBusy : Reached _ .unacked :=
    ⟨idle, fresh, steps.tail (.step counts)⟩
  obtain ⟨_, _, _, _, _, _, answers⟩ := unacked_accounted reached
  obtain ⟨_, _, _, exact, _⟩ := unacked_accounted reachedBusy
  refine ⟨idle, _, reached, last, (answers last).2.1, reachedBusy, rfl,
    exact rfl rfl, ?_⟩
  change node.unacked + 1 = 1
  rw [zero]

end Depot

end CausalCast
