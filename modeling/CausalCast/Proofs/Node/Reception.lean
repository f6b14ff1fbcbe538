import CausalCast.Proofs.Datagrams
import CausalCast.Proofs.Membership.Admission
import CausalCast.Proofs.Node.Operations

/-!
# What a receiver makes of its arrivals

A receiver handles the payloads that reach it in order and once each, up to an
order to stop or a mishap that does not pass.  Everything else leaves no trace:
a datagram that cannot be decoded, one that names somebody who is no member as
its sender or owner, a wait that ends without anything to read, and a mishap
that passes.
-/

namespace CausalCast

/-- How an arrival ends a receiver, if it does. -/
def Arrival.end? : Arrival → Option LoopResult
  | .datagram _ | .idleWait _ => none
  | .failedReceive mishap | .failedWait mishap =>
      if mishap.isTransient then none else some (.failed mishap)
  | .stop => some .completed

/-- What goes wrong at an arrival, if anything does. -/
def Arrival.mishap? : Arrival → Option Mishap
  | .failedReceive mishap | .failedWait mishap => some mishap
  | .datagram _ | .idleWait _ | .stop => none

/-- Whether an arrival passes without a datagram to read and without an end to
the receiver. -/
def Arrival.passes : Arrival → Bool
  | .idleWait _ => true
  | .failedReceive mishap | .failedWait mishap => mishap.isTransient
  | .datagram _ | .stop => false

theorem Arrival.of_end? {arrival : Arrival} {result : LoopResult}
    (ends : arrival.end? = some result) :
    arrival = .stop ∧ result = .completed ∨
      ∃ mishap, arrival.mishap? = some mishap ∧
        mishap.isTransient = false ∧ result = .failed mishap := by
  cases arrival with
  | datagram | idleWait => contradiction
  | stop => exact .inl ⟨rfl, (Option.some.inj ends).symm⟩
  | failedReceive mishap | failedWait mishap =>
      cases transient : mishap.isTransient with
      | true => simp [end?, transient] at ends
      | false =>
          simp only [end?, transient, Bool.false_eq_true, if_false,
            Option.some.injEq] at ends
          exact .inr ⟨mishap, rfl, transient, ends.symm⟩

theorem Arrival.end?_of_mishap {arrival : Arrival} {mishap : Mishap}
    (goesWrong : arrival.mishap? = some mishap)
    (fatal : mishap.isTransient = false) :
    arrival.end? = some (.failed mishap) := by
  cases arrival with
  | datagram | idleWait | stop => contradiction
  | failedReceive other | failedWait other =>
      obtain rfl := Option.some.inj goesWrong
      simp [end?, fatal]

namespace Node

/-- The payload of a datagram, if the datagram can be decoded and names nodes as
its sender and owner. -/
def wellFormed? (node : Node) (bytes : List UInt8) : Option Payload :=
  match Payload.decode? (bytes.take Payload.maxDatagram)
      (UInt64.ofNat node.clockLength) with
  | some (.ok payload) =>
      if node.tracker.isNode payload.sender &&
          node.tracker.isNode payload.owner then
        some payload
      else none
  | _ => none

def payload? (node : Node) : Arrival → Option Payload
  | .datagram bytes => node.wellFormed? bytes
  | _ => none

/-- Whether an arrival is anything but a malformed datagram. -/
def heeds (node : Node) : Arrival → Bool
  | .datagram bytes => (node.wellFormed? bytes).isSome
  | _ => true

def received (node : Node) (script : List Arrival) : List Payload :=
  if node.stopped then []
  else (script.takeWhile (·.end?.isNone)).filterMap node.payload?

def ending? (node : Node) (script : List Arrival) : Option LoopResult :=
  if node.stopped then some .completed else script.findSome? Arrival.end?

/-! ## Judging datagrams -/

/-- Two states of a node that judge datagrams alike. -/
structure SameJudge (before after : Node) : Prop where
  membership_eq : after.membership = before.membership
  nodeCount_eq : after.tracker.nodeCount = before.tracker.nodeCount
  stopped_eq : after.stopped = before.stopped

theorem SameJudge.refl (node : Node) : SameJudge node node :=
  ⟨rfl, rfl, rfl⟩

theorem Works.sameJudge {before after : Node} (works : Works before after) :
    SameJudge before after := by
  refine ⟨?_, works.setup.nodeCount, ?_⟩ <;> rw [works.node_eq]

/-- No receiver looks for a field outside a datagram: there are too few nodes
for their number to be a clock length that misleads the reader. -/
theorem decode?_isSome (node : Node) (bytes : List UInt8) :
    (Payload.decode? (bytes.take Payload.maxDatagram)
      (UInt64.ofNat node.clockLength)).isSome = true := by
  have short : (bytes.take Payload.maxDatagram).length ≤ 65535 :=
    List.length_take_le _ _
  have bounded : node.clockLength ≤ 4294967296 := node.membership.size_lt
  rw [Option.isSome_iff_ne_none, Ne, Payload.decode?_eq_none_iff short,
    Payload.countedEntries_ofNat (by omega)]
  omega

/-- What the tracker rejects is not handled. -/
theorem handlePayload_of_stranger {node : Node} {payload : Payload}
    (stranger : (node.tracker.isNode payload.sender &&
      node.tracker.isNode payload.owner) = false) :
    node.handlePayload payload = node := by
  have problem : ∃ error,
      node.tracker.problem? payload.sender payload = some error := by
    unfold Tracker.problem?
    cases sender : node.tracker.isNode payload.sender with
    | false => exact ⟨_, rfl⟩
    | true =>
        rw [sender, Bool.true_and] at stranger
        rw [stranger]
        exact ⟨_, rfl⟩
  obtain ⟨error, problem⟩ := problem
  simp [handlePayload, Node.insert, Tracker.insert, problem]

theorem handleDatagram_eq (node : Node) (bytes : List UInt8) :
    node.handleDatagram bytes =
      (node.wellFormed? bytes).toList.foldl handlePayload node := by
  unfold handleDatagram wellFormed?
  match Payload.decode? (bytes.take Payload.maxDatagram)
      (UInt64.ofNat node.clockLength) with
  | none | some (.error _) => rfl
  | some (.ok payload) =>
      dsimp only
      split
      case isTrue => rfl
      case isFalse strange =>
          exact handlePayload_of_stranger (Bool.eq_false_iff.mpr strange)

section Judging

variable {before after : Node} (same : SameJudge before after)

include same

theorem SameJudge.payload?_eq (arrival : Arrival) :
    after.payload? arrival = before.payload? arrival := by
  cases arrival with
  | datagram bytes =>
      simp only [payload?, wellFormed?, Node.clockLength, Tracker.isNode,
        same.membership_eq, same.nodeCount_eq]
      rfl
  | failedReceive | idleWait | failedWait | stop => rfl

theorem SameJudge.received_eq (script : List Arrival) :
    after.received script = before.received script := by
  have judged : after.payload? = before.payload? :=
    funext same.payload?_eq
  rw [received, received, same.stopped_eq, judged]

theorem SameJudge.ending?_eq (script : List Arrival) :
    after.ending? script = before.ending? script := by
  rw [ending?, ending?, same.stopped_eq]

end Judging

/-! ## One arrival after another -/

theorem meet_of_end?_eq_none (node : Node) {arrival : Arrival}
    (goesOn : arrival.end? = none) :
    node.meet arrival =
      ((node.payload? arrival).toList.foldl handlePayload node, none) := by
  cases arrival with
  | datagram bytes =>
      rw [meet, handleDatagram_eq]
      rfl
  | idleWait => rfl
  | failedReceive mishap | failedWait mishap =>
      cases transient : mishap.isTransient with
      | true =>
          simp only [meet, afterMishap, transient, if_true]
          rfl
      | false => simp [Arrival.end?, transient] at goesOn
  | stop => simp [Arrival.end?] at goesOn

theorem meet_of_mishap (node : Node) {arrival : Arrival} {mishap : Mishap}
    (goesWrong : arrival.mishap? = some mishap)
    (fatal : mishap.isTransient = false) :
    node.meet arrival = (node, some (.failed mishap)) := by
  cases arrival with
  | datagram | idleWait | stop => contradiction
  | failedReceive other | failedWait other =>
      obtain rfl := Option.some.inj goesWrong
      simp [meet, afterMishap, fatal]

theorem receiveAll_of_stopped {node : Node} (stopped : node.stopped = true)
    (script : List Arrival) :
    node.receiveAll script = (node, some .completed) := by
  cases script <;> simp [receiveAll, stopped]

theorem stop_of_stopped {node : Node} (stopped : node.stopped = true) :
    node.stop = node := by
  cases node
  cases stopped
  rfl

/-- The node at the end of a receiver that got some payloads to handle. -/
def afterReceiving (node : Node) (script : List Arrival) : Node :=
  let handled := (node.received script).foldl handlePayload node
  if node.ending? script = some .completed then handled.stop else handled

theorem afterReceiving_cons_of_none {node : Node} {arrival : Arrival}
    (running : node.stopped = false) (goesOn : arrival.end? = none)
    (rest : List Arrival) :
    node.afterReceiving (arrival :: rest) =
        ((node.payload? arrival).toList.foldl handlePayload
          node).afterReceiving rest ∧
      node.ending? (arrival :: rest) =
        ((node.payload? arrival).toList.foldl handlePayload
          node).ending? rest := by
  have same : SameJudge node
      ((node.payload? arrival).toList.foldl handlePayload node) := by
    cases node.payload? arrival with
    | none => exact .refl node
    | some payload => exact (works_handlePayload node payload).sameJudge
  have ending : node.ending? (arrival :: rest) = node.ending? rest := by
    simp [ending?, running, goesOn]
  have payloads : node.received (arrival :: rest) =
      (node.payload? arrival).toList ++ node.received rest := by
    cases brought : node.payload? arrival <;>
      simp [received, running, goesOn, brought]
  constructor
  · rw [afterReceiving, afterReceiving, ending, payloads, same.ending?_eq,
      same.received_eq, List.foldl_append]
  · rw [ending, same.ending?_eq]

/-- A receiver handles the payloads that reach it, in order and once each, and
ends as the first arrival says that can end it. -/
theorem receiveAll_eq (node : Node) (script : List Arrival) :
    node.receiveAll script =
      (node.afterReceiving script, node.ending? script) := by
  induction script generalizing node with
  | nil =>
      cases running : node.stopped with
      | true =>
          rw [receiveAll_of_stopped running]
          simp [afterReceiving, received, ending?, running,
            stop_of_stopped running]
      | false => simp [receiveAll, afterReceiving, received, ending?, running]
  | cons arrival rest induction =>
      cases running : node.stopped with
      | true =>
          rw [receiveAll_of_stopped running]
          simp [afterReceiving, received, ending?, running,
            stop_of_stopped running]
      | false =>
          rw [receiveAll, running]
          cases ends : arrival.end? with
          | none =>
              obtain ⟨final, ending⟩ :=
                afterReceiving_cons_of_none running ends rest
              rw [meet_of_end?_eq_none node ends, final, ending]
              exact induction _
          | some result =>
              have nothing : node.received (arrival :: rest) = [] := by
                simp [received, running, ends]
              have ending : node.ending? (arrival :: rest) = some result := by
                simp [ending?, running, ends]
              rw [afterReceiving, nothing, ending]
              rcases Arrival.of_end? ends with
                ⟨rfl, rfl⟩ | ⟨mishap, goesWrong, fatal, rfl⟩
              · have stopped : node.stop.stopped = true := rfl
                simp [meet, receiveAll_of_stopped stopped]
              · simp [meet_of_mishap node goesWrong fatal]

/-- What cannot be decoded, a wait and a mishap that pass, one datagram, and the
mishap after which the next datagram comes too late. -/
example : ∃ node,
    Node.create 1 .pair (.empty 3) (.broadcast 1) {} = .ok node ∧
      let payload := Payload.data 2 1 [49] 3
      let script := [.datagram [7], .idleWait true,
        .failedReceive (.fault .timedOut), .datagram payload.toBytes,
        .failedWait .crash, .datagram payload.toBytes]
      node.received script = [payload] ∧
        node.ending? script = some (.failed .crash) :=
  ⟨_, rfl, rfl, rfl⟩

/-- A receiver fails at the first mishap that does not pass, unless it is
stopped before. -/
theorem ending?_eq_failed_iff {node : Node} {script : List Arrival}
    {mishap : Mishap} :
    node.ending? script = some (.failed mishap) ↔
      node.stopped = false ∧ ∃ before arrival rest,
        script = before ++ arrival :: rest ∧
        (∀ earlier ∈ before, earlier.end? = none) ∧
        arrival.mishap? = some mishap ∧ mishap.isTransient = false := by
  cases running : node.stopped with
  | true => simp [ending?, running]
  | false =>
      simp only [ending?, running, Bool.false_eq_true, if_false, true_and]
      rw [List.findSome?_eq_some_iff]
      constructor
      · rintro ⟨before, arrival, rest, split, ends, earlier⟩
        rcases Arrival.of_end? ends with
          ⟨_, completes⟩ | ⟨other, goesWrong, fatal, fails⟩
        · contradiction
        · obtain rfl := LoopResult.failed.inj fails
          exact ⟨before, arrival, rest, split, earlier, goesWrong, fatal⟩
      · rintro ⟨before, arrival, rest, split, earlier, goesWrong, fatal⟩
        exact ⟨before, arrival, rest, split,
          Arrival.end?_of_mishap goesWrong fatal, earlier⟩

/-! ## What leaves no trace -/

theorem of_not_heeds {node : Node} {arrival : Arrival}
    (malformed : node.heeds arrival = false) :
    node.payload? arrival = none ∧ arrival.end? = none := by
  cases arrival with
  | datagram bytes =>
      have rejected : node.wellFormed? bytes = none := by
        simpa [heeds] using malformed
      exact ⟨rejected, rfl⟩
  | failedReceive | idleWait | failedWait | stop =>
      simp [heeds] at malformed

theorem of_passes (node : Node) {arrival : Arrival}
    (passes : arrival.passes = true) :
    node.payload? arrival = none ∧ arrival.end? = none := by
  cases arrival with
  | datagram | stop => contradiction
  | idleWait => exact ⟨rfl, rfl⟩
  | failedReceive mishap | failedWait mishap =>
      have transient : mishap.isTransient = true := passes
      exact ⟨rfl, by simp [Arrival.end?, transient]⟩

section Leaving

variable {node : Node} {kept : Arrival → Bool}
  (traceless : ∀ arrival, kept arrival = false →
    node.payload? arrival = none ∧ arrival.end? = none)

include traceless

theorem received_filter (script : List Arrival) :
    node.received (script.filter kept) = node.received script ∧
      node.ending? (script.filter kept) = node.ending? script := by
  cases running : node.stopped with
  | true => simp [received, ending?, running]
  | false =>
      simp only [received, ending?, running, Bool.false_eq_true, if_false]
      induction script with
      | nil => exact ⟨rfl, rfl⟩
      | cons arrival rest induction =>
          obtain ⟨payloads, ending⟩ := induction
          cases keeps : kept arrival with
          | false =>
              obtain ⟨nothing, goesOn⟩ := traceless arrival keeps
              simp [keeps, nothing, goesOn, payloads, ending]
          | true =>
              cases ends : arrival.end? with
              | some result => simp [keeps, ends]
              | none =>
                  cases brought : node.payload? arrival <;>
                    simp [keeps, ends, brought, payloads, ending]

/-- Arrivals that bring nothing and end nothing may as well not have come. -/
theorem receiveAll_filter (script : List Arrival) :
    node.receiveAll (script.filter kept) = node.receiveAll script := by
  obtain ⟨payloads, ending⟩ := received_filter traceless script
  rw [receiveAll_eq, receiveAll_eq, afterReceiving, payloads, ending]
  rfl

end Leaving

end Node

end CausalCast
