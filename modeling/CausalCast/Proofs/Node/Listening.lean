import CausalCast.Proofs.Node.Reception
import CausalCast.Station
import Mathlib.Logic.Relation

/-!
# The two loops of a receiver

A receiver waits in one loop and reads in another.  Which of the two meets an
arrival makes no difference, and neither do the arrivals that leave no trace:
a receiver ends up where it would if only the datagrams that it heeds had come.
-/

namespace CausalCast

/-- A receiver with the arrivals that are still to come, in the loop in which it
waits or in the loop in which it reads. -/
inductive Listening where
  | waiting (node : Node) (script : List Arrival)
  | reading (node : Node) (script : List Arrival)
  | ended (node : Node) (result : LoopResult)

namespace Listening

/-- A wait leaves where it is whatever is to be read, and goes on for as long as
nothing comes. -/
def wait? (node : Node) (script : List Arrival) : Option Listening :=
  match script with
  | [] => none
  | .datagram _ :: _ | .failedReceive _ :: _ => some (.reading node script)
  | .idleWait true :: rest => some (.reading node rest)
  | .idleWait false :: rest => some (.waiting node rest)
  | .failedWait mishap :: rest =>
      some (if mishap.isTransient then .waiting node rest
        else .ended node (.failed mishap))
  | .stop :: rest => some (.waiting node.stop rest)

/-- A read takes only what is to be read; at anything else it would block, and
the receiver goes back to waiting. -/
def read (node : Node) (script : List Arrival) : Listening :=
  match script with
  | .datagram bytes :: rest => .reading (node.handleDatagram bytes) rest
  | .failedReceive mishap :: rest =>
      if mishap.isTransient then .waiting node rest
      else .ended node (.failed mishap)
  | .stop :: rest => .waiting node.stop rest
  | .idleWait _ :: _ | .failedWait _ :: _ | [] => .waiting node script

/-- One pass through the loop in which a receiver is. -/
def pass? : Listening → Option Listening
  | waiting node script =>
      if node.stopped then some (.ended node .completed)
      else wait? node script
  | reading node script =>
      some (if node.stopped then .waiting node script else read node script)
  | ended _ _ => none

/-- What becomes of a receiver that meets one arrival after another. -/
def outcome : Listening → Node × Option LoopResult
  | waiting node script | reading node script => node.receiveAll script
  | ended node result => (node, some result)

theorem receiveAll_cons {node : Node} (running : node.stopped = false)
    (arrival : Arrival) (rest : List Arrival) :
    node.receiveAll (arrival :: rest) =
      match node.meet arrival with
      | (after, some result) => (after, some result)
      | (after, none) => after.receiveAll rest := by
  rw [Node.receiveAll, running]
  rfl

theorem outcome_of_wait? {node : Node} (running : node.stopped = false)
    {script : List Arrival} {next : Listening}
    (waited : wait? node script = some next) :
    next.outcome = node.receiveAll script := by
  unfold wait? at waited
  split at waited
  case h_1 => contradiction
  case h_2 | h_3 =>
      rw [← Option.some.inj waited]
      rfl
  case h_4 | h_5 | h_7 =>
      rw [← Option.some.inj waited, receiveAll_cons running]
      rfl
  case h_6 mishap rest =>
      rw [← Option.some.inj waited, receiveAll_cons running]
      cases transient : mishap.isTransient <;>
        simp [outcome, Node.meet, Node.afterMishap, transient]

theorem outcome_read {node : Node} (running : node.stopped = false)
    (script : List Arrival) :
    (read node script).outcome = node.receiveAll script := by
  unfold read
  split
  case h_1 | h_3 =>
      rw [receiveAll_cons running]
      rfl
  case h_2 mishap rest =>
      rw [receiveAll_cons running]
      cases transient : mishap.isTransient <;>
        simp [outcome, Node.meet, Node.afterMishap, transient]
  case h_4 | h_5 | h_6 => rfl

/-- Passing through one of the loops changes nothing about what becomes of the
receiver. -/
theorem outcome_of_pass? {listening next : Listening}
    (pass : listening.pass? = some next) :
    next.outcome = listening.outcome := by
  cases listening with
  | ended => contradiction
  | waiting node script =>
      cases running : node.stopped with
      | true =>
          simp only [pass?, running, if_true, Option.some.injEq] at pass
          rw [← pass, outcome, outcome, Node.receiveAll_of_stopped running]
      | false =>
          simp only [pass?, running, Bool.false_eq_true, if_false] at pass
          exact outcome_of_wait? running pass
  | reading node script =>
      rw [← Option.some.inj pass]
      cases running : node.stopped with
      | true => rfl
      | false => exact outcome_read running script

def node : Listening → Node
  | waiting node _ | reading node _ | ended node _ => node

def result? : Listening → Option LoopResult
  | ended _ result => some result
  | _ => none

theorem outcome_of_rest {last : Listening} (rest : last.pass? = none) :
    last.outcome = (last.node, last.result?) := by
  cases last with
  | ended => rfl
  | reading => contradiction
  | waiting node script =>
      cases running : node.stopped with
      | true => simp [pass?, running] at rest
      | false =>
          simp only [pass?, running, Bool.false_eq_true, if_false] at rest
          unfold wait? at rest
          split at rest <;> try contradiction
          simp [outcome, Node.receiveAll, running, Listening.node, result?]

def script : Listening → List Arrival
  | waiting _ script | reading _ script => script
  | ended _ _ => []

def hasNext (node : Node) : List Arrival → Bool
  | .datagram _ :: _ | .failedReceive _ :: _ => !node.stopped
  | _ => false

/-- How far a receiver is from its rest, at most: a loop that cannot take the
next arrival gives way to the other. -/
def distance : Listening → Nat
  | waiting node script =>
      4 * script.length + if hasNext node script then 2 else 1
  | reading node script =>
      4 * script.length + if hasNext node script then 1 else 2
  | ended _ _ => 0

theorem distance_le (listening : Listening) :
    listening.distance ≤ 4 * listening.script.length + 2 := by
  cases listening with
  | waiting | reading =>
      simp only [distance, script]
      split <;> omega
  | ended => exact Nat.zero_le _

theorem lt_distance {listening : Listening}
    (goesOn : listening.result? = none) :
    4 * listening.script.length < listening.distance := by
  cases listening with
  | waiting | reading =>
      simp only [distance, script]
      split <;> omega
  | ended => contradiction

/-- A receiver that takes an arrival comes nearer to its rest, and so does one
that ends. -/
theorem distance_lt_of_shorter {here next : Listening}
    (goesOn : here.result? = none)
    (shorter : next.script.length < here.script.length) :
    next.distance < here.distance := by
  have far := lt_distance goesOn
  have near := next.distance_le
  omega

theorem distance_of_wait? {node : Node} (running : node.stopped = false)
    {script : List Arrival} {next : Listening}
    (waited : wait? node script = some next) :
    next.distance < (waiting node script).distance := by
  unfold wait? at waited
  split at waited
  case h_1 => contradiction
  case h_2 | h_3 =>
      rw [← Option.some.inj waited]
      simp [distance, hasNext, running]
  case h_4 | h_5 | h_7 =>
      rw [← Option.some.inj waited]
      exact distance_lt_of_shorter rfl (Nat.lt_succ_self _)
  case h_6 mishap rest =>
      rw [← Option.some.inj waited]
      split
      · exact distance_lt_of_shorter rfl (Nat.lt_succ_self _)
      · exact distance_lt_of_shorter rfl (Nat.succ_pos _)

theorem distance_read (node : Node) (script : List Arrival) :
    (read node script).distance < (reading node script).distance := by
  unfold read
  split
  case h_1 | h_3 => exact distance_lt_of_shorter rfl (Nat.lt_succ_self _)
  case h_2 mishap rest =>
      split
      · exact distance_lt_of_shorter rfl (Nat.lt_succ_self _)
      · exact distance_lt_of_shorter rfl (Nat.succ_pos _)
  case h_4 | h_5 | h_6 => simp [distance, hasNext]

theorem distance_of_pass? {listening next : Listening}
    (pass : listening.pass? = some next) :
    next.distance < listening.distance := by
  cases listening with
  | ended => contradiction
  | waiting node script =>
      cases running : node.stopped with
      | true =>
          have far := (waiting node script).lt_distance rfl
          simp only [pass?, running, if_true, Option.some.injEq] at pass
          rw [← pass]
          exact Nat.lt_of_le_of_lt (Nat.zero_le _) far
      | false =>
          simp only [pass?, running, Bool.false_eq_true, if_false] at pass
          exact distance_of_wait? running pass
  | reading node script =>
      rw [← Option.some.inj pass]
      cases running : node.stopped with
      | true =>
          have nothing : hasNext node script = false := by
            unfold hasNext
            split <;> simp [running]
          simp [distance, nothing]
      | false => exact distance_read node script

/-- A receiver comes to rest with what becomes of it when it meets one arrival
after another. -/
theorem exists_rest (listening : Listening) :
    ∃ last, Relation.ReflTransGen (fun here next => here.pass? = some next)
      listening last ∧ last.pass? = none ∧
      (last.node, last.result?) = listening.outcome := by
  induction far : listening.distance using Nat.strongRecOn
      generalizing listening with
  | _ far induction =>
      cases pass : listening.pass? with
      | none => exact ⟨listening, .refl, pass, (outcome_of_rest pass).symm⟩
      | some next =>
          have nearer := distance_of_pass? pass
          rw [far] at nearer
          obtain ⟨last, passes, rest, same⟩ := induction _ nearer next rfl
          exact ⟨last, passes.head pass, rest,
            same.trans (outcome_of_pass? pass)⟩

end Listening

/-! ## The receiver of a station -/

namespace Station

def script (station : Station) : List Arrival :=
  match station.waitMishap with
  | none => station.arrivals.toList
  | some mishap => [.failedWait mishap]

/-- Run the receiver of a station until it ends or has to wait. -/
def receive (station : Station) : Station × LoopState :=
  let (after, state, _) :=
    station.runLoop .receiver .receiving (station.stepBound .receiving)
  (after, state)

/-- A station to which only some of its arrivals come. -/
def heeding (station : Station) (kept : Arrival → Bool) : Station :=
  { station with arrivals := ⟨station.arrivals.toList.filter kept, []⟩ }

theorem toList_heeding (station : Station) (kept : Arrival → Bool) :
    (station.heeding kept).arrivals.toList =
      station.arrivals.toList.filter kept :=
  List.append_nil _

/-- What the station makes of its node when its receiver is done, or waits. -/
def conclude (station : Station) : Node × Option LoopResult → Node
  | (node, none) => node
  | (node, some result) =>
      if station.supervised && result ≠ .completed then node.stop else node

theorem exists_conclude (station : Station) (node : Node)
    (result? : Option LoopResult) :
    ∃ stopped, station.conclude (node, result?) =
      { node with stopped := stopped } := by
  cases result? with
  | none => exact ⟨node.stopped, rfl⟩
  | some result =>
      simp only [conclude]
      split
      · exact ⟨true, rfl⟩
      · exact ⟨node.stopped, rfl⟩

theorem runLoop_ended (station : Station) (task : Task) (result : LoopResult)
    (steps : Nat) :
    station.runLoop task (.ended result) steps =
      (station, .ended result, false) := by
  cases steps <;> rfl

/-- What a step of the receiver can do: there is none while it waits, or it ends
the receiver, or it leaves less to come. -/
inductive Listens (station : Station) : Prop where
  | waits (step : station.stepReceiver = none)
      (received : station.node.receiveAll station.script =
        (station.node, none))
  | ends {after : Station} {result : LoopResult}
      (step : station.stepReceiver = some (after, .ended result))
      (supervised_eq : after.supervised = station.supervised)
      (received : station.node.receiveAll station.script =
        (after.node, some result))
  | goesOn {after : Station}
      (step : station.stepReceiver = some (after, .receiving))
      (supervised_eq : after.supervised = station.supervised)
      (received : station.node.receiveAll station.script =
        after.node.receiveAll after.script)
      (nearer : after.stepBound .receiving < station.stepBound .receiving)

theorem listens_of_waitMishap {station : Station} {mishap : Mishap}
    (running : station.node.stopped = false)
    (waiting : station.waitMishap = some mishap) : station.Listens := by
  have received : station.node.receiveAll station.script =
      (station.node, if mishap.isTransient then none
        else some (.failed mishap)) := by
    cases transient : mishap.isTransient <;>
      simp [script, waiting, Node.receiveAll, running, Node.meet,
        Node.afterMishap, transient]
  cases transient : mishap.isTransient with
  | true =>
      refine .waits ?_ ?_
      · simp [stepReceiver, running, waiting, transient]
      · rw [received, transient]
        rfl
  | false =>
      have step : station.stepReceiver =
          some (station, .ended (.failed mishap)) := by
        simp [stepReceiver, running, waiting, transient]
      refine .ends step rfl ?_
      rw [received, transient]
      rfl

theorem listens_of_arrivals {station : Station}
    (running : station.node.stopped = false)
    (waiting : station.waitMishap = none) : station.Listens := by
  have all : station.script = station.arrivals.toList := by
    rw [script, waiting]
  cases taken : station.arrivals.pop? with
  | none =>
      refine .waits ?_ ?_
      · simp [stepReceiver, running, waiting, taken]
      · simp [all, Fifo.pop?_eq_none_iff.mp taken, Node.receiveAll, running]
  | some next =>
      obtain ⟨arrival, rest⟩ := next
      rw [Fifo.toList_of_pop? taken] at all
      have received := Listening.receiveAll_cons running arrival rest.toList
      rw [← all] at received
      rcases met : station.node.meet arrival with ⟨node, result?⟩
      rw [met] at received
      cases result? with
      | some result =>
          have step : station.stepReceiver =
              some ({ station with node := node, arrivals := rest },
                .ended result) := by
            simp [stepReceiver, running, waiting, taken, met]
          exact .ends step rfl received
      | none =>
          have step : station.stepReceiver =
              some ({ station with node := node, arrivals := rest },
                .receiving) := by
            simp [stepReceiver, running, waiting, taken, met]
          refine .goesOn step rfl ?_ ?_
          · rw [received]
            simp [script, waiting]
          · simp [stepBound, Fifo.toList_of_pop? taken]

theorem listens (station : Station) : station.Listens := by
  cases running : station.node.stopped with
  | true =>
      have step : station.stepReceiver = some (station, .ended .completed) := by
        simp [stepReceiver, running]
      exact .ends step rfl (Node.receiveAll_of_stopped running _)
  | false =>
      cases waiting : station.waitMishap with
      | some mishap => exact listens_of_waitMishap running waiting
      | none => exact listens_of_arrivals running waiting

theorem runLoop_receiving {steps : Nat} {station : Station}
    (enough : station.stepBound .receiving ≤ steps) :
    (station.runLoop .receiver .receiving steps).1.node =
        station.conclude (station.node.receiveAll station.script) ∧
      (station.runLoop .receiver .receiving steps).2.1 =
        (station.node.receiveAll station.script).2.elim .receiving .ended := by
  induction steps generalizing station with
  | zero => simp [stepBound] at enough
  | succ steps induction =>
      cases station.listens with
      | waits step received =>
          simp [runLoop, stepLoop, step, received, conclude]
      | ends step supervised received =>
          simp only [runLoop, stepLoop, step, LoopState.result?, runLoop_ended,
            received, conclude, ← supervised]
          exact ⟨rfl, rfl⟩
      | @goesOn after step supervised received nearer =>
          have near : after.stepBound .receiving ≤ steps := by omega
          obtain ⟨final, last⟩ := induction near
          have same : after.conclude = station.conclude := by
            funext outcome
            obtain ⟨node, result?⟩ := outcome
            cases result? <;> simp [conclude, supervised]
          simp only [runLoop, stepLoop, step, LoopState.result?]
          rw [final, last, received, same]
          exact ⟨rfl, rfl⟩

/-- A receiver makes of its script what it makes of one arrival after
another. -/
theorem receive_eq (station : Station) :
    station.receive.1.node =
        station.conclude (station.node.receiveAll station.script) ∧
      station.receive.2 =
        (station.node.receiveAll station.script).2.elim .receiving .ended :=
  runLoop_receiving (Nat.le_refl _)

/-- Arrivals that leave no trace may as well not come. -/
theorem receive_heeding {station : Station} {kept : Arrival → Bool}
    (traceless : ∀ arrival, kept arrival = false →
      station.node.payload? arrival = none ∧ arrival.end? = none) :
    (station.heeding kept).receive.1.node = station.receive.1.node ∧
      (station.heeding kept).receive.2 = station.receive.2 := by
  have same : (station.heeding kept).node.receiveAll
      (station.heeding kept).script =
        station.node.receiveAll station.script := by
    have waits : (station.heeding kept).waitMishap = station.waitMishap := rfl
    rw [script, script, toList_heeding, waits]
    cases station.waitMishap with
    | none => exact Node.receiveAll_filter traceless _
    | some mishap => rfl
  obtain ⟨fewerNode, fewerState⟩ := (station.heeding kept).receive_eq
  obtain ⟨allNode, allState⟩ := station.receive_eq
  rw [same] at fewerNode fewerState
  exact ⟨fewerNode.trans allNode.symm, fewerState.trans allState.symm⟩

/-- What a receiver makes of its arrivals.  It ends up the same without the
malformed datagrams, and without the waits and mishaps that pass; it handles
the other datagrams in order and once each, and fails only at a mishap that does
not pass, with what it handled before that kept.  The two loops it runs in end
up there too. -/
theorem malformed_input_has_no_influence (station : Station) :
    let script := station.script
    let handled :=
      (station.node.received script).foldl Node.handlePayload station.node
    let heeded := station.heeding station.node.heeds
    let notable := station.heeding fun arrival => !arrival.passes
    (heeded.receive.1.node = station.receive.1.node ∧
      heeded.receive.2 = station.receive.2) ∧
    (notable.receive.1.node = station.receive.1.node ∧
      notable.receive.2 = station.receive.2) ∧
    (∃ stopped,
      station.receive.1.node = { handled with stopped := stopped }) ∧
    (∀ mishap, station.receive.2 = .ended (.failed mishap) ↔
      station.node.stopped = false ∧ ∃ before arrival rest,
        script = before ++ arrival :: rest ∧
        (∀ earlier ∈ before, earlier.end? = none) ∧
        arrival.mishap? = some mishap ∧ mishap.isTransient = false) ∧
    ∃ last : Listening,
      Relation.ReflTransGen (fun here next => here.pass? = some next)
        (.waiting station.node script) last ∧
      last.pass? = none ∧
      last.result? = station.receive.2.result? ∧
      ∃ stopped,
        station.receive.1.node = { last.node with stopped := stopped } := by
  dsimp only
  obtain ⟨node, state⟩ := station.receive_eq
  have outcome := station.node.receiveAll_eq station.script
  refine ⟨receive_heeding fun _ => Node.of_not_heeds,
    receive_heeding fun arrival passes =>
      station.node.of_passes (by simpa using passes), ?_, ?_, ?_⟩
  · rw [node, outcome]
    obtain ⟨stopped, concluded⟩ := station.exists_conclude
      (station.node.afterReceiving station.script)
      (station.node.ending? station.script)
    refine ⟨stopped, concluded.trans ?_⟩
    unfold Node.afterReceiving
    dsimp only
    split <;> rfl
  · intro mishap
    rw [state, outcome, ← Node.ending?_eq_failed_iff]
    cases station.node.ending? station.script <;> simp
  · obtain ⟨last, passes, rest, same⟩ :=
      (Listening.waiting station.node station.script).exists_rest
    have received : (last.node, last.result?) =
        station.node.receiveAll station.script := same
    rw [node, state, ← received]
    refine ⟨last, passes, rest, ?_, station.exists_conclude _ _⟩
    cases last <;> rfl

end Station

end CausalCast
