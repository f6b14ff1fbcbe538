import CausalCast.Node.Produce
import CausalCast.Node.Receive
import CausalCast.Simulator

/-!
# Stations

A station is a node with a transport and with the loops that were started on
it.  Time is virtual: a loop runs until it has to wait for an item, for an
arrival or for the clock, and a station is settled when all its loops wait.
The loops take turns in the order in which they were started.

A loop that ends gives up its end of the queue it was reading.  On a
supervised station a loop that ends in failure orders the others to stop.
-/

namespace CausalCast

inductive Task where
  | sender
  | retransmitter
  | receiver
  | workload
  | broadcasts (messages : UInt32)
  | messagesTo (receiver : NodeId) (messages : UInt32)
deriving DecidableEq, Repr

/-- A message on its way through a slow transport. -/
structure Flight where
  message : Message
  datagram : Datagram
  arrivesAt : Nat
deriving DecidableEq, Repr

inductive LoopState where
  | sending (flight : Option Flight)
  | retransmitting (held : Option Message)
  | receiving
  | producing (production : Production) (next : Nat) (pausedUntil : Option Nat)
  | ended (result : LoopResult)
deriving DecidableEq, Repr

def LoopState.result? : LoopState → Option LoopResult
  | ended result => some result
  | _ => none

structure RunningLoop where
  task : Task
  state : LoopState
deriving DecidableEq, Repr

/-- A node with its transport and its loops. -/
structure Station where
  node : Node
  simulator : Simulator
  wire : Wire
  /-- How long every send takes. -/
  sendDelay : Nat
  arrivals : Fifo Arrival
  /-- What goes wrong in every wait of a receiver. -/
  waitMishap : Option Mishap
  supervised : Bool
  loops : List RunningLoop

namespace Station

/-- A station on a faultless transport, without loops. -/
def new (node : Node) : Station where
  node := node
  simulator := Simulator.transparent
  wire := Wire.new
  sendDelay := 0
  arrivals := Fifo.empty
  waitMishap := none
  supervised := false
  loops := []

def initialState (station : Station) : Task → LoopState
  | .sender => .sending none
  | .retransmitter => .retransmitting none
  | .receiver => .receiving
  | .workload => .producing station.node.production 1 none
  | .broadcasts messages => .producing (.broadcasts messages) 1 none
  | .messagesTo receiver messages =>
      .producing (.messagesTo receiver messages) 1 none

def start (station : Station) (task : Task) : Station :=
  { station with loops := station.loops ++ [⟨task, station.initialState task⟩] }

def hasStarted (station : Station) (task : Task) : Bool :=
  station.loops.any (·.task == task)

/-- Carry out the send of a flight, and what the sender does after it. -/
def land (station : Station) (flight : Flight) : Station × LoopState :=
  let (simulator, wire, outcome) :=
    station.simulator.send station.wire flight.datagram
  let mishap? := match outcome with
    | .ok _ => none
    | .error mishap => some mishap
  let (node, result?) := station.node.afterSend flight.message mishap?
  let after :=
    { station with node := node, simulator := simulator, wire := wire }
  match result? with
  | some result => (after, .ended result)
  | none => (after, .sending none)

/-- One step of the sender: take a message and let it depart, or carry out a
send whose time has come. -/
def stepSender (station : Station) :
    Option Flight → Option (Station × LoopState)
  | some flight =>
      if flight.arrivesAt ≤ station.node.now then some (station.land flight)
      else none
  | none =>
      match station.node.sending.dequeue station.node.stopped with
      | .ended => some (station, .ended .completed)
      | .pending => none
      | .item message rest =>
          let node := { station.node with sending := rest }
          match node.departure message with
          | .abandoned =>
              some ({ station with
                node := node.discountUnacked message.payload }, .sending none)
          | .leaving stamped datagram =>
              some ({ station with node := node },
                .sending (some
                  ⟨stamped, datagram, node.now + station.sendDelay⟩))

/-- One step of the retransmitter: take a message up, or decide on the one it
holds. -/
def stepRetransmitter (station : Station) :
    Option Message → Option (Station × LoopState)
  | none =>
      match station.node.retransmissions.dequeue station.node.stopped with
      | .ended => some (station, .ended .completed)
      | .pending => none
      | .item message rest =>
          let node := { station.node with retransmissions := rest }
          if node.isAcknowledged message then
            some ({ station with node := node.settle }, .retransmitting none)
          else some ({ station with node := node }, .retransmitting message)
  | some message =>
      let node := station.node
      match node.timer.poll? message.sentAt node.now node.stopped with
      | none => none
      | some false => some (station, .ended .completed)
      | some true =>
          if node.isAcknowledged message then
            some ({ station with node := node.settle }, .retransmitting none)
          else
            match node.post message with
            | (posted, .ok _) =>
                some ({ station with node := posted }, .retransmitting none)
            | (refused, .error _) =>
                some ({ station with node := refused }, .ended .completed)

/-- One step of a receiver: meet the next arrival.  When every wait goes
wrong in a way that may pass, the receiver waits on and on. -/
def stepReceiver (station : Station) : Option (Station × LoopState) :=
  if station.node.stopped then some (station, .ended .completed)
  else
    match station.waitMishap with
    | some mishap =>
        if mishap.isTransient then none
        else some (station, .ended (.failed mishap))
    | none =>
        match station.arrivals.pop? with
        | none => none
        | some (arrival, rest) =>
            let (node, result?) := station.node.meet arrival
            let after := { station with node := node, arrivals := rest }
            match result? with
            | some result => some (after, .ended result)
            | none => some (after, .receiving)

/-- One step of a producer: make the next message, or pause. -/
def stepProducer (station : Station) (production : Production) (next : Nat)
    (pausedUntil : Option Nat) : Option (Station × LoopState) :=
  let node := station.node
  if production.count < next then some (station, .ended .completed)
  else if node.stopped then some (station, .ended .completed)
  else if pausedUntil.any (node.now < ·) then none
  else if !node.hasRoom then
    some (station, .producing production next (some (node.now + Node.throttlePause)))
  else
    match node.produceOne production (UInt32.ofNat next) with
    | (after, some result) => some ({ station with node := after }, .ended result)
    | (after, none) =>
        some ({ station with node := after }, .producing production (next + 1) none)

/-- One step of a loop; nothing if it waits or has ended. -/
def stepLoop (station : Station) : LoopState → Option (Station × LoopState)
  | .sending flight => station.stepSender flight
  | .retransmitting held => station.stepRetransmitter held
  | .receiving => station.stepReceiver
  | .producing production next pausedUntil =>
      station.stepProducer production next pausedUntil
  | .ended _ => none

/-- What the end of a loop means to the rest of the station. -/
def closeLoop (station : Station) (task : Task) (result : LoopResult) :
    Station :=
  let node := match task with
    | .sender =>
        { station.node with sending := station.node.sending.dropConsumer }
    | .retransmitter =>
        { station.node with
          retransmissions := station.node.retransmissions.dropConsumer }
    | _ => station.node
  { station with
    node :=
      if station.supervised && result ≠ .completed then node.stop else node }

/-- Run a loop until it waits or ends, for at most a number of steps; the
last answer tells whether it did anything. -/
def runLoop (station : Station) (task : Task) (state : LoopState) :
    Nat → Station × LoopState × Bool
  | 0 => (station, state, false)
  | steps + 1 =>
      match station.stepLoop state with
      | none => (station, state, false)
      | some (after, next) =>
          let closed := match next.result? with
            | some result => after.closeLoop task result
            | none => after
          let (final, last, _) := closed.runLoop task next steps
          (final, last, true)

/-- How many steps a loop can take before it has to wait: each item of a
queue takes at most two, and so does each message of a production. -/
def stepBound (station : Station) : LoopState → Nat
  | .sending _ => 2 * station.node.sending.toList.length + 3
  | .retransmitting _ => 2 * station.node.retransmissions.toList.length + 3
  | .receiving => station.arrivals.toList.length + 2
  | .producing production next _ => 2 * (production.count + 1 - next) + 3
  | .ended _ => 0

/-- Let each loop run in turn; the last answer tells whether any did
anything. -/
def runLoops (station : Station) :
    List RunningLoop → Station × List RunningLoop × Bool
  | [] => (station, [], false)
  | loop :: rest =>
      let (after, state, moved) :=
        station.runLoop loop.task loop.state (station.stepBound loop.state)
      let (final, loops, movedLater) := after.runLoops rest
      (final, { loop with state := state } :: loops, moved || movedLater)

/-- Let all loops take turns for a number of rounds, or until all wait. -/
def settleRounds (station : Station) : Nat → Station
  | 0 => station
  | rounds + 1 =>
      let (after, loops, moved) := station.runLoops station.loops
      let next := { after with loops := loops }
      if moved then next.settleRounds rounds else next

/-- Let all loops run until all wait.  A message that a loop puts into a queue
is taken up in the same round or the next, and nothing is due twice at one
time, so a few rounds per loop are enough. -/
def settle (station : Station) : Station :=
  station.settleRounds (4 * station.loops.length + 4)

def tick (station : Station) : Station :=
  { station with node := station.node.tick }

def advance (station : Station) : Nat → Station
  | 0 => station
  | milliseconds + 1 => (station.tick.settle).advance milliseconds

def feed (station : Station) (arrival : Arrival) : Station :=
  { station with arrivals := station.arrivals.push arrival }

def collect (station : Station) : List Datagram × Station :=
  (station.wire.sent.toList,
    { station with wire := { station.wire with sent := #[] } })

/-- The loops with their results, the ended ones being forgotten after
this. -/
def join (station : Station) : List (Task × Option LoopResult) × Station :=
  (station.loops.map fun loop => (loop.task, loop.state.result?),
    { station with
      loops := station.loops.filter fun loop => loop.state.result?.isNone })

end Station

end CausalCast
