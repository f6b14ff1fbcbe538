import CausalCast.Cluster
import CausalCast.Report

/-!
# Whole nodes

A participant is a supervised station with all its loops and with a writer for
its output log.  It fails with the first failure among its receivers, its
sender, its retransmitter and its producer, in this order, and otherwise with
that of its output.

A network runs several participants side by side on one clock.  Datagrams take
one millisecond; links that are cut, and members without a participant, lose
everything.
-/

namespace CausalCast

/-- Why a participant failed. -/
inductive NodeError where
  | transport (fault : Fault)
  | config (error : ConfigError)
  | tracker (error : TrackerError)
  | output (fault : Fault)
  | crashed (part : String)
deriving DecidableEq, Repr

def NodeError.message : NodeError → String
  | transport kind => "transport failure: " ++ kind.message
  | config error => error.message
  | tracker error => "delivery tracker: " ++ error.message
  | output kind => "output failure: " ++ kind.message
  | crashed part => part ++ " task panicked"

def NodeError.report (error : NodeError) : Report :=
  ⟨error.message,
    match error with
    | transport kind => [kind.message]
    | config error => (error.cause?.map FileProblem.message).toList
    | tracker error => [error.message]
    | output kind => [kind.message]
    | crashed _ => []⟩

/-- What goes wrong in the transport of a participant, every time. -/
structure Disturbance where
  send : Option Mishap := none
  wait : Option Mishap := none
  receive : Option Mishap := none
deriving DecidableEq, Repr

/-- What is needed to run a participant. -/
structure ParticipantPlan where
  me : NodeId
  workload : Workload
  faults : FaultModel
  writer : Writer
  /-- Whether the writer takes its caller down at the first write. -/
  writerCrashes : Bool
  disturbance : Disturbance

structure Participant where
  station : Station
  writer : Writer
  writerCrashes : Bool
  /-- What goes wrong whenever a datagram is read. -/
  receiveMishap : Option Mishap

namespace Participant

/-- The loops of a participant, in the order in which their failures count. -/
def tasks (receivers : Nat) : List Task :=
  List.replicate (max receivers 1) .receiver ++
    [.sender, .retransmitter, .workload]

/-- What the loops of a task are called in reports. -/
def partName : Task → String
  | .receiver => "receiver"
  | .sender => "sender"
  | .retransmitter => "retransmitter"
  | _ => "producer"

def launch (membership : Membership) (graph : CausalityGraph)
    (settings : LinkSettings) (plan : ParticipantPlan) :
    Except NodeError Participant :=
  match Node.create plan.me membership graph plan.workload settings with
  | .error error => .error (.config error)
  | .ok node =>
      let idle : Station := {
        node := node
        simulator := Simulator.new plan.faults
        wire := { Wire.new with standing := plan.disturbance.send }
        sendDelay := 0
        arrivals := Fifo.empty
        waitMishap := plan.disturbance.wait
        supervised := true
        loops := [] }
      .ok {
        station := (tasks settings.receivers).foldl Station.start idle
        writer := plan.writer
        writerCrashes := plan.writerCrashes
        receiveMishap := plan.disturbance.receive }

def me (participant : Participant) : NodeId :=
  participant.station.node.me

def isIdle (participant : Participant) : Bool :=
  participant.station.node.isIdle

def isStopped (participant : Participant) : Bool :=
  participant.station.node.stopped

/-- Order the participant to stop, and let its loops end. -/
def stop (participant : Participant) : Participant :=
  let station := participant.station
  { participant with
    station := { station with node := station.node.stop }.settle }

def failureOf (loop : RunningLoop) : Option NodeError :=
  match loop.state with
  | .ended (.failed (.fault kind)) => some (.transport kind)
  | .ended (.failed .crash) => some (.crashed (partName loop.task))
  | .ended (.rejected error) => some (.tracker error)
  | _ => none

def drain (participant : Participant) : Except NodeError Writer :=
  let events := participant.station.node.output.events.toList
  if participant.writerCrashes && !events.isEmpty then .error (.crashed "output")
  else
    match participant.writer.drain events with
    | (writer, none) => .ok writer
    | (_, some fault) => .error (.output fault)

/-- The first failure of a loop, if any has failed. -/
def failure? (participant : Participant) : Option NodeError :=
  participant.station.loops.findSome? failureOf

/-- The result of a participant whose loops have ended: its writer, or its first
failure. -/
def join (participant : Participant) : Except NodeError Writer :=
  match participant.failure? with
  | some failure => .error failure
  | none => participant.drain

/-- How a datagram arrives at a participant. -/
def arrivalOf (participant : Participant) (bytes : List UInt8) : Arrival :=
  match participant.receiveMishap with
  | some mishap => .failedReceive mishap
  | none => .datagram bytes

/-- Let the time come to a number of milliseconds, and all loops run until
they wait. -/
def reach (participant : Participant) (now : Nat) : Participant :=
  let station := participant.station
  { participant with
    station := { station with node := { station.node with now := now } }.settle }

def collect (participant : Participant) : List Datagram × Participant :=
  let (datagrams, station) := participant.station.collect
  (datagrams, { participant with station := station })

def feed (participant : Participant) (bytes : List UInt8) : Participant :=
  { participant with
    station := participant.station.feed (participant.arrivalOf bytes) }

end Participant

/-- Participants that share a clock. -/
structure Network where
  membership : Membership
  participants : List Participant
  /-- The links that lose everything, by source and target. -/
  cut : List (NodeId × NodeId)

namespace Network

/-- The datagrams that leave the participants, and the participants without
them. -/
def collect (network : Network) : List Airborne × Network :=
  let parts := network.participants.map fun participant =>
    let (datagrams, rest) := participant.collect
    (Cluster.airborneOf network.membership participant.me datagrams, rest)
  (parts.flatMap Prod.fst, { network with participants := parts.map Prod.snd })

/-- Carry a datagram over its link. -/
def carry (network : Network) (airborne : Airborne) : Network :=
  if network.cut.contains (airborne.source, airborne.target) then network
  else
    { network with
      participants := network.participants.map fun participant =>
        if participant.me = airborne.target then participant.feed airborne.bytes
        else participant }

def settle (network : Network) : Network :=
  let participants := network.participants.map fun participant =>
    { participant with station := participant.station.settle }
  let (airborne, rest) := collect { network with participants := participants }
  airborne.foldl carry rest

def tick (network : Network) : Network :=
  let participants := network.participants.map fun participant =>
    { participant with station := participant.station.tick }
  settle { network with participants := participants }

def advance (network : Network) : Nat → Network
  | 0 => network
  | milliseconds + 1 => network.tick.advance milliseconds

/-- Run the participants from their start for a time. -/
def run (network : Network) (milliseconds : Nat) : Network :=
  network.settle.advance milliseconds

end Network

end CausalCast
