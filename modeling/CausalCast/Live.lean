import CausalCast.Participant
import Std.Internal.UV.Signal
import Std.Internal.UV.UDP

/-!
# Participants on a socket

The clock, a socket, two signals and an output file drive a participant.  In
each round it meets the datagrams that have come in, its clock is set, its
loops run until they wait, what they have sent goes out, and the new lines of
its log are written.  A send that goes wrong is told to the next one, because
a datagram leaves the socket only after the loops have run.
-/

namespace CausalCast

open Std.Internal.UV Std.Net

/-- The number that the system gives to an error.  Some operations report it
with its sign turned. -/
def errorNumber (error : IO.Error) : Nat :=
  let code : UInt32 := match error with
    | .alreadyExists _ code _ | .otherError code _ | .resourceBusy code _
    | .resourceVanished code _ | .unsupportedOperation code _
    | .hardwareFault code _ | .unsatisfiedConstraints code _
    | .illegalOperation code _ | .protocolError code _ | .timeExpired code _
    | .interrupted _ code _ | .noFileOrDirectory _ code _
    | .invalidArgument _ code _ | .permissionDenied _ code _
    | .resourceExhausted _ code _ | .inappropriateType _ code _
    | .noSuchThing _ code _ => code
    | .unexpectedEof | .userError _ => 0
  min code.toNat (0x100000000 - code.toNat)

def Fault.ofNumber : Nat → Fault
  | 1 | 13 => .permissionDenied
  | 2 => .notFound
  | 4 => .interrupted
  | 11 => .wouldBlock
  | 12 => .outOfMemory
  | 17 => .alreadyExists
  | 22 => .invalidInput
  | 32 => .brokenPipe
  | 98 => .addressInUse
  | 99 => .addressNotAvailable
  | 100 => .networkDown
  | 101 => .networkUnreachable
  | 103 => .connectionAborted
  | 104 => .connectionReset
  | 107 => .notConnected
  | 110 => .timedOut
  | 111 => .connectionRefused
  | 113 => .hostUnreachable
  | _ => .other

def Fault.ofError (error : IO.Error) : Fault :=
  .ofNumber (errorNumber error)

/-- An address as the socket takes it. -/
def Address.toSocketAddress : Address → SocketAddress
  | v4 host port => .v4 ⟨⟨#v[host.a, host.b, host.c, host.d]⟩, port⟩
  | v6 host _ port => .v6 ⟨⟨host.groups⟩, port⟩

/-- The outcome of a read from a socket, once it is there. -/
abbrev PendingRead :=
  IO.Promise (Except IO.Error (ByteArray × Option SocketAddress))

/-- A participant with what drives it. -/
structure LiveParticipant where
  participant : Participant
  socket : UDP.Socket
  read : PendingRead
  /-- When the participant's clock stood at zero. -/
  epoch : Nat
  output : IO.FS.Handle
  /-- How many events of the log are written. -/
  written : Nat
  /-- Why nothing more is written. -/
  outputFault : Option Fault

namespace LiveParticipant

def nextRead (socket : UDP.Socket) : IO PendingRead :=
  socket.recv Payload.maxDatagram.toUInt64

def start (participant : Participant) (socket : UDP.Socket)
    (output : IO.FS.Handle) : IO LiveParticipant := do
  pure {
    participant := participant
    socket := socket
    read := ← nextRead socket
    epoch := ← IO.monoMsNow
    output := output
    written := 0
    outputFault := none }

/-- What a finished read means to the participant. -/
def arrivalOf :
    Option (Except IO.Error (ByteArray × Option SocketAddress)) → Arrival
  | some (.ok (bytes, _)) => .datagram bytes.toList
  | some (.error error) => .failedReceive (.fault (.ofError error))
  | none => .failedReceive (.fault .other)

/-- Take up to a number of datagrams from the socket. -/
def receive (live : LiveParticipant) : Nat → IO LiveParticipant
  | 0 => pure live
  | limit + 1 => do
      let outcome := live.read.result?
      if ← IO.hasFinished outcome then
        let station := live.participant.station.feed (arrivalOf outcome.get)
        let next := { live with
          participant := { live.participant with station := station }
          read := ← nextRead live.socket }
        next.receive limit
      else pure live

def transmit (live : LiveParticipant) (datagram : Datagram) :
    IO LiveParticipant := do
  let outcome : Except IO.Error Unit ←
    try
      let promise ← live.socket.send #[⟨datagram.bytes.toArray⟩]
        (some datagram.destination.toSocketAddress)
      pure ((← IO.wait promise.result?).getD (.ok ()))
    catch error => pure (.error error)
  let fault? := match outcome with
    | .ok _ => none
    | .error error => some (Mishap.fault (.ofError error))
  let station := live.participant.station
  let wire := { station.wire with standing := fault? <|> station.wire.standing }
  pure { live with
    participant :=
      { live.participant with station := { station with wire := wire } } }

/-- Put everything that the participant has sent on the network.  The faults
of earlier rounds are forgotten by then. -/
def transmitAll (live : LiveParticipant) : IO LiveParticipant := do
  let (datagrams, participant) := live.participant.collect
  let station := participant.station
  let wire := { station.wire with standing := none }
  let quiet := { live with
    participant := { participant with station := { station with wire := wire } } }
  datagrams.foldlM transmit quiet

/-- Write the new lines of the log, and push them out. -/
def writeLines (live : LiveParticipant) : IO LiveParticipant := do
  let log := live.participant.station.node.output
  let events := if live.outputFault.isSome then [] else log.since live.written
  if events.isEmpty then pure live
  else
    try
      live.output.write ⟨(events.flatMap OutputEvent.line).toArray⟩
      live.output.flush
      pure { live with written := live.written + events.length }
    catch error => pure { live with outputFault := some (.ofError error) }

def round (live : LiveParticipant) : IO LiveParticipant := do
  let live ← live.receive 1000
  let now := (← IO.monoMsNow) - live.epoch
  let live := { live with participant := live.participant.reach now }
  (← live.transmitAll).writeLines

def failure? (live : LiveParticipant) : Option NodeError :=
  live.participant.failure? <|> live.outputFault.map NodeError.output

/-- Let the participant stop, and write the rest of its log. -/
def finish (live : LiveParticipant) : IO (Option NodeError) := do
  let live ← { live with participant := live.participant.stop }.writeLines
  pure live.failure?

/-- Run rounds, a millisecond apart, until the participant has stopped or one
of the signals has come. -/
partial def run (live : LiveParticipant)
    (signals : List (Signal × IO.Promise Int)) : IO (Option NodeError) := do
  let signalled ← signals.anyM fun signal => IO.hasFinished signal.2.result?
  if signalled || live.participant.isStopped then live.finish
  else
    let next ← live.round
    IO.sleep 1
    next.run signals

end LiveParticipant

end CausalCast
