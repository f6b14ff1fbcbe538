import CausalCast.Node.Broadcast

/-!
# Receiving

A received payload is recorded as a witness of its sender.  A payload that
the tracker rejects has no further effect, and neither has an
acknowledgement.  Data is acknowledged to its sender each time it comes, and
in a broadcast run it is relayed when it comes for the first time.

A receiver meets one arrival after another.  A datagram that cannot be
decoded is dropped; a transient mishap loses nothing; any other mishap ends
the receiver.  How long a single wait takes leaves no trace.
-/

namespace CausalCast

namespace Node

/-- Act on a received payload. -/
def handlePayload (node : Node) (payload : Payload) : Node :=
  match node.insert payload.sender payload with
  | .error _ => node
  | .ok (recorded, _) =>
      if payload.isAck then recorded
      else
        match recorded.send payload.toAck payload.sender with
        | (refused, .error _) => refused
        | (acknowledged, .ok _) =>
            if !acknowledged.workload.isBroadcast then acknowledged
            else
              match acknowledged.uniformReliableBroadcast payload with
              | .error _ => acknowledged
              | .ok (relayed, _) => relayed

/-- Act on the bytes of a datagram, of which a receiver reads no more than
the longest datagram has. -/
def handleDatagram (node : Node) (bytes : List UInt8) : Node :=
  match Payload.decode? (bytes.take Payload.maxDatagram)
      (UInt64.ofNat node.clockLength) with
  | some (.ok payload) => node.handlePayload payload
  | _ => node

/-- What a receiver does after a mishap. -/
def afterMishap (node : Node) (mishap : Mishap) : Node × Option LoopResult :=
  if mishap.isTransient then (node, none) else (node, some (.failed mishap))

/-- What a receiver does with its next arrival, and how it ends if it
does. -/
def meet (node : Node) : Arrival → Node × Option LoopResult
  | .datagram bytes => (node.handleDatagram bytes, none)
  | .failedReceive mishap => node.afterMishap mishap
  | .failedWait mishap => node.afterMishap mishap
  | .idleWait _ => (node, none)
  | .stop => (node.stop, none)

/-- Run a receiver over a list of arrivals: it ends when the node is stopped
or a mishap is fatal, and otherwise goes on waiting. -/
def receiveAll (node : Node) : List Arrival → Node × Option LoopResult
  | [] => (node, if node.stopped then some .completed else none)
  | arrival :: rest =>
      if node.stopped then (node, some .completed)
      else
        match node.meet arrival with
        | (after, some result) => (after, some result)
        | (after, none) => after.receiveAll rest

end Node

end CausalCast
