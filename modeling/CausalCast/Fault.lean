/-!
# Faults of the outside world

A read, a write or a datagram operation can fail.  The kind of failure is all
that the node looks at: a transient fault says that the same operation may
succeed later, and a lossy link has to live with it; every other fault ends
the loop that met it.
-/

namespace CausalCast

/-- The kinds of failure of an operation on a file, a writer or a socket. -/
inductive Fault where
  | notFound
  | permissionDenied
  | connectionRefused
  | connectionReset
  | hostUnreachable
  | networkUnreachable
  | connectionAborted
  | notConnected
  | addressInUse
  | addressNotAvailable
  | networkDown
  | brokenPipe
  | alreadyExists
  | wouldBlock
  | invalidInput
  | invalidData
  | timedOut
  | writeZero
  | interrupted
  | unsupported
  | unexpectedEnd
  | outOfMemory
  | other
deriving DecidableEq, Repr

namespace Fault

def message : Fault → String
  | notFound => "entity not found"
  | permissionDenied => "permission denied"
  | connectionRefused => "connection refused"
  | connectionReset => "connection reset"
  | hostUnreachable => "host unreachable"
  | networkUnreachable => "network unreachable"
  | connectionAborted => "connection aborted"
  | notConnected => "not connected"
  | addressInUse => "address in use"
  | addressNotAvailable => "address not available"
  | networkDown => "network down"
  | brokenPipe => "broken pipe"
  | alreadyExists => "entity already exists"
  | wouldBlock => "operation would block"
  | invalidInput => "invalid input parameter"
  | invalidData => "invalid data"
  | timedOut => "timed out"
  | writeZero => "write zero"
  | interrupted => "operation interrupted"
  | unsupported => "unsupported"
  | unexpectedEnd => "unexpected end of file"
  | outOfMemory => "out of memory"
  | other => "other error"

/-- Whether the same operation may succeed later. -/
def isTransient : Fault → Bool
  | wouldBlock | interrupted | timedOut | connectionRefused | connectionReset
  | notConnected | hostUnreachable | networkUnreachable => true
  | _ => false

end Fault

end CausalCast
