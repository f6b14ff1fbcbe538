import CausalCast.Address
import CausalCast.Fault

/-!
# Transport

A transport carries datagrams.  On the sending side it has an outcome for
each send; on the receiving side a receiver meets one arrival after another.
Both sides are plain data here: what the surroundings do to a node is a list
of outcomes and a list of arrivals.
-/

namespace CausalCast

/-- What goes wrong in an operation of a transport: it reports a fault, or it
takes its caller down. -/
inductive Mishap where
  | fault (kind : Fault)
  | crash
deriving DecidableEq, Repr

def Mishap.isTransient : Mishap → Bool
  | fault kind => kind.isTransient
  | crash => false

/-- Bytes on their way to an address. -/
structure Datagram where
  destination : Address
  bytes : List UInt8
deriving DecidableEq, Repr

/-- What a receiver meets next. -/
inductive Arrival where
  /-- A datagram is there, and is read. -/
  | datagram (bytes : List UInt8)
  /-- Something seems to be there, and reading it goes wrong. -/
  | failedReceive (mishap : Mishap)
  /-- A wait ends without anything to read, although it may claim that there
  is something. -/
  | idleWait (readable : Bool)
  /-- A wait goes wrong. -/
  | failedWait (mishap : Mishap)
  /-- The node is ordered to stop. -/
  | stop
deriving DecidableEq, Repr

/-- The sending side. -/
structure Wire where
  /-- The outcomes of the next sends, `none` for success. -/
  outcomes : List (Option Mishap)
  /-- The outcome of every send after those. -/
  standing : Option Mishap
  /-- The datagrams that left, in order. -/
  sent : Array Datagram
deriving Repr

namespace Wire

def new : Wire :=
  ⟨[], none, #[]⟩

def outcome (wire : Wire) : Option Mishap :=
  match wire.outcomes with
  | outcome :: _ => outcome
  | [] => wire.standing

def send (wire : Wire) (datagram : Datagram) : Wire × Except Mishap Nat :=
  let rest := wire.outcomes.tail
  match wire.outcome with
  | some mishap => ({ wire with outcomes := rest }, .error mishap)
  | none =>
      ({ wire with outcomes := rest, sent := wire.sent.push datagram },
        .ok datagram.bytes.length)

end Wire

end CausalCast
