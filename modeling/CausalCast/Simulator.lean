import CausalCast.Payload.Codec
import CausalCast.Transport

/-!
# Lossy links

A simulator stands before a wire and treats outgoing datagrams as a bad
network would.  It drops the first few datagrams that are not
acknowledgements, it may lose any datagram, and it may send a datagram twice.
The sender of a dropped datagram is told that it was sent.

Loss and duplication either never happen or always happen.
-/

namespace CausalCast

/-- How often something happens. -/
inductive Chance where
  | never
  | always
deriving DecidableEq, Repr

/-- The chance that a rate stands for, if the rate leaves nothing open: a
rate below zero counts as zero, and one above one counts as one. -/
def Chance.ofRate? (numerator : Int) (denominator : Nat) : Option Chance :=
  if numerator ≤ 0 then some .never
  else if (denominator : Int) ≤ numerator then some .always
  else none

/-- What a simulator does to datagrams. -/
structure FaultModel where
  loss : Chance := .never
  duplication : Chance := .never
  /-- How many datagrams that are not acknowledgements are dropped first. -/
  dropFirst : Nat := 0
deriving DecidableEq, Repr

/-- A fault model at work, with its counts. -/
structure Simulator where
  model : FaultModel
  /-- How many datagrams were not acknowledgements. -/
  dataSeen : Nat
  sent : Nat
  dropped : Nat
  duplicated : Nat
deriving DecidableEq, Repr

/-- What becomes of a datagram. -/
inductive Fate where
  | drop
  | send (twice : Bool)
deriving DecidableEq, Repr

namespace Simulator

def new (model : FaultModel) : Simulator :=
  ⟨model, 0, 0, 0, 0⟩

def transparent : Simulator :=
  new {}

def fate (simulator : Simulator) (bytes : List UInt8) : Fate :=
  if !Payload.isAckDatagram bytes &&
      simulator.dataSeen < simulator.model.dropFirst then .drop
  else if simulator.model.loss = .always then .drop
  else .send (simulator.model.duplication = .always)

/-- Count a datagram that is not an acknowledgement. -/
def observe (simulator : Simulator) (bytes : List UInt8) : Simulator :=
  if Payload.isAckDatagram bytes then simulator
  else { simulator with dataSeen := simulator.dataSeen + 1 }

/-- Send a datagram once, or twice in a row if the first send succeeds. -/
def transmit (wire : Wire) (datagram : Datagram) (twice : Bool) :
    Wire × Except Mishap Nat :=
  match wire.send datagram with
  | (after, .ok length) =>
      if twice then after.send datagram else (after, .ok length)
  | (after, .error mishap) => (after, .error mishap)

/-- Send a datagram through the simulator.  A send counts as sent, and as
duplicated, only if every copy left. -/
def send (simulator : Simulator) (wire : Wire) (datagram : Datagram) :
    Simulator × Wire × Except Mishap Nat :=
  let observed := simulator.observe datagram.bytes
  match simulator.fate datagram.bytes with
  | .drop =>
      ({ observed with dropped := observed.dropped + 1 }, wire,
        .ok datagram.bytes.length)
  | .send twice =>
      match transmit wire datagram twice with
      | (after, .error mishap) => (observed, after, .error mishap)
      | (after, .ok length) =>
          ({ observed with
              sent := observed.sent + 1
              duplicated := observed.duplicated + if twice then 1 else 0 },
            after, .ok length)

end Simulator

end CausalCast
