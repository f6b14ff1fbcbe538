import CausalCast.Text.Numeral

/-!
# Datagram addresses

An address is an IPv4 or IPv6 host together with a port.  The text of an
IPv6 host leaves out its first longest run of at least two zero groups, and
shows an IPv4 host inside it in the IPv4 notation.
-/

namespace CausalCast

/-- An IPv4 host, by its four bytes. -/
structure IPv4 where
  a : UInt8
  b : UInt8
  c : UInt8
  d : UInt8
deriving DecidableEq, Hashable, Repr

/-- An IPv6 host, by its eight groups. -/
structure IPv6 where
  groups : Vector UInt16 8
deriving DecidableEq, Repr

/-- Where a datagram goes to or comes from. -/
inductive Address where
  | v4 (host : IPv4) (port : UInt16)
  | v6 (host : IPv6) (scope : UInt32) (port : UInt16)
deriving DecidableEq, Repr

namespace IPv4

def toText (host : IPv4) : String :=
  let a := host.a.toNat
  let b := host.b.toNat
  let c := host.c.toNat
  let d := host.d.toNat
  s!"{a}.{b}.{c}.{d}"

def loopback : IPv4 := ⟨127, 0, 0, 1⟩

end IPv4

namespace IPv6

/-- The IPv4 host that a mapped IPv6 host stands for. -/
def mapped? (host : IPv6) : Option IPv4 :=
  match host.groups.toList with
  | [0, 0, 0, 0, 0, 0xFFFF, high, low] =>
      some ⟨(high >>> 8).toUInt8, high.toUInt8, (low >>> 8).toUInt8, low.toUInt8⟩
  | _ => none

/-- The length of the run of zeros at the head. -/
def zeroRun (groups : List UInt16) : Nat :=
  (groups.takeWhile (· == 0)).length

/-- Where the first longest run of zeros begins, and its length. -/
def longestZeroRun : List UInt16 → Nat × Nat
  | [] => (0, 0)
  | group :: rest =>
      let here := zeroRun (group :: rest)
      let later := longestZeroRun rest
      if later.2 ≤ here then (0, here) else (later.1 + 1, later.2)

/-- Groups in lower-case hexadecimal, with colons between them. -/
def joinGroups (groups : List UInt16) : String :=
  String.intercalate ":" <| groups.map fun group =>
    String.ofList (Nat.toDigits 16 group.toNat)

def toText (host : IPv6) : String :=
  match host.mapped? with
  | some inner => "::ffff:" ++ inner.toText
  | none =>
      let groups := host.groups.toList
      let run := longestZeroRun groups
      if run.2 < 2 then joinGroups groups
      else
        joinGroups (groups.take run.1) ++ "::" ++
          joinGroups (groups.drop (run.1 + run.2))

end IPv6

namespace Address

def port : Address → UInt16
  | v4 _ port => port
  | v6 _ _ port => port

def toText : Address → String
  | v4 host port => host.toText ++ ":" ++ toString port.toNat
  | v6 host scope port =>
      let mark := if scope = 0 then "" else "%" ++ toString scope.toNat
      "[" ++ host.toText ++ mark ++ "]:" ++ toString port.toNat

end Address

end CausalCast
