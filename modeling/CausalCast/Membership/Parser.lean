import CausalCast.Address.Parser
import CausalCast.Membership
import CausalCast.Text.Lines

/-!
# Hosts files

A hosts file lists one node a line, as id, host and port.  Blank lines are
skipped but counted.  The host is an IPv4 literal or a name that the system
looks up; an IPv6 literal is a host without an IPv4 address.  The first line
that is not of this form decides the error; the ids are looked at only when all
lines are well formed.
-/

namespace CausalCast

/-- What the system says of a name: the IPv4 addresses that it has, in order,
or why there are none. -/
abbrev NameLookup := List Char → Except HostProblem (List IPv4)

/-- A system that knows no names, but reads the older forms of IPv4 literals
and IPv6 literals with a scope. -/
def NameLookup.nameless : NameLookup := fun text =>
  match IPv4.parseOlder? text with
  | some host => .ok [host]
  | none => if IPv6.isLiteral text then .ok [] else .error .unknownName

namespace Member

/-- The IPv4 addresses of a host, in order. -/
def addressesOfHost (lookup : NameLookup) (text : List Char) :
    Except HostProblem (List IPv4) :=
  match IPv4.parse? text with
  | some host => .ok [host]
  | none =>
      if (IPv6.parse? text).isSome then .ok []
      else if text.contains '\x00' then .error .nullCharacter
      else lookup text

def hostOfText (lookup : NameLookup) (text : List Char) :
    Except ConfigError IPv4 :=
  match addressesOfHost lookup text with
  | .error problem => .error (.unresolved text problem)
  | .ok [] => .error (.unresolved text .noIPv4)
  | .ok (host :: _) => .ok host

def ofLine (lookup : NameLookup) (number : Nat) (line : List Char) :
    Except ConfigError Member :=
  let malformed := ConfigError.malformed number (.notHost line)
  match Text.fields line with
  | [id, host, port] =>
      match Text.unsigned32? id, Text.unsigned16? port with
      | some id, some port => do
          let host ← hostOfText lookup host
          .ok ⟨id, .v4 host port⟩
      | _, _ => .error malformed
  | _ => .error malformed

/-- The nodes of numbered lines, in order. -/
def ofLines (lookup : NameLookup) :
    List (Nat × List Char) → Except ConfigError (List Member)
  | [] => .ok []
  | (number, line) :: rest =>
      if Text.isBlankLine line then ofLines lookup rest
      else do
        let member ← ofLine lookup number (Text.trim line)
        let members ← ofLines lookup rest
        .ok (member :: members)

end Member

def Membership.parse (lookup : NameLookup) (text : List Char) :
    Except ConfigError Membership := do
  let members ← Member.ofLines lookup (Text.numberedLines text)
  Membership.ofList members

end CausalCast
