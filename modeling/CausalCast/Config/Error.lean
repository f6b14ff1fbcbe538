import CausalCast.Identity
import CausalCast.Text.Quoted

/-!
# Configuration errors

What can be wrong with a hosts file, a config file, or the things built from
them.  Each constructor is one cause; the wording is in `message` alone.
-/

namespace CausalCast

/-- Why the text of a file could not be had. -/
inductive FileProblem where
  | missing
  | notDirectory
  | isDirectory
  | nameTooLong
  | denied
  | notText
  | other (text : String)
deriving DecidableEq, Repr

def FileProblem.message : FileProblem → String
  | missing => "No such file or directory (os error 2)"
  | notDirectory => "Not a directory (os error 20)"
  | isDirectory => "Is a directory (os error 21)"
  | nameTooLong => "File name too long (os error 36)"
  | denied => "Permission denied (os error 13)"
  | notText => "stream did not contain valid UTF-8"
  | other text => text

/-- What is wrong with one line of a file. -/
inductive LineProblem where
  | notHost (line : List Char)
  | notWorkload (line : List Char)
  | notUnsigned (field : List Char)
  | noMessageCount
deriving DecidableEq, Repr

def LineProblem.message : LineProblem → String
  | notHost line => "expected \x60id ip port\x60, got " ++ Text.quoted line
  | notWorkload line => "expected \x60m [i]\x60, got " ++ Text.quoted line
  | notUnsigned field => Text.quoted field ++ " is not an unsigned integer"
  | noMessageCount => "missing message count"

/-- Why a host has no address that the node can use. -/
inductive HostProblem where
  | noIPv4
  | nullCharacter
  | unknownName
  | other (text : String)
deriving DecidableEq, Repr

def HostProblem.message : HostProblem → String
  | noIPv4 => "no IPv4 address"
  | nullCharacter => "file name contained an unexpected NUL byte"
  | unknownName =>
      "failed to lookup address information: Name or service not known"
  | other text => text

/-- What can be wrong with the configuration of a node. -/
inductive ConfigError where
  | unreadable (path : String) (problem : FileProblem)
  | malformed (line : Nat) (problem : LineProblem)
  | unresolved (host : List Char) (problem : HostProblem)
  | noHosts
  | idOutOfRange (id : NodeId) (count : Nat)
  | duplicateId (id : NodeId)
  | unknownNode (id : NodeId)
  | graphSize (expected got : Nat)
deriving DecidableEq, Repr

namespace ConfigError

def message : ConfigError → String
  | unreadable path problem => "cannot read " ++ path ++ ": " ++ problem.message
  | malformed line problem => s!"line {line}: " ++ problem.message
  | unresolved host problem =>
      "cannot resolve host " ++ String.ofList host ++ ": " ++ problem.message
  | noHosts => "hosts file lists no nodes"
  | idOutOfRange id count => s!"node id {id} outside 1..={count}"
  | duplicateId id => s!"node id {id} listed twice"
  | unknownNode id => s!"unknown node id {id}"
  | graphSize expected got =>
      s!"causality graph covers {got} ids, membership needs {expected}"

/-- The error that led to this one, if it wraps another. -/
def cause? : ConfigError → Option FileProblem
  | unreadable _ problem => some problem
  | _ => none

end ConfigError

end CausalCast
