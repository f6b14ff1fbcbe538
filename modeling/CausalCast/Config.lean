import CausalCast.CausalityGraph
import CausalCast.Membership
import CausalCast.Workload
import CausalCast.Text.Lines
import CausalCast.Text.Numeral

/-!
# Config files

The first line of a config file that is not blank holds the number of
messages.  A second number on it names the receiver of a point-to-point run;
the rest of the file is then ignored.  Otherwise each following line, blank
or not, belongs to the next node of the membership and lists the nodes that
its messages depend on; missing lines mean none, and lines beyond the last
node are ignored.
-/

namespace CausalCast

/-- What a run does. -/
structure Config where
  workload : Workload
  graph : CausalityGraph
deriving DecidableEq, Repr

namespace Config

/-- Read every field of a line as a number. -/
def numbersOfFields (line : Nat) :
    List (List Char) → Except ConfigError (List UInt32)
  | [] => .ok []
  | field :: rest =>
      match Text.unsigned32? field with
      | none => .error (.malformed line (.notUnsigned field))
      | some number => do
          let numbers ← numbersOfFields line rest
          .ok (number :: numbers)

def numbers (line : Nat) (text : List Char) : Except ConfigError (List UInt32) :=
  numbersOfFields line (Text.fields text)

/-- The workload that the first line names. -/
def workloadOfLine (membership : Membership) (line : Nat) (text : List Char) :
    Except ConfigError Workload := do
  match ← numbers line text with
  | [messages] => .ok (.broadcast messages)
  | [messages, receiver] =>
      if membership.contains receiver then
        .ok (.pointToPoint receiver messages)
      else .error (.unknownNode receiver)
  | _ => .error (.malformed line (.notWorkload text))

def dependenciesOfLine (membership : Membership) (line : Nat)
    (text : List Char) : Except ConfigError (List NodeId) := do
  let ids ← numbers line text
  match ids.find? (!membership.contains ·) with
  | some stranger => .error (.unknownNode stranger)
  | none => .ok ids

/-- The edges of nodes whose lines follow in the same order. -/
def edgesOfLines (membership : Membership) :
    List Member → List (Nat × List Char) →
      Except ConfigError (List (NodeId × List NodeId))
  | member :: members, (line, text) :: rest => do
      let dependencies ← dependenciesOfLine membership line text
      let edges ← edgesOfLines membership members rest
      .ok ((member.id, dependencies) :: edges)
  | _, _ => .ok []

def parse (text : List Char) (membership : Membership) :
    Except ConfigError Config := do
  let significant :=
    (Text.numberedLines text).dropWhile fun line => Text.isBlankLine line.2
  match significant with
  | [] => .error (.malformed 1 .noMessageCount)
  | (line, first) :: rest =>
      let workload ← workloadOfLine membership line first
      let edges ←
        if workload.isBroadcast then
          edgesOfLines membership membership.members rest
        else .ok []
      let graph ← CausalityGraph.ofEdges membership.clockLength edges
      .ok ⟨workload, graph⟩

end Config

end CausalCast
