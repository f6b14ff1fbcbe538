import CausalCast.CommandLine
import CausalCast.Live

/-!
# The program

The command line is read, then the files that it names, and then the node
runs on its socket until an interrupt or a termination signal comes, or until
it fails.  The exit code is 0 for a node that was told to stop, 1 for a
failure, which is reported, and 2 for a command line that makes no sense.
-/

namespace CausalCast

open Std.Internal.UV

def FileProblem.ofError (error : IO.Error) : FileProblem :=
  match errorNumber error with
  | 2 => .missing
  | 13 => .denied
  | 20 => .notDirectory
  | 21 => .isDirectory
  | 36 => .nameTooLong
  | _ => .other (toString error)

/-- Look where a path leads. -/
def FileEntry.fetch (path : String) : IO FileEntry := do
  try
    let bytes ← IO.FS.readBinFile path
    pure (.file bytes.toList)
  catch error => pure (.nowhere (.ofError error))

/-- The view of the two files of an invocation. -/
def Invocation.fetch (invocation : Invocation) : IO FileView := do
  let hosts ← FileEntry.fetch invocation.hosts
  let config ← FileEntry.fetch invocation.config
  pure fun path => if path = invocation.hosts then hosts else config

/-- Run an action whose failure is reported under a heading. -/
def reporting {α : Type} (failure : String) (action : IO α) :
    IO (Except Report α) := do
  try pure (.ok (← action))
  catch error => pure (.error ⟨failure, [toString error]⟩)

/-- The next interrupt and the next termination signal. -/
def awaitSignals : IO (List (Signal × IO.Promise Int)) :=
  [2, 15].mapM fun number => do
    let signal ← Signal.mk number false
    pure (signal, ← signal.next)

def bindSocket (address : Address) : IO UDP.Socket := do
  let socket ← UDP.Socket.new
  socket.bind address.toSocketAddress
  pure socket

namespace Invocation

/-- What the node of an invocation is made of. -/
def plan (invocation : Invocation) (preparation : Preparation) :
    ParticipantPlan where
  me := invocation.id
  workload := preparation.config.workload
  faults := {}
  writer := Writer.boundless
  writerCrashes := false
  disturbance := {}

def createOutput (invocation : Invocation) :
    IO (Except Report IO.FS.Handle) := do
  try pure (.ok (← IO.FS.Handle.mk invocation.output .write))
  catch error => pure (.error (invocation.outputReport (.ofError error)))

def serve (invocation : Invocation) : ExceptT Report IO Unit := do
  let preparation ← invocation.prepare (← invocation.fetch) .nameless
  let output ← ExceptT.mk invocation.createOutput
  let address := preparation.address
  let socket ← ExceptT.mk
    (reporting ("binding " ++ address.toText) (bindSocket address))
  match Participant.launch preparation.membership preparation.config.graph
      invocation.settings (invocation.plan preparation) with
  | .error error => throw error.report
  | .ok participant =>
      let signals ← ExceptT.mk
        (reporting "installing signal handlers" awaitSignals)
      let live ← LiveParticipant.start participant socket output
      match ← live.run signals with
      | some error => throw error.report
      | none => pure ()

end Invocation

end CausalCast

open CausalCast in
def main (arguments : List String) : IO UInt32 := do
  match CommandLine.parse arguments with
  | .error error =>
      IO.eprintln error.message
      IO.eprintln CommandLine.usage
      pure 2
  | .ok .help =>
      IO.println CommandLine.usage
      pure 0
  | .ok .version =>
      IO.println CommandLine.version
      pure 0
  | .ok (.run invocation) =>
      match ← invocation.serve with
      | .ok _ => pure 0
      | .error report =>
          IO.eprint report.toText
          pure 1
