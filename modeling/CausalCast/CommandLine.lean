import CausalCast.Files
import CausalCast.Report

/-!
# The command line

A node is started with its id, the paths of a hosts file, a config file and
an output file, and with the settings of its link.  The path of the config
file stands alone; everything else is an option with a value, either in the
next argument or after an equals sign.  After a double dash every argument
stands alone.

A wrong command line is refused before anything is read.  After that the
first failure counts: the hosts file, the node's id in it, the config file,
the output file.
-/

namespace CausalCast

/-- The options. -/
inductive OptionName where
  | id
  | hosts
  | output
  | retransmissionOffset
  | packetWait
  | sendingChunk
  | receivers
deriving DecidableEq, Repr

namespace OptionName

def all : List OptionName :=
  [id, hosts, output, retransmissionOffset, packetWait, sendingChunk, receivers]

def text : OptionName → String
  | id => "id"
  | hosts => "hosts"
  | output => "output"
  | retransmissionOffset => "retransmission-offset-ms"
  | packetWait => "packet-wait-ms"
  | sendingChunk => "sending-chunk-size"
  | receivers => "receivers"

def ofText? (text : List Char) : Option OptionName :=
  all.find? fun option => option.text.toList = text

end OptionName

/-- Why a command line is refused. -/
inductive UsageError where
  | unexpected (argument : String)
  | missingValue (option : OptionName)
  | invalidValue (option : OptionName) (value : String)
  | emptyConfig
  | repeated (option : OptionName)
  | missing (what : String)
deriving DecidableEq, Repr

def UsageError.message : UsageError → String
  | unexpected argument => "error: unexpected argument '" ++ argument ++ "' found"
  | missingValue option =>
      "error: a value is required for '--" ++ option.text ++
        "' but none was supplied"
  | invalidValue option value =>
      "error: invalid value '" ++ value ++ "' for '--" ++ option.text ++ "'"
  | emptyConfig => "error: a value is required for the config file"
  | repeated option =>
      "error: the argument '--" ++ option.text ++
        "' cannot be used multiple times"
  | missing what => "error: the argument " ++ what ++ " was not provided"

/-- The values that the arguments give, so far. -/
structure GivenArguments where
  id : Option NodeId := none
  hosts : Option String := none
  output : Option String := none
  config : Option String := none
  retransmissionOffset : Option Nat := none
  packetWait : Option Nat := none
  sendingChunk : Option Nat := none
  receivers : Option Nat := none
deriving DecidableEq, Repr

/-- What is asked for. -/
structure Invocation where
  id : NodeId
  hosts : String
  output : String
  config : String
  settings : LinkSettings
deriving DecidableEq, Repr

/-- What a command line leads to before any file is looked at. -/
inductive Request where
  | help
  | version
  | run (invocation : Invocation)
deriving DecidableEq, Repr

namespace CommandLine

def nodeId? (text : List Char) : Option NodeId :=
  match text with
  | '-' :: digits =>
      if Text.digits? 1 digits = some 0 then some 0 else none
  | _ => Text.unsigned32? text

/-- A number of milliseconds or of things. -/
def number? (text : List Char) : Option Nat :=
  Text.unsigned? 0x10000000000000000 text

def path? (text : List Char) : Option String :=
  if text.isEmpty then none else some (String.ofList text)

/-- Set a value that was not set before. -/
def setOnce {α : Type} (option : OptionName) (value : List Char)
    (old read : Option α) : Except UsageError (Option α) :=
  match read with
  | none => .error (.invalidValue option (String.ofList value))
  | some value =>
      if old.isSome then .error (.repeated option) else .ok (some value)

def setOption (given : GivenArguments) (option : OptionName)
    (value : List Char) : Except UsageError GivenArguments := do
  match option with
  | .id =>
      .ok { given with id := ← setOnce option value given.id (nodeId? value) }
  | .hosts =>
      .ok { given with
        hosts := ← setOnce option value given.hosts (path? value) }
  | .output =>
      .ok { given with
        output := ← setOnce option value given.output (path? value) }
  | .retransmissionOffset =>
      .ok { given with
        retransmissionOffset :=
          ← setOnce option value given.retransmissionOffset (number? value) }
  | .packetWait =>
      .ok { given with
        packetWait := ← setOnce option value given.packetWait (number? value) }
  | .sendingChunk =>
      .ok { given with
        sendingChunk :=
          ← setOnce option value given.sendingChunk (number? value) }
  | .receivers =>
      .ok { given with
        receivers := ← setOnce option value given.receivers (number? value) }

/-- Take an argument that stands alone. -/
def setConfig (given : GivenArguments) (argument : List Char) :
    Except UsageError GivenArguments :=
  match given.config, path? argument with
  | some _, _ => .error (.unexpected (String.ofList argument))
  | none, none => .error .emptyConfig
  | none, some path => .ok { given with config := some path }

/-- Take arguments that all stand alone. -/
def setAlone (given : GivenArguments) :
    List (List Char) → Except UsageError GivenArguments
  | [] => .ok given
  | argument :: rest => do
      let given ← setConfig given argument
      setAlone given rest

/-- What an argument is taken for. -/
inductive Argument where
  | escape
  | option (name : List Char) (value : Option (List Char))
  | short (letter : Char)
  | alone
deriving DecidableEq, Repr

/-- Tell options from arguments that stand alone; a lone dash is one of the
latter. -/
def classify : List Char → Argument
  | ['-', '-'] => .escape
  | '-' :: '-' :: text =>
      match text.span (· ≠ '=') with
      | (name, _ :: value) => .option name (some value)
      | (name, []) => .option name none
  | '-' :: letter :: _ => .short letter
  | _ => .alone

/-- What reading the arguments one by one comes to. -/
inductive Scanned where
  | help
  | version
  | given (arguments : GivenArguments)
deriving DecidableEq, Repr

/-- Read the arguments from the left.  An option without an attached value
takes the next argument, unless that looks like an option itself. -/
def scan (given : GivenArguments) : List (List Char) → Except UsageError Scanned
  | [] => .ok (.given given)
  | argument :: rest =>
      match classify argument with
      | .escape => do .ok (.given (← setAlone given rest))
      | .short 'h' => .ok .help
      | .short 'V' => .ok .version
      | .short _ => .error (.unexpected (String.ofList argument))
      | .alone => do
          let given ← setConfig given argument
          scan given rest
      | .option name value? =>
          match OptionName.ofText? name, value? with
          | some option, some value => do
              let given ← setOption given option value
              scan given rest
          | some option, none =>
              match rest with
              | [] => .error (.missingValue option)
              | value :: others =>
                  if classify value = .alone then do
                    let given ← setOption given option value
                    scan given others
                  else .error (.missingValue option)
          | none, none =>
              if name = "help".toList then .ok .help
              else if name = "version".toList then .ok .version
              else .error (.unexpected (String.ofList argument))
          | none, some _ => .error (.unexpected (String.ofList argument))

def require {α : Type} (what : String) : Option α → Except UsageError α
  | some value => .ok value
  | none => .error (.missing what)

/-- Complete the given values with the standard ones. -/
def complete (given : GivenArguments) : Except UsageError Invocation := do
  let id ← require "--id" given.id
  let hosts ← require "--hosts" given.hosts
  let output ← require "--output" given.output
  let config ← require "the config file" given.config
  let standard : LinkSettings := {}
  .ok {
    id := id
    hosts := hosts
    output := output
    config := config
    settings := {
      retransmissionOffset :=
        given.retransmissionOffset.getD standard.retransmissionOffset
      packetWait := given.packetWait.getD standard.packetWait
      sendingChunk := given.sendingChunk.getD standard.sendingChunk
      receivers := given.receivers.getD standard.receivers } }

def parse (arguments : List String) : Except UsageError Request := do
  match ← scan {} (arguments.map String.toList) with
  | .help => .ok .help
  | .version => .ok .version
  | .given given => do .ok (.run (← complete given))

end CommandLine

/-- What a node needs to start. -/
structure Preparation where
  membership : Membership
  address : Address
  config : Config

namespace Invocation

def report (failure : String) (error : ConfigError) : Report :=
  ⟨failure, error.message :: (error.cause?.map FileProblem.message).toList⟩

/-- Read the hosts file, look the node up in it, and read the config file. -/
def prepare (invocation : Invocation) (files : FileView)
    (lookup : NameLookup) : Except Report Preparation :=
  match Membership.load files lookup invocation.hosts with
  | .error error =>
      .error (report ("loading hosts file " ++ invocation.hosts) error)
  | .ok membership =>
      match membership.address? invocation.id with
      | none =>
          .error ⟨"node id " ++ toString invocation.id.toNat ++ " is not in " ++
            invocation.hosts, []⟩
      | some address =>
          match Config.load files invocation.config membership with
          | .error error =>
              .error (report ("loading config file " ++ invocation.config) error)
          | .ok config => .ok ⟨membership, address, config⟩

def outputReport (invocation : Invocation) (problem : FileProblem) : Report :=
  ⟨"creating output file " ++ invocation.output, [problem.message]⟩

end Invocation

/-- How far a command line gets. -/
inductive Outcome where
  | help
  | version
  | refused (error : UsageError)
  | failed (report : Report)
  | ready (invocation : Invocation) (preparation : Preparation)

namespace CommandLine

def usage : String :=
  String.intercalate "\n" [
    "Usage: causal-cast --id <ID> --hosts <HOSTS> --output <OUTPUT> [OPTIONS] <CONFIG>",
    "",
    "  <CONFIG>                         what the nodes send, and what depends on what",
    "  --id <ID>                        the id of this node in the hosts file",
    "  --hosts <HOSTS>                  one line with id, ip and port for each node",
    "  --output <OUTPUT>                where the log goes",
    "  --retransmission-offset-ms <MS>  time between two transmissions [100]",
    "  --packet-wait-ms <MS>            longest wait of a receiver [100]",
    "  --sending-chunk-size <NUMBER>    queue length at which producers pause [100000]",
    "  --receivers <NUMBER>             receivers on the socket [1]"]

def version : String :=
  "causal-cast 0.1.0"

/-- Follow a command line up to the creation of its output file, whose
outcome is given. -/
def run (files : FileView) (lookup : NameLookup)
    (creationProblem? : String → Option FileProblem)
    (arguments : List String) : Outcome :=
  match parse arguments with
  | .error error => .refused error
  | .ok .help => .help
  | .ok .version => .version
  | .ok (.run invocation) =>
      match invocation.prepare files lookup with
      | .error report => .failed report
      | .ok preparation =>
          match creationProblem? invocation.output with
          | some problem => .failed (invocation.outputReport problem)
          | none => .ready invocation preparation

end CommandLine

/-- The exit code of a command line that does not start a node. -/
def Outcome.exitCode : Outcome → Nat
  | refused _ => 2
  | failed _ => 1
  | _ => 0

end CausalCast
