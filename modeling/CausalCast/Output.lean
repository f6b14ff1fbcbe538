import CausalCast.Fault
import CausalCast.Payload
import CausalCast.Text.Numeral

/-!
# The output log

What a node did is written down as lines: `b` and the content for each
message it originated, `d`, the owner and the content for each message it
delivered, in the order in which these things happened.  The log collects the
events; a drain writes them to a writer, which may fail at any byte.
-/

namespace CausalCast

/-- An event that has a line in the output. -/
inductive OutputEvent where
  | broadcast (content : List UInt8)
  | delivered (payload : Payload)
deriving DecidableEq, Repr

namespace OutputEvent

def text : OutputEvent → List Char
  | broadcast content => ['b', ' '] ++ Text.Utf8.decodeLossy content
  | delivered payload =>
      ['d', ' '] ++ Text.decimal payload.owner.toNat ++ [' '] ++ payload.text

/-- The pieces in which the line of an event is written. -/
def pieces : OutputEvent → List (List Char)
  | broadcast content => [['b', ' '], Text.Utf8.decodeLossy content, ['\n']]
  | delivered payload =>
      [['d', ' '], Text.decimal payload.owner.toNat, [' '], payload.text, ['\n']]

/-- The bytes of the line of an event. -/
def line (event : OutputEvent) : List UInt8 :=
  Text.Utf8.encode (event.text ++ ['\n'])

theorem flatten_pieces (event : OutputEvent) :
    event.pieces.flatten = event.text ++ ['\n'] := by
  cases event <;> simp [pieces, text]

end OutputEvent

/-- The events so far.  Once the log is closed, later events are lost. -/
structure OutputLog where
  events : Array OutputEvent
  isOpen : Bool
deriving Repr

namespace OutputLog

def new : OutputLog :=
  ⟨#[], true⟩

def emit (log : OutputLog) (event : OutputEvent) : OutputLog :=
  if log.isOpen then { log with events := log.events.push event } else log

def deliverAll (log : OutputLog) (payloads : List Payload) : OutputLog :=
  payloads.foldl (fun log payload => log.emit (.delivered payload)) log

def close (log : OutputLog) : OutputLog :=
  { log with isOpen := false }

def since (log : OutputLog) (position : Nat) : List OutputEvent :=
  (log.events.extract position log.events.size).toList

end OutputLog

/-- A fault that makes a write fail.  A write that is interrupted has not
failed: it is tried again. -/
structure WriteFault where
  fault : Fault
  lasting : fault ≠ .interrupted

/-- A writer.  It accepts a call's bytes only in part when its appetite for
that call is smaller or its limit is near; beyond the limit every write
fails. -/
structure Writer where
  /-- The bytes that it will still accept; without a limit, any number. -/
  limit : Option Nat
  /-- For each call, one less than the most bytes that it accepts. -/
  appetite : Nat → Nat
  writeFault : WriteFault
  flushFault : Option Fault
  /-- Which flushes the fault strikes, by the number of those before. -/
  flushFails : Nat → Bool := fun _ => true
  written : Array UInt8
  calls : Nat
  flushes : Nat

namespace Writer

def boundless : Writer where
  limit := none
  appetite := fun _ => 65535
  writeFault := ⟨.other, by decide⟩
  flushFault := none
  written := #[]
  calls := 0
  flushes := 0

/-- How many of some bytes the next call accepts. -/
def accepts (writer : Writer) (offered : Nat) : Nat :=
  let wanted := min offered (writer.appetite writer.calls + 1)
  match writer.limit with
  | some limit => min wanted limit
  | none => wanted

/-- The writer after a call that accepts a number of bytes. -/
def accept (writer : Writer) (bytes : List UInt8) (number : Nat) : Writer :=
  { writer with
    limit := writer.limit.map (· - number)
    written := writer.written ++ (bytes.take number).toArray
    calls := writer.calls + 1 }

/-- Write some bytes, in as many calls as it takes; the fault of the first
failing call ends it. -/
def writeAll (writer : Writer) (bytes : List UInt8) : Writer × Option Fault :=
  if bytes = [] then (writer, none)
  else
    let number := writer.accepts bytes.length
    if number = 0 then (writer, some writer.writeFault.fault)
    else (writer.accept bytes number).writeAll (bytes.drop number)
termination_by bytes.length
decreasing_by
  simp only [List.length_drop]
  have positive : bytes.length ≠ 0 := by simpa using ‹¬bytes = []›
  omega

/-- The outcome of a flush, by the number of those before. -/
def flushOutcome (writer : Writer) (earlier : Nat) : Option Fault :=
  writer.flushFault.filter fun _ => writer.flushFails earlier

def flush (writer : Writer) : Writer × Option Fault :=
  ({ writer with flushes := writer.flushes + 1 },
    writer.flushOutcome writer.flushes)

/-- Write several pieces, up to the first fault. -/
def writePieces (writer : Writer) : List (List Char) → Writer × Option Fault
  | [] => (writer, none)
  | piece :: rest =>
      match writer.writeAll (Text.Utf8.encode piece) with
      | (after, some fault) => (after, some fault)
      | (after, none) => after.writePieces rest

def writeEvent (writer : Writer) (event : OutputEvent) :
    Writer × Option Fault :=
  writer.writePieces event.pieces

/-- Write events as lines.  The writer is flushed whenever no event is left
to write, and once more at the end; the first fault ends it. -/
def drain (writer : Writer) : List OutputEvent → Writer × Option Fault
  | [] => writer.flush
  | event :: rest =>
      match writer.writeEvent event with
      | (after, some fault) => (after, some fault)
      | (after, none) =>
          if rest.isEmpty then
            match after.flush with
            | (flushed, some fault) => (flushed, some fault)
            | (flushed, none) => flushed.drain rest
          else after.drain rest

end Writer

end CausalCast
