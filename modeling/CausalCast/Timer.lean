/-!
# Retransmission timer

A message that was sent at some time is due for the next transmission a fixed
offset later.  Times are whole milliseconds.
-/

namespace CausalCast

/-- The fixed offset between a transmission and the next. -/
structure RetransmitTimer where
  offset : Nat
deriving DecidableEq, Repr

namespace RetransmitTimer

def deadline (timer : RetransmitTimer) (sentAt : Nat) : Nat :=
  sentAt + timer.offset

def isDue (timer : RetransmitTimer) (sentAt now : Nat) : Bool :=
  timer.deadline sentAt ≤ now

/-- What someone who waits for the deadline knows now: `true` when the
message is due, `false` when a stop was ordered, and nothing while neither is
the case.  A stop goes first. -/
def poll? (timer : RetransmitTimer) (sentAt now : Nat) (stopped : Bool) :
    Option Bool :=
  if stopped then some false
  else if timer.isDue sentAt now then some true
  else none

/-- Wait for the deadline, and for no longer than a limit if there is one:
the answer, if any came within the limit, and the time at the end of the
wait. -/
def wait (timer : RetransmitTimer) (sentAt now : Nat) (stopped : Bool)
    (limit? : Option Nat) : Option Bool × Nat :=
  match timer.poll? sentAt now stopped with
  | some answer => (some answer, now)
  | none =>
      let due := timer.deadline sentAt
      match limit? with
      | none => (some true, due)
      | some limit =>
          if due ≤ now + limit then (some true, due) else (none, now + limit)

end RetransmitTimer

end CausalCast
