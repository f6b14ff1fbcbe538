import CausalCast.Tracker

/-!
# Recording and releasing

Recording a witness may complete what a staged message was waiting for.  The
release then starts at the owner of that message: its messages are released
from the frontier on as long as they are ready, and whenever an owner has
moved, the owners that depend on it are looked at as well.  Each release
removes a staged message, which bounds the whole cascade.
-/

namespace CausalCast

namespace Tracker

/-- Release the message at an owner's frontier, ready or not. -/
def releaseFrontier (tracker : Tracker) (owner : NodeId) : Tracker :=
  let message := tracker.frontierMessage owner
  { tracker with
    staged := tracker.staged.erase message
    counters := tracker.counters.erase message
    frontiers := tracker.frontiers.set owner.toNat (message.uid + 1)
    clock := tracker.clock.set owner.toNat (tracker.clock.entry owner + 1) }

theorem size_staged_releaseFrontier {tracker : Tracker} {owner : NodeId}
    {payload : Payload} (ready : tracker.ready? owner = some payload) :
    (tracker.releaseFrontier owner).staged.size + 1 = tracker.staged.size := by
  have present : tracker.frontierMessage owner ∈ tracker.staged := by
    have found := staged_of_ready? ready
    rw [Std.HashMap.mem_iff_isSome_getElem?]
    simp [found]
  have positive : tracker.staged.size ≠ 0 := by
    intro zero
    have nothing := Std.HashMap.isEmpty_iff_forall_not_mem.mp
      (by simpa [Std.HashMap.isEmpty_eq_size_eq_zero] using zero)
      (tracker.frontierMessage owner)
    exact nothing present
  simp only [releaseFrontier, Std.HashMap.size_erase, present, if_true]
  omega

/-- Release the messages of one owner from its frontier on, as long as they
are ready; they are given in the order of release. -/
def advance (tracker : Tracker) (owner : NodeId) : Tracker × List Payload :=
  match _ready : tracker.ready? owner with
  | none => (tracker, [])
  | some payload =>
      let (final, released) := (tracker.releaseFrontier owner).advance owner
      (final, payload :: released)
termination_by tracker.staged.size
decreasing_by
  have smaller := size_staged_releaseFrontier _ready
  omega

theorem size_staged_advance (tracker : Tracker) (owner : NodeId) :
    (tracker.advance owner).1.staged.size + (tracker.advance owner).2.length =
      tracker.staged.size := by
  fun_induction advance tracker owner with
  | case1 => simp
  | case2 tracker payload ready final released step induction =>
      have smaller := size_staged_releaseFrontier ready
      rw [step] at induction
      simp only [List.length_cons] at *
      omega

/-- Append those owners to a worklist that are not on it. -/
def appendNew (pending : List NodeId) : List NodeId → List NodeId
  | [] => pending
  | owner :: rest =>
      if owner ∈ pending then appendNew pending rest
      else appendNew (pending ++ [owner]) rest

/-- Release what is ready of the owners on a worklist, and then of those that
depend on an owner that moved. -/
def cascade (tracker : Tracker) (pending : List NodeId) :
    Tracker × List Payload :=
  match pending with
  | [] => (tracker, [])
  | owner :: rest =>
      match _step : tracker.advance owner with
      | (after, []) => after.cascade rest
      | (after, first :: more) =>
          let (final, released) :=
            after.cascade (appendNew rest (tracker.graph.dependents owner))
          (final, first :: more ++ released)
termination_by (tracker.staged.size, pending.length)
decreasing_by
  · have conserved := size_staged_advance tracker owner
    rw [_step] at conserved
    simp only [List.length_nil, Nat.add_zero] at conserved
    rw [conserved]
    exact Prod.Lex.right _ (by simp)
  · have conserved := size_staged_advance tracker owner
    rw [_step] at conserved
    simp only [List.length_cons] at conserved
    exact Prod.Lex.left _ _ (by omega)

/-- Release what has become ready when something of an owner has changed. -/
def release (tracker : Tracker) (owner : NodeId) : Tracker × List Payload :=
  tracker.cascade [owner]

theorem size_staged_cascade (tracker : Tracker) (pending : List NodeId) :
    (tracker.cascade pending).1.staged.size +
        (tracker.cascade pending).2.length = tracker.staged.size := by
  fun_induction cascade tracker pending with
  | case1 => simp
  | case2 tracker owner rest after step induction =>
      have conserved := size_staged_advance tracker owner
      rw [step] at conserved
      simp only [List.length_nil, Nat.add_zero] at conserved
      omega
  | case3 tracker owner rest after first more step final released tail
      induction =>
      have conserved := size_staged_advance tracker owner
      rw [step] at conserved
      rw [tail] at induction
      simp only [List.cons_append, List.length_cons, List.length_append] at *
      omega

/-- What recording a payload leads to. -/
inductive Sighting where
  /-- The sender was a witness already. -/
  | duplicate
  /-- The message was released before. -/
  | stale
  /-- The sender is witness number `witnesses`, and this released a number of
  messages. -/
  | counted (witnesses released : Nat)
deriving DecidableEq, Repr

/-- The tracker after recording a payload, what came of it, and the payloads
released, in order. -/
structure Recorded where
  tracker : Tracker
  sighting : Sighting
  released : List Payload

/-- Why a payload cannot be recorded; the sender is looked at first, then the
owner, then the length of the clock. -/
def problem? (tracker : Tracker) (sender : NodeId) (payload : Payload) :
    Option TrackerError :=
  if !tracker.isNode sender then some (.unknownNode .sender sender)
  else if !tracker.isNode payload.owner then
    some (.unknownNode .owner payload.owner)
  else if payload.clock.length ≠ tracker.clockLength then
    some (.clockLength tracker.clockLength payload.clock.length)
  else none

def witness (tracker : Tracker) (sender : NodeId) (message : MessageId) :
    Tracker :=
  { tracker with witnesses := tracker.witnesses.insert ⟨sender, message⟩ }

def countOne (tracker : Tracker) (message : MessageId) : Tracker :=
  { tracker with
    counters := tracker.counters.insert message (tracker.count message + 1) }

/-- Keep a copy of a message, as data, unless there is one. -/
def stage (tracker : Tracker) (payload : Payload) : Tracker :=
  { tracker with
    staged := tracker.staged.insertIfNew payload.message payload.toData }

/-- Release at the first witness, if it brought data. -/
def settleImmediate (tracker : Tracker) (payload : Payload) : Recorded :=
  let witnesses := tracker.count payload.message
  if witnesses = 1 && !payload.isAck then
    ⟨tracker, .counted witnesses 1, [payload]⟩
  else ⟨tracker, .counted witnesses 0, []⟩

/-- Stage the message at its first witness, and release what is ready if it
stands at its owner's frontier. -/
def settleCausal (tracker : Tracker) (payload : Payload) : Recorded :=
  let witnesses := tracker.count payload.message
  let staged := if witnesses = 1 then tracker.stage payload else tracker
  if payload.uid = tracker.frontier payload.owner then
    let (final, released) := staged.release payload.owner
    ⟨final, .counted witnesses released.length, released⟩
  else ⟨staged, .counted witnesses 0, []⟩

/-- Record that a node has sent a copy or an acknowledgement of a message,
the payload being well formed. -/
def record (tracker : Tracker) (sender : NodeId) (payload : Payload) :
    Recorded :=
  if tracker.contains sender payload.message then ⟨tracker, .duplicate, []⟩
  else
    let witnessed := tracker.witness sender payload.message
    if payload.uid < tracker.frontier payload.owner then
      ⟨witnessed, .stale, []⟩
    else
      let counted := witnessed.countOne payload.message
      match tracker.policy with
      | .immediate => counted.settleImmediate payload
      | .causal => counted.settleCausal payload

def insert (tracker : Tracker) (sender : NodeId) (payload : Payload) :
    Except TrackerError Recorded :=
  match tracker.problem? sender payload with
  | some problem => .error problem
  | none => .ok (tracker.record sender payload)

def markAsSeen (tracker : Tracker) (payload : Payload) :
    Except TrackerError Recorded :=
  tracker.insert tracker.me payload

end Tracker

end CausalCast
