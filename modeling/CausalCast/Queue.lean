import CausalCast.Fifo

/-!
# Queues with a depth

A queue connects producers with one consumer.  Beside the items it keeps a
depth, which can be read without touching the items.  Putting an item in and
taking one out are two steps each, because the depth and the items do not
change at once: a producer raises the depth before it hands the item over,
and the consumer lowers the depth after it has the item.  So the depth is
never below the number of items.

Once the consumer is gone nothing can be put in, and the depth goes back to
what it was.  Items that it left behind are lost; the depth still counts
them.
-/

namespace CausalCast

/-- What is refused when an item cannot be put in. -/
inductive QueueError where
  | consumerGone
deriving DecidableEq, Repr

def QueueError.message : QueueError → String
  | consumerGone => "queue consumer has shut down"

/-- A queue together with its depth and its two ends. -/
structure Queue (α : Type) where
  items : Fifo α
  depth : Nat
  producers : Nat
  hasConsumer : Bool
deriving Repr

/-- What a waiting consumer gets. -/
inductive Dequeued (α : Type) where
  | item (value : α) (rest : Queue α)
  /-- There will be no further item. -/
  | ended
  /-- There is nothing yet. -/
  | pending

namespace Queue

variable {α : Type}

def new : Queue α :=
  ⟨Fifo.empty, 0, 1, true⟩

def toList (queue : Queue α) : List α :=
  queue.items.toList

/-- First step of putting an item in: raise the depth. -/
def announce (queue : Queue α) : Queue α :=
  { queue with depth := queue.depth + 1 }

/-- Lower the depth, after an item was taken or could not be put in. -/
def retract (queue : Queue α) : Queue α :=
  { queue with depth := queue.depth - 1 }

/-- Second step of putting an item in: hand it over, if there is a
consumer. -/
def handOver? (queue : Queue α) (item : α) : Option (Queue α) :=
  if queue.hasConsumer then some { queue with items := queue.items.push item }
  else none

/-- First step of taking an item out. -/
def take? (queue : Queue α) : Option (α × Queue α) :=
  match queue.items.pop? with
  | some (item, items) => some (item, { queue with items := items })
  | none => none

/-- Put an item in.  The queue is given back in either case. -/
def enqueue (queue : Queue α) (item : α) : Queue α × Except QueueError Unit :=
  let announced := queue.announce
  match announced.handOver? item with
  | some filled => (filled, .ok ())
  | none => (announced.retract, .error .consumerGone)

/-- Take the oldest item out, if there is one. -/
def tryDequeue (queue : Queue α) : Option (α × Queue α) :=
  match queue.take? with
  | some (item, rest) => some (item, rest.retract)
  | none => none

/-- Take out up to a number of items. -/
def takeUpTo (queue : Queue α) : Nat → List α × Queue α
  | 0 => ([], queue)
  | limit + 1 =>
      match queue.tryDequeue with
      | none => ([], queue)
      | some (item, rest) =>
          let (items, final) := rest.takeUpTo limit
          (item :: items, final)

/-- What a consumer that is willing to wait gets.  Once a stop was ordered it
takes nothing more, whatever the queue holds. -/
def dequeue (queue : Queue α) (stopped : Bool) : Dequeued α :=
  if stopped then .ended
  else
    match queue.tryDequeue with
    | some (item, rest) => .item item rest
    | none => if queue.producers = 0 then .ended else .pending

def addProducer (queue : Queue α) : Queue α :=
  if queue.producers = 0 then queue
  else { queue with producers := queue.producers + 1 }

def dropProducer (queue : Queue α) : Queue α :=
  { queue with producers := queue.producers - 1 }

/-- Drop the consumer, and the items with it. -/
def dropConsumer (queue : Queue α) : Queue α :=
  { queue with hasConsumer := false, items := Fifo.empty }

@[simp] theorem toList_new : (new : Queue α).toList = [] := rfl

theorem toList_enqueue {queue filled : Queue α} {item : α}
    (accepted : queue.enqueue item = (filled, .ok ())) :
    filled.toList = queue.toList ++ [item] ∧ filled.depth = queue.depth + 1 := by
  unfold enqueue handOver? at accepted
  by_cases consumer : queue.announce.hasConsumer
  · simp only [consumer, if_true, Prod.mk.injEq, and_true] at accepted
    subst accepted
    simp [toList, announce]
  · simp [consumer] at accepted

theorem enqueue_of_consumerGone {queue : Queue α} (item : α)
    (gone : queue.hasConsumer = false) :
    queue.enqueue item = (queue, .error .consumerGone) := by
  obtain ⟨items, depth, producers, hasConsumer⟩ := queue
  simp_all [enqueue, handOver?, announce, retract]

theorem toList_of_tryDequeue {queue rest : Queue α} {item : α}
    (taken : queue.tryDequeue = some (item, rest)) :
    queue.toList = item :: rest.toList ∧ rest.depth = queue.depth - 1 := by
  unfold tryDequeue take? at taken
  split at taken
  · rename_i head tail step
    split at step
    · rename_i popped items pop
      simp only [Option.some.injEq, Prod.mk.injEq] at step taken
      obtain ⟨rfl, rfl⟩ := step
      obtain ⟨rfl, rfl⟩ := taken
      exact ⟨Fifo.toList_of_pop? pop, rfl⟩
    · simp at step
  · simp at taken

end Queue

end CausalCast
