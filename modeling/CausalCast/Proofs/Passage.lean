import CausalCast.Queue
import Mathlib.Data.List.ReduceOption
import Mathlib.Logic.Relation

/-!
# Calls on a queue that come between each other

Items and depth of a queue change one after the other, and between the two the
calls of other producers and of the consumer take their steps.  A passage is a
queue together with the calls that are under way on it.  What it is about is
the order of the steps: the depth is raised before the item is handed over and
lowered after it was taken, so at every moment it counts what the queue holds
and what is on its way in or out.
-/

namespace CausalCast

namespace Queue

variable {α : Type}

theorem of_handOver? {queue filled : Queue α} {item : α}
    (accepted : queue.handOver? item = some filled) :
    queue.hasConsumer = true ∧
      filled = { queue with items := queue.items.push item } := by
  unfold handOver? at accepted
  split at accepted
  case isTrue consumer => exact ⟨consumer, (Option.some.inj accepted).symm⟩
  case isFalse => contradiction

theorem handOver?_eq_none_iff {queue : Queue α} {item : α} :
    queue.handOver? item = none ↔ queue.hasConsumer = false := by
  unfold handOver?
  cases queue.hasConsumer <;> simp

theorem of_take? {queue rest : Queue α} {item : α}
    (taken : queue.take? = some (item, rest)) :
    queue.toList = item :: rest.toList ∧
      rest = { queue with items := rest.items } := by
  unfold take? at taken
  split at taken
  case h_1 items pop =>
      obtain ⟨rfl, rfl⟩ := Prod.mk.inj (Option.some.inj taken)
      exact ⟨Fifo.toList_of_pop? pop, rfl⟩
  case h_2 => contradiction

theorem take?_eq_none_iff {queue : Queue α} :
    queue.take? = none ↔ queue.toList = [] := by
  rw [toList, ← Fifo.pop?_eq_none_iff, take?]
  cases queue.items.pop? <;> simp

theorem tryDequeue_eq {queue : Queue α} :
    queue.tryDequeue =
      queue.take?.map fun taken => (taken.1, taken.2.retract) := by
  unfold tryDequeue
  cases queue.take? <;> rfl

theorem exists_tryDequeue {queue : Queue α} {item : α} {tail : List α}
    (items : queue.toList = item :: tail) :
    ∃ rest, queue.take? = some (item, rest) ∧ rest.toList = tail ∧
      queue.tryDequeue = some (item, rest.retract) := by
  rw [tryDequeue_eq]
  cases taken : queue.take? with
  | none =>
      rw [take?_eq_none_iff, items] at taken
      contradiction
  | some found =>
      obtain ⟨first, rest⟩ := found
      have order := (of_take? taken).1
      rw [items] at order
      obtain ⟨rfl, rfl⟩ := List.cons.inj order
      exact ⟨rest, rfl, rfl, rfl⟩

end Queue

/-- How far the consumer has come with a call. -/
inductive Taking (α : Type) where
  /-- No call is under way. -/
  | idle
  /-- A dequeue is about to see whether a stop was ordered; it is late if this
  was so when the call began. -/
  | asking (late : Bool)
  /-- A dequeue that has seen no stop is about to take an item. -/
  | reaching
  /-- A call has an item, which the depth still counts. -/
  | holding (item : α)

/-- A queue with the calls that are under way on it. -/
structure Passage (α : Type) where
  queue : Queue α
  stopped : Bool
  /-- The items of the enqueues that have raised the depth. -/
  announced : List α
  /-- The items of the enqueues that were refused, and have to lower the depth
  again. -/
  refused : List α
  taking : Taking α
  /-- All items that were put in, in this order. -/
  accepted : List α
  /-- What the calls of the consumer have returned. -/
  answers : List (Option α)

namespace Passage

variable {α : Type}

def returned (passage : Passage α) : List α :=
  passage.answers.reduceOption

/-- The item that the consumer has taken, and is about to be given. -/
def held (passage : Passage α) : List α :=
  match passage.taking with
  | .holding item => [item]
  | _ => []

def entering (passage : Passage α) : Nat :=
  passage.announced.length + passage.refused.length

/-- Whether no call is under way. -/
structure Quiet (passage : Passage α) : Prop where
  announced : passage.announced = []
  refused : passage.refused = []
  taking : passage.taking = .idle

/-- A passage on a fresh queue. -/
structure Fresh (passage : Passage α) : Prop extends passage.Quiet where
  queue : passage.queue = .new
  accepted : passage.accepted = []
  answers : passage.answers = []

/-- The consumer's call returns. -/
def answer (passage : Passage α) (item? : Option α) : Passage α :=
  { passage with
    taking := .idle
    answers := passage.answers ++ [item?] }

/-- One step on a queue.  An enqueue takes two, or three if it is refused; a
dequeue takes as many as it is woken, and gives its end of the queue back when
it is given up. -/
inductive Step : Passage α → Passage α → Prop where
  | announce {passage : Passage α} (item : α)
      (producer : 0 < passage.queue.producers) :
      Step passage { passage with
        queue := passage.queue.announce
        announced := item :: passage.announced }
  | handOver {passage : Passage α} {item : α} {rest : List α}
      {filled : Queue α} (listed : passage.announced.Perm (item :: rest))
      (accepted : passage.queue.handOver? item = some filled) :
      Step passage { passage with
        queue := filled
        announced := rest
        accepted := passage.accepted ++ [item] }
  | refuse {passage : Passage α} {item : α} {rest : List α}
      (listed : passage.announced.Perm (item :: rest))
      (closed : passage.queue.handOver? item = none) :
      Step passage { passage with
        announced := rest
        refused := item :: passage.refused }
  | takeBack {passage : Passage α} {item : α} {rest : List α}
      (listed : passage.refused.Perm (item :: rest)) :
      Step passage { passage with
        queue := passage.queue.retract
        refused := rest }
  | addProducer {passage : Passage α} :
      Step passage { passage with queue := passage.queue.addProducer }
  /-- A producer is not dropped while an enqueue needs it. -/
  | dropProducer {passage : Passage α}
      (spare : 1 < passage.queue.producers ∨ passage.entering = 0) :
      Step passage { passage with queue := passage.queue.dropProducer }
  | begin {passage : Passage α} (idle : passage.taking = .idle)
      (consumer : passage.queue.hasConsumer = true) :
      Step passage { passage with taking := .asking passage.stopped }
  | heed {passage : Passage α} {late : Bool}
      (asking : passage.taking = .asking late)
      (stopped : passage.stopped = true) : Step passage (passage.answer none)
  | proceed {passage : Passage α} {late : Bool}
      (asking : passage.taking = .asking late)
      (running : passage.stopped = false) :
      Step passage { passage with taking := .reaching }
  | take {passage : Passage α} {item : α} {rest : Queue α}
      (reaching : passage.taking = .reaching)
      (taken : passage.queue.take? = some (item, rest)) :
      Step passage { passage with
        queue := rest
        taking := .holding item }
  /-- There is nothing yet; when it is woken, a dequeue asks again. -/
  | wait {passage : Passage α} (reaching : passage.taking = .reaching)
      (nothing : passage.queue.take? = none)
      (producer : 0 < passage.queue.producers) :
      Step passage { passage with taking := .asking false }
  | ended {passage : Passage α} (reaching : passage.taking = .reaching)
      (nothing : passage.queue.take? = none)
      (noProducer : passage.queue.producers = 0) :
      Step passage (passage.answer none)
  | giveUp {passage : Passage α} {late : Bool}
      (asking : passage.taking = .asking late) :
      Step passage { passage with taking := .idle }
  | tryTake {passage : Passage α} {item : α} {rest : Queue α}
      (idle : passage.taking = .idle)
      (consumer : passage.queue.hasConsumer = true)
      (taken : passage.queue.take? = some (item, rest)) :
      Step passage { passage with
        queue := rest
        taking := .holding item }
  | tryNothing {passage : Passage α} (idle : passage.taking = .idle)
      (consumer : passage.queue.hasConsumer = true)
      (nothing : passage.queue.take? = none) :
      Step passage (passage.answer none)
  /-- The depth is lowered, and the call returns its item. -/
  | give {passage : Passage α} {item : α}
      (holding : passage.taking = .holding item) :
      Step passage
        (answer { passage with queue := passage.queue.retract } (some item))
  | stop {passage : Passage α} : Step passage { passage with stopped := true }
  | dropConsumer {passage : Passage α} (idle : passage.taking = .idle)
      (consumer : passage.queue.hasConsumer = true) :
      Step passage { passage with queue := passage.queue.dropConsumer }

/-! ## Calls in one go -/

/-- An enqueue that nothing interrupts does what the queue does in one go. -/
theorem steps_of_enqueue {passage : Passage α} (item : α)
    (producer : 0 < passage.queue.producers) :
    Relation.ReflTransGen Step passage { passage with
      queue := (passage.queue.enqueue item).1
      accepted := passage.accepted ++
        match (passage.queue.enqueue item).2 with
        | .ok _ => [item]
        | .error _ => [] } := by
  have announces := Step.announce item producer
  unfold Queue.enqueue
  dsimp only
  cases handed : passage.queue.announce.handOver? item with
  | some filled =>
      have hands := @Step.handOver α { passage with
          queue := passage.queue.announce
          announced := item :: passage.announced } item passage.announced
        filled (.refl _) handed
      exact .head announces (.single hands)
  | none =>
      have refuses := @Step.refuse α { passage with
          queue := passage.queue.announce
          announced := item :: passage.announced } item passage.announced
        (.refl _) handed
      have takes := @Step.takeBack α { passage with
          queue := passage.queue.announce
          refused := item :: passage.refused } item passage.refused (.refl _)
      rw [List.append_nil]
      exact .head announces (.head refuses (.single takes))

theorem step_give (passage : Passage α) (item : α) (rest : Queue α) :
    Step { passage with
        queue := rest
        taking := .holding item }
      (answer { passage with queue := rest.retract } (some item)) :=
  @Step.give α { passage with
    queue := rest
    taking := .holding item } item rfl

/-- An attempt to dequeue that nothing interrupts does what the queue does in
one go. -/
theorem steps_of_tryDequeue {passage : Passage α}
    (idle : passage.taking = .idle)
    (consumer : passage.queue.hasConsumer = true) :
    Relation.ReflTransGen Step passage
      (match passage.queue.tryDequeue with
        | some (item, rest) =>
            answer { passage with queue := rest } (some item)
        | none => passage.answer none) := by
  rw [Queue.tryDequeue_eq]
  cases taken : passage.queue.take? with
  | none => exact .single (.tryNothing idle consumer taken)
  | some found =>
      exact .head (.tryTake idle consumer taken) (.single (step_give ..))

/-- A dequeue that nothing interrupts does what the queue does in one go; where
the queue has it wait, it is back where it began. -/
theorem steps_of_dequeue {passage : Passage α} (idle : passage.taking = .idle)
    (consumer : passage.queue.hasConsumer = true) :
    Relation.ReflTransGen Step passage
      (match passage.queue.dequeue passage.stopped with
        | .item item rest => answer { passage with queue := rest } (some item)
        | .ended => passage.answer none
        | .pending => { passage with taking := .asking false }) := by
  have begins := Step.begin idle consumer
  obtain ⟨queue, stopped, announced, refused, taking, accepted, answers⟩ :=
    passage
  dsimp only at idle consumer begins ⊢
  subst idle
  unfold Queue.dequeue
  cases stopped with
  | true => exact .head begins (.single (.heed rfl rfl))
  | false =>
      refine .head begins (.head (.proceed rfl rfl) ?_)
      rw [if_neg Bool.false_ne_true, Queue.tryDequeue_eq]
      dsimp only
      cases taken : queue.take? with
      | some found => exact .head (.take rfl taken) (.single (step_give ..))
      | none =>
          dsimp only [Option.map_none]
          by_cases producers : queue.producers = 0
          · rw [if_pos producers]
            exact .single (.ended rfl taken producers)
          · rw [if_neg producers]
            exact .single (.wait rfl taken (Nat.pos_of_ne_zero producers))

/-! ## What every step keeps -/

/-- The account of a passage. -/
structure Sound (passage : Passage α) : Prop where
  depth_eq : passage.queue.depth + passage.returned.length =
    passage.accepted.length + passage.entering
  /-- Only a consumer that leaves lets items get lost. -/
  order : ∃ lost, passage.accepted =
      passage.returned ++ passage.held ++ passage.queue.toList ++ lost ∧
    (passage.queue.hasConsumer = true → lost = [])
  gone : passage.queue.hasConsumer = false →
    passage.taking = .idle ∧ passage.queue.toList = []
  late : passage.taking = .asking true → passage.stopped = true
  producer : 0 < passage.entering → 0 < passage.queue.producers

theorem Fresh.sound {passage : Passage α} (fresh : passage.Fresh) :
    passage.Sound := by
  have returned : passage.returned = [] := by
    rw [Passage.returned, fresh.answers]
    rfl
  have held : passage.held = [] := by
    rw [Passage.held, fresh.taking]
  have entering : passage.entering = 0 := by
    rw [Passage.entering, fresh.announced, fresh.refused]
    rfl
  constructor
  case depth_eq =>
    rw [fresh.queue, returned, fresh.accepted, entering]
    rfl
  case order =>
    refine ⟨[], ?_, fun _ => rfl⟩
    rw [fresh.queue, returned, held, fresh.accepted]
    rfl
  case gone =>
    rw [fresh.queue]
    exact fun gone => absurd gone Bool.true_eq_false.mp
  case late =>
    rw [fresh.taking]
    exact fun asking => by contradiction
  case producer =>
    rw [entering]
    exact fun positive => absurd positive (Nat.lt_irrefl 0)

@[simp] theorem returned_answer (passage : Passage α) (item? : Option α) :
    (passage.answer item?).returned = passage.returned ++ item?.toList := by
  cases item? <;>
    simp [returned, answer, List.reduceOption_append]

theorem held_of_idle {passage : Passage α} (idle : passage.taking = .idle) :
    passage.held = [] := by
  rw [held, idle]

theorem held_of_asking {passage : Passage α} {late : Bool}
    (asking : passage.taking = .asking late) : passage.held = [] := by
  rw [held, asking]

namespace Sound

variable {passage after : Passage α} (sound : passage.Sound)

include sound

theorem depth_ge : passage.held.length + passage.queue.toList.length +
    passage.entering ≤ passage.queue.depth := by
  obtain ⟨lost, order, _⟩ := sound.order
  have total := sound.depth_eq
  rw [order] at total
  simp only [List.length_append] at total
  omega

theorem depth_pos (busy : 0 < passage.entering ∨ passage.held ≠ []) :
    0 < passage.queue.depth := by
  have counted := sound.depth_ge
  rcases busy with entering | holding
  · omega
  · have positive := List.length_pos_of_ne_nil holding
    omega

/-- A consumer that only looks, or is told that there is nothing, changes
nothing that counts. -/
theorem look (queue : after.queue = passage.queue)
    (accepted : after.accepted = passage.accepted)
    (entering : after.entering = passage.entering)
    (returned : after.returned = passage.returned)
    (held : after.held = passage.held)
    (late : after.taking = .asking true → after.stopped = true)
    (gone : passage.queue.hasConsumer = false → after.taking = .idle) :
    after.Sound := by
  constructor
  case depth_eq =>
    rw [queue, accepted, entering, returned]
    exact sound.depth_eq
  case order =>
    rw [queue, accepted, returned, held]
    exact sound.order
  case gone =>
    rw [queue]
    exact fun absent => ⟨gone absent, (sound.gone absent).2⟩
  case late => exact late
  case producer =>
    rw [queue, entering]
    exact sound.producer

theorem turn {taking : Taking α} (consumer : passage.queue.hasConsumer = true)
    (before : passage.held = [])
    (now : held { passage with taking := taking } = [])
    (late : taking = .asking true → passage.stopped = true) :
    Sound { passage with taking := taking } := by
  refine sound.look rfl rfl rfl rfl (now.trans before.symm) late ?_
  intro absent
  exact absurd (consumer.symm.trans absent) Bool.true_eq_false.mp

theorem rest (before : passage.held = []) :
    Sound { passage with taking := .idle } :=
  sound.look rfl rfl rfl rfl before.symm (fun asking => by contradiction)
    fun _ => rfl

theorem answerNone (before : passage.held = []) :
    (passage.answer none).Sound := by
  have returned : (passage.answer none).returned = passage.returned := by
    rw [returned_answer]
    exact List.append_nil _
  exact sound.look rfl rfl rfl returned before.symm
    (fun asking => by contradiction) fun _ => rfl

theorem consumer_of_busy (busy : passage.taking ≠ .idle) :
    passage.queue.hasConsumer = true := by
  cases consumer : passage.queue.hasConsumer with
  | true => rfl
  | false => exact absurd (sound.gone consumer).1 busy

theorem consumer_of_asking {late : Bool}
    (asking : passage.taking = .asking late) :
    passage.queue.hasConsumer = true :=
  sound.consumer_of_busy fun idle => by simp [asking] at idle

theorem consumer_of_toList {item : α} {tail : List α}
    (items : passage.queue.toList = item :: tail) :
    passage.queue.hasConsumer = true := by
  cases consumer : passage.queue.hasConsumer with
  | true => rfl
  | false =>
      rw [(sound.gone consumer).2] at items
      contradiction

/-- An item that is taken is the oldest one; until it is returned, the depth
counts it. -/
theorem take {item : α} {rest : Queue α} (nothing : passage.held = [])
    (taken : passage.queue.take? = some (item, rest)) :
    Sound { passage with
      queue := rest
      taking := .holding item } := by
  obtain ⟨items, same⟩ := Queue.of_take? taken
  have consumer := sound.consumer_of_toList items
  have present : rest.hasConsumer = true := by
    rw [same]
    exact consumer
  constructor
  case depth_eq =>
    rw [same]
    exact sound.depth_eq
  case order =>
    obtain ⟨lost, order, kept⟩ := sound.order
    refine ⟨lost, ?_, fun _ => kept consumer⟩
    rw [nothing, items, List.append_nil] at order
    change passage.accepted = passage.returned ++ [item] ++ rest.toList ++ lost
    rw [order, List.append_assoc _ [item]]
    rfl
  case gone =>
    intro absent
    exact absurd (present.symm.trans absent) Bool.true_eq_false.mp
  case late => exact fun asking => by contradiction
  case producer =>
    rw [same]
    exact sound.producer

theorem give {item : α} (holding : passage.taking = .holding item) :
    (answer { passage with queue := passage.queue.retract }
      (some item)).Sound := by
  have held : passage.held = [item] := by rw [Passage.held, holding]
  have positive := sound.depth_pos
    (.inr (held ▸ List.cons_ne_nil item []))
  have consumer := sound.consumer_of_busy
    fun idle => by simp [holding] at idle
  constructor
  case depth_eq =>
    have total := sound.depth_eq
    rw [returned_answer]
    change passage.queue.depth - 1 + (passage.returned ++ [item]).length =
      passage.accepted.length + passage.entering
    rw [List.length_append, List.length_singleton]
    omega
  case order =>
    obtain ⟨lost, order, kept⟩ := sound.order
    refine ⟨lost, ?_, fun _ => kept consumer⟩
    rw [held] at order
    rw [returned_answer]
    change passage.accepted =
      passage.returned ++ [item] ++ [] ++ passage.queue.toList ++ lost
    rw [List.append_nil]
    exact order
  case gone =>
    intro absent
    exact absurd (consumer.symm.trans absent) Bool.true_eq_false.mp
  case late => exact fun asking => by contradiction
  case producer => exact sound.producer

theorem announce {item : α} (producer : 0 < passage.queue.producers) :
    Sound { passage with
      queue := passage.queue.announce
      announced := item :: passage.announced } := by
  constructor
  case depth_eq =>
    have total := sound.depth_eq
    simp only [entering] at total ⊢
    change passage.queue.depth + 1 + passage.returned.length = _
    rw [List.length_cons]
    omega
  case order => exact sound.order
  case gone => exact sound.gone
  case late => exact sound.late
  case producer => exact fun _ => producer

theorem handOver {item : α} {rest : List α} {filled : Queue α}
    (listed : passage.announced.Perm (item :: rest))
    (accepted : passage.queue.handOver? item = some filled) :
    Sound { passage with
      queue := filled
      announced := rest
      accepted := passage.accepted ++ [item] } := by
  obtain ⟨consumer, rfl⟩ := Queue.of_handOver? accepted
  have fewer := listed.length_eq
  rw [List.length_cons] at fewer
  constructor
  case depth_eq =>
    have total := sound.depth_eq
    simp only [entering, List.length_append, List.length_singleton]
      at total ⊢
    change passage.queue.depth + passage.returned.length = _
    omega
  case order =>
    obtain ⟨lost, order, kept⟩ := sound.order
    refine ⟨[], ?_, fun _ => rfl⟩
    rw [kept consumer, List.append_nil] at order
    change passage.accepted ++ [item] = passage.returned ++ passage.held ++
      (passage.queue.items.push item).toList ++ []
    rw [Fifo.toList_push, List.append_nil, ← List.append_assoc]
    exact congrArg (· ++ [item]) order
  case gone =>
    intro absent
    exact absurd (consumer.symm.trans absent) Bool.true_eq_false.mp
  case late => exact sound.late
  case producer =>
    intro _
    apply sound.producer
    rw [entering]
    omega

theorem refuse {item : α} {rest : List α}
    (listed : passage.announced.Perm (item :: rest)) :
    Sound { passage with
      announced := rest
      refused := item :: passage.refused } := by
  have fewer := listed.length_eq
  rw [List.length_cons] at fewer
  refine sound.look rfl rfl ?_ rfl rfl sound.late
    fun absent => (sound.gone absent).1
  simp only [entering, List.length_cons]
  omega

theorem takeBack {item : α} {rest : List α}
    (listed : passage.refused.Perm (item :: rest)) :
    Sound { passage with
      queue := passage.queue.retract
      refused := rest } := by
  have fewer := listed.length_eq
  rw [List.length_cons] at fewer
  have busy : 0 < passage.entering := by
    rw [entering]
    omega
  have positive := sound.depth_pos (.inl busy)
  constructor
  case depth_eq =>
    have total := sound.depth_eq
    simp only [entering] at total ⊢
    change passage.queue.depth - 1 + passage.returned.length = _
    omega
  case order => exact sound.order
  case gone => exact sound.gone
  case late => exact sound.late
  case producer => exact fun _ => sound.producer busy

theorem producers {number : Nat}
    (kept : 0 < passage.entering → 0 < passage.queue.producers → 0 < number) :
    Sound { passage with
      queue := { passage.queue with producers := number } } := by
  constructor
  case depth_eq => exact sound.depth_eq
  case order => exact sound.order
  case gone => exact sound.gone
  case late => exact sound.late
  case producer => exact fun busy => kept busy (sound.producer busy)

theorem addProducer :
    Sound { passage with queue := passage.queue.addProducer } := by
  unfold Queue.addProducer
  split
  case isTrue => exact sound
  case isFalse => exact sound.producers fun _ _ => Nat.succ_pos _

theorem dropProducer
    (spare : 1 < passage.queue.producers ∨ passage.entering = 0) :
    Sound { passage with queue := passage.queue.dropProducer } := by
  refine sound.producers fun busy _ => ?_
  omega

/-- What waits in the queue is lost with its consumer; the depth still counts
it. -/
theorem dropConsumer (idle : passage.taking = .idle)
    (consumer : passage.queue.hasConsumer = true) :
    Sound { passage with queue := passage.queue.dropConsumer } := by
  constructor
  case depth_eq => exact sound.depth_eq
  case order =>
    obtain ⟨lost, order, kept⟩ := sound.order
    refine ⟨passage.queue.toList, ?_, fun present => ?_⟩
    · rw [kept consumer, List.append_nil] at order
      change passage.accepted =
        passage.returned ++ passage.held ++ [] ++ passage.queue.toList
      rw [List.append_nil]
      exact order
    · contradiction
  case gone => exact fun _ => ⟨idle, rfl⟩
  case late => exact sound.late
  case producer => exact sound.producer

theorem step (step : Step passage after) : after.Sound := by
  cases step with
  | announce item producer => exact sound.announce producer
  | handOver listed accepted => exact sound.handOver listed accepted
  | refuse listed => exact sound.refuse listed
  | takeBack listed => exact sound.takeBack listed
  | addProducer => exact sound.addProducer
  | dropProducer spare => exact sound.dropProducer spare
  | begin idle consumer =>
      exact sound.turn consumer (held_of_idle idle) rfl Taking.asking.inj
  | heed asking => exact sound.answerNone (held_of_asking asking)
  | proceed asking =>
      exact sound.turn (sound.consumer_of_asking asking)
        (held_of_asking asking) rfl (fun late => by contradiction)
  | take reaching taken =>
      exact sound.take (by rw [held, reaching]) taken
  | wait reaching =>
      have consumer := sound.consumer_of_busy
        fun idle => by simp [reaching] at idle
      refine sound.turn consumer (by rw [held, reaching]) rfl fun late => ?_
      exact absurd (Taking.asking.inj late) Bool.false_ne_true
  | ended reaching => exact sound.answerNone (by rw [held, reaching])
  | giveUp asking => exact sound.rest (held_of_asking asking)
  | tryTake idle _ taken => exact sound.take (held_of_idle idle) taken
  | tryNothing idle => exact sound.answerNone (held_of_idle idle)
  | give holding => exact sound.give holding
  | stop =>
      exact sound.look rfl rfl rfl rfl rfl (fun _ => rfl)
        fun absent => (sound.gone absent).1
  | dropConsumer idle consumer => exact sound.dropConsumer idle consumer

theorem steps (run : Relation.ReflTransGen Step passage after) :
    after.Sound := by
  induction run with
  | refl => exact sound
  | tail _ step induction => exact induction.step step

theorem after_consumer {later : Passage α}
    (gone : passage.queue.hasConsumer = false)
    (run : Relation.ReflTransGen Step passage later) :
    later.queue.hasConsumer = false ∧ later.accepted = passage.accepted ∧
      later.answers = passage.answers := by
  induction run with
  | refl => exact ⟨gone, rfl, rfl⟩
  | @tail middle final before step induction =>
      obtain ⟨absent, accepted, answers⟩ := induction
      have idle := ((sound.steps before).gone absent).1
      rw [← accepted, ← answers]
      cases step with
      | announce | refuse | takeBack | dropProducer | stop =>
          exact ⟨absent, rfl, rfl⟩
      | addProducer =>
          refine ⟨?_, rfl, rfl⟩
          unfold Queue.addProducer
          split <;> exact absent
      | handOver _ handed =>
          exact absurd ((Queue.of_handOver? handed).1.symm.trans absent)
            Bool.true_eq_false.mp
      | begin _ consumer | tryTake _ consumer | tryNothing _ consumer
      | dropConsumer _ consumer =>
          exact absurd (consumer.symm.trans absent) Bool.true_eq_false.mp
      | heed busy | proceed busy | take busy | wait busy | ended busy
      | giveUp busy | give busy =>
          rw [idle] at busy
          contradiction

/-- A dequeue that began after a stop was ordered does nothing else than to
return without an item, or to be given up. -/
theorem step_of_late (late : passage.taking = .asking true)
    (step : Step passage after) :
    (after.taking = .asking true ∧ after.answers = passage.answers) ∨
      after = passage.answer none ∨
      after = { passage with taking := .idle } := by
  have stopped := sound.late late
  cases step with
  | announce | refuse | takeBack | dropProducer | stop | addProducer
  | handOver => exact .inl ⟨late, rfl⟩
  | heed => exact .inr (.inl rfl)
  | giveUp => exact .inr (.inr rfl)
  | proceed _ running =>
      rw [stopped] at running
      contradiction
  | begin busy | tryTake busy | tryNothing busy | dropConsumer busy
  | take busy | wait busy | ended busy | give busy =>
      rw [late] at busy
      contradiction

theorem returned_prefix : passage.returned <+: passage.accepted := by
  obtain ⟨lost, order, _⟩ := sound.order
  rw [order, List.append_assoc, List.append_assoc]
  exact List.prefix_append _ _

theorem accepted_eq (consumer : passage.queue.hasConsumer = true) :
    passage.accepted =
      passage.returned ++ passage.held ++ passage.queue.toList := by
  obtain ⟨lost, order, kept⟩ := sound.order
  rw [kept consumer, List.append_nil] at order
  exact order

theorem depth_after_consumer {later : Passage α}
    (gone : passage.queue.hasConsumer = false)
    (run : Relation.ReflTransGen Step passage later) :
    later.queue.depth + passage.entering =
      passage.queue.depth + later.entering := by
  obtain ⟨_, accepted, answers⟩ := sound.after_consumer gone run
  have before := sound.depth_eq
  have now := (sound.steps run).depth_eq
  have returned : later.returned = passage.returned :=
    congrArg List.reduceOption answers
  rw [accepted, returned] at now
  omega

theorem exists_taken {item : α} {tail : List α}
    (items : passage.queue.toList = item :: tail)
    (idle : passage.taking = .idle) :
    ∃ rest, passage.queue.tryDequeue = some (item, rest) ∧
      rest.toList = tail ∧
      Relation.ReflTransGen Step passage
        (answer { passage with queue := rest } (some item)) := by
  have consumer := sound.consumer_of_toList items
  obtain ⟨rest, _, others, taken⟩ := Queue.exists_tryDequeue items
  have steps := steps_of_tryDequeue idle consumer
  rw [taken] at steps
  exact ⟨rest.retract, taken, others, steps⟩

end Sound

/-- However the steps of the calls on a queue fall, what the consumer is given
is the beginning of what was put in, in this order; as long as the consumer
stays, the rest is what it has just taken and what waits.  The depth counts at
least what waits, it is above 0 wherever it is lowered, and with no call under
way it is the number of items put in and not given.  When the consumer is gone,
enqueues fail, and what they added to the depth goes with them.  A dequeue that
begins after a stop was ordered returns without an item and leaves the queue as
it is, and the item that it did not take can still be taken. -/
theorem fifo_at_every_interleaving {start passage : Passage α}
    (fresh : start.Fresh)
    (run : Relation.ReflTransGen Step start passage) :
    passage.returned <+: passage.accepted ∧
    (passage.queue.hasConsumer = true → passage.accepted =
      passage.returned ++ passage.held ++ passage.queue.toList) ∧
    (0 < passage.entering ∨ passage.held ≠ [] → 0 < passage.queue.depth) ∧
    passage.queue.toList.length ≤ passage.queue.depth ∧
    (passage.Quiet → passage.queue.depth + passage.returned.length =
      passage.accepted.length) ∧
    (passage.queue.hasConsumer = false →
      (∀ item, passage.queue.enqueue item =
        (passage.queue, .error .consumerGone)) ∧
      ∀ later, Relation.ReflTransGen Step passage later →
        (∀ item, later.queue.handOver? item = none) ∧
        later.accepted = passage.accepted ∧
        later.queue.depth + passage.entering =
          passage.queue.depth + later.entering) ∧
    (passage.taking = .asking true →
      Step passage (passage.answer none) ∧
      ∀ after, Step passage after →
        (after.taking = .asking true ∧ after.answers = passage.answers) ∨
        after = passage.answer none ∨
        after = { passage with taking := .idle }) ∧
    (∀ item tail, passage.queue.toList = item :: tail →
      passage.taking = .idle →
      ∃ rest, passage.queue.tryDequeue = some (item, rest) ∧
        rest.toList = tail ∧
        Relation.ReflTransGen Step passage
          (answer { passage with queue := rest } (some item))) := by
  have sound := fresh.sound.steps run
  refine ⟨sound.returned_prefix, sound.accepted_eq, sound.depth_pos, ?_, ?_,
    ?_, ?_, fun _ _ => sound.exists_taken⟩
  · have counted := sound.depth_ge
    omega
  · intro quiet
    have total := sound.depth_eq
    rw [entering, quiet.announced, quiet.refused] at total
    exact total
  · refine fun gone => ⟨fun item =>
      Queue.enqueue_of_consumerGone item gone, fun later after => ?_⟩
    obtain ⟨absent, accepted, _⟩ := sound.after_consumer gone after
    exact ⟨fun _ => Queue.handOver?_eq_none_iff.mpr absent, accepted,
      sound.depth_after_consumer gone after⟩
  · exact fun late => ⟨.heed late (sound.late late), fun _ step =>
      sound.step_of_late late step⟩

/-- Two producers put one item in each, the one that was announced last first.
While the consumer is about to be given it, a stop is ordered; its next dequeue
leaves the other item where it is. -/
theorem fifo_of_two_producers :
    ∃ start passage : Passage Nat, start.Fresh ∧
      Relation.ReflTransGen Step start passage ∧
      passage.accepted = [6, 5] ∧ passage.returned = [6] ∧
      passage.returned <+: passage.accepted ∧
      passage.taking = .asking true ∧
      (∀ after, Step passage after →
        (after.taking = .asking true ∧ after.answers = passage.answers) ∨
        after = passage.answer none ∨
        after = { passage with taking := .idle }) ∧
      passage.queue.toList = [5] ∧
      passage.queue.toList.length ≤ passage.queue.depth := by
  let start : Passage Nat := ⟨.new, false, [], [], .idle, [], []⟩
  let passage : Passage Nat :=
    ⟨⟨⟨[], [5]⟩, 1, 2, true⟩, true, [], [], .asking true, [6, 5], [some 6]⟩
  have fresh : start.Fresh := ⟨⟨rfl, rfl, rfl⟩, rfl, rfl, rfl⟩
  have entered : Relation.ReflTransGen Step start
      ⟨⟨⟨[], [6]⟩, 2, 2, true⟩, false, [5], [], .idle, [6], []⟩ :=
    .head .addProducer (.head (.announce 5 (by decide))
      (.head (.announce 6 (by decide)) (.single (.handOver (.refl _) rfl))))
  have left : Relation.ReflTransGen Step
      ⟨⟨⟨[], [6]⟩, 2, 2, true⟩, false, [5], [], .idle, [6], []⟩ passage :=
    .head (.begin rfl rfl) (.head (.proceed rfl rfl) (.head (.take rfl rfl)
      (.head (.handOver (.refl _) rfl) (.head .stop (.head (.give rfl)
        (.single (.begin rfl rfl)))))))
  have run := entered.trans left
  obtain ⟨order, _, _, depth, _, _, late, _⟩ :=
    fifo_at_every_interleaving fresh run
  exact ⟨start, passage, fresh, run, rfl, rfl, order, rfl, (late rfl).2, rfl,
    depth⟩

end Passage

end CausalCast
