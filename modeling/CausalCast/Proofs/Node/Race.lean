import CausalCast.Proofs.Node.Effects
import Mathlib.Algebra.Order.BigOperators.Group.Finset
import Mathlib.Logic.Relation

/-!
# Broadcasts of one message that race each other

Several calls may want to relay one message at the same time.  A call asks
whether the node has seen the message, then marks it as seen, then hands one
copy after another to the link; between its steps other calls take theirs, and
the tracker hears from other nodes.  However the steps fall, the table of
witnesses decides: the call whose mark is new relays the message, and every
other call learns, at its first or at its second step, that it came too late.
That the message may be released in between makes no difference to this.
-/

namespace CausalCast

theorem Node.me_send (node : Node) (payload : Payload) (recipient : NodeId) :
    (node.send payload recipient).1.me = node.me := by
  unfold send post countUnacked discountUnacked
  cases payload.isAck <;> cases opened : node.sending.hasConsumer <;>
    simp [Queue.enqueue, Queue.handOver?, Queue.announce, opened]

/-- How far a uniform reliable broadcast has come. -/
inductive Stage where
  /-- It is about to ask whether the node has seen the message. -/
  | asking
  /-- It is about to mark the message as seen. -/
  | marking
  /-- It has a copy to send to each of some nodes. -/
  | sending (rest : List NodeId)
  | returned (answer : Except TrackerError Bool)

namespace Stage

/-- One step of the broadcast of a payload; there is none once it has
returned. -/
def step (node : Node) (payload : Payload) : Stage → Option (Node × Stage)
  | asking =>
      some (node,
        if node.tracker.wasSeen payload then returned (.ok false) else marking)
  | marking =>
      match node.markAsSeen payload with
      | .error problem => some (node, returned (.error problem))
      | .ok (marked, .duplicate) => some (marked, returned (.ok false))
      | .ok (marked, _) =>
          some (marked, sending (marked.membership.peerIds marked.me))
  | sending [] => some (node, returned (.ok true))
  | sending (peer :: rest) =>
      match node.send (node.relayOf payload) peer with
      | (sent, .ok _) => some (sent, sending rest)
      | (refused, .error _) => some (refused, returned (.ok true))
  | returned _ => none

def Alone (payload : Payload) (before after : Node × Stage) : Prop :=
  before.2.step before.1 payload = some after

theorem alone_sending (node : Node) (payload : Payload)
    (recipients : List NodeId) :
    Relation.ReflTransGen (Alone payload) (node, sending recipients)
      ((node.sendEach (node.relayOf payload) recipients).1,
        returned (.ok true)) := by
  induction recipients generalizing node with
  | nil => exact .single rfl
  | cons peer rest induction =>
      cases sent : node.send (node.relayOf payload) peer with
      | mk after outcome =>
          have relay : after.relayOf payload = node.relayOf payload := by
            have same := Node.me_send node (node.relayOf payload) peer
            rw [sent] at same
            rw [Node.relayOf, same, Node.relayOf]
          cases outcome with
          | error _ =>
              refine .single ?_
              simp [Alone, step, sent, Node.sendEach]
          | ok _ =>
              have first : Alone payload (node, sending (peer :: rest))
                  (after, sending rest) := by
                simp [Alone, step, sent]
              have others := induction after
              rw [relay] at others
              refine .head first ?_
              simpa [Node.sendEach, sent] using others

/-- A broadcast that nothing interrupts does what the node does in one go. -/
theorem alone_asking (node : Node) (payload : Payload) :
    Relation.ReflTransGen (Alone payload) (node, asking)
      (match node.uniformReliableBroadcast payload with
        | .error problem => (node, returned (.error problem))
        | .ok (after, first) => (after, returned (.ok first))) := by
  unfold Node.uniformReliableBroadcast
  cases seen : node.tracker.wasSeen payload with
  | true =>
      refine .single ?_
      simp [Alone, step, seen]
  | false =>
      have asked : Alone payload (node, asking) (node, marking) := by
        simp [Alone, step, seen]
      refine .head asked ?_
      simp only [Bool.false_eq_true, if_false]
      cases marked : node.markAsSeen payload with
      | error problem =>
          refine .single ?_
          simp [Alone, step, marked]
      | ok result =>
          obtain ⟨after, sighting⟩ := result
          cases sighting with
          | duplicate =>
              refine .single ?_
              simp [Alone, step, marked]
          | stale | counted =>
              have relaying : Alone payload (node, marking)
                  (after, sending (after.membership.peerIds after.me)) := by
                simp [Alone, step, marked]
              exact .head relaying (alone_sending after payload _)

/-- What a broadcast has come to that has changed nothing: it has only looked,
or it came too late. -/
inductive Idle : Stage → Prop where
  | asking : Idle asking
  | marking : Idle marking
  | late : Idle (returned (.ok false))

/-- A bound on the steps that are left to a broadcast, if there are a number of
other nodes. -/
def work (peers : Nat) : Stage → Nat
  | asking => peers + 3
  | marking => peers + 2
  | sending rest => rest.length + 1
  | returned _ => 0

theorem exists_step (node : Node) (payload : Payload) {stage : Stage}
    (running : ¬∃ answer, stage = returned answer) :
    ∃ result, stage.step node payload = some result := by
  rw [← Option.isSome_iff_exists]
  cases stage with
  | asking => rfl
  | marking =>
      cases marked : node.markAsSeen payload with
      | error problem => simp [step, marked]
      | ok result =>
          obtain ⟨after, sighting⟩ := result
          cases sighting <;> simp [step, marked]
  | sending rest =>
      cases rest with
      | nil => rfl
      | cons peer rest =>
          cases sent : node.send (node.relayOf payload) peer with
          | mk after outcome => cases outcome <;> simp [step, sent]
  | returned answer => exact absurd ⟨answer, rfl⟩ running

theorem work_lt_of_step {node after : Node} {payload : Payload}
    {stage next : Stage}
    (stepped : stage.step node payload = some (after, next)) :
    next.work (node.membership.peerIds node.me).length <
      stage.work (node.membership.peerIds node.me).length := by
  cases stage with
  | asking =>
      obtain ⟨_, rfl⟩ := Prod.mk.inj (Option.some.inj stepped)
      split
      · exact Nat.succ_pos _
      · exact Nat.lt_succ_self _
  | marking =>
      cases marked : node.markAsSeen payload with
      | error problem =>
          simp only [step, marked, Option.some.injEq, Prod.mk.injEq] at stepped
          rw [← stepped.2]
          exact Nat.succ_pos _
      | ok result =>
          obtain ⟨after, sighting⟩ := result
          obtain rfl := Node.eq_witnessed_of_insert marked
          cases sighting with
          | duplicate =>
              simp only [step, marked, Option.some.injEq,
                Prod.mk.injEq] at stepped
              rw [← stepped.2]
              exact Nat.succ_pos _
          | stale | counted =>
              simp only [step, marked, Option.some.injEq,
                Prod.mk.injEq] at stepped
              rw [← stepped.2]
              exact Nat.lt_succ_self _
  | sending rest =>
      cases rest with
      | nil =>
          obtain ⟨_, rfl⟩ := Prod.mk.inj (Option.some.inj stepped)
          exact Nat.zero_lt_one
      | cons peer rest =>
          unfold step at stepped
          dsimp only at stepped
          split at stepped
          · obtain ⟨_, rfl⟩ := Prod.mk.inj (Option.some.inj stepped)
            exact Nat.lt_succ_self _
          · obtain ⟨_, rfl⟩ := Prod.mk.inj (Option.some.inj stepped)
            exact Nat.succ_pos _
  | returned => contradiction

end Stage

/-- Broadcasts of one message on one node. -/
structure Race (count : Nat) where
  node : Node
  payloads : Fin count → Payload
  stages : Fin count → Stage

namespace Race

variable {count : Nat}

def start (node : Node) (payloads : Fin count → Payload) : Race count :=
  ⟨node, payloads, fun _ => .asking⟩

/-- One step of a race: some broadcast goes one step on, or the tracker hears
that another node has seen some payload. -/
inductive Step : Race count → Race count → Prop where
  | broadcast {race : Race count} {index : Fin count} {after : Node}
      {stage : Stage}
      (stepped : (race.stages index).step race.node (race.payloads index) =
        some (after, stage)) :
      Step race { race with
        node := after
        stages := Function.update race.stages index stage }
  | hear {race : Race count} {sender : NodeId} {payload : Payload}
      {after : Node} {sighting : Tracker.Sighting}
      (foreign : sender ≠ race.node.me)
      (recorded : race.node.insert sender payload = .ok (after, sighting)) :
      Step race { race with node := after }

def Over (race : Race count) : Prop :=
  ∀ index, ∃ answer, race.stages index = .returned answer

/-! ## What every step preserves -/

/-- A race in order.  The setup of the node is that of the node at the start,
and the payloads, which are well formed, all carry one message. -/
structure Orderly (origin : Node) (message : MessageId) (race : Race count) :
    Prop where
  setup : Tracker.SameSetup origin.tracker race.node.tracker
  me_eq : race.node.me = origin.me
  membership_eq : race.node.membership = origin.membership
  now_eq : race.node.now = origin.now
  sendingOpen : race.node.sending.hasConsumer = true
  valid : ∀ index,
    origin.tracker.problem? origin.me (race.payloads index) = none
  message_eq : ∀ index, (race.payloads index).message = message

/-- How a race stands. -/
inductive Standing (origin : Node) (message : MessageId) (race : Race count) :
    Prop where
  /-- The node has not seen the message, and no broadcast has returned. -/
  | pending
      (fresh : origin.tracker.contains origin.me message = false)
      (unseen : race.node.tracker.contains origin.me message = false)
      (waiting : ∀ index, race.stages index = .asking ∨
        race.stages index = .marking)
      (queued : race.node.sending.toList = origin.sending.toList)
  /-- One broadcast has marked the message as seen and relays it. -/
  | won (winner : Fin count) (done rest : List NodeId)
      (fresh : origin.tracker.contains origin.me message = false)
      (seen : race.node.tracker.contains origin.me message = true)
      (split : origin.membership.peerIds origin.me = done ++ rest)
      (stage : race.stages winner = .sending rest ∨
        rest = [] ∧ race.stages winner = .returned (.ok true))
      (idle : ∀ other, other ≠ winner → (race.stages other).Idle)
      (queued : race.node.sending.toList = origin.sending.toList ++
        done.map fun peer => Message.new
          (origin.relayOf (race.payloads winner)) peer origin.now)
  /-- The node had seen the message before the race. -/
  | lost
      (known : origin.tracker.contains origin.me message = true)
      (seen : race.node.tracker.contains origin.me message = true)
      (idle : ∀ index, (race.stages index).Idle)
      (queued : race.node.sending.toList = origin.sending.toList)

section Step

variable {origin : Node} {message : MessageId} {race : Race count}

theorem standing_start {payloads : Fin count → Payload} :
    Standing origin message (start origin payloads) := by
  cases seen : origin.tracker.contains origin.me message with
  | false => exact .pending seen seen (fun _ => .inl rfl) rfl
  | true => exact .lost seen seen (fun _ => .asking) rfl

namespace Orderly

variable (orderly : Orderly origin message race)

include orderly

theorem keep {after : Node} (stages : Fin count → Stage)
    (setup : Tracker.SameSetup race.node.tracker after.tracker)
    (me_eq : after.me = race.node.me)
    (membership_eq : after.membership = race.node.membership)
    (now_eq : after.now = race.node.now)
    (opened : after.sending.hasConsumer = true) :
    Orderly origin message ⟨after, race.payloads, stages⟩ :=
  ⟨orderly.setup.trans setup, me_eq.trans orderly.me_eq,
    membership_eq.trans orderly.membership_eq, now_eq.trans orderly.now_eq,
    opened, orderly.valid, orderly.message_eq⟩

theorem keep_witnessed (sender : NodeId) (payload : Payload)
    (stages : Fin count → Stage) :
    Orderly origin message
      ⟨race.node.witnessed sender payload, race.payloads, stages⟩ :=
  orderly.keep stages (Tracker.sameSetup_record _ sender payload) rfl rfl rfl
    orderly.sendingOpen

theorem wasSeen_eq (same : origin.tracker.me = origin.me)
    (index : Fin count) :
    race.node.tracker.wasSeen (race.payloads index) =
      race.node.tracker.contains origin.me message := by
  rw [Tracker.wasSeen, orderly.setup.me, same, orderly.message_eq]

theorem markAsSeen_eq (index : Fin count) :
    race.node.markAsSeen (race.payloads index) =
      .ok (race.node.witnessed origin.me (race.payloads index),
        (race.node.tracker.record origin.me
          (race.payloads index)).sighting) := by
  have valid : race.node.tracker.problem? origin.me (race.payloads index) =
      none := by
    rw [orderly.setup.problem?_eq, orderly.valid index]
  rw [Node.markAsSeen, orderly.me_eq, Node.insert_of_valid _ _ _ valid]

theorem step_marking_of_seen
    (seen : race.node.tracker.contains origin.me message = true)
    (index : Fin count) :
    Stage.marking.step race.node (race.payloads index) =
      some (race.node, .returned (.ok false)) := by
  rw [← orderly.message_eq index] at seen
  simp only [Stage.step, orderly.markAsSeen_eq,
    Tracker.record_of_contains seen, Node.witnessed_of_contains _ _ _ seen]

/-- The first mark of a message wins, whether or not the message was released
meanwhile. -/
theorem step_marking_of_unseen
    (unseen : race.node.tracker.contains origin.me message = false)
    (index : Fin count) :
    Stage.marking.step race.node (race.payloads index) =
      some (race.node.witnessed origin.me (race.payloads index),
        .sending (origin.membership.peerIds origin.me)) := by
  rw [← orderly.message_eq index] at unseen
  have first := Tracker.sighting_record_ne_duplicate unseen
  simp only [Stage.step, orderly.markAsSeen_eq, Node.me_witnessed,
    Node.membership_witnessed, orderly.me_eq, orderly.membership_eq]

theorem idle_of_step (same : origin.tracker.me = origin.me)
    (seen : race.node.tracker.contains origin.me message = true)
    {index : Fin count} (idle : (race.stages index).Idle) {after : Node}
    {stage : Stage}
    (stepped : (race.stages index).step race.node (race.payloads index) =
      some (after, stage)) :
    after = race.node ∧ stage.Idle := by
  cases current : race.stages index with
  | asking =>
      rw [current, Stage.step, orderly.wasSeen_eq same, seen] at stepped
      obtain ⟨rfl, rfl⟩ := Prod.mk.inj (Option.some.inj stepped)
      exact ⟨rfl, .late⟩
  | marking =>
      rw [current, orderly.step_marking_of_seen seen] at stepped
      obtain ⟨rfl, rfl⟩ := Prod.mk.inj (Option.some.inj stepped)
      exact ⟨rfl, .late⟩
  | sending =>
      rw [current] at idle
      contradiction
  | returned =>
      rw [current] at stepped
      contradiction

end Orderly

/-- The standing of a race is kept by whatever another node is heard of. -/
theorem Standing.hear (standing : Standing origin message race) {after : Node}
    (contains : after.tracker.contains origin.me message =
      race.node.tracker.contains origin.me message)
    (queued : after.sending = race.node.sending) :
    Standing origin message { race with node := after } := by
  cases standing with
  | pending fresh unseen waiting items =>
      exact .pending fresh (contains.trans unseen) waiting
        ((congrArg Queue.toList queued).trans items)
  | won winner done rest fresh seen split stage idle items =>
      exact .won winner done rest fresh (contains.trans seen) split stage idle
        ((congrArg Queue.toList queued).trans items)
  | lost known seen idle items =>
      exact .lost known (contains.trans seen) idle
        ((congrArg Queue.toList queued).trans items)

namespace Orderly

variable (orderly : Orderly origin message race)
  (same : origin.tracker.me = origin.me) {index : Fin count} {after : Node}
  {stage : Stage}
  (stepped : (race.stages index).step race.node (race.payloads index) =
    some (after, stage))

include orderly same stepped

/-- While no broadcast has marked the message, the next one to do so wins. -/
theorem step_pending
    (fresh : origin.tracker.contains origin.me message = false)
    (unseen : race.node.tracker.contains origin.me message = false)
    (waiting : ∀ index, race.stages index = .asking ∨
      race.stages index = .marking)
    (queued : race.node.sending.toList = origin.sending.toList) :
    Orderly origin message
        ⟨after, race.payloads, Function.update race.stages index stage⟩ ∧
      Standing origin message
        ⟨after, race.payloads, Function.update race.stages index stage⟩ := by
  rcases waiting index with current | current
  · rw [current, Stage.step, orderly.wasSeen_eq same, unseen] at stepped
    obtain ⟨rfl, rfl⟩ := Prod.mk.inj (Option.some.inj stepped)
    refine ⟨orderly.keep _ (.refl _) rfl rfl rfl orderly.sendingOpen,
      .pending fresh unseen ?_ queued⟩
    intro other
    by_cases here : other = index
    · simp [here]
    · simpa [here] using waiting other
  · rw [current, orderly.step_marking_of_unseen unseen] at stepped
    obtain ⟨rfl, rfl⟩ := Prod.mk.inj (Option.some.inj stepped)
    have seen : (race.node.witnessed origin.me
        (race.payloads index)).tracker.contains origin.me message = true := by
      rw [Node.tracker_witnessed, Tracker.contains_record_iff]
      exact .inl ⟨rfl, (orderly.message_eq index).symm⟩
    refine ⟨orderly.keep_witnessed _ _ _, .won index []
      (origin.membership.peerIds origin.me) fresh seen rfl
      (.inl (Function.update_self ..)) ?_ ?_⟩
    · intro other elsewhere
      rcases waiting other with stage | stage
      · simpa [elsewhere, stage] using Stage.Idle.asking
      · simpa [elsewhere, stage] using Stage.Idle.marking
    · rw [List.map_nil, List.append_nil]
      exact queued

/-- The broadcast that has marked the message sends its copies, and the others
stay idle. -/
theorem step_won {winner : Fin count} {done rest : List NodeId}
    (fresh : origin.tracker.contains origin.me message = false)
    (seen : race.node.tracker.contains origin.me message = true)
    (split : origin.membership.peerIds origin.me = done ++ rest)
    (current : race.stages winner = .sending rest ∨
      rest = [] ∧ race.stages winner = .returned (.ok true))
    (idle : ∀ other, other ≠ winner → (race.stages other).Idle)
    (queued : race.node.sending.toList = origin.sending.toList ++
      done.map fun peer => Message.new
        (origin.relayOf (race.payloads winner)) peer origin.now) :
    Orderly origin message
        ⟨after, race.payloads, Function.update race.stages index stage⟩ ∧
      Standing origin message
        ⟨after, race.payloads, Function.update race.stages index stage⟩ := by
  by_cases here : index = winner
  · subst here
    have others : ∀ {next : Stage} other, other ≠ index →
        (Function.update race.stages index next other).Idle := by
      intro next other elsewhere
      simpa [elsewhere] using idle other elsewhere
    rcases current with current | ⟨_, current⟩
    case inr =>
        rw [current] at stepped
        contradiction
    rw [current] at stepped
    cases rest with
    | nil =>
        obtain ⟨rfl, rfl⟩ := Prod.mk.inj (Option.some.inj stepped)
        refine ⟨orderly.keep _ (.refl _) rfl rfl rfl orderly.sendingOpen,
          .won index done [] fresh seen split ?_ others queued⟩
        exact .inr ⟨rfl, Function.update_self ..⟩
    | cons peer rest =>
        obtain ⟨sending, items, opened, sent⟩ := Node.send_of_open
          orderly.sendingOpen (race.node.relayOf (race.payloads index)) peer
        simp only [Stage.step, sent] at stepped
        obtain ⟨rfl, rfl⟩ := Prod.mk.inj (Option.some.inj stepped)
        refine ⟨orderly.keep _ (.refl _) rfl rfl rfl opened,
          .won index (done ++ [peer]) rest fresh seen ?_ ?_ others ?_⟩
        · simpa using split
        · exact .inl (Function.update_self ..)
        · have relay : race.node.relayOf (race.payloads index) =
              origin.relayOf (race.payloads index) := by
            rw [Node.relayOf, orderly.me_eq, Node.relayOf]
          rw [relay, orderly.now_eq] at items
          dsimp only
          rw [items, queued, List.map_append, List.append_assoc]
          rfl
  · obtain ⟨rfl, stays⟩ :=
      orderly.idle_of_step same seen (idle index here) stepped
    refine ⟨orderly.keep _ (.refl _) rfl rfl rfl orderly.sendingOpen,
      .won winner done rest fresh seen split ?_ ?_ queued⟩
    · simpa [Ne.symm here] using current
    · intro other elsewhere
      by_cases moved : other = index
      · simpa [moved] using stays
      · simpa [moved] using idle other elsewhere

/-- In a race for a message that the node had seen, every broadcast stays
idle. -/
theorem step_lost
    (known : origin.tracker.contains origin.me message = true)
    (seen : race.node.tracker.contains origin.me message = true)
    (idle : ∀ index, (race.stages index).Idle)
    (queued : race.node.sending.toList = origin.sending.toList) :
    Orderly origin message
        ⟨after, race.payloads, Function.update race.stages index stage⟩ ∧
      Standing origin message
        ⟨after, race.payloads, Function.update race.stages index stage⟩ := by
  obtain ⟨rfl, stays⟩ := orderly.idle_of_step same seen (idle index) stepped
  refine ⟨orderly.keep _ (.refl _) rfl rfl rfl orderly.sendingOpen,
    .lost known seen ?_ queued⟩
  intro other
  by_cases moved : other = index
  · simpa [moved] using stays
  · simpa [moved] using idle other

end Orderly

theorem Orderly.step (orderly : Orderly origin message race)
    (same : origin.tracker.me = origin.me)
    (standing : Standing origin message race) {after : Race count}
    (step : Step race after) :
    Orderly origin message after ∧ Standing origin message after := by
  cases step with
  | broadcast stepped =>
      cases standing with
      | pending fresh unseen waiting queued =>
          exact orderly.step_pending same stepped fresh unseen waiting queued
      | won _ _ _ fresh seen split stage idle queued =>
          exact orderly.step_won same stepped fresh seen split stage idle queued
      | lost known seen idle queued =>
          exact orderly.step_lost same stepped known seen idle queued
  | @hear sender payload after sighting foreign recorded =>
      obtain rfl := Node.eq_witnessed_of_insert recorded
      refine ⟨orderly.keep_witnessed _ _ _, standing.hear ?_ rfl⟩
      have other : origin.me ≠ sender :=
        fun equal => foreign (equal.symm.trans orderly.me_eq.symm)
      rw [Bool.eq_iff_iff, Node.tracker_witnessed, Tracker.contains_record_iff]
      exact or_iff_right fun ⟨equal, _⟩ => other equal

end Step

/-! ## Every race comes to an end -/

/-- A bound on the steps that all broadcasts of a race have left. -/
def work (peers : Nat) (race : Race count) : Nat :=
  ∑ index, (race.stages index).work peers

theorem work_update_lt {race : Race count} {index : Fin count} {stage : Stage}
    {peers : Nat} (after : Node) (payloads : Fin count → Payload)
    (fewer : stage.work peers < (race.stages index).work peers) :
    work peers ⟨after, payloads, Function.update race.stages index stage⟩ <
      race.work peers := by
  refine Finset.sum_lt_sum ?_ ⟨index, Finset.mem_univ index, ?_⟩
  · intro other _
    by_cases moved : other = index
    · simpa [moved] using fewer.le
    · simp [moved]
  · simpa using fewer

section Run

variable {origin : Node} {message : MessageId} {race final : Race count}
  (same : origin.tracker.me = origin.me)
  (orderly : Orderly origin message race)
  (standing : Standing origin message race)

include same orderly standing

theorem orderly_of_steps (steps : Relation.ReflTransGen Step race final) :
    Orderly origin message final ∧ Standing origin message final := by
  induction steps with
  | refl => exact ⟨orderly, standing⟩
  | tail _ step induction => exact induction.1.step same induction.2 step

theorem exists_over :
    ∃ final, Relation.ReflTransGen Step race final ∧ final.Over := by
  generalize bound : race.work
    (origin.membership.peerIds origin.me).length = left
  induction left using Nat.strongRecOn generalizing race with
  | ind left induction =>
      by_cases ended : race.Over
      · exact ⟨race, .refl, ended⟩
      · obtain ⟨index, running⟩ := not_forall.mp ended
        obtain ⟨⟨after, stage⟩, stepped⟩ := Stage.exists_step race.node
          (race.payloads index) running
        have step := Step.broadcast stepped
        obtain ⟨kept, stands⟩ := orderly.step same standing step
        have fewer := Stage.work_lt_of_step stepped
        rw [orderly.me_eq, orderly.membership_eq] at fewer
        obtain ⟨final, steps, ends⟩ := induction _ (bound ▸
          work_update_lt after race.payloads fewer) kept stands rfl
        exact ⟨final, .head step steps, ends⟩

end Run

theorem payloads_of_steps {race final : Race count}
    (steps : Relation.ReflTransGen Step race final) :
    final.payloads = race.payloads := by
  induction steps with
  | refl => rfl
  | tail _ step induction =>
      cases step with
      | broadcast => exact induction
      | hear => exact induction

theorem Standing.ne_error {origin : Node} {message : MessageId}
    {race : Race count} (standing : Standing origin message race)
    (index : Fin count) (problem : TrackerError) :
    race.stages index ≠ .returned (.error problem) := by
  have spared : ∀ {stage : Stage}, stage.Idle →
      stage ≠ .returned (.error problem) := by
    intro stage idle
    cases idle <;> simp
  cases standing with
  | pending _ _ waiting =>
      rcases waiting index with stage | stage <;> simp [stage]
  | won winner done rest _ _ _ stage idle =>
      by_cases here : index = winner
      · subst here
        rcases stage with stage | ⟨_, stage⟩ <;> simp [stage]
      · exact spared (idle index here)
  | lost _ _ idle => exact spared (idle index)

theorem returned_false_of_idle {race : Race count} (ended : race.Over)
    {index : Fin count} (idle : (race.stages index).Idle) :
    race.stages index = .returned (.ok false) := by
  obtain ⟨answer, returned⟩ := ended index
  rw [returned] at idle ⊢
  cases idle
  rfl

/-- However broadcasts of one message interleave with each other and with what
is heard of other nodes, none fails and all can return.  When they have, and
the node had not seen the message before, exactly one of them answers that it
relayed the message, and one copy for each other node was queued; if the node
had seen it, none does, and nothing was queued. -/
theorem relayed_by_one {node : Node} {message : MessageId}
    {payloads : Fin count → Payload} {race : Race count}
    (same : node.tracker.me = node.me)
    (member : node.tracker.isNode node.me = true)
    (opened : node.sending.hasConsumer = true)
    (owner : node.tracker.isNode message.owner = true)
    (length : ∀ index,
      (payloads index).clock.length = node.tracker.clockLength)
    (identity : ∀ index, (payloads index).message = message)
    (steps : Relation.ReflTransGen Step (start node payloads) race) :
    (∀ index problem, race.stages index ≠ .returned (.error problem)) ∧
    (∃ final, Relation.ReflTransGen Step race final ∧ final.Over) ∧
    (race.Over → node.tracker.contains node.me message = false → 0 < count →
      ∃ winner, race.stages winner = .returned (.ok true) ∧
        (∀ other, other ≠ winner →
          race.stages other = .returned (.ok false)) ∧
        race.node.sending.toList = node.sending.toList ++
          (node.membership.peerIds node.me).map fun peer =>
            Message.new (node.relayOf (payloads winner)) peer node.now) ∧
    (race.Over → node.tracker.contains node.me message = true →
      (∀ index, race.stages index = .returned (.ok false)) ∧
        race.node.sending.toList = node.sending.toList) := by
  have valid : ∀ index,
      node.tracker.problem? node.me (payloads index) = none := by
    intro index
    have known : node.tracker.isNode (payloads index).owner = true := by
      rw [← identity index] at owner
      exact owner
    simp [Tracker.problem?, member, known, length index]
  have outset : Orderly node message (start node payloads) :=
    ⟨.refl _, rfl, rfl, rfl, opened, valid, identity⟩
  obtain ⟨orderly, standing⟩ :=
    orderly_of_steps same outset standing_start steps
  refine ⟨standing.ne_error, exists_over same orderly standing, ?_, ?_⟩
  · intro ended fresh some
    cases standing with
    | pending _ _ waiting =>
        obtain ⟨answer, returned⟩ := ended ⟨0, some⟩
        rcases waiting ⟨0, some⟩ with stage | stage <;>
          simp [stage] at returned
    | won winner done rest _ _ split stage idle queued =>
        obtain ⟨rfl, finished⟩ : rest = [] ∧
            race.stages winner = .returned (.ok true) := by
          rcases stage with sending | finished
          · obtain ⟨answer, returned⟩ := ended winner
            simp [sending] at returned
          · exact finished
        refine ⟨winner, finished, fun other elsewhere =>
          returned_false_of_idle ended (idle other elsewhere), ?_⟩
        rw [queued, payloads_of_steps steps, split, List.append_nil]
        rfl
    | lost known =>
        rw [fresh] at known
        contradiction
  · intro ended known
    cases standing with
    | pending fresh =>
        rw [known] at fresh
        contradiction
    | won _ _ _ fresh =>
        rw [known] at fresh
        contradiction
    | lost _ _ idle queued =>
        exact ⟨fun index => returned_false_of_idle ended (idle index), queued⟩

/-- Of two broadcasts of a message that come to a node of two at the same time,
one relays it to the other node. -/
theorem relayed_by_one_of_pair :
    ∃ node, Node.create 1 .pair (.empty 3) (.broadcast 1) {} = .ok node ∧
      ∃ final : Race 2, Relation.ReflTransGen Step
          (start node fun _ => .data 2 1 [49] 3) final ∧ final.Over ∧
        ∃ winner, final.stages winner = .returned (.ok true) ∧
          (∀ other, other ≠ winner →
            final.stages other = .returned (.ok false)) ∧
          final.node.sending.toList =
            [Message.new ((Payload.data 2 1 [49] 3).stamped 1) 2 0] := by
  obtain ⟨node, created, same, member, opened, owner, length, fresh, items,
      peers, relay⟩ :
      ∃ node, Node.create 1 .pair (.empty 3) (.broadcast 1) {} = .ok node ∧
        node.tracker.me = node.me ∧ node.tracker.isNode node.me = true ∧
        node.sending.hasConsumer = true ∧ node.tracker.isNode 2 = true ∧
        3 = node.tracker.clockLength ∧
        node.tracker.contains node.me ⟨2, 1⟩ = false ∧
        node.sending.toList = [] ∧ node.membership.peerIds node.me = [2] ∧
        Message.new (node.relayOf (.data 2 1 [49] 3)) 2 node.now =
          Message.new ((Payload.data 2 1 [49] 3).stamped 1) 2 0 :=
    ⟨_, rfl, rfl, rfl, rfl, rfl, rfl,
      by simp [Tracker.contains, Tracker.new], rfl, rfl, rfl⟩
  have outset : Relation.ReflTransGen Step
      (start node fun _ : Fin 2 => .data 2 1 [49] 3) (start node _) := .refl
  obtain ⟨_, ⟨final, steps, ended⟩, _⟩ := relayed_by_one same member opened owner
    (by intro; exact length) (by intro; rfl) outset
  obtain ⟨_, _, raced, _⟩ := relayed_by_one same member opened owner
    (by intro; exact length) (by intro; rfl) steps
  obtain ⟨winner, won, lost, queued⟩ := raced ended fresh Nat.two_pos
  refine ⟨node, created, final, steps, ended, winner, won, lost, ?_⟩
  simpa [items, peers, relay] using queued

end Race

end CausalCast
