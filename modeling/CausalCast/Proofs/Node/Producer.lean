import CausalCast.Proofs.Node.Bystanders

/-!
# The steps of a producer

For each message, a producer looks at the depth of the sending queue, sees
whether a stop was ordered, makes the payload, writes the line, hands the
payload to the link and counts it.  Other loops take their steps between any
two of these.
-/

namespace CausalCast

/-- What a producer is about to do for its next message. -/
inductive Phase where
  /-- It is about to look for room in the sending queue. -/
  | looking
  /-- It has found no room, and will look again. -/
  | pausing (wakesAt : Nat)
  /-- It has found room, and is about to see whether a stop was ordered. -/
  | admitted (found : Nat)
  | stamping (found : Nat)
  | announcing (found : Nat) (payload : Payload)
  /-- It broadcasts the payload. -/
  | relaying (payload : Payload) (stage : Stage)
  /-- It is about to send the payload to its receiver. -/
  | posting (payload : Payload) (receiver : NodeId)
  | counting
  | ended (result : LoopResult)

/-- The first copy of the message that a production numbers so. -/
def Node.numberedCopy (node : Node) (production : Production) (uid : UInt32) :
    Payload :=
  match production with
  | .broadcasts _ => node.firstCopy uid (Node.numberedContent uid)
  | .messagesTo _ _ =>
      Payload.data node.me uid (Node.numberedContent uid) node.clockLength

/-- A producer at work on a node. -/
structure Producer where
  node : Node
  /-- The number of the next message. -/
  next : Nat
  phase : Phase

namespace Producer

/-- A producer that has to look for room, if it need not pause first. -/
def resume (node : Node) (next : Nat) (pausedUntil : Option Nat) : Producer :=
  ⟨node, next, match pausedUntil with
    | none => .looking
    | some time => .pausing time⟩

def withPhase (producer : Producer) (phase : Phase) : Producer :=
  { producer with phase := phase }

/-- One step of a producer; there is none while it pauses and when it has
ended. -/
def step? (production : Production) (producer : Producer) : Option Producer :=
  let node := producer.node
  match producer.phase with
  | .looking =>
      if production.count < producer.next then
        some (producer.withPhase (.ended .completed))
      else if node.hasRoom then
        some (producer.withPhase (.admitted node.sending.depth))
      else some (producer.withPhase (.pausing (node.now + Node.throttlePause)))
  | .pausing wakesAt =>
      if node.stopped then some (producer.withPhase (.ended .completed))
      else if node.now < wakesAt then none
      else some (producer.withPhase .looking)
  | .admitted found =>
      if node.stopped then some (producer.withPhase (.ended .completed))
      else some (producer.withPhase (.stamping found))
  | .stamping found =>
      some (producer.withPhase (.announcing found
        (node.numberedCopy production (UInt32.ofNat producer.next))))
  | .announcing _ payload =>
      some { producer with
        node := node.announce payload.content
        phase := match production with
          | .broadcasts _ => .relaying payload .asking
          | .messagesTo receiver _ => .posting payload receiver }
  | .relaying _ (.returned (.error problem)) =>
      some (producer.withPhase (.ended (.rejected problem)))
  | .relaying _ (.returned (.ok _)) => some (producer.withPhase .counting)
  | .relaying payload stage =>
      (stage.step node payload).map fun (after, stage) =>
        { producer with
          node := after
          phase := .relaying payload stage }
  | .posting payload receiver =>
      match node.send payload receiver with
      | (after, .error _) =>
          some { producer with
            node := after
            phase := .ended .completed }
      | (after, .ok _) =>
          some { producer with
            node := after
            phase := .counting }
  | .counting => some ⟨node.countEnqueued, producer.next + 1, .looking⟩
  | .ended _ => none

/-! ## Messages in one go -/

def Alone (production : Production) (before after : Producer) : Prop :=
  before.step? production = some after

theorem alone_of_stage (production : Production) (next : Nat)
    {payload : Payload} {before after : Node × Stage}
    (stepped : Stage.Alone payload before after) :
    Alone production ⟨before.1, next, .relaying payload before.2⟩
      ⟨after.1, next, .relaying payload after.2⟩ := by
  obtain ⟨node, stage⟩ := before
  unfold Alone step?
  dsimp only
  cases stage with
  | returned answer => contradiction
  | asking | marking | sending rest =>
      unfold Stage.Alone at stepped
      dsimp only at stepped
      simp only [stepped]
      rfl

theorem alone_relaying (production : Production) (next : Nat) (node : Node)
    (payload : Payload) :
    Relation.ReflTransGen (Alone production)
      ⟨node, next, .relaying payload .asking⟩
      (match node.uniformReliableBroadcast payload with
        | .error problem => ⟨node, next, .ended (.rejected problem)⟩
        | .ok (after, _) => ⟨after, next, .counting⟩) := by
  have relays := (Stage.alone_asking node payload).lift
    (fun state => Producer.mk state.1 next (.relaying payload state.2))
    fun _ _ stepped => alone_of_stage production next stepped
  cases relayed : node.uniformReliableBroadcast payload with
  | error problem =>
      rw [relayed] at relays
      exact relays.tail rfl
  | ok result =>
      rw [relayed] at relays
      exact relays.tail rfl

theorem produceOne_broadcasts (node : Node) (messages uid : UInt32) :
    node.produceOne (.broadcasts messages) uid =
      match (node.announce (Node.numberedContent uid)).uniformReliableBroadcast
          (node.firstCopy uid (Node.numberedContent uid)) with
      | .error problem =>
          (node.announce (Node.numberedContent uid), some (.rejected problem))
      | .ok (relayed, _) => (relayed.countEnqueued, none) := by
  simp only [Node.produceOne, Node.originate]
  cases (node.announce (Node.numberedContent uid)).uniformReliableBroadcast
      (node.firstCopy uid (Node.numberedContent uid)) <;> rfl

/-- How a loop that makes a message goes on. -/
def Continues (next : Nat) (made : Node × Option LoopResult)
    (producer : Producer) : Prop :=
  match made with
  | (after, some result) =>
      producer.node = after ∧ producer.phase = .ended result
  | (after, none) => producer = resume after (next + 1) none

theorem alone_stamping (production : Production) (node : Node)
    (next found : Nat) :
    ∃ producer : Producer,
      Relation.ReflTransGen (Alone production) ⟨node, next, .stamping found⟩
        producer ∧
      Continues next (node.produceOne production (UInt32.ofNat next))
        producer := by
  cases production with
  | broadcasts messages =>
      let payload := node.firstCopy (UInt32.ofNat next)
        (Node.numberedContent (UInt32.ofNat next))
      have opens : Relation.ReflTransGen (Alone (.broadcasts messages))
          ⟨node, next, .stamping found⟩
          ⟨node.announce payload.content, next, .relaying payload .asking⟩ :=
        .head rfl (.single rfl)
      have run := opens.trans (alone_relaying (.broadcasts messages) next
        (node.announce payload.content) payload)
      rw [produceOne_broadcasts]
      change ∃ producer, _ ∧ Continues next (match
          (node.announce payload.content).uniformReliableBroadcast payload with
        | .error problem =>
            (node.announce payload.content, some (.rejected problem))
        | .ok (relayed, _) => (relayed.countEnqueued, none)) producer
      cases relayed : (node.announce
          payload.content).uniformReliableBroadcast payload with
      | error problem =>
          rw [relayed] at run
          exact ⟨_, run, rfl, rfl⟩
      | ok result =>
          rw [relayed] at run
          exact ⟨_, run.tail rfl, rfl⟩
  | messagesTo receiver messages =>
      let payload := Payload.data node.me (UInt32.ofNat next)
        (Node.numberedContent (UInt32.ofNat next)) node.clockLength
      have opens : Relation.ReflTransGen (Alone (.messagesTo receiver messages))
          ⟨node, next, .stamping found⟩
          ⟨node.announce payload.content, next, .posting payload receiver⟩ :=
        .head rfl (.single rfl)
      have posts : Alone (.messagesTo receiver messages)
          ⟨node.announce payload.content, next, .posting payload receiver⟩
          (match (node.announce payload.content).send payload receiver with
            | (after, .error _) => ⟨after, next, .ended .completed⟩
            | (after, .ok _) => ⟨after, next, .counting⟩) := by
        unfold Alone step?
        dsimp only
        cases sent : (node.announce payload.content).send payload receiver with
        | mk after outcome => cases outcome <;> rfl
      simp only [Node.produceOne]
      change ∃ producer, _ ∧ Continues next
        (match (node.announce payload.content).send payload receiver with
        | (after, .error _) => (after, some .completed)
        | (after, .ok _) => (after.countEnqueued, none)) producer
      cases sent : (node.announce payload.content).send payload receiver with
      | mk after outcome =>
          rw [sent] at posts
          cases outcome with
          | error _ => exact ⟨_, opens.tail posts, rfl, rfl⟩
          | ok _ => exact ⟨_, (opens.tail posts).tail rfl, rfl⟩

/-- Whether a producer is where a loop is. -/
def Mirrors (station : Station) (state : LoopState) (producer : Producer) :
    Prop :=
  producer.node = station.node ∧
    match state with
    | .producing _ next pausedUntil =>
        producer = resume station.node next pausedUntil
    | .ended result => producer.phase = .ended result
    | _ => False

variable {production : Production} {station after : Station} {next : Nat}
  {state : LoopState}

theorem alone_of_room {node : Node} (unfinished : ¬production.count < next)
    (room : node.hasRoom = true) :
    Alone production (resume node next none)
      ⟨node, next, .admitted node.sending.depth⟩ := by
  simp [Alone, step?, resume, unfinished, room, withPhase]

theorem alone_of_full {node : Node} (unfinished : ¬production.count < next)
    (full : node.hasRoom = false) :
    Alone production (resume node next none)
      (resume node next (some (node.now + Node.throttlePause))) := by
  simp [Alone, step?, resume, unfinished, full, withPhase]

theorem alone_stopped {node : Node} (stopped : node.stopped = true)
    (unfinished : ¬production.count < next) :
    Relation.ReflTransGen (Alone production) (resume node next none)
      ⟨node, next, .ended .completed⟩ := by
  cases room : node.hasRoom with
  | true =>
      refine .head (alone_of_room unfinished room) (.single ?_)
      simp [Alone, step?, stopped, withPhase]
  | false =>
      refine .head (alone_of_full unfinished room) (.single ?_)
      simp [Alone, step?, resume, stopped, withPhase]

theorem alone_looking
    (stepped : station.stepProducer production next none =
      some (after, state)) :
    ∃ producer, Relation.ReflTransGen (Alone production)
      (resume station.node next none) producer ∧
      Mirrors after state producer := by
  unfold Station.stepProducer at stepped
  dsimp only [Option.any_none] at stepped
  split at stepped
  case isTrue finished =>
      obtain ⟨rfl, rfl⟩ := Prod.mk.inj (Option.some.inj stepped)
      refine ⟨⟨station.node, next, .ended .completed⟩, .single ?_, rfl, rfl⟩
      simp [Alone, step?, resume, finished, withPhase]
  case isFalse unfinished =>
      split at stepped
      case isTrue stopped =>
          obtain ⟨rfl, rfl⟩ := Prod.mk.inj (Option.some.inj stepped)
          exact ⟨_, alone_stopped stopped unfinished, rfl, rfl⟩
      case isFalse running =>
          rw [if_neg Bool.false_ne_true] at stepped
          split at stepped
          case isTrue full =>
              obtain ⟨rfl, rfl⟩ := Prod.mk.inj (Option.some.inj stepped)
              have full : station.node.hasRoom = false := by simpa using full
              exact ⟨_, .single (alone_of_full unfinished full), rfl, rfl⟩
          case isFalse room =>
              have room : station.node.hasRoom = true := by simpa using room
              obtain ⟨producer, makes, continues⟩ := alone_stamping production
                station.node next station.node.sending.depth
              have looks := alone_of_room unfinished room
              have admitted : Alone production
                  ⟨station.node, next, .admitted station.node.sending.depth⟩
                  ⟨station.node, next,
                    .stamping station.node.sending.depth⟩ := by
                simp [Alone, step?, running, withPhase]
              refine ⟨producer, .head looks (.head admitted makes), ?_⟩
              split at stepped
              case h_1 node result made =>
                  obtain ⟨rfl, rfl⟩ := Prod.mk.inj (Option.some.inj stepped)
                  rw [made] at continues
                  exact continues
              case h_2 node made =>
                  obtain ⟨rfl, rfl⟩ := Prod.mk.inj (Option.some.inj stepped)
                  rw [made] at continues
                  have same : producer = resume node (next + 1) none :=
                    continues
                  exact ⟨congrArg Producer.node same, same⟩

/-- A step of the loop that nothing interrupts is made up of steps of its
producer; only a producer that has a message to make ever pauses. -/
theorem alone_of_stepProducer {pausedUntil : Option Nat}
    (due : pausedUntil.isSome = true → next ≤ production.count)
    (stepped : station.stepProducer production next pausedUntil =
      some (after, state)) :
    ∃ producer, Relation.ReflTransGen (Alone production)
      (resume station.node next pausedUntil) producer ∧
      Mirrors after state producer := by
  cases pausedUntil with
  | none => exact alone_looking stepped
  | some time =>
      have unfinished := Nat.not_lt_of_le (due rfl)
      cases stopped : station.node.stopped with
      | true =>
          simp only [Station.stepProducer, unfinished, stopped, if_false,
            if_true, Option.some.injEq, Prod.mk.injEq] at stepped
          obtain ⟨rfl, rfl⟩ := stepped
          refine ⟨⟨station.node, next, .ended .completed⟩, .single ?_, rfl,
            rfl⟩
          simp [Alone, step?, resume, stopped, withPhase]
      | false =>
          by_cases early : station.node.now < time
          case pos =>
              simp [Station.stepProducer, unfinished, stopped, early]
                at stepped
          case neg =>
              have looks : station.stepProducer production next none =
                  some (after, state) := by
                rw [← stepped]
                simp [Station.stepProducer, unfinished, stopped, early]
              obtain ⟨producer, run, mirrors⟩ := alone_looking looks
              refine ⟨producer, .head ?_ run, mirrors⟩
              simp [Alone, step?, resume, stopped, early, withPhase]

end Producer

end CausalCast
