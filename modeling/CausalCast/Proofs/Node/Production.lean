import CausalCast.Proofs.Node.Producer

/-!
# What a producer gets done

Whatever the other loops of a node do between its steps, a producer begins its
messages in the order of their numbers, each after it has found room in the
sending queue; it writes a line for each, hands each to the link at most once,
and counts those that it is done with.
-/

namespace CausalCast

/-- A message that a producer has begun, and the depth of the sending queue when
it found room for it. -/
structure Beginning where
  payload : Payload
  found : Nat

namespace Producer

def withNode (producer : Producer) (node : Node) : Producer :=
  { producer with node := node }

/-- What a producer begins with its next step. -/
def beginning (producer : Producer) : List Beginning :=
  match producer.phase with
  | .announcing found payload => [⟨payload, found⟩]
  | _ => []

/-- What a producer puts into the sending queue with its next step. -/
def handing (producer : Producer) : List Parcel :=
  let parcels := match producer.phase with
    | .relaying payload (.sending (peer :: _)) =>
        [⟨producer.node.relayOf payload, peer⟩]
    | .posting payload receiver => [⟨payload, receiver⟩]
    | _ => []
  if producer.node.sending.hasConsumer then parcels else []

end Producer

/-- A producer with what it has begun and what it has put into the sending
queue, in order. -/
structure Campaign where
  producer : Producer
  begun : List Beginning
  handed : List Parcel

namespace Campaign

def node (campaign : Campaign) : Node :=
  campaign.producer.node

def start (node : Node) : Campaign :=
  ⟨.resume node 1 none, [], []⟩

def act (campaign : Campaign) (after : Producer) : Campaign :=
  ⟨after, campaign.begun ++ campaign.producer.beginning,
    campaign.handed ++ campaign.producer.handing⟩

inductive Step (production : Production) : Campaign → Campaign → Prop where
  | own {campaign : Campaign} {after : Producer}
      (step : campaign.producer.step? production = some after) :
      Step production campaign (campaign.act after)
  | others {campaign : Campaign} {node : Node}
      (beside : Node.Beside campaign.node node) :
      Step production campaign { campaign with
        producer := campaign.producer.withNode node }

/-! ## The loops of a station -/

theorem steps_of_alone {production : Production} {before after : Producer}
    (run : Relation.ReflTransGen (Producer.Alone production) before after)
    (campaign : Campaign) (same : campaign.producer = before) :
    ∃ later, Relation.ReflTransGen (Step production) campaign later ∧
      later.producer = after := by
  induction run with
  | refl => exact ⟨campaign, .refl, same⟩
  | @tail middle last _ step induction =>
      obtain ⟨later, run, rfl⟩ := induction
      exact ⟨later.act last, run.tail (.own step), rfl⟩

/-- What the producer of a station does with one step of its loop, it does with
some steps of its own. -/
theorem follows_stepProducer {production : Production} {next : Nat}
    {pausedUntil : Option Nat} {station after : Station} {state : LoopState}
    {campaign : Campaign}
    (mirrors : Producer.Mirrors station
      (.producing production next pausedUntil) campaign.producer)
    (due : pausedUntil.isSome = true → next ≤ production.count)
    (stepped : station.stepProducer production next pausedUntil =
      some (after, state)) :
    ∃ later, Relation.ReflTransGen (Step production) campaign later ∧
      Producer.Mirrors after state later.producer := by
  obtain ⟨producer, run, follows⟩ :=
    Producer.alone_of_stepProducer due stepped
  obtain ⟨later, steps, rfl⟩ := steps_of_alone run campaign mirrors.2
  exact ⟨later, steps, follows⟩

/-- The steps of the other loops of a station are those of others. -/
theorem follows_stepLoop {production : Production} {station after : Station}
    {state other next : LoopState} {campaign : Campaign}
    (mirrors : Producer.Mirrors station state campaign.producer)
    (noProducer : ∀ production number pausedUntil,
      other ≠ .producing production number pausedUntil)
    (stepped : station.stepLoop other = some (after, next)) :
    ∃ later, Step production campaign later ∧
      Producer.Mirrors after state later.producer := by
  have beside := Station.beside_of_stepLoop noProducer stepped
  rw [← mirrors.1] at beside
  refine ⟨_, .others beside, rfl, ?_⟩
  cases state with
  | producing made number pausedUntil =>
      have same : campaign.producer = _ := mirrors.2
      change campaign.producer.withNode after.node = _
      rw [same]
      rfl
  | ended result => exact mirrors.2
  | sending | retransmitting | receiving => exact mirrors.2

/-! ## The node of a producer -/

/-- A node that goes back to another one, who it is and how it is set up. -/
structure Based (origin node : Node) : Prop where
  me_eq : node.me = origin.me
  membership_eq : node.membership = origin.membership
  settings_eq : node.settings = origin.settings
  setup : origin.tracker.SameSetup node.tracker
  length_clock : node.tracker.clock.length = origin.tracker.clock.length

theorem Based.refl (origin : Node) : Based origin origin :=
  ⟨rfl, rfl, rfl, .refl _, rfl⟩

theorem Based.beside {origin node after : Node} (based : Based origin node)
    (beside : Node.Beside node after) : Based origin after := by
  refine ⟨?_, ?_, ?_, based.setup.trans beside.setup,
    beside.length_clock.trans based.length_clock⟩
  · rw [beside.node_eq]
    exact based.me_eq
  · rw [beside.node_eq]
    exact based.membership_eq
  · rw [beside.node_eq]
    exact based.settings_eq

/-- The first copy of message `number` of a node. -/
structure OwnCopy (origin : Node) (number : Nat) (payload : Payload) : Prop where
  message_eq : payload.message = ⟨origin.me, UInt32.ofNat number⟩
  content_eq : payload.content = Node.numberedContent (UInt32.ofNat number)
  sender_eq : payload.sender = origin.me
  data : payload.isAck = false
  length_clock : payload.clock.length = origin.tracker.clockLength

theorem ownCopy_numberedCopy {origin node : Node} (proper : origin.Proper)
    (based : Based origin node) (production : Production) (number : Nat) :
    OwnCopy origin number
      (node.numberedCopy production (UInt32.ofNat number)) := by
  cases production with
  | broadcasts messages =>
      refine ⟨?_, rfl, based.me_eq, rfl, ?_⟩
      · exact congrArg (MessageId.mk · _) based.me_eq
      · simp only [Node.numberedCopy, Node.firstCopy, Node.stampClock,
          List.length_set]
        exact based.length_clock.trans proper.length_clock
  | messagesTo receiver messages =>
      refine ⟨?_, rfl, based.me_eq, rfl, ?_⟩
      · exact congrArg (MessageId.mk · _) based.me_eq
      · simp only [Node.numberedCopy, Payload.data, VectorClock.length_zero,
          Node.clockLength, based.membership_eq, Tracker.clockLength,
          proper.nodeCount_eq]
        rfl

theorem OwnCopy.problem?_eq {origin node : Node} {number : Nat}
    {payload : Payload} (own : OwnCopy origin number payload)
    (proper : origin.Proper) (based : Based origin node) :
    node.tracker.problem? node.me payload = none := by
  have owner : payload.owner = origin.me :=
    congrArg MessageId.owner own.message_eq
  rw [based.setup.problem?_eq, based.me_eq]
  simp [Tracker.problem?, owner, proper.isNode_me, own.length_clock]

theorem OwnCopy.relayOf_eq {origin node : Node} {number : Nat}
    {payload : Payload} (own : OwnCopy origin number payload)
    (based : Based origin node) : node.relayOf payload = payload := by
  obtain ⟨uid, sender, owner, isAck, content, clock⟩ := payload
  have sender_eq : sender = origin.me := own.sender_eq
  have data : isAck = false := own.data
  simp only [Node.relayOf, Payload.stamped, Payload.toData, based.me_eq,
    sender_eq, data]

/-! ## Where a producer stands -/

def copies (origin : Node) (production : Production) (payload : Payload) :
    List Parcel :=
  match production with
  | .broadcasts _ =>
      (origin.membership.peerIds origin.me).map fun peer => ⟨payload, peer⟩
  | .messagesTo receiver _ => [⟨payload, receiver⟩]

def parcels (origin : Node) (production : Production)
    (begun : List Beginning) : List Parcel :=
  begun.flatMap fun beginning => copies origin production beginning.payload

def remaining (origin : Node) (production : Production) (payload : Payload) :
    Stage → List Parcel
  | .asking | .marking => copies origin production payload
  | .sending rest => rest.map fun peer => ⟨payload, peer⟩
  | .returned _ => []

/-- What was handed over and what is next to be: of broadcasts, which may leave
some out, at most the parcels of the messages; otherwise just these. -/
def Hands (origin : Node) (production : Production) (begun : List Beginning)
    (handed ahead : List Parcel) : Prop :=
  match production with
  | .broadcasts _ => (handed ++ ahead).Sublist (parcels origin production begun)
  | .messagesTo _ _ => handed ++ ahead = parcels origin production begun

section Hands

variable {origin : Node} {production : Production} {begun : List Beginning}
  {handed : List Parcel}

theorem Hands.begin (hands : Hands origin production begun handed [])
    (beginning : Beginning) :
    Hands origin production (begun ++ [beginning]) handed
      (copies origin production beginning.payload) := by
  have more : parcels origin production (begun ++ [beginning]) =
      parcels origin production begun ++
        copies origin production beginning.payload := by
    simp [parcels]
  cases production with
  | broadcasts messages =>
      unfold Hands at hands ⊢
      dsimp only at hands ⊢
      rw [List.append_nil] at hands
      rw [more]
      exact hands.append (.refl _)
  | messagesTo receiver messages =>
      unfold Hands at hands ⊢
      dsimp only at hands ⊢
      rw [List.append_nil] at hands
      rw [more, hands]

theorem Hands.hand {parcel : Parcel} {ahead : List Parcel}
    (hands : Hands origin production begun handed (parcel :: ahead)) :
    Hands origin production begun (handed ++ [parcel]) ahead := by
  have same : handed ++ [parcel] ++ ahead = handed ++ parcel :: ahead := by
    rw [List.append_assoc, List.singleton_append]
  unfold Hands at hands ⊢
  rw [same]
  exact hands

theorem Hands.skip {messages : UInt32} {ahead : List Parcel}
    (broadcasts : production = .broadcasts messages)
    (hands : Hands origin production begun handed ahead) :
    Hands origin production begun handed [] := by
  subst broadcasts
  unfold Hands at hands ⊢
  dsimp only at hands ⊢
  rw [List.append_nil]
  exact (List.sublist_append_left handed ahead).trans hands

end Hands

section Standing

variable (origin : Node) (production : Production) (done : Nat)
  (begun : List Beginning) (handed : List Parcel)

/-- A producer between two messages. -/
structure Between : Prop where
  begun_eq : begun.length = done
  hands : Hands origin production begun handed []

/-- A producer in the middle of a message, some parcels of which are still to
be handed over. -/
structure Amid (ahead : List Parcel) : Prop where
  begun_eq : begun.length = done + 1
  unfinished : done < production.count
  hands : Hands origin production begun handed ahead

/-- A producer that has found room for another message. -/
structure Admitted (found : Nat) : Prop
    extends Between origin production done begun handed where
  unfinished : done < production.count
  room : found ≤ origin.settings.sendingChunk

/-- What is known of a producer in each of its phases. -/
inductive Stands (node : Node) : Phase → Prop where
  | looking (between : Between origin production done begun handed) :
      Stands node .looking
  | pausing {wakesAt : Nat}
      (between : Between origin production done begun handed)
      (unfinished : done < production.count) : Stands node (.pausing wakesAt)
  | admitted {found : Nat}
      (admitted : Admitted origin production done begun handed found) :
      Stands node (.admitted found)
  | stamping {found : Nat}
      (admitted : Admitted origin production done begun handed found) :
      Stands node (.stamping found)
  | announcing {found : Nat} {payload : Payload}
      (admitted : Admitted origin production done begun handed found)
      (own : OwnCopy origin (done + 1) payload) :
      Stands node (.announcing found payload)
  | relaying {payload : Payload} {stage : Stage} {messages : UInt32}
      (broadcasts : production = .broadcasts messages)
      (amid : Amid origin production done begun handed
        (remaining origin production payload stage))
      (own : OwnCopy origin (done + 1) payload)
      (fine : ∀ problem, stage ≠ .returned (.error problem)) :
      Stands node (.relaying payload stage)
  | posting {payload : Payload} {receiver : NodeId} {messages : UInt32}
      (single : production = .messagesTo receiver messages)
      (amid : Amid origin production done begun handed
        [⟨payload, receiver⟩]) :
      Stands node (.posting payload receiver)
  | counting (amid : Amid origin production done begun handed []) :
      Stands node .counting
  | ended (between : Between origin production done begun handed)
      (reason : done = production.count ∨ node.stopped = true) :
      Stands node (.ended .completed)
  /-- The sending queue has refused a message for a single receiver. -/
  | refused {parcel : Parcel} {receiver : NodeId} {messages : UInt32}
      (single : production = .messagesTo receiver messages)
      (amid : Amid origin production done begun handed [parcel])
      (closed : node.sending.hasConsumer = false) :
      Stands node (.ended .completed)

variable {origin production done begun handed}

theorem Amid.skip {messages : UInt32} {ahead : List Parcel}
    (broadcasts : production = .broadcasts messages)
    (amid : Amid origin production done begun handed ahead) :
    Amid origin production done begun handed [] :=
  ⟨amid.begun_eq, amid.unfinished, amid.hands.skip broadcasts⟩

theorem Amid.hand {parcel : Parcel} {ahead : List Parcel}
    (amid : Amid origin production done begun handed (parcel :: ahead)) :
    Amid origin production done begun (handed ++ [parcel]) ahead :=
  ⟨amid.begun_eq, amid.unfinished, amid.hands.hand⟩

theorem Stands.beside {node after : Node} {phase : Phase}
    (stands : Stands origin production done begun handed node phase)
    (beside : Node.Beside node after) :
    Stands origin production done begun handed after phase := by
  cases stands with
  | looking between => exact .looking between
  | pausing between unfinished => exact .pausing between unfinished
  | admitted admitted => exact .admitted admitted
  | stamping admitted => exact .stamping admitted
  | announcing admitted own => exact .announcing admitted own
  | relaying broadcasts amid own fine =>
      exact .relaying broadcasts amid own fine
  | posting single amid => exact .posting single amid
  | counting amid => exact .counting amid
  | ended between reason => exact .ended between (reason.imp_right beside.stopped)
  | refused single amid closed =>
      refine .refused single amid ?_
      cases opened : after.sending.hasConsumer with
      | false => rfl
      | true =>
          rw [beside.sendingOpen opened] at closed
          contradiction

end Standing

/-- The number of a message and its content. -/
def numbered (origin : Node) (number : Nat) : MessageId × List UInt8 :=
  (⟨origin.me, UInt32.ofNat number⟩,
    Node.numberedContent (UInt32.ofNat number))

/-- The account of a producer. -/
structure Sound (origin : Node) (production : Production)
    (campaign : Campaign) : Prop where
  based : Based origin campaign.node
  next_eq : campaign.producer.next = campaign.node.enqueued.toNat + 1
  within : campaign.node.enqueued.toNat ≤ production.count
  numbered : (campaign.begun.map fun beginning =>
      (beginning.payload.message, beginning.payload.content)) =
    (List.range' 1 campaign.begun.length).map (numbered origin)
  found_le : ∀ beginning ∈ campaign.begun,
    beginning.found ≤ origin.settings.sendingChunk
  lines : ∃ lost, (campaign.begun.map (·.payload.content)) =
      OutputEvent.announced campaign.node.logged ++ lost ∧
    (campaign.node.output.isOpen = true → lost = [])
  stands : Stands origin production campaign.node.enqueued.toNat
    campaign.begun campaign.handed campaign.node campaign.producer.phase

namespace Sound

variable {origin : Node} {production : Production} {campaign : Campaign}
  (sound : Sound origin production campaign)

include sound

theorem move {node : Node} {phase : Phase} {handed : List Parcel}
    (beside : Node.Beside campaign.node node)
    (stands : Stands origin production campaign.node.enqueued.toNat
      campaign.begun handed node phase) :
    Sound origin production
      ⟨⟨node, campaign.producer.next, phase⟩, campaign.begun, handed⟩ := by
  have enqueued : node.enqueued = campaign.node.enqueued := by
    rw [beside.node_eq]
  constructor
  case based => exact sound.based.beside beside
  case next_eq =>
    change campaign.producer.next = node.enqueued.toNat + 1
    rw [enqueued]
    exact sound.next_eq
  case within =>
    change node.enqueued.toNat ≤ production.count
    rw [enqueued]
    exact sound.within
  case numbered => exact sound.numbered
  case found_le => exact sound.found_le
  case lines =>
    obtain ⟨lost, written, kept⟩ := sound.lines
    refine ⟨lost, ?_, kept ∘ beside.outputOpen⟩
    change _ = OutputEvent.announced node.logged ++ lost
    rw [beside.announced_eq]
    exact written
  case stands =>
    change Stands origin production node.enqueued.toNat campaign.begun handed
      node phase
    rw [enqueued]
    exact stands

theorem others {node : Node} (beside : Node.Beside campaign.node node) :
    Sound origin production { campaign with
      producer := campaign.producer.withNode node } :=
  sound.move beside (sound.stands.beside beside)

theorem turn {phase : Phase}
    (stands : Stands origin production campaign.node.enqueued.toNat
      campaign.begun campaign.handed campaign.node phase) :
    Sound origin production { campaign with
      producer := campaign.producer.withPhase phase } :=
  sound.move (.refl _) stands

end Sound

/-! ## The steps of a producer -/

theorem act_of_quiet {campaign : Campaign} (after : Producer)
    (begins : campaign.producer.beginning = [])
    (hands : campaign.producer.handing = []) :
    campaign.act after = { campaign with producer := after } := by
  rw [act, begins, hands, List.append_nil, List.append_nil]

section Steps

variable {origin node : Node} {production : Production} {next : Nat}
  {begun : List Beginning} {handed : List Parcel} {after : Producer}

theorem sound_of_look
    (sound : Sound origin production ⟨⟨node, next, .looking⟩, begun, handed⟩)
    (between : Between origin production node.enqueued.toNat begun handed)
    (step : Producer.step? production ⟨node, next, .looking⟩ = some after) :
    Sound origin production ⟨after, begun, handed⟩ := by
  have next_eq : next = node.enqueued.toNat + 1 := sound.next_eq
  have within : node.enqueued.toNat ≤ production.count := sound.within
  simp only [Producer.step?] at step
  split at step
  case isTrue finished =>
      obtain rfl := Option.some.inj step
      have all : node.enqueued.toNat = production.count := by omega
      exact sound.turn (.ended between (.inl all))
  case isFalse unfinished =>
      have more : node.enqueued.toNat < production.count := by omega
      split at step
      case isTrue room =>
          obtain rfl := Option.some.inj step
          have room : node.sending.depth ≤ node.settings.sendingChunk :=
            of_decide_eq_true room
          have settings : node.settings = origin.settings :=
            sound.based.settings_eq
          rw [settings] at room
          exact sound.turn (.admitted ⟨between, more, room⟩)
      case isFalse =>
          obtain rfl := Option.some.inj step
          exact sound.turn (.pausing between more)

theorem sound_of_pause {wakesAt : Nat}
    (sound : Sound origin production
      ⟨⟨node, next, .pausing wakesAt⟩, begun, handed⟩)
    (between : Between origin production node.enqueued.toNat begun handed)
    (step : Producer.step? production ⟨node, next, .pausing wakesAt⟩ =
      some after) :
    Sound origin production ⟨after, begun, handed⟩ := by
  simp only [Producer.step?] at step
  split at step
  case isTrue stopped =>
      obtain rfl := Option.some.inj step
      exact sound.turn (.ended between (.inr stopped))
  case isFalse =>
      split at step
      case isTrue => contradiction
      case isFalse =>
          obtain rfl := Option.some.inj step
          exact sound.turn (.looking between)

theorem sound_of_admitted {found : Nat}
    (sound : Sound origin production
      ⟨⟨node, next, .admitted found⟩, begun, handed⟩)
    (admitted : Admitted origin production node.enqueued.toNat begun handed
      found)
    (step : Producer.step? production ⟨node, next, .admitted found⟩ =
      some after) :
    Sound origin production ⟨after, begun, handed⟩ := by
  simp only [Producer.step?] at step
  split at step
  case isTrue stopped =>
      obtain rfl := Option.some.inj step
      exact sound.turn (.ended admitted.toBetween (.inr stopped))
  case isFalse =>
      obtain rfl := Option.some.inj step
      exact sound.turn (.stamping admitted)

theorem sound_of_stamp {found : Nat} (proper : origin.Proper)
    (sound : Sound origin production
      ⟨⟨node, next, .stamping found⟩, begun, handed⟩)
    (admitted : Admitted origin production node.enqueued.toNat begun handed
      found)
    (step : Producer.step? production ⟨node, next, .stamping found⟩ =
      some after) :
    Sound origin production ⟨after, begun, handed⟩ := by
  obtain rfl : next = node.enqueued.toNat + 1 := sound.next_eq
  have own := ownCopy_numberedCopy proper sound.based production
    (node.enqueued.toNat + 1)
  obtain rfl := Option.some.inj step
  exact sound.turn (.announcing admitted own)

theorem lines_announce {content : List UInt8} {written : List (List UInt8)}
    (lines : ∃ lost,
      written = OutputEvent.announced node.logged ++ lost ∧
        (node.output.isOpen = true → lost = [])) :
    ∃ lost, written ++ [content] =
        OutputEvent.announced (node.announce content).logged ++ lost ∧
      ((node.announce content).output.isOpen = true → lost = []) := by
  obtain ⟨lost, before, kept⟩ := lines
  cases opened : node.output.isOpen with
  | true =>
      have logged : (node.announce content).logged =
          node.logged ++ [.broadcast content] := by
        simp [Node.logged, Node.announce, OutputLog.emit, opened]
      refine ⟨[], ?_, fun _ => rfl⟩
      rw [before, kept opened, logged, OutputEvent.announced_concat_broadcast,
        List.append_nil, List.append_nil]
  | false =>
      have same : node.announce content = node := by
        simp [Node.announce, OutputLog.emit, opened]
      refine ⟨lost ++ [content], ?_, fun known => ?_⟩
      · rw [before, same, List.append_assoc]
      · rw [same, opened] at known
        contradiction

theorem sound_of_announce {found : Nat} {payload : Payload}
    (sound : Sound origin production
      ⟨⟨node, next, .announcing found payload⟩, begun, handed⟩)
    (admitted : Admitted origin production node.enqueued.toNat begun handed
      found)
    (own : OwnCopy origin (node.enqueued.toNat + 1) payload)
    (step : Producer.step? production
      ⟨node, next, .announcing found payload⟩ = some after) :
    Sound origin production ⟨after, begun ++ [⟨payload, found⟩], handed⟩ := by
  have length := admitted.begun_eq
  have amid : Amid origin production node.enqueued.toNat
      (begun ++ [⟨payload, found⟩]) handed
      (copies origin production payload) := by
    refine ⟨?_, admitted.unfinished, admitted.hands.begin ⟨payload, found⟩⟩
    rw [List.length_append, length]
    rfl
  obtain rfl := Option.some.inj step
  constructor
  case based =>
    have based := sound.based
    exact ⟨based.me_eq, based.membership_eq, based.settings_eq, based.setup,
      based.length_clock⟩
  case next_eq => exact sound.next_eq
  case within => exact sound.within
  case numbered =>
    have number : numbered origin (1 + begun.length) =
        (payload.message, payload.content) := by
      rw [numbered, length, Nat.add_comm, own.message_eq, own.content_eq]
    simp only [List.map_append, List.length_append, List.length_singleton,
      List.range'_1_concat, List.map_singleton, number]
    rw [sound.numbered]
  case found_le =>
    intro beginning member
    rcases List.mem_append.mp member with earlier | last
    · exact sound.found_le beginning earlier
    · obtain rfl := List.mem_singleton.mp last
      exact admitted.room
  case lines =>
    simp only [List.map_append, List.map_singleton]
    exact lines_announce sound.lines
  case stands =>
    cases production with
    | broadcasts messages =>
        exact .relaying rfl amid own fun _ => Stage.noConfusion
    | messagesTo receiver messages => exact .posting rfl amid

theorem send_ok_iff {node after : Node} {payload : Payload}
    {recipient : NodeId} {outcome : Except QueueError Unit}
    (sent : node.send payload recipient = (after, outcome)) :
    outcome = .ok () ↔ node.sending.hasConsumer = true := by
  cases opened : node.sending.hasConsumer with
  | true =>
      obtain ⟨_, _, _, accepted⟩ := Node.send_of_open opened payload recipient
      rw [accepted] at sent
      exact iff_of_true (Prod.mk.inj sent).2.symm rfl
  | false =>
      have closed : (node.countUnacked payload).sending.hasConsumer = false := by
        rw [(node.works_countUnacked payload).sendingOpen]
        exact opened
      simp only [Node.send, Node.post,
        Queue.enqueue_of_consumerGone _ closed, Prod.mk.injEq] at sent
      rw [← sent.2]
      simp

theorem closed_of_send {node after : Node} {payload : Payload}
    {recipient : NodeId} {error : QueueError}
    (refused : node.send payload recipient = (after, .error error)) :
    node.sending.hasConsumer = false := by
  rw [← Bool.not_eq_true, ← send_ok_iff refused]
  simp

theorem sound_of_asking {payload : Payload} {messages : UInt32}
    (sound : Sound origin production
      ⟨⟨node, next, .relaying payload .asking⟩, begun, handed⟩)
    (broadcasts : production = .broadcasts messages)
    (amid : Amid origin production node.enqueued.toNat begun handed
      (copies origin production payload))
    (own : OwnCopy origin (node.enqueued.toNat + 1) payload)
    (step : Producer.step? production ⟨node, next, .relaying payload .asking⟩ =
      some after) :
    Sound origin production ⟨after, begun, handed⟩ := by
  obtain rfl := Option.some.inj step
  dsimp only
  refine sound.turn ?_
  split
  case isTrue =>
      exact .relaying broadcasts (amid.skip broadcasts) own (by simp)
  case isFalse => exact .relaying broadcasts amid own (by simp)

/-- The node records the copy as its own, unless another of its loops has done
so before. -/
theorem sound_of_marking {payload : Payload} {messages : UInt32}
    (proper : origin.Proper)
    (sound : Sound origin production
      ⟨⟨node, next, .relaying payload .marking⟩, begun, handed⟩)
    (broadcasts : production = .broadcasts messages)
    (amid : Amid origin production node.enqueued.toNat begun handed
      (copies origin production payload))
    (own : OwnCopy origin (node.enqueued.toNat + 1) payload)
    (step : Producer.step? production ⟨node, next, .relaying payload .marking⟩ =
      some after) :
    Sound origin production ⟨after, begun, handed⟩ := by
  have based : Based origin node := sound.based
  have marked := Node.insert_of_valid node node.me payload
    (own.problem?_eq proper based)
  have beside := (Node.works_witnessed node node.me payload).beside
  simp only [Producer.step?, Stage.step, Node.markAsSeen, marked] at step
  generalize (node.tracker.record node.me payload).sighting = sighting at step
  cases sighting with
  | duplicate =>
      obtain rfl := Option.some.inj step
      exact sound.move beside
        (.relaying broadcasts (amid.skip broadcasts) own (by simp))
  | stale | counted =>
      obtain rfl := Option.some.inj step
      have recipients : remaining origin production payload
          (.sending (node.membership.peerIds node.me)) =
            copies origin production payload := by
        subst broadcasts
        rw [based.me_eq, based.membership_eq]
        rfl
      rw [← recipients] at amid
      exact sound.move beside (.relaying broadcasts amid own (by simp))

/-- The next parcel is handed over, unless the queue is closed: then this and
all further ones are left out. -/
theorem sound_of_sending {payload : Payload} {messages : UInt32}
    {peer : NodeId} {rest : List NodeId}
    (sound : Sound origin production
      ⟨⟨node, next, .relaying payload (.sending (peer :: rest))⟩, begun,
        handed⟩)
    (broadcasts : production = .broadcasts messages)
    (amid : Amid origin production node.enqueued.toNat begun handed
      (remaining origin production payload (.sending (peer :: rest))))
    (own : OwnCopy origin (node.enqueued.toNat + 1) payload)
    (step : Producer.step? production
      ⟨node, next, .relaying payload (.sending (peer :: rest))⟩ =
        some after) :
    Sound origin production ⟨after, begun, handed ++ Producer.handing
      ⟨node, next, .relaying payload (.sending (peer :: rest))⟩⟩ := by
  have same : node.relayOf payload = payload := own.relayOf_eq sound.based
  simp only [Producer.step?, Stage.step] at step
  cases sent : node.send (node.relayOf payload) peer with
  | mk sender outcome =>
      have beside := (Node.works_of_send sent).beside
      rw [sent] at step
      cases outcome with
      | ok _ =>
          have hands : Producer.handing ⟨node, next,
              .relaying payload (.sending (peer :: rest))⟩ =
                [⟨payload, peer⟩] := by
            simp [Producer.handing, (send_ok_iff sent).mp rfl, same]
          obtain rfl := Option.some.inj step
          rw [hands]
          exact sound.move beside (.relaying broadcasts amid.hand own (by simp))
      | error problem =>
          have closed := closed_of_send sent
          have nothing : Producer.handing ⟨node, next,
              .relaying payload (.sending (peer :: rest))⟩ = [] := by
            simp [Producer.handing, closed]
          obtain rfl := Option.some.inj step
          rw [nothing, List.append_nil]
          exact sound.move beside
            (.relaying broadcasts (amid.skip broadcasts) own (by simp))

theorem sound_of_relay {payload : Payload} {stage : Stage} {messages : UInt32}
    (proper : origin.Proper)
    (sound : Sound origin production
      ⟨⟨node, next, .relaying payload stage⟩, begun, handed⟩)
    (broadcasts : production = .broadcasts messages)
    (amid : Amid origin production node.enqueued.toNat begun handed
      (remaining origin production payload stage))
    (own : OwnCopy origin (node.enqueued.toNat + 1) payload)
    (fine : ∀ problem, stage ≠ .returned (.error problem))
    (step : Producer.step? production ⟨node, next, .relaying payload stage⟩ =
      some after) :
    Sound origin production
      (act ⟨⟨node, next, .relaying payload stage⟩, begun, handed⟩ after) := by
  cases stage with
  | asking =>
      rw [act_of_quiet after rfl (by simp [Producer.handing])]
      exact sound_of_asking sound broadcasts amid own step
  | marking =>
      rw [act_of_quiet after rfl (by simp [Producer.handing])]
      exact sound_of_marking proper sound broadcasts amid own step
  | sending rest =>
      cases rest with
      | nil =>
          rw [act_of_quiet after rfl (by simp [Producer.handing])]
          obtain rfl := Option.some.inj step
          exact sound.move (.refl _)
            (.relaying broadcasts amid own (by simp))
      | cons peer rest =>
          have sends := sound_of_sending sound broadcasts amid own step
          rw [← List.append_nil begun] at sends
          exact sends
  | returned answer =>
      rw [act_of_quiet after rfl (by simp [Producer.handing])]
      cases answer with
      | error problem => exact absurd rfl (fine problem)
      | ok isFirst =>
          obtain rfl := Option.some.inj step
          exact sound.turn (.counting amid)

theorem sound_of_post {payload : Payload} {receiver : NodeId}
    {messages : UInt32}
    (sound : Sound origin production
      ⟨⟨node, next, .posting payload receiver⟩, begun, handed⟩)
    (single : production = .messagesTo receiver messages)
    (amid : Amid origin production node.enqueued.toNat begun handed
      [⟨payload, receiver⟩])
    (step : Producer.step? production
      ⟨node, next, .posting payload receiver⟩ = some after) :
    Sound origin production ⟨after, begun,
      handed ++ Producer.handing ⟨node, next, .posting payload receiver⟩⟩ := by
  simp only [Producer.step?] at step
  cases sent : node.send payload receiver with
  | mk sender outcome =>
      have works := Node.works_of_send sent
      rw [sent] at step
      cases outcome with
      | ok _ =>
          have hands : Producer.handing
              ⟨node, next, .posting payload receiver⟩ =
                [⟨payload, receiver⟩] := by
            simp [Producer.handing, (send_ok_iff sent).mp rfl]
          obtain rfl := Option.some.inj step
          rw [hands]
          exact sound.move works.beside (.counting amid.hand)
      | error problem =>
          have closed := closed_of_send sent
          have nothing : Producer.handing
              ⟨node, next, .posting payload receiver⟩ = [] := by
            simp [Producer.handing, closed]
          obtain rfl := Option.some.inj step
          rw [nothing, List.append_nil]
          exact sound.move works.beside
            (.refused single amid (works.sendingOpen.trans closed))

theorem Production.count_lt (production : Production) :
    production.count < 2 ^ 32 := by
  cases production <;> exact UInt32.toNat_lt _

theorem toNat_enqueued_countEnqueued
    (unfinished : node.enqueued.toNat < production.count) :
    node.countEnqueued.enqueued.toNat = node.enqueued.toNat + 1 := by
  have bound := Production.count_lt production
  change (node.enqueued + 1).toNat = _
  rw [UInt32.toNat_add]
  change (node.enqueued.toNat + 1) % 2 ^ 32 = _
  rw [Nat.mod_eq_of_lt (by omega)]

theorem sound_of_count
    (sound : Sound origin production ⟨⟨node, next, .counting⟩, begun, handed⟩)
    (amid : Amid origin production node.enqueued.toNat begun handed [])
    (step : Producer.step? production ⟨node, next, .counting⟩ = some after) :
    Sound origin production ⟨after, begun, handed⟩ := by
  have counted := toNat_enqueued_countEnqueued amid.unfinished
  have next_eq : next = node.enqueued.toNat + 1 := sound.next_eq
  obtain rfl := Option.some.inj step
  constructor
  case based =>
    have based := sound.based
    exact ⟨based.me_eq, based.membership_eq, based.settings_eq, based.setup,
      based.length_clock⟩
  case next_eq =>
    change next + 1 = node.countEnqueued.enqueued.toNat + 1
    rw [counted, next_eq]
  case within =>
    change node.countEnqueued.enqueued.toNat ≤ production.count
    rw [counted]
    exact amid.unfinished
  case numbered => exact sound.numbered
  case found_le => exact sound.found_le
  case lines => exact sound.lines
  case stands =>
    change Stands origin production node.countEnqueued.enqueued.toNat begun
      handed node.countEnqueued .looking
    rw [counted]
    exact .looking ⟨amid.begun_eq, amid.hands⟩

end Steps

namespace Sound

variable {origin : Node} {production : Production} {campaign : Campaign}

theorem own {after : Producer} (proper : origin.Proper)
    (sound : Sound origin production campaign)
    (step : campaign.producer.step? production = some after) :
    Sound origin production (campaign.act after) := by
  have stands := sound.stands
  obtain ⟨⟨node, next, phase⟩, begun, handed⟩ := campaign
  dsimp only at stands step
  cases stands with
  | looking between =>
      rw [act_of_quiet after rfl (by simp [Producer.handing])]
      exact sound_of_look sound between step
  | pausing between =>
      rw [act_of_quiet after rfl (by simp [Producer.handing])]
      exact sound_of_pause sound between step
  | admitted admitted =>
      rw [act_of_quiet after rfl (by simp [Producer.handing])]
      exact sound_of_admitted sound admitted step
  | stamping admitted =>
      rw [act_of_quiet after rfl (by simp [Producer.handing])]
      exact sound_of_stamp proper sound admitted step
  | @announcing found payload admitted own =>
      have nothing : Producer.handing
          ⟨node, next, .announcing found payload⟩ = [] := by
        simp [Producer.handing]
      rw [act, nothing, List.append_nil]
      exact sound_of_announce sound admitted own step
  | relaying broadcasts amid own fine =>
      exact sound_of_relay proper sound broadcasts amid own fine step
  | posting single amid =>
      have posts := sound_of_post sound single amid step
      rw [← List.append_nil begun] at posts
      exact posts
  | counting amid =>
      rw [act_of_quiet after rfl (by simp [Producer.handing])]
      exact sound_of_count sound amid step
  | ended | refused => contradiction

theorem step {after : Campaign} (proper : origin.Proper)
    (sound : Sound origin production campaign)
    (step : Step production campaign after) :
    Sound origin production after := by
  cases step with
  | own step => exact sound.own proper step
  | others beside => exact sound.others beside

theorem steps {after : Campaign} (proper : origin.Proper)
    (sound : Sound origin production campaign)
    (run : Relation.ReflTransGen (Step production) campaign after) :
    Sound origin production after := by
  induction run with
  | refl => exact sound
  | tail _ step induction => exact induction.step proper step

end Sound

theorem sound_start {origin : Node} {production : Production}
    (fresh : origin.enqueued = 0)
    (silent : OutputEvent.announced origin.logged = []) :
    Sound origin production (start origin) := by
  have nothing : origin.enqueued.toNat = 0 := by
    rw [fresh]
    rfl
  constructor
  case based => exact .refl origin
  case next_eq =>
    change 1 = origin.enqueued.toNat + 1
    rw [nothing]
  case within =>
    change origin.enqueued.toNat ≤ production.count
    rw [nothing]
    exact Nat.zero_le _
  case numbered => rfl
  case found_le => exact fun _ member => absurd member List.not_mem_nil
  case lines =>
    refine ⟨[], ?_, fun _ => rfl⟩
    rw [List.append_nil]
    exact silent.symm
  case stands =>
    change Stands origin production origin.enqueued.toNat [] [] origin .looking
    rw [nothing]
    refine .looking ⟨rfl, ?_⟩
    cases production with
    | broadcasts messages => exact .slnil
    | messagesTo receiver messages => rfl

end Campaign

end CausalCast
