import CausalCast.Proofs.Node.Production

/-!
# A workload gets done

A producer never waits for anything but room, and where it finds room again and
again, it gets to the end of its workload.  It ends earlier only by a stop, or
because the queue of a single receiver's messages is closed.
-/

namespace CausalCast

theorem Node.count_production (node : Node) :
    node.production.count = (node.workload.originatedBy node.me).toNat := by
  unfold production Workload.originatedBy
  cases node.workload with
  | broadcast messages => rfl
  | pointToPoint receiver messages =>
      dsimp only
      split <;> rfl

/-- Whether a producer looks at the sending queue next, waits for room, or is
done. -/
def Phase.isResting : Phase → Bool
  | .looking | .pausing _ | .ended _ => true
  | _ => false

namespace Campaign

theorem waits {production : Production} {producer : Producer}
    (waits : producer.step? production = none) :
    (∃ result, producer.phase = .ended result) ∨
      ∃ wakesAt, producer.phase = .pausing wakesAt ∧
        producer.node.stopped = false ∧ producer.node.now < wakesAt := by
  obtain ⟨node, next, phase⟩ := producer
  cases phase with
  | looking =>
      simp only [Producer.step?] at waits
      split at waits
      · contradiction
      · split at waits <;> contradiction
  | pausing wakesAt =>
      simp only [Producer.step?] at waits
      split at waits
      case isTrue => contradiction
      case isFalse running =>
          split at waits
          case isTrue early =>
              exact .inr ⟨wakesAt, rfl, by simpa using running, early⟩
          case isFalse => contradiction
  | admitted found =>
      simp only [Producer.step?] at waits
      split at waits <;> contradiction
  | stamping | announcing | counting => contradiction
  | relaying payload stage =>
      by_cases returned : ∃ answer, stage = .returned answer
      case pos =>
          obtain ⟨answer, rfl⟩ := returned
          cases answer <;> contradiction
      case neg =>
          obtain ⟨after, stepped⟩ := Stage.exists_step node payload returned
          have relays := @Producer.alone_of_stage production next payload
            (node, stage) after stepped
          rw [Producer.Alone, waits] at relays
          contradiction
  | posting payload receiver =>
      simp only [Producer.step?] at waits
      split at waits <;> contradiction
  | ended result => exact .inl ⟨result, rfl⟩

/-! ## Getting to the end -/

/-- Whether nothing keeps a producer from its whole workload. -/
structure Unhindered (production : Production) (node : Node) : Prop where
  running : node.stopped = false
  opened : ∀ receiver messages, production = .messagesTo receiver messages →
    node.sending.hasConsumer = true

theorem Unhindered.works {production : Production} {node after : Node}
    (unhindered : Unhindered production node)
    (works : Node.Works node after) : Unhindered production after := by
  constructor
  case running =>
    rw [works.node_eq]
    exact unhindered.running
  case opened =>
    intro receiver messages single
    exact works.sendingOpen.trans (unhindered.opened receiver messages single)

/-- A bound on the steps that are left to a producer that always finds room, if
its node has a number of peers: those for the message that it is about, and as
many for each further one as any can take. -/
def distance (peers : Nat) (production : Production) (producer : Producer) :
    Nat :=
  (production.count + 1 - producer.next) * (peers + 12) +
    match producer.phase with
    | .pausing _ => peers + 10
    | .looking => peers + 9
    | .admitted _ => peers + 8
    | .stamping _ => peers + 7
    | .announcing _ _ => peers + 6
    | .relaying _ stage => stage.work peers + 2
    | .posting _ _ => 2
    | .counting => 1
    | .ended _ => 0

/-- A campaign that goes on from another one, and has fewer steps left. -/
def Closer (peers : Nat) (production : Production) (campaign later : Campaign) :
    Prop :=
  Relation.ReflTransGen (Step production) campaign later ∧
    Unhindered production later.node ∧
    distance peers production later.producer <
      distance peers production campaign.producer

section Closer

variable {origin node : Node} {production : Production} {next peers : Nat}
  {phase : Phase} {begun : List Beginning} {handed : List Parcel}

theorem exists_closer_of_step {helped : Node} {after : Producer}
    (beside : Node.Beside node helped)
    (step : Producer.step? production ⟨helped, next, phase⟩ = some after)
    (unhindered : Unhindered production after.node)
    (fewer : distance peers production after <
      distance peers production ⟨node, next, phase⟩) :
    ∃ later, Closer peers production ⟨⟨node, next, phase⟩, begun, handed⟩
      later := by
  have others : Step production ⟨⟨node, next, phase⟩, begun, handed⟩
      ⟨⟨helped, next, phase⟩, begun, handed⟩ := .others beside
  exact ⟨_, .head others (.single (.own step)), unhindered, fewer⟩

theorem exists_closer_of_looking (unhindered : Unhindered production node) :
    ∃ later, Closer peers production ⟨⟨node, next, .looking⟩, begun, handed⟩
      later := by
  let drained : Node :=
    { node with sending := { node.sending with depth := 0 } }
  have beside : Node.Beside node drained := node.beside_queue _ id
  have free : Unhindered production drained :=
    ⟨unhindered.running, unhindered.opened⟩
  by_cases finished : production.count < next
  case pos =>
      have step : Producer.step? production ⟨drained, next, .looking⟩ =
          some ⟨drained, next, .ended .completed⟩ := if_pos finished
      refine exists_closer_of_step beside step free ?_
      simp only [distance]
      omega
  case neg =>
      have room : drained.hasRoom = true := decide_eq_true (Nat.zero_le _)
      have step : Producer.step? production ⟨drained, next, .looking⟩ =
          some ⟨drained, next, .admitted 0⟩ :=
        (if_neg finished).trans (if_pos room)
      refine exists_closer_of_step beside step free ?_
      simp only [distance]
      omega

theorem exists_closer_of_pausing {wakesAt : Nat}
    (unhindered : Unhindered production node) :
    ∃ later, Closer peers production
      ⟨⟨node, next, .pausing wakesAt⟩, begun, handed⟩ later := by
  let awake : Node := { node with now := wakesAt }
  have beside : Node.Beside node awake := ⟨rfl, .refl _, rfl, rfl, id, id, id⟩
  have free : Unhindered production awake :=
    ⟨unhindered.running, unhindered.opened⟩
  have step : Producer.step? production ⟨awake, next, .pausing wakesAt⟩ =
      some ⟨awake, next, .looking⟩ := by
    simp [Producer.step?, awake, unhindered.running, Producer.withPhase]
  refine exists_closer_of_step beside step free ?_
  simp only [distance]
  omega

theorem exists_closer_of_admitted {found : Nat}
    (unhindered : Unhindered production node) :
    ∃ later, Closer peers production
      ⟨⟨node, next, .admitted found⟩, begun, handed⟩ later := by
  have step : Producer.step? production ⟨node, next, .admitted found⟩ =
      some ⟨node, next, .stamping found⟩ := by
    simp [Producer.step?, unhindered.running, Producer.withPhase]
  refine exists_closer_of_step (.refl node) step unhindered ?_
  simp only [distance]
  omega

theorem exists_closer_of_announcing {found : Nat} {payload : Payload}
    (unhindered : Unhindered production node) :
    ∃ later, Closer peers production
      ⟨⟨node, next, .announcing found payload⟩, begun, handed⟩ later := by
  have free : Unhindered production (node.announce payload.content) :=
    ⟨unhindered.running, unhindered.opened⟩
  refine exists_closer_of_step (.refl node) rfl free ?_
  cases production with
  | broadcasts messages =>
      simp only [distance, Stage.work]
      omega
  | messagesTo receiver messages =>
      simp only [distance]
      omega

theorem exists_closer_of_relaying {payload : Payload} {stage : Stage}
    (unhindered : Unhindered production node)
    (peers_eq : (node.membership.peerIds node.me).length = peers) :
    ∃ later, Closer peers production
      ⟨⟨node, next, .relaying payload stage⟩, begun, handed⟩ later := by
  by_cases returned : ∃ answer, stage = .returned answer
  case pos =>
      obtain ⟨answer, rfl⟩ := returned
      cases answer with
      | error problem =>
          refine exists_closer_of_step (.refl node) rfl unhindered ?_
          simp only [distance, Producer.withPhase]
          omega
      | ok isFirst =>
          refine exists_closer_of_step (.refl node) rfl unhindered ?_
          simp only [distance, Producer.withPhase, Stage.work]
          omega
  case neg =>
      obtain ⟨⟨after, later⟩, stepped⟩ :=
        Stage.exists_step node payload returned
      have relays := @Producer.alone_of_stage production next payload
        (node, stage) (after, later) stepped
      have works := Node.works_of_stage stepped
      have fewer := Stage.work_lt_of_step stepped
      rw [peers_eq] at fewer
      refine exists_closer_of_step (.refl node) relays
        (unhindered.works works) ?_
      simp only [distance]
      omega

theorem exists_closer_of_posting {payload : Payload} {receiver : NodeId}
    (unhindered : Unhindered production node) :
    ∃ later, Closer peers production
      ⟨⟨node, next, .posting payload receiver⟩, begun, handed⟩ later := by
  cases sent : node.send payload receiver with
  | mk after outcome =>
      have free := unhindered.works (Node.works_of_send sent)
      cases outcome with
      | ok _ =>
          have step : Producer.step? production
              ⟨node, next, .posting payload receiver⟩ =
                some ⟨after, next, .counting⟩ := by
            simp [Producer.step?, sent]
          refine exists_closer_of_step (.refl node) step free ?_
          simp only [distance]
          omega
      | error problem =>
          have step : Producer.step? production
              ⟨node, next, .posting payload receiver⟩ =
                some ⟨after, next, .ended .completed⟩ := by
            simp [Producer.step?, sent]
          refine exists_closer_of_step (.refl node) step free ?_
          simp only [distance]
          omega

theorem exists_closer_of_counting (unhindered : Unhindered production node)
    (unfinished : next ≤ production.count) :
    ∃ later, Closer peers production
      ⟨⟨node, next, .counting⟩, begun, handed⟩ later := by
  have free : Unhindered production node.countEnqueued :=
    ⟨unhindered.running, unhindered.opened⟩
  refine exists_closer_of_step (.refl node) rfl free ?_
  have less : production.count + 1 - next =
      production.count + 1 - (next + 1) + 1 := by omega
  simp only [distance]
  rw [less, Nat.succ_mul]
  omega

/-- A producer that nothing hinders can always get closer to its end, if others
empty the sending queue for it and let time pass. -/
theorem Sound.exists_closer {campaign : Campaign}
    (sound : Sound origin production campaign)
    (unhindered : Unhindered production campaign.node)
    (unfinished : ∀ result, campaign.producer.phase ≠ .ended result) :
    ∃ later, Closer (origin.membership.peerIds origin.me).length production
      campaign later := by
  have based := sound.based
  have stands := sound.stands
  have next_eq := sound.next_eq
  obtain ⟨⟨node, next, phase⟩, begun, handed⟩ := campaign
  cases phase with
  | looking => exact exists_closer_of_looking unhindered
  | pausing wakesAt => exact exists_closer_of_pausing unhindered
  | admitted found => exact exists_closer_of_admitted unhindered
  | stamping found =>
      refine exists_closer_of_step (.refl node) rfl unhindered ?_
      simp only [distance, Producer.withPhase]
      omega
  | announcing found payload => exact exists_closer_of_announcing unhindered
  | relaying payload stage =>
      have me : node.me = origin.me := based.me_eq
      have membership : node.membership = origin.membership :=
        based.membership_eq
      exact exists_closer_of_relaying unhindered (by rw [me, membership])
  | posting payload receiver => exact exists_closer_of_posting unhindered
  | counting =>
      cases stands with
      | counting amid =>
          have more : node.enqueued.toNat < production.count := amid.unfinished
          have number : next = node.enqueued.toNat + 1 := next_eq
          exact exists_closer_of_counting unhindered (by omega)
  | ended result => exact absurd rfl (unfinished result)

/-- A producer that nothing hinders can get to the end of its workload. -/
theorem Sound.exists_completed {campaign : Campaign} (proper : origin.Proper)
    (sound : Sound origin production campaign)
    (unhindered : Unhindered production campaign.node) :
    ∃ later, Relation.ReflTransGen (Step production) campaign later ∧
      later.producer.phase = .ended .completed ∧
      later.node.enqueued.toNat = production.count := by
  induction steps : distance (origin.membership.peerIds origin.me).length
      production campaign.producer using Nat.strongRecOn
      generalizing campaign with
  | ind steps induction =>
      by_cases ended : ∃ result, campaign.producer.phase = .ended result
      case pos =>
          obtain ⟨result, phase⟩ := ended
          have stands := sound.stands
          rw [phase] at stands
          cases stands with
          | ended between reason =>
              rcases reason with whole | stopped
              · exact ⟨campaign, .refl, phase, whole⟩
              · rw [unhindered.running] at stopped
                contradiction
          | refused single amid closed =>
              rw [unhindered.opened _ _ single] at closed
              contradiction
      case neg =>
          obtain ⟨later, run, free, fewer⟩ := sound.exists_closer unhindered
            fun result phase => ended ⟨result, phase⟩
          rw [steps] at fewer
          obtain ⟨last, rest, phase, whole⟩ :=
            induction _ fewer (sound.steps proper run) free rfl
          exact ⟨last, run.trans rest, phase, whole⟩

end Closer

/-! ## What is done at any time -/

/-- What is known at any time of a producer that was started for the workload
of a node. -/
structure Orderly (origin : Node) (campaign : Campaign) : Prop where
  /-- The messages bear the numbers from 1 on, and these as contents. -/
  numbered : (campaign.begun.map fun beginning =>
      (beginning.payload.message, beginning.payload.content)) =
    (List.range' 1 campaign.begun.length).map (Campaign.numbered origin)
  room : ∀ beginning ∈ campaign.begun,
    beginning.found ≤ origin.settings.sendingChunk
  /-- Each has its line, in this order, as long as the log is open. -/
  written : ∃ lost, (campaign.begun.map (·.payload.content)) =
      OutputEvent.announced campaign.node.logged ++ lost ∧
    (campaign.node.output.isOpen = true → lost = [])
  /-- No parcel of them is handed over twice or out of turn. -/
  handed_once : campaign.handed.Sublist
    (parcels origin origin.production campaign.begun)
  /-- What is meant for one receiver is handed over and then counted. -/
  sent : ∀ receiver messages,
    origin.production = .messagesTo receiver messages →
      campaign.producer.phase.isResting = true →
        campaign.handed = parcels origin origin.production
          (campaign.begun.take campaign.node.enqueued.toNat)
  polled : campaign.producer.phase = .looking ∨
      (∃ wakesAt, campaign.producer.phase = .pausing wakesAt) →
    campaign.begun.length = campaign.node.enqueued.toNat
  within : campaign.node.enqueued ≤ origin.workload.originatedBy origin.me
  /-- It ends with its whole workload, or because of a stop, or with a message
  for its one receiver that the sending queue has refused. -/
  ended : ∀ result, campaign.producer.phase = .ended result →
    result = .completed ∧
      (campaign.begun.length = campaign.node.enqueued.toNat ∧
          (campaign.node.enqueued = origin.workload.originatedBy origin.me ∨
            campaign.node.stopped = true) ∨
        campaign.begun.length = campaign.node.enqueued.toNat + 1 ∧
          origin.workload.isBroadcast = false ∧
          campaign.node.sending.hasConsumer = false)
  waits : campaign.producer.step? origin.production = none →
    (∃ result, campaign.producer.phase = .ended result) ∨
      ∃ wakesAt, campaign.producer.phase = .pausing wakesAt ∧
        campaign.node.stopped = false ∧ campaign.node.now < wakesAt
  completes : Unhindered origin.production campaign.node →
    ∃ later, Relation.ReflTransGen (Step origin.production) campaign later ∧
      later.producer.phase = .ended .completed ∧
      later.node.enqueued = origin.workload.originatedBy origin.me

section Orderly

variable {origin node : Node} {production : Production} {phase : Phase}
  {begun : List Beginning} {handed ahead : List Parcel} {done : Nat}

theorem Hands.sublist
    (hands : Hands origin production begun handed ahead) :
    handed.Sublist (parcels origin production begun) := by
  have front := List.sublist_append_left handed ahead
  cases production with
  | broadcasts messages => exact front.trans hands
  | messagesTo receiver messages =>
      have same : handed ++ ahead = _ := hands
      rw [same] at front
      exact front

theorem Stands.hands
    (stands : Stands origin production done begun handed node phase) :
    ∃ ahead, Hands origin production begun handed ahead := by
  cases stands with
  | looking between | pausing between | ended between =>
      exact ⟨_, between.hands⟩
  | admitted admitted | stamping admitted | announcing admitted =>
      exact ⟨_, admitted.hands⟩
  | relaying _ amid | posting _ amid | counting amid | refused _ amid =>
      exact ⟨_, amid.hands⟩

theorem length_parcels {receiver : NodeId} {messages : UInt32}
    (begun : List Beginning) :
    (parcels origin (.messagesTo receiver messages) begun).length =
      begun.length := by
  simp [parcels, copies]

theorem Stands.handed_eq {receiver : NodeId} {messages : UInt32}
    (stands : Stands origin (.messagesTo receiver messages) done begun handed
      node phase)
    (resting : phase.isResting = true) :
    handed = parcels origin (.messagesTo receiver messages)
      (begun.take done) := by
  have whole (between : Between origin (.messagesTo receiver messages) done
      begun handed) : handed = parcels origin (.messagesTo receiver messages)
        (begun.take done) := by
    have same : handed ++ [] = _ := between.hands
    rw [List.append_nil] at same
    rw [← between.begun_eq, List.take_length]
    exact same
  cases stands with
  | looking between | pausing between | ended between => exact whole between
  | admitted | stamping | announcing | relaying | posting | counting =>
      contradiction
  | @refused parcel _ _ _ amid _ =>
      have same : handed ++ [parcel] = _ := amid.hands
      have length := congrArg List.length same
      rw [length_parcels, List.length_append, amid.begun_eq,
        List.length_singleton] at length
      have split : parcels origin (.messagesTo receiver messages) begun =
          parcels origin (.messagesTo receiver messages) (begun.take done) ++
          parcels origin (.messagesTo receiver messages)
            (begun.drop done) := by
        rw [parcels, parcels, parcels, ← List.flatMap_append,
          List.take_append_drop]
      rw [split] at same
      refine (List.append_inj same ?_).1
      rw [length_parcels, List.length_take, amid.begun_eq]
      omega

end Orderly

/-- A producer keeps to its order whatever the other loops of its node do. -/
theorem orderly_of_run {origin : Node} {campaign : Campaign}
    (proper : origin.Proper) (fresh : origin.enqueued = 0)
    (silent : OutputEvent.announced origin.logged = [])
    (run : Relation.ReflTransGen (Step origin.production) (start origin)
      campaign) :
    Orderly origin campaign := by
  have started : Sound origin origin.production (start origin) :=
    sound_start fresh silent
  have sound := started.steps proper run
  have count := origin.count_production
  constructor
  case numbered => exact sound.numbered
  case room => exact sound.found_le
  case written => exact sound.lines
  case handed_once =>
    obtain ⟨ahead, hands⟩ := sound.stands.hands
    exact hands.sublist
  case sent =>
    intro receiver messages single resting
    have stands := sound.stands
    rw [single] at stands ⊢
    exact stands.handed_eq resting
  case polled =>
    have stands := sound.stands
    rintro (looking | ⟨wakesAt, pausing⟩)
    · rw [looking] at stands
      cases stands with
      | looking between => exact between.begun_eq
    · rw [pausing] at stands
      cases stands with
      | pausing between => exact between.begun_eq
  case within =>
    rw [UInt32.le_iff_toNat_le, ← count]
    exact sound.within
  case ended =>
    intro result phase
    have stands := sound.stands
    rw [phase] at stands
    cases stands with
    | ended between reason =>
        rw [count] at reason
        exact ⟨rfl, .inl ⟨between.begun_eq,
          reason.imp_left UInt32.toNat_inj.mp⟩⟩
    | refused single amid closed =>
        refine ⟨rfl, .inr ⟨amid.begun_eq, ?_, closed⟩⟩
        unfold Node.production at single
        cases kind : origin.workload with
        | broadcast messages =>
            rw [kind] at single
            contradiction
        | pointToPoint receiver messages => rfl
  case waits => exact waits
  case completes =>
    intro unhindered
    obtain ⟨later, rest, ended, whole⟩ :=
      sound.exists_completed proper unhindered
    rw [count] at whole
    exact ⟨later, rest, ended, UInt32.toNat_inj.mp whole⟩

end Campaign

end CausalCast
