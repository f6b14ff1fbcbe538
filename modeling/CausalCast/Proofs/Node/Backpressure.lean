import CausalCast.Proofs.Node.Listening
import CausalCast.Proofs.Node.Relays
import CausalCast.Proofs.Node.Workload

/-!
# How far a producer gets alone

Nobody empties the sending queue of a station on which only a producer runs.
Every message adds the same number of parcels to it, and the producer looks at
the queue before each, so it stops with the first message that takes the queue
above the chunk size.
-/

namespace CausalCast

namespace Node

theorem depth_sendAll {node : Node} (opened : node.sending.hasConsumer = true)
    (parcels : List Parcel) :
    (node.sendAll parcels).sending.depth =
      node.sending.depth + parcels.length := by
  induction parcels generalizing node with
  | nil => rfl
  | cons parcel rest induction =>
      have sent : (node.send parcel.payload parcel.recipient).1.sending.depth =
          node.sending.depth + 1 ∧
        (node.send parcel.payload parcel.recipient).1.sending.hasConsumer =
          true := by
        unfold send post countUnacked
        cases parcel.payload.isAck <;>
          simp [Queue.enqueue, Queue.handOver?, Queue.announce, opened]
      rw [sendAll, induction sent.2, sent.1, List.length_cons]
      omega

/-- How many parcels a message of a production is. -/
def parcelCount (node : Node) : Production → Nat
  | .broadcasts _ => (node.membership.peerIds node.me).length
  | .messagesTo _ _ => 1

/-- A node on which a producer has made a number of messages, and nobody else
has done anything. -/
structure Filled (origin : Node) (production : Production) (made : Nat)
    (node : Node) : Prop where
  proper : node.Proper
  me_eq : node.me = origin.me
  membership_eq : node.membership = origin.membership
  settings_eq : node.settings = origin.settings
  enqueued_eq : node.enqueued.toNat = made
  depth_eq : node.sending.depth = made * origin.parcelCount production
  unseen : ∀ uid : UInt32, made < uid.toNat →
    node.tracker.contains node.me ⟨node.me, uid⟩ = false

namespace Filled

variable {origin node : Node} {production : Production} {made : Nat}

/-- A message is made by recording something of it, handing its parcels over
and counting it. -/
theorem next {recorded : Node} {parcels : List Parcel}
    (filled : Filled origin production made node)
    (unfinished : made < production.count) (proper : recorded.Proper)
    (same : recorded =
      { node with
        tracker := recorded.tracker
        output := recorded.output })
    (unseen : ∀ uid : UInt32, made + 1 < uid.toNat →
      recorded.tracker.contains node.me ⟨node.me, uid⟩ = false)
    (length : parcels.length = origin.parcelCount production) :
    Filled origin production (made + 1)
      (recorded.sendAll parcels).countEnqueued := by
  have only := queuesOnly_sendAll proper.sendingOpen parcels
  have sent := proper.sendAll parcels
  have me : recorded.me = node.me := by rw [same]
  constructor
  case proper =>
    exact ⟨sent.me_eq, sent.nodeCount_eq, sent.member, sent.length_clock,
      sent.sendingOpen, sent.retransmissionsOpen, sent.outputOpen, sent.running⟩
  case me_eq =>
    change (recorded.sendAll parcels).me = origin.me
    rw [only.me_eq, me, filled.me_eq]
  case membership_eq =>
    change (recorded.sendAll parcels).membership = origin.membership
    rw [only.membership_eq, same, filled.membership_eq]
  case settings_eq =>
    change (recorded.sendAll parcels).settings = origin.settings
    rw [only.settings_eq, same, filled.settings_eq]
  case enqueued_eq =>
    have enqueued : (recorded.sendAll parcels).enqueued = node.enqueued := by
      rw [only.enqueued_eq, same]
    have room : (recorded.sendAll parcels).enqueued.toNat <
        production.count := by
      rw [enqueued, filled.enqueued_eq]
      exact unfinished
    rw [Campaign.toNat_enqueued_countEnqueued room, enqueued,
      filled.enqueued_eq]
  case depth_eq =>
    change (recorded.sendAll parcels).sending.depth = _
    rw [depth_sendAll proper.sendingOpen, same, length, Nat.succ_mul]
    exact congrArg (· + _) filled.depth_eq
  case unseen =>
    intro uid above
    change (recorded.sendAll parcels).tracker.contains
      (recorded.sendAll parcels).me ⟨(recorded.sendAll parcels).me, uid⟩ = false
    rw [only.tracker_eq, only.me_eq, me]
    exact unseen uid above

theorem originate {messages : UInt32}
    (filled : Filled origin (.broadcasts messages) made node)
    (unfinished : made < messages.toNat) :
    ∃ after, node.produceOne (.broadcasts messages) (UInt32.ofNat (made + 1)) =
        (after, none) ∧
      Filled origin (.broadcasts messages) (made + 1) after := by
  let uid := UInt32.ofNat (made + 1)
  let payload := node.firstCopy uid (numberedContent uid)
  let recorded := (node.announce (numberedContent uid)).witnessed node.me payload
  have number : uid.toNat = made + 1 := by
    have bound : made + 1 < UInt32.size :=
      Nat.lt_of_le_of_lt unfinished messages.toNat_lt
    exact UInt32.toNat_ofNat_of_lt' bound
  have fresh : node.tracker.wasSeen payload = false := by
    rw [Tracker.wasSeen, filled.proper.me_eq]
    exact filled.unseen uid (by omega)
  have relays : (node.relays payload).length =
      origin.parcelCount (.broadcasts messages) := by
    rw [Node.relays, fresh, if_neg Bool.false_ne_true, List.length_map,
      filled.membership_eq, filled.me_eq]
    rfl
  have unseen : ∀ later : UInt32, made + 1 < later.toNat →
      recorded.tracker.contains node.me ⟨node.me, later⟩ = false := by
    intro later above
    rw [← Bool.not_eq_true, tracker_witnessed, Tracker.contains_record_iff]
    rintro (⟨_, same⟩ | known)
    · have uids := congrArg UInt32.toNat (congrArg MessageId.uid same)
      change later.toNat = uid.toNat at uids
      omega
    · have nothing := filled.unseen later (by omega)
      exact absurd (nothing.symm.trans known) Bool.false_ne_true
  have proper : recorded.Proper :=
    (filled.proper.announce (numberedContent uid)).witnessed node.me payload
  refine ⟨(recorded.sendAll (node.relays payload)).countEnqueued, ?_,
    filled.next unfinished proper rfl unseen relays⟩
  simp only [Node.produceOne, originate_eq filled.proper]
  rfl

theorem send {receiver : NodeId} {messages : UInt32}
    (filled : Filled origin (.messagesTo receiver messages) made node)
    (unfinished : made < messages.toNat) :
    ∃ after, node.produceOne (.messagesTo receiver messages)
        (UInt32.ofNat (made + 1)) = (after, none) ∧
      Filled origin (.messagesTo receiver messages) (made + 1) after := by
  refine ⟨_, produceOne_messagesTo filled.proper.sendingOpen receiver messages
    (UInt32.ofNat (made + 1)), ?_⟩
  exact filled.next unfinished (filled.proper.announce _) rfl
    (fun uid above => filled.unseen uid (by omega)) rfl

theorem produceOne (filled : Filled origin production made node)
    (unfinished : made < production.count) :
    ∃ after, node.produceOne production (UInt32.ofNat (made + 1)) =
        (after, none) ∧
      Filled origin production (made + 1) after := by
  cases production with
  | broadcasts messages => exact filled.originate unfinished
  | messagesTo receiver messages => exact filled.send unfinished

theorem hasRoom_iff (filled : Filled origin production made node)
    (positive : 0 < origin.parcelCount production) :
    node.hasRoom = true ↔
      made < origin.settings.sendingChunk / origin.parcelCount production + 1 := by
  rw [hasRoom, decide_eq_true_iff, filled.depth_eq, filled.settings_eq,
    ← Nat.le_div_iff_mul_le positive]
  exact Nat.lt_succ_iff.symm

end Filled

/-- How many messages a producer makes if nobody empties the sending queue. -/
def aloneLimit (origin : Node) (production : Production) : Nat :=
  min production.count
    (origin.settings.sendingChunk / origin.parcelCount production + 1)

/-- A node whose producer has made what it can make alone, and pauses or has
ended. -/
structure Rests (origin : Node) (production : Production) (node : Node)
    (state : LoopState) : Prop where
  filled : Filled origin production (origin.aloneLimit production) node
  state_eq : (origin.aloneLimit production < production.count ∧
      ∃ time, state =
        .producing production (origin.aloneLimit production + 1) (some time)) ∨
    state = .ended .completed

end Node

namespace Station

open Node (Filled Rests)

theorem closeLoop_workload (station : Station) :
    station.closeLoop .workload .completed = station := by
  simp [closeLoop]

variable {origin : Node} {production : Production} {station : Station}

theorem stepProducer_of_early {next time : Nat}
    (running : station.node.stopped = false)
    (unfinished : next ≤ production.count) (early : station.node.now < time) :
    station.stepProducer production next (some time) = none := by
  have more := Nat.not_lt_of_le unfinished
  simp [stepProducer, more, running, early]

theorem stepProducer_of_full {next : Nat} {pausedUntil : Option Nat}
    (running : station.node.stopped = false)
    (unfinished : next ≤ production.count)
    (due : pausedUntil.any (station.node.now < ·) = false)
    (full : station.node.hasRoom = false) :
    station.stepProducer production next pausedUntil =
      some (station, .producing production next
        (some (station.node.now + Node.throttlePause))) := by
  have more := Nat.not_lt_of_le unfinished
  simp [stepProducer, more, running, due, full]

theorem stepProducer_of_room {next : Nat} {after : Node}
    (running : station.node.stopped = false)
    (unfinished : next ≤ production.count)
    (room : station.node.hasRoom = true)
    (made : station.node.produceOne production (UInt32.ofNat next) =
      (after, none)) :
    station.stepProducer production next none =
      some ({ station with node := after },
        .producing production (next + 1) none) := by
  have more := Nat.not_lt_of_le unfinished
  simp [stepProducer, more, running, room, made]

/-- Where there is no room, a producer looks once and then waits. -/
theorem runLoop_of_full {next steps : Nat} {pausedUntil : Option Nat}
    (running : station.node.stopped = false)
    (unfinished : next ≤ production.count)
    (due : pausedUntil.any (station.node.now < ·) = false)
    (full : station.node.hasRoom = false) (two : 2 ≤ steps) :
    station.runLoop .workload (.producing production next pausedUntil) steps =
      (station, .producing production next
        (some (station.node.now + Node.throttlePause)), true) := by
  obtain ⟨rest, rfl⟩ : ∃ rest, steps = rest + 2 :=
    ⟨steps - 2, (Nat.sub_add_cancel two).symm⟩
  have pauses := stepProducer_of_full running unfinished due full
  have waits : station.stepProducer production next
      (some (station.node.now + Node.throttlePause)) = none :=
    stepProducer_of_early running unfinished
      (Nat.lt_add_of_pos_right (by decide))
  simp [runLoop, stepLoop, pauses, LoopState.result?, waits]

theorem hasRoom_of_limit (positive : 0 < origin.parcelCount production)
    (filled : Filled origin production (origin.aloneLimit production)
      station.node)
    (unfinished : origin.aloneLimit production < production.count) :
    station.node.hasRoom = false := by
  rw [← Bool.not_eq_true, filled.hasRoom_iff positive]
  unfold Node.aloneLimit at unfinished ⊢
  omega

/-- A producer that has come to rest looks again from time to time, and finds
what it found before. -/
theorem runLoop_of_rests {state : LoopState}
    (positive : 0 < origin.parcelCount production)
    (rests : Rests origin production station.node state) :
    ∃ later moved, station.runLoop .workload state (station.stepBound state) =
        (station, later, moved) ∧
      Rests origin production station.node later := by
  have running := rests.filled.proper.running
  rcases rests.state_eq with ⟨unfinished, time, rfl⟩ | rfl
  · by_cases early : station.node.now < time
    case pos =>
        have waits := stepProducer_of_early running unfinished early
        refine ⟨_, false, ?_, rests⟩
        simp [stepBound, runLoop, stepLoop, waits]
    case neg =>
        have full := hasRoom_of_limit positive rests.filled unfinished
        have two : 2 ≤ station.stepBound (.producing production
            (origin.aloneLimit production + 1) (some time)) := by
          simp only [stepBound]
          omega
        exact ⟨_, true, runLoop_of_full running unfinished (by simp [early])
          full two, rests.filled, .inl ⟨unfinished, _, rfl⟩⟩
  · exact ⟨_, false, runLoop_ended station .workload .completed _, rests⟩

theorem runLoop_of_filled {made steps : Nat}
    (positive : 0 < origin.parcelCount production)
    (filled : Filled origin production made station.node)
    (within : made ≤ origin.aloneLimit production)
    (enough : origin.aloneLimit production + 2 ≤ made + steps) :
    ∃ node state moved,
      station.runLoop .workload (.producing production (made + 1) none) steps =
        ({ station with node := node }, state, moved) ∧
        Rests origin production node state := by
  induction steps generalizing station made with
  | zero => omega
  | succ steps induction =>
      have running := filled.proper.running
      rcases Nat.lt_or_eq_of_le within with more | rfl
      · have unfinished : made < production.count :=
          Nat.lt_of_lt_of_le more (Nat.min_le_left _ _)
        have room : station.node.hasRoom = true :=
          (filled.hasRoom_iff positive).mpr
            (Nat.lt_of_lt_of_le more (Nat.min_le_right _ _))
        obtain ⟨after, produced, further⟩ := filled.produceOne unfinished
        have step := stepProducer_of_room running unfinished room produced
        obtain ⟨node, state, moved, run, rests⟩ :=
          @induction { station with node := after } (made + 1) further more
            (by omega)
        refine ⟨node, state, true, ?_, rests⟩
        simp [runLoop, stepLoop, step, LoopState.result?, run]
      · rcases Nat.lt_or_eq_of_le (Nat.min_le_left production.count _ :
          origin.aloneLimit production ≤ production.count) with more | whole
        · have full := hasRoom_of_limit positive filled more
          exact ⟨station.node, _, true,
            runLoop_of_full running more rfl full (by omega), filled,
            .inl ⟨more, _, rfl⟩⟩
        · have finished : production.count < origin.aloneLimit production + 1 :=
            whole ▸ Nat.lt_succ_self _
          have step : station.stepProducer production
              (origin.aloneLimit production + 1) none =
                some (station, .ended .completed) := by
            simp [stepProducer, finished]
          refine ⟨station.node, .ended .completed, true, ?_, filled, .inr rfl⟩
          simp [runLoop, stepLoop, step, LoopState.result?, closeLoop_workload,
            runLoop_ended]

/-! ## Settling -/

/-- A station whose only loop is a producer that has come to rest. -/
def Idles (origin : Node) (production : Production) (station : Station) :
    Prop :=
  ∃ state, station.loops = [⟨.workload, state⟩] ∧
    Rests origin production station.node state

theorem runLoops_singleton {final : Station} {state last : LoopState}
    {moved : Bool}
    (run : station.runLoop .workload state (station.stepBound state) =
      (final, last, moved)) :
    station.runLoops [⟨.workload, state⟩] =
      (final, [⟨.workload, last⟩], moved) := by
  simp [runLoops, run]

theorem idles_settleRounds (positive : 0 < origin.parcelCount production)
    (idles : Idles origin production station) (rounds : Nat) :
    Idles origin production (station.settleRounds rounds) := by
  induction rounds generalizing station with
  | zero => exact idles
  | succ rounds induction =>
      obtain ⟨state, loops, rests⟩ := idles
      obtain ⟨later, moved, run, still⟩ := runLoop_of_rests positive rests
      have next : Idles origin production
          { station with loops := [⟨.workload, later⟩] } := ⟨later, rfl, still⟩
      rw [settleRounds, loops, runLoops_singleton run]
      dsimp only
      split
      · exact induction next
      · exact next

theorem idles_tick (idles : Idles origin production station) :
    Idles origin production station.tick := by
  obtain ⟨state, loops, rests⟩ := idles
  have filled := rests.filled
  have proper := filled.proper
  refine ⟨state, loops, ⟨⟨proper.me_eq, proper.nodeCount_eq, proper.member,
    proper.length_clock, proper.sendingOpen, proper.retransmissionsOpen,
    proper.outputOpen, proper.running⟩, filled.me_eq, filled.membership_eq,
    filled.settings_eq, filled.enqueued_eq, filled.depth_eq, filled.unseen⟩,
    rests.state_eq⟩

theorem idles_advance (positive : 0 < origin.parcelCount production)
    (idles : Idles origin production station) (milliseconds : Nat) :
    Idles origin production (station.advance milliseconds) := by
  induction milliseconds generalizing station with
  | zero => exact idles
  | succ milliseconds induction =>
      exact induction (idles_settleRounds positive (idles_tick idles) _)

/-- A station on which only a producer is started settles when the producer has
come to rest. -/
theorem idles_settle {node : Node}
    (positive : 0 < node.parcelCount node.production)
    (filled : Filled node node.production 0 node) :
    Idles node node.production ((new node).start .workload).settle := by
  let started : Station := (new node).start .workload
  have bound : node.aloneLimit node.production + 2 ≤ 0 +
      started.stepBound (.producing node.production 1 none) := by
    have limit := Nat.min_le_left node.production.count
      (node.settings.sendingChunk / node.parcelCount node.production + 1)
    simp only [stepBound, Node.aloneLimit]
    omega
  obtain ⟨after, state, moved, run, rests⟩ :=
    @runLoop_of_filled node node.production started 0 _ positive filled
      (Nat.zero_le _) bound
  have next : Idles node node.production
      { started with
        node := after
        loops := [⟨.workload, state⟩] } := ⟨state, rfl, rests⟩
  have loops : started.loops =
      [⟨.workload, .producing node.production 1 none⟩] := rfl
  change Idles node node.production (started.settleRounds (7 + 1))
  rw [settleRounds, loops, runLoops_singleton run]
  dsimp only
  split
  · exact idles_settleRounds positive next 7
  · exact next

end Station

namespace Node

variable {me : NodeId} {membership : Membership} {graph : CausalityGraph}
  {workload : Workload} {settings : LinkSettings} {node : Node}

theorem filled_of_create
    (created : create me membership graph workload settings = .ok node) :
    Filled node node.production 0 node ∧ node.enqueued = 0 ∧
      OutputEvent.announced node.logged = [] ∧ node.settings = settings := by
  have proper := proper_of_create created
  obtain ⟨_, _, _, _, _, unseen⟩ := parts_of_create created
  have fresh : node.enqueued = 0 ∧ node.sending.depth = 0 ∧
      OutputEvent.announced node.logged = [] ∧ node.settings = settings := by
    unfold create at created
    split at created
    · contradiction
    · split at created
      · contradiction
      · obtain rfl := Except.ok.inj created
        exact ⟨rfl, rfl, rfl, rfl⟩
  obtain ⟨enqueued, depth, silent, settings_eq⟩ := fresh
  refine ⟨⟨proper, rfl, rfl, rfl, ?_, ?_, fun _ _ => unseen _ _⟩, enqueued,
    silent, settings_eq⟩
  · rw [enqueued]
    rfl
  · rw [depth, Nat.zero_mul]

/-- What a producer gets done on a fresh node of which nothing else runs. -/
theorem enqueued_alone
    (created : create me membership graph workload settings = .ok node)
    (positive : 0 < node.parcelCount node.production) (milliseconds : Nat) :
    (((Station.new node).start .workload).settle.advance
        milliseconds).node.enqueued.toNat =
      node.aloneLimit node.production := by
  obtain ⟨filled, _⟩ := filled_of_create created
  obtain ⟨state, _, rests⟩ := Station.idles_advance positive
    (Station.idles_settle positive filled) milliseconds
  exact rests.filled.enqueued_eq

end Node

end CausalCast
