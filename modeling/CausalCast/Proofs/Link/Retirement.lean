import CausalCast.Proofs.Link.Journeys

/-!
# Retransmission stops

Once the recipient of a message is known to have seen it, the message retires:
the retransmitter never puts it back into the sending queue, since whatever it
looks at it drops.  So the message is transmitted at most once more, namely if
it was in the sending queue or in the sender's hand, and the count of data is
lowered for it once.  That what is known is never forgotten is what carries
this through a run.
-/

namespace CausalCast

/-- How many transmissions of a message on a leg can still begin if it is not
put back any more. -/
def Leg.departuresLeft : Leg → Nat
  | queued => 1
  | _ => 0

/-- How many transmissions of a message on a leg can still come to their end if
it is not put back any more. -/
def Leg.parkingsLeft : Leg → Nat
  | queued | flying => 1
  | _ => 0

theorem Leg.departuresLeft_le (leg : Leg) : leg.departuresLeft ≤ 1 := by
  cases leg <;> simp [departuresLeft]

theorem Leg.parkingsLeft_le (leg : Leg) : leg.parkingsLeft ≤ 1 := by
  cases leg <;> simp [parkingsLeft]

theorem Link.Ages.isAcknowledged {before after : Link}
    (ages : Link.Ages before after) {message : Message}
    (seen : before.node.isAcknowledged message = true) :
    after.node.isAcknowledged message = true :=
  ages.contains _ _ seen

namespace Journey

/-- Between two states of a journey the message was not put back, and it was
transmitted no more often than was left to it. -/
structure Retires (before after : Journey) : Prop where
  departures : before.departures <+: after.departures
  parkings : before.parkings <+: after.parkings
  returns_eq : after.returns = before.returns
  departures_le :
    after.departures.length + after.place.leg.departuresLeft ≤
      before.departures.length + before.place.leg.departuresLeft
  parkings_le :
    after.parkings.length + after.place.leg.parkingsLeft ≤
      before.parkings.length + before.place.leg.parkingsLeft

theorem Retires.refl (journey : Journey) : Retires journey journey :=
  ⟨List.prefix_rfl, List.prefix_rfl, rfl, Nat.le_refl _, Nat.le_refl _⟩

theorem Retires.trans {first second third : Journey}
    (left : Retires first second) (right : Retires second third) :
    Retires first third :=
  ⟨left.departures.trans right.departures, left.parkings.trans right.parkings,
    right.returns_eq.trans left.returns_eq,
    Nat.le_trans right.departures_le left.departures_le,
    Nat.le_trans right.parkings_le left.parkings_le⟩

theorem Move.retires {journey after : Journey} (move : Move journey after)
    (seen : journey.link.node.isAcknowledged journey.message = true) :
    Retires journey after := by
  cases move with
  | rest same leg =>
      obtain ⟨departures, parkings, returns⟩ := same
      refine ⟨departures ▸ List.prefix_rfl, parkings ▸ List.prefix_rfl, returns,
        ?_, ?_⟩
      · exact Nat.le_of_eq (by rw [departures, leg])
      · exact Nat.le_of_eq (by rw [parkings, leg])
  | depart _ leg eq =>
      rw [eq]
      refine ⟨List.prefix_append _ _, List.prefix_rfl, rfl, ?_, ?_⟩
      · rw [leg]
        simp [moved, Place.leg, Leg.departuresLeft]
      · rw [leg]
        exact Nat.le_refl _
  | abandon leg eq =>
      rw [eq]
      refine ⟨List.prefix_rfl, List.prefix_rfl, rfl, ?_, ?_⟩
      · exact Nat.le_add_right _ _
      · exact Nat.le_add_right _ _
  | park _ leg eq =>
      rw [eq]
      refine ⟨List.prefix_rfl, List.prefix_append _ _, rfl, ?_, ?_⟩
      · exact Nat.le_add_right _ _
      · rw [leg]
        simp [moved, Place.leg, Leg.parkingsLeft]
  | settle _ leg _ eq =>
      rw [eq]
      refine ⟨List.prefix_rfl, List.prefix_rfl, rfl, ?_, ?_⟩
      · exact Nat.le_add_right _ _
      · exact Nat.le_add_right _ _
  | requeue _ _ unseen =>
      rw [seen] at unseen
      contradiction

theorem Sound.retires {pace : Link → Prop} {now later : Journey}
    (sound : now.Sound)
    (seen : now.link.node.isAcknowledged now.message = true)
    (steps : Relation.ReflTransGen (Step pace) now later) :
    Retires now later ∧
      later.link.node.isAcknowledged later.message = true := by
  induction steps with
  | refl => exact ⟨.refl now, seen⟩
  | tail earlier step induction =>
      obtain ⟨retires, known⟩ := induction
      have middle := sound.steps earlier
      refine ⟨retires.trans ((middle.move step).retires known), ?_⟩
      rw [step.message_eq]
      exact (step.link.ages middle.proper).isAcknowledged known

theorem settling_of_isLookedAt {journey : Journey} {message : Message}
    (looked : journey.isLookedAt = true)
    (found : journey.link.at? journey.place = some message)
    (seen : journey.link.node.isAcknowledged message = true) :
    journey.link.settling = [message] := by
  unfold isLookedAt at looked
  split at looked
  case h_1 place =>
      rw [place] at found
      have holding : journey.link.held = some message := found
      simp [Link.settling, holding, seen]
  case h_2 place =>
      rw [place] at found
      have empty : journey.link.held = none := by simpa using looked
      have first : journey.link.node.retransmissions.toList.head? =
          some message := by
        rw [List.head?_eq_getElem?]
        exact found
      simp [Link.settling, empty, first, seen]
  case h_3 => contradiction

/-- What the retransmitter looks at once its recipient is known to have seen it
leaves the link, and the count of data is lowered for it. -/
theorem Sound.settles {journey : Journey} {after : Link}
    (sound : journey.Sound)
    (known : journey.link.node.isAcknowledged journey.message = true)
    (looked : journey.isLookedAt = true)
    (step : journey.link.stepRetransmitter = some after) :
    ∃ dropped, journey.link.at? journey.place = some dropped ∧
      journey.link.pipeline.Perm (dropped :: after.pipeline) ∧
      after.node.unacked + 1 = journey.link.node.unacked := by
  have underWay : journey.isOver = false := by
    rw [isOver, leg_of_isLookedAt looked]
    rfl
  obtain ⟨message, found, alike⟩ := sound.carries.exists_found underWay
  have data : message.isData = true := alike.isData_eq.trans sound.data
  have positive := unacked_pos_of_found sound.counted found data
  have seen := alike.isAcknowledged_eq.trans known
  have settling := settling_of_isLookedAt looked found seen
  cases (Link.retransmitterMove_of_stepRetransmitter step).exchange with
  | settle settled pipeline settling_eq _ unacked_eq =>
      rw [settling_eq] at settling
      obtain rfl := List.singleton_inj.mp settling
      refine ⟨settled, found, pipeline, ?_⟩
      rw [unacked_eq]
      exact Nat.sub_add_cancel positive
  | keep _ settling_eq =>
      rw [settling_eq] at settling
      contradiction

/-- Follow any data message that a link holds, from any moment on and through
any steps; it is always where the journey says.  Once its recipient is known to
have seen it, at most one more transmission of it begins, and at most one more
comes to its end; none does if the message was then in the retransmission queue
or in the retransmitter's hand.  It is not put back into the sending queue any
more, and the next time the retransmitter looks at it, it leaves the link and
the count of data is lowered by one.  Over the whole journey the count is
lowered for the message once if it has left the link, and not at all as long as
it has not. -/
theorem settled_once_seen {pace : Link → Prop} {origin : Link}
    {start now later : Journey} (fresh : origin.Fresh)
    (begins : start.Begins pace origin)
    (before : Relation.ReflTransGen (Step pace) start now)
    (seen : now.link.node.isAcknowledged start.message = true)
    (steps : Relation.ReflTransGen (Step pace) now later) :
    later.Carries ∧ later.message = start.message ∧
    later.departures.length ≤ now.departures.length + 1 ∧
    later.parkings.length ≤ now.parkings.length + 1 ∧
    (now.place.leg = .waiting →
      later.departures = now.departures ∧ later.parkings = now.parkings) ∧
    later.returns = now.returns ∧
    (∀ after, later.link.stepRetransmitter = some after →
      later.isLookedAt = true →
        (later.viaRetransmitter after).place =
            .settled later.link.node.now ∧
        ∃ dropped, later.link.at? later.place = some dropped ∧
          later.link.pipeline.Perm (dropped :: after.pipeline) ∧
          after.node.unacked + 1 = later.link.node.unacked) ∧
    later.discounted = (if later.isOver then 1 else 0) := by
  have soundNow := (begins.sound fresh).steps before
  have sound := soundNow.steps steps
  have same := (message_of_steps steps).trans (message_of_steps before)
  rw [← message_of_steps before] at seen
  obtain ⟨retires, known⟩ := soundNow.retires seen steps
  have departures := retires.departures_le
  have parkings := retires.parkings_le
  have departuresLeft := now.place.leg.departuresLeft_le
  have parkingsLeft := now.place.leg.parkingsLeft_le
  refine ⟨sound.carries, same, by omega, by omega, ?_, retires.returns_eq, ?_,
    sound.discounted_eq⟩
  · intro waiting
    rw [waiting] at departures parkings
    constructor
    · refine (retires.departures.eq_of_length_le ?_).symm
      exact Nat.le_of_add_right_le departures
    · refine (retires.parkings.eq_of_length_le ?_).symm
      exact Nat.le_of_add_right_le parkings
  · intro after step looked
    have settled : later.viaRetransmitter after =
        later.moved after (.settled later.link.node.now) :=
      viaRetransmitter_of_seen looked known
    exact ⟨congrArg Journey.place settled, sound.settles known looked step⟩

/-- The other member's own relay is heard before the message is sent, so the
message is transmitted once and then dropped. -/
theorem settled_once_seen_of_pair :
    ∃ (origin : Link) (start now later : Journey), origin.Fresh ∧
      start.Begins (fun _ => True) origin ∧
      Relation.ReflTransGen (Step fun _ => True) start now ∧
      now.link.node.isAcknowledged start.message = true ∧
      Relation.ReflTransGen (Step fun _ => True) now later ∧
      later.departures = [0] ∧ later.parkings = [0] ∧
      later.isLookedAt = true ∧
      ∃ after, later.link.stepRetransmitter = some after ∧
        (later.viaRetransmitter after).place = .settled 0 ∧
        after.node.unacked + 1 = later.link.node.unacked := by
  obtain ⟨node, created⟩ : ∃ node, Node.create 1 .pair (.empty 3)
      (.broadcast 1) {} = .ok node := ⟨_, rfl⟩
  let payload := Payload.data 1 1 [49] 3
  let origin := Link.idle (Station.new node)
  let sent := origin.withNode (origin.node.send payload 2).1
  let start : Journey :=
    ⟨sent, Message.new payload 2 0, .queued 0, [], [], [], 0⟩
  let heard := sent.withNode (sent.node.witnessed 2 payload)
  let now := start.passed heard (.queued 0)
  have fresh : origin.Fresh :=
    ⟨1, .pair, .empty 3, .broadcast 1, {}, created, rfl, rfl⟩
  obtain rfl := Except.ok.inj created
  have begins : start.Begins (fun _ => True) origin :=
    ⟨.single (.stir (.send payload 2)), rfl, rfl, rfl, rfl, rfl, rfl⟩
  have before : Relation.ReflTransGen (Step fun _ => True) start now :=
    .single (.stir (.hear (Node.insert_of_valid sent.node 2 payload rfl)))
  have seen : now.link.node.isAcknowledged start.message = true := by
    apply (Tracker.contains_record_iff _ _ _ _ _).mpr
    exact .inl ⟨rfl, rfl⟩
  obtain ⟨flying, depart, landed, land, departures, parkings, looked, now_eq,
      running, empty, message, waiting⟩ :
      ∃ flying, heard.stepSender [] = some flying ∧
        ∃ landed, flying.1.stepSender [] = some landed ∧
          ((now.viaSender flying.1).viaSender landed.1).departures = [0] ∧
          ((now.viaSender flying.1).viaSender landed.1).parkings = [0] ∧
          ((now.viaSender flying.1).viaSender landed.1).isLookedAt = true ∧
          landed.1.node.now = 0 ∧ landed.1.node.stopped = false ∧
          landed.1.held = none ∧
          ∃ message, landed.1.node.retransmissions.toList = [message] :=
    ⟨_, rfl, _, rfl, rfl, rfl, rfl, rfl, rfl, rfl, _, rfl⟩
  let later := (now.viaSender flying.1).viaSender landed.1
  have first : Step (fun _ => True) now (now.viaSender flying.1) :=
    .sender depart
  have second : Step (fun _ => True) (now.viaSender flying.1) later := by
    apply Step.sender
    rw [link_viaSender]
    exact land
  have steps := (Relation.ReflTransGen.single first).tail second
  obtain ⟨after, step⟩ :=
    Link.exists_stepRetransmitter_of_waiting running empty waiting
  have stepLater : later.link.stepRetransmitter = some after := by
    rw [link_viaSender]
    exact step
  obtain ⟨_, _, _, _, _, _, settles, _⟩ :=
    settled_once_seen fresh begins before seen steps
  obtain ⟨place, _, _, _, unacked⟩ := settles after stepLater looked
  rw [link_viaSender, now_eq] at place
  exact ⟨origin, start, now, later, fresh, begins, before, seen, steps,
    departures, parkings, looked, after, stepLater, place, unacked⟩

end Journey

end CausalCast
