import CausalCast.Proofs.Tracker.Tables

/-!
# What recording a witness does

However a cascade runs, it comes down to a sequence of single releases, each
of a message that is ready when its turn comes.  `Releases` is that sequence,
and `Recording` lists the four things that can come of a payload under the
causal policy.  What every single release preserves is thereby preserved by
every recording.
-/

namespace CausalCast

namespace Tracker

/-- One message after another is released, each being ready when its turn
comes. -/
inductive Releases : Tracker → List Payload → Tracker → Prop where
  | done (tracker : Tracker) : Releases tracker [] tracker
  | next {tracker final : Tracker} {owner : NodeId} {payload : Payload}
      {rest : List Payload} :
      tracker.ready? owner = some payload →
      Releases (tracker.releaseFrontier owner) rest final →
      Releases tracker (payload :: rest) final

theorem Releases.append {first second third : Tracker}
    {early late : List Payload} (left : Releases first early second)
    (right : Releases second late third) :
    Releases first (early ++ late) third := by
  induction left with
  | done => exact right
  | next ready _ induction => exact .next ready (induction right)

theorem Releases.split {before after : Tracker} {early late : List Payload}
    {payload : Payload}
    (releases : Releases before (early ++ payload :: late) after) :
    ∃ (moment : Tracker) (owner : NodeId), Releases before early moment ∧
      moment.ready? owner = some payload ∧
        Releases (moment.releaseFrontier owner) late after := by
  induction early generalizing before with
  | nil =>
      cases releases with
      | next ready rest => exact ⟨before, _, .done before, ready, rest⟩
  | cons first early induction =>
      cases releases with
      | next ready rest =>
          obtain ⟨moment, owner, reached, poised, left⟩ := induction rest
          exact ⟨moment, owner, .next ready reached, poised, left⟩

theorem releases_advance (tracker : Tracker) (owner : NodeId) :
    Releases tracker (tracker.advance owner).2 (tracker.advance owner).1 := by
  fun_induction advance tracker owner with
  | case1 tracker => exact .done tracker
  | case2 tracker payload ready final released step induction =>
      rw [step] at induction
      exact .next ready induction

theorem releases_cascade (tracker : Tracker) (pending : List NodeId) :
    Releases tracker (tracker.cascade pending).2 (tracker.cascade pending).1 := by
  fun_induction cascade tracker pending with
  | case1 tracker => exact .done tracker
  | case2 tracker owner rest after step induction =>
      have advanced := releases_advance tracker owner
      rw [step] at advanced
      exact advanced.append induction
  | case3 tracker owner rest after first more step final released tail
      induction =>
      have advanced := releases_advance tracker owner
      rw [step] at advanced
      rw [tail] at induction
      exact advanced.append induction

theorem Releases.sameSetup {before after : Tracker} {released : List Payload}
    (releases : Releases before released after) : SameSetup before after := by
  induction releases with
  | done => exact .refl _
  | next _ _ induction => exact (sameSetup_releaseFrontier _ _).trans induction

theorem Releases.witnesses_eq {before after : Tracker}
    {released : List Payload} (releases : Releases before released after) :
    after.witnesses = before.witnesses := by
  induction releases with
  | done => rfl
  | next _ _ induction => exact induction

theorem Releases.length_clock_eq {before after : Tracker}
    {released : List Payload} (releases : Releases before released after) :
    after.clock.length = before.clock.length := by
  induction releases with
  | done => rfl
  | next _ _ induction => simpa using induction

theorem Releases.staged_of_staged {before after : Tracker}
    {released : List Payload} (releases : Releases before released after)
    {message : MessageId} {payload : Payload}
    (staged : after.staged[message]? = some payload) :
    before.staged[message]? = some payload := by
  induction releases with
  | done => exact staged
  | next _ _ induction =>
      have earlier := induction staged
      rw [staged_releaseFrontier] at earlier
      split at earlier
      · contradiction
      · exact earlier

/-- Every released payload was staged before the first release. -/
theorem Releases.staged_of_mem {before after : Tracker}
    {released : List Payload} (releases : Releases before released after)
    {payload : Payload} (member : payload ∈ released) :
    ∃ message : MessageId, before.staged[message]? = some payload := by
  induction releases with
  | done => contradiction
  | @next tracker final owner first rest ready tail induction =>
      rcases List.mem_cons.mp member with rfl | later
      · exact ⟨tracker.frontierMessage owner, staged_of_ready? ready⟩
      · obtain ⟨message, staged⟩ := induction later
        rw [staged_releaseFrontier] at staged
        split at staged
        · contradiction
        · exact ⟨message, staged⟩

theorem staged_of_staged_sight {tracker : Tracker} {sender : NodeId}
    {payload staged : Payload} {message : MessageId}
    (found : (tracker.sight sender payload).staged[message]? = some staged) :
    tracker.staged[message]? = some staged ∨ staged = payload.toData := by
  rw [staged_sight] at found
  split at found
  · exact .inr (Option.some.inj found).symm
  · exact .inl found

/-- What comes of a payload under the causal policy. -/
inductive Recording (tracker : Tracker) (sender : NodeId) (payload : Payload) :
    Recorded → Prop where
  | duplicate (known : tracker.contains sender payload.message = true) :
      Recording tracker sender payload ⟨tracker, .duplicate, []⟩
  | stale (fresh : tracker.contains sender payload.message = false)
      (released : payload.uid < tracker.frontier payload.owner) :
      Recording tracker sender payload
        ⟨tracker.witness sender payload.message, .stale, []⟩
  /-- The message is not the next one of its owner. -/
  | early (fresh : tracker.contains sender payload.message = false)
      (above : tracker.frontier payload.owner < payload.uid) :
      Recording tracker sender payload
        ⟨tracker.sight sender payload,
          .counted (tracker.count payload.message + 1) 0, []⟩
  /-- The message is the next one of its owner. -/
  | next (fresh : tracker.contains sender payload.message = false)
      (here : payload.uid = tracker.frontier payload.owner) :
      Recording tracker sender payload
        ⟨((tracker.sight sender payload).release payload.owner).1,
          .counted (tracker.count payload.message + 1)
            ((tracker.sight sender payload).release payload.owner).2.length,
          ((tracker.sight sender payload).release payload.owner).2⟩

private theorem settleCausal_counted (tracker : Tracker) (sender : NodeId)
    (payload : Payload) :
    ((tracker.witness sender payload.message).countOne
        payload.message).settleCausal payload =
      if payload.uid = tracker.frontier payload.owner then
        ⟨((tracker.sight sender payload).release payload.owner).1,
          .counted (tracker.count payload.message + 1)
            ((tracker.sight sender payload).release payload.owner).2.length,
          ((tracker.sight sender payload).release payload.owner).2⟩
      else
        ⟨tracker.sight sender payload,
          .counted (tracker.count payload.message + 1) 0, []⟩ := by
  have counted : ((tracker.witness sender payload.message).countOne
      payload.message).count payload.message =
        tracker.count payload.message + 1 := by
    simp only [count, countOne, Std.HashMap.getD_insert_self]
    rfl
  have sighted : tracker.sight sender payload =
      if tracker.count payload.message + 1 = 1 then
        ((tracker.witness sender payload.message).countOne
          payload.message).stage payload
      else (tracker.witness sender payload.message).countOne
        payload.message := by
    rw [← counted]
    rfl
  rw [settleCausal, sighted]
  simp only [counted]
  rfl

theorem recording_record {tracker : Tracker} (causal : tracker.policy = .causal)
    (sender : NodeId) (payload : Payload) :
    Recording tracker sender payload (tracker.record sender payload) := by
  unfold record
  cases known : tracker.contains sender payload.message with
  | true => simpa using Recording.duplicate known
  | false =>
      by_cases stale : payload.uid < tracker.frontier payload.owner
      · simpa [stale] using Recording.stale known stale
      · simp only [Bool.false_eq_true, if_false, stale, causal,
          settleCausal_counted]
        by_cases here : payload.uid = tracker.frontier payload.owner
        · rw [if_pos here]
          exact .next known here
        · rw [if_neg here]
          have above : tracker.frontier payload.owner < payload.uid := by
            rw [UInt32.lt_iff_toNat_lt] at stale ⊢
            have apart : payload.uid.toNat ≠
                (tracker.frontier payload.owner).toNat :=
              fun same => here (UInt32.toNat_inj.mp same)
            omega
          exact .early known above

/-! ## What a recording changes -/

theorem witnesses_record (tracker : Tracker) (sender : NodeId)
    (payload : Payload) :
    (tracker.record sender payload).tracker.witnesses = tracker.witnesses ∧
        tracker.contains sender payload.message = true ∨
      (tracker.record sender payload).tracker.witnesses =
        tracker.witnesses.insert ⟨sender, payload.message⟩ := by
  cases policy : tracker.policy with
  | causal =>
      have recording := recording_record policy sender payload
      generalize tracker.record sender payload = recorded at recording
      cases recording with
      | duplicate known => exact .inl ⟨rfl, known⟩
      | stale => exact .inr rfl
      | early => exact .inr (witnesses_sight tracker sender payload)
      | next =>
          have releases := releases_cascade (tracker.sight sender payload)
            [payload.owner]
          exact .inr (releases.witnesses_eq.trans
            (witnesses_sight tracker sender payload))
  | immediate =>
      unfold record
      cases known : tracker.contains sender payload.message with
      | true => exact .inl ⟨rfl, rfl⟩
      | false =>
          refine .inr ?_
          simp only [Bool.false_eq_true, if_false, policy, settleImmediate]
          split
          · rfl
          · split <;> rfl

theorem contains_record_iff (tracker : Tracker) (sender : NodeId)
    (payload : Payload) (other : NodeId) (message : MessageId) :
    (tracker.record sender payload).tracker.contains other message = true ↔
      (other = sender ∧ message = payload.message) ∨
        tracker.contains other message = true := by
  rcases witnesses_record tracker sender payload with ⟨same, known⟩ | inserted
  · rw [contains_eq_of_witnesses_eq same]
    constructor
    · exact .inr
    · rintro (⟨rfl, rfl⟩ | already)
      · exact known
      · exact already
  · exact contains_insert_iff inserted other message

theorem sameSetup_record (tracker : Tracker) (sender : NodeId)
    (payload : Payload) :
    SameSetup tracker (tracker.record sender payload).tracker := by
  cases policy : tracker.policy with
  | causal =>
      have recording := recording_record policy sender payload
      generalize tracker.record sender payload = recorded at recording
      cases recording with
      | duplicate => exact .refl tracker
      | stale => exact sameSetup_witness tracker sender payload.message
      | early => exact sameSetup_sight tracker sender payload
      | next =>
          exact (sameSetup_sight tracker sender payload).trans
            (releases_cascade (tracker.sight sender payload)
              [payload.owner]).sameSetup
  | immediate =>
      unfold record
      split
      · exact .refl tracker
      · simp only [policy, settleImmediate]
        split
        · exact sameSetup_witness tracker sender payload.message
        · split <;> exact ⟨rfl, rfl, rfl, rfl⟩

theorem length_clock_record (tracker : Tracker) (sender : NodeId)
    (payload : Payload) :
    (tracker.record sender payload).tracker.clock.length =
      tracker.clock.length := by
  cases policy : tracker.policy with
  | causal =>
      have recording := recording_record policy sender payload
      generalize tracker.record sender payload = recorded at recording
      cases recording with
      | duplicate => rfl
      | stale => rfl
      | early => rw [clock_sight]
      | next =>
          have releases := releases_cascade (tracker.sight sender payload)
            [payload.owner]
          exact releases.length_clock_eq.trans (by rw [clock_sight])
  | immediate =>
      unfold record
      split
      · rfl
      · simp only [policy, settleImmediate]
        split
        · rfl
        · split <;> rfl

theorem staged_of_staged_record {tracker : Tracker}
    (causal : tracker.policy = .causal) {sender : NodeId}
    {payload staged : Payload} {message : MessageId}
    (found : (tracker.record sender payload).tracker.staged[message]? =
      some staged) :
    tracker.staged[message]? = some staged ∨ staged = payload.toData := by
  have recording := recording_record causal sender payload
  generalize tracker.record sender payload = recorded at recording found
  cases recording with
  | duplicate => exact .inl found
  | stale => exact .inl found
  | early => exact staged_of_staged_sight found
  | next =>
      have releases := releases_cascade (tracker.sight sender payload)
        [payload.owner]
      exact staged_of_staged_sight (releases.staged_of_staged found)

theorem staged_of_mem_released {tracker : Tracker}
    (causal : tracker.policy = .causal) {sender : NodeId}
    {payload released : Payload}
    (member : released ∈ (tracker.record sender payload).released) :
    (∃ message : MessageId, tracker.staged[message]? = some released) ∨
      released = payload.toData := by
  have recording := recording_record causal sender payload
  generalize tracker.record sender payload = recorded at recording member
  cases recording with
  | duplicate => simp at member
  | stale => simp at member
  | early => simp at member
  | next =>
      have releases := releases_cascade (tracker.sight sender payload)
        [payload.owner]
      obtain ⟨message, found⟩ := releases.staged_of_mem member
      rcases staged_of_staged_sight found with old | new
      · exact .inl ⟨message, old⟩
      · exact .inr new

theorem record_of_contains {tracker : Tracker} {sender : NodeId}
    {payload : Payload}
    (known : tracker.contains sender payload.message = true) :
    tracker.record sender payload = ⟨tracker, .duplicate, []⟩ := by
  simp [record, known]

theorem sighting_record_ne_duplicate {tracker : Tracker} {sender : NodeId}
    {payload : Payload}
    (fresh : tracker.contains sender payload.message = false) :
    (tracker.record sender payload).sighting ≠ .duplicate := by
  intro same
  unfold record at same
  simp only [fresh, Bool.false_eq_true, if_false] at same
  split at same
  · simp at same
  · simp only [settleImmediate, settleCausal] at same
    split at same <;> split at same <;> simp at same

end Tracker

end CausalCast
