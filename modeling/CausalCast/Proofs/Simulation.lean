import CausalCast.Proofs.Link.Progress
import Mathlib.Data.List.Induction

/-!
# The books of a simulator

A session is a simulator before its wire, together with what could be seen of
each call: what was to be sent, what was answered, and what left.  The counts
of the simulator tell how the calls ended, since every call that succeeds is
counted as sent or as dropped, and a call that fails is not counted.

What has left is more than that.  When the first copy of a datagram is on its
way and the second one fails, the call fails, and no count tells of the copy
that left.
-/

namespace CausalCast

namespace Simulator

/-- What can be seen of a call. -/
structure Call where
  datagram : Datagram
  answer : Except Mishap Nat
  /-- The datagrams that left the wire meanwhile, in order. -/
  left : List Datagram
  /-- Whether the call was counted as dropped. -/
  dropped : Bool

namespace Call

def isData (call : Call) : Bool :=
  !Payload.isAckDatagram call.datagram.bytes

def succeeded (call : Call) : Bool :=
  call.answer.isOk

def interrupted (call : Call) : Bool :=
  !call.succeeded && !call.left.isEmpty

end Call

/-- A simulator before its wire, and the calls so far. -/
structure Session where
  simulator : Simulator
  wire : Wire
  calls : List Call

namespace Session

def start (model : FaultModel) (wire : Wire) : Session :=
  ⟨.new model, wire, []⟩

def send (session : Session) (datagram : Datagram) : Session :=
  let (simulator, wire, answer) :=
    session.simulator.send session.wire datagram
  ⟨simulator, wire, session.calls ++
    [⟨datagram, answer, wire.sent.toList.drop session.wire.sent.size,
      decide (session.simulator.dropped < simulator.dropped)⟩]⟩

def sendAll (session : Session) (datagrams : List Datagram) : Session :=
  datagrams.foldl send session

theorem sendAll_concat (session : Session) (datagrams : List Datagram)
    (datagram : Datagram) :
    session.sendAll (datagrams ++ [datagram]) =
      (session.sendAll datagrams).send datagram := by
  simp [sendAll]

def left (session : Session) : List Datagram :=
  session.calls.flatMap Call.left

end Session

/-! ## One call -/

section Observe

variable (simulator : Simulator) (bytes : List UInt8)

@[simp] theorem sent_observe :
    (simulator.observe bytes).sent = simulator.sent := by
  unfold observe
  split <;> rfl

@[simp] theorem dropped_observe :
    (simulator.observe bytes).dropped = simulator.dropped := by
  unfold observe
  split <;> rfl

@[simp] theorem duplicated_observe :
    (simulator.observe bytes).duplicated = simulator.duplicated := by
  unfold observe
  split <;> rfl

theorem dataSeen_observe :
    (simulator.observe bytes).dataSeen =
      simulator.dataSeen +
        if !Payload.isAckDatagram bytes then 1 else 0 := by
  unfold observe
  cases Payload.isAckDatagram bytes <;> rfl

end Observe

theorem fate_eq_drop_iff {simulator : Simulator} {bytes : List UInt8}
    (lossless : simulator.model.loss = .never) :
    simulator.fate bytes = .drop ↔
      Payload.isAckDatagram bytes = false ∧
        simulator.dataSeen < simulator.model.dropFirst := by
  unfold fate
  cases Payload.isAckDatagram bytes <;> simp [lossless]

theorem fate_eq_send {simulator : Simulator} {bytes : List UInt8}
    {twice : Bool} (sends : simulator.fate bytes = .send twice) :
    twice = decide (simulator.model.duplication = .always) := by
  unfold fate at sends
  split at sends
  · contradiction
  · split at sends
    · contradiction
    · exact (Fate.send.inj sends).symm

theorem sent_of_send_ok {wire after : Wire} {datagram : Datagram}
    {length : Nat} (sent : wire.send datagram = (after, .ok length)) :
    after.sent.toList = wire.sent.toList ++ [datagram] ∧
      length = datagram.bytes.length := by
  unfold Wire.send at sent
  cases outcome : wire.outcome with
  | some mishap => simp [outcome] at sent
  | none =>
      simp only [outcome, Prod.mk.injEq, Except.ok.injEq] at sent
      obtain ⟨rfl, rfl⟩ := sent
      exact ⟨Array.toList_push, rfl⟩

theorem sent_of_send_error {wire after : Wire} {datagram : Datagram}
    {mishap : Mishap} (failed : wire.send datagram = (after, .error mishap)) :
    after.sent.toList = wire.sent.toList ++ [] := by
  unfold Wire.send at failed
  cases outcome : wire.outcome with
  | some other =>
      simp only [outcome, Prod.mk.injEq] at failed
      obtain ⟨rfl, _⟩ := failed
      simp
  | none => simp [outcome] at failed

/-- How a call can end: nothing is sent, or every copy leaves, or the first
copy fails, or only the second one does. -/
inductive Ending (simulator : Simulator) (datagram : Datagram) :
    Call → Simulator → Prop where
  | dropped (fate : simulator.fate datagram.bytes = .drop) :
      Ending simulator datagram
        ⟨datagram, .ok datagram.bytes.length, [], true⟩
        { simulator.observe datagram.bytes with
          dropped := simulator.dropped + 1 }
  | sent {twice : Bool}
      (fate : simulator.fate datagram.bytes = .send twice) :
      Ending simulator datagram
        ⟨datagram, .ok datagram.bytes.length,
          List.replicate (1 + if twice then 1 else 0) datagram, false⟩
        { simulator.observe datagram.bytes with
          sent := simulator.sent + 1
          duplicated := simulator.duplicated + if twice then 1 else 0 }
  | failed {twice : Bool} (mishap : Mishap)
      (fate : simulator.fate datagram.bytes = .send twice) :
      Ending simulator datagram ⟨datagram, .error mishap, [], false⟩
        (simulator.observe datagram.bytes)
  | interrupted (mishap : Mishap)
      (fate : simulator.fate datagram.bytes = .send true) :
      Ending simulator datagram
        ⟨datagram, .error mishap, [datagram], false⟩
        (simulator.observe datagram.bytes)

theorem ending_send (simulator : Simulator) (wire : Wire)
    (datagram : Datagram) :
    ∃ call after final,
      simulator.send wire datagram = (after, final, call.answer) ∧
        final.sent.toList = wire.sent.toList ++ call.left ∧
        Ending simulator datagram call after := by
  unfold send
  cases fate : simulator.fate datagram.bytes with
  | drop =>
      exact ⟨_, _, wire, by simp, by simp, .dropped fate⟩
  | send twice =>
      dsimp only [transmit]
      cases first : wire.send datagram with
      | mk middle answer =>
          cases answer with
          | error mishap =>
              exact ⟨_, _, _, rfl, sent_of_send_error first,
                .failed mishap fate⟩
          | ok length =>
              obtain ⟨one, rfl⟩ := sent_of_send_ok first
              cases twice with
              | false => exact ⟨_, _, _, by simp, one, .sent fate⟩
              | true =>
                  dsimp only [if_true]
                  cases second : middle.send datagram with
                  | mk final answer =>
                      cases answer with
                      | error mishap =>
                          have still := sent_of_send_error second
                          rw [List.append_nil, one] at still
                          exact ⟨_, _, _, rfl, still,
                            .interrupted mishap fate⟩
                      | ok length =>
                          obtain ⟨two, rfl⟩ := sent_of_send_ok second
                          rw [one, List.append_assoc] at two
                          exact ⟨_, _, _, by simp, two, .sent fate⟩

/-- A call is answered and counted as a fault model has it. -/
structure Call.Sound (model : FaultModel) (call : Call) : Prop where
  dropped : call.dropped = true →
    call.answer = .ok call.datagram.bytes.length ∧ call.left = []
  sent : call.succeeded = true → call.dropped = false →
    call.answer = .ok call.datagram.bytes.length ∧
      call.left = List.replicate
        (1 + if model.duplication = .always then 1 else 0) call.datagram
  interrupted : call.interrupted = true →
    model.duplication = .always ∧ call.left = [call.datagram]

/-- Only a failure that comes after a copy has left interrupts a call. -/
@[simp] theorem Call.interrupted_iff {call : Call} :
    call.interrupted = true ↔
      call.succeeded = false ∧ call.left ≠ [] := by
  simp [Call.interrupted]

@[simp] theorem Call.succeeded_ok (datagram : Datagram) (length : Nat)
    (left : List Datagram) (dropped : Bool) :
    Call.succeeded ⟨datagram, .ok length, left, dropped⟩ = true := rfl

@[simp] theorem Call.succeeded_error (datagram : Datagram) (mishap : Mishap)
    (left : List Datagram) (dropped : Bool) :
    Call.succeeded ⟨datagram, .error mishap, left, dropped⟩ = false := rfl

namespace Ending

variable {simulator after : Simulator} {datagram : Datagram} {call : Call}
  (ending : Ending simulator datagram call after)

include ending

theorem datagram_eq : call.datagram = datagram := by
  cases ending <;> rfl

theorem model_eq : after.model = simulator.model := by
  cases ending <;> exact model_observe simulator datagram.bytes

theorem dataSeen_eq :
    after.dataSeen = simulator.dataSeen + if call.isData then 1 else 0 := by
  cases ending <;> exact dataSeen_observe simulator datagram.bytes

theorem dropped_eq :
    after.dropped = simulator.dropped + if call.dropped then 1 else 0 := by
  cases ending <;> simp

theorem dropped_iff :
    call.dropped = true ↔ simulator.fate datagram.bytes = .drop := by
  cases ending <;> simp [*]

theorem sent_add_dropped :
    after.sent + after.dropped = simulator.sent + simulator.dropped +
      if call.succeeded then 1 else 0 := by
  cases ending <;> simp <;> omega

/-- Every copy that leaves is counted, unless the call is interrupted. -/
theorem length_left :
    call.left.length + (simulator.sent + simulator.duplicated) =
      after.sent + after.duplicated + if call.interrupted then 1 else 0 := by
  cases ending <;> simp <;> omega

theorem sound : call.Sound simulator.model := by
  cases ending with
  | dropped => constructor <;> simp
  | sent fate =>
      have twice := fate_eq_send fate
      constructor <;> simp [twice]
  | failed => constructor <;> simp
  | interrupted mishap fate =>
      have always : simulator.model.duplication = .always := by
        simpa using fate_eq_send fate
      constructor <;> simp [always]

end Ending

/-! ## One call after another -/

namespace Session

/-- The books of a session that a fault model and a wire were given for. -/
structure Balanced (model : FaultModel) (wire : Wire)
    (session : Session) : Prop where
  model_eq : session.simulator.model = model
  dataSeen_eq : session.simulator.dataSeen = session.calls.countP Call.isData
  sound : ∀ call ∈ session.calls, call.Sound model
  dropsFirst : model.loss = .never → ∀ before call after,
    session.calls = before ++ call :: after →
      (call.dropped = true ↔
        call.isData = true ∧ before.countP Call.isData < model.dropFirst)
  dropped_eq : session.simulator.dropped = session.calls.countP Call.dropped
  succeeded_eq : session.calls.countP Call.succeeded =
    session.simulator.sent + session.simulator.dropped
  sent_eq : session.wire.sent.toList = wire.sent.toList ++ session.left
  length_left : session.left.length =
    session.simulator.sent + session.simulator.duplicated +
      session.calls.countP Call.interrupted

variable {model : FaultModel} {wire : Wire} {session : Session}

theorem balanced_start (model : FaultModel) (wire : Wire) :
    Balanced model wire (start model wire) := by
  constructor <;> simp [start, new, left]

theorem ending_of_send (session : Session) (datagram : Datagram) :
    ∃ call, (session.send datagram).calls = session.calls ++ [call] ∧
      (session.send datagram).wire.sent.toList =
        session.wire.sent.toList ++ call.left ∧
      Ending session.simulator datagram call
        (session.send datagram).simulator := by
  obtain ⟨call, after, final, sent, left, ending⟩ :=
    ending_send session.simulator session.wire datagram
  obtain rfl := ending.datagram_eq
  refine ⟨call, ?_, ?_, ?_⟩
  · have copies : final.sent.toList.drop session.wire.sent.size =
        call.left := by
      rw [left]
      exact List.drop_left' Array.length_toList
    have dropped : decide (session.simulator.dropped < after.dropped) =
        call.dropped := by
      rw [ending.dropped_eq]
      cases call.dropped <;> simp
    simp only [send, sent, copies, dropped]
  · simpa [send, sent] using left
  · simpa [send, sent] using ending

theorem Balanced.send (balanced : Balanced model wire session)
    (datagram : Datagram) : Balanced model wire (session.send datagram) := by
  obtain ⟨call, calls, sent, ending⟩ := ending_of_send session datagram
  have datagram_eq := ending.datagram_eq
  have lefts : (session.send datagram).left = session.left ++ call.left := by
    simp [left, calls]
  constructor
  case model_eq => exact ending.model_eq.trans balanced.model_eq
  case dataSeen_eq =>
    rw [ending.dataSeen_eq, balanced.dataSeen_eq, calls, List.countP_append,
      List.countP_singleton]
  case sound =>
    rw [calls]
    intro other member
    rcases List.mem_append.mp member with earlier | last
    · exact balanced.sound other earlier
    · obtain rfl := List.mem_singleton.mp last
      rw [← balanced.model_eq]
      exact ending.sound
  case dropsFirst =>
    intro lossless before other after split
    rw [calls] at split
    rcases List.eq_nil_or_concat after with rfl | ⟨rest, last, rfl⟩
    · obtain ⟨rfl, same⟩ := List.append_inj' split rfl
      obtain rfl := List.singleton_inj.mp same
      rw [← balanced.model_eq] at lossless ⊢
      rw [ending.dropped_iff, fate_eq_drop_iff lossless, balanced.dataSeen_eq,
        ← datagram_eq]
      simp [Call.isData]
    · rw [List.concat_eq_append, ← List.cons_append,
        ← List.append_assoc] at split
      obtain ⟨earlier, _⟩ := List.append_inj' split rfl
      exact balanced.dropsFirst lossless before other rest earlier
  case dropped_eq =>
    rw [ending.dropped_eq, balanced.dropped_eq, calls, List.countP_append,
      List.countP_singleton]
  case succeeded_eq =>
    rw [ending.sent_add_dropped, calls, List.countP_append,
      List.countP_singleton, balanced.succeeded_eq]
  case sent_eq =>
    rw [sent, balanced.sent_eq, lefts, List.append_assoc]
  case length_left =>
    have added := ending.length_left
    rw [lefts, List.length_append, balanced.length_left, calls,
      List.countP_append, List.countP_singleton]
    omega

theorem balanced_sendAll (model : FaultModel) (wire : Wire)
    (datagrams : List Datagram) :
    Balanced model wire ((start model wire).sendAll datagrams) := by
  induction datagrams using List.reverseRecOn with
  | nil => exact balanced_start model wire
  | append_singleton datagrams datagram induction =>
      rw [sendAll_concat]
      exact induction.send datagram

theorem datagrams_sendAll (model : FaultModel) (wire : Wire)
    (datagrams : List Datagram) :
    ((start model wire).sendAll datagrams).calls.map Call.datagram =
      datagrams := by
  induction datagrams using List.reverseRecOn with
  | nil => rfl
  | append_singleton datagrams datagram induction =>
      obtain ⟨call, calls, _, ending⟩ :=
        ending_of_send ((start model wire).sendAll datagrams) datagram
      rw [sendAll_concat, calls, List.map_append, induction]
      simp [ending.datagram_eq]

/-- The counts of a simulator are right about the calls: the first data
datagrams are dropped, as many as shall be, and a call succeeds exactly if it
is counted as sent or as dropped.  They are right about what has left as long
as no call is interrupted, and there is one datagram more for every call that
is. -/
theorem counted_unless_interrupted (model : FaultModel) (wire : Wire)
    (datagrams : List Datagram) :
    let session := (start model wire).sendAll datagrams
    session.calls.map Call.datagram = datagrams ∧
      (∀ call ∈ session.calls, call.Sound model) ∧
      (model.loss = .never → ∀ before call after,
        session.calls = before ++ call :: after →
          (call.dropped = true ↔ call.isData = true ∧
            before.countP Call.isData < model.dropFirst)) ∧
      session.simulator.dropped = session.calls.countP Call.dropped ∧
      session.calls.countP Call.succeeded =
        session.simulator.sent + session.simulator.dropped ∧
      session.wire.sent.toList = wire.sent.toList ++ session.left ∧
      session.left.length =
        session.simulator.sent + session.simulator.duplicated +
          session.calls.countP Call.interrupted ∧
      (session.left.length =
          session.simulator.sent + session.simulator.duplicated ↔
        ∀ call ∈ session.calls, call.interrupted = false) := by
  have balanced := balanced_sendAll model wire datagrams
  refine ⟨datagrams_sendAll model wire datagrams, balanced.sound,
    balanced.dropsFirst, balanced.dropped_eq, balanced.succeeded_eq,
    balanced.sent_eq, balanced.length_left, ?_⟩
  rw [balanced.length_left, Nat.add_eq_left, List.countP_eq_zero]
  simp only [Bool.not_eq_true]

/-- A dropped datagram, an acknowledgement that is sent twice, a datagram of
which no copy leaves, and one of which only the first copy leaves. -/
theorem counted_of_four_calls :
    let address : Address := .v4 .loopback 40001
    let data : Datagram := ⟨address, [7]⟩
    let ack : Datagram := ⟨address, List.replicate 12 0 ++ [1]⟩
    let session := (start { duplication := .always, dropFirst := 1 }
      { Wire.new with outcomes := [none, none, some .crash, none,
        some (.fault .timedOut)] }).sendAll [data, ack, data, data]
    session.calls = [⟨data, .ok 1, [], true⟩, ⟨ack, .ok 13, [ack, ack], false⟩,
        ⟨data, .error .crash, [], false⟩,
        ⟨data, .error (.fault .timedOut), [data], false⟩] ∧
      ¬(Call.isData ⟨data, .error .crash, [], false⟩ = true ∧
        List.countP Call.isData [⟨data, .ok 1, [], true⟩,
          ⟨ack, .ok 13, [ack, ack], false⟩] < 1) ∧
      session.simulator.sent + session.simulator.dropped = 2 ∧
      session.left.length =
        session.simulator.sent + session.simulator.duplicated + 1 := by
  intro address data ack session
  have calls : session.calls = [⟨data, .ok 1, [], true⟩] ++
      [⟨ack, .ok 13, [ack, ack], false⟩] ++
        ⟨data, .error .crash, [], false⟩ ::
          [⟨data, .error (.fault .timedOut), [data], false⟩] := by
    rfl
  obtain ⟨_, _, drops, _, succeeded, _, length, _⟩ :=
    counted_unless_interrupted { duplication := .always, dropFirst := 1 }
      { Wire.new with outcomes := [none, none, some .crash, none,
        some (.fault .timedOut)] } [data, ack, data, data]
  refine ⟨calls, ?_, ?_, ?_⟩
  · intro within
    have dropped := (drops rfl _ _ _ calls).mpr within
    exact Bool.false_ne_true dropped
  · rw [← succeeded]
    rfl
  · rw [length]
    rfl

/-- A datagram that shall be sent twice and whose second copy fails has left,
and no count tells of it. -/
theorem uncounted_after_failed_copy :
    let session := (start { duplication := .always }
      { Wire.new with outcomes := [none, some (.fault .timedOut)] }).sendAll
        [⟨.v4 .loopback 40001, [7]⟩]
    session.calls.map Call.answer = [.error (.fault .timedOut)] ∧
      session.wire.sent = #[⟨.v4 .loopback 40001, [7]⟩] ∧
      session.simulator.sent = 0 ∧ session.simulator.dropped = 0 ∧
      session.simulator.duplicated = 0 ∧
      session.left.length ≠
        session.simulator.sent + session.simulator.duplicated := by
  refine ⟨rfl, rfl, rfl, rfl, rfl, by decide⟩

end Session

end Simulator

end CausalCast
