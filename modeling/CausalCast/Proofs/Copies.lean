import CausalCast.Payload.Codec

/-!
# Copies of a message

All payloads of a message come from the first copy that its owner made.
Relaying a payload, acknowledging it and putting it on the wire change only
who sends it and what kind it is; `original` undoes both.  A datagram is made
of one payload only, among those with clocks of one length.
-/

namespace CausalCast

namespace Payload

/-- The first copy of the message of a payload: data that its owner sends. -/
def original (payload : Payload) : Payload :=
  { payload with sender := payload.owner, isAck := false }

@[simp] theorem message_original (payload : Payload) :
    payload.original.message = payload.message := rfl

/-- Two payloads are copies of one first copy exactly if they agree in what the
owner decides: the identity of the message, its content and its clock. -/
theorem original_eq_iff {left right : Payload} :
    left.original = right.original ↔
      left.message = right.message ∧ left.content = right.content ∧
        left.clock = right.clock := by
  constructor
  · intro same
    simp only [original, Payload.mk.injEq] at same
    obtain ⟨uid, _, owner, _, content, clock⟩ := same
    exact ⟨by simp only [message, uid, owner], content, clock⟩
  · rintro ⟨identity, content, clock⟩
    simp only [message, MessageId.mk.injEq] at identity
    obtain ⟨owner, uid⟩ := identity
    simp only [original, uid, owner, content, clock]

end Payload

namespace Word

theorem ofBytes_of_toNat (word : UInt32) :
    ofBytes (UInt8.ofNat (word.toNat / 0x1000000))
      (UInt8.ofNat (word.toNat / 0x10000)) (UInt8.ofNat (word.toNat / 0x100))
      (UInt8.ofNat word.toNat) = word := by
  have restored := ofBytes_toBytes word
  simpa only [toBytes, listOfBytes, List.cons.injEq, and_true] using restored

@[simp] theorem listOfBytes_listToBytes (words : List UInt32) :
    listOfBytes (listToBytes words) = words := by
  induction words with
  | nil => rfl
  | cons word words induction =>
      have unfolded :
          listToBytes (word :: words) = toBytes word ++ listToBytes words := rfl
      rw [unfolded]
      simp only [toBytes, List.cons_append, List.nil_append, listOfBytes,
        ofBytes_of_toNat, induction]

theorem toBytes_injective {left right : UInt32}
    (same : toBytes left = toBytes right) : left = right := by
  have words := congrArg listOfBytes same
  rw [ofBytes_toBytes, ofBytes_toBytes] at words
  exact List.singleton_inj.mp words

theorem listToBytes_injective {left right : List UInt32}
    (same : listToBytes left = listToBytes right) : left = right := by
  have words := congrArg listOfBytes same
  rwa [listOfBytes_listToBytes, listOfBytes_listToBytes] at words

end Word

namespace Payload

theorem ackFlag?_flag (isAck : Bool) :
    ackFlag? (if isAck then 1 else 0) = some isAck := by
  cases isAck <;> rfl

theorem toBytes_injective {left right : Payload}
    (length : left.clock.length = right.clock.length)
    (same : left.toBytes = right.toBytes) : left = right := by
  have clockLength : (Word.listToBytes left.clock).length =
      (Word.listToBytes right.clock).length := by
    rw [Word.length_listToBytes, Word.length_listToBytes, length]
  obtain ⟨fields, clock⟩ := List.append_inj' same clockLength
  obtain ⟨header, content⟩ := List.append_inj fields rfl
  obtain ⟨words, flag⟩ := List.append_inj header rfl
  obtain ⟨words, owner⟩ := List.append_inj words rfl
  obtain ⟨uid, sender⟩ := List.append_inj words rfl
  have isAck := congrArg (List.map ackFlag?) flag
  simp only [List.map_cons, ackFlag?_flag, List.map_nil, List.cons.injEq,
    Option.some.injEq, and_true] at isAck
  cases left
  cases right
  rw [Payload.mk.injEq]
  exact ⟨Word.toBytes_injective uid, Word.toBytes_injective sender,
    Word.toBytes_injective owner, isAck, content,
    Word.listToBytes_injective clock⟩

theorem toBytes_of_encode {payload : Payload} {bytes : List UInt8}
    (encoded : payload.encode = .ok bytes) : bytes = payload.toBytes := by
  unfold encode at encoded
  split at encoded
  · contradiction
  · exact (Except.ok.inj encoded).symm

theorem encode_eq_ok {payload : Payload}
    (fits : payload.encodedLength ≤ maxDatagram) :
    payload.encode = .ok payload.toBytes := by
  unfold encode
  rw [if_neg (Nat.not_lt.mpr fits)]

theorem encodedLength_le_of_encode {payload : Payload} {bytes : List UInt8}
    (encoded : payload.encode = .ok bytes) :
    payload.encodedLength ≤ maxDatagram := by
  unfold encode at encoded
  split at encoded
  · contradiction
  case isFalse small => exact Nat.le_of_not_lt small

end Payload

end CausalCast
