import CausalCast.Proofs.Copies

/-!
# Datagrams and payloads

Writing a payload and reading a datagram undo each other.  A payload that fits
in a datagram is read back from its own; and whatever byte string is accepted
at all is the datagram of the payload that is read, so that nothing but
datagrams is accepted.  The other byte strings are rejected for one of three
reasons, which are looked at in a fixed order.

The reader is told the length of the clock, and computes in words of 64 bits.
All of this holds as long as a word can count the bytes of header and clock.  A
clock of 2^62 entries or more is taken for a shorter one; and when only the
header makes the count too large, the reader looks for fields outside the byte
string.
-/

namespace CausalCast

namespace Word

theorem toBytes_ofBytes (a b c d : UInt8) :
    toBytes (ofBytes a b c d) = [a, b, c, d] := by
  have := a.toNat_lt
  have := b.toNat_lt
  have := c.toNat_lt
  have := d.toNat_lt
  simp only [toBytes, ofBytes, List.cons.injEq, and_true, ← UInt8.toNat_inj,
    UInt8.toNat_ofNat', UInt32.toNat_ofNat']
  omega

theorem exists_toBytes (bytes : List UInt8) (long : 4 ≤ bytes.length) :
    ∃ word rest, bytes = toBytes word ++ rest := by
  match bytes, long with
  | a :: b :: c :: d :: rest, _ =>
      exact ⟨ofBytes a b c d, rest, by rw [toBytes_ofBytes]; rfl⟩

theorem exists_listToBytes {count : Nat} (bytes : List UInt8)
    (length : bytes.length = 4 * count) :
    ∃ words, words.length = count ∧ bytes = listToBytes words := by
  induction count generalizing bytes with
  | zero => exact ⟨[], rfl, List.eq_nil_of_length_eq_zero length⟩
  | succ count induction =>
      obtain ⟨word, rest, rfl⟩ := exists_toBytes bytes (by omega)
      rw [List.length_append, length_toBytes] at length
      obtain ⟨words, rfl, rfl⟩ := induction rest (by omega)
      exact ⟨word :: words, rfl, rfl⟩

end Word

namespace Payload

/-! ## The shape of a datagram -/

/-- The bytes of a payload with any byte in the place of the flag. -/
def frame (payload : Payload) (flag : UInt8) : List UInt8 :=
  Word.toBytes payload.uid ++ Word.toBytes payload.sender ++
    Word.toBytes payload.owner ++ [flag] ++ payload.content ++
    Word.listToBytes payload.clock

theorem frame_flag (payload : Payload) :
    payload.frame (if payload.isAck then 1 else 0) = payload.toBytes := rfl

theorem length_frame (payload : Payload) (flag : UInt8) :
    (payload.frame flag).length =
      13 + payload.content.length + 4 * payload.clock.length := by
  simp only [frame, List.length_append, Word.length_toBytes,
    List.length_singleton, Word.length_listToBytes]

theorem getElem?_frame (payload : Payload) (flag : UInt8) :
    (payload.frame flag)[12]? = some flag := by
  simp [frame, Word.toBytes]

/-- Whatever has room for a header and a clock has the shape of a datagram. -/
theorem exists_frame {bytes : List UInt8} {clockLength : Nat}
    (long : 13 + 4 * clockLength ≤ bytes.length) :
    ∃ (payload : Payload) (flag : UInt8),
      payload.clock.length = clockLength ∧ payload.isAck = (flag == 1) ∧
        bytes = payload.frame flag := by
  obtain ⟨uid, bytes, rfl⟩ := Word.exists_toBytes bytes (by omega)
  rw [List.length_append, Word.length_toBytes] at long
  obtain ⟨sender, bytes, rfl⟩ := Word.exists_toBytes bytes (by omega)
  rw [List.length_append, Word.length_toBytes] at long
  obtain ⟨owner, bytes, rfl⟩ := Word.exists_toBytes bytes (by omega)
  rw [List.length_append, Word.length_toBytes] at long
  obtain ⟨flag, body, rfl⟩ := List.exists_cons_of_length_pos
    (l := bytes) (by omega)
  rw [List.length_cons] at long
  have tail : (body.drop (body.length - 4 * clockLength)).length =
      4 * clockLength := by
    rw [List.length_drop]
    omega
  obtain ⟨clock, length, words⟩ := Word.exists_listToBytes _ tail
  refine ⟨⟨uid, sender, owner, flag == 1,
    body.take (body.length - 4 * clockLength), clock⟩, flag, length, rfl, ?_⟩
  simp only [frame, ← words, List.append_assoc, List.cons_append,
    List.nil_append, List.take_append_drop]

theorem slice?_append (front middle back : List UInt8) :
    slice? (front ++ middle ++ back) front.length
      (front.length + middle.length) = some middle := by
  have inRange : front.length ≤ front.length + middle.length ∧
      front.length + middle.length ≤ (front ++ middle ++ back).length := by
    simp only [List.length_append]
    omega
  rw [slice?, if_pos inRange, ← List.length_append, List.take_left,
    List.drop_left]

section Frame

variable (payload : Payload) (flag : UInt8)

theorem words_frame :
    Word.at? (payload.frame flag) 0 = some payload.uid ∧
      Word.at? (payload.frame flag) 4 = some payload.sender ∧
      Word.at? (payload.frame flag) 8 = some payload.owner := by
  refine ⟨?_, ?_, ?_⟩
  · simpa [Word.at?, frame, Word.toBytes] using
      Word.ofBytes_of_toNat payload.uid
  · simpa [Word.at?, frame, Word.toBytes] using
      Word.ofBytes_of_toNat payload.sender
  · simpa [Word.at?, frame, Word.toBytes] using
      Word.ofBytes_of_toNat payload.owner

theorem slice?_frame :
    slice? (payload.frame flag) 13 (13 + payload.content.length) =
      some payload.content :=
  slice?_append _ payload.content (Word.listToBytes payload.clock)

theorem clock_frame :
    slice? (payload.frame flag) (13 + payload.content.length)
        (payload.frame flag).length =
      some (Word.listToBytes payload.clock) := by
  have found := slice?_append
    (Word.toBytes payload.uid ++ Word.toBytes payload.sender ++
      Word.toBytes payload.owner ++ [flag] ++ payload.content)
    (Word.listToBytes payload.clock) []
  rw [List.append_nil, ← List.length_append, List.length_append] at found
  exact found

end Frame

theorem isAckDatagram_toBytes (payload : Payload) :
    isAckDatagram payload.toBytes = payload.isAck := by
  rw [← frame_flag, isAckDatagram, flagOffset, getElem?_frame]
  cases payload.isAck <;> rfl

theorem flag_toBytes (payload : Payload) :
    payload.toBytes[12]? = some 0 ∨ payload.toBytes[12]? = some 1 := by
  rw [← frame_flag, getElem?_frame]
  cases payload.isAck with
  | true => exact .inr rfl
  | false => exact .inl rfl

/-! ## Lengths in words -/

/-- The number of clock entries that a reader looks for.  It is the number that
the reader is told unless a word cannot count their bytes. -/
def countedEntries (clockLength : UInt64) : Nat :=
  clockLength.toNat % 4611686018427387904

section Lengths

variable {clockLength : UInt64}

theorem countedEntries_eq_iff :
    countedEntries clockLength = clockLength.toNat ↔
      clockLength.toNat < 4611686018427387904 := by
  unfold countedEntries
  omega

theorem countedEntries_ofNat {count : Nat}
    (small : count < 4611686018427387904) :
    countedEntries (UInt64.ofNat count) = count := by
  rw [countedEntries, UInt64.toNat_ofNat']
  omega

theorem toNat_clockBytes :
    (clockLength * UInt64.ofNat entryLength).toNat =
      4 * countedEntries clockLength := by
  simp only [UInt64.toNat_mul, UInt64.toNat_ofNat', entryLength, countedEntries]
  omega

theorem toNat_needed :
    (UInt64.ofNat headerLength + clockLength * UInt64.ofNat entryLength).toNat =
      (13 + 4 * countedEntries clockLength) % 18446744073709551616 := by
  rw [UInt64.toNat_add, toNat_clockBytes]
  rfl

theorem toNat_contentEnd {length : Nat} (small : length ≤ 65535) :
    (UInt64.ofNat length - clockLength * UInt64.ofNat entryLength).toNat =
      (18446744073709551616 - 4 * countedEntries clockLength + length) %
        18446744073709551616 := by
  have whole : length % 18446744073709551616 = length :=
    Nat.mod_eq_of_lt (by omega)
  rw [UInt64.toNat_sub, toNat_clockBytes, UInt64.toNat_ofNat', whole]

end Lengths

/-! ## The verdict of the reader -/

section Reading

variable {bytes : List UInt8} {clockLength : UInt64}

theorem decode?_of_short (short : bytes.length < 13) :
    decode? bytes clockLength = some (.error (.tooShort bytes.length)) := by
  rw [decode?, headerLength, if_pos short]

theorem decode?_of_truncated (header : 13 ≤ bytes.length)
    (truncated : bytes.length < 13 + 4 * countedEntries clockLength)
    (counted : 13 + 4 * countedEntries clockLength < 18446744073709551616) :
    decode? bytes clockLength = some (.error
      (.clockTruncated bytes.length
        (13 + 4 * countedEntries clockLength))) := by
  have needed := @toNat_needed clockLength
  rw [Nat.mod_eq_of_lt counted] at needed
  rw [← needed] at truncated
  have long : ¬bytes.length < headerLength := Nat.not_lt.mpr header
  rw [decode?, if_neg long, if_pos truncated, needed]

/-- Every field of a datagram stands where it is looked for. -/
theorem decode?_frame {payload : Payload} {flag : UInt8}
    (small : (payload.frame flag).length ≤ 65535)
    (entries : countedEntries clockLength = payload.clock.length) :
    decode? (payload.frame flag) clockLength =
      some (match ackFlag? flag with
        | none => .error (.invalidAckFlag flag)
        | some isAck => .ok { payload with isAck := isAck }) := by
  have length := payload.length_frame flag
  have header : ¬(payload.frame flag).length < headerLength := by
    simp only [length, headerLength]
    omega
  have clock : ¬(payload.frame flag).length < (UInt64.ofNat headerLength +
      clockLength * UInt64.ofNat entryLength).toNat := by
    rw [toNat_needed]
    omega
  have contentEnd : (UInt64.ofNat (payload.frame flag).length -
      clockLength * UInt64.ofNat entryLength).toNat =
        13 + payload.content.length := by
    rw [toNat_contentEnd small]
    omega
  obtain ⟨uid, sender, owner⟩ := payload.words_frame flag
  simp only [decode?, if_neg header, if_neg clock, contentEnd]
  simp only [headerLength, flagOffset, payload.getElem?_frame flag,
    payload.slice?_frame flag, payload.clock_frame flag, uid, sender, owner,
    Word.listOfBytes_listToBytes, Option.bind_eq_bind, Option.bind_some]
  cases ackFlag? flag <;> rfl

/-- When a word cannot count the bytes of header and clock, the reader believes
that the clock is there, and looks for its end outside the byte string. -/
theorem decode?_of_uncounted {flag : UInt8}
    (found : bytes[12]? = some flag) (small : bytes.length ≤ 65535)
    (uncounted : 18446744073709551616 ≤
      13 + 4 * countedEntries clockLength) :
    decode? bytes clockLength =
      match ackFlag? flag with
        | none => some (.error (.invalidAckFlag flag))
        | some _ => none := by
  obtain ⟨inRange, _⟩ := List.getElem?_eq_some_iff.mp found
  have bounded : countedEntries clockLength < 4611686018427387904 :=
    Nat.mod_lt _ (by decide)
  have header : ¬bytes.length < headerLength := Nat.not_lt.mpr inRange
  have clock : ¬bytes.length < (UInt64.ofNat headerLength +
      clockLength * UInt64.ofNat entryLength).toNat := by
    rw [toNat_needed]
    omega
  have outside : ¬((UInt64.ofNat bytes.length -
      clockLength * UInt64.ofNat entryLength).toNat ≤ bytes.length ∧
        bytes.length ≤ bytes.length) := by
    rw [toNat_contentEnd small]
    omega
  have nothing : slice? bytes (UInt64.ofNat bytes.length -
      clockLength * UInt64.ofNat entryLength).toNat bytes.length = none := by
    rw [slice?, if_neg outside]
  cases kind : ackFlag? flag with
  | none =>
      simp only [decode?, if_neg header, if_neg clock, flagOffset, found, kind,
        Option.bind_eq_bind, Option.bind_some]
  | some isAck =>
      simp only [decode?, if_neg header, if_neg clock, flagOffset, found, kind,
        nothing, Option.bind_eq_bind, Option.bind_some, Option.bind_none]

end Reading

/-- What the reader makes of a byte string, with the reason. -/
inductive Verdict (bytes : List UInt8) (entries : Nat) :
    Option (Except PacketError Payload) → Prop where
  | tooShort (short : bytes.length < 13) :
      Verdict bytes entries (some (.error (.tooShort bytes.length)))
  | clockTruncated (header : 13 ≤ bytes.length)
      (truncated : bytes.length < 13 + 4 * entries)
      (counted : 13 + 4 * entries < 18446744073709551616) :
      Verdict bytes entries
        (some (.error (.clockTruncated bytes.length (13 + 4 * entries))))
  | invalidAckFlag {flag : UInt8}
      (room : 13 + 4 * entries ≤ bytes.length ∨
        18446744073709551616 ≤ 13 + 4 * entries)
      (found : bytes[12]? = some flag) (notData : flag ≠ 0)
      (notAck : flag ≠ 1) :
      Verdict bytes entries (some (.error (.invalidAckFlag flag)))
  | accepted {payload : Payload}
      (long : 13 + 4 * entries ≤ bytes.length)
      (length : payload.clock.length = entries)
      (made : bytes = payload.toBytes) :
      Verdict bytes entries (some (.ok payload))
  | astray (uncounted : 18446744073709551616 ≤ 13 + 4 * entries)
      (known : bytes[12]? = some 0 ∨ bytes[12]? = some 1) :
      Verdict bytes entries none

theorem ackFlag?_of_invalid {flag : UInt8} (notData : flag ≠ 0)
    (notAck : flag ≠ 1) : ackFlag? flag = none := by
  rw [ackFlag?, if_neg notData, if_neg notAck]

theorem decode?_toBytes {payload : Payload} {clockLength : UInt64}
    (small : payload.encodedLength ≤ 65535)
    (entries : countedEntries clockLength = payload.clock.length) :
    decode? payload.toBytes clockLength = some (.ok payload) := by
  rw [← length_toBytes, ← frame_flag] at small
  rw [← frame_flag, decode?_frame small entries, ackFlag?_flag]

theorem verdict_of_counted {bytes : List UInt8} {clockLength : UInt64}
    (small : bytes.length ≤ 65535)
    (counted : 13 + 4 * countedEntries clockLength < 18446744073709551616) :
    Verdict bytes (countedEntries clockLength) (decode? bytes clockLength) := by
  by_cases short : bytes.length < 13
  · rw [decode?_of_short short]
    exact .tooShort short
  have header := Nat.le_of_not_lt short
  by_cases truncated : bytes.length < 13 + 4 * countedEntries clockLength
  · rw [decode?_of_truncated header truncated counted]
    exact .clockTruncated header truncated counted
  have long := Nat.le_of_not_lt truncated
  obtain ⟨payload, flag, entries, kind, rfl⟩ := exists_frame long
  by_cases known : flag = 0 ∨ flag = 1
  · have made : payload.frame flag = payload.toBytes := by
      rw [← frame_flag, kind]
      rcases known with rfl | rfl <;> rfl
    rw [made] at long small ⊢
    rw [length_toBytes] at small
    rw [decode?_toBytes small entries.symm]
    exact .accepted long entries rfl
  · obtain ⟨notData, notAck⟩ := not_or.mp known
    rw [decode?_frame small entries.symm, ackFlag?_of_invalid notData notAck]
    exact .invalidAckFlag (.inl long) (payload.getElem?_frame flag) notData
      notAck

theorem verdict_of_uncounted {bytes : List UInt8} {clockLength : UInt64}
    (small : bytes.length ≤ 65535)
    (uncounted : 18446744073709551616 ≤
      13 + 4 * countedEntries clockLength) :
    Verdict bytes (countedEntries clockLength) (decode? bytes clockLength) := by
  by_cases short : bytes.length < 13
  · rw [decode?_of_short short]
    exact .tooShort short
  obtain ⟨flag, found⟩ : ∃ flag, bytes[12]? = some flag :=
    ⟨_, List.getElem?_eq_getElem (Nat.not_lt.mp short)⟩
  rw [decode?_of_uncounted found small uncounted]
  by_cases data : flag = 0
  · subst data
    exact .astray uncounted (.inl found)
  by_cases ack : flag = 1
  · subst ack
    exact .astray uncounted (.inr found)
  rw [ackFlag?_of_invalid data ack]
  exact .invalidAckFlag (.inr uncounted) found data ack

theorem verdict_decode? {bytes : List UInt8} (small : bytes.length ≤ 65535)
    (clockLength : UInt64) :
    Verdict bytes (countedEntries clockLength) (decode? bytes clockLength) :=
  (Nat.lt_or_ge _ _).elim (verdict_of_counted small)
    (verdict_of_uncounted small)

theorem not_known_of_found {bytes : List UInt8} {flag : UInt8}
    (found : bytes[12]? = some flag) (notData : flag ≠ 0) (notAck : flag ≠ 1) :
    ¬(bytes[12]? = some 0 ∨ bytes[12]? = some 1) := by
  rw [found, Option.some.injEq, Option.some.injEq]
  exact not_or.mpr ⟨notData, notAck⟩

section Outcomes

variable {bytes : List UInt8} {clockLength : UInt64}
variable (small : bytes.length ≤ 65535)

include small

theorem decode?_eq_tooShort_iff :
    decode? bytes clockLength = some (.error (.tooShort bytes.length)) ↔
      bytes.length < 13 := by
  constructor
  · intro rejected
    have verdict := verdict_decode? small clockLength
    rw [rejected] at verdict
    cases verdict with
    | tooShort short => exact short
  · exact decode?_of_short

theorem decode?_eq_clockTruncated_iff
    (counted : 13 + 4 * countedEntries clockLength < 18446744073709551616) :
    decode? bytes clockLength = some (.error
        (.clockTruncated bytes.length
          (13 + 4 * countedEntries clockLength))) ↔
      13 ≤ bytes.length ∧
        bytes.length < 13 + 4 * countedEntries clockLength := by
  constructor
  · intro rejected
    have verdict := verdict_decode? small clockLength
    rw [rejected] at verdict
    cases verdict with
    | clockTruncated header truncated => exact ⟨header, truncated⟩
  · exact fun ⟨header, truncated⟩ =>
      decode?_of_truncated header truncated counted

theorem decode?_eq_invalidAckFlag_iff {flag : UInt8} :
    decode? bytes clockLength = some (.error (.invalidAckFlag flag)) ↔
      (13 + 4 * countedEntries clockLength ≤ bytes.length ∨
        18446744073709551616 ≤ 13 + 4 * countedEntries clockLength) ∧
        bytes[12]? = some flag ∧ flag ≠ 0 ∧ flag ≠ 1 := by
  have verdict := verdict_decode? small clockLength
  constructor
  · intro rejected
    rw [rejected] at verdict
    cases verdict with
    | invalidAckFlag room found notData notAck =>
        exact ⟨room, found, notData, notAck⟩
  · rintro ⟨room, found, notData, notAck⟩
    obtain ⟨inRange, _⟩ := List.getElem?_eq_some_iff.mp found
    generalize decode? bytes clockLength = result at verdict
    cases verdict with
    | tooShort short => omega
    | clockTruncated _ truncated counted => omega
    | invalidAckFlag _ other => rw [found] at other; cases other; rfl
    | @accepted payload _ _ made =>
        have known := payload.flag_toBytes
        rw [← made] at known
        exact absurd known (not_known_of_found found notData notAck)
    | astray _ known =>
        exact absurd known (not_known_of_found found notData notAck)

/-- What is accepted is the datagram of the payload that is read. -/
theorem of_decode?_eq_ok {payload : Payload}
    (decoded : decode? bytes clockLength = some (.ok payload)) :
    13 + 4 * countedEntries clockLength ≤ bytes.length ∧
      payload.clock.length = countedEntries clockLength ∧
      bytes = payload.toBytes := by
  have verdict := verdict_decode? small clockLength
  rw [decoded] at verdict
  cases verdict with
  | accepted long length made => exact ⟨long, length, made⟩

theorem exists_decode?_eq_ok_iff :
    (∃ payload, decode? bytes clockLength = some (.ok payload)) ↔
      13 + 4 * countedEntries clockLength ≤ bytes.length ∧
        (bytes[12]? = some 0 ∨ bytes[12]? = some 1) := by
  constructor
  · rintro ⟨payload, decoded⟩
    obtain ⟨long, _, rfl⟩ := of_decode?_eq_ok small decoded
    exact ⟨long, payload.flag_toBytes⟩
  · rintro ⟨long, known⟩
    have verdict := verdict_decode? small clockLength
    generalize decode? bytes clockLength = result at verdict
    cases verdict with
    | tooShort short => omega
    | clockTruncated _ truncated => omega
    | invalidAckFlag _ found notData notAck =>
        exact absurd known (not_known_of_found found notData notAck)
    | @accepted payload => exact ⟨payload, rfl⟩
    | astray uncounted => omega

/-- The reader fails to answer exactly when a word cannot count the bytes of
header and clock and it gets as far as the clock. -/
theorem decode?_eq_none_iff :
    decode? bytes clockLength = none ↔
      18446744073709551616 ≤ 13 + 4 * countedEntries clockLength ∧
        (bytes[12]? = some 0 ∨ bytes[12]? = some 1) := by
  have verdict := verdict_decode? small clockLength
  constructor
  · intro silent
    rw [silent] at verdict
    cases verdict with
    | astray uncounted known => exact ⟨uncounted, known⟩
  · rintro ⟨uncounted, known⟩
    generalize decode? bytes clockLength = result at verdict
    cases verdict with
    | tooShort short =>
        have outside := List.getElem?_eq_none (Nat.le_of_lt_succ short)
        simp [outside] at known
    | clockTruncated _ _ counted => omega
    | invalidAckFlag _ found notData notAck =>
        exact absurd known (not_known_of_found found notData notAck)
    | accepted long => omega
    | astray => rfl

end Outcomes

theorem decode?_take_toBytes {payload : Payload} {clockLength : Nat}
    (fits : payload.encodedLength ≤ maxDatagram)
    (length : payload.clock.length = clockLength) :
    decode? (payload.toBytes.take maxDatagram) (UInt64.ofNat clockLength) =
      some (.ok payload) := by
  have whole : payload.toBytes.take maxDatagram = payload.toBytes :=
    List.take_of_length_le (by simpa using fits)
  have entries : countedEntries (UInt64.ofNat clockLength) =
      payload.clock.length := by
    rw [length, countedEntries_ofNat]
    simp only [encodedLength, entryLength, maxDatagram, length] at fits
    omega
  rw [whole]
  exact decode?_toBytes fits entries

/-! ## Writing and reading -/

/-- A payload that fits in a datagram is written with exactly its length and
read back, and a longer one is refused.  So no two payloads with clocks of one
length have one datagram. -/
theorem encoded_and_read_back (payload : Payload) :
    (13 + payload.content.length + 4 * payload.clock.length ≤ 65535 →
      ∃ bytes, payload.encode = .ok bytes ∧
        bytes.length = payload.encodedLength ∧
        decode? bytes (UInt64.ofNat payload.clock.length) =
          some (.ok payload)) ∧
      (65535 < 13 + payload.content.length + 4 * payload.clock.length →
        payload.encode = .error (.tooLarge payload.encodedLength)) ∧
      ∀ (other : Payload) (bytes : List UInt8),
        payload.clock.length = other.clock.length →
        payload.encode = .ok bytes → other.encode = .ok bytes →
          payload = other := by
  have length : payload.encodedLength =
      13 + payload.content.length + 4 * payload.clock.length := by
    rw [encodedLength, headerLength, entryLength, Nat.mul_comm 4]
  refine ⟨?_, ?_, ?_⟩
  · intro fits
    have entries : countedEntries (UInt64.ofNat payload.clock.length) =
        payload.clock.length :=
      countedEntries_ofNat (by omega)
    rw [← length] at fits
    exact ⟨payload.toBytes, encode_eq_ok fits, payload.length_toBytes,
      decode?_toBytes fits entries⟩
  · intro large
    rw [← length] at large
    rw [encode, maxDatagram, if_pos large]
  · intro other bytes alike encoded otherEncoded
    apply toBytes_injective alike
    rw [← toBytes_of_encode encoded, ← toBytes_of_encode otherEncoded]

/-- The largest payload with a clock of three entries fills a datagram. -/
theorem read_back_at_limit :
    ∃ bytes, (⟨7, 2, 1, true, List.replicate 65510 120, [0, 4, 1]⟩ :
        Payload).encode = .ok bytes ∧ bytes.length = 65535 ∧
      decode? bytes 3 =
        some (.ok ⟨7, 2, 1, true, List.replicate 65510 120, [0, 4, 1]⟩) := by
  let largest : Payload :=
    ⟨7, 2, 1, true, List.replicate 65510 120, [0, 4, 1]⟩
  have content : largest.content.length = 65510 := List.length_replicate
  have clock : largest.clock.length = 3 := rfl
  have fits : 13 + largest.content.length + 4 * largest.clock.length ≤
      65535 := by
    omega
  obtain ⟨bytes, encoded, length, decoded⟩ :=
    (encoded_and_read_back largest).1 fits
  refine ⟨bytes, encoded, ?_, decoded⟩
  simp only [length, encodedLength, content, clock, headerLength, entryLength]

/-- As long as a word can count the bytes of header and clock, a byte string is
rejected for the first of three reasons that applies: it has no room for a
header, it has no room for the clock, or its flag means nothing.  Otherwise it
is the datagram of the payload that is read, and no field is looked for outside
the byte string.  When a word cannot count them, no byte string is found too
short for the clock, and one with a meaningful flag gets no answer.  The clock
has as many entries as the reader is told, unless the number is 2^62 or more. -/
theorem accepted_exactly (bytes : List UInt8) (small : bytes.length ≤ 65535)
    (clockLength : UInt64) :
    (decode? bytes clockLength = some (.error (.tooShort bytes.length)) ↔
        bytes.length < 13) ∧
      ((∃ payload, decode? bytes clockLength = some (.ok payload)) ↔
        13 + 4 * countedEntries clockLength ≤ bytes.length ∧
          (bytes[12]? = some 0 ∨ bytes[12]? = some 1)) ∧
      (∀ payload, decode? bytes clockLength = some (.ok payload) →
        payload.clock.length = countedEntries clockLength ∧
          payload.isAck = isAckDatagram bytes ∧
          payload.encode = .ok bytes) ∧
      (13 + 4 * countedEntries clockLength < 18446744073709551616 →
        (decode? bytes clockLength = some (.error
            (.clockTruncated bytes.length
              (13 + 4 * countedEntries clockLength))) ↔
          13 ≤ bytes.length ∧
            bytes.length < 13 + 4 * countedEntries clockLength) ∧
        (∀ flag, decode? bytes clockLength =
            some (.error (.invalidAckFlag flag)) ↔
          13 + 4 * countedEntries clockLength ≤ bytes.length ∧
            bytes[12]? = some flag ∧ flag ≠ 0 ∧ flag ≠ 1) ∧
        (decode? bytes clockLength).isSome = true) ∧
      (18446744073709551616 ≤ 13 + 4 * countedEntries clockLength →
        (∀ flag, decode? bytes clockLength =
            some (.error (.invalidAckFlag flag)) ↔
          bytes[12]? = some flag ∧ flag ≠ 0 ∧ flag ≠ 1) ∧
        (decode? bytes clockLength = none ↔
          bytes[12]? = some 0 ∨ bytes[12]? = some 1)) ∧
      (countedEntries clockLength = clockLength.toNat ↔
        clockLength.toNat < 4611686018427387904) := by
  refine ⟨decode?_eq_tooShort_iff small, exists_decode?_eq_ok_iff small, ?_, ?_,
    ?_, countedEntries_eq_iff⟩
  · intro payload decoded
    obtain ⟨_, length, rfl⟩ := of_decode?_eq_ok small decoded
    rw [length_toBytes] at small
    exact ⟨length, payload.isAckDatagram_toBytes.symm, encode_eq_ok small⟩
  · intro counted
    refine ⟨decode?_eq_clockTruncated_iff small counted, fun flag => ?_, ?_⟩
    · rw [decode?_eq_invalidAckFlag_iff small,
        or_iff_left (Nat.not_le.mpr counted)]
    · rw [Option.isSome_iff_ne_none, Ne, decode?_eq_none_iff small]
      exact fun silent => absurd silent.1 (Nat.not_le.mpr counted)
  · intro uncounted
    refine ⟨fun flag => ?_, ?_⟩
    · rw [decode?_eq_invalidAckFlag_iff small, and_iff_right (.inr uncounted)]
    · rw [decode?_eq_none_iff small, and_iff_right uncounted]

/-- An acknowledgement with one byte of content and a clock of two entries, and
a header on its own with a clock whose bytes no word can count. -/
theorem accepted_of_acknowledgement :
    (∃ payload, decode? [0, 0, 0, 7, 0, 0, 0, 2, 0, 0, 0, 1, 1, 104,
          0, 0, 0, 0, 0, 0, 1, 3] 2 = some (.ok payload) ∧
      payload.clock.length = 2 ∧ payload.isAck = true ∧
      payload.encode = .ok [0, 0, 0, 7, 0, 0, 0, 2, 0, 0, 0, 1, 1, 104,
          0, 0, 0, 0, 0, 0, 1, 3]) ∧
      (decode? [0, 0, 0, 7, 0, 0, 0, 2, 0, 0, 0, 1, 1, 104,
          0, 0, 0, 0, 0, 0, 1, 3] 2).isSome = true ∧
      decode? (List.replicate 13 0) 4611686018427387901 = none := by
  obtain ⟨_, accepted, faithful, answered, _⟩ := accepted_exactly
    [0, 0, 0, 7, 0, 0, 0, 2, 0, 0, 0, 1, 1, 104, 0, 0, 0, 0, 0, 0, 1, 3]
    (by decide) 2
  obtain ⟨payload, decoded⟩ := accepted.mpr ⟨by decide, .inr rfl⟩
  obtain ⟨length, kind, encoded⟩ := faithful payload decoded
  obtain ⟨_, _, _, _, astray, _⟩ := accepted_exactly (List.replicate 13 0)
    (by decide) 4611686018427387901
  exact ⟨⟨payload, decoded, length, kind, encoded⟩,
    (answered (by decide)).2.2, (astray (by decide)).2.mpr (.inl rfl)⟩

/-- A header on its own has no room for a clock of one entry or more.  Told
that there are 2^62 - 1 entries, the reader looks for fields outside the byte
string; and told that there are 2^62, it accepts an empty clock. -/
theorem astray_beyond_word :
    decode? (List.replicate 13 0) 4611686018427387903 = none ∧
      decode? (List.replicate 13 0) 4611686018427387904 =
        some (.ok ⟨0, 0, 0, false, [], []⟩) :=
  ⟨rfl, rfl⟩

end Payload

end CausalCast
