import CausalCast.Payload

/-!
# Datagrams

A datagram carries one payload.  It begins with three words, the sequence
number, the sender and the owner, and one byte that tells acknowledgements
from data.  The content follows, and the entries of the vector clock come
last, one word each.  Words have four bytes, the most significant first.  The
length of the content is not stored: it is what header and clock leave over,
so a reader has to know the length of the clock.
-/

namespace CausalCast

/-- Why a payload and a datagram do not go together. -/
inductive PacketError where
  | tooShort (length : Nat)
  | clockTruncated (length needed : Nat)
  | invalidAckFlag (flag : UInt8)
  | tooLarge (length : Nat)
deriving DecidableEq, Repr

namespace PacketError

def hexByte (byte : UInt8) : String :=
  let digits := Nat.toDigits 16 byte.toNat
  "0x" ++ String.ofList (List.replicate (2 - digits.length) '0' ++ digits)

def message : PacketError → String
  | tooShort length =>
      s!"datagram of {length} bytes is too short to contain a header"
  | clockTruncated length needed =>
      s!"datagram of {length} bytes cannot hold the vector clock " ++
        s!"({needed} bytes needed)"
  | invalidAckFlag flag => "invalid ack flag " ++ hexByte flag
  | tooLarge length =>
      s!"encoded payload of {length} bytes exceeds the datagram limit"

end PacketError

namespace Word

/-- The four bytes of a word, the most significant first. -/
def toBytes (word : UInt32) : List UInt8 :=
  [UInt8.ofNat (word.toNat / 0x1000000), UInt8.ofNat (word.toNat / 0x10000),
   UInt8.ofNat (word.toNat / 0x100), UInt8.ofNat word.toNat]

def ofBytes (a b c d : UInt8) : UInt32 :=
  UInt32.ofNat
    (a.toNat * 0x1000000 + b.toNat * 0x10000 + c.toNat * 0x100 + d.toNat)

def listToBytes (words : List UInt32) : List UInt8 :=
  words.flatMap toBytes

/-- The words of a byte string; bytes that fill no word are left out. -/
def listOfBytes : List UInt8 → List UInt32
  | a :: b :: c :: d :: rest => ofBytes a b c d :: listOfBytes rest
  | _ => []

/-- The word at a position of a byte string, if all of its bytes are there. -/
def at? (bytes : List UInt8) (position : Nat) : Option UInt32 := do
  let a ← bytes[position]?
  let b ← bytes[position + 1]?
  let c ← bytes[position + 2]?
  let d ← bytes[position + 3]?
  some (ofBytes a b c d)

@[simp] theorem length_toBytes (word : UInt32) : (toBytes word).length = 4 := rfl

theorem ofBytes_toBytes (word : UInt32) :
    listOfBytes (toBytes word) = [word] := by
  have bound := word.toNat_lt
  simp only [toBytes, listOfBytes, ofBytes, List.cons.injEq, and_true]
  apply UInt32.toNat_inj.mp
  simp only [UInt8.toNat_ofNat', UInt32.toNat_ofNat']
  omega

@[simp] theorem length_listToBytes (words : List UInt32) :
    (listToBytes words).length = 4 * words.length := by
  induction words with
  | nil => rfl
  | cons word words induction =>
      simp only [listToBytes, List.flatMap_cons, List.length_append,
        length_toBytes, List.length_cons] at *
      omega

end Word

namespace Payload

/-- The length of a datagram before its content. -/
def headerLength : Nat := 13

/-- The length of one clock entry in a datagram. -/
def entryLength : Nat := 4

/-- The length of the longest datagram. -/
def maxDatagram : Nat := 65535

/-- Where a datagram tells acknowledgements from data. -/
def flagOffset : Nat := 12

/-- The length of the datagram of a payload. -/
def encodedLength (payload : Payload) : Nat :=
  headerLength + payload.content.length + payload.clock.length * entryLength

/-- The bytes of a payload, whatever their number. -/
def toBytes (payload : Payload) : List UInt8 :=
  Word.toBytes payload.uid ++ Word.toBytes payload.sender ++
    Word.toBytes payload.owner ++ [if payload.isAck then 1 else 0] ++
    payload.content ++ Word.listToBytes payload.clock

/-- The datagram of a payload; refused when it would be too long. -/
def encode (payload : Payload) : Except PacketError (List UInt8) :=
  if maxDatagram < payload.encodedLength then
    .error (.tooLarge payload.encodedLength)
  else .ok payload.toBytes

/-- What the flag byte says: data, acknowledgement, or nothing. -/
def ackFlag? (flag : UInt8) : Option Bool :=
  if flag = 0 then some false else if flag = 1 then some true else none

/-- The bytes between two positions, if the positions are in order and in
range. -/
def slice? (bytes : List UInt8) (start stop : Nat) : Option (List UInt8) :=
  if start ≤ stop ∧ stop ≤ bytes.length then
    some ((bytes.take stop).drop start)
  else none

/-- The payload of a datagram with a clock of `clockLength` entries.  The
lengths are words of 64 bits, which wrap around.  There is no answer as soon
as a field is looked for outside the byte string. -/
def decode? (bytes : List UInt8) (clockLength : UInt64) :
    Option (Except PacketError Payload) :=
  let clockBytes := clockLength * UInt64.ofNat entryLength
  let needed := UInt64.ofNat headerLength + clockBytes
  if bytes.length < headerLength then
    some (.error (.tooShort bytes.length))
  else if bytes.length < needed.toNat then
    some (.error (.clockTruncated bytes.length needed.toNat))
  else do
    let flag ← bytes[flagOffset]?
    match ackFlag? flag with
    | none => some (.error (.invalidAckFlag flag))
    | some isAck =>
        let contentEnd := (UInt64.ofNat bytes.length - clockBytes).toNat
        let clock ← slice? bytes contentEnd bytes.length
        let uid ← Word.at? bytes 0
        let sender ← Word.at? bytes 4
        let owner ← Word.at? bytes 8
        let content ← slice? bytes headerLength contentEnd
        some (.ok ⟨uid, sender, owner, isAck, content, Word.listOfBytes clock⟩)

/-- Whether a byte string would be read as an acknowledgement, judged by its
flag byte alone. -/
def isAckDatagram (bytes : List UInt8) : Bool :=
  bytes[flagOffset]? == some 1

@[simp] theorem length_toBytes (payload : Payload) :
    payload.toBytes.length = payload.encodedLength := by
  simp only [toBytes, encodedLength, headerLength, entryLength,
    List.length_append, Word.length_toBytes, List.length_singleton,
    Word.length_listToBytes]
  omega

@[simp] theorem encodedLength_stamped (payload : Payload) (sender : NodeId) :
    (payload.stamped sender).encodedLength = payload.encodedLength := rfl

@[simp] theorem encodedLength_toAck (payload : Payload) :
    payload.toAck.encodedLength = payload.encodedLength := rfl

end Payload

end CausalCast
