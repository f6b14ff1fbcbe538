/-!
# UTF-8

Bytes are read as a sequence of segments.  A segment is either one scalar
value or a malformed stretch: the longest run of bytes that could still begin
a scalar value and then cannot go on, or a single byte that begins none.

Strict reading refuses any malformed segment.  Lenient reading puts one
replacement character in the place of each.
-/

namespace CausalCast.Text.Utf8

/-- One step of reading: a scalar value, or a stretch that is none. -/
inductive Segment where
  | scalar (value : Nat)
  | malformed
deriving DecidableEq, Repr

/-- The six bits that a continuation byte carries. -/
def tailBits (byte : UInt8) : Nat :=
  byte.toNat % 64

/-- What a leading byte announces: its own bits, how many continuation bytes
follow, and the closed range that the first of them must lie in.  The range
excludes overlong forms, surrogates and values above U+10FFFF. -/
def lead? (byte : UInt8) : Option (Nat × Nat × UInt8 × UInt8) :=
  if byte < 0x80 then some (byte.toNat, 0, 0x80, 0xBF)
  else if byte < 0xC2 then none
  else if byte < 0xE0 then some (byte.toNat % 32, 1, 0x80, 0xBF)
  else if byte < 0xF0 then
    some (byte.toNat % 16, 2, if byte = 0xE0 then 0xA0 else 0x80,
      if byte = 0xED then 0x9F else 0xBF)
  else if byte < 0xF5 then
    some (byte.toNat % 8, 3, if byte = 0xF0 then 0x90 else 0x80,
      if byte = 0xF4 then 0x8F else 0xBF)
  else none

/-- Read `missing` more continuation bytes; the first has to lie between
`low` and `high`. -/
def tails (value : Nat) : Nat → UInt8 → UInt8 → List UInt8 → Segment × List UInt8
  | 0, _, _, rest => (.scalar value, rest)
  | _ + 1, _, _, [] => (.malformed, [])
  | missing + 1, low, high, byte :: rest =>
      if low ≤ byte && byte ≤ high then
        tails (64 * value + tailBits byte) missing 0x80 0xBF rest
      else (.malformed, byte :: rest)

theorem length_tails_le (value missing : Nat) (low high : UInt8)
    (bytes : List UInt8) :
    (tails value missing low high bytes).2.length ≤ bytes.length := by
  fun_induction tails value missing low high bytes with
  | case1 => simp
  | case2 => simp
  | case3 value missing low high byte rest _ induction =>
      simp only [List.length_cons]
      omega
  | case4 => simp

def segments : List UInt8 → List Segment
  | [] => []
  | byte :: rest =>
      match lead? byte with
      | none => .malformed :: segments rest
      | some (value, missing, low, high) =>
          let step := tails value missing low high rest
          step.1 :: segments step.2
termination_by bytes => bytes.length
decreasing_by
  · simp
  · have shorter := length_tails_le value missing low high rest
    simp only [List.length_cons]
    omega

/-- The character of a segment; a malformed one becomes U+FFFD. -/
def Segment.replaced : Segment → Char
  | .scalar value => Char.ofNat value
  | .malformed => '\ufffd'

def decodeLossy (bytes : List UInt8) : List Char :=
  (segments bytes).map Segment.replaced

def decode? (bytes : List UInt8) : Option (List Char) :=
  let parts := segments bytes
  if parts.contains .malformed then none
  else some (parts.map Segment.replaced)

def encodeChar (character : Char) : List UInt8 :=
  let value := character.toNat
  let byte (offset bits : Nat) : UInt8 := UInt8.ofNat (offset + bits)
  if value < 0x80 then [byte 0 value]
  else if value < 0x800 then
    [byte 0xC0 (value / 64), byte 0x80 (value % 64)]
  else if value < 0x10000 then
    [byte 0xE0 (value / 4096), byte 0x80 (value / 64 % 64),
      byte 0x80 (value % 64)]
  else
    [byte 0xF0 (value / 262144), byte 0x80 (value / 4096 % 64),
      byte 0x80 (value / 64 % 64), byte 0x80 (value % 64)]

def encode (text : List Char) : List UInt8 :=
  text.flatMap encodeChar

@[simp] theorem encode_nil : encode [] = [] := rfl

@[simp] theorem encode_append (first second : List Char) :
    encode (first ++ second) = encode first ++ encode second := by
  simp [encode]

end CausalCast.Text.Utf8
