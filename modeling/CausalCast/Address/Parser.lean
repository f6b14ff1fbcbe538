import CausalCast.Address

/-!
# Reading addresses

An IPv4 literal is four decimal bytes of at most three digits without leading
zeros.  An IPv6 literal is eight groups of at most four hexadecimal digits;
one double colon may stand for one or more zero groups, and the last two
groups may be written as an IPv4 literal.  Each reader takes what it can from
the front of a text and returns the rest.

Hosts may also be given in older notations.  An IPv4 host is then up to four
numbers, each octal after a zero and hexadecimal after `0x`; the last one
fills all bytes that the others leave.  An IPv6 literal may name the scope in
which it holds.
-/

namespace CausalCast

/-- The value of a digit in a base up to sixteen. -/
def hexDigitValue? (base : Nat) (character : Char) : Option Nat :=
  let value :=
    if '0' ≤ character ∧ character ≤ '9' then
      some (character.toNat - '0'.toNat)
    else if 'a' ≤ character ∧ character ≤ 'f' then
      some (character.toNat - 'a'.toNat + 10)
    else if 'A' ≤ character ∧ character ≤ 'F' then
      some (character.toNat - 'A'.toNat + 10)
    else none
  value.filter (· < base)

/-- The digits at the front of a text, by value, and the rest. -/
def takeDigits (base : Nat) : List Char → List Nat × List Char
  | [] => ([], [])
  | character :: rest =>
      match hexDigitValue? base character with
      | some digit =>
          let (digits, remainder) := takeDigits base rest
          (digit :: digits, remainder)
      | none => ([], character :: rest)

/-- A number at the front of a text, below `bound`, with between one digit
and `width` digits. -/
def takeNumber? (base width bound : Nat) (leadingZeros : Bool)
    (text : List Char) : Option (Nat × List Char) :=
  let (digits, rest) := takeDigits base text
  let value :=
    digits.foldl (fun value digit => min bound (base * value + digit)) 0
  if digits.isEmpty || width < digits.length || bound ≤ value then none
  else if !leadingZeros && digits.head? == some 0 && 1 < digits.length then none
  else some (value, rest)

/-- A given character at the front of a text. -/
def takeChar? (expected : Char) : List Char → Option (List Char)
  | [] => none
  | character :: rest => if character = expected then some rest else none

namespace IPv4

/-- One byte of an IPv4 literal at the front of a text. -/
def takeByte? (text : List Char) : Option (UInt8 × List Char) :=
  (takeNumber? 10 3 256 false text).map fun (value, rest) =>
    (UInt8.ofNat value, rest)

/-- An IPv4 literal at the front of a text. -/
def take? (text : List Char) : Option (IPv4 × List Char) := do
  let (a, text) ← takeByte? text
  let text ← takeChar? '.' text
  let (b, text) ← takeByte? text
  let text ← takeChar? '.' text
  let (c, text) ← takeByte? text
  let text ← takeChar? '.' text
  let (d, text) ← takeByte? text
  pure (⟨a, b, c, d⟩, text)

def parse? (text : List Char) : Option IPv4 :=
  match take? text with
  | some (host, []) => some host
  | _ => none

/-- The number of at most 32 bits that the whole text denotes in a base. -/
def number? (base : Nat) (text : List Char) : Option Nat :=
  match takeNumber? base text.length 0x100000000 true text with
  | some (value, []) => some value
  | _ => none

/-- One number of an older notation. -/
def part? : List Char → Option Nat
  | ['0'] => some 0
  | '0' :: 'x' :: digits => number? 16 digits
  | '0' :: 'X' :: digits => number? 16 digits
  | '0' :: digits => number? 8 digits
  | digits => number? 10 digits

/-- The pieces of a text between its dots. -/
def pieces : List Char → List (List Char)
  | [] => [[]]
  | '.' :: rest => [] :: pieces rest
  | character :: rest =>
      match pieces rest with
      | piece :: others => (character :: piece) :: others
      | [] => [[character]]

def ofNumber (number : Nat) : IPv4 :=
  ⟨UInt8.ofNat (number / 0x1000000), UInt8.ofNat (number / 0x10000),
   UInt8.ofNat (number / 0x100), UInt8.ofNat number⟩

/-- The host of which `leading` are the first bytes and `last` is the number
that the other bytes make. -/
def ofParts? (leading : List Nat) (last : Nat) : Option IPv4 :=
  let room := Nat.pow 256 (4 - leading.length)
  if 3 < leading.length || leading.any (256 ≤ ·) || room ≤ last then none
  else some (ofNumber
    (leading.foldl (fun value byte => 256 * value + byte) 0 * room + last))

/-- The IPv4 host that the whole text denotes in an older notation. -/
def parseOlder? (text : List Char) : Option IPv4 :=
  match (pieces text).mapM part? with
  | some parts => parts.getLast?.bind (ofParts? parts.dropLast)
  | none => none

end IPv4

namespace IPv6

def groupsOf (host : IPv4) : List UInt16 :=
  [host.a.toUInt16 <<< 8 ||| host.b.toUInt16,
   host.c.toUInt16 <<< 8 ||| host.d.toUInt16]

/-- Groups at the front of a text, at most `room`, and the rest.  A group
after the first is preceded by a colon.  An IPv4 literal fills two groups and
ends the reading; the third answer tells whether one did. -/
def takeGroups (isFirst : Bool) : Nat → List Char → List UInt16 × List Char × Bool
  | 0, text => ([], text, false)
  | room + 1, text =>
      let entry := if isFirst then some text else takeChar? ':' text
      let inner := if room = 0 then none else entry.bind IPv4.take?
      match inner with
      | some (host, rest) => (groupsOf host, rest, true)
      | none =>
          match entry.bind (takeNumber? 16 4 0x10000 true) with
          | some (value, rest) =>
              let (groups, rest, embedded) := takeGroups false room rest
              (UInt16.ofNat value :: groups, rest, embedded)
          | none => ([], text, false)

/-- A host from groups before and after a run of zeros that fills it up. -/
def ofGroups (before after : List UInt16) : IPv6 :=
  let zeros := List.replicate (8 - before.length - after.length) 0
  let groups := before ++ zeros ++ after
  ⟨Vector.ofFn fun index => groups.getD index.val 0⟩

/-- An IPv6 literal at the front of a text. -/
def take? (text : List Char) : Option (IPv6 × List Char) :=
  let (before, rest, embedded) := takeGroups true 8 text
  if before.length = 8 then some (ofGroups before [], rest)
  else if embedded then none
  else do
    let rest ← takeChar? ':' rest
    let rest ← takeChar? ':' rest
    let (after, rest, _) := takeGroups true (7 - before.length) rest
    pure (ofGroups before after, rest)

/-- The IPv6 host that the whole text denotes, without a scope. -/
def parse? (text : List Char) : Option IPv6 :=
  match take? text with
  | some (host, []) => some host
  | _ => none

/-- Whether a host holds only on one link or one machine: the unicast hosts
below `fe80::/10`, and the multicast hosts of scope one or two. -/
def isLocal (host : IPv6) : Bool :=
  let first := host.groups[0]
  first &&& 0xFFC0 == 0xFE80 || first &&& 0xFF0F == 0xFF01 ||
    first &&& 0xFF0F == 0xFF02

/-- Whether a text names a scope for a host: by number, or, for a host that
holds locally, as the loopback interface. -/
def isScope (host : IPv6) (text : List Char) : Bool :=
  (IPv4.number? 10 text).isSome || host.isLocal && text = "lo".toList

/-- Whether the whole text is an IPv6 literal, with or without a scope. -/
def isLiteral (text : List Char) : Bool :=
  match take? text with
  | some (_, []) => true
  | some (host, '%' :: scope) => host.isScope scope
  | _ => false

end IPv6

namespace Address

def parsePort? (text : List Char) : Option UInt16 :=
  match takeNumber? 10 text.length 0x10000 true text with
  | some (value, []) => some (UInt16.ofNat value)
  | _ => none

/-- The scope that may follow an IPv6 host. -/
def takeScope? (text : List Char) : Option (UInt32 × List Char) :=
  match takeChar? '%' text with
  | none => some (0, text)
  | some rest =>
      (takeNumber? 10 rest.length 0x100000000 true rest).map fun (value, rest) =>
        (UInt32.ofNat value, rest)

def parseV4? (text : List Char) : Option Address := do
  let (host, rest) ← IPv4.take? text
  let port ← (takeChar? ':' rest).bind parsePort?
  pure (.v4 host port)

def parseV6? (text : List Char) : Option Address := do
  let rest ← takeChar? '[' text
  let (host, rest) ← IPv6.take? rest
  let (scope, rest) ← takeScope? rest
  let rest ← takeChar? ']' rest
  let port ← (takeChar? ':' rest).bind parsePort?
  pure (.v6 host scope port)

def parse? (text : List Char) : Option Address :=
  (parseV4? text).or (parseV6? text)

end Address

end CausalCast
