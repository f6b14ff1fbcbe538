import CausalCast.Membership.Parser
import CausalCast.Proofs.Address.Literals
import CausalCast.Proofs.Membership.Admission
import CausalCast.Proofs.Outcomes
import CausalCast.Proofs.Text.Layout
import CausalCast.Proofs.Text.Numerals

/-!
# What a hosts file says

`Listing` says which nodes a text lists: one on each line that is not blank, by
an id, an IPv4 literal and a port.  A text lists nodes or it has a first line
that does not, and that line decides the error.  The ids are looked at when all
lines are read.

A host that is no literal has to be looked up.  What is said here holds of every
lookup, and supposes that no line that is read has such a host.
-/

namespace CausalCast

open Text

namespace Member

/-! ## Lines -/

/-- A line of three words: the numeral of an id, any host, and the numeral of a
port. -/
inductive Columns (line : List Char) (id : NodeId) (host : List Char)
    (port : UInt16) : Prop where
  | mk {first last : List Char} (words : Words line [first, host, last])
      (id_numeral : Numeral first id.toNat)
      (port_numeral : Numeral last port.toNat)

/-- A line that lists a node. -/
inductive Lists (line : List Char) : Member → Prop where
  | mk {id : NodeId} {host : IPv4} {port : UInt16}
      (columns : Columns line id host.toText.toList port) :
      Lists line ⟨id, .v4 host port⟩

inductive Rows : List (List Char) → List Member → Prop where
  | nil : Rows [] []
  | blank {line : List Char} {lines : List (List Char)} {members : List Member}
      (blank : Words line []) (later : Rows lines members) :
      Rows (line :: lines) members
  | entry {line : List Char} {lines : List (List Char)} {member : Member}
      {members : List Member} (lists : Lists line member)
      (later : Rows lines members) : Rows (line :: lines) (member :: members)

theorem columns_iff {line : List Char} {id : NodeId} {host : List Char}
    {port : UInt16} :
    Columns line id host port ↔ ∃ first last,
      fields line = [first, host, last] ∧ unsigned32? first = some id ∧
        unsigned16? last = some port := by
  simp only [fields_eq_iff, unsigned32?_eq_some_iff, unsigned16?_eq_some_iff]
  constructor
  · rintro ⟨words, numeral, portNumeral⟩
    exact ⟨_, _, words, numeral, portNumeral⟩
  · rintro ⟨_, _, words, numeral, portNumeral⟩
    exact ⟨words, numeral, portNumeral⟩

theorem Columns.not_blank {line : List Char} {id : NodeId} {host : List Char}
    {port : UInt16} (columns : Columns line id host port) : ¬Words line [] := by
  intro blank
  obtain ⟨words, _, _⟩ := columns
  have same := words.unique blank
  contradiction

theorem Lists.not_blank {line : List Char} {member : Member}
    (lists : Lists line member) : ¬Words line [] := by
  obtain ⟨columns⟩ := lists
  exact columns.not_blank

section Lookup

variable (lookup : NameLookup)

/-! ## One line -/

theorem hostOfText_of_literal (host : IPv4) :
    hostOfText lookup host.toText.toList = .ok host := by
  have read := IPv4.parse?_eq_some_iff.mpr (Eq.refl host.toText.toList)
  rw [hostOfText, addressesOfHost, read]

theorem hostOfText_of_parse? {host : List Char} {literal : IPv6}
    (read : IPv6.parse? host = some literal) :
    hostOfText lookup host = .error (.unresolved host .noIPv4) := by
  have colon := IPv6.colon_of_parse? read
  rw [hostOfText, addressesOfHost, IPv4.parse?_of_colon colon, read]
  rfl

theorem ofLine_of_columns {line : List Char} {id : NodeId} {host : List Char}
    {port : UInt16} (columns : Columns line id host port) (number : Nat) :
    ofLine lookup number (trim line) =
      (hostOfText lookup host).map fun address => ⟨id, .v4 address port⟩ := by
  obtain ⟨first, last, split, idRead, portRead⟩ := columns_iff.mp columns
  unfold ofLine
  rw [fields_trim, split]
  dsimp only
  rw [idRead, portRead]
  rfl

theorem ofLine_of_lists {line : List Char} {member : Member}
    (lists : Lists line member) (number : Nat) :
    ofLine lookup number (trim line) = .ok member := by
  cases lists with
  | mk columns =>
      rw [ofLine_of_columns lookup columns, hostOfText_of_literal]
      rfl

theorem ofLine_of_no_columns {line : List Char}
    (other : ∀ id host port, ¬Columns line id host port) (number : Nat) :
    ofLine lookup number (trim line) =
      .error (.malformed number (.notHost (trim line))) := by
  unfold ofLine
  rw [fields_trim]
  dsimp only
  split
  case h_1 first host last split =>
      split
      case h_1 id port idRead portRead =>
          have columns := columns_iff.mpr ⟨first, last, split, idRead, portRead⟩
          exact absurd columns (other id host port)
      case h_2 => rfl
  case h_2 => rfl

/-! ## All lines -/

theorem ofLines_of_blank {line : List Char} (blank : Words line [])
    (before : Nat) (lines : List (List Char)) :
    ofLines lookup (numberedFrom before (line :: lines)) =
      ofLines lookup (numberedFrom (before + 1) lines) := by
  rw [numberedFrom_cons, ofLines, if_pos (isBlankLine_iff.mpr blank)]

theorem ofLines_of_words {line : List Char} (inhabited : ¬Words line [])
    (before : Nat) (lines : List (List Char)) :
    ofLines lookup (numberedFrom before (line :: lines)) = (do
      let member ← ofLine lookup (before + 1) (trim line)
      let members ← ofLines lookup (numberedFrom (before + 1) lines)
      .ok (member :: members)) := by
  have notBlank : ¬isBlankLine line = true :=
    fun blank => inhabited (isBlankLine_iff.mp blank)
  rw [numberedFrom_cons, ofLines, if_neg notBlank]

theorem Rows.ofLines_append {lines : List (List Char)} {members : List Member}
    (rows : Rows lines members) (before : Nat) (rest : List (List Char)) :
    ofLines lookup (numberedFrom before (lines ++ rest)) =
      (ofLines lookup (numberedFrom (before + lines.length) rest)).map
        (members ++ ·) := by
  induction rows generalizing before with
  | nil =>
      rw [List.nil_append, List.length_nil, Nat.add_zero]
      generalize ofLines lookup (numberedFrom before rest) = result
      cases result <;> rfl
  | @blank line lines members blank _ induction =>
      rw [List.cons_append, ofLines_of_blank lookup blank, induction,
        List.length_cons, Nat.add_assoc, Nat.add_comm 1]
  | @entry line lines member members lists _ induction =>
      rw [List.cons_append, ofLines_of_words lookup lists.not_blank,
        ofLine_of_lists lookup lists, induction, List.length_cons, Nat.add_assoc,
        Nat.add_comm 1]
      generalize ofLines lookup (numberedFrom _ rest) = result
      cases result <;> rfl

theorem Rows.ofLines {lines : List (List Char)} {members : List Member}
    (rows : Rows lines members) :
    ofLines lookup (numberedFrom 0 lines) = .ok members := by
  have read := rows.ofLines_append lookup 0 []
  rw [List.append_nil] at read
  rw [read]
  exact congrArg Except.ok (List.append_nil members)

theorem Rows.ofLines_error {earlier : List (List Char)} {members : List Member}
    (rows : Rows earlier members) {line : List Char} (inhabited : ¬Words line [])
    {problem : ConfigError}
    (rejected : ofLine lookup (earlier.length + 1) (trim line) = .error problem)
    (later : List (List Char)) :
    Member.ofLines lookup (numberedFrom 0 (earlier ++ line :: later)) =
      .error problem := by
  rw [rows.ofLines_append, ofLines_of_words lookup inhabited, Nat.zero_add,
    rejected]
  rfl

end Lookup

/-- Either all lines list nodes, or there is a first one that does not. -/
theorem rows_or_first (lines : List (List Char)) :
    (∃ members, Rows lines members) ∨
      ∃ earlier line later members, lines = earlier ++ line :: later ∧
        Rows earlier members ∧ ¬Words line [] ∧
        ∀ member, ¬Lists line member := by
  induction lines with
  | nil => exact .inl ⟨[], .nil⟩
  | cons line lines induction =>
      by_cases blank : Words line []
      · rcases induction with ⟨members, rows⟩ |
          ⟨earlier, faulty, later, members, rfl, rows, fault⟩
        · exact .inl ⟨members, .blank blank rows⟩
        · exact .inr ⟨line :: earlier, faulty, later, members, rfl,
            .blank blank rows, fault⟩
      · by_cases lists : ∃ member, Lists line member
        · obtain ⟨member, lists⟩ := lists
          rcases induction with ⟨members, rows⟩ |
            ⟨earlier, faulty, later, members, rfl, rows, fault⟩
          · exact .inl ⟨member :: members, .entry lists rows⟩
          · exact .inr ⟨line :: earlier, faulty, later, member :: members, rfl,
              .entry lists rows, fault⟩
        · exact .inr ⟨[], line, lines, [], rfl, .nil, blank,
            fun member found => lists ⟨member, found⟩⟩

/-! ## Lines that differ in blanks -/

/-- Lines with the same words in the same order; blank lines may be added and
left out. -/
inductive SameWords : List (List Char) → List (List Char) → Prop where
  | nil : SameWords [] []
  | left {line : List Char} {lines others : List (List Char)}
      (blank : Words line []) (later : SameWords lines others) :
      SameWords (line :: lines) others
  | right {line : List Char} {lines others : List (List Char)}
      (blank : Words line []) (later : SameWords lines others) :
      SameWords lines (line :: others)
  | both {line other : List Char} {words : List (List Char)}
      {lines others : List (List Char)} (here : Words line words)
      (there : Words other words) (later : SameWords lines others) :
      SameWords (line :: lines) (other :: others)

theorem Lists.of_words {line other : List Char} {words : List (List Char)}
    {member : Member} (lists : Lists line member) (here : Words line words)
    (there : Words other words) : Lists other member := by
  cases lists with
  | mk columns =>
      obtain ⟨split, numeral, portNumeral⟩ := columns
      obtain rfl := here.unique split
      exact ⟨⟨there, numeral, portNumeral⟩⟩

theorem Rows.of_sameWords {lines others : List (List Char)}
    {members : List Member} (rows : Rows lines members)
    (same : SameWords lines others) : Rows others members := by
  induction same generalizing members with
  | nil => exact rows
  | left blank _ induction =>
      cases rows with
      | blank _ rows => exact induction rows
      | entry lists => exact absurd blank lists.not_blank
  | right blank _ induction => exact .blank blank (induction rows)
  | both here there _ induction =>
      cases rows with
      | blank blank rows =>
          obtain rfl := here.unique blank
          exact .blank there (induction rows)
      | entry lists rows =>
          exact .entry (lists.of_words here there) (induction rows)

end Member

namespace Membership

open Member

/-! ## Texts -/

/-- The nodes that a text lists. -/
def Listing (text : List Char) (members : List Member) : Prop :=
  ∃ lines, Lines text lines ∧ Rows lines members

/-- The hosts of all lines up to the first that lists no node are literals: none
of them has to be looked up. -/
def Direct (text : List Char) : Prop :=
  ∀ earlier line later members, Lines text (earlier ++ line :: later) →
    Rows earlier members → ∀ id host port, Columns line id host port →
      (∃ literal : IPv4, host = literal.toText.toList) ∨
        ∃ literal, IPv6.parse? host = some literal

/-- The first line of a text that is not blank and lists no node, and what is
wrong with it: it has not the right columns, or its host has no IPv4 address. -/
inductive LineFault (text : List Char) : ConfigError → Prop where
  | malformed {earlier : List (List Char)} {line : List Char}
      {later : List (List Char)} {members : List Member} {core : List Char}
      (split : Lines text (earlier ++ line :: later))
      (rows : Rows earlier members) (inhabited : ¬Words line [])
      (other : ∀ id host port, ¬Columns line id host port)
      (trims : Trims line core) :
      LineFault text (.malformed (earlier.length + 1) (.notHost core))
  | unresolved {earlier : List (List Char)} {line : List Char}
      {later : List (List Char)} {members : List Member} {id : NodeId}
      {host : List Char} {port : UInt16} {literal : IPv6}
      (split : Lines text (earlier ++ line :: later))
      (rows : Rows earlier members) (columns : Columns line id host port)
      (read : IPv6.parse? host = some literal) :
      LineFault text (.unresolved host .noIPv4)

section Lookup

variable (lookup : NameLookup)

theorem ofLines_of_listing {text : List Char} {members : List Member}
    (listing : Listing text members) :
    ofLines lookup (numberedLines text) = .ok members := by
  obtain ⟨lines, made, rows⟩ := listing
  rw [made.numberedLines_eq]
  exact rows.ofLines lookup

theorem ofLines_of_lineFault {text : List Char} {problem : ConfigError}
    (fault : LineFault text problem) :
    ofLines lookup (numberedLines text) = .error problem := by
  cases fault with
  | malformed split rows inhabited other trims =>
      have rejected := ofLine_of_no_columns lookup other
      obtain rfl := trim_eq_iff.mpr trims
      rw [split.numberedLines_eq]
      exact rows.ofLines_error lookup inhabited (rejected _) _
  | unresolved split rows columns read =>
      have rejected := ofLine_of_columns lookup columns
      rw [hostOfText_of_parse? lookup read] at rejected
      rw [split.numberedLines_eq]
      exact rows.ofLines_error lookup columns.not_blank (rejected _) _

theorem listing_or_lineFault {text : List Char} (direct : Direct text) :
    (∃ members, Listing text members) ∨ ∃ problem, LineFault text problem := by
  have made := lines_eq_iff.mp (Eq.refl (lines text))
  rcases rows_or_first (lines text) with ⟨members, rows⟩ |
    ⟨earlier, line, later, members, split, rows, inhabited, unlisted⟩
  · exact .inl ⟨members, _, made, rows⟩
  · rw [split] at made
    right
    by_cases columns : ∃ id host port, Columns line id host port
    · obtain ⟨id, host, port, columns⟩ := columns
      rcases direct earlier line later members made rows id host port columns
        with ⟨literal, rfl⟩ | ⟨literal, read⟩
      · exact absurd ⟨columns⟩ (unlisted _)
      · exact ⟨_, .unresolved made rows columns read⟩
    · refine ⟨_, .malformed made rows inhabited ?_ (trims_trim line)⟩
      exact fun id host port found => columns ⟨id, host, port, found⟩

theorem ofLines_decided {text : List Char} (direct : Direct text) :
    Decided (ofLines lookup (numberedLines text)) (Listing text)
      (LineFault text) := by
  apply Decided.of_total
  · exact fun _ => ofLines_of_listing lookup
  · exact fun _ => ofLines_of_lineFault lookup
  · exact listing_or_lineFault direct

theorem ofList_decided (members : List Member) :
    Decided (ofList members) (fun membership => membership.members = members)
      (IdFault members) :=
  ⟨fun _ => ofList_eq_ok_iff, fun _ => ofList_eq_error_iff⟩

/-- The ids are looked at when all lines are read. -/
theorem parse_decided {text : List Char} (direct : Direct text) :
    Decided (parse lookup text)
      (fun membership => Listing text membership.members)
      fun problem => LineFault text problem ∨
        ∃ members, Listing text members ∧ IdFault members problem := by
  apply ((ofLines_decided lookup direct).bind fun members _ =>
    ofList_decided members).congr
  · intro membership
    constructor
    · rintro ⟨_, listing, rfl⟩
      exact listing
    · exact fun listing => ⟨_, listing, rfl⟩
  · exact fun _ => Iff.rfl

theorem parse_of_listing {text : List Char} {members : List Member}
    (listing : Listing text members) : parse lookup text = ofList members := by
  unfold parse
  rw [ofLines_of_listing lookup listing]
  rfl

end Lookup

/-- Whatever the system knows of names, a text is accepted exactly if each line
of it is blank or lists a node, by an id, an IPv4 literal and a port, and the ids
are the numbers from 1 to the number of the nodes; the nodes are then those that
are listed, in order.  Blank lines, other blanks between words and other ends of
lines make no difference.  If some line lists no node then the first such line
decides the error, whatever the ids before it are. -/
theorem listed_exactly (lookup : NameLookup) {text : List Char}
    (direct : Direct text) :
    (∀ membership, parse lookup text = .ok membership ↔
        Listing text membership.members) ∧
      ((∃ membership, parse lookup text = .ok membership) ↔
        ∃ members, Listing text members ∧ members ≠ [] ∧
          (members.map (·.id.toNat)).Perm (List.range' 1 members.length)) ∧
      (∀ other lines others, Lines text lines → Lines other others →
        SameWords lines others → ∀ membership,
          parse lookup text = .ok membership →
            parse lookup other = .ok membership) ∧
      (¬(∃ members, Listing text members) ↔
        ∃ problem, LineFault text problem) ∧
      (∀ problem, LineFault text problem → parse lookup text = .error problem) ∧
      ∀ problem, parse lookup text = .error problem ↔
        LineFault text problem ∨
          ∃ members, Listing text members ∧ IdFault members problem := by
  have read_iff := parse_decided lookup direct
  refine ⟨read_iff.ok_iff, ?_, ?_, ?_,
    fun problem fault => (read_iff.error_iff problem).mpr (.inl fault),
    read_iff.error_iff⟩
  · constructor
    · rintro ⟨membership, read⟩
      have listing := (read_iff.ok_iff membership).mp read
      rw [parse_of_listing lookup listing] at read
      exact ⟨_, listing, exists_ofList_eq_ok_iff.mp ⟨membership, read⟩⟩
    · rintro ⟨members, listing, sound⟩
      rw [parse_of_listing lookup listing]
      exact exists_ofList_eq_ok_iff.mpr sound
  · intro other lines others made otherMade same membership read
    obtain ⟨found, split, rows⟩ := (read_iff.ok_iff membership).mp read
    obtain rfl : found = lines := by
      rw [← lines_eq_iff.mpr split, ← lines_eq_iff.mpr made]
    have listing : Listing other membership.members :=
      ⟨others, otherMade, rows.of_sameWords same⟩
    rw [parse_of_listing lookup listing]
    exact ofList_eq_ok_iff.mpr rfl
  · constructor
    · intro unlisted
      rcases listing_or_lineFault direct with listing | fault
      · exact absurd listing unlisted
      · exact fault
    · rintro ⟨problem, fault⟩ ⟨members, listing⟩
      exact (ofLines_decided lookup direct).not_fault listing problem fault

/-- Whether a line of three words has an address literal as its second. -/
def hasLiteral (line : List Char) : Bool :=
  match fields line with
  | [_, host, _] => (IPv4.parse? host).isSome || (IPv6.parse? host).isSome
  | _ => true

theorem direct_of_hasLiteral {text : List Char}
    (literals : (lines text).all hasLiteral = true) : Direct text := by
  intro earlier line later members made _ id host port columns
  have listed : line ∈ lines text := by
    rw [lines_eq_iff.mpr made]
    simp
  obtain ⟨first, last, split, _, _⟩ := columns_iff.mp columns
  have literal := List.all_eq_true.mp literals line listed
  rw [hasLiteral, split] at literal
  rcases (Bool.or_eq_true _ _).mp literal with read | read
  · obtain ⟨address, read⟩ := Option.isSome_iff_exists.mp read
    exact .inl ⟨address, IPv4.parse?_eq_some_iff.mp read⟩
  · exact .inr (Option.isSome_iff_exists.mp read)

/-- Two nodes between blank lines, with several blanks, with a sign and leading
zeros, and with both ends of lines. -/
theorem listed_exactly_of_blanks :
    ∃ membership,
      parse .nameless "\r\n 2\t127.0.0.1  +80 \r\n\n01 10.0.0.7 0443".toList =
          .ok membership ∧
        membership.members =
          [⟨2, .v4 .loopback 80⟩, ⟨1, .v4 ⟨10, 0, 0, 7⟩ 443⟩] := by
  have direct : Direct
      "\r\n 2\t127.0.0.1  +80 \r\n\n01 10.0.0.7 0443".toList :=
    direct_of_hasLiteral (by decide)
  have first : Lists " 2\t127.0.0.1  +80 ".toList ⟨2, .v4 .loopback 80⟩ :=
    ⟨columns_iff.mpr ⟨['2'], "+80".toList, by decide, by decide, by decide⟩⟩
  have second : Lists "01 10.0.0.7 0443".toList ⟨1, .v4 ⟨10, 0, 0, 7⟩ 443⟩ :=
    ⟨columns_iff.mpr ⟨"01".toList, "0443".toList, by decide, by decide,
      by decide⟩⟩
  have rows := Rows.blank .nil (.entry first (.blank .nil (.entry second .nil)))
  have listing : Listing
      "\r\n 2\t127.0.0.1  +80 \r\n\n01 10.0.0.7 0443".toList
      [⟨2, .v4 .loopback 80⟩, ⟨1, .v4 ⟨10, 0, 0, 7⟩ 443⟩] :=
    ⟨_, lines_eq_iff.mp (by decide), rows⟩
  obtain ⟨_, accepted_iff, _⟩ := listed_exactly .nameless direct
  obtain ⟨membership, read⟩ :=
    accepted_iff.mpr ⟨_, listing, by simp, by decide⟩
  refine ⟨membership, read, ?_⟩
  rw [parse_of_listing .nameless listing] at read
  exact ofList_eq_ok_iff.mp read

end Membership

end CausalCast
