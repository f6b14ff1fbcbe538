import CausalCast.Config
import CausalCast.Node
import CausalCast.Proofs.Dependencies
import CausalCast.Proofs.Membership.Admission
import CausalCast.Proofs.Outcomes
import CausalCast.Proofs.Text.Layout
import CausalCast.Proofs.Text.Numerals
import CausalCast.Proofs.Tracker.Hearings

/-!
# What a config file says

A config file begins at its first line that is not blank.  One number on that
line makes a broadcast, and the lines after it, as many as there are nodes, say
what each node depends on; two numbers make a point-to-point run, and nothing
else is read.  `Fault` says what is reported of every other file: what is wrong
at the earliest place that cannot be read.

A graph that is read names members only.  What holds a message back for its
causes is therefore always a message of a member that is still to come.
-/

namespace CausalCast

open Text

namespace Config

variable {membership : Membership}

/-! ## Numbers -/

/-- A word that denotes a number of 32 bits. -/
def Denotes (word : List Char) (number : UInt32) : Prop :=
  Numeral word number.toNat

/-- A line whose words denote numbers. -/
inductive Holds (line : List Char) (numbers : List UInt32) : Prop where
  | mk {words : List (List Char)} (words_of : Words line words)
      (denotes : List.Forall₂ Denotes words numbers)

/-- The first word of a line that denotes no number. -/
inductive FailsAt (line word : List Char) : Prop where
  | mk {words : List (List Char)} {position : Nat} (words_of : Words line words)
      (reaches : Reaches Denotes words position word)
      (other : ∀ number, ¬Denotes word number)

theorem numbersOfFields_decided (line : Nat) (words : List (List Char)) :
    Decided (numbersOfFields line words) (List.Forall₂ Denotes words)
      fun problem => ∃ position word, Reaches Denotes words position word ∧
        (∀ number, ¬Denotes word number) ∧
        problem = .malformed line (.notUnsigned word) := by
  induction words with
  | nil =>
      apply (Decided.ok []).congr
      · intro numbers
        rw [List.forall₂_nil_left_iff]
      · intro problem
        constructor
        · exact False.elim
        · rintro ⟨_, _, ⟨⟩, _⟩
  | cons word words induction =>
      rw [numbersOfFields]
      cases read : unsigned32? word with
      | none =>
          have other : ∀ number, ¬Denotes word number := by
            intro number denotes
            rw [unsigned32?_eq_some_iff.mpr denotes] at read
            contradiction
          apply (Decided.error _).congr
          · intro numbers
            constructor
            · exact False.elim
            · rintro ⟨⟩
              case cons denotes _ => exact other _ denotes
          · intro problem
            constructor
            · rintro rfl
              exact ⟨0, word, .here, other, rfl⟩
            · rintro ⟨_, _, ⟨⟩ | ⟨denotes, _⟩, _, rfl⟩
              · rfl
              · exact absurd denotes (other _)
      | some number =>
          have denotes : Denotes word number := unsigned32?_eq_some_iff.mp read
          have only : ∀ other, Denotes word other → other = number := by
            intro other otherDenotes
            rw [unsigned32?_eq_some_iff.mpr otherDenotes] at read
            exact Option.some.inj read
          apply (induction.bind fun numbers _ =>
            Decided.ok (number :: numbers)).congr
          · intro numbers
            constructor
            · rintro ⟨others, there, rfl⟩
              exact .cons denotes there
            · rintro ⟨⟩
              case cons here there =>
                  obtain rfl := only _ here
                  exact ⟨_, there, rfl⟩
          · intro problem
            constructor
            · rintro (⟨position, faulty, reaches, other, rfl⟩ | ⟨_, _, ⟨⟩⟩)
              exact ⟨position + 1, faulty, .there denotes reaches, other, rfl⟩
            · rintro ⟨_, _, ⟨⟩ | ⟨_, reaches⟩, other, rfl⟩
              · exact absurd denotes (other number)
              · exact .inl ⟨_, _, reaches, other, rfl⟩

theorem numbers_decided (line : Nat) (text : List Char) :
    Decided (numbers line text) (Holds text) fun problem =>
      ∃ word, FailsAt text word ∧
        problem = .malformed line (.notUnsigned word) := by
  have words := fields_eq_iff.mp (Eq.refl (fields text))
  apply (numbersOfFields_decided line (fields text)).congr
  · intro found
    constructor
    · exact fun denotes => ⟨words, denotes⟩
    · rintro ⟨other, denotes⟩
      rwa [words.unique other]
  · intro problem
    constructor
    · rintro ⟨_, word, reaches, other, rfl⟩
      exact ⟨word, ⟨words, reaches, other⟩, rfl⟩
    · rintro ⟨word, ⟨split, reaches, other⟩, rfl⟩
      obtain rfl := split.unique words
      exact ⟨_, word, reaches, other, rfl⟩

/-! ## The workload -/

/-- What the first line of a file asks for. -/
inductive AsksFor (membership : Membership) (line : List Char) :
    Workload → Prop where
  | broadcast {messages : UInt32} (holds : Holds line [messages]) :
      AsksFor membership line (.broadcast messages)
  | pointToPoint {messages : UInt32} {receiver : NodeId}
      (holds : Holds line [messages, receiver])
      (known : membership.contains receiver = true) :
      AsksFor membership line (.pointToPoint receiver messages)

/-- What is wrong with the first line of a file, where a line has a number. -/
inductive WorkloadFault (membership : Membership) (number : Nat)
    (line : List Char) : ConfigError → Prop where
  | word {word : List Char} (fails : FailsAt line word) :
      WorkloadFault membership number line
        (.malformed number (.notUnsigned word))
  | count {numbers : List UInt32} (holds : Holds line numbers)
      (other : numbers.length ≠ 1 ∧ numbers.length ≠ 2) :
      WorkloadFault membership number line
        (.malformed number (.notWorkload line))
  | receiver {messages : UInt32} {receiver : NodeId}
      (holds : Holds line [messages, receiver])
      (unknown : membership.contains receiver = false) :
      WorkloadFault membership number line (.unknownNode receiver)

theorem workloadOfLine_decided (number : Nat) (line : List Char) :
    Decided (workloadOfLine membership number line) (AsksFor membership line)
      (WorkloadFault membership number line) := by
  unfold workloadOfLine
  refine Decided.congr (Decided.bind (numbers_decided number line)
    fun numbers _ => (?chosen : Decided _
      (fun workload : Workload =>
        (∃ messages, numbers = [messages] ∧ workload = .broadcast messages) ∨
        ∃ messages receiver, numbers = [messages, receiver] ∧
          membership.contains receiver = true ∧
          workload = .pointToPoint receiver messages)
      fun problem : ConfigError =>
        (∃ messages receiver, numbers = [messages, receiver] ∧
          membership.contains receiver = false ∧
          problem = .unknownNode receiver) ∨
        (numbers.length ≠ 1 ∧ numbers.length ≠ 2) ∧
          problem = .malformed number (.notWorkload line))) ?_ ?_
  case chosen =>
    rcases numbers with _ | ⟨messages, _ | ⟨receiver, _ | ⟨third, more⟩⟩⟩
    · apply (Decided.error _).congr <;> simp
    · apply (Decided.ok _).congr <;> simp
    · apply Decided.ite
      · intro known
        apply (Decided.ok _).congr <;> simp [known]
      · intro unknown
        rw [Bool.not_eq_true] at unknown
        apply (Decided.error _).congr <;> simp [unknown]
    · apply (Decided.error _).congr <;> simp
  · intro workload
    constructor
    · rintro ⟨numbers, holds, ⟨messages, rfl, rfl⟩ |
        ⟨messages, receiver, rfl, known, rfl⟩⟩
      · exact .broadcast holds
      · exact .pointToPoint holds known
    · rintro (⟨holds⟩ | ⟨holds, known⟩)
      · exact ⟨_, holds, .inl ⟨_, rfl, rfl⟩⟩
      · exact ⟨_, holds, .inr ⟨_, _, rfl, known, rfl⟩⟩
  · intro problem
    constructor
    · rintro (⟨word, fails, rfl⟩ | ⟨numbers, holds,
        ⟨messages, receiver, rfl, unknown, rfl⟩ | ⟨other, rfl⟩⟩)
      · exact .word fails
      · exact .receiver holds unknown
      · exact .count holds other
    · rintro (⟨fails⟩ | ⟨holds, other⟩ | ⟨holds, unknown⟩)
      · exact .inl ⟨_, fails, rfl⟩
      · exact .inr ⟨_, holds, .inr ⟨other, rfl⟩⟩
      · exact .inr ⟨_, holds, .inl ⟨_, _, rfl, unknown, rfl⟩⟩

/-! ## Dependencies -/

/-- A line of ids of members. -/
structure Names (membership : Membership) (line : List Char)
    (ids : List NodeId) : Prop where
  holds : Holds line ids
  known : ∀ id ∈ ids, membership.contains id = true

/-- What is wrong with a line that should name members: a word is no number, or
else the first stranger. -/
inductive NamesFault (membership : Membership) (number : Nat)
    (line : List Char) : ConfigError → Prop where
  | word {word : List Char} (fails : FailsAt line word) :
      NamesFault membership number line (.malformed number (.notUnsigned word))
  | stranger {before after : List NodeId} {stranger : NodeId}
      (holds : Holds line (before ++ stranger :: after))
      (known : ∀ id ∈ before, membership.contains id = true)
      (unknown : membership.contains stranger = false) :
      NamesFault membership number line (.unknownNode stranger)

theorem find?_stranger_iff {ids : List NodeId} {stranger : NodeId} :
    ids.find? (!membership.contains ·) = some stranger ↔
      membership.contains stranger = false ∧
        ∃ before after, ids = before ++ stranger :: after ∧
          ∀ id ∈ before, membership.contains id = true := by
  simp [List.find?_eq_some_iff_append]

theorem dependenciesOfLine_decided (number : Nat) (line : List Char) :
    Decided (dependenciesOfLine membership number line) (Names membership line)
      (NamesFault membership number line) := by
  unfold dependenciesOfLine
  refine Decided.congr (Decided.bind (numbers_decided number line)
    fun ids _ => (?checked : Decided _
      (fun dependencies => (∀ id ∈ ids, membership.contains id = true) ∧
        dependencies = ids)
      fun problem : ConfigError => ∃ before stranger after,
        ids = before ++ stranger :: after ∧
          (∀ id ∈ before, membership.contains id = true) ∧
          membership.contains stranger = false ∧
          problem = .unknownNode stranger)) ?_ ?_
  case checked =>
    cases found : ids.find? (!membership.contains ·) with
    | none =>
        have known : ∀ id ∈ ids, membership.contains id = true := by
          simpa using List.find?_eq_none.mp found
        apply (Decided.ok ids).congr
        · intro dependencies
          exact (and_iff_right known).symm
        · intro problem
          constructor
          · exact False.elim
          · rintro ⟨before, stranger, after, rfl, _, unknown, _⟩
            rw [known stranger (by simp)] at unknown
            contradiction
    | some stranger =>
        obtain ⟨unknown, before, after, split, passed⟩ :=
          find?_stranger_iff.mp found
        apply (Decided.error _).congr
        · intro dependencies
          constructor
          · exact False.elim
          · rintro ⟨known, _⟩
            rw [known stranger (by simp [split])] at unknown
            contradiction
        · intro problem
          constructor
          · rintro rfl
            exact ⟨before, stranger, after, split, passed, unknown, rfl⟩
          · rintro ⟨earlier, other, later, otherSplit, known, strange, rfl⟩
            have first := find?_stranger_iff.mpr
              ⟨strange, earlier, later, otherSplit, known⟩
            rw [found] at first
            rw [Option.some.inj first]
  · intro dependencies
    constructor
    · rintro ⟨ids, holds, known, rfl⟩
      exact ⟨holds, known⟩
    · rintro ⟨holds, known⟩
      exact ⟨dependencies, holds, known, rfl⟩
  · intro problem
    constructor
    · rintro (⟨word, fails, rfl⟩ |
        ⟨ids, holds, before, stranger, after, rfl, known, unknown, rfl⟩)
      · exact .word fails
      · exact .stranger holds known unknown
    · rintro (⟨fails⟩ | ⟨holds, known, unknown⟩)
      · exact .inl ⟨_, fails, rfl⟩
      · exact .inr ⟨_, holds, _, _, _, rfl, known, unknown, rfl⟩

/-- The edges that rows of ids give to nodes in the same order. -/
def edgesOfRows (members : List Member) (rows : List (List NodeId)) :
    List (NodeId × List NodeId) :=
  (members.map Member.id).zip rows

/-- What is wrong with the first of some lines that does not name members; the
lines follow one with a number. -/
inductive RowFault (membership : Membership) (number : Nat)
    (lines : List (List Char)) (problem : ConfigError) : Prop where
  | mk {position : Nat} {line : List Char}
      (reaches : Reaches (Names membership) lines position line)
      (fault : NamesFault membership (number + position + 1) line problem)

theorem rowFault_cons {number : Nat} {line : List Char}
    {lines : List (List Char)} {problem : ConfigError} :
    RowFault membership number (line :: lines) problem ↔
      NamesFault membership (number + 1) line problem ∨
        ∃ ids, Names membership line ids ∧
          RowFault membership (number + 1) lines problem := by
  constructor
  · rintro ⟨⟨⟩ | ⟨names, reaches⟩, fault⟩
    · exact .inl fault
    · refine .inr ⟨_, names, reaches, ?_⟩
      rwa [Nat.add_assoc number 1, Nat.add_comm 1]
  · rintro (fault | ⟨ids, names, ⟨reaches, fault⟩⟩)
    · exact ⟨.here, fault⟩
    · refine ⟨.there names reaches, ?_⟩
      rwa [Nat.add_assoc number 1, Nat.add_comm 1] at fault

theorem noRows_decided (members : List Member) (number : Nat) :
    Decided (.ok [] : Except ConfigError (List (NodeId × List NodeId)))
      (fun edges => ∃ rows, List.Forall₂ (Names membership) [] rows ∧
        edges = edgesOfRows members rows)
      (RowFault membership number []) := by
  apply (Decided.ok []).congr
  · intro edges
    simp [edgesOfRows]
  · intro problem
    constructor
    · exact False.elim
    · rintro ⟨⟨⟩, _⟩

theorem edgesOfLines_decided (members : List Member) (number : Nat)
    (lines : List (List Char)) :
    Decided
      (edgesOfLines membership members (numberedFrom number lines))
      (fun edges => ∃ rows,
        List.Forall₂ (Names membership) (lines.take members.length) rows ∧
          edges = edgesOfRows members rows)
      (RowFault membership number (lines.take members.length)) := by
  induction members generalizing number lines with
  | nil =>
      rw [List.length_nil, List.take_zero]
      exact noRows_decided [] number
  | cons member members induction =>
      cases lines with
      | nil =>
          rw [List.take_nil]
          exact noRows_decided (member :: members) number
      | cons line lines =>
          rw [numberedFrom_cons, edgesOfLines, List.length_cons,
            List.take_succ_cons]
          have later := induction (number + 1) lines
          apply ((dependenciesOfLine_decided (number + 1) line).bind
            fun ids _ => later.bind fun edges _ =>
              Decided.ok ((member.id, ids) :: edges)).congr
          · intro edges
            constructor
            · rintro ⟨ids, names, _, ⟨rows, named, rfl⟩, rfl⟩
              exact ⟨ids :: rows, .cons names named, rfl⟩
            · rintro ⟨_, ⟨⟩, rfl⟩
              case cons names named =>
                  exact ⟨_, names, _, ⟨_, named, rfl⟩, rfl⟩
          · intro problem
            rw [rowFault_cons]
            constructor
            · rintro (fault | ⟨ids, names, fault | ⟨_, _, ⟨⟩⟩⟩)
              · exact .inl fault
              · exact .inr ⟨ids, names, fault⟩
            · rintro (fault | ⟨ids, names, fault⟩)
              · exact .inl fault
              · exact .inr ⟨ids, names, .inl fault⟩

/-! ## The graph -/

theorem mem_edgesOfRows {members : List Member} {rows : List (List NodeId)}
    {edge : NodeId × List NodeId} (listed : edge ∈ edgesOfRows members rows) :
    (∃ member ∈ members, member.id = edge.1) ∧ edge.2 ∈ rows := by
  obtain ⟨left, right⟩ := List.of_mem_zip listed
  exact ⟨List.mem_map.mp left, right⟩

theorem known_of_forall₂ {lines : List (List Char)} {rows : List (List NodeId)}
    (named : List.Forall₂ (Names membership) lines rows) :
    ∀ row ∈ rows, ∀ id ∈ row, membership.contains id = true := by
  induction named with
  | nil => exact List.forall_mem_nil _
  | cons here _ induction =>
      exact List.forall_mem_cons.mpr ⟨here.known, induction⟩

theorem exists_graph {lines : List (List Char)}
    {edges : List (NodeId × List NodeId)}
    (named : ∃ rows, List.Forall₂ (Names membership) lines rows ∧
      edges = edgesOfRows membership.members rows) :
    ∃ graph,
      CausalityGraph.ofEdges membership.clockLength edges = .ok graph := by
  obtain ⟨rows, named, rfl⟩ := named
  have inRange : ∀ id, membership.contains id = true →
      1 ≤ id.toNat ∧ id.toNat < membership.clockLength := by
    intro id member
    have bounds := Membership.bounds_of_contains member
    exact ⟨bounds.1, Nat.lt_succ_of_le bounds.2⟩
  apply CausalityGraph.exists_ofEdges
  intro edge inEdges
  obtain ⟨listed, inRows⟩ := mem_edgesOfRows inEdges
  constructor
  · exact (inRange _ (Membership.contains_iff.mpr listed)).2
  · intro target inRow
    exact inRange target (known_of_forall₂ named _ inRows target inRow)

theorem targetsOf_eq_nil {node : NodeId} {members : List Member}
    (unlisted : node ∉ members.map Member.id) (rows : List (List NodeId)) :
    CausalityGraph.targetsOf node (edgesOfRows members rows) = [] := by
  apply List.flatMap_eq_nil_iff.mpr
  intro edge listed
  obtain ⟨⟨member, inMembers, same⟩, _⟩ := mem_edgesOfRows listed
  rw [if_neg]
  rintro rfl
  exact unlisted (List.mem_map.mpr ⟨member, inMembers, same⟩)

theorem targetsOf_edgesOfRows {members : List Member}
    (distinct : (members.map Member.id).Nodup) {position : Nat}
    {member : Member} (found : members[position]? = some member)
    (rows : List (List NodeId)) :
    CausalityGraph.targetsOf member.id (edgesOfRows members rows) =
      rows.getD position [] := by
  induction members generalizing position rows with
  | nil => contradiction
  | cons first members induction =>
      obtain ⟨fresh, distinct⟩ := List.nodup_cons.mp distinct
      cases rows with
      | nil => simp [edgesOfRows, CausalityGraph.targetsOf]
      | cons row rows =>
          have split : CausalityGraph.targetsOf member.id
              (edgesOfRows (first :: members) (row :: rows)) =
                (if first.id = member.id then row else []) ++
                  CausalityGraph.targetsOf member.id
                    (edgesOfRows members rows) := rfl
          rw [split]
          cases position with
          | zero =>
              obtain rfl := Option.some.inj found
              rw [if_pos rfl, targetsOf_eq_nil fresh, List.append_nil]
              rfl
          | succ position =>
              have later := induction distinct found rows
              have apart : first.id ≠ member.id := by
                intro same
                apply fresh
                rw [same]
                exact List.mem_map_of_mem (List.mem_of_getElem? found)
              rw [if_neg apart, later]
              rfl

/-! ## Files -/

/-- A text begins at its first line that is not blank, which has a number; more
lines follow. -/
inductive Begins (text : List Char) (number : Nat) (first : List Char)
    (rest : List (List Char)) : Prop where
  | mk {blanks : List (List Char)}
      (lines_of : Lines text (blanks ++ first :: rest))
      (blank : ∀ line ∈ blanks, Words line []) (inhabited : ¬Words first [])
      (number_eq : number = blanks.length + 1)

/-- The lines from the first on that is not blank, with their numbers. -/
def significant (text : List Char) : List (Nat × List Char) :=
  (numberedLines text).dropWhile fun line => isBlankLine line.2

theorem dropWhile_of_blank {blanks : List (List Char)}
    (blank : ∀ line ∈ blanks, Words line []) (before : Nat)
    (rest : List (List Char)) :
    (numberedFrom before (blanks ++ rest)).dropWhile
        (fun line => isBlankLine line.2) =
      (numberedFrom (before + blanks.length) rest).dropWhile
        fun line => isBlankLine line.2 := by
  induction blanks generalizing before with
  | nil => rfl
  | cons line blanks induction =>
      obtain ⟨here, there⟩ := List.forall_mem_cons.mp blank
      rw [List.cons_append, numberedFrom_cons, List.dropWhile_cons,
        if_pos (isBlankLine_iff.mpr here), induction there, List.length_cons,
        Nat.add_assoc, Nat.add_comm 1]

theorem significant_of_blank {text : List Char} {lines : List (List Char)}
    (made : Lines text lines) (blank : ∀ line ∈ lines, Words line []) :
    significant text = [] := by
  have dropped := dropWhile_of_blank blank 0 []
  rw [List.append_nil] at dropped
  rw [significant, made.numberedLines_eq, dropped]
  rfl

theorem Begins.significant_eq {text : List Char} {number : Nat}
    {first : List Char} {rest : List (List Char)}
    (begins : Begins text number first rest) :
    significant text = (number, first) :: numberedFrom number rest := by
  obtain ⟨made, blank, inhabited, rfl⟩ := begins
  have stops : ¬isBlankLine first = true :=
    fun blank => inhabited (isBlankLine_iff.mp blank)
  rw [significant, made.numberedLines_eq, dropWhile_of_blank blank,
    numberedFrom_cons, List.dropWhile_cons, if_neg stops, Nat.zero_add]

theorem Begins.unique {text : List Char} {number other : Nat}
    {first second : List Char} {rest later : List (List Char)}
    (begins : Begins text number first rest)
    (again : Begins text other second later) :
    other = number ∧ second = first ∧ later = rest := by
  have same := again.significant_eq.symm.trans begins.significant_eq
  obtain ⟨heads, tails⟩ := List.cons.inj same
  obtain ⟨rfl, rfl⟩ := Prod.mk.inj heads
  have lines := congrArg (List.map Prod.snd) tails
  rw [map_snd_numberedFrom, map_snd_numberedFrom] at lines
  exact ⟨rfl, rfl, lines⟩

theorem blank_or_begins (text : List Char) :
    (∃ lines, Lines text lines ∧ ∀ line ∈ lines, Words line []) ∨
      ∃ number first rest, Begins text number first rest := by
  have split : ∀ lines : List (List Char), (∀ line ∈ lines, Words line []) ∨
      ∃ blanks first rest, lines = blanks ++ first :: rest ∧
        (∀ line ∈ blanks, Words line []) ∧ ¬Words first [] := by
    intro lines
    induction lines with
    | nil => exact .inl (List.forall_mem_nil _)
    | cons line lines induction =>
        by_cases blank : Words line []
        · rcases induction with all | ⟨blanks, first, rest, rfl, before, stops⟩
          · exact .inl (List.forall_mem_cons.mpr ⟨blank, all⟩)
          · exact .inr ⟨line :: blanks, first, rest, rfl,
              List.forall_mem_cons.mpr ⟨blank, before⟩, stops⟩
        · exact .inr ⟨[], line, lines, rfl, List.forall_mem_nil _, blank⟩
  have made := lines_eq_iff.mp (Eq.refl (lines text))
  rcases split (lines text) with blank |
    ⟨blanks, first, rest, found, blank, stops⟩
  · exact .inl ⟨_, made, blank⟩
  · rw [found] at made
    exact .inr ⟨_, first, rest, made, blank, stops, rfl⟩

/-- The graph that the lines after the first make for a workload. -/
inductive GraphFor (membership : Membership) (rest : List (List Char)) :
    Workload → CausalityGraph → Prop where
  | broadcast {messages : UInt32} {rows : List (List NodeId)}
      {graph : CausalityGraph}
      (named : List.Forall₂ (Names membership) (rest.take membership.size) rows)
      (built : CausalityGraph.ofEdges membership.clockLength
        (edgesOfRows membership.members rows) = .ok graph) :
      GraphFor membership rest (.broadcast messages) graph
  | pointToPoint {messages : UInt32} {receiver : NodeId} :
      GraphFor membership rest (.pointToPoint receiver messages)
        (.empty membership.clockLength)

/-- A text that says what a run does. -/
inductive Reads (membership : Membership) (text : List Char) (config : Config) :
    Prop where
  | mk {number : Nat} {first : List Char} {rest : List (List Char)}
      (begins : Begins text number first rest)
      (asks : AsksFor membership first config.workload)
      (graph_for : GraphFor membership rest config.workload config.graph)

/-- What is wrong with a text, at the earliest place: no line that is not blank,
its first such line, or one of the lines that name dependencies. -/
inductive Fault (membership : Membership) (text : List Char) :
    ConfigError → Prop where
  | noCount {lines : List (List Char)} (lines_of : Lines text lines)
      (blank : ∀ line ∈ lines, Words line []) :
      Fault membership text (.malformed 1 .noMessageCount)
  | workload {number : Nat} {first : List Char} {rest : List (List Char)}
      {problem : ConfigError} (begins : Begins text number first rest)
      (fault : WorkloadFault membership number first problem) :
      Fault membership text problem
  | row {number : Nat} {first : List Char} {rest : List (List Char)}
      {messages : UInt32} {problem : ConfigError}
      (begins : Begins text number first rest) (holds : Holds first [messages])
      (fault : RowFault membership number (rest.take membership.size) problem) :
      Fault membership text problem

theorem runOfEdges_decided (workload : Workload) {length : Nat}
    {edges : List (NodeId × List NodeId)}
    (made : ∃ graph, CausalityGraph.ofEdges length edges = .ok graph) :
    Decided
      (do
        let graph ← CausalityGraph.ofEdges length edges
        .ok (Config.mk workload graph))
      (fun config => config.workload = workload ∧
        CausalityGraph.ofEdges length edges = .ok config.graph)
      fun _ => False := by
  obtain ⟨graph, built⟩ := made
  rw [built]
  apply (Decided.ok (Config.mk workload graph)).congr
  · rintro ⟨other, found⟩
    rw [Config.mk.injEq, Except.ok.injEq, eq_comm (a := found)]
  · exact fun _ => Iff.rfl

theorem graphOfWorkload_decided {first : List Char} {workload : Workload}
    (asks : AsksFor membership first workload) (number : Nat)
    (rest : List (List Char)) :
    Decided
      (do
        let edges ←
          if workload.isBroadcast then
            edgesOfLines membership membership.members
              (numberedFrom number rest)
          else .ok []
        let graph ← CausalityGraph.ofEdges membership.clockLength edges
        .ok (Config.mk workload graph))
      (fun config => config.workload = workload ∧
        GraphFor membership rest config.workload config.graph)
      fun problem => workload.isBroadcast = true ∧
        RowFault membership number (rest.take membership.size) problem := by
  cases asks with
  | @broadcast messages _ =>
      have read := @edgesOfLines_decided membership membership.members number
        rest
      apply (read.bind fun edges named =>
        runOfEdges_decided (.broadcast messages) (exists_graph named)).congr
      · rintro ⟨workload, graph⟩
        constructor
        · rintro ⟨_, ⟨rows, named, rfl⟩, rfl, built⟩
          exact ⟨rfl, .broadcast named built⟩
        · rintro ⟨rfl, ⟨named, built⟩⟩
          exact ⟨_, ⟨_, named, rfl⟩, rfl, built⟩
      · intro problem
        constructor
        · rintro (fault | ⟨_, _, ⟨⟩⟩)
          exact ⟨rfl, fault⟩
        · rintro ⟨_, fault⟩
          exact .inl fault
  | @pointToPoint messages receiver _ =>
      apply (Decided.ok (Config.mk (.pointToPoint receiver messages)
        (.empty membership.clockLength))).congr
      · rintro ⟨workload, graph⟩
        constructor
        · rintro ⟨rfl, rfl⟩
          exact ⟨rfl, .pointToPoint⟩
        · rintro ⟨rfl, ⟨⟩⟩
          rfl
      · intro problem
        constructor
        · exact False.elim
        · rintro ⟨⟨⟩, _⟩

theorem parse_decided (text : List Char) (membership : Membership) :
    Decided (parse text membership) (Reads membership text)
      (Fault membership text) := by
  unfold parse
  rw [← significant]
  rcases blank_or_begins text with ⟨lines, made, blank⟩ |
    ⟨number, first, rest, begins⟩
  · have nothing := significant_of_blank made blank
    have never : ∀ {number first rest}, ¬Begins text number first rest := by
      intro number first rest begins
      rw [begins.significant_eq] at nothing
      contradiction
    rw [nothing]
    apply (Decided.error _).congr
    · intro config
      constructor
      · exact False.elim
      · rintro ⟨begins, _, _⟩
        exact never begins
    · intro problem
      constructor
      · rintro rfl
        exact .noCount made blank
      · rintro (_ | ⟨begins, _⟩ | ⟨begins, _, _⟩)
        · rfl
        · exact absurd begins never
        · exact absurd begins never
  · rw [begins.significant_eq]
    apply ((workloadOfLine_decided number first).bind fun workload asks =>
      graphOfWorkload_decided asks number rest).congr
    · intro config
      constructor
      · rintro ⟨_, asks, rfl, graph⟩
        exact ⟨begins, asks, graph⟩
      · rintro ⟨again, asks, graph⟩
        obtain ⟨rfl, rfl, rfl⟩ := begins.unique again
        exact ⟨_, asks, rfl, graph⟩
    · intro problem
      constructor
      · rintro (fault | ⟨_, ⟨holds⟩ | _, ⟨⟩, fault⟩)
        · exact .workload begins fault
        · exact .row begins holds fault
      · rintro (⟨made, blank⟩ | ⟨again, fault⟩ | ⟨again, holds, fault⟩)
        · have nothing := significant_of_blank made blank
          rw [begins.significant_eq] at nothing
          contradiction
        · obtain ⟨rfl, rfl, rfl⟩ := begins.unique again
          exact .inl fault
        · obtain ⟨rfl, rfl, rfl⟩ := begins.unique again
          exact .inr ⟨_, .broadcast holds, rfl, fault⟩

/-! ## What is read -/

theorem names_of_blank {line : List Char} (blank : Words line [])
    {ids : List NodeId} : Names membership line ids ↔ ids = [] := by
  constructor
  · rintro ⟨⟨words, denotes⟩, _⟩
    rw [words.unique blank] at denotes
    exact List.forall₂_nil_left_iff.mp denotes
  · rintro rfl
    exact ⟨⟨blank, .nil⟩, List.forall_mem_nil _⟩

theorem names_getD {lines : List (List Char)} {rows : List (List NodeId)}
    (named : List.Forall₂ (Names membership) lines rows) (position : Nat) :
    Names membership (lines.getD position []) (rows.getD position []) := by
  induction named generalizing position with
  | nil => exact (names_of_blank .nil).mpr rfl
  | cons here _ induction =>
      cases position with
      | zero => exact here
      | succ position => exact induction position

theorem Names.unique {line : List Char} {left right : List NodeId}
    (first : Names membership line left) (second : Names membership line right) :
    left = right := by
  have decided := @dependenciesOfLine_decided membership 0 line
  have read := (decided.ok_iff left).mpr first
  rw [(decided.ok_iff right).mpr second] at read
  exact (Except.ok.inj read).symm

theorem GraphFor.dependencies_eq {rest : List (List Char)} {messages : UInt32}
    {graph : CausalityGraph}
    (made : GraphFor membership rest (.broadcast messages) graph)
    {position : Nat} {member : Member}
    (found : membership.members[position]? = some member) :
    ∃ ids, Names membership (rest.getD position []) ids ∧
      graph.dependencies member.id = ids.eraseDups := by
  cases made with
  | @broadcast _ rows _ named built =>
      have row := names_getD named position
      have within : position < membership.size :=
        (List.getElem?_eq_some_iff.mp found).1
      rw [List.getD_eq_getElem?_getD, List.getElem?_take_of_lt within,
        ← List.getD_eq_getElem?_getD] at row
      refine ⟨_, row, ?_⟩
      rw [CausalityGraph.dependencies_ofEdges built,
        targetsOf_edgesOfRows membership.distinct found]

theorem GraphFor.sound {rest : List (List Char)} {workload : Workload}
    {graph : CausalityGraph} (made : GraphFor membership rest workload graph) :
    graph.length = membership.clockLength ∧
      ∀ node dependency, dependency ∈ graph.dependencies node →
        membership.contains dependency = true := by
  have coherent : graph.Coherent ∧ graph.length = membership.clockLength := by
    cases made with
    | broadcast _ built => exact CausalityGraph.coherent_ofEdges built
    | pointToPoint =>
        exact ⟨CausalityGraph.coherent_empty _, CausalityGraph.length_empty _⟩
  obtain ⟨coherent, length⟩ := coherent
  refine ⟨length, ?_⟩
  intro node dependency listed
  have bounds := coherent.inRange node dependency listed
  rw [length] at bounds
  exact Membership.contains_iff_inRange.mpr
    ⟨bounds.1, Nat.le_of_lt_succ bounds.2⟩

/-- What a tracker misses of what a clock claims is a message of a member. -/
theorem exists_missing {me : NodeId} {graph : CausalityGraph}
    (members : ∀ node dependency, dependency ∈ graph.dependencies node →
      membership.contains dependency = true)
    (policy : ReleasePolicy) (heard : List Testimony) {owner : NodeId}
    {claimed : VectorClock} {tracker : Tracker}
    (reached : ((Tracker.new me membership.size graph policy).hearAll heard).1 =
      tracker)
    (blocked : tracker.isCausallyReady owner claimed = false) :
    ∃ dependency, membership.contains dependency = true ∧
      tracker.clock.entry dependency < claimed.entry dependency := by
  obtain ⟨setup, length⟩ :=
    Tracker.setup_hearAll (Tracker.new me membership.size graph policy) heard
  rw [reached] at setup length
  have entries : tracker.clock.length = membership.clockLength := by
    rw [length]
    simp [Tracker.new, Membership.clockLength]
  by_contra nobody
  have ready : tracker.isCausallyReady owner claimed = true := by
    apply Tracker.isCausallyReady_iff.mpr
    intro dependency listed
    rw [setup.graph] at listed
    have member := members owner dependency listed
    have bounds := Membership.bounds_of_contains member
    constructor
    · rw [entries]
      exact Nat.lt_succ_of_le bounds.2
    · apply UInt32.not_lt.mp
      exact fun missing => nobody ⟨dependency, member, missing⟩
  rw [blocked] at ready
  contradiction

/-- A file is read as a broadcast exactly if its first line that is not blank is
one number and each line after it, up to the number of the nodes, names members;
each node then depends on those that the line in its place names, on each once,
and on none if that line is blank or missing.  It is read as a point-to-point
run exactly if that first line is two numbers of which the second is a member's,
and then no node depends on another.  Of every other file the earliest fault is
reported.

The graph is always made, and it always fits the membership: a node can be
created with it, and what its tracker waits for is a message of a member. -/
theorem read_exactly (text : List Char) (membership : Membership) :
    (∀ messages,
      (∃ graph, parse text membership = .ok ⟨.broadcast messages, graph⟩) ↔
        ∃ number first rest rows, Begins text number first rest ∧
          Holds first [messages] ∧
          List.Forall₂ (Names membership) (rest.take membership.size) rows) ∧
      (∀ messages graph number first rest,
        parse text membership = .ok ⟨.broadcast messages, graph⟩ →
        Begins text number first rest →
        ∀ (position : Nat) (member : Member),
          membership.members[position]? = some member →
            (∃ ids, Names membership (rest.getD position []) ids ∧
              graph.dependencies member.id = ids.eraseDups) ∧
            (Words (rest.getD position []) [] →
              graph.dependencies member.id = [])) ∧
      (∀ messages receiver graph,
        parse text membership =
            .ok ⟨.pointToPoint receiver messages, graph⟩ ↔
          (∃ number first rest, Begins text number first rest ∧
            Holds first [messages, receiver]) ∧
          membership.contains receiver = true ∧
          graph = .empty membership.clockLength) ∧
      (∀ problem, parse text membership = .error problem ↔
        Fault membership text problem) ∧
      (∀ number lines edges,
        edgesOfLines membership membership.members
            (numberedFrom number lines) = .ok edges →
          ∃ graph, CausalityGraph.ofEdges membership.clockLength edges =
            .ok graph) ∧
      ∀ config, parse text membership = .ok config →
        config.graph.length = membership.clockLength ∧
        (∀ node dependency, dependency ∈ config.graph.dependencies node →
          membership.contains dependency = true) ∧
        ∀ me settings, membership.contains me = true →
          ∃ node, Node.create me membership config.graph config.workload
              settings = .ok node ∧
            ∀ heard tracker owner claimed,
              (node.tracker.hearAll heard).1 = tracker →
              tracker.isCausallyReady owner claimed = false →
                ∃ dependency, membership.contains dependency = true ∧
                  tracker.clock.entry dependency <
                    claimed.entry dependency := by
  have decided := parse_decided text membership
  refine ⟨?_, ?_, ?_, decided.error_iff, ?_, ?_⟩
  · intro messages
    constructor
    · rintro ⟨graph, read⟩
      obtain ⟨begins, asks, made⟩ := (decided.ok_iff _).mp read
      cases asks with
      | broadcast holds =>
          cases made with
          | broadcast named => exact ⟨_, _, _, _, begins, holds, named⟩
    · rintro ⟨number, first, rest, rows, begins, holds, named⟩
      obtain ⟨graph, built⟩ := exists_graph ⟨rows, named, rfl⟩
      refine ⟨graph, (decided.ok_iff _).mpr ?_⟩
      exact ⟨begins, .broadcast holds, .broadcast named built⟩
  · intro messages graph number first rest read begins position member found
    obtain ⟨again, _, made⟩ := (decided.ok_iff _).mp read
    obtain ⟨rfl, rfl, rfl⟩ := begins.unique again
    obtain ⟨ids, names, dependencies⟩ := made.dependencies_eq found
    refine ⟨⟨ids, names, dependencies⟩, ?_⟩
    intro blank
    rw [dependencies, (names_of_blank blank).mp names]
    rfl
  · intro messages receiver graph
    constructor
    · intro read
      obtain ⟨begins, asks, made⟩ := (decided.ok_iff _).mp read
      cases asks with
      | pointToPoint holds known =>
          cases made with
          | pointToPoint => exact ⟨⟨_, _, _, begins, holds⟩, known, rfl⟩
    · rintro ⟨⟨number, first, rest, begins, holds⟩, known, rfl⟩
      apply (decided.ok_iff _).mpr
      exact ⟨begins, .pointToPoint holds known, .pointToPoint⟩
  · intro number lines edges read
    exact exists_graph
      (((edgesOfLines_decided membership.members number lines).ok_iff
        edges).mp read)
  · intro config read
    obtain ⟨_, _, made⟩ := (decided.ok_iff _).mp read
    obtain ⟨length, members⟩ := made.sound
    refine ⟨length, members, ?_⟩
    intro me settings member
    have created : ∃ node, Node.create me membership config.graph
        config.workload settings = .ok node ∧
          node.tracker = Tracker.new me membership.size config.graph
            (Node.policyFor config.workload) := by
      unfold Node.create
      simp [member, length]
    obtain ⟨node, created, fresh⟩ := created
    refine ⟨node, created, ?_⟩
    intro heard tracker owner claimed reached blocked
    rw [fresh] at reached
    exact exists_missing members _ heard reached blocked

/-- A blank line before the first, a repeated id, and a line beyond the last
node. -/
theorem read_exactly_of_pair :
    ∃ graph,
      parse " \n+10\n2\n1 01 2\nno id".toList Membership.pair =
          .ok ⟨.broadcast 10, graph⟩ ∧
        graph.dependencies 1 = [2] ∧ graph.dependencies 2 = [1, 2] := by
  obtain ⟨broadcast_iff, rows, _⟩ := read_exactly
    " \n+10\n2\n1 01 2\nno id".toList Membership.pair
  have lines : Lines " \n+10\n2\n1 01 2\nno id".toList
      ([[' ']] ++ "+10".toList ::
        ["2".toList, "1 01 2".toList, "no id".toList]) :=
    lines_eq_iff.mp (by decide)
  have begins : Begins " \n+10\n2\n1 01 2\nno id".toList 2 "+10".toList
      ["2".toList, "1 01 2".toList, "no id".toList] := by
    refine ⟨lines, ?_, ?_, rfl⟩
    · intro line listed
      obtain rfl := List.mem_singleton.mp listed
      exact fields_eq_iff.mp (by decide)
    · intro blank
      have same := fields_eq_iff.mpr blank
      contradiction
  have count : Holds "+10".toList [10] :=
    ((numbers_decided 2 _).ok_iff _).mp (by decide)
  have first : Names Membership.pair "2".toList [2] :=
    ((dependenciesOfLine_decided 3 _).ok_iff _).mp (by decide)
  have second : Names Membership.pair "1 01 2".toList [1, 1, 2] :=
    ((dependenciesOfLine_decided 4 _).ok_iff _).mp (by decide)
  obtain ⟨graph, read⟩ := (broadcast_iff 10).mpr ⟨2, _, _, [[2], [1, 1, 2]],
    begins, count, .cons first (.cons second .nil)⟩
  refine ⟨graph, read, ?_, ?_⟩
  · obtain ⟨⟨ids, names, dependencies⟩, _⟩ :=
      rows 10 graph 2 _ _ read begins 0 ⟨1, .v4 .loopback 40001⟩ rfl
    rw [dependencies, names.unique first]
    decide
  · obtain ⟨⟨ids, names, dependencies⟩, _⟩ :=
      rows 10 graph 2 _ _ read begins 1 ⟨2, .v4 .loopback 40002⟩ rfl
    rw [dependencies, names.unique second]
    decide

end Config

end CausalCast
