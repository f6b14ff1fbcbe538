import CausalCast.Text.Lines
import Mathlib.Data.List.TakeWhile

/-!
# How texts are laid out

`Lines` says how a text is made of lines, and `Words` how a line is made of
words.  Both leave room: a line may end with a line feed or with a carriage
return and a line feed, the last one also with nothing, and words are set apart
by any blanks, which may stand at both ends as well.  The readers find the lines
and the words of every text, and there are no others.
-/

namespace CausalCast.Text

/-! ## Lines -/

/-- A text and the lines that it is made of. -/
inductive Lines : List Char → List (List Char) → Prop where
  | nil : Lines [] []
  /-- A last line without an end. -/
  | last {line : List Char} (inhabited : line ≠ []) (whole : '\n' ∉ line) :
      Lines line [line]
  | feed {line rest : List Char} {lines : List (List Char)}
      (whole : '\n' ∉ line) (bare : line.getLast? ≠ some '\r')
      (following : Lines rest lines) :
      Lines (line ++ '\n' :: rest) (line :: lines)
  | returnFeed {line rest : List Char} {lines : List (List Char)}
      (whole : '\n' ∉ line) (following : Lines rest lines) :
      Lines (line ++ '\r' :: '\n' :: rest) (line :: lines)

theorem apart_of_whole {character : Char} {line : List Char}
    (whole : '\n' ∉ character :: line) : character ≠ '\n' ∧ '\n' ∉ line := by
  simpa [eq_comm] using whole

theorem linesFrom_of_whole {line : List Char} (whole : '\n' ∉ line)
    (current : List Char) :
    linesFrom current line =
      if (line.reverse ++ current).isEmpty then []
      else [current.reverse ++ line] := by
  induction line generalizing current with
  | nil => simp [linesFrom]
  | cons character line induction =>
      obtain ⟨other, within⟩ := apart_of_whole whole
      rw [linesFrom, induction within]
      · simp
      · exact other

theorem linesFrom_append {line : List Char} (whole : '\n' ∉ line)
    (current rest : List Char) :
    linesFrom current (line ++ '\n' :: rest) =
      dropReturn (current.reverse ++ line) :: linesFrom [] rest := by
  induction line generalizing current with
  | nil => simp [linesFrom]
  | cons character line induction =>
      obtain ⟨other, within⟩ := apart_of_whole whole
      rw [List.cons_append, linesFrom, induction within]
      · simp
      · exact other

theorem dropReturn_of_bare {line : List Char}
    (bare : line.getLast? ≠ some '\r') : dropReturn line = line := by
  rw [dropReturn, if_neg bare]

theorem dropReturn_append (line : List Char) :
    dropReturn (line ++ ['\r']) = line := by
  simp [dropReturn]

theorem lines_linesFrom {current : List Char} (whole : '\n' ∉ current)
    (text : List Char) :
    Lines (current.reverse ++ text) (linesFrom current text) := by
  fun_induction linesFrom current text with
  | case1 current empty =>
      rw [List.isEmpty_iff.mp empty]
      exact .nil
  | case2 current some =>
      rw [List.append_nil]
      apply Lines.last
      · simpa using some
      · simpa using whole
  | case3 current rest induction =>
      have following := induction List.not_mem_nil
      have within : '\n' ∉ current.reverse := by
        simpa using whole
      by_cases returns : current.reverse.getLast? = some '\r'
      · obtain ⟨line, split⟩ := List.getLast?_eq_some_iff.mp returns
        rw [split, dropReturn_append, List.append_assoc]
        rw [split] at within
        exact .returnFeed (fun inLine => within (List.mem_append_left _ inLine))
          following
      · rw [dropReturn_of_bare returns]
        exact .feed within returns following
  | case4 current character rest other induction =>
      have within : '\n' ∉ character :: current := by
        intro listed
        rcases List.mem_cons.mp listed with same | listed
        · exact other same.symm
        · exact whole listed
      simpa using induction within

theorem lines_eq_iff {text : List Char} {found : List (List Char)} :
    lines text = found ↔ Lines text found := by
  constructor
  · rintro rfl
    exact lines_linesFrom List.not_mem_nil text
  · intro made
    unfold lines
    induction made with
    | nil => rfl
    | last inhabited whole =>
        rw [linesFrom_of_whole whole]
        simp [inhabited]
    | feed whole bare _ induction =>
        rw [linesFrom_append whole, induction, List.reverse_nil,
          List.nil_append, dropReturn_of_bare bare]
    | @returnFeed line rest _ whole _ induction =>
        have within : '\n' ∉ line ++ ['\r'] := by
          simp [whole]
        have regrouped : line ++ '\r' :: '\n' :: rest =
            line ++ ['\r'] ++ '\n' :: rest := by
          simp
        rw [regrouped, linesFrom_append within, induction, List.reverse_nil,
          List.nil_append, dropReturn_append]

/-! ## Line numbers -/

/-- Lines with their numbers, after some that were numbered before. -/
def numberedFrom (before : Nat) (lines : List (List Char)) :
    List (Nat × List Char) :=
  lines.mapIdx fun index line => (before + index + 1, line)

theorem numberedLines_eq (text : List Char) :
    numberedLines text = numberedFrom 0 (lines text) := by
  simp [numberedLines, numberedFrom]

@[simp] theorem numberedFrom_nil (before : Nat) : numberedFrom before [] = [] :=
  rfl

@[simp] theorem numberedFrom_cons (before : Nat) (line : List Char)
    (lines : List (List Char)) :
    numberedFrom before (line :: lines) =
      (before + 1, line) :: numberedFrom (before + 1) lines := by
  simp [numberedFrom, List.mapIdx_cons, Nat.add_comm, Nat.add_left_comm]

theorem map_snd_numberedFrom (before : Nat) (lines : List (List Char)) :
    (numberedFrom before lines).map Prod.snd = lines := by
  induction lines generalizing before with
  | nil => rfl
  | cons line lines induction =>
      rw [numberedFrom_cons, List.map_cons, induction]

theorem Lines.numberedLines_eq {text : List Char} {found : List (List Char)}
    (made : Lines text found) : numberedLines text = numberedFrom 0 found := by
  rw [Text.numberedLines_eq, lines_eq_iff.mpr made]

/-! ## Words -/

/-- A line and the words that it is made of. -/
inductive Words : List Char → List (List Char) → Prop where
  | nil : Words [] []
  | blank {character : Char} {rest : List Char} {words : List (List Char)}
      (blank : isBlank character = true) (following : Words rest words) :
      Words (character :: rest) words
  /-- A last word at the very end. -/
  | last {word : List Char} (inhabited : word ≠ [])
      (solid : ∀ character ∈ word, isBlank character = false) :
      Words word [word]
  | word {word : List Char} {character : Char} {rest : List Char}
      {words : List (List Char)} (inhabited : word ≠ [])
      (solid : ∀ character ∈ word, isBlank character = false)
      (blank : isBlank character = true) (following : Words rest words) :
      Words (word ++ character :: rest) (word :: words)

theorem fieldsFrom_of_solid {word : List Char}
    (solid : ∀ character ∈ word, isBlank character = false)
    (current rest : List Char) :
    fieldsFrom current (word ++ rest) =
      fieldsFrom (word.reverse ++ current) rest := by
  induction word generalizing current with
  | nil => rfl
  | cons character word induction =>
      obtain ⟨here, there⟩ := List.forall_mem_cons.mp solid
      rw [List.cons_append, fieldsFrom, if_neg (by simp [here]),
        induction there]
      simp

theorem words_fieldsFrom {current : List Char}
    (solid : ∀ character ∈ current, isBlank character = false)
    (line : List Char) :
    Words (current.reverse ++ line) (fieldsFrom current line) := by
  fun_induction fieldsFrom current line with
  | case1 current empty =>
      rw [List.isEmpty_iff.mp empty]
      exact .nil
  | case2 current some =>
      rw [List.append_nil]
      apply Words.last
      · simpa using some
      · simpa using solid
  | case3 current character rest blank empty induction =>
      rw [List.isEmpty_iff.mp empty]
      exact .blank blank (induction (List.forall_mem_nil _))
  | case4 current character rest blank some induction =>
      apply Words.word _ _ blank (induction (List.forall_mem_nil _))
      · simpa using some
      · simpa using solid
  | case5 current character rest other induction =>
      have extended : ∀ next ∈ character :: current,
          isBlank next = false := by
        intro next listed
        rcases List.mem_cons.mp listed with rfl | listed
        · simpa using other
        · exact solid next listed
      simpa using induction extended

theorem fields_eq_iff {line : List Char} {found : List (List Char)} :
    fields line = found ↔ Words line found := by
  constructor
  · rintro rfl
    exact words_fieldsFrom (List.forall_mem_nil _) line
  · intro made
    unfold fields
    induction made with
    | nil => rfl
    | blank blank _ induction =>
        rw [fieldsFrom, if_pos blank]
        exact induction
    | @last word inhabited solid =>
        have read := fieldsFrom_of_solid solid [] []
        rw [List.append_nil] at read
        rw [read]
        simp [fieldsFrom, inhabited]
    | word inhabited solid blank _ induction =>
        rw [fieldsFrom_of_solid solid, fieldsFrom, if_pos blank, induction]
        simp [inhabited]

theorem Words.unique {line : List Char} {left right : List (List Char)}
    (first : Words line left) (second : Words line right) : left = right := by
  rw [← fields_eq_iff.mpr first, ← fields_eq_iff.mpr second]

/-! ## Blanks at the ends -/

theorem fields_of_blank_left {left : List Char}
    (blank : ∀ character ∈ left, isBlank character = true) (line : List Char) :
    fields (left ++ line) = fields line := by
  induction left with
  | nil => rfl
  | cons character left induction =>
      obtain ⟨here, there⟩ := List.forall_mem_cons.mp blank
      rw [List.cons_append, fields, fieldsFrom, if_pos here]
      exact induction there

theorem fieldsFrom_of_blank {right : List Char}
    (blank : ∀ character ∈ right, isBlank character = true)
    (current : List Char) :
    fieldsFrom current right = fieldsFrom current [] := by
  induction right generalizing current with
  | nil => rfl
  | cons character right induction =>
      obtain ⟨here, there⟩ := List.forall_mem_cons.mp blank
      have ended := induction there []
      unfold fieldsFrom
      rw [if_pos here, ended]
      rfl

theorem fieldsFrom_of_blank_right {right : List Char}
    (blank : ∀ character ∈ right, isBlank character = true)
    (current line : List Char) :
    fieldsFrom current (line ++ right) = fieldsFrom current line := by
  fun_induction fieldsFrom current line with
  | case1 current empty =>
      rw [List.nil_append, fieldsFrom_of_blank blank, fieldsFrom, if_pos empty]
  | case2 current some =>
      rw [List.nil_append, fieldsFrom_of_blank blank, fieldsFrom, if_neg some]
  | case3 current character rest isBlank empty induction =>
      rw [List.cons_append, fieldsFrom, if_pos isBlank, if_pos empty, induction]
  | case4 current character rest isBlank some induction =>
      rw [List.cons_append, fieldsFrom, if_pos isBlank, if_neg some, induction]
  | case5 current character rest other induction =>
      rw [List.cons_append, fieldsFrom, if_neg other, induction]

theorem words_nil_iff {line : List Char} :
    Words line [] ↔ ∀ character ∈ line, isBlank character = true := by
  constructor
  · intro made
    generalize none : ([] : List (List Char)) = words at made
    induction made with
    | nil => exact List.forall_mem_nil _
    | blank blank _ induction =>
        exact List.forall_mem_cons.mpr ⟨blank, induction none⟩
    | last | word => contradiction
  · intro blank
    apply fields_eq_iff.mp
    rw [fields, fieldsFrom_of_blank blank]
    rfl

theorem isBlankLine_iff {line : List Char} :
    isBlankLine line = true ↔ Words line [] := by
  rw [words_nil_iff, isBlankLine, List.all_eq_true]

/-- A line and what is left of it without the blanks at its ends. -/
structure Trims (line core : List Char) : Prop where
  split : ∃ left right, line = left ++ core ++ right ∧
    (∀ character ∈ left, isBlank character = true) ∧
    ∀ character ∈ right, isBlank character = true
  head : ∀ character, core.head? = some character → isBlank character = false
  last : ∀ character, core.getLast? = some character →
    isBlank character = false

theorem head?_dropWhile_isBlank {text : List Char} {character : Char}
    (first : (text.dropWhile isBlank).head? = some character) :
    isBlank character = false := by
  have stopped := List.head?_dropWhile_not isBlank text
  rw [first] at stopped
  simpa using stopped

theorem dropWhile_isBlank_append {left : List Char}
    (blank : ∀ character ∈ left, isBlank character = true) {core : List Char}
    (solid : ∀ character, core.head? = some character →
      isBlank character = false) :
    (left ++ core).dropWhile isBlank = core := by
  rw [List.dropWhile_append_of_pos blank]
  cases core with
  | nil => rfl
  | cons character core =>
      have stops := solid character rfl
      rw [List.dropWhile_cons_of_neg]
      simp [stops]

theorem trims_trim (line : List Char) : Trims line (trim line) := by
  have front := List.takeWhile_append_dropWhile (p := isBlank) (l := line)
  have back := List.takeWhile_append_dropWhile (p := isBlank)
    (l := (line.dropWhile isBlank).reverse)
  have kept : line.dropWhile isBlank =
      trim line ++ ((line.dropWhile isBlank).reverse.takeWhile isBlank).reverse := by
    rw [trim, ← List.reverse_append, back, List.reverse_reverse]
  constructor
  case split =>
    refine ⟨line.takeWhile isBlank,
      ((line.dropWhile isBlank).reverse.takeWhile isBlank).reverse, ?_, ?_, ?_⟩
    · rw [List.append_assoc, ← kept, front]
    · exact fun _ => List.mem_takeWhile_imp
    · intro character listed
      exact List.mem_takeWhile_imp (List.mem_reverse.mp listed)
  case head =>
    intro character first
    have headed : (line.dropWhile isBlank).head? = some character := by
      rw [kept, List.head?_append, first]
      rfl
    exact head?_dropWhile_isBlank headed
  case last =>
    intro character final
    rw [trim, List.getLast?_reverse] at final
    exact head?_dropWhile_isBlank final

theorem trim_eq_iff {line core : List Char} :
    trim line = core ↔ Trims line core := by
  constructor
  · rintro rfl
    exact trims_trim line
  · intro trims
    obtain ⟨left, right, rfl, blankLeft, blankRight⟩ := trims.split
    by_cases empty : core = []
    · subst empty
      have blank : ∀ character ∈ left ++ [] ++ right,
          isBlank character = true := by
        simpa [or_imp, forall_and] using ⟨blankLeft, blankRight⟩
      have none := List.dropWhile_eq_nil_iff.mpr blank
      rw [trim, none]
      rfl
    · have headed : ∀ character, (core ++ right).head? = some character →
          isBlank character = false := by
        intro character first
        apply trims.head
        obtain ⟨begin, rest, rfl⟩ := List.exists_cons_of_ne_nil empty
        exact first
      have ended : ∀ character, core.reverse.head? = some character →
          isBlank character = false := by
        intro character final
        apply trims.last
        rwa [List.head?_reverse] at final
      have blankBack : ∀ character ∈ right.reverse,
          isBlank character = true := by
        intro character listed
        exact blankRight character (List.mem_reverse.mp listed)
      rw [trim, List.append_assoc, dropWhile_isBlank_append blankLeft headed,
        List.reverse_append, dropWhile_isBlank_append blankBack ended,
        List.reverse_reverse]

theorem fields_trim (line : List Char) : fields (trim line) = fields line := by
  obtain ⟨left, right, split, blankLeft, blankRight⟩ := (trims_trim line).split
  calc fields (trim line) = fields (trim line ++ right) :=
        (fieldsFrom_of_blank_right blankRight [] _).symm
    _ = fields (left ++ (trim line ++ right)) :=
        (fields_of_blank_left blankLeft _).symm
    _ = fields line := by rw [← List.append_assoc, ← split]

end CausalCast.Text
