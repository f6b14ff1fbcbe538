import CausalCast.Text.Blank

/-!
# Lines and fields

Text is read line by line, and a line field by field.  A line ends at a line
feed, and one carriage return right before that line feed belongs to the line
end.  What follows the last line feed is a line only if it holds something.
A field is a longest run of characters that are not blank.
-/

namespace CausalCast.Text

/-- Drop one carriage return at the end of a line. -/
def dropReturn (line : List Char) : List Char :=
  if line.getLast? = some '\r' then line.dropLast else line

/-- Collect lines; `current` holds the line read so far, last character
first. -/
def linesFrom (current : List Char) : List Char → List (List Char)
  | [] => if current.isEmpty then [] else [current.reverse]
  | '\n' :: rest => dropReturn current.reverse :: linesFrom [] rest
  | character :: rest => linesFrom (character :: current) rest

def lines (text : List Char) : List (List Char) :=
  linesFrom [] text

/-- The lines of a text, each with its number; the first line is line 1. -/
def numberedLines (text : List Char) : List (Nat × List Char) :=
  (lines text).mapIdx fun index line => (index + 1, line)

/-- A line that is empty or holds blanks only. -/
def isBlankLine (line : List Char) : Bool :=
  line.all isBlank

def trim (line : List Char) : List Char :=
  ((line.dropWhile isBlank).reverse.dropWhile isBlank).reverse

/-- Collect fields; `current` holds the field read so far, last character
first. -/
def fieldsFrom (current : List Char) : List Char → List (List Char)
  | [] => if current.isEmpty then [] else [current.reverse]
  | character :: rest =>
      if isBlank character then
        if current.isEmpty then fieldsFrom [] rest
        else current.reverse :: fieldsFrom [] rest
      else fieldsFrom (character :: current) rest

def fields (line : List Char) : List (List Char) :=
  fieldsFrom [] line

@[simp] theorem lines_nil : lines [] = [] := rfl

@[simp] theorem fields_nil : fields [] = [] := rfl

end CausalCast.Text
