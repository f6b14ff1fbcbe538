import CausalCast.Text.Invisible

/-!
# Quoted text

Messages quote text that came from outside.  The quoted form stands between
double quotes; the quote itself, the backslash, the tabulator, the line feed,
the carriage return and the null character have two-character escapes, and
every other invisible character is written as its code point in lower-case
hexadecimal, between braces.
-/

namespace CausalCast.Text

def quoteChar (character : Char) : List Char :=
  match character with
  | '\x00' => ['\\', '0']
  | '\t' => ['\\', 't']
  | '\r' => ['\\', 'r']
  | '\n' => ['\\', 'n']
  | '"' => ['\\', '"']
  | '\\' => ['\\', '\\']
  | _ =>
      if isInvisible character then
        ['\\', 'u', '\x7b'] ++ Nat.toDigits 16 character.toNat ++ ['\x7d']
      else [character]

def quote (text : List Char) : List Char :=
  '"' :: text.flatMap quoteChar ++ ['"']

def quoted (text : List Char) : String :=
  String.ofList (quote text)

end CausalCast.Text
