/-!
# Failure reports

A report says what failed and then, one below the other, what each failure
was caused by.  Several causes are numbered from zero; the lines of one cause
stand below each other.
-/

namespace CausalCast

/-- A failure with its causes, the nearest first. -/
structure Report where
  failure : String
  causes : List String
deriving DecidableEq, Repr

namespace Report

/-- What stands before the first line of a cause. -/
def mark (number? : Option Nat) : String :=
  match number? with
  | none => "    "
  | some number =>
      let digits := toString number
      String.ofList (List.replicate (5 - digits.length) ' ') ++ digits ++ ": "

/-- A cause whose further lines begin below its first. -/
def causeText (number? : Option Nat) (cause : String) : String :=
  let margin := String.ofList (List.replicate (if number?.isSome then 7 else 4) ' ')
  mark number? ++ String.intercalate ("\n" ++ margin) (cause.splitOn "\n")

def causesText : List String → String
  | [] => ""
  | [cause] => "\n\nCaused by:\n" ++ causeText none cause
  | causes =>
      "\n\nCaused by:" ++
        String.join (causes.mapIdx fun index cause =>
          "\n" ++ causeText (some index) cause)

def toText (report : Report) : String :=
  "Error: " ++ report.failure ++ causesText report.causes ++ "\n"

end Report

end CausalCast
