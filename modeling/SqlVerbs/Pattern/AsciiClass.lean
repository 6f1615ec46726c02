import SqlVerbs.Text.CharSet

/-!
# Named classes of ASCII characters

What `[:alpha:]` and its like stand for inside brackets.
-/

namespace SqlVerbs.Pattern

open Text (CharSet)

/-- The named classes of ASCII characters. -/
inductive AsciiClass where
  | alnum
  | alpha
  | ascii
  | blank
  | cntrl
  | digit
  | graph
  | lower
  | print
  | punct
  | space
  | upper
  | word
  | xdigit
deriving DecidableEq, Repr

namespace AsciiClass

def ofName? : String → Option AsciiClass
  | "alnum" => some .alnum
  | "alpha" => some .alpha
  | "ascii" => some .ascii
  | "blank" => some .blank
  | "cntrl" => some .cntrl
  | "digit" => some .digit
  | "graph" => some .graph
  | "lower" => some .lower
  | "print" => some .print
  | "punct" => some .punct
  | "space" => some .space
  | "upper" => some .upper
  | "word" => some .word
  | "xdigit" => some .xdigit
  | _ => none

/-- The members as code points in hexadecimal. -/
def points : AsciiClass → String
  | .alnum => "30-39 41-5a 61-7a"
  | .alpha => "41-5a 61-7a"
  | .ascii => "0-7f"
  | .blank => "9 20"
  | .cntrl => "0-1f 7f"
  | .digit => "30-39"
  | .graph => "21-7e"
  | .lower => "61-7a"
  | .print => "20-7e"
  | .punct => "21-2f 3a-40 5b-60 7b-7e"
  | .space => "9-d 20"
  | .upper => "41-5a"
  | .word => "30-39 41-5a 5f 61-7a"
  | .xdigit => "30-39 41-46 61-66"

def set (k : AsciiClass) : CharSet := .ofLines [k.points]

end AsciiClass

end SqlVerbs.Pattern
