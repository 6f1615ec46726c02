/-!
# Lines of a text

A line ends at a line feed, and a carriage return before the line feed belongs to the line break.
A text that ends in a line break has no empty line after it.
-/

namespace SqlVerbs.Text

/-- Splits at line feeds. The part after the last one counts only if it is not empty. -/
def splitLines : List Char → List Char → List (List Char)
  | [], current => if current.isEmpty then [] else [current.reverse]
  | '\n' :: rest, current =>
    let line := match current with
      | '\r' :: before => before.reverse
      | _ => current.reverse
    line :: splitLines rest []
  | c :: rest, current => splitLines rest (c :: current)

/-- The lines of a text, without their line breaks. -/
def lines (text : String) : List String := (splitLines text.toList []).map String.ofList

/-- Puts two blanks before every line. -/
def indent (text : String) : String := "\n".intercalate ((lines text).map ("  " ++ ·))

end SqlVerbs.Text
