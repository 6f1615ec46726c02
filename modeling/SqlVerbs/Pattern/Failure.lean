/-!
# Why a text is no pattern

A text may not be a pattern at all, or it may be one that takes too much memory.
-/

namespace SqlVerbs.Pattern

/-- How many bytes an automaton may take. -/
def sizeLimit : Nat := 10485760

/-- Why a text is no regular expression. -/
inductive PatternFailure where
  | unreadable
  | tooLarge
deriving DecidableEq, Repr

namespace PatternFailure

def message : PatternFailure → String
  | .unreadable => "regex parse error:"
  | .tooLarge => "Compiled regex exceeds size limit of " ++ toString sizeLimit ++ " bytes."

end PatternFailure

end SqlVerbs.Pattern
