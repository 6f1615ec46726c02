/-!
# Argument counts
-/

namespace SqlVerbs

/-- How many arguments a function accepts. -/
inductive Arity where
  | exact (count : Nat)
  | between (low high : Nat)
  | atLeast (low : Nat)
deriving DecidableEq, Repr

namespace Arity

def accepts : Arity → Nat → Bool
  | .exact count, n => n = count
  | .between low high, n => low ≤ n && n ≤ high
  | .atLeast low, n => low ≤ n

/-- The accepted counts in words. -/
def text : Arity → String
  | .exact count => toString count
  | .between low high => toString low ++ " to " ++ toString high
  | .atLeast low => "at least " ++ toString low

end Arity

end SqlVerbs
