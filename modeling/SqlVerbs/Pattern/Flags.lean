/-!
# Flags of patterns

Flags are switched inside a pattern, for the rest of a group or for a group of their own.
-/

namespace SqlVerbs.Pattern

/-- What can be switched. -/
inductive Flag where
  | ignoreCase
  | multiLine
  | dotMatchesNewline
  | swapGreed
  | unicode
  | crlf
  | verbose
deriving DecidableEq, Repr

/-- The flag of a letter. -/
def Flag.ofLetter? : Char → Option Flag
  | 'i' => some .ignoreCase
  | 'm' => some .multiLine
  | 's' => some .dotMatchesNewline
  | 'U' => some .swapGreed
  | 'u' => some .unicode
  | 'R' => some .crlf
  | 'x' => some .verbose
  | _ => none

/-- Flags to switch, each with its new state. -/
abbrev FlagChange := List (Flag × Bool)

/-- The state of all flags. -/
structure Flags where
  ignoreCase : Bool := false
  multiLine : Bool := false
  dotMatchesNewline : Bool := false
  swapGreed : Bool := false
  unicode : Bool := true
  crlf : Bool := false
  verbose : Bool := false
deriving DecidableEq, Repr

namespace Flags

def set (f : Flags) (flag : Flag) (on : Bool) : Flags :=
  match flag with
  | .ignoreCase => { f with ignoreCase := on }
  | .multiLine => { f with multiLine := on }
  | .dotMatchesNewline => { f with dotMatchesNewline := on }
  | .swapGreed => { f with swapGreed := on }
  | .unicode => { f with unicode := on }
  | .crlf => { f with crlf := on }
  | .verbose => { f with verbose := on }

def apply (f : Flags) (changes : FlagChange) : Flags :=
  changes.foldl (fun f change => f.set change.1 change.2) f

end Flags

end SqlVerbs.Pattern
