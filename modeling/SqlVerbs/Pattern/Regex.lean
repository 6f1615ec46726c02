import SqlVerbs.Pattern.Meaning
import SqlVerbs.Pattern.Reader
import SqlVerbs.Pattern.Size

/-!
# Regular expressions

A text is a regular expression if it is a written pattern that means something, and if matching it
does not take too much memory.
-/

namespace SqlVerbs.Pattern

/-- A pattern that has been read: its tree, and the number and names of its groups. -/
structure Regex where
  tree : Tree
  groupCount : Nat
  groupNames : List (String × Nat)

/-- Reads a regular expression of any size. -/
def Regex.read? (text : String) : Option Regex := do
  let (form, groups) ← Form.ofText? text
  let (tree, _) ← form.tree? {}
  some ⟨tree.mergeSets, groups.count, groups.names⟩

/-- Reads a regular expression. -/
def Regex.ofText (text : String) : Except PatternFailure Regex :=
  match Regex.read? text with
  | some r => if r.tree.fits then .ok r else .error .tooLarge
  | none => .error .unreadable

end SqlVerbs.Pattern
