import SqlVerbs.Pattern.AsciiClass
import SqlVerbs.Pattern.Flags
import SqlVerbs.Pattern.Tree

/-!
# Written patterns

A pattern as it is written, before its flags are resolved. Sequences, alternatives and the members
of a bracket are chains that lean to the left. A written pattern may not be nested too deep; a chain
counts as one level, however long it is.
-/

namespace SqlVerbs.Pattern

/-- The classes that have a letter of their own. -/
inductive Shorthand where
  | digit
  | space
  | word
deriving DecidableEq, Repr

/-- The name of a class between the braces of a property escape. -/
inductive ClassQuery where
  | bare (name : List Char)
  /-- A property and a value that it has, or does not have. -/
  | valued (property value : List Char) (differs : Bool)
deriving DecidableEq, Repr

/-- What a character or an escape stands for. -/
inductive Atom where
  /-- A character, and whether it was written as a byte of two hexadecimal digits. -/
  | char (c : Char) (isByte : Bool)
  | shorthand (kind : Shorthand) (negated : Bool)
  | property (query : ClassQuery) (negated : Bool)
  | anchor (a : Anchor)
deriving DecidableEq, Repr

/-- Set operations inside brackets. -/
inductive SetOp where
  | inter
  | diff
  | symmDiff
deriving DecidableEq, Repr

/-- What stands inside a bracket. -/
inductive SetForm where
  | empty
  | atom (a : Atom)
  | range (low high : Atom)
  | ascii (k : AsciiClass) (negated : Bool)
  | bracket (negated : Bool) (body : SetForm)
  /-- The members so far and one more. -/
  | also (members last : SetForm)
  | op (o : SetOp) (a b : SetForm)
deriving DecidableEq, Repr

/-- A written pattern. -/
inductive Form where
  | empty
  /-- A change of flags for the rest of the group. -/
  | setFlags (changes : FlagChange)
  | dot
  | caret
  | dollar
  | atom (a : Atom)
  | bracket (negated : Bool) (body : SetForm)
  | loop (least : Nat) (most : Option Nat) (isLazy : Bool) (body : Form)
  /-- A group with a number if it captures, and its own flags. -/
  | group (index : Option Nat) (changes : FlagChange) (body : Form)
  | seq (parts last : Form)
  | alt (branches last : Form)
deriving Repr

/-- The levels of brackets, members and operations above the deepest member. -/
def SetForm.height : SetForm → Nat
  | .empty | .atom _ | .range .. | .ascii .. => 0
  | .bracket _ body => body.height + 1
  | .also members last =>
    let before := match members with
      | .also .. => members.height
      | _ => members.height + 1
    max before (last.height + 1)
  | .op _ a b => max a.height b.height + 1

/-- The levels of groups, repetitions, sequences, alternatives and brackets above the deepest
part. -/
def Form.height : Form → Nat
  | .empty | .setFlags _ | .dot | .caret | .dollar | .atom _ => 0
  | .bracket _ body => body.height + 1
  | .loop _ _ _ body => body.height + 1
  | .group _ _ body => body.height + 1
  | .seq parts last =>
    let before := match parts with
      | .seq .. => parts.height
      | _ => parts.height + 1
    max before (last.height + 1)
  | .alt branches last =>
    let before := match branches with
      | .alt .. => branches.height
      | _ => branches.height + 1
    max before (last.height + 1)

/-- How many levels a written pattern may have. -/
def heightLimit : Nat := 250

end SqlVerbs.Pattern
