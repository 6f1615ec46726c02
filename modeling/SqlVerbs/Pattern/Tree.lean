import SqlVerbs.Text.CharSet

/-!
# Patterns

The tree of a regular expression. Flags are resolved in it, so the tree says by itself what it
matches.
-/

namespace SqlVerbs.Pattern

open Text (CharSet)

/-- Conditions on a position of the text. -/
inductive Anchor where
  | textStart
  | textEnd
  | lineStart
  | lineEnd
  /-- Lines may end in a carriage return, alone or before a line feed. -/
  | crlfLineStart
  | crlfLineEnd
  | wordBoundary
  | notWordBoundary
  | wordStart
  | wordEnd
  | wordStartHalf
  | wordEndHalf
deriving DecidableEq, Repr

/-- A regular expression. -/
inductive Tree where
  | empty
  | set (s : CharSet)
  /-- The anchor, and whether its words are of ASCII characters only. -/
  | anchor (a : Anchor) (asciiWords : Bool)
  | seq (a b : Tree)
  | alt (a b : Tree)
  /-- At least `least` times and at most `most` times, as often or as rarely as possible. -/
  | loop (least : Nat) (most : Option Nat) (greedy : Bool) (body : Tree)
  | group (index : Nat) (body : Tree)
deriving Repr

namespace Tree

/-- Can the pattern match without using up a character? -/
def matchesEmpty : Tree → Bool
  | .empty => true
  | .set _ => false
  | .anchor .. => true
  | .seq a b => a.matchesEmpty && b.matchesEmpty
  | .alt a b => a.matchesEmpty || b.matchesEmpty
  | .loop least _ _ body => least = 0 || body.matchesEmpty
  | .group _ body => body.matchesEmpty

/-- Does every match use up no character? -/
def isZeroWidth : Tree → Bool
  | .empty => true
  | .set _ => false
  | .anchor .. => true
  | .seq a b => a.isZeroWidth && b.isZeroWidth
  | .alt a b => a.isZeroWidth && b.isZeroWidth
  | .loop _ _ _ body => body.isZeroWidth
  | .group _ body => body.isZeroWidth

def append : Tree → Tree → Tree
  | .empty, b => b
  | a, .empty => a
  | a, b => .seq a b

/-- The set of an alternation all of whose branches are single characters. -/
def asSet? : Tree → Option CharSet
  | .set s => some s
  | .alt a b => do some ((← a.asSet?).union (← b.asSet?))
  | _ => none

/-- An alternation of single characters as one set. -/
def mergeSets (t : Tree) : Tree :=
  match t.asSet? with
  | some s => .set s
  | none => t

/-- A repetition. Going more than once through what uses up no character changes nothing. -/
def repeated (least : Nat) (most : Option Nat) (greedy : Bool) (body : Tree) : Tree :=
  let (least, most) :=
    if body.isZeroWidth then (min least 1, some (min (most.getD 1) 1)) else (least, most)
  if least = 0 ∧ most = some 0 then .empty
  else if least = 1 ∧ most = some 1 then body
  else .loop least most greedy body

end Tree

end SqlVerbs.Pattern
