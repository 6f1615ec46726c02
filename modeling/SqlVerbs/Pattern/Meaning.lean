import SqlVerbs.Pattern.Class.Name
import SqlVerbs.Pattern.Form

/-!
# What written patterns match

The flags decide what the parts of a written pattern stand for. Without the Unicode flag classes,
case variants and words are those of ASCII, and a class that could match part of a character is
refused.
-/

namespace SqlVerbs.Pattern

open Text (CharSet)

namespace Flags

/-- The set with the case variants of its members, where case is ignored. -/
def fold (f : Flags) (s : CharSet) : CharSet :=
  if !f.ignoreCase then s else if f.unicode then foldSet s else foldAscii s

/-- The set of a class with its case variants, or the complement of that. -/
def finish (f : Flags) (negated : Bool) (s : CharSet) : Option CharSet :=
  let s := (f.fold s).complIf negated
  if f.unicode || s.isAscii then some s else none

end Flags

/-- The set of a class with a letter of its own; it has all its case variants. -/
def Shorthand.set? (kind : Shorthand) (f : Flags) (negated : Bool) : Option CharSet :=
  let (wide, narrow) : CharSet × AsciiClass := match kind with
    | .digit => (digits, .digit)
    | .space => (blanks, .space)
    | .word => (wordChars, .word)
  if f.unicode then some (wide.complIf negated)
  else if negated then none
  else some narrow.set

/-- The class that a query names. -/
def ClassQuery.set? : ClassQuery → Option CharSet
  | .bare name => classNamed? name
  | .valued property value _ => classValued? property value

/-- Does the query ask for the characters without a value? -/
def ClassQuery.isNegated : ClassQuery → Bool
  | .bare _ => false
  | .valued _ _ differs => differs

/-- The set of an atom that is a class. -/
def Atom.class? (f : Flags) : Atom → Option CharSet
  | .shorthand kind negated => kind.set? f negated
  | .property query negated => do
    if !f.unicode then none
    f.finish (negated != query.isNegated) (← query.set?)
  | .char .. | .anchor _ => none

/-- The character of an atom in a bracket. -/
def Atom.member? (f : Flags) : Atom → Option Char
  | .char c _ => if f.unicode || c.toNat < 128 then some c else none
  | _ => none

/-- Applies a set operation; case variants are added to both operands first. -/
def SetOp.apply (o : SetOp) (f : Flags) (a b : CharSet) : CharSet :=
  match o with
  | .inter => (f.fold a).inter (f.fold b)
  | .diff => (f.fold a).diff (f.fold b)
  | .symmDiff => (f.fold a).symmDiff (f.fold b)

/-- The set of what stands inside a bracket. -/
def SetForm.set? (f : Flags) : SetForm → Option CharSet
  | .empty => some .empty
  | .atom (.char c isByte) => (Atom.member? f (.char c isByte)).map .single
  | .atom a => a.class? f
  | .range low high => do some (.range (← low.member? f) (← high.member? f))
  | .ascii k negated => f.finish negated k.set
  | .bracket negated body => do f.finish negated (← body.set? f)
  | .also members last => do some ((← members.set? f).union (← last.set? f))
  | .op o a b => do some (o.apply f (← a.set? f) (← b.set? f))

/-- The tree of an atom that stands outside brackets. -/
def Atom.tree? (f : Flags) : Atom → Option Tree
  | .char c isByte =>
    if !f.unicode && isByte && 128 ≤ c.toNat then none else some (.set (f.fold (.single c)))
  | .anchor a => some (.anchor a (!f.unicode))
  | a => (a.class? f).map .set

/-- The tree of the dot. Without the Unicode flag it could match part of a character. -/
def dotTree? (f : Flags) : Option Tree :=
  if !f.unicode then none
  else if f.dotMatchesNewline then some (.set .full)
  else if f.crlf then some (.set (CharSet.ofLines ["a d"]).compl)
  else some (.set (CharSet.single '\n').compl)

/-- The anchor of a caret. -/
def caretAnchor (f : Flags) : Anchor :=
  if !f.multiLine then .textStart else if f.crlf then .crlfLineStart else .lineStart

/-- The anchor of a dollar sign. -/
def dollarAnchor (f : Flags) : Anchor :=
  if !f.multiLine then .textEnd else if f.crlf then .crlfLineEnd else .lineEnd

/-- The tree of a written pattern, and the flags after it. A group gives back the flags that it
found. -/
def Form.tree? : Form → Flags → Option (Tree × Flags)
  | .empty, f => some (.empty, f)
  | .setFlags changes, f => some (.empty, f.apply changes)
  | .dot, f => (dotTree? f).map (·, f)
  | .caret, f => some (.anchor (caretAnchor f) (!f.unicode), f)
  | .dollar, f => some (.anchor (dollarAnchor f) (!f.unicode), f)
  | .atom a, f => (a.tree? f).map (·, f)
  | .bracket negated body, f => do
    let s ← f.finish negated (← body.set? f)
    some (.set s, f)
  | .loop least most isLazy body, f => do
    let (inner, _) ← body.tree? f
    some (.repeated least most (isLazy == f.swapGreed) inner, f)
  | .group index changes body, f => do
    let (inner, _) ← body.tree? (f.apply changes)
    let inner := inner.mergeSets
    some (match index with
      | some n => .group n inner
      | none => inner, f)
  | .seq parts last, f => do
    let (before, f) ← parts.tree? f
    let (after, f) ← last.tree? f
    some (before.append after, f)
  | .alt branches last, f => do
    let (before, f) ← branches.tree? f
    let (after, f) ← last.tree? f
    some (.alt before after, f)

end SqlVerbs.Pattern
