import Std.Data.HashMap
import SqlVerbs.Pattern.Failure
import SqlVerbs.Pattern.Tree

/-!
# The size of compiled patterns

A pattern is matched by two automata over the bytes of the text, one that reads forward and one
that reads backward. Their sizes in bytes are limited. A state takes 32 bytes, a transition of a
state with many of them 8, and a branch of a choice 4. Counted repetition copies its body, so the
size is calculated and no automaton is built.
-/

namespace SqlVerbs.Pattern

open Text (CharSet)

/-! ## Characters as bytes -/

abbrev ByteRange := Nat × Nat

/-- The sequences of byte ranges for the values from `low` to `high`, where the first byte adds its
part of the value to `base` and `count` bytes follow it. -/
def byteSequences : Nat → Nat → Nat → Nat → List (List ByteRange)
  | 0, base, low, high => [[(base + low, base + high)]]
  | count + 1, base, low, high =>
    let unit := Nat.pow 64 (count + 1)
    let (a, b) := (low / unit, high / unit)
    let below (byte start stop : Nat) : List (List ByteRange) :=
      (byteSequences count 0x80 start stop).map ((base + byte, base + byte) :: ·)
    if a = b then below a (low % unit) (high % unit)
    else
      let wholeFirst := low % unit = 0
      let wholeLast := high % unit = unit - 1
      let (first, last) := (if wholeFirst then a else a + 1, if wholeLast then b else b - 1)
      (if wholeFirst then [] else below a (low % unit) (unit - 1)) ++
        (if last < first then []
         else [(base + first, base + last) :: List.replicate (count + 1) (0x80, 0xbf)]) ++
        (if wholeLast then [] else below b 0 (high % unit))

/-- The code points with one length in bytes, with the number of bytes after the first and the base
of the first. -/
def lengthClasses : List (Nat × Nat × Nat × Nat) :=
  [(0x0, 0x7f, 0, 0x0), (0x80, 0x7ff, 1, 0xc0), (0x800, 0xd7ff, 2, 0xe0),
    (0xe000, 0xffff, 2, 0xe0), (0x10000, 0x10ffff, 3, 0xf0)]

/-- The sequences of byte ranges of a set of characters, in ascending order. -/
def sequencesOf (s : CharSet) : List (List ByteRange) :=
  s.ranges.toList.flatMap fun (low, high) =>
    lengthClasses.flatMap fun (first, last, count, base) =>
      if high < first ∨ last < low then []
      else byteSequences count base (max low first) (min high last)

/-- The number of bytes of a character. -/
def byteLength (point : Nat) : Nat :=
  if point < 0x80 then 1 else if point < 0x800 then 2 else if point < 0x10000 then 3 else 4

/-! ## States of character sets -/

/-- The ways to read a text. -/
inductive Direction where
  | forward
  | backward
deriving DecidableEq, Repr

/-- Bytes of a state. -/
def stateSize : Nat := 32

/-- Bytes of a transition of a state that has several. -/
def transitionSize : Nat := 8

/-- Bytes of a branch of a choice. -/
def branchSize : Nat := 4

/-- The transitions of a state: ranges of bytes and the states they lead to. -/
abbrev Transitions := List (ByteRange × Nat)

/-- The states of a set so far. States with the same transitions are one state. -/
structure SharedStates where
  ids : Std.HashMap Transitions Nat := {}
  size : Nat := 0

/-- The number of the state with these transitions, which is new or has been made before. -/
def SharedStates.intern (shared : SharedStates) (transitions : Transitions) : Nat × SharedStates :=
  match shared.ids.get? transitions with
  | some id => (id, shared)
  | none =>
    let id := shared.ids.size + 1
    (id, ⟨shared.ids.insert transitions id,
      shared.size + stateSize + transitionSize * transitions.length⟩)

/-- The state that reads the given sequences, of which none is longer than the depth. The number 0
is the state after all of them. -/
def stateOf : Nat → List (List ByteRange) → SharedStates → Nat × SharedStates
  | 0, _, shared => (0, shared)
  | depth + 1, sequences, shared =>
    let groups := sequences.splitBy (fun a b => a.head? == b.head?)
    let (transitions, shared) := groups.foldl
      (fun (done : Transitions × SharedStates) group =>
        match group with
        | (range :: []) :: _ => (done.1 ++ [(range, 0)], done.2)
        | (range :: _) :: _ =>
          let (id, shared) := stateOf depth (group.map List.tail) done.2
          (done.1 ++ [(range, id)], shared)
        | _ => done)
      ([], shared)
    shared.intern transitions

/-- How many ranges two sequences have in common at their front. -/
def commonLength : List ByteRange → List ByteRange → Nat
  | a :: as, b :: bs => if a = b then commonLength as bs + 1 else 0
  | _, _ => 0

/-- The states of sequences that share no more than their beginnings. -/
def trieStates (previous : List ByteRange) : List (List ByteRange) → Nat
  | [] => 0
  | sequence :: rest =>
    (sequence.length - commonLength previous sequence) + trieStates sequence rest

/-- The size of the states of a set. One character is a chain of states, ASCII characters are the
transitions of one state. Reading forward, equal states are shared; reading backward, there is a
choice between sequences that share their ends. -/
def setSize (d : Direction) (s : CharSet) : Nat :=
  match s.only? with
  | some point => stateSize * byteLength point
  | none =>
    if s.isAscii then 2 * stateSize + transitionSize * s.ranges.size
    else
      let sequences := sequencesOf s
      match d with
      | .forward => stateSize + (stateOf 4 sequences {}).2.size
      | .backward =>
        (2 + trieStates [] sequences) * stateSize + branchSize * sequences.length

/-! ## States of patterns -/

/-- The size of a choice with two branches. -/
def choiceSize : Nat := stateSize + 2 * branchSize

/-- The size of the states of a pattern. Only the forward automaton records groups. -/
def Tree.size (d : Direction) : Tree → Nat
  | .empty => stateSize
  | .set s => setSize d s
  | .anchor .. => stateSize
  | .seq a b => a.size d + b.size d
  | .alt a b =>
    let branches (t : Tree) (size : Nat) : Nat := match t with
      | .alt .. => size - 2 * stateSize
      | _ => size + branchSize
    2 * stateSize + branches a (a.size d) + branches b (b.size d)
  | .loop 0 (some 1) _ body => choiceSize + stateSize + body.size d
  | .loop 0 none _ body =>
    if body.matchesEmpty then 2 * choiceSize + stateSize + body.size d
    else choiceSize + body.size d
  | .loop (least + 1) none _ body => (least + 1) * body.size d + choiceSize
  | .loop least (some most) _ body =>
    if least = most then least * body.size d
    else (if least = 0 then stateSize else least * body.size d) + stateSize +
      (most - least) * (choiceSize + body.size d)
  | .group _ body =>
    match d with
    | .forward => 2 * stateSize + body.size d
    | .backward => body.size d

/-- The size of an automaton: the pattern, the end, and a loop in front that skips what comes before
the match. -/
def Tree.automatonSize (d : Direction) (t : Tree) : Nat :=
  (Tree.group 0 t).size d + stateSize + choiceSize + 2 * stateSize + transitionSize

/-- Are both automata small enough? -/
def Tree.fits (t : Tree) : Bool :=
  t.automatonSize .forward ≤ sizeLimit && t.automatonSize .backward ≤ sizeLimit

end SqlVerbs.Pattern
