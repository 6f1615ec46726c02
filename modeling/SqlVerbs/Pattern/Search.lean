import Std.Data.HashSet
import SqlVerbs.Pattern.Regex

/-!
# Matching

A pattern becomes a program of choices and steps. A search tries the choices in their order of
preference and gives up a path when it comes back to an instruction at a position where it has been
before, so loops over empty matches end, and the number of steps is bounded by the size of the
program times the length of the text.
-/

namespace SqlVerbs.Pattern

open Text (CharSet)

/-- One instruction of a matching program. -/
inductive Step where
  | set (s : CharSet) (next : Nat)
  | anchor (a : Anchor) (asciiWords : Bool) (next : Nat)
  | mark (slot : Nat) (next : Nat)
  /-- The first choice is preferred. -/
  | choice (first second : Nat)
  | done

/-- A choice between going through a loop body and leaving it. -/
def Step.loopChoice (greedy : Bool) (body exit : Nat) : Step :=
  if greedy then .choice body exit else .choice exit body

/-- Adds an instruction and says where it is. -/
def emit (program : Array Step) (step : Step) : Nat × Array Step :=
  (program.size, program.push step)

/-- Adds a program that goes through `part` so many times and then to `next`. -/
def emitTimes (part : Nat → Array Step → Nat × Array Step) :
    Nat → Nat → Array Step → Nat × Array Step
  | 0, next, program => (next, program)
  | n + 1, next, program =>
    let (before, program) := part next program
    emitTimes part n before program

/-- Adds a program that goes through `part` at most so many times and then to `next`. Leaving any of
them leaves them all and goes to `exit`. -/
def emitUpTo (part : Nat → Array Step → Nat × Array Step) (greedy : Bool) (exit : Nat) :
    Nat → Nat → Array Step → Nat × Array Step
  | 0, next, program => (next, program)
  | n + 1, next, program =>
    let (body, program) := part next program
    let (choice, program) := emit program (.loopChoice greedy body exit)
    emitUpTo part greedy exit n choice program

/-- Adds a loop that goes through `part` at least once. -/
def emitPlus (part : Nat → Array Step → Nat × Array Step) (greedy : Bool) (next : Nat)
    (program : Array Step) : Nat × Array Step :=
  let (again, program) := emit program .done
  let (body, program) := part again program
  (body, program.setIfInBounds again (.loopChoice greedy body next))

/-- Adds a loop that goes through `part` any number of times. A part that can match nothing is
entered through a choice of its own, which keeps the order of preference. -/
def emitStar (part : Nat → Array Step → Nat × Array Step) (greedy matchesEmpty : Bool)
    (next : Nat) (program : Array Step) : Nat × Array Step :=
  if matchesEmpty then
    let (body, program) := emitPlus part greedy next program
    emit program (.loopChoice greedy body next)
  else
    let (again, program) := emit program .done
    let (body, program) := part again program
    (again, program.setIfInBounds again (.loopChoice greedy body next))

namespace Tree

/-- Adds the program of a tree that goes on to `next`, and says where it begins. -/
def compile : Tree → Nat → Array Step → Nat × Array Step
  | .empty, next, program => (next, program)
  | .set s, next, program => emit program (.set s next)
  | .anchor a asciiWords, next, program => emit program (.anchor a asciiWords next)
  | .seq a b, next, program =>
    let (second, program) := b.compile next program
    a.compile second program
  | .alt a b, next, program =>
    let (first, program) := a.compile next program
    let (second, program) := b.compile next program
    emit program (.choice first second)
  | .group index body, next, program =>
    let (closing, program) := emit program (.mark (2 * index + 1) next)
    let (inner, program) := body.compile closing program
    emit program (.mark (2 * index) inner)
  | .loop least (some most) greedy body, next, program =>
    let (optional, program) := emitUpTo body.compile greedy next (most - least) next program
    emitTimes body.compile least optional program
  | .loop 0 none greedy body, next, program =>
    emitStar body.compile greedy body.matchesEmpty next program
  | .loop (least + 1) none greedy body, next, program =>
    let (last, program) := emitPlus body.compile greedy next program
    emitTimes body.compile least last program

end Tree

/-- A pattern ready for matching. -/
structure Matcher where
  program : Array Step
  start : Nat
  regex : Regex

/-- The program of a pattern marks the whole match as group 0. -/
def Regex.matcher (r : Regex) : Matcher :=
  let (start, program) := (Tree.group 0 r.tree).compile 0 #[.done]
  ⟨program, start, r⟩

/-- Positions of group boundaries; a missing one has not been passed. -/
abbrev Marks := List (Nat × Nat)

/-- The word characters of ASCII. -/
def asciiWordChars : CharSet := AsciiClass.word.set

/-- Is there a word character at a position? -/
def wordAt (text : Array Char) (asciiWords : Bool) (position : Nat) : Bool :=
  match text[position]? with
  | some c => (if asciiWords then asciiWordChars else wordChars).holds c
  | none => false

/-- Is there a word character before a position? -/
def wordBefore (text : Array Char) (asciiWords : Bool) (position : Nat) : Bool :=
  0 < position && wordAt text asciiWords (position - 1)

/-- Does the anchor hold at a position? -/
def Anchor.holds (a : Anchor) (text : Array Char) (asciiWords : Bool) (position : Nat) : Bool :=
  let before := if position = 0 then none else text[position - 1]?
  let after := text[position]?
  let wordLeft := wordBefore text asciiWords position
  let wordRight := wordAt text asciiWords position
  match a with
  | .textStart => position = 0
  | .textEnd => position = text.size
  | .lineStart => position = 0 || before = some '\n'
  | .lineEnd => position = text.size || after = some '\n'
  | .crlfLineStart =>
    position = 0 || before = some '\n' || (before = some '\r' && after ≠ some '\n')
  | .crlfLineEnd =>
    position = text.size || after = some '\r' || (after = some '\n' && before ≠ some '\r')
  | .wordBoundary => wordLeft != wordRight
  | .notWordBoundary => wordLeft == wordRight
  | .wordStart => !wordLeft && wordRight
  | .wordEnd => wordLeft && !wordRight
  | .wordStartHalf => !wordLeft
  | .wordEndHalf => !wordRight

/-- A path of the search: an instruction, a position, and the marks on the way. -/
structure Path where
  step : Nat
  position : Nat
  marks : Marks

/-- Follows the paths in order until one is done. Each instruction is entered once at each
position. -/
def follow (program : Array Step) (text : Array Char) :
    Nat → List Path → Std.HashSet (Nat × Nat) → Option Marks
  | 0, _, _ => none
  | _, [], _ => none
  | fuel + 1, path :: others, seen =>
    if seen.contains (path.step, path.position) then follow program text fuel others seen
    else
      let seen := seen.insert (path.step, path.position)
      match program.getD path.step .done with
      | .done => some path.marks
      | .set s next =>
        match text[path.position]? with
        | some c =>
          if s.holds c then
            follow program text fuel (⟨next, path.position + 1, path.marks⟩ :: others) seen
          else follow program text fuel others seen
        | none => follow program text fuel others seen
      | .anchor a asciiWords next =>
        if a.holds text asciiWords path.position then
          follow program text fuel (⟨next, path.position, path.marks⟩ :: others) seen
        else follow program text fuel others seen
      | .mark slot next =>
        follow program text fuel
          (⟨next, path.position, (slot, path.position) :: path.marks⟩ :: others) seen
      | .choice first second =>
        follow program text fuel
          (⟨first, path.position, path.marks⟩ :: ⟨second, path.position, path.marks⟩ :: others) seen

/-- The piece of text of every group, from group 0 on; groups that took no part have none. -/
structure Match where
  start : Nat
  stop : Nat
  groups : List (Option String)

namespace Matcher

/-- The text between two marks. -/
def groupText (text : Array Char) (marks : Marks) (index : Nat) : Option String := do
  let start ← marks.lookup (2 * index)
  let stop ← marks.lookup (2 * index + 1)
  some (String.ofList (text.extract start stop).toList)

/-- The leftmost match from a position on. The paths that begin further left come first, and what
has failed for one of them fails for those after it. -/
def find (m : Matcher) (text : Array Char) (position : Nat) : Option Match := do
  let starts := (List.range (text.size + 1 - position)).map fun i =>
    (⟨m.start, position + i, []⟩ : Path)
  let fuel := 3 * (m.program.size + 1) * (text.size + 2)
  let marks ← follow m.program text fuel starts {}
  some ⟨← marks.lookup 0, ← marks.lookup 1,
    (List.range (m.regex.groupCount + 1)).map (groupText text marks)⟩

/-- Does the pattern match anywhere in the text? -/
def isMatch (m : Matcher) (text : String) : Bool := (m.find text.toList.toArray 0).isSome

/-- All matches from left to right without overlap. An empty match right after another match does
not count. -/
def findAll (m : Matcher) (text : Array Char) : Nat → Nat → Option Nat → List Match
  | 0, _, _ => []
  | fuel + 1, position, lastStop =>
    match m.find text position with
    | none => []
    | some found =>
      if found.start = found.stop ∧ lastStop = some found.stop then
        match m.find text (position + 1) with
        | none => []
        | some found => found :: findAll m text fuel found.stop (some found.stop)
      else found :: findAll m text fuel found.stop (some found.stop)

end Matcher

end SqlVerbs.Pattern
