import SqlVerbs.Pattern.Bracket
import SqlVerbs.Text.Alphabetic

/-!
# Reading patterns

The pattern language has groups, alternatives, greedy and lazy repetition, brackets with set
operations, class escapes, anchors and inline flags. It has neither back-references nor look-around.
Reading fails without saying why.
-/

namespace SqlVerbs.Pattern

/-! ## Groups and repetition -/

/-- Reads flag letters up to the end of the flags. The last arguments are the changes so far, in
reverse order, whether a minus has been seen, and whether it was the last character. -/
def readFlags? : List Char → FlagChange → Bool → Bool → Option (FlagChange × List Char)
  | [], _, _, _ => none
  | c :: rest, changes, minus, dangling =>
    if c = ':' ∨ c = ')' then
      if dangling then none else some (changes.reverse, c :: rest)
    else if c = '-' then
      if minus then none else readFlags? rest changes true true
    else match Flag.ofLetter? c with
      | some flag =>
        if (changes.lookup flag).isSome then none
        else readFlags? rest ((flag, !minus) :: changes) minus false
      | none => none

/-- Letters of group names. -/
def isNameChar (first : Bool) (c : Char) : Bool :=
  c = '_' || Text.isAlphabetic c ||
    (!first && (c = '.' || c = '[' || c = ']' || (Text.Category.ofChar c).isNumber))

/-- A group name up to its closing angle bracket. -/
def readGroupName? (chars : List Char) : Option (String × List Char) :=
  let name := chars.takeWhile (· ≠ '>')
  match name, chars.dropWhile (· ≠ '>') with
  | first :: others, _ :: rest =>
    if isNameChar true first && others.all (isNameChar false) then
      some (String.ofList name, rest)
    else none
  | _, _ => none

/-- How a group begins. -/
inductive GroupStart where
  | capture (name : Option String)
  | plain (changes : FlagChange)
  | setFlags (changes : FlagChange)

/-- The start of a group after its parenthesis. -/
def readGroupStart? (verbose : Bool) (chars : List Char) : Option (GroupStart × List Char) :=
  match skip verbose chars with
  | '?' :: '=' :: _ | '?' :: '!' :: _ | '?' :: '<' :: '=' :: _ | '?' :: '<' :: '!' :: _ => none
  | '?' :: 'P' :: '<' :: rest | '?' :: '<' :: rest =>
    (readGroupName? rest).map (fun (name, rest) => (.capture (some name), rest))
  | '?' :: rest =>
    match readFlags? rest [] false false with
    | some (changes, ')' :: rest) =>
      if changes.isEmpty then none else some (.setFlags changes, rest)
    | some (changes, _ :: rest) => some (.plain changes, rest)
    | _ => none
  | chars => some (.capture none, chars)

/-- The bounds of a counted repetition after its opening brace. -/
def readBounds? (verbose : Bool) (chars : List Char) :
    Option ((Nat × Option Nat) × List Char) := do
  let (low, rest) ← readDecimal? verbose (skip verbose chars)
  match rest with
  | '\x7d' :: rest => some ((low, some low), skip verbose rest)
  | ',' :: rest =>
    match skip verbose rest with
    | '\x7d' :: rest => some ((low, none), skip verbose rest)
    | rest => do
      let (high, rest) ← readDecimal? verbose rest
      match rest with
      | '\x7d' :: rest =>
        if low ≤ high then some ((low, some high), skip verbose rest) else none
      | _ => none
  | _ => none

/-- Splits off the question mark of a lazy repetition. -/
def splitLazy : List Char → Bool × List Char
  | '?' :: rest => (true, rest)
  | chars => (false, chars)

/-! ## The parts of a group -/

/-- What has been read of a group: finished branches, and the parts of the current one. -/
structure Partial where
  branches : Option Form := none
  parts : Form := .empty
  last : Option Form := none

namespace Partial

/-- The current branch as one form. -/
def current (p : Partial) : Form :=
  match p.parts, p.last with
  | parts, none => parts
  | .empty, some last => last
  | parts, some last => .seq parts last

def add (p : Partial) (part : Form) : Partial :=
  { p with parts := p.current, last := some part }

/-- Everything that has been read. -/
def form (p : Partial) : Form :=
  match p.branches with
  | some branches => .alt branches p.current
  | none => p.current

/-- Ends the current branch. -/
def bar (p : Partial) : Partial := ⟨some p.form, .empty, none⟩

/-- Repeats the last part, which has to be there and to be more than a change of flags. -/
def repeatLast? (p : Partial) (least : Nat) (most : Option Nat) (isLazy : Bool) : Option Partial :=
  match p.last with
  | some (.setFlags _) => none
  | some part => some { p with last := some (.loop least most isLazy part) }
  | none => none

end Partial

/-- Groups counted so far, and the names in use. -/
structure Groups where
  count : Nat := 0
  names : List (String × Nat) := []

/-- The next group, unless its name is in use. -/
def Groups.add? (g : Groups) (name : Option String) : Option Groups :=
  match name with
  | some name =>
    if (g.names.lookup name).isSome then none
    else some ⟨g.count + 1, (name, g.count + 1) :: g.names⟩
  | none => some ⟨g.count + 1, g.names⟩

/-- Reads a pattern up to the end of its group. -/
def readForm? : Nat → Bool → Groups → Partial → List Char → Option (Form × Groups × List Char)
  | 0, _, _, _, _ => none
  | fuel + 1, verbose, groups, p, chars =>
    let looped (least : Nat) (most : Option Nat) (rest : List Char) := do
      let (isLazy, rest) := splitLazy rest
      let p ← p.repeatLast? least most isLazy
      readForm? fuel verbose groups p rest
    match skip verbose chars with
    | [] => some (p.form, groups, [])
    | ')' :: rest => some (p.form, groups, ')' :: rest)
    | '|' :: rest => readForm? fuel verbose groups p.bar rest
    | '*' :: rest => looped 0 none rest
    | '+' :: rest => looped 1 none rest
    | '?' :: rest => looped 0 (some 1) rest
    | '\x7b' :: rest => do
      let ((least, most), rest) ← readBounds? verbose rest
      looped least most rest
    | '(' :: rest => do
      let (start, rest) ← readGroupStart? verbose rest
      match start with
      | .setFlags changes =>
        readForm? fuel ((changes.lookup .verbose).getD verbose) groups (p.add (.setFlags changes))
          rest
      | .plain changes => do
        let (inner, groups, rest) ←
          readForm? fuel ((changes.lookup .verbose).getD verbose) groups {} rest
        match rest with
        | ')' :: rest => readForm? fuel verbose groups (p.add (.group none changes inner)) rest
        | _ => none
      | .capture name => do
        let groups ← groups.add? name
        let index := groups.count
        let (inner, groups, rest) ← readForm? fuel verbose groups {} rest
        match rest with
        | ')' :: rest => readForm? fuel verbose groups (p.add (.group (some index) [] inner)) rest
        | _ => none
    | '[' :: rest => do
      let (b, rest) ← openBracket? verbose rest
      let (s, rest) ← readBracket? verbose fuel b rest
      readForm? fuel verbose groups (p.add (.bracket b.negated s)) rest
    | '.' :: rest => readForm? fuel verbose groups (p.add .dot) rest
    | '^' :: rest => readForm? fuel verbose groups (p.add .caret) rest
    | '$' :: rest => readForm? fuel verbose groups (p.add .dollar) rest
    | '\\' :: rest => do
      let (a, rest) ← readEscape? verbose rest
      readForm? fuel verbose groups (p.add (.atom a)) rest
    | c :: rest => readForm? fuel verbose groups (p.add (.atom (.char c false))) rest

/-- Reads a written pattern with its groups. Every step uses up a character, so the fuel
suffices. -/
def Form.ofText? (text : String) : Option (Form × Groups) := do
  let (form, groups, rest) ← readForm? (2 * text.length + 2) false {} {} text.toList
  if rest.isEmpty ∧ form.height ≤ heightLimit then some (form, groups) else none

end SqlVerbs.Pattern
