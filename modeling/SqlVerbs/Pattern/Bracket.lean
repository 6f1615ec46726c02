import SqlVerbs.Pattern.Escape

/-!
# Brackets

The members of a bracket are characters, ranges, classes and further brackets. Operators between
them combine the members on both sides, from left to right.
-/

namespace SqlVerbs.Pattern

/-- A bracket that is being read: the operand before the last operator, and the members since. -/
structure OpenBracket where
  negated : Bool
  pending : Option (SetForm × SetOp) := none
  members : SetForm := .empty

namespace OpenBracket

def add (b : OpenBracket) (s : SetForm) : OpenBracket :=
  match b.members with
  | .empty => { b with members := s }
  | members => { b with members := .also members s }

/-- Everything up to here as one operand. -/
def operand (b : OpenBracket) : SetForm :=
  match b.pending with
  | some (left, o) => .op o left b.members
  | none => b.members

/-- Takes what has been read as the left operand of an operator. -/
def operator (b : OpenBracket) (o : SetOp) : OpenBracket :=
  { b with pending := some (b.operand, o), members := .empty }

end OpenBracket

/-- The start of a bracket: negation, then dashes or a closing bracket that stand for
themselves. -/
def openBracket? (verbose : Bool) (chars : List Char) : Option (OpenBracket × List Char) :=
  let (negated, chars) := match skip verbose chars with
    | '^' :: rest => (true, skip verbose rest)
    | chars => (false, chars)
  let (dashes, rest) := collectAll verbose (· = '-') chars
  let opened := dashes.foldl (fun (b : OpenBracket) c => b.add (.atom (.char c false)))
    ⟨negated, none, .empty⟩
  match dashes, rest with
  | _, [] => none
  | [], ']' :: rest =>
    match skip verbose rest with
    | [] => none
    | rest => some (opened.add (.atom (.char ']' false)), rest)
  | _, rest => some (opened, rest)

/-- A named class of ASCII characters after its opening bracket. -/
def readAsciiClass? (chars : List Char) : Option (SetForm × List Char) :=
  match chars with
  | ':' :: rest =>
    let (negated, rest) := match rest with
      | '^' :: rest => (true, rest)
      | _ => (false, rest)
    match rest.dropWhile (· ≠ ':') with
    | ':' :: ']' :: after =>
      (AsciiClass.ofName? (String.ofList (rest.takeWhile (· ≠ ':')))).map
        (fun k => (.ascii k negated, after))
    | _ => none
  | _ => none

/-- One member of a bracket: a character or an escape. -/
def readMember? (verbose : Bool) (chars : List Char) : Option (Atom × List Char) :=
  match chars with
  | '\\' :: rest => readEscape? verbose rest
  | c :: rest => some (.char c false, rest)
  | [] => none

/-- A range of characters, from the lower to the higher one. -/
def rangeOf? : Atom → Atom → Option SetForm
  | .char low a, .char high b =>
    if low ≤ high then some (.range (.char low a) (.char high b)) else none
  | _, _ => none

/-- A member or a range. A dash before a closing bracket or another dash makes no range. -/
def readRange? (verbose : Bool) (chars : List Char) : Option (SetForm × List Char) := do
  let (first, rest) ← readMember? verbose chars
  match skip verbose rest with
  | [] => none
  | '-' :: after =>
    if peek verbose after = some ']' ∨ peek verbose after = some '-' then
      some (.atom first, '-' :: after)
    else do
      let (last, rest) ← readMember? verbose (skip verbose after)
      some (← rangeOf? first last, rest)
  | rest => some (.atom first, rest)

/-- The members of a bracket up to its end. -/
def readBracket? (verbose : Bool) :
    Nat → OpenBracket → List Char → Option (SetForm × List Char)
  | 0, _, _ => none
  | fuel + 1, b, chars =>
    match skip verbose chars with
    | [] => none
    | '[' :: rest =>
      match readAsciiClass? rest with
      | some (s, rest) => readBracket? verbose fuel (b.add s) rest
      | none => do
        let (inner, rest) ← openBracket? verbose rest
        let (s, rest) ← readBracket? verbose fuel inner rest
        readBracket? verbose fuel (b.add (.bracket inner.negated s)) rest
    | ']' :: rest => some (b.operand, rest)
    | '&' :: '&' :: rest => readBracket? verbose fuel (b.operator .inter) rest
    | '-' :: '-' :: rest => readBracket? verbose fuel (b.operator .diff) rest
    | '~' :: '~' :: rest => readBracket? verbose fuel (b.operator .symmDiff) rest
    | chars => do
      let (s, rest) ← readRange? verbose chars
      readBracket? verbose fuel (b.add s) rest

end SqlVerbs.Pattern
