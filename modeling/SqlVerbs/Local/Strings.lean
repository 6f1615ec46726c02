import SqlVerbs.Double.Reader
import SqlVerbs.Local.Coercion
import SqlVerbs.Pattern.Replacement
import SqlVerbs.Text.Casing

/-!
# Strings, patterns and casts
-/

namespace SqlVerbs.Local

/-- Applies a function to the text of every element; missing elements stay missing. -/
def mapText (f : String → Option String) (v : Value) : Except Reason Value := do
  return .atomic ((← v.literals).map fun l => .string ((text l).bind f))

def characterCount (v : Value) : Except Reason Value := do
  return .atomic ((← v.literals).map fun l =>
    .integer ((text l).map fun s => Int64.ofNat s.length))

/-- The characters from one position to another, both counted from 1 and included. -/
def slice (first last : Int) (s : String) : String :=
  let first := max 1 first
  String.ofList ((s.toList.drop (first - 1).toNat).take (last - first + 1).toNat)

/-- Parts of strings between two positions. Without a position the parts are missing. -/
def substr (x start stop : Value) : Except Reason Value := do
  let start ← scalarDouble start "start"
  let stop ← scalarDouble stop "stop"
  if start.isNaN || stop.isNaN then mapText (fun _ => none) x
  else
    let position (d : Float) : Int := Double.clampTo (-0x8000000000000000) 0xffffffffffffffff d
    mapText (fun s => some (slice (position start) (position stop) s)) x

/-- Texts side by side, where the shorter columns are repeated. -/
def pasteRows (columns : List (List String)) (separator : String) : List String :=
  -- Empty columns count for nothing, instead of making the result empty.
  let columns := (columns.filter (fun c => !c.isEmpty)).map List.toArray
  let count := (columns.map Array.size).foldl max 0
  (List.range count).map fun i =>
    separator.intercalate (columns.filterMap (fun c => cyclic c i))

/-- Joins strings element by element, and then all of them if `collapse` is given. -/
def paste (args : List Value) (separator : String) (collapse : Option String) :
    Except Reason Value := do
  let columns ← args.mapM fun v => do
    return (← v.literals).map fun l => (text l).getD "NA"
  let rows := pasteRows columns separator
  match collapse with
  | some c => return .atomic [.string (some (c.intercalate rows))]
  | none => return .atomic (rows.map fun s => .string (some s))

/-! ## Patterns -/

/-- A flag among the named arguments; a missing one is off. -/
def patternFlag (named : Bindings Value) (name : String) : Except Reason Bool := do
  match Bindings.get? named name with
  | some v => return (← scalarTruth v).getD false
  | none => return false

/-- The matcher of a pattern argument. -/
def patternOf (pattern : Value) (named : Bindings Value) : Except Reason Pattern.Matcher := do
  let source ← scalarText pattern "pattern"
  -- The text is escaped first, so that the prefix keeps its meaning.
  let source := if ← patternFlag named "fixed" then Pattern.escape source else source
  let source := if ← patternFlag named "ignore.case" then "(?i)" ++ source else source
  match Pattern.Regex.ofText source with
  | .ok r => return r.matcher
  | .error failure => throw (.badPattern failure)

/-- Which elements match a pattern; missing ones do not. -/
def matching (pattern x : Value) (named : Bindings Value) : Except Reason Value := do
  let m ← patternOf pattern named
  return .atomic ((← x.literals).map fun l =>
    .logical (some (match text l with
      | some s => m.isMatch s
      | none => false)))

/-- Replaces the first match or all matches of a pattern. -/
def replacing (all : Bool) (pattern replacement x : Value) (named : Bindings Value) :
    Except Reason Value := do
  let m ← patternOf pattern named
  let replacement ← scalarText replacement "replacement"
  mapText (fun s =>
    some (if all then m.replaceAll replacement s else m.replaceFirst replacement s)) x

/-! ## Casts -/

/-- The number that a literal stands for; strings are read, with blanks around them. -/
def numberOf : Literal → Option Float
  | .string (some s) => Double.ofText? (Text.trim s)
  | l => l.toDouble?

/-- The whole part as an integer, if the number is finite and not too large. -/
def castInteger (l : Literal) : Literal :=
  .integer ((numberOf l).bind fun d =>
    if Double.isFinite d && decide (Double.abs d < 9.2e18) then some (Double.toInt64 d) else none)

def castDouble (l : Literal) : Literal := .double (numberOf l)

def castString (l : Literal) : Literal := .string (text l)

/-- Strings are true or false by name. -/
def castLogical : Literal → Literal
  | .string (some s) =>
    if ["TRUE", "true", "True", "T"].contains s then .logical (some true)
    else if ["FALSE", "false", "False", "F"].contains s then .logical (some false)
    else .logical none
  | l =>
    match truth l with
    | .ok b => .logical b
    | .error _ => .logical none

def castAll (f : Literal → Literal) (v : Value) : Except Reason Value := do
  return .atomic ((← v.literals).map f)

end SqlVerbs.Local
