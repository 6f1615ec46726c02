import SqlVerbs.Pattern.Search

/-!
# Replacements

In the host language `\1` refers to a group and `\\` is a backslash. The matcher's own templates
write `${1}` for a group and `$$` for a dollar sign.
-/

namespace SqlVerbs.Pattern

/-- Turns a replacement of the host language into a template. -/
def toTemplate : List Char → List Char
  | [] => []
  | c :: rest =>
    if c = '\\' then
      match rest with
      | [] => ['\\']
      | d :: after =>
        if d.isDigit then '$' :: '\x7b' :: d :: '\x7d' :: toTemplate after
        else if d = '\\' then '\\' :: toTemplate after
        else '\\' :: toTemplate (d :: after)
    else if c = '$' then '$' :: '$' :: toTemplate rest
    else c :: toTemplate rest

/-- The text of a group by number or name; no text for a group that took no part. A number may have
a plus sign. -/
def groupNamed (names : List (String × Nat)) (groups : List (Option String)) (name : String) :
    String :=
  let digits := match name.toList with
    | '+' :: digits => digits
    | digits => digits
  let index :=
    if !digits.isEmpty && digits.all Char.isDigit then
      some (digits.foldl (fun acc c => 10 * acc + (c.toNat - 48)) 0)
    else names.lookup name
  match index with
  | some n => ((groups.getD n none).getD "")
  | none => ""

/-- Characters of group names that need no braces. -/
def isBareNameChar (c : Char) : Bool := c.isAlphanum || c = '_'

/-- Fills in a template. A dollar sign that begins no reference stands for itself. -/
def expand (lookup : String → String) : Nat → List Char → List Char
  | 0, _ => []
  | _, [] => []
  | fuel + 1, '$' :: '$' :: rest => '$' :: expand lookup fuel rest
  | fuel + 1, '$' :: '\x7b' :: rest =>
    match rest.dropWhile (· ≠ '\x7d') with
    | _ :: after =>
      (lookup (String.ofList (rest.takeWhile (· ≠ '\x7d')))).toList ++ expand lookup fuel after
    | [] => '$' :: expand lookup fuel ('\x7b' :: rest)
  | fuel + 1, '$' :: rest =>
    let name := rest.takeWhile isBareNameChar
    if name.isEmpty then '$' :: expand lookup fuel rest
    else (lookup (String.ofList name)).toList ++
      expand lookup fuel (rest.dropWhile isBareNameChar)
  | fuel + 1, c :: rest => c :: expand lookup fuel rest

namespace Matcher

/-- The text of a template for a match. -/
def expandMatch (m : Matcher) (template : List Char) (found : Match) : List Char :=
  expand (groupNamed m.regex.groupNames found.groups) (template.length + 1) template

/-- The text with the given matches replaced, from a position on. -/
def splice (m : Matcher) (template : List Char) (text : Array Char) :
    List Match → Nat → List Char
  | [], position => (text.extract position text.size).toList
  | found :: later, position =>
    (text.extract position found.start).toList ++ m.expandMatch template found ++
      splice m template text later found.stop

def replaceFirst (m : Matcher) (replacement text : String) : String :=
  let chars := text.toList.toArray
  String.ofList
    (m.splice (toTemplate replacement.toList) chars (m.find chars 0).toList 0)

def replaceAll (m : Matcher) (replacement text : String) : String :=
  let chars := text.toList.toArray
  String.ofList
    (m.splice (toTemplate replacement.toList) chars (m.findAll chars (chars.size + 2) 0 none) 0)

end Matcher

end SqlVerbs.Pattern
