import SqlVerbs.Double.Layout
import SqlVerbs.Json.Value

/-!
# Compact JSON text

No blanks, members in order, short escapes where JSON has them, and all other characters as they
are.
-/

namespace SqlVerbs.Json

def hexQuad (n : Nat) : String :=
  let digits := Nat.toDigits 16 n
  String.ofList (List.replicate (4 - digits.length) '0' ++ digits)

/-- How a character is written inside a JSON string. -/
def escapeChar (c : Char) : String :=
  if c = '"' then "\\\""
  else if c = '\\' then "\\\\"
  else if c = '\n' then "\\n"
  else if c = '\r' then "\\r"
  else if c = '\t' then "\\t"
  else if c.toNat = 8 then "\\b"
  else if c.toNat = 12 then "\\f"
  else if c.toNat < 32 then "\\u" ++ hexQuad c.toNat
  else c.toString

/-- A text as a JSON string. -/
def stringText (text : String) : String :=
  "\"" ++ String.join (text.toList.map escapeChar) ++ "\""

namespace Value

mutual

/-- The value as compact JSON text. -/
def render : Value → String
  | .null => "null"
  | .bool true => "true"
  | .bool false => "false"
  | .whole value => toString value
  | .real value => Double.jsonText value
  | .string value => stringText value
  | .array items => "[" ++ ",".intercalate (renderItems items) ++ "]"
  | .object members => "\x7b" ++ ",".intercalate (renderMembers members) ++ "\x7d"
  | .unreadable => "null"

def renderItems : List Value → List String
  | [] => []
  | v :: rest => render v :: renderItems rest

def renderMembers : List (String × Value) → List String
  | [] => []
  | (key, v) :: rest => (stringText key ++ ":" ++ render v) :: renderMembers rest

end

end Value

end SqlVerbs.Json
