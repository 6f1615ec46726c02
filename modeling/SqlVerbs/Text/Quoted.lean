import SqlVerbs.Text.Property

/-!
# Quoted text

Text in double quotes, with escapes for the quote, the backslash, line breaks, the tab, NUL, and
for every character that cannot be shown on its own.
-/

namespace SqlVerbs.Text

/-- The code point in hexadecimal between braces. -/
def codePointEscape (c : Char) : String :=
  "\\u\x7b" ++ String.ofList (Nat.toDigits 16 c.toNat) ++ "\x7d"

/-- How a character is written between the quotes. -/
def escapeChar (c : Char) : String :=
  if c.toNat = 0 then "\\0"
  else if c = '\t' then "\\t"
  else if c = '\r' then "\\r"
  else if c = '\n' then "\\n"
  else if c = '\\' then "\\\\"
  else if c = '"' then "\\\""
  else if c.toNat < 128 then
    (if 32 ≤ c.toNat ∧ c.toNat < 127 then c.toString else codePointEscape c)
  else if !isPrintable c then codePointEscape c
  else c.toString

/-- The text in double quotes. -/
def quoted (text : String) : String := "\"" ++ String.join (text.toList.map escapeChar) ++ "\""

end SqlVerbs.Text
