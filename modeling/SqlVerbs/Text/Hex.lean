/-!
# Hexadecimal numbers in text
-/

namespace SqlVerbs.Text

/-- The value of a hexadecimal digit. -/
def hexDigit? (c : Char) : Option Nat :=
  if c.isDigit then some (c.toNat - 48)
  else if 'a' ≤ c ∧ c ≤ 'f' then some (c.toNat - 87)
  else if 'A' ≤ c ∧ c ≤ 'F' then some (c.toNat - 55)
  else none

/-- The number with these hexadecimal digits, of which there is at least one. -/
def hexNumber? (digits : List Char) : Option Nat := do
  let values ← digits.mapM hexDigit?
  if values.isEmpty then none
  else some (values.foldl (fun acc v => 16 * acc + v) 0)

/-- The character with a code point in hexadecimal digits. Surrogates are no characters. -/
def hexChar? (digits : List Char) : Option Char := do
  let code ← hexNumber? digits
  if code < 0xd800 ∨ (0xe000 ≤ code ∧ code < 0x110000) then some (Char.ofNat code) else none

end SqlVerbs.Text
