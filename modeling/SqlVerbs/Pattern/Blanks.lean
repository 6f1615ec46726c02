import SqlVerbs.Text.Property

/-!
# Blanks inside patterns

In a verbose pattern white space and comments may stand between the characters of almost every
construct. The steps here go over characters and what stands between them.
-/

namespace SqlVerbs.Pattern

/-- Skips white space and comments. -/
def skipBlanks : Bool → List Char → List Char
  | _, [] => []
  | inComment, c :: rest =>
    if inComment then skipBlanks (c ≠ '\n') rest
    else if c = '#' then skipBlanks true rest
    else if Text.isBlank c then skipBlanks false rest
    else c :: rest

/-- Skips white space and comments in a verbose pattern. -/
def skip (verbose : Bool) (chars : List Char) : List Char :=
  if verbose then skipBlanks false chars else chars

/-- The next character after white space and the sign of a comment. What looks ahead does not read
comments to their end. -/
def peek (verbose : Bool) (chars : List Char) : Option Char :=
  if verbose then
    match chars.dropWhile Text.isBlank with
    | '#' :: rest => (rest.dropWhile Text.isBlank).head?
    | rest => rest.head?
  else chars.head?

/-- The characters of a kind at the front, with what stands between them skipped. -/
def collect (verbose : Bool) (isMember : Char → Bool) :
    Nat → List Char → List Char × List Char
  | 0, chars => ([], chars)
  | _, [] => ([], [])
  | fuel + 1, c :: rest =>
    if isMember c then
      let (members, rest) := collect verbose isMember fuel (skip verbose rest)
      (c :: members, rest)
    else ([], c :: rest)

/-- All characters of a kind at the front. -/
def collectAll (verbose : Bool) (isMember : Char → Bool) (chars : List Char) :
    List Char × List Char :=
  collect verbose isMember chars.length chars

/-- So many characters of a kind, with what stands between and after them skipped. -/
def collectExactly (verbose : Bool) (isMember : Char → Bool) :
    Nat → List Char → Option (List Char × List Char)
  | 0, chars => some ([], chars)
  | _, [] => none
  | n + 1, c :: rest =>
    if isMember c then
      (collectExactly verbose isMember n (skip verbose rest)).map
        (fun (members, rest) => (c :: members, rest))
    else none

/-- A decimal number below `2 ^ 32` with blanks around it. -/
def readDecimal? (verbose : Bool) (chars : List Char) : Option (Nat × List Char) :=
  let (digits, rest) := collectAll verbose Char.isDigit (chars.dropWhile Text.isBlank)
  let value := digits.foldl (fun acc c => 10 * acc + (c.toNat - 48)) 0
  if digits.isEmpty ∨ 0x100000000 ≤ value then none
  else some (value, rest.dropWhile Text.isBlank)

end SqlVerbs.Pattern
