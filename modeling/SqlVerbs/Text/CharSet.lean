import SqlVerbs.Text.Hex

/-!
# Sets of characters

A set of characters is a list of ranges of code points in ascending order, with gaps between them.
Union, complement and the operations made of them keep that form. Surrogates are no characters, so
it does not matter on which side of a complement they are.
-/

namespace SqlVerbs.Text

/-- A set of characters: ranges of code points with both ends included. -/
structure CharSet where
  ranges : Array (Nat × Nat)
deriving DecidableEq, Repr, Inhabited

namespace CharSet

/-- The greatest code point. -/
def lastPoint : Nat := 0x10ffff

/-- Joins a range with those after it that touch it; they are in the order of their first code
points. -/
def joinFrom (low high : Nat) : List (Nat × Nat) → List (Nat × Nat)
  | [] => [(low, high)]
  | (first, last) :: rest =>
    if first ≤ high + 1 then joinFrom low (max high last) rest
    else (low, high) :: joinFrom first last rest

/-- The set of everything in the ranges, which may overlap and have any order. -/
def ofRanges (ranges : List (Nat × Nat)) : CharSet :=
  match ranges.mergeSort (fun a b => a.1 ≤ b.1) with
  | [] => ⟨#[]⟩
  | (first, last) :: rest => ⟨(joinFrom first last rest).toArray⟩

def empty : CharSet := ⟨#[]⟩

def single (c : Char) : CharSet := ⟨#[(c.toNat, c.toNat)]⟩

/-- All characters from one to another. -/
def range (low high : Char) : CharSet := ofRanges [(low.toNat, high.toNat)]

def union (a b : CharSet) : CharSet := ofRanges (a.ranges.toList ++ b.ranges.toList)

/-- The characters in any of the sets. -/
def unionAll (sets : List CharSet) : CharSet :=
  ofRanges (sets.flatMap (fun s => s.ranges.toList))

/-- The ranges between the given ones, from a code point on. -/
def gapsFrom (start : Nat) : List (Nat × Nat) → List (Nat × Nat)
  | [] => if start ≤ lastPoint then [(start, lastPoint)] else []
  | (first, last) :: rest =>
    if start < first then (start, first - 1) :: gapsFrom (last + 1) rest
    else gapsFrom (last + 1) rest

def compl (a : CharSet) : CharSet := ⟨(gapsFrom 0 a.ranges.toList).toArray⟩

def full : CharSet := compl empty

def inter (a b : CharSet) : CharSet := (a.compl.union b.compl).compl

/-- The characters in the first set only. -/
def diff (a b : CharSet) : CharSet := (a.compl.union b).compl

/-- The characters in one of two sets and not in the other. -/
def symmDiff (a b : CharSet) : CharSet := (a.union b).diff (a.inter b)

/-- The complement, if asked for. -/
def complIf (negated : Bool) (a : CharSet) : CharSet := if negated then a.compl else a

/-- Searches a code point in the ranges from index `low` to before `high`, halving them. -/
def searchRanges (ranges : Array (Nat × Nat)) (point : Nat) : Nat → Nat → Nat → Bool
  | 0, _, _ => false
  | fuel + 1, low, high =>
    let middle := (low + high) / 2
    if high ≤ low then false
    else match ranges[middle]? with
      | none => false
      | some (first, last) =>
        if point < first then searchRanges ranges point fuel low middle
        else if last < point then searchRanges ranges point fuel (middle + 1) high
        else true

/-- Is the code point in the set? -/
def holdsPoint (a : CharSet) (point : Nat) : Bool :=
  searchRanges a.ranges point (a.ranges.size + 1) 0 a.ranges.size

def holds (a : CharSet) (c : Char) : Bool := a.holdsPoint c.toNat

/-- Are all members ASCII characters? -/
def isAscii (a : CharSet) : Bool := a.ranges.all (fun range => range.2 < 128)

/-- The only member of a set with one. -/
def only? (a : CharSet) : Option Nat :=
  match a.ranges.toList with
  | [(first, last)] => if first = last then some first else none
  | _ => none

/-- A range as two hexadecimal code points with a dash between them, or one that stands alone. -/
def readRange (word : String) : Nat × Nat :=
  let point (digits : String) : Nat := (hexNumber? digits.toList).getD 0
  match word.splitOn "-" with
  | [first, last] => (point first, point last)
  | _ => (point word, point word)

/-- The ranges in lines of hexadecimal code points with blanks between them. -/
def readRanges (lines : List String) : List (Nat × Nat) :=
  (lines.flatMap (fun line => line.splitOn " ")).map readRange

/-- The set of the ranges in lines of hexadecimal code points. -/
def ofLines (lines : List String) : CharSet := ofRanges (readRanges lines)

end CharSet

end SqlVerbs.Text
