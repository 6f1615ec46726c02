import SqlVerbs.Text.Casing
import SqlVerbs.Text.CharSet

/-!
# The characters that patterns know

Patterns go by an edition of the character data that is older than the one behind letter case and
quoting. The characters that came later are unassigned in it and have no case variants.
-/

namespace SqlVerbs.Pattern

open Text (Category CharSet)

/-- Characters that are newer than the edition. -/
def recent : CharSet := .ofLines
  ["88f c5c cdc 1acf-1add 1ae0-1aeb 20c1 2b96 a7ce-a7cf a7d2 a7d4 a7f1 fbc3-fbd2 fd90-fd91",
   "fdc8-fdce 10940-10959 10ec5-10ec7 10ed0-10ed8 10efa-10efb 11b60-11b67 11db0-11ddb 11de0-11de9",
   "16ea0-16eb8 16ebb-16ed3 16ff2-16ff6 187f8-187ff 18d09-18d1e 18d80-18df2 1ccfa-1ccfc",
   "1ceba-1ced0 1cee0-1cef0 1e6c0-1e6de 1e6e0-1e6f5 1e6fe-1e6ff 1f6d8 1f777-1f77a 1f8d0-1f8d8",
   "1fa54-1fa57 1fa8a 1fa8e 1fac8 1facd 1faea 1faef 1fbfa 2b73a-2b73f 2cea2-2cead 323b0-33479"]

/-- A letter that has lost its case since then. -/
def formerLowercase : CharSet := .ofLines ["295"]

/-- The characters whose category has a property. -/
def categorySet (property : Category → Bool) : CharSet :=
  let known := (CharSet.ofRanges (Category.rangesOf property)).diff (recent.union formerLowercase)
  let known := if property .unassigned then known.union recent else known
  if property .lowercaseLetter then known.union formerLowercase else known

/-- The characters of one category. -/
def ofCategory (category : Category) : CharSet := categorySet (· = category)

/-- The code points in a run of characters with one offset between their cases. -/
def runPoints (run : Text.CaseRun) : List Nat :=
  (List.range run.2.1).map (fun i => run.1 + i * run.2.2.1)

/-- The characters with a case variant that they fold to, each with that variant. -/
def foldPairs : List (Nat × Nat) :=
  let points := Text.lowerRuns.flatMap runPoints ++ Text.otherFolds.map Prod.fst
  let pairs := points.map (fun point => (point, (Text.foldChar (Char.ofNat point)).toNat))
  pairs.filter (fun pair =>
    pair.1 ≠ pair.2 && !recent.holdsPoint pair.1 && !recent.holdsPoint pair.2)

/-- The set together with all case variants of its members. -/
def foldSet (s : CharSet) : CharSet :=
  let touched := foldPairs.filter (fun pair => s.holdsPoint pair.1 || s.holdsPoint pair.2)
  let targets := CharSet.ofRanges (touched.map (fun pair => (pair.2, pair.2)))
  let sources := foldPairs.filter (fun pair => targets.holdsPoint pair.2)
  .unionAll [s, targets, .ofRanges (sources.map (fun pair => (pair.1, pair.1)))]

/-- The set together with the other cases of its ASCII letters. -/
def foldAscii (s : CharSet) : CharSet :=
  let upper := (s.inter (.range 'A' 'Z')).ranges.toList.map (fun r => (r.1 + 32, r.2 + 32))
  let lower := (s.inter (.range 'a' 'z')).ranges.toList.map (fun r => (r.1 - 32, r.2 - 32))
  s.union (.ofRanges (upper ++ lower))

end SqlVerbs.Pattern
