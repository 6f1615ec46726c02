import SqlVerbs.Double.Layout
import SqlVerbs.Text.Quoted

/-!
# Literals

A literal has a kind from the start and keeps it: `3L` and `3` are different literals. Every kind
but `NULL` has a missing value of its own.
-/

namespace SqlVerbs

/-- The kinds of literals. -/
inductive Kind where
  | null
  | logical
  | integer
  | double
  | string
deriving DecidableEq, Repr

namespace Kind

/-- Coercion goes up in rank, never down. -/
def rank : Kind → Nat
  | .null => 0
  | .logical => 1
  | .integer => 2
  | .double => 3
  | .string => 4

/-- The kind of higher rank. -/
def join (a b : Kind) : Kind := if a.rank < b.rank then b else a

/-- The name of the kind in JSON. -/
def name : Kind → String
  | .null => "null"
  | .logical => "logical"
  | .integer => "integer"
  | .double => "double"
  | .string => "string"

def ofName? : String → Option Kind
  | "null" => some .null
  | "logical" => some .logical
  | "integer" => some .integer
  | "double" => some .double
  | "string" => some .string
  | _ => none

end Kind

/-- A scalar constant; no payload means missing. -/
inductive Literal where
  | integer (value : Option Int64)
  | double (value : Option Float)
  | logical (value : Option Bool)
  | string (value : Option String)
  | null
deriving DecidableEq

namespace Literal

instance : Inhabited Literal := ⟨.null⟩

/-- The kind, which a missing value has too. -/
def kind : Literal → Kind
  | .integer _ => .integer
  | .double _ => .double
  | .logical _ => .logical
  | .string _ => .string
  | .null => .null

/-- The missing value of a kind. -/
def missing : Kind → Literal
  | .integer => .integer none
  | .double => .double none
  | .logical => .logical none
  | .string => .string none
  | .null => .null

/-- Missing values, `NULL`, and the double that is no number. -/
def isMissing : Literal → Bool
  | .integer value => value.isNone
  | .double none => true
  | .double (some d) => d.isNaN
  | .logical value => value.isNone
  | .string value => value.isNone
  | .null => true

def isNumeric : Literal → Bool
  | .integer _ | .double _ => true
  | _ => false

/-- The literal as a double; logicals count as 0 and 1. -/
def toDouble? : Literal → Option Float
  | .integer value => value.map Double.ofInt64
  | .double value => value
  | .logical value => value.map (fun b => if b then 1.0 else 0.0)
  | _ => none

def toText? : Literal → Option String
  | .string value => value
  | _ => none

/-- The literal as the host language writes it. -/
def deparse : Literal → String
  | .integer (some i) => toString i.toInt ++ "L"
  | .integer none => "NA_integer_"
  | .double (some d) => Double.toText d
  | .double none => "NA_real_"
  | .logical (some true) => "TRUE"
  | .logical (some false) => "FALSE"
  | .logical none => "NA"
  | .string (some s) => Text.quoted s
  | .string none => "NA_character_"
  | .null => "NULL"

@[simp] theorem kind_missing (k : Kind) : (missing k).kind = k := by cases k <;> rfl

@[simp] theorem isMissing_missing (k : Kind) : (missing k).isMissing = true := by cases k <;> rfl

end Literal

end SqlVerbs
