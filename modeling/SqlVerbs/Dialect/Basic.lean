import SqlVerbs.Bindings
import SqlVerbs.Dialect.Rule
import SqlVerbs.Error
import SqlVerbs.Host.Literal
import SqlVerbs.Text.Lines

/-!
# Dialects

A dialect is data: the conventions of one backend for quoting and literals, and a table from
function names to rules.
-/

namespace SqlVerbs

/-- Where a row limit is written. -/
inductive LimitStyle where
  /-- At the end of the statement. -/
  | limit
  /-- After `SELECT`. -/
  | top
deriving DecidableEq, Repr

/-- How a temporary table is made from a query. -/
inductive TempTableStyle where
  | createAs
  | selectInto
deriving DecidableEq, Repr

/-- Type names in casts. -/
structure CastTypes where
  integer : String
  double : String
  character : String
  logical : String
  date : String
deriving DecidableEq, Repr

/-- The conventions of one backend. -/
structure Dialect where
  name : String
  identifierOpen : Char
  identifierClose : Char
  stringQuote : Char
  /-- Backslashes in strings are escapes and have to be doubled. -/
  escapesBackslash : Bool
  supportsWindows : Bool
  moduloFunction : Option String
  limitStyle : LimitStyle
  /-- What goes before a statement to have it explained. -/
  explainWord : Option String
  tempTable : TempTableStyle
  castTypes : CastTypes
  rules : Bindings (List Rule)

namespace Dialect

def castType (d : Dialect) : CastTo → String
  | .integer => d.castTypes.integer
  | .double => d.castTypes.double
  | .character => d.castTypes.character
  | .logical => d.castTypes.logical
  | .date => d.castTypes.date

def rulesFor (d : Dialect) (name : String) : Option (List Rule) := d.rules.get? name

/-- The dialect with other rules for one function. -/
def withRules (d : Dialect) (name : String) (rules : List Rule) : Dialect :=
  { d with rules := d.rules.insert name rules }

/-- The dialect with other identifier quotes. -/
def withIdentifierQuote (d : Dialect) (opening closing : Char) : Dialect :=
  { d with identifierOpen := opening, identifierClose := closing }

/-- The dialect with another string quote. -/
def withStringQuote (d : Dialect) (quote : Char) : Dialect := { d with stringQuote := quote }

/-! ## Quoting -/

/-- Doubles the characters that satisfy the test. -/
def doubling (test : Char → Bool) : List Char → List Char
  | [] => []
  | c :: rest => if test c then c :: c :: doubling test rest else c :: doubling test rest

/-- The characters of a quoted identifier: closing quotes inside are doubled. -/
def identifierChars (d : Dialect) (name : List Char) : List Char :=
  d.identifierOpen :: (doubling (· = d.identifierClose) name ++ [d.identifierClose])

def quoteIdentifier (d : Dialect) (name : String) : String :=
  String.ofList (d.identifierChars name.toList)

/-- Quotes every part of a qualified name. -/
def quoteQualified (d : Dialect) (parts : List String) : String :=
  ".".intercalate (parts.map d.quoteIdentifier)

/-- Is the character doubled inside a string? -/
def doublesInString (d : Dialect) (c : Char) : Bool :=
  c = d.stringQuote || (d.escapesBackslash && c = '\\')

/-- The characters of a quoted string. -/
def stringChars (d : Dialect) (text : List Char) : List Char :=
  d.stringQuote :: (doubling d.doublesInString text ++ [d.stringQuote])

def quoteString (d : Dialect) (text : String) : String :=
  String.ofList (d.stringChars text.toList)

/-! ## Literals and statements -/

/-- SQL text of a double. What is no number becomes `NULL`, and the infinite ones strings. -/
def formatDouble (d : Dialect) (value : Float) : String :=
  match Double.shape value with
  | .nan => "NULL"
  | .infinite negative => d.quoteString (if negative then "-Infinity" else "Infinity")
  | .finite parts => parts.sqlText

/-- SQL text of a literal. -/
def formatLiteral (d : Dialect) : Literal → String
  | .integer (some i) => toString i.toInt
  | .double (some value) => d.formatDouble value
  | .logical (some true) => "1"
  | .logical (some false) => "0"
  | .string (some text) => d.quoteString text
  | .integer none | .double none | .logical none | .string none | .null => "NULL"

/-- The error for something that the dialect lacks. -/
def unsupported (d : Dialect) (feature : String) : Error := .unsupported d.name feature

def explain (d : Dialect) (select : String) : Except Error String :=
  match d.explainWord with
  | some word => .ok (word ++ select)
  | none => .error (d.unsupported "EXPLAIN")

/-- The name by which a temporary table is found again. -/
def temporaryTableName (d : Dialect) (name : String) : String :=
  match d.tempTable with
  | .createAs => name
  | .selectInto => "#" ++ name

/-- The statement that stores a query in a temporary table. -/
def temporaryTable (d : Dialect) (name select : String) : String :=
  let table := d.quoteIdentifier (d.temporaryTableName name)
  match d.tempTable with
  | .createAs => "CREATE TEMPORARY TABLE " ++ table ++ " AS\n" ++ select
  | .selectInto =>
    -- The statement becomes a subquery, which has to have a label.
    "SELECT * INTO " ++ table ++ " FROM (\n" ++ Text.indent select ++ "\n) AS " ++
      d.quoteIdentifier "q01"

end Dialect

end SqlVerbs
