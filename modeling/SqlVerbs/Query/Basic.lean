import SqlVerbs.Host.Expr
import SqlVerbs.Sql.Frame

/-!
# Queries

A query is a table and the verbs applied to it, one after the other. It is a plain value: nothing
is evaluated, checked or sent anywhere before it is compiled.
-/

namespace SqlVerbs

/-- How two queries are joined. -/
inductive JoinType where
  | inner
  | left
  | right
  | full
  /-- Left rows with a match, left columns only. -/
  | semi
  /-- Left rows without a match, left columns only. -/
  | anti
deriving DecidableEq, Repr

/-- A table and the verbs applied to it. -/
inductive Query where
  /-- A table with its columns. The name may have a schema in front. -/
  | table (name : String) (columns : List String)
  /-- Keeps columns under new names, given as pairs of new and old name. The others stay where
  they are if `keepRest` is set, and are dropped otherwise. -/
  | pick (parent : Query) (columns : List (String × String)) (keepRest : Bool)
  | filter (parent : Query) (predicates : List Host.Expr)
  | arrange (parent : Query) (terms : List Host.Expr)
  /-- Adds or replaces columns, in order. Later ones may use earlier ones. -/
  | mutate (parent : Query) (columns : List (String × Host.Expr))
  /-- One row for each group. -/
  | summarise (parent : Query) (columns : List (String × Host.Expr))
  | groupBy (parent : Query) (columns : List String)
  | ungroup (parent : Query)
  /-- Joins on pairs of a left and a right key. Other columns that both sides have get a suffix. -/
  | join (left right : Query) (type : JoinType) (keys : List (String × String))
    (suffixes : String × String)
  | distinct (parent : Query)
  | head (parent : Query) (count : UInt64)
  /-- The order of windows, which is not the order of rows. -/
  | windowOrder (parent : Query) (terms : List Host.Expr)
  | windowFrame (parent : Query) (frame : Sql.Frame)
  /-- Puts everything so far into a subquery. -/
  | collapse (parent : Query)
deriving Inhabited

namespace Query

def select (parent : Query) (columns : List String) : Query :=
  .pick parent (columns.map (fun name => (name, name))) false

/-- Keeps the listed columns only, given as pairs of new and old name. -/
def selectAs (parent : Query) (columns : List (String × String)) : Query :=
  .pick parent columns false

/-- Renames columns, given as pairs of new and old name, and keeps all others. -/
def rename (parent : Query) (columns : List (String × String)) : Query :=
  .pick parent columns true

/-- Frames of rows by their offsets from the current one; no offset is unbounded. -/
def windowRows (parent : Query) (first last : Option Int64) : Query :=
  .windowFrame parent (.rows first last)

/-- The suffixes of columns that both sides of a join have. -/
def defaultSuffixes : String × String := (".x", ".y")

/-- The number of rows, which is never known without running the query. -/
def rowCount? (_ : Query) : Option Nat := none

end Query

end SqlVerbs
