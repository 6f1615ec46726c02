import SqlVerbs.Query.Basic
import SqlVerbs.Query.Stage
import SqlVerbs.Sql.Statement

/-!
# Joins

Both sides of a join become sources of a new level, which is closed at once. A semi join is a
condition on the left side.
-/

namespace SqlVerbs

namespace Join

def leftLabel : String := "LHS"

def rightLabel : String := "RHS"

def leftColumn (name : String) : Sql.Expr := .identifier (some leftLabel) name

def rightColumn (name : String) : Sql.Expr := .identifier (some rightLabel) name

/-- One side of a join: the bare table or a subquery, and its columns. -/
def side (target : Target) (stage : Stage) (label : String) :
    Compile (Sql.Source × List String) := do
  match stage.level.bareTable? with
  -- A bare table is joined under the label, without a subquery.
  | some name => return (.table name (some label), stage.level.names)
  | none =>
    let select := stage.level.toSelect (← stage.nestedOrderBy target)
    return (.subquery select label, stage.level.names)

/-- The condition that the keys are equal. -/
def condition (keys : List (String × String)) : List Sql.Expr :=
  keys.map (fun key => .binary (leftColumn key.1) .eq (rightColumn key.2))

/-- The first key that is no column of its side. -/
def unknownKey? (left right : Level) : List (String × String) → Option String
  | [] => none
  | (l, r) :: later =>
    if !left.has l then some l
    else if !right.has r then some r
    else unknownKey? left right later

def rightKept (keys : List (String × String)) (rightColumns : List String) : List String :=
  rightColumns.filter (fun name => !(keys.map Prod.snd).contains name)

/-- The definition of a left column. A key is taken from the side that has all rows. -/
def leftDefinition (type : JoinType) (key : Option (String × String)) (name : String) :
    Sql.Expr :=
  match type, key with
  | .right, some (_, r) => rightColumn r
  | .full, some (l, r) => .call "COALESCE" [leftColumn l, rightColumn r]
  | _, _ => leftColumn name

/-- The output column of a left column. -/
def leftOutput (type : JoinType) (keys : List (String × String)) (kept : List String)
    (suffix name : String) : String × Sql.Expr :=
  let key := keys.find? (fun key => key.1 = name)
  -- Whether the name with its suffix is free is not asked.
  let clashes := key.isNone && kept.contains name
  (if clashes then name ++ suffix else name, leftDefinition type key name)

/-- The output column of a right column. -/
def rightOutput (leftColumns : List String) (suffix name : String) : String × Sql.Expr :=
  (if leftColumns.contains name then name ++ suffix else name, rightColumn name)

def columns (type : JoinType) (keys : List (String × String)) (suffixes : String × String)
    (leftColumns rightColumns : List String) : Bindings Sql.Expr :=
  let kept := rightKept keys rightColumns
  Bindings.ofPairs
    (leftColumns.map (leftOutput type keys kept suffixes.1) ++
      kept.map (rightOutput leftColumns suffixes.2))

/-- The condition that the right side has a match, or that it has none. -/
def existence (d : Dialect) (negated : Bool) (right : Sql.Source)
    (keys : List (String × String)) : Sql.Expr :=
  let matching : Sql.Select :=
    { source := right
      items := .columns [⟨.literal (.integer (some 1)), none⟩]
      filters := condition keys }
  -- Expressions hold no statements, so the condition is text from here on.
  .raw ((if negated then "NOT " else "") ++ "EXISTS (\n" ++ Text.indent (matching.render d) ++
    "\n)")

/-- The level of a semi or an anti join. -/
def semiLevel (d : Dialect) (negated : Bool) (left right : Sql.Source)
    (leftColumns : List String) (keys : List (String × String)) : Level where
  body := { source := left, filters := [existence d negated right keys] }
  sourceColumns := []
  columns := Bindings.ofPairs (leftColumns.map (fun name => (name, leftColumn name)))
  closed := true

/-- The level of a join that has the columns of both sides. -/
def fullLevel (kind : Sql.JoinKind) (left right : Sql.Source) (keys : List (String × String))
    (columns : Bindings Sql.Expr) : Level where
  body := { source := left, joins := [⟨kind, right, condition keys⟩] }
  sourceColumns := []
  columns := columns
  closed := true

def level (d : Dialect) (type : JoinType) (keys : List (String × String))
    (suffixes : String × String) (left right : Sql.Source × List String) : Level :=
  let both (kind : Sql.JoinKind) :=
    fullLevel kind left.1 right.1 keys (columns type keys suffixes left.2 right.2)
  match type with
  | .semi => semiLevel d false left.1 right.1 left.2 keys
  | .anti => semiLevel d true left.1 right.1 left.2 keys
  | .inner => both .inner
  | .left => both .left
  | .right => both .right
  | .full => both .full

end Join

/-- Joins two queries. Groups, window order and frame are those of the left side. -/
def Stage.join (target : Target) (left right : Stage) (type : JoinType)
    (keys : List (String × String)) (suffixes : String × String) : Compile Stage := do
  match Join.unknownKey? left.level right.level keys with
  | some name => Compile.fail (.unknownColumn name)
  | none =>
    let leftSide ← Join.side target left Join.leftLabel
    let rightSide ← Join.side target right Join.rightLabel
    -- The groups keep their names, also where a suffix gives their columns other ones.
    return { left with
      level := Join.level target.dialect type keys suffixes leftSide rightSide
      order := [] }

end SqlVerbs
