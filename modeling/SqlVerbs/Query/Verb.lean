import SqlVerbs.Query.Hoist

/-!
# Verbs on one query

What each verb does to the stage before it. A verb is added to the level as long as the result
means the same as a subquery would; otherwise another level is started first.
-/

namespace SqlVerbs

namespace Stage

/-! ## Columns -/

/-- The new name of a column in a list of pairs of new and old name. -/
def newName? (columns : List (String × String)) (name : String) : Option String :=
  (columns.find? (fun entry => entry.2 = name)).map Prod.fst

/-- All columns in their places, some of them under new names. -/
def renamedColumns (columns : List (String × String)) (level : Level) : Bindings Sql.Expr :=
  Bindings.ofPairs (level.columns.map (fun entry =>
    ((newName? columns entry.1).getD entry.1, entry.2)))

/-- The columns that are listed, by their new names. -/
def listedColumns (columns : List (String × String)) (level : Level) :
    List (String × Sql.Expr) :=
  columns.filterMap (fun entry => (level.columns.get? entry.2).map (fun e => (entry.1, e)))

/-- The grouping columns that are not listed. -/
def unlistedGroups (columns : List (String × String)) (groups : List String) (level : Level) :
    List (String × Sql.Expr) :=
  (groups.filter (fun group => (newName? columns group).isNone)).filterMap (fun group =>
    (level.columns.get? group).map (fun e => (group, e)))

/-- The listed columns only, after the grouping columns that are not listed. -/
def pickedColumns (columns : List (String × String)) (groups : List String) (level : Level) :
    Bindings Sql.Expr :=
  Bindings.ofPairs (unlistedGroups columns groups level ++ listedColumns columns level)

/-- The first name that is no visible column. -/
def unknown? (level : Level) (names : List String) : Option String :=
  names.find? (fun name => !level.has name)

/-- Picks columns under new names. The groups follow. -/
def pick (target : Target) (stage : Stage) (columns : List (String × String))
    (keepRest : Bool) : Compile Stage := do
  let stage ← stage.reopen target
  match unknown? stage.level (columns.map Prod.snd) with
  | some name => Compile.fail (.unknownColumn name)
  | none =>
    let next :=
      if keepRest then renamedColumns columns stage.level
      else pickedColumns columns stage.groups stage.level
    return { stage with
      level := { stage.level with columns := next }
      -- Only the groups follow the new names; orderings are kept as they were written.
      groups := stage.groups.map (fun group => (newName? columns group).getD group) }

def mutate (target : Target) (stage : Stage) (name : String) (e : Host.Expr) :
    Compile Stage := do
  -- Next to summaries a new column would be one value for each group, so it goes over them.
  let stage ← stage.wrapIf target (stage.level.closed || stage.level.summarised)
  let (stage, lowered) ← stage.lowerApart target e
  return { stage with level := stage.level.setColumn name (stage.level.resolve true lowered) }

/-! ## Rows -/

/-- Filters the rows of a level that is no summary. -/
def filterRows (target : Target) (stage : Stage) (predicate : Host.Expr) : Compile Stage := do
  let (stage, condition) ← stage.lowerApart target predicate
  if condition.isWindowed then stage.hoist target condition
  else return { stage with level := stage.level.addFilter (stage.level.resolve true condition) }

/-- Filters the groups of a summary, unless the condition uses windows. -/
def filterGroups (target : Target) (stage : Stage) (predicate : Host.Expr) : Compile Stage := do
  let condition ← stage.lower target false [] predicate
  -- Lowered once more, because aggregates are windows over the rows of the subquery.
  if condition.isWindowed then (← stage.wrap target).filterRows target predicate
  else return { stage with level := stage.level.addHaving (stage.level.resolve true condition) }

def filter (target : Target) (stage : Stage) (predicate : Host.Expr) : Compile Stage := do
  let stage ← stage.wrapIf target
    -- The windows of a summary are no reason for another level: its filters become `HAVING`.
    (stage.level.closed || (!stage.level.summarised && stage.level.hasWindows))
  if stage.level.summarised then stage.filterGroups target predicate
  else stage.filterRows target predicate

def arrange (target : Target) (stage : Stage) (terms : List Host.Expr) : Compile Stage := do
  return { ← stage.reopen target with order := terms }

/-- Closes a level after a change to its statement. -/
def closeWith (stage : Stage) (change : Sql.Select → Sql.Select) : Stage :=
  { stage with level := { stage.level with body := change stage.level.body, closed := true } }

def distinct (target : Target) (stage : Stage) : Compile Stage := do
  return (← stage.reopen target).closeWith (fun body => { body with distinct := true })

def head (target : Target) (stage : Stage) (count : UInt64) : Compile Stage := do
  return (← stage.reopen target).closeWith (fun body => { body with limit := some count })

/-! ## Groups -/

def groupBy (stage : Stage) (columns : List String) : Compile Stage :=
  match unknown? stage.level columns with
  | some name => Compile.fail (.unknownColumn name)
  | none => return { stage with groups := columns }

/-- Does a summary mention a computed column? -/
def summaryUsesComputed (stage : Stage) (columns : List (String × Host.Expr)) : Bool :=
  columns.any (fun entry => entry.2.references.any stage.level.isComputed) ||
    stage.groups.any stage.level.isComputed

/-- The definitions of summaries, in order. Later ones may use earlier ones. -/
def summaries (target : Target) (stage : Stage) (done : Bindings Sql.Expr) :
    List (String × Host.Expr) → Compile (Bindings Sql.Expr)
  | [] => pure done
  | (name, e) :: later => do
    let lowered ← stage.lower target false done.names e
    -- An earlier summary hides the column of the level that has its name.
    let definition := lowered.inline (fun column =>
      (done.get? column).or (stage.level.columns.get? column))
    stage.summaries target (done.insert name definition) later

/-- The definition of a grouping column. -/
def groupDefinition (stage : Stage) (group : String) : Sql.Expr :=
  (stage.level.columns.get? group).getD (.column group)

/-- Summarises the groups. The last group is used up, and so is the order. -/
def summarise (target : Target) (stage : Stage) (columns : List (String × Host.Expr)) :
    Compile Stage := do
  let stage ← stage.wrapIf target
    (stage.level.closed || stage.level.summarised || stage.level.hasWindows ||
      stage.summaryUsesComputed columns)
  let summaries ← stage.summaries target [] columns
  let groups := stage.groups.map (fun group => (group, stage.groupDefinition group))
  return { stage with
    level := { stage.level with
      body := { stage.level.body with groups := groups.map Prod.snd }
      columns := Bindings.ofPairs (groups ++ summaries)
      summarised := true }
    groups := stage.groups.dropLast
    order := [] }

end Stage

end SqlVerbs
