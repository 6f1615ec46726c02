import SqlVerbs.Dialect.Registry
import SqlVerbs.Proofs.Local.NormalForms
import SqlVerbs.Proofs.Query.Ordering

/-!
# Names in the order of rows

An ordering term that is a visible column, or one in descending order, becomes a single name: that
of the source where the column is passed on, and its own otherwise. SQL takes such a name for an
output column first. So it stands for the column that is meant, unless the source of this column
has its name in common with an output column of another definition.
-/

namespace SqlVerbs

namespace Stage

/-- What one term becomes in the order of rows. -/
def sortKey (target : Target) (stage : Stage) (term : Host.Expr) : Compile Sql.Expr := do
  return stage.level.resolve false (← stage.lower target false [] term)

theorem orderBy_eq_mapM (target : Target) (stage : Stage) :
    stage.orderBy target = (stage.liveTerms target).mapM (stage.sortKey target) := rfl

end Stage

/-- The way in which a column is sorted by. -/
inductive Direction where
  | ascending
  | descending
deriving DecidableEq, Repr

namespace Direction

/-- The ordering term for a column. -/
def term : Direction → String → Host.Expr
  | .ascending, name => .symbol name
  | .descending, name => .call "desc" [.symbol name] []

/-- The sort key for a name. -/
def key : Direction → String → Sql.Expr
  | .ascending, name => .column name
  | .descending, name => .desc (.column name)

theorem references_term (direction : Direction) (name : String) :
    (direction.term name).references = [name] := by
  cases direction <;> rfl

theorem inline_key (direction : Direction) (f : String → Option Sql.Expr) {name source : String}
    (h : (f name).getD (.column name) = .column source) :
    (direction.key name).inline f = direction.key source := by
  cases direction with
  | ascending => exact h
  | descending => exact congrArg Sql.Expr.desc h

end Direction

theorem Dialect.rulesFor_desc {d : Dialect} (hd : d ∈ Dialect.builtin) :
    d.rulesFor "desc" = some [.ofValue .desc] := by
  revert d
  decide

theorem Lowering.lower_desc {cx : Lowering.Context}
    (hdesc : cx.dialect.rulesFor "desc" = some [.ofValue .desc]) (name : String) :
    Lowering.lower cx (.call "desc" [.symbol name] []) = pure (.desc (.column name)) := by
  let operand : Lowering.Operand := ⟨.symbol name, pure (.column name), []⟩
  have hresolved : resolveRule [operand] [] [.ofValue .desc] =
      some (.ofValue .desc, ⟨[some operand], [], []⟩) := rfl
  change Lowering.lowerCall cx _ _ "desc" [operand] [] = _
  rw [Lowering.lowerCall, hdesc]
  dsimp only
  rw [hresolved]
  rfl

namespace Level

variable {level : Level} {name : String} {definition : Sql.Expr}

theorem has_of_get? (h : level.columns.get? name = some definition) : level.has name = true := by
  rw [has, Bindings.has, h, Option.isSome_some]

theorem sortedBy_selectList (hstar : level.isStar = false) (source : String) :
    level.selectList.sortedBy none source =
      (level.columns.get? source).getD (.column source) := by
  rw [selectList, hstar, if_neg Bool.false_ne_true, Sql.SelectList.sortedBy,
    Sql.SelectList.definition?_named]

/-- The source of a column is hidden by a column that has its name and another definition. -/
theorem hidesSource_eq_false_iff (h : level.columns.get? name = some definition) :
    level.selectList.hidesSource name = false ↔
      ∀ source other, definition = .column source → level.columns.get? source = some other →
        other = definition := by
  cases hstar : level.isStar with
  | true =>
    obtain rfl := Level.eq_column_of_isStar hstar h
    refine ⟨fun _ source other hsource hother ↦ ?_, fun _ ↦ ?_⟩
    · cases hsource
      exact Option.some.inj (hother.symm.trans h)
    · rw [selectList, if_pos hstar]
      rfl
  | false =>
    rw [← Level.sortedBy_iff h, sortedBy_selectList hstar]
    cases hpassed : definition.passedColumn? with
    | none =>
      refine ⟨fun _ source _ hsource ↦ ?_, fun _ ↦ by simp [h]⟩
      rw [Sql.Expr.passedColumn?_eq_some.2 hsource] at hpassed
      cases hpassed
    | some source =>
      obtain rfl : definition = .column source := Sql.Expr.passedColumn?_eq_some.1 hpassed
      constructor
      · rintro hshown _ other ⟨⟩ hother
        rwa [Option.getD_some, hother, Option.getD_some] at hshown
      · intro hothers
        rw [Option.getD_some]
        cases hother : level.columns.get? source with
        | none => rfl
        | some other => exact hothers source other rfl hother

end Level

section Stages

variable {target : Target} {stage : Stage} {name : String}

namespace Stage

/-- Folding leaves an expression as it is that is over visible columns and has no form that never
reaches the backend. -/
theorem partialEval_of_visible {e : Host.Expr}
    (hvisible : ∀ name ∈ e.references, stage.level.has name = true)
    (hremote : ∀ function ∈ e.calls, (!Local.alwaysLocal.contains function) = true) :
    Local.partialEval (stage.scope target []) e = .ok e := by
  refine Local.partialEval_of_isNormal (Local.Scope.isNormal_iff.2 ⟨fun name hname ↦ ?_, hremote⟩)
  have hmem : name ∈ stage.level.names := Bindings.get?_isSome.1 (hvisible name hname)
  simp [Local.Scope.keepsSymbol, Local.Scope.isColumn, scope, hmem]

theorem partialEval_term (hname : stage.level.has name = true) (direction : Direction) :
    Local.partialEval (stage.scope target []) (direction.term name) =
      .ok (direction.term name) := by
  refine partialEval_of_visible (by simpa [direction.references_term] using hname) ?_
  cases direction <;>
    simp [Direction.term, Host.Expr.calls, Host.Expr.callsAll, Host.Expr.callsNamed,
      Local.alwaysLocal]

/-- A visible column becomes a sort key, which is a name. -/
theorem sortKey_term (hdesc : target.dialect.rulesFor "desc" = some [.ofValue .desc])
    {definition : Sql.Expr} (h : stage.level.columns.get? name = some definition)
    (direction : Direction) :
    stage.sortKey target (direction.term name) =
      pure (direction.key (definition.passedColumn?.getD name)) := by
  have hname := Level.has_of_get? h
  have hlowered : Lowering.lower (stage.context target false) (direction.term name) =
      pure (direction.key name) := by
    cases direction with
    | ascending => rfl
    | descending => exact Lowering.lower_desc hdesc name
  have hlower : stage.lower target false [] (direction.term name) = pure (direction.key name) := by
    rw [lower_eq, partialEval_term hname]
    change Compile.ofNoted (Lowering.lower _ _) = _
    rw [hlowered]
    rfl
  rw [sortKey, hlower, pure_bind, Level.resolve,
    direction.inline_key _ (Level.definition?_getD h)]

theorem mem_liveTerms_term (hname : stage.level.has name = true) (direction : Direction) :
    direction.term name ∈ stage.liveTerms target ↔ direction.term name ∈ stage.order := by
  simp [liveTerms, direction.references_term, knows, hname]

/-- Names in the order of rows stand for the columns that are meant, unless they are hidden. The
order of rows has one key for each live term. A term that is a visible column, in either direction,
is live; its key is a single name; and where SQL looks this name up, among the output columns of the
statement first, it finds the definition that the level holds for the column, if and only if no
output column has the name of the source of this column and another definition. -/
theorem order_names_hit_iff (hdesc : target.dialect.rulesFor "desc" = some [.ofValue .desc])
    (stage : Stage) :
    stage.orderBy target = (stage.liveTerms target).mapM (stage.sortKey target) ∧
      ∀ name definition, stage.level.columns.get? name = some definition →
        ∀ direction : Direction,
          (direction.term name ∈ stage.liveTerms target ↔ direction.term name ∈ stage.order) ∧
          stage.sortKey target (direction.term name) =
            pure (direction.key (definition.passedColumn?.getD name)) ∧
          ∀ order, (stage.level.toSelect order).items.sortedBy none
              (definition.passedColumn?.getD name) = definition ↔
            ∀ source other, definition = .column source →
              stage.level.columns.get? source = some other → other = definition := by
  refine ⟨stage.orderBy_eq_mapM target, fun name definition h direction ↦ ?_⟩
  have hname := Level.has_of_get? h
  refine ⟨mem_liveTerms_term hname direction, sortKey_term hdesc h direction, fun _ ↦ ?_⟩
  rw [← Level.hidesSource_eq_false_iff h]
  exact Level.sortedBy_iff h

end Stage

end Stages

namespace shiftedNames

/-- Parcels by town, and the heaviest first. Their weights have another name, and their numbers have
the name that the weights had. -/
def query : Query :=
  ((Query.table "parcels" ["number", "weight", "town"]).rename
    [("mass", "weight"), ("weight", "number")]).arrange
      [.symbol "town", .call "desc" [.symbol "mass"] []]

/-- The stage of the query. -/
def stage : Stage where
  level :=
    { Level.ofSource (.table (.ofText "parcels") none) ["number", "weight", "town"] with
      columns := [("weight", .column "number"), ("mass", .column "weight"),
        ("town", .column "town")] }
  order := [.symbol "town", .call "desc" [.symbol "mass"] []]

def target : Target where
  dialect := .ansi
  now := ⟨⟨2000, 1, 1⟩, 0, 0, 0⟩

end shiftedNames

open shiftedNames in
/-- The statement is sorted by towns, but by numbers in place of weights. -/
theorem Stage.order_names_hit_iff_shiftedNames :
    target.dialect.rulesFor "desc" = some [.ofValue .desc] ∧ (query.build target).Yields stage ∧
      (stage.orderBy target).Yields [.column "town", .desc (.column "weight")] ∧
      ∀ order,
        (stage.level.toSelect order).items.sortedBy none "town" = .column "town" ∧
        stage.level.columns.get? "mass" = some (.column "weight") ∧
        (stage.level.toSelect order).items.sortedBy none "weight" ≠ .column "weight" := by
  have hdesc : target.dialect.rulesFor "desc" = some [.ofValue .desc] :=
    Dialect.rulesFor_desc List.mem_cons_self
  obtain ⟨-, hhit⟩ := Stage.order_names_hit_iff hdesc stage
  refine ⟨hdesc, ⟨{}, {}, rfl⟩, ⟨{}, {}, rfl⟩, fun order ↦ ⟨?_, rfl, fun hmass ↦ ?_⟩⟩
  · refine ((hhit "town" (.column "town") rfl .ascending).2.2 order).2 ?_
    rintro _ other ⟨⟩ hother
    cases hother
    rfl
  · have hother := ((hhit "mass" (.column "weight") rfl .descending).2.2 order).1 hmass
      "weight" (.column "number") rfl rfl
    simp [Sql.Expr.column] at hother

end SqlVerbs
