import SqlVerbs.Proofs.Local.Evaluation
import SqlVerbs.Proofs.Query.CarriedColumns
import SqlVerbs.Proofs.Sql.NestedLoops

/-!
# The order of rows

The terms that order the rows of a query are kept as they were written, and become SQL where the
statement ends. In between, verbs may rename the columns of a term, write them anew or give their
names to others, and the terms do not follow. Where every name of a term still means what it meant,
the statement sorts each row by the value that the term had in it.
-/

namespace SqlVerbs

open Compile (Ensures Yields)
open Sql (Engine Env Row TableName)

/-! ## What a statement sorts by -/

namespace Sql

namespace SelectList

/-- The definition of an output column that is written out. -/
def definition? : SelectList → String → Option Expr
  | .star, _ => none
  | .columns items, name =>
    (items.find? fun item ↦ item.outputName? = some name).map SelectItem.expr

/-- What a name stands for in an `ORDER BY` clause: an output column if there is one, and a column
of the rows otherwise. -/
def sortedBy (items : SelectList) : Option String → String → Expr
  | none, name => (items.definition? name).getD (.column name)
  | some qualifier, name => .identifier (some qualifier) name

/-- Does the output column pass on a column of the rows whose name stands for another one? -/
def hidesSource (items : SelectList) (name : String) : Bool :=
  ((items.definition? name).bind Expr.passedColumn?).any fun source ↦
    (items.sortedBy none source).passedColumn? ≠ some source

theorem definition?_named (columns : Bindings Expr) (name : String) :
    (SelectList.columns (columns.map fun entry ↦ .named entry.2 entry.1)).definition? name =
      columns.get? name := by
  rw [definition?]
  cases hget : columns.get? name with
  | some definition =>
    obtain ⟨item, hitem, rfl⟩ := Level.find?_named hget
    rw [hitem, Option.map_some]
  | none =>
    rw [Option.map_eq_none_iff, List.find?_eq_none, List.forall_mem_map]
    intro entry hentry
    rw [(outputName?_named entry.2 entry.1).1]
    have hother : entry.1 ≠ name := by
      rintro rfl
      exact Bindings.get?_eq_none.1 hget (List.mem_map_of_mem hentry)
    simpa using hother

end SelectList

namespace Engine

variable {V : Type} (E : Engine V)

/-- The rows, or groups of rows, that the output rows of a statement are made of. -/
def places (tables : TableName → List (Row V)) (select : Select) : List (List (Env V)) :=
  E.units select (E.joinedRows tables (E.sourceRows tables select.source) select.joins)

/-- The value of an expression for one of the places of a statement. -/
def valueAt (tables : TableName → List (Row V)) (select : Select) (i : Nat)
    (unit : List (Env V)) : Expr → V :=
  E.atPlace (E.isGrouped select) (E.places tables select) i unit

/-- The values that an `ORDER BY` clause sees at a place. -/
def sortedAt (tables : TableName → List (Row V)) (select : Select) (i : Nat)
    (unit : List (Env V)) : Env V := fun qualifier name ↦
  E.valueAt tables select i unit (select.items.sortedBy qualifier name)

end Engine

end Sql

section Levels

variable {V : Type} (E : Engine V) (tables : TableName → List (Row V)) {level : Level}

/-- The name by which the order of rows refers to a visible column: that of its source, if it is
passed on. -/
theorem Level.definition?_getD {name : String} {definition : Sql.Expr}
    (h : level.columns.get? name = some definition) :
    (level.definition? false name).getD (.column name) =
      .column (definition.passedColumn?.getD name) := by
  rw [definition?, h, Option.filter_some, Bool.false_or]
  cases hpassed : definition.passedColumn? with
  | none => rfl
  | some source => exact Sql.Expr.passedColumn?_eq_some.1 hpassed

theorem Level.definition?_selectList {name : String} {definition : Sql.Expr}
    (h : level.columns.get? name = some definition) :
    level.selectList.definition? name = if level.isStar then none else some definition := by
  rw [selectList]
  split
  · rfl
  · rw [Sql.SelectList.definition?_named, h]

theorem Level.eq_column_of_isStar (hstar : level.isStar = true) {name : String}
    {definition : Sql.Expr} (h : level.columns.get? name = some definition) :
    definition = .column name := by
  have hmem := Bindings.mem_of_get? h
  rw [columns_of_isStar hstar] at hmem
  obtain ⟨_, -, heq⟩ := List.mem_map.1 hmem
  cases heq
  rfl

/-- The name by which the order of rows refers to a visible column stands for the definition of this
column if and only if no other output column hides its source. -/
theorem Level.sortedBy_iff {name : String} {definition : Sql.Expr}
    (h : level.columns.get? name = some definition) :
    level.selectList.sortedBy none (definition.passedColumn?.getD name) = definition ↔
      level.selectList.hidesSource name = false := by
  rw [Sql.SelectList.hidesSource, Level.definition?_selectList h]
  cases hstar : level.isStar with
  | true =>
    obtain rfl := Level.eq_column_of_isStar hstar h
    rw [selectList, if_pos hstar]
    exact ⟨fun _ ↦ rfl, fun _ ↦ rfl⟩
  | false =>
    cases hpassed : definition.passedColumn? with
    | none => simp [Sql.SelectList.sortedBy, Level.definition?_selectList h, hstar, hpassed]
    | some source =>
      obtain rfl : definition = .column source := Sql.Expr.passedColumn?_eq_some.1 hpassed
      simp [hpassed, Sql.Expr.passedColumn?_eq_some]

/-- The name that an ordering term gives to a visible column stands for this column, unless another
output column hides its source. -/
theorem Level.inRow_sortedAt {name : String} {definition : Sql.Expr}
    (h : level.columns.get? name = some definition)
    (hsource : level.selectList.hidesSource name = false) (order : List Sql.Expr) (i : Nat)
    (unit : List (Env V)) :
    E.inRow (E.sortedAt tables (level.toSelect order) i unit)
      ((level.definition? false name).getD (.column name)) =
        E.output (E.valueAt tables (level.toSelect order) i unit) level.selectList name := by
  calc E.inRow (E.sortedAt tables (level.toSelect order) i unit)
        ((level.definition? false name).getD (.column name))
      = E.valueAt tables (level.toSelect order) i unit
          (level.selectList.sortedBy none (definition.passedColumn?.getD name)) := by
        rw [Level.definition?_getD h]
        rfl
    _ = E.valueAt tables (level.toSelect order) i unit definition := by
        rw [(Level.sortedBy_iff h).2 hsource]
    _ = E.output (E.valueAt tables (level.toSelect order) i unit) level.selectList name :=
        (output_selectList E h _).symm

end Levels

/-! ## Names that keep their meaning -/

/-- Does the verb leave the order of rows as it is? -/
def Verb.keepsOrder : Verb → Bool
  | .pick .. | .filter _ | .mutate .. => true
  | _ => false

namespace Outline

/-- The column before several verbs that a column after them was. -/
def source? (o : Outline) : List Verb → String → Option String
  | [], name => if name ∈ o.columns then some name else none
  | verb :: later, name => (source? (verb.outline o) later name).bind (verb.source? o)

/-- The columns that are left under their own names. -/
def keptColumns (o : Outline) (verbs : List Verb) : List String :=
  o.columns.filter fun name ↦ o.source? verbs name = some name

/-- Is the name one of a local binding, or a pronoun, and no column before or after the verbs? -/
def staysLocal (target : Target) (o : Outline) (verbs : List Verb) (name : String) : Bool :=
  (target.env.has name || name = ".data" || name = ".env") &&
    !o.columns.contains name && !(verbs.foldl Verb.outline o).columns.contains name

/-- Is the term made of columns that are left under their own names, and of local bindings? What a
window function gives depends on which rows there are, and on the groups. -/
def keepsMeaning (target : Target) (o : Outline) (verbs : List Verb) (term : Host.Expr) : Bool :=
  ({ o with columns := o.keptColumns verbs }.scope target []).covers term &&
    term.references.all (fun name ↦
      (o.keptColumns verbs).contains name || o.staysLocal target verbs name) &&
    !term.calls.any target.dialect.isWindowFunction

variable {o : Outline} {verbs : List Verb}

theorem mem_columns_of_source? {name source : String} (h : o.source? verbs name = some source) :
    name ∈ (verbs.foldl Verb.outline o).columns := by
  induction verbs generalizing o source with
  | nil =>
    rw [source?] at h
    split at h
    · assumption
    · cases h
  | cons verb later ih =>
    obtain ⟨between, hbetween, -⟩ := Option.bind_eq_some_iff.1 h
    exact ih hbetween

theorem mem_columns_of_mem_keptColumns {name : String} (h : name ∈ o.keptColumns verbs) :
    name ∈ o.columns ∧ name ∈ (verbs.foldl Verb.outline o).columns := by
  obtain ⟨hold, hsource⟩ := List.mem_filter.1 h
  exact ⟨hold, mem_columns_of_source? (of_decide_eq_true hsource)⟩

/-- Columns and groups may change, but no order and no frame. -/
theorem outline_of_keepsOrder (hverbs : ∀ verb ∈ verbs, verb.keepsOrder = true) :
    ∃ columns groups limited,
      verbs.foldl Verb.outline o = { o with columns, groups, limited } := by
  induction verbs generalizing o with
  | nil => exact ⟨o.columns, o.groups, o.limited, rfl⟩
  | cons verb later ih =>
    rw [List.forall_mem_cons] at hverbs
    obtain ⟨columns, groups, limited, hlater⟩ := @ih (verb.outline o) hverbs.2
    refine ⟨columns, groups, limited, hlater.trans ?_⟩
    cases verb with
    | pick | filter | mutate => rfl
    | _ => cases hverbs.1

theorem of_keepsMeaning {target : Target} {term : Host.Expr}
    (h : o.keepsMeaning target verbs term = true) :
    ({ o with columns := o.keptColumns verbs }.scope target []).covers term = true ∧
      (∀ name ∈ term.references,
        name ∈ o.keptColumns verbs ∨ o.staysLocal target verbs name = true) ∧
      ∀ function ∈ term.calls, target.dialect.isWindowFunction function = false := by
  simpa [keepsMeaning, and_assoc] using h

/-- No term is lost. -/
theorem liveTerms_of_keepsMeaning {target : Target}
    (hverbs : ∀ verb ∈ verbs, verb.keepsOrder = true)
    (hterms : ∀ term ∈ o.order, o.keepsMeaning target verbs term = true) :
    (verbs.foldl Verb.outline o).liveTerms target = o.order := by
  obtain ⟨columns, groups, limited, houtline⟩ := @outline_of_keepsOrder o verbs hverbs
  have horder : (verbs.foldl Verb.outline o).order = o.order := by rw [houtline]
  rw [liveTerms, horder, List.filter_eq_self]
  intro term hterm
  rw [List.all_eq_true]
  intro name hname
  rcases (of_keepsMeaning (hterms term hterm)).2.1 name hname with hkept | hlocal
  · simp [(mem_columns_of_mem_keptColumns hkept).2]
  · rw [staysLocal, Bool.and_eq_true, Bool.and_eq_true] at hlocal
    have hbound : target.env.has name = true ∨ name = ".data" ∨ name = ".env" := by
      simpa [or_assoc] using hlocal.1.1
    simpa [or_assoc] using .inr hbound

end Outline

/-! ## Stages after the order is set -/

section Stages

variable {V : Type} {E : Engine V} {null : V} {target : Target} {stage : Stage} {o : Outline}

variable (E) in
/-- The level is open and read as it is meant. -/
structure Stage.IsOpen (o : Outline) (stage : Stage) : Prop where
  follows : stage.Follows o
  ordinary : stage.level.IsOrdinary
  read : stage.level.IsRead E
  opened : stage.level.closed = false

theorem Stage.isOpen_run (hE : E.IsLawful null) (h : stage.IsOpen E o) {verb : Verb}
    (hverb : verb.keepsOrder = true) (hrowwise : verb.IsRowwise E target o) :
    Ensures (Stage.IsOpen E (verb.outline o)) (verb.run target stage) := by
  refine .mono (Verb.run_leads stage verb) ?_
  rintro next ⟨opened, hnests, hacts⟩
  have hfollows : opened.Follows o := h.follows.nests hnests
  have hordinary := Stage.isOrdinary_nests h.ordinary hnests
  have hread := Stage.isRead_nests hE h.read hnests
  refine ⟨hfollows.acts hacts, Stage.isOrdinary_acts hordinary hacts,
    Stage.isRead_acts hE hfollows hread hrowwise hacts, ?_⟩
  cases hacts with
  | pick opened | filterRows opened | filterGroups opened | mutate opened => exact opened
  | filterWindows => rfl
  | _ => cases hverb

/-- Several verbs leave the columns that are still there after them as they were. -/
theorem Stage.carries_runAll (hE : E.IsLawful null) (tables : TableName → List (Row V))
    {plan : Plan} (h : stage.IsOpen E plan.outline) {verbs : List Verb}
    (hverbs : ∀ verb ∈ verbs, verb.keepsOrder = true)
    (hrowwise : (plan.andAll verbs).IsRowwise E target) (order : List Sql.Expr) :
    Ensures (fun next ↦ next.IsOpen E (verbs.foldl Verb.outline plan.outline) ∧ ∀ order',
      E.Carries tables (fun name source ↦ plan.outline.source? verbs name = some source)
        (stage.level.toSelect order) (next.level.toSelect order'))
      (verbs.foldlM (Verb.run target) stage) := by
  have hlimit : stage.level.body.limit = none := h.follows.unlimited h.opened
  induction verbs generalizing plan stage order with
  | nil =>
    refine .pure ⟨h, fun order' row hrow ↦ ?_⟩
    refine ⟨row, Level.mem_rows_toSelect hE hlimit order order' hrow, fun name source hsource ↦ ?_⟩
    obtain ⟨-, rfl⟩ : name ∈ plan.outline.columns ∧ name = source := by
      simpa [Outline.source?] using hsource
    rfl
  | cons verb later ih =>
    rw [List.forall_mem_cons] at hverbs
    obtain ⟨-, hverb⟩ : (plan.andThen verb).IsRowwise E target := .of_andAll hrowwise
    have hreopens : verb.reopens = true := by
      cases verb with
      | pick | filter | mutate => rfl
      | _ => cases hverbs.1
    rw [List.foldlM_cons]
    refine .bind (.and (Stage.isOpen_run hE h hverbs.1 hverb) (Stage.carries_run hE tables h.follows
      h.ordinary h.read hreopens hverb (.inl hlimit : stage.Orders target order))) ?_
    rintro between ⟨hbetween, hcarries⟩
    refine .mono (@ih between (plan.andThen verb) hbetween hverbs.2 hrowwise []
      (hbetween.follows.unlimited hbetween.opened)) ?_
    rintro next ⟨hnext, hlater⟩
    refine ⟨hnext, fun order' ↦ ((hcarries []).trans (hlater order')).mono ?_⟩
    intro name source hsource
    exact Option.bind_eq_some_iff.1 hsource

/-- A term that keeps its meaning becomes what it was at the first stage, over columns that are left
under their own names. -/
theorem Stage.Follows.lower_kept {arranged : Stage} {verbs : List Verb}
    (harranged : arranged.Follows o) (hstage : stage.Follows (verbs.foldl Verb.outline o))
    (hverbs : ∀ verb ∈ verbs, verb.keepsOrder = true) {term : Host.Expr}
    (hterm : o.keepsMeaning target verbs term = true) {key : Sql.Expr}
    (hkey : (stage.lower target false [] term).Yields key) :
    (arranged.lower target false [] term).Yields key ∧ key.Over (o.keptColumns verbs) false := by
  obtain ⟨hcovers, hnames, hwindowless⟩ := Outline.of_keepsMeaning hterm
  rw [Stage.lower_eq, hstage.scope, hstage.context] at hkey
  obtain ⟨warnings, hresult⟩ := (Ensures.ofNoted _).of_yields hkey
  obtain ⟨residual, hresidual, hlowered⟩ := bind_eq_ok.1 hresult
  have hlocal {name : String} (hname : o.staysLocal target verbs name = true) :
      name ∉ o.columns ∧ name ∉ (verbs.foldl Verb.outline o).columns := by
    simp only [Outline.staysLocal, Bool.and_eq_true] at hname
    simpa using And.intro hname.1.2 hname.2
  -- Local evaluation reads the columns only through the names in the term.
  have hresidualOver {columns : List String} (hsame : ∀ name ∈ term.references,
      name ∈ columns ↔ name ∈ (verbs.foldl Verb.outline o).columns) :
      Local.partialEval ({ o with columns }.scope target []) term = .ok residual := by
    refine Local.partialEval_congr (by rfl) (by rfl) (fun name hname ↦ ?_) hresidual
    simpa [Local.Scope.isColumn, Outline.scope] using hsame name hname
  have hcalls : ∀ function ∈ residual.calls,
      target.dialect.isWindowFunction function = false := by
    intro function hfunction
    exact hwindowless function (Local.partialEval_calls hresidual function hfunction)
  obtain ⟨columns, groups, limited, houtline⟩ := Outline.outline_of_keepsOrder hverbs
  have hcontext : (verbs.foldl Verb.outline o).context target false =
      { o.context target false with groups } := by
    rw [houtline]
    rfl
  rw [hcontext, Lowering.lower_groups rfl hcalls] at hlowered
  -- The term means the same at the first stage, since columns and local names stay what they are;
  -- over the kept columns it is lowered to the same key, which therefore reads no others.
  constructor
  · have hold := @hresidualOver o.columns fun name hname ↦ by
      rcases hnames name hname with hcolumn | hbound
      · simp [Outline.mem_columns_of_mem_keptColumns hcolumn]
      · simp [hlocal hbound]
    rw [Stage.lower_eq, harranged.scope, harranged.context]
    exact .ofNoted (bind_eq_ok.2 ⟨residual, hold, hlowered⟩)
  · have hnew := @hresidualOver (o.keptColumns verbs) fun name hname ↦ by
      rcases hnames name hname with hcolumn | hbound
      · simp [hcolumn, Outline.mem_columns_of_mem_keptColumns hcolumn]
      · have hlost : name ∉ o.keptColumns verbs :=
          fun hcolumn ↦ (hlocal hbound).1 (Outline.mem_columns_of_mem_keptColumns hcolumn).1
        simp [hlost, hlocal hbound]
    have hreferences : ∀ name ∈ residual.references, name ∈ o.keptColumns verbs := by
      simpa [Outline.scope] using Local.partialEval_columns hcovers hnew
    exact Lowering.lower_plain rfl hcalls hreferences key warnings hlowered

variable (E) in
/-- The statement sorts each of its rows by the values that terms have in one row of the stage, of
which it takes over columns. A term with aggregates or with text that is not read here has no value
of its own in a row; and what stands for a column may be hidden. -/
def Stage.SortsBy (tables : TableName → List (Row V)) (target : Target)
    (pairs : String → String → Prop) (stage : Stage) (terms : List Host.Expr)
    (select : Sql.Select) : Prop :=
  select.order.length = terms.length ∧
    ∀ i unit, (E.places tables select)[i]? = some unit →
      ∃ row ∈ E.rows tables (stage.level.toSelect []),
        (∀ name source, pairs name source →
          E.output (E.valueAt tables select i unit) select.items name = row source) ∧
        List.Forall₂ (fun term sorted ↦ ∃ key, (stage.lower target false [] term).Yields key ∧
          (E.isScalar key = true →
            (∀ name, .column name ∈ key.parts → select.items.hidesSource name = false) →
              E.inRow (E.sortedAt tables select i unit) sorted =
                E.inRow (E.labelled none row) key)) terms select.order

/-- Over columns that are left as they were, a key has the value that it had. -/
theorem Stage.inRow_resolve {kept : List String} {key : Sql.Expr} (hover : key.Over kept false)
    (hscalar : E.isScalar key = true) (tables : TableName → List (Row V)) {row : Row V}
    {order : List Sql.Expr} {i : Nat} {unit : List (Env V)}
    (hvisible : ∀ name ∈ kept, name ∈ stage.level.names)
    (hvalues : ∀ name ∈ kept, E.output (E.valueAt tables (stage.level.toSelect order) i unit)
      stage.level.selectList name = row name)
    (hsources : ∀ name, .column name ∈ key.parts →
      stage.level.selectList.hidesSource name = false) :
    E.inRow (E.sortedAt tables (stage.level.toSelect order) i unit)
      (stage.level.resolve false key) = E.inRow (E.labelled none row) key := by
  have hshown : key.Over (kept.filter fun name ↦ !stage.level.selectList.hidesSource name)
      false := by
    intro s hs
    have hfits := hover s hs
    cases s with
    | identifier qualifier name =>
      obtain ⟨rfl, hname⟩ := hfits
      exact ⟨rfl, List.mem_filter.2 ⟨hname, by simp [hsources name hs]⟩⟩
    | _ => exact hfits
  refine Engine.value_inline hshown hscalar (fun _ _ ↦ rfl) fun name hname ↦ ?_
  obtain ⟨hname, hsource⟩ := List.mem_filter.1 hname
  obtain ⟨definition, hdefinition⟩ :=
    Option.isSome_iff_exists.1 (Bindings.get?_isSome.2 (hvisible name hname))
  calc E.labelled none row none name
      = row name := if_pos (.inl rfl)
    _ = E.output (E.valueAt tables (stage.level.toSelect order) i unit) stage.level.selectList
        name := (hvalues name hname).symm
    _ = E.inRow (E.sortedAt tables (stage.level.toSelect order) i unit)
        ((stage.level.definition? false name).getD (.column name)) :=
      (Level.inRow_sortedAt E tables hdefinition (by simpa using hsource) order i unit).symm

/-- The last stage of a query sorts by the terms that keep their meaning. -/
theorem Stage.IsOpen.sortsBy (hE : E.IsLawful null) {tables : TableName → List (Row V)}
    {arranged : Stage} {verbs : List Verb} (harranged : arranged.Follows o)
    (hstage : stage.IsOpen E (verbs.foldl Verb.outline o))
    (hverbs : ∀ verb ∈ verbs, verb.keepsOrder = true)
    (hterms : ∀ term ∈ o.order, o.keepsMeaning target verbs term = true)
    (hcarries : ∀ order, E.Carries tables (fun name source ↦ o.source? verbs name = some source)
      (arranged.level.toSelect []) (stage.level.toSelect order)) :
    Ensures (fun order ↦ arranged.SortsBy E tables target
      (fun name source ↦ o.source? verbs name = some source) o.order (stage.level.toSelect order))
      (stage.orderBy target) := by
  rw [Stage.orderBy, hstage.follows.liveTerms, Outline.liveTerms_of_keepsMeaning hverbs hterms]
  refine .mono (.mapM_forall₂ (r := fun term sorted ↦ ∃ key,
    (arranged.lower target false [] term).Yields key ∧ key.Over (o.keptColumns verbs) false ∧
      sorted = stage.level.resolve false key) fun term hterm ↦ ?_) fun order horder ↦ ?_
  · refine .bind (.yields _) fun key hkey ↦ .pure ?_
    obtain ⟨hkey, hover⟩ := harranged.lower_kept hstage.follows hverbs (hterms term hterm) hkey
    exact ⟨key, hkey, hover, rfl⟩
  refine ⟨horder.length_eq.symm, fun i unit hunit ↦ ?_⟩
  obtain ⟨hdistinct, hlimit⟩ := hstage.ordinary.unfinished hstage.opened
  have hrow : E.output (E.valueAt tables (stage.level.toSelect order) i unit)
      stage.level.selectList ∈ E.rows tables (stage.level.toSelect order) := by
    rw [E.rows_eq, E.answer_eq]
    exact hE.mem_finish (show (stage.level.toSelect order).distinct = false from hdistinct)
      (show (stage.level.toSelect order).limit = none from hlimit)
      (E.mem_project.2 ⟨i, unit, hunit, rfl⟩)
  obtain ⟨row, hmem, hvalues⟩ := hcarries order _ hrow
  refine ⟨row, hmem, hvalues, horder.imp ?_⟩
  rintro term _ ⟨key, hkey, hover, rfl⟩
  refine ⟨key, hkey, fun hscalar hsources ↦
    Stage.inRow_resolve hover hscalar tables (fun name hname ↦ ?_) (fun name hname ↦ ?_) hsources⟩
  · rw [hstage.follows.names]
    exact (Outline.mem_columns_of_mem_keptColumns hname).2
  · exact hvalues name name (of_decide_eq_true (List.mem_filter.1 hname).2)

theorem Plan.build_arrange_isOpen (hE : E.IsLawful null) {plan : Plan} {terms : List Host.Expr}
    (hrowwise : (plan.andThen (.arrange terms)).IsRowwise E target) :
    Ensures (Stage.IsOpen E (plan.andThen (.arrange terms)).outline)
      ((plan.andThen (.arrange terms)).build target) := by
  have hopened : Ensures (fun stage ↦ stage.level.closed = false)
      ((plan.andThen (.arrange terms)).build target) := by
    refine .bind (.trivial _) fun stage _ ↦ .mono (Verb.run_leads stage (.arrange terms)) ?_
    rintro next ⟨between, -, hacts⟩
    cases hacts with
    | arrange opened => exact opened
  refine .mono (.and (.and (Plan.build_follows target _) (Plan.build_isOrdinary target _))
    (.and (Plan.build_isRead hE target _) hopened)) ?_
  rintro stage ⟨⟨hfollows, hordinary⟩, hread, hopened⟩
  exact ⟨hfollows, hordinary, hread hrowwise, hopened⟩

end Stages

/-! ## The order of queries -/

/-- The order of rows keeps its meaning as long as names do. After an order is set, columns may be
picked, renamed and written and rows may be filtered. If each term is made of columns that are left
under their own names as they were, and of local bindings, then the statement has one key for each
term, and at every row it sorts by the value that the term had in the row where the order was set.

The terms do not follow renamings, and a column that is written anew takes the place of the one that
was sorted by. -/
theorem Query.arrange_keeps_meaning {V : Type} {E : Engine V} {null : V} (hE : E.IsLawful null)
    (tables : TableName → List (Row V)) (target : Target) {query full : Query}
    {terms : List Host.Expr} {verbs : List Verb}
    (hplan : full.plan = (query.arrange terms).plan.andAll verbs)
    (hverbs : ∀ verb ∈ verbs, verb.keepsOrder = true) (hrowwise : full.plan.IsRowwise E target)
    (hterms : ∀ term ∈ terms,
      (query.arrange terms).plan.outline.keepsMeaning target verbs term = true) :
    Ensures (fun statement ↦ ∃ arranged, ((query.arrange terms).build target).Yields arranged ∧
      arranged.SortsBy E tables target (fun name source ↦
        (query.arrange terms).plan.outline.source? verbs name = some source) terms statement.1)
      (full.toSelect target) := by
  rw [hplan] at hrowwise
  have hbuilt : Ensures (fun stage ↦ ∃ arranged,
      ((query.arrange terms).plan.build target).Yields arranged ∧
      arranged.Follows (query.arrange terms).plan.outline ∧
      stage.IsOpen E (verbs.foldl Verb.outline (query.arrange terms).plan.outline) ∧
      ∀ order, E.Carries tables (fun name source ↦
        (query.arrange terms).plan.outline.source? verbs name = some source)
        (arranged.level.toSelect []) (stage.level.toSelect order)) (full.build target) := by
    rw [full.build_eq_plan, hplan, Plan.build_andAll]
    refine .bind (.and (.yields _) (Plan.build_arrange_isOpen hE (.of_andAll hrowwise))) ?_
    rintro arranged ⟨hyields, hopen⟩
    refine .mono (Stage.carries_runAll hE tables hopen hverbs hrowwise []) ?_
    rintro stage ⟨hstage, hcarries⟩
    exact ⟨arranged, hyields, hopen.follows, hstage, hcarries⟩
  rw [build_eq_plan]
  refine .bind hbuilt ?_
  rintro stage ⟨arranged, hyields, hfollows, hstage, hcarries⟩
  refine .bind (hstage.sortsBy hE hfollows hverbs hterms hcarries) fun order hsorts ↦ .pure ?_
  exact ⟨arranged, hyields, hsorts⟩

namespace parcels

/-- The heaviest first, and those of one weight by their numbers from some number on. -/
def terms : List Host.Expr :=
  [.call "desc" [.symbol "weight"] [], .call "-" [.symbol "number", .symbol "first"] []]

def verbs : List Verb :=
  [.filter (.call ">" [.symbol "weight", .literal (.integer (some 1))] []),
    .mutate "twice" (.call "*" [.symbol "weight", .literal (.integer (some 2))] []),
    .pick [("city", "town")] true]

/-- Parcels in their order. -/
def ordered : Query := (Query.table "parcels" ["number", "weight", "town"]).arrange terms

/-- The parcels of more than one unit, with twice their weights and another name for the town. -/
def heavy : Query :=
  ((ordered.filter [.call ">" [.symbol "weight", .literal (.integer (some 1))] []]).mutate
    [("twice", .call "*" [.symbol "weight", .literal (.integer (some 2))] [])]).rename
      [("city", "town")]

def target : Target where
  dialect := .ansi
  env := [("first", .ofLiteral (.integer (some 3)))]
  now := ⟨⟨2000, 1, 1⟩, 0, 0, 0⟩

/-- What the parcels are sorted by. -/
def keys : List Sql.Expr :=
  [.desc (.column "weight"), .binary (.column "number") .sub (.literal (.integer (some 3)))]

end parcels

open parcels in
theorem Query.arrange_keeps_meaning_parcels :
    ∃ statement : Sql.Select × List String, (heavy.toSelect target).Yields statement ∧
      statement.1.order = keys ∧ ∀ tables i unit,
        (Sql.nestedLoops.places tables statement.1)[i]? = some unit →
          ∃ arranged row, (ordered.build target).Yields arranged ∧
            row ∈ Sql.nestedLoops.rows tables (arranged.level.toSelect []) ∧
            ∀ key ∈ keys, Sql.nestedLoops.inRow (Sql.nestedLoops.sortedAt tables statement.1 i unit)
              key = Sql.nestedLoops.inRow (Sql.nestedLoops.labelled none row) key := by
  have hverbs : ∀ verb ∈ verbs, verb.keepsOrder = true := by decide
  have hterms : ∀ term ∈ terms, ordered.plan.outline.keepsMeaning target verbs term = true := by
    decide +kernel
  have hrowwise : heavy.plan.IsRowwise Sql.nestedLoops target := by
    refine ⟨⟨⟨⟨trivial, trivial⟩, ?_⟩, ?_⟩, trivial⟩
    all_goals
      intro residual lowered warnings hresidual hlowered
      cases hresidual
      cases hlowered
      exact .binary _ (.column _) (.literal _)
  refine ⟨_, ⟨{}, _, rfl⟩, rfl, fun tables i unit hunit ↦ ?_⟩
  obtain ⟨arranged, hyields, -, hplaces⟩ := (@Query.arrange_keeps_meaning _ _ _
    Sql.nestedLoops_isLawful tables target _ heavy terms verbs rfl hverbs hrowwise
    hterms).of_yields ⟨{}, _, rfl⟩
  obtain ⟨row, hrow, -, hkeys⟩ := hplaces i unit hunit
  refine ⟨arranged, row, hyields, hrow, ?_⟩
  obtain ⟨_, _, harranged⟩ := hyields
  cases harranged
  obtain _ | ⟨⟨_, ⟨_, _, hweight⟩, hbyWeight⟩, _ | ⟨⟨_, ⟨_, _, hnumber⟩, hbyNumber⟩, _⟩⟩ := hkeys
  cases hweight
  cases hnumber
  rw [keys, List.forall_mem_cons, List.forall_mem_singleton]
  refine ⟨hbyWeight (by decide +kernel) ?_, hbyNumber (by decide +kernel) ?_⟩
  · intro name hname
    obtain rfl : name = "weight" := by simpa [Sql.Expr.parts, Sql.Expr.column] using hname
    rfl
  · intro name hname
    obtain rfl : name = "number" := by simpa [Sql.Expr.parts, Sql.Expr.column] using hname
    rfl

end SqlVerbs
