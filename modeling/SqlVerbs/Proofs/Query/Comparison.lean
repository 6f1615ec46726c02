import SqlVerbs.Proofs.Lowering.Strictness
import SqlVerbs.Proofs.Query.Plans

/-!
# Comparing two compilations

A query is compiled twice: in two modes, or after different numbers of subqueries. Both runs nest
the same levels at the same verbs and build the same statements, up to what the sources of rows are
called, unless the first one stops early. Which sources count as alike, and which errors may stop
the first run, is left open here.
-/

namespace SqlVerbs

namespace Sql

/-- The same condition, or the same test for a match in sources of rows that are alike. -/
inductive Expr.Alike (d : Dialect) (alike : Source → Source → Prop) : Expr → Expr → Prop
  | same (e : Expr) : Alike d alike e e
  | test (negated : Bool) (keys : List (String × String)) {right right' : Source}
    (h : alike right right') :
    Alike d alike (Join.existence d negated right keys) (Join.existence d negated right' keys)

/-- The same join with sources of rows that are alike. -/
inductive JoinWith.Alike (alike : Source → Source → Prop) :
    JoinWith Source → JoinWith Source → Prop
  | mk (kind : JoinKind) {source source' : Source} (on : List Expr) (h : alike source source') :
    Alike alike ⟨kind, source, on⟩ ⟨kind, source', on⟩

/-- The same statement over sources of rows that are alike. -/
inductive SelectFrom.Alike (d : Dialect) (alike : Source → Source → Prop) :
    SelectFrom Source → SelectFrom Source → Prop
  | mk {distinct : Bool} {items : SelectList} {source source' : Source}
    {joins joins' : List (JoinWith Source)} {filters filters' groups having order : List Expr}
    {limit : Option UInt64} (sources : alike source source')
    (joined : List.Forall₂ (JoinWith.Alike alike) joins joins')
    (filtered : List.Forall₂ (Expr.Alike d alike) filters filters') :
    Alike d alike ⟨distinct, items, source, joins, filters, groups, having, order, limit⟩
      ⟨distinct, items, source', joins', filters', groups, having, order, limit⟩

namespace SelectFrom.Alike

variable {d : Dialect} {alike : Source → Source → Prop} {select select' : Select}
  (h : select.Alike d alike select')

include h

theorem source : alike select.source select'.source := by
  obtain ⟨hsource, -, -⟩ := h
  exact hsource

theorem limit : select'.limit = select.limit := by
  obtain ⟨-, -, -⟩ := h
  rfl

/-- Both statements have a clause, or none of them has. -/
theorem isUntouched :
    (select'.joins.isEmpty && select'.filters.isEmpty && select'.groups.isEmpty &&
      select'.having.isEmpty && !select'.distinct && select'.limit.isNone) =
    (select.joins.isEmpty && select.filters.isEmpty && select.groups.isEmpty &&
      select.having.isEmpty && !select.distinct && select.limit.isNone) := by
  obtain ⟨-, hjoins, hfilters⟩ := h
  cases hjoins <;> cases hfilters <;> rfl

theorem withOutput (items : SelectList) (order : List Expr) :
    SelectFrom.Alike d alike { select with items, order } { select' with items, order } := by
  obtain ⟨hsource, hjoins, hfilters⟩ := h
  exact .mk hsource hjoins hfilters

theorem withFilter (condition : Expr) :
    SelectFrom.Alike d alike { select with filters := select.filters ++ [condition] }
      { select' with filters := select'.filters ++ [condition] } := by
  obtain ⟨hsource, hjoins, hfilters⟩ := h
  exact .mk hsource hjoins (List.rel_append hfilters (.cons (.same condition) .nil))

theorem withHaving (condition : Expr) :
    SelectFrom.Alike d alike { select with having := select.having ++ [condition] }
      { select' with having := select'.having ++ [condition] } := by
  obtain ⟨hsource, hjoins, hfilters⟩ := h
  exact .mk hsource hjoins hfilters

theorem withGroups (groups : List Expr) :
    SelectFrom.Alike d alike { select with groups } { select' with groups } := by
  obtain ⟨hsource, hjoins, hfilters⟩ := h
  exact .mk hsource hjoins hfilters

theorem withDistinct (distinct : Bool) :
    SelectFrom.Alike d alike { select with distinct } { select' with distinct } := by
  obtain ⟨hsource, hjoins, hfilters⟩ := h
  exact .mk hsource hjoins hfilters

theorem withLimit (limit : Option UInt64) :
    SelectFrom.Alike d alike { select with limit } { select' with limit } := by
  obtain ⟨hsource, hjoins, hfilters⟩ := h
  exact .mk hsource hjoins hfilters

end SelectFrom.Alike

end Sql

open Sql (SelectFrom)

/-- How two compilations are compared. -/
structure Comparison where
  target : Target
  /-- The mode of the first run. -/
  strict : Bool
  /-- The mode of the second run. -/
  strict' : Bool
  /-- The first run may stop with these errors. -/
  stops : Error → Prop
  /-- How far the runs are. -/
  meets : Progress → Progress → Prop
  alike : Sql.Source → Sql.Source → Prop
  /-- The expressions that the runs may come across. -/
  allows : Host.Expr → Prop
  meets_warned : ∀ {progress progress' : Progress}, meets progress progress' →
    ∀ warnings, meets { progress with warnings := addNew progress.warnings warnings }
      { progress' with warnings := addNew progress'.warnings warnings }
  meets_counted : ∀ {progress progress' : Progress}, meets progress progress' →
    meets { progress with subqueries := progress.subqueries + 1 }
      { progress' with subqueries := progress'.subqueries + 1 }
  alike_table : ∀ name label, alike (.table name label) (.table name label)
  eq_table_iff : ∀ {source source' : Sql.Source}, alike source source' →
    ∀ name label, source = .table name label ↔ source' = .table name label
  alike_side : ∀ {select select' : Sql.Select}, select.Alike target.dialect alike select' →
    ∀ label ∈ [Join.leftLabel, Join.rightLabel],
      alike (.subquery select label) (.subquery select' label)
  alike_numbered : ∀ {select select' : Sql.Select}, select.Alike target.dialect alike select' →
    ∀ {progress progress' : Progress}, meets progress progress' →
      alike (.subquery select (Compile.numbered "q" (progress.subqueries + 1)))
        (.subquery select' (Compile.numbered "q" (progress'.subqueries + 1)))
  allows_residual : ∀ {scope : Local.Scope} {e residual : Host.Expr}, allows e →
    Local.partialEval scope e = .ok residual → allows residual
  lower : ∀ {cx : Lowering.Context} {e : Host.Expr}, cx.dialect = target.dialect → allows e →
    (∀ term ∈ cx.order, allows term) →
      Noted.Restricts stops Eq (Lowering.lower { cx with strict } e)
        (Lowering.lower { cx with strict := strict' } e)

namespace Comparison

variable {α β α' β' : Type} (c : Comparison)

/-- What the query is compiled for in the first run. -/
def first : Target := { c.target with strict := c.strict }

/-- What the query is compiled for in the second run. -/
def second : Target := { c.target with strict := c.strict' }

/-! ## Steps -/

/-- From where they meet, the first step stops, or both fail alike, or both have related results and
meet again. -/
def Relates (r : α → β → Prop) (x : Compile α) (y : Compile β) : Prop :=
  ∀ progress progress', c.meets progress progress' →
    StopsOr c.stops (fun result result' ↦ r result.1 result'.1 ∧ c.meets result.2 result'.2)
      (x progress) (y progress')

namespace Relates

variable {c} {r : α → β → Prop} {s : α' → β' → Prop}

theorem pure {a : α} {b : β} (h : r a b) : c.Relates r (Pure.pure a) (Pure.pure b) :=
  fun _ _ hmeets ↦ .done ⟨h, hmeets⟩

theorem fail (e : Error) : c.Relates r (Compile.fail e) (Compile.fail e) :=
  fun _ _ _ ↦ .failed e

theorem bind {x : Compile α} {y : Compile β} {f : α → Compile α'} {g : β → Compile β'}
    (hx : c.Relates r x y) (hf : ∀ a b, r a b → c.Relates s (f a) (g b)) :
    c.Relates s (x >>= f) (y >>= g) := by
  intro progress progress' hmeets
  refine (hx progress progress' hmeets).bind ?_
  intro result result' h
  exact hf _ _ h.1 _ _ h.2

/-- A step with the same result in both runs, and then steps that are compared for it. -/
theorem andThen {x y : Compile α} {f : α → Compile α'} {g : α → Compile β'}
    (hx : c.Relates Eq x y) (hf : ∀ a, c.Relates s (f a) (g a)) :
    c.Relates s (x >>= f) (y >>= g) :=
  .bind hx fun a _ h ↦ h ▸ hf a

theorem ofExcept (x : Except Error α) :
    c.Relates (fun a b ↦ a = b ∧ x = .ok a) (Compile.ofExcept x) (Compile.ofExcept x) := by
  intro progress progress' hmeets
  cases x with
  | error e => exact .failed e
  | ok a => exact .done ⟨⟨rfl, rfl⟩, hmeets⟩

theorem ofNoted {x y : Noted α} (h : Noted.Restricts c.stops Eq x y) :
    c.Relates Eq (Compile.ofNoted x) (Compile.ofNoted y) := by
  intro progress progress' hmeets
  cases h with
  | stopped h => exact .stopped h
  | failed e => exact .failed e
  | @done result result' h =>
    obtain ⟨a, warnings⟩ := result
    obtain ⟨b, _⟩ := result'
    obtain ⟨rfl, rfl⟩ := h
    exact .done ⟨rfl, c.meets_warned hmeets warnings⟩

theorem nextLabel : c.Relates
    (fun label label' ↦ ∀ {select select' : Sql.Select},
      select.Alike c.target.dialect c.alike select' →
        c.alike (.subquery select label) (.subquery select' label'))
    Compile.nextLabel Compile.nextLabel :=
  fun _ _ hmeets ↦ .done ⟨fun h ↦ c.alike_numbered h hmeets, c.meets_counted hmeets⟩

theorem mapM {items : List β} {f g : β → Compile α}
    (h : ∀ item ∈ items, c.Relates Eq (f item) (g item)) :
    c.Relates Eq (items.mapM f) (items.mapM g) := by
  induction items with
  | nil => exact .pure rfl
  | cons item later ih =>
    rw [List.forall_mem_cons] at h
    rw [List.mapM_cons, List.mapM_cons]
    exact h.1.andThen fun a ↦ (ih h.2).andThen fun rest ↦ .pure rfl

end Relates

end Comparison

/-! ## Stages -/

/-- The same stage, up to the sources of rows. -/
inductive Stage.Alike (c : Comparison) (stage : Stage) : Stage → Prop
  | mk {body' : Sql.Select} (body : stage.level.body.Alike c.target.dialect c.alike body')
    (order : ∀ term ∈ stage.order, c.allows term)
    (windowOrder : ∀ term ∈ stage.windowOrder, c.allows term) :
    Alike c stage { stage with level := { stage.level with body := body' } }

namespace Stage

variable {c : Comparison} {stage stage' : Stage}

namespace Alike

theorem lower (h : stage.Alike c stage') (windowed : Bool) (more : List String) {e : Host.Expr}
    (he : c.allows e) :
    c.Relates Eq (stage.lower c.first windowed more e) (stage'.lower c.second windowed more e) := by
  obtain ⟨hbody, horder, hwindowOrder⟩ := h
  refine .bind (.ofExcept _) ?_
  rintro residual _ ⟨rfl, hresidual⟩
  have hterms : ∀ term ∈ stage.windowTerms, c.allows term := by
    unfold windowTerms
    split
    · exact horder
    · exact hwindowOrder
  exact .ofNoted (@Comparison.lower c (stage.context c.target windowed) residual rfl
    (c.allows_residual he hresidual) hterms)

theorem orderBy (h : stage.Alike c stage') :
    c.Relates Eq (stage.orderBy c.first) (stage'.orderBy c.second) := by
  have hlive : stage'.liveTerms c.second = stage.liveTerms c.first := by
    obtain ⟨hbody, -, -⟩ := h
    rfl
  have hresolve : stage'.level.resolve = stage.level.resolve := by
    obtain ⟨hbody, -, -⟩ := h
    rfl
  rw [Stage.orderBy, Stage.orderBy, hlive, hresolve]
  refine .mapM fun term hterm ↦ (h.lower false [] ?_).andThen fun lowered ↦ .pure rfl
  obtain ⟨-, horder, -⟩ := h
  exact horder term (List.mem_of_mem_filter hterm)

theorem nestedOrderBy (h : stage.Alike c stage') :
    c.Relates Eq (stage.nestedOrderBy c.first) (stage'.nestedOrderBy c.second) := by
  have hlimit : stage'.level.body.limit = stage.level.body.limit := by
    obtain ⟨hbody, -, -⟩ := h
    exact hbody.limit
  rw [Stage.nestedOrderBy, Stage.nestedOrderBy, hlimit]
  split
  · exact h.orderBy
  · exact .pure rfl

/-- The statements of both runs are alike. -/
theorem toSelect (h : stage.Alike c stage') (order : List Sql.Expr) :
    (stage.level.toSelect order).Alike c.target.dialect c.alike (stage'.level.toSelect order) := by
  obtain ⟨hbody, -, -⟩ := h
  exact hbody.withOutput _ order

theorem wrap (h : stage.Alike c stage') :
    c.Relates (Stage.Alike c) (stage.wrap c.first) (stage'.wrap c.second) := by
  refine h.nestedOrderBy.andThen fun order ↦ .bind .nextLabel fun label label' hlabel ↦ ?_
  have hsource := hlabel (h.toSelect order)
  obtain ⟨-, horder, hwindowOrder⟩ := h
  exact .pure (.mk (.mk hsource .nil .nil) horder hwindowOrder)

theorem wrapIf (h : stage.Alike c stage') (needed : Bool) :
    c.Relates (Stage.Alike c) (stage.wrapIf c.first needed) (stage'.wrapIf c.second needed) := by
  cases needed with
  | true => exact h.wrap
  | false => exact .pure h

theorem reopen (h : stage.Alike c stage') :
    c.Relates (Stage.Alike c) (stage.reopen c.first) (stage'.reopen c.second) := by
  have hclosed : stage'.level.closed = stage.level.closed := by
    obtain ⟨hbody, -, -⟩ := h
    rfl
  rw [Stage.reopen, Stage.reopen, hclosed]
  exact h.wrapIf _

theorem lowerApart (h : stage.Alike c stage') {e : Host.Expr} (he : c.allows e) :
    c.Relates (fun result result' ↦ result.1.Alike c result'.1 ∧ result.2 = result'.2)
      (stage.lowerApart c.first e) (stage'.lowerApart c.second e) := by
  have hcomputed : stage'.level.usesComputed = stage.level.usesComputed := by
    obtain ⟨hbody, -, -⟩ := h
    rfl
  rw [Stage.lowerApart, Stage.lowerApart, hcomputed]
  refine (h.lower true [] he).andThen fun lowered ↦ ?_
  split
  · refine .bind h.wrap fun nested nested' hnested ↦ ?_
    exact (hnested.lower true [] he).andThen fun again ↦ .pure ⟨hnested, rfl⟩
  · exact .pure ⟨h, rfl⟩

/-! ## Verbs -/

theorem pick (h : stage.Alike c stage') (columns : List (String × String)) (keepRest : Bool) :
    c.Relates (Stage.Alike c) (stage.pick c.first columns keepRest)
      (stage'.pick c.second columns keepRest) := by
  refine .bind h.reopen fun opened opened' hopened ↦ ?_
  have hunknown : unknown? opened'.level = unknown? opened.level := by
    obtain ⟨-, -, -⟩ := hopened
    rfl
  rw [hunknown]
  obtain ⟨hbody, horder, hwindowOrder⟩ := hopened
  split
  · exact .fail _
  · exact .pure (.mk hbody horder hwindowOrder)

theorem mutate (h : stage.Alike c stage') (name : String) {e : Host.Expr} (he : c.allows e) :
    c.Relates (Stage.Alike c) (stage.mutate c.first name e) (stage'.mutate c.second name e) := by
  have hneeded : (stage'.level.closed || stage'.level.summarised) =
      (stage.level.closed || stage.level.summarised) := by
    obtain ⟨hbody, -, -⟩ := h
    rfl
  rw [Stage.mutate, Stage.mutate, hneeded]
  refine .bind (h.wrapIf _) fun opened opened' hopened ↦ .bind (hopened.lowerApart he) ?_
  rintro ⟨apart, lowered⟩ ⟨_, _⟩ ⟨⟨hbody, horder, hwindowOrder⟩, rfl⟩
  exact .pure (.mk hbody horder hwindowOrder)

theorem setWindows (h : stage.Alike c stage') (windows : Windows) :
    Stage.Alike c { stage with level := stage.level.setWindows windows }
      { stage' with level := stage'.level.setWindows windows } := by
  induction windows generalizing stage stage' with
  | nil => exact h
  | cons window later ih =>
    have hset : Stage.Alike c
        { stage with level := stage.level.setColumn window.1 (stage.level.resolve true window.2) }
        { stage' with
          level := stage'.level.setColumn window.1 (stage'.level.resolve true window.2) } := by
      obtain ⟨hbody, horder, hwindowOrder⟩ := h
      exact .mk hbody horder hwindowOrder
    exact ih hset

theorem hoist (h : stage.Alike c stage') (condition : Sql.Expr) :
    c.Relates (Stage.Alike c) (stage.hoist c.first condition)
      (stage'.hoist c.second condition) := by
  have hvisible : stage'.level.names = stage.level.names := by
    obtain ⟨-, -, -⟩ := h
    rfl
  rw [Stage.hoist, Stage.hoist, hvisible]
  refine .bind (h.setWindows _).wrap fun nested nested' hnested ↦ ?_
  obtain ⟨hbody, horder, hwindowOrder⟩ := hnested
  exact .pure (.mk (hbody.withFilter _) horder hwindowOrder)

theorem filterRows (h : stage.Alike c stage') {predicate : Host.Expr} (hp : c.allows predicate) :
    c.Relates (Stage.Alike c) (stage.filterRows c.first predicate)
      (stage'.filterRows c.second predicate) := by
  refine .bind (h.lowerApart hp) ?_
  rintro ⟨apart, condition⟩ ⟨apart', _⟩ ⟨hapart, rfl⟩
  dsimp only
  split
  · exact Alike.hoist hapart condition
  · obtain ⟨hbody, horder, hwindowOrder⟩ := hapart
    exact .pure (.mk (hbody.withFilter _) horder hwindowOrder)

theorem filterGroups (h : stage.Alike c stage') {predicate : Host.Expr} (hp : c.allows predicate) :
    c.Relates (Stage.Alike c) (stage.filterGroups c.first predicate)
      (stage'.filterGroups c.second predicate) := by
  refine (h.lower false [] hp).andThen fun condition ↦ ?_
  split
  · exact .bind h.wrap fun nested nested' hnested ↦ hnested.filterRows hp
  · obtain ⟨hbody, horder, hwindowOrder⟩ := h
    exact .pure (.mk (hbody.withHaving _) horder hwindowOrder)

theorem filter (h : stage.Alike c stage') {predicate : Host.Expr} (hp : c.allows predicate) :
    c.Relates (Stage.Alike c) (stage.filter c.first predicate)
      (stage'.filter c.second predicate) := by
  have hneeded : (stage'.level.closed || (!stage'.level.summarised && stage'.level.hasWindows)) =
      (stage.level.closed || (!stage.level.summarised && stage.level.hasWindows)) := by
    obtain ⟨-, -, -⟩ := h
    rfl
  rw [Stage.filter, Stage.filter, hneeded]
  refine .bind (h.wrapIf _) fun opened opened' hopened ↦ ?_
  have hsummarised : opened'.level.summarised = opened.level.summarised := by
    obtain ⟨-, -, -⟩ := hopened
    rfl
  rw [hsummarised]
  split
  · exact hopened.filterGroups hp
  · exact hopened.filterRows hp

theorem arrange (h : stage.Alike c stage') {terms : List Host.Expr}
    (hterms : ∀ term ∈ terms, c.allows term) :
    c.Relates (Stage.Alike c) (stage.arrange c.first terms) (stage'.arrange c.second terms) := by
  refine .bind h.reopen fun opened opened' hopened ↦ ?_
  obtain ⟨hbody, -, hwindowOrder⟩ := hopened
  exact .pure (.mk hbody hterms hwindowOrder)

theorem distinct (h : stage.Alike c stage') :
    c.Relates (Stage.Alike c) (stage.distinct c.first) (stage'.distinct c.second) := by
  refine .bind h.reopen fun opened opened' hopened ↦ ?_
  obtain ⟨hbody, horder, hwindowOrder⟩ := hopened
  exact .pure (.mk (hbody.withDistinct true) horder hwindowOrder)

theorem head (h : stage.Alike c stage') (count : UInt64) :
    c.Relates (Stage.Alike c) (stage.head c.first count) (stage'.head c.second count) := by
  refine .bind h.reopen fun opened opened' hopened ↦ ?_
  obtain ⟨hbody, horder, hwindowOrder⟩ := hopened
  exact .pure (.mk (hbody.withLimit (some count)) horder hwindowOrder)

theorem groupBy (h : stage.Alike c stage') (columns : List String) :
    c.Relates (Stage.Alike c) (stage.groupBy columns) (stage'.groupBy columns) := by
  have hunknown : unknown? stage'.level = unknown? stage.level := by
    obtain ⟨-, -, -⟩ := h
    rfl
  rw [Stage.groupBy, Stage.groupBy, hunknown]
  obtain ⟨hbody, horder, hwindowOrder⟩ := h
  split
  · exact .fail _
  · exact .pure (.mk hbody horder hwindowOrder)

theorem summaries (h : stage.Alike c stage') {columns : List (String × Host.Expr)}
    (hcolumns : ∀ column ∈ columns, c.allows column.2) (done : Bindings Sql.Expr) :
    c.Relates Eq (stage.summaries c.first done columns)
      (stage'.summaries c.second done columns) := by
  have hlevel : stage'.level.columns = stage.level.columns := by
    obtain ⟨-, -, -⟩ := h
    rfl
  induction columns generalizing done with
  | nil => exact .pure rfl
  | cons column later ih =>
    rw [List.forall_mem_cons] at hcolumns
    rw [Stage.summaries, Stage.summaries, hlevel]
    exact (h.lower false done.names hcolumns.1).andThen fun lowered ↦ ih hcolumns.2 _

theorem summarise (h : stage.Alike c stage') {columns : List (String × Host.Expr)}
    (hcolumns : ∀ column ∈ columns, c.allows column.2) :
    c.Relates (Stage.Alike c) (stage.summarise c.first columns)
      (stage'.summarise c.second columns) := by
  have hneeded : (stage'.level.closed || stage'.level.summarised || stage'.level.hasWindows ||
      stage'.summaryUsesComputed columns) = (stage.level.closed || stage.level.summarised ||
        stage.level.hasWindows || stage.summaryUsesComputed columns) := by
    obtain ⟨-, -, -⟩ := h
    rfl
  rw [Stage.summarise, Stage.summarise, hneeded]
  refine .bind (h.wrapIf _) fun opened opened' hopened ↦ ?_
  refine (hopened.summaries hcolumns []).andThen fun summaries ↦ ?_
  obtain ⟨hbody, -, hwindowOrder⟩ := hopened
  exact .pure (.mk (hbody.withGroups _) nofun hwindowOrder)

/-! ## Joins -/

theorem bareTable? (h : stage.Alike c stage') :
    stage'.level.bareTable? = stage.level.bareTable? := by
  have huntouched : stage'.level.isUntouched = stage.level.isUntouched := by
    obtain ⟨hbody, -, -⟩ := h
    exact congrArg (· && stage.level.isStar) hbody.isUntouched
  have hsource : c.alike stage.level.body.source stage'.level.body.source := by
    obtain ⟨hbody, -, -⟩ := h
    exact hbody.source
  rw [Level.bareTable?, Level.bareTable?, huntouched]
  have htable := c.eq_table_iff hsource
  generalize stage.level.body.source = source, stage'.level.body.source = source' at htable
  cases source with
  | table name label =>
    rw [(htable name label).1 rfl]
  | subquery select label =>
    cases source' with
    | table name label => cases (htable name label).2 rfl
    | subquery => rfl

theorem side (h : stage.Alike c stage') {label : String}
    (hlabel : label ∈ [Join.leftLabel, Join.rightLabel]) :
    c.Relates (fun side side' ↦ c.alike side.1 side'.1 ∧ side.2 = side'.2)
      (Join.side c.first stage label) (Join.side c.second stage' label) := by
  have hnames : stage'.level.names = stage.level.names := by
    obtain ⟨-, -, -⟩ := h
    rfl
  rw [Join.side, Join.side, h.bareTable?, hnames]
  split
  · exact .pure ⟨c.alike_table _ _, rfl⟩
  · refine h.nestedOrderBy.andThen fun order ↦ .pure ⟨?_, rfl⟩
    exact c.alike_side (h.toSelect order) label hlabel

theorem join {left left' right right' : Stage} (hleft : left.Alike c left')
    (hright : right.Alike c right') (type : JoinType) (keys : List (String × String))
    (suffixes : String × String) :
    c.Relates (Stage.Alike c) (left.join c.first right type keys suffixes)
      (left'.join c.second right' type keys suffixes) := by
  have hunknown : Join.unknownKey? left'.level right'.level keys =
      Join.unknownKey? left.level right.level keys := by
    obtain ⟨-, -, -⟩ := hleft
    obtain ⟨-, -, -⟩ := hright
    induction keys with
    | nil => rfl
    | cons key later ih =>
      rw [Join.unknownKey?, Join.unknownKey?, ih]
      rfl
  rw [Stage.join, Stage.join, hunknown]
  split
  · exact .fail _
  · refine .bind (hleft.side (by simp)) ?_
    rintro ⟨leftSource, leftNames⟩ ⟨leftSource', _⟩ ⟨hleftSource, rfl⟩
    refine .bind (hright.side (by simp)) ?_
    rintro ⟨rightSource, rightNames⟩ ⟨rightSource', _⟩ ⟨hrightSource, rfl⟩
    obtain ⟨-, -, hwindowOrder⟩ := hleft
    have htest (negated : Bool) : Sql.Expr.Alike c.target.dialect c.alike _ _ :=
      .test negated keys hrightSource
    have hjoin (kind : Sql.JoinKind) : Sql.JoinWith.Alike c.alike _ _ :=
      .mk kind (Join.condition keys) hrightSource
    refine .pure ?_
    cases type with
    | semi => exact .mk (.mk hleftSource .nil (.cons (htest false) .nil)) nofun hwindowOrder
    | anti => exact .mk (.mk hleftSource .nil (.cons (htest true) .nil)) nofun hwindowOrder
    | inner => exact .mk (.mk hleftSource (.cons (hjoin .inner) .nil) .nil) nofun hwindowOrder
    | left => exact .mk (.mk hleftSource (.cons (hjoin .left) .nil) .nil) nofun hwindowOrder
    | right => exact .mk (.mk hleftSource (.cons (hjoin .right) .nil) .nil) nofun hwindowOrder
    | full => exact .mk (.mk hleftSource (.cons (hjoin .full) .nil) .nil) nofun hwindowOrder

end Alike

end Stage

/-! ## Whole queries -/

/-- The expressions of a verb. -/
def Verb.terms : Verb → List Host.Expr
  | .filter predicate => [predicate]
  | .mutate _ e => [e]
  | .summarise columns => columns.map Prod.snd
  | .arrange terms | .windowOrder terms => terms
  | .pick .. | .groupBy _ | .ungroup | .distinct | .head _ | .windowFrame _ | .collapse => []

/-- The expressions of all verbs of a plan. -/
def Plan.terms : Plan → List Host.Expr
  | .table _ _ => []
  | .andThen parent verb => parent.terms ++ verb.terms
  | .join left right _ _ _ => left.terms ++ right.terms

section Runs

variable {c : Comparison}

theorem Verb.run_relates {stage stage' : Stage} (h : stage.Alike c stage') {verb : Verb}
    (hterms : ∀ e ∈ verb.terms, c.allows e) :
    c.Relates (Stage.Alike c) (verb.run c.first stage) (verb.run c.second stage') := by
  cases verb with
  | pick columns keepRest => exact h.pick columns keepRest
  | filter predicate => exact h.filter (hterms predicate List.mem_cons_self)
  | arrange terms => exact h.arrange hterms
  | mutate name e => exact h.mutate name (hterms e List.mem_cons_self)
  | summarise columns =>
    exact h.summarise fun column hcolumn ↦ hterms column.2 (List.mem_map_of_mem hcolumn)
  | groupBy columns => exact h.groupBy columns
  | ungroup =>
    obtain ⟨hbody, horder, hwindowOrder⟩ := h
    exact .pure (.mk hbody horder hwindowOrder)
  | distinct => exact h.distinct
  | head count => exact h.head count
  | windowOrder terms =>
    obtain ⟨hbody, horder, -⟩ := h
    exact .pure (.mk hbody horder hterms)
  | windowFrame frame =>
    obtain ⟨hbody, horder, hwindowOrder⟩ := h
    exact .pure (.mk hbody horder hwindowOrder)
  | collapse => exact h.wrap

/-- Both runs build the same stages, up to the sources of rows. -/
theorem Plan.build_relates {plan : Plan} (hterms : ∀ e ∈ plan.terms, c.allows e) :
    c.Relates (Stage.Alike c) (plan.build c.first) (plan.build c.second) := by
  induction plan with
  | table name columns => exact .pure (.mk (.mk (c.alike_table _ _) .nil .nil) nofun nofun)
  | andThen parent verb ih =>
    rw [terms, List.forall_mem_append] at hterms
    exact .bind (ih hterms.1) fun stage stage' h ↦ Verb.run_relates h hterms.2
  | join left right type keys suffixes ihleft ihright =>
    rw [terms, List.forall_mem_append] at hterms
    refine .bind (ihleft hterms.1) fun left left' hleft ↦ ?_
    exact .bind (ihright hterms.2) fun right right' hright ↦ hleft.join hright type keys suffixes

theorem Query.toSelect_relates {query : Query} (hterms : ∀ e ∈ query.plan.terms, c.allows e) :
    c.Relates (fun result result' ↦
      result.1.Alike c.target.dialect c.alike result'.1 ∧ result.2 = result'.2)
      (query.toSelect c.first) (query.toSelect c.second) := by
  rw [toSelect, toSelect, build_eq_plan, build_eq_plan]
  refine .bind (Plan.build_relates hterms) fun stage stage' h ↦ ?_
  refine h.orderBy.andThen fun order ↦ .pure ⟨h.toSelect order, ?_⟩
  obtain ⟨-, -, -⟩ := h
  rfl

end Runs

end SqlVerbs
