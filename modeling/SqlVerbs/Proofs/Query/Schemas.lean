import SqlVerbs.Dialect.Registry
import SqlVerbs.Proofs.Query.Pipelines
import SqlVerbs.Proofs.Query.Scoping
import SqlVerbs.Query.Run

/-!
# The schema of a query

The columns of a query follow from its verbs, on names only. They are also the output columns of
the statement that it is compiled to, however often that is nested and whether or not its columns
are written out: a star is written only where it stands for them.

A query may declare a table twice with different columns. Each occurrence then has the columns that
are declared there, so the columns of a table are a relation here and not a function.
-/

namespace SqlVerbs

open Compile (Ensures Yields)
open Sql (TableName)

/-! ## The output columns of statements -/

namespace Sql

section Offers

variable (declared : TableName → List String → Prop)

mutual

/-- The source of rows has these columns. -/
def Source.Offers : Source → List String → Prop
  | .table name _, columns => declared name columns
  | .subquery select _, columns => Outputs select columns

/-- The statement has these output columns. A star stands for the columns of the `FROM` clause. -/
def Outputs : SelectFrom Source → List String → Prop
  | ⟨_, items, source, joins, _, _, _, _, _⟩, columns =>
    ∃ first more, source.Offers first ∧ JoinsOffer joins more ∧
      columns = items.outputs (first ++ more)

/-- The joined sources have these columns. -/
def JoinsOffer : List (JoinWith Source) → List String → Prop
  | [], columns => columns = []
  | ⟨_, source, _⟩ :: rest, columns =>
    ∃ first more, source.Offers first ∧ JoinsOffer rest more ∧ columns = first ++ more

end

/-- The `FROM` clause of the statement has these columns. -/
def SelectFrom.Reads (select : Select) (columns : List String) : Prop :=
  ∃ first more, select.source.Offers declared first ∧ JoinsOffer declared select.joins more ∧
    columns = first ++ more

theorem outputs_iff {select : Select} {columns : List String} :
    Outputs declared select columns ↔
      ∃ offered, select.Reads declared offered ∧ columns = select.items.outputs offered := by
  rw [Outputs]
  constructor
  · rintro ⟨first, more, hfirst, hmore, rfl⟩
    exact ⟨_, ⟨first, more, hfirst, hmore, rfl⟩, rfl⟩
  · rintro ⟨_, ⟨first, more, hfirst, hmore, rfl⟩, rfl⟩
    exact ⟨first, more, hfirst, hmore, rfl⟩

end Offers

section Tables

variable {tables : TableName → List String}

mutual

/-- Where every table has the same columns wherever it is read, so has every source. -/
theorem Source.columns_of_offers :
    ∀ {source : Source} {columns : List String},
      source.Offers (fun name columns ↦ tables name = columns) columns →
        source.columns tables = columns
  | .table name _, columns, h => by
    rw [Source.Offers] at h
    rw [Source.columns, h]
  | .subquery select _, columns, h => by
    rw [Source.Offers] at h
    rw [Source.columns, outputsOf_of_outputs h]

theorem outputsOf_of_outputs :
    ∀ {select : SelectFrom Source} {columns : List String},
      Outputs (fun name columns ↦ tables name = columns) select columns →
        outputsOf tables select = columns
  | ⟨_, items, source, joins, _, _, _, _, _⟩, columns, h => by
    rw [Outputs] at h
    obtain ⟨first, more, hfirst, hmore, rfl⟩ := h
    rw [outputsOf, Source.columns_of_offers hfirst, columnsOfJoins_of_offer hmore]

theorem columnsOfJoins_of_offer :
    ∀ {joins : List (JoinWith Source)} {columns : List String},
      JoinsOffer (fun name columns ↦ tables name = columns) joins columns →
        columnsOfJoins tables joins = columns
  | [], columns, h => by
    rw [JoinsOffer] at h
    rw [columnsOfJoins, h]
  | ⟨_, source, _⟩ :: rest, columns, h => by
    rw [JoinsOffer] at h
    obtain ⟨first, more, hfirst, hmore, rfl⟩ := h
    rw [columnsOfJoins, Source.columns_of_offers hfirst, columnsOfJoins_of_offer hmore]

end

end Tables

end Sql

/-! ## Levels and the columns that they read -/

/-- What a level reads from has columns, and they are its source columns as long as the level is
open or is written with a star. A join has no source columns; it is closed, and it is written with a
star only if no side has a column. -/
def Level.Reads (declared : TableName → List String → Prop) (level : Level) : Prop :=
  ∃ columns, level.body.Reads declared columns ∧
    (level.closed = false ∨ level.isStar = true → columns = level.sourceColumns)

namespace Level.Reads

variable {declared : TableName → List String → Prop} {level : Level}

theorem toSelect (h : level.Reads declared) (order : List Sql.Expr) :
    Sql.Outputs declared (level.toSelect order) level.names := by
  obtain ⟨columns, hreads, hsource⟩ := h
  rw [Sql.outputs_iff]
  refine ⟨columns, hreads, ?_⟩
  change level.names = level.selectList.outputs columns
  rw [Level.selectList]
  split
  · rename_i hstar
    rw [Level.names, columns_of_isStar hstar, Sql.Semantics.names_passed, hsource (.inr hstar)]
    rfl
  · have hname : Sql.SelectItem.outputName? ∘ (fun entry : String × Sql.Expr ↦
        Sql.SelectItem.named entry.2 entry.1) = some ∘ Prod.fst := by
      funext entry
      exact (Sql.outputName?_named entry.2 entry.1).1
    rw [Sql.SelectList.outputs, List.filterMap_map, hname, List.filterMap_eq_map]
    rfl

theorem ofSource {source : Sql.Source} {columns : List String}
    (h : source.Offers declared columns) : (Level.ofSource source columns).Reads declared := by
  refine ⟨columns, ⟨columns, [], h, ?_, (List.append_nil columns).symm⟩, fun _ ↦ rfl⟩
  change Sql.JoinsOffer declared [] []
  rw [Sql.JoinsOffer]

/-- Whatever is changed in an open level but its source, it reads the same columns. -/
theorem change (h : level.Reads declared) (hopen : level.closed = false) {next : Level}
    (hsource : next.body.source = level.body.source) (hjoins : next.body.joins = level.body.joins)
    (hcolumns : next.sourceColumns = level.sourceColumns) : next.Reads declared := by
  obtain ⟨columns, ⟨first, more, hfirst, hmore, hall⟩, hequal⟩ := h
  refine ⟨columns, ⟨first, more, by rwa [hsource], by rwa [hjoins], hall⟩, fun _ ↦ ?_⟩
  rw [hcolumns]
  exact hequal (.inl hopen)

theorem nested (h : level.Reads declared) (order : List Sql.Expr) (label : String) :
    (Level.ofSource (.subquery (level.toSelect order) label) level.names).Reads declared := by
  apply ofSource
  rw [Sql.Source.Offers]
  exact h.toSelect order

/-- A level that only reads a table has the columns that are declared for it. -/
theorem bareTable (h : level.Reads declared) {name : TableName}
    (hbare : level.bareTable? = some name) : declared name level.names := by
  have hreads := readsTable_of_bareTable? hbare
  obtain ⟨columns, ⟨first, more, hfirst, hmore, hall⟩, hequal⟩ := h
  rw [hreads.source, Sql.Source.Offers] at hfirst
  rw [hreads.joins, Sql.JoinsOffer] at hmore
  rw [hmore, List.append_nil, hequal (.inr hreads.star)] at hall
  rw [Level.names, columns_of_isStar hreads.star, Sql.Semantics.names_passed, hall]
  exact hfirst

end Level.Reads

theorem Level.sourceColumns_setWindows (level : Level) (windows : Windows) :
    (level.setWindows windows).sourceColumns = level.sourceColumns := by
  rw [setWindows_eq]

section Steps

variable {declared : TableName → List String → Prop} {target : Target} {stage next : Stage}

theorem Stage.reads_nested (h : stage.level.Reads declared) (hnested : stage.Nested target next) :
    next.level.Reads declared := by
  obtain @⟨order, label, -⟩ := hnested
  exact h.nested order label

theorem Stage.reads_acts (h : stage.level.Reads declared) {verb : Verb}
    (hacts : verb.Acts target stage next) : next.level.Reads declared := by
  cases hacts with
  | pick opened | filterRows opened | filterGroups opened | mutate opened | summarise opened
  | distinct opened | head opened => exact h.change opened rfl rfl rfl
  | @filterWindows predicate condition rest windows order label opened rows windowless lowered apart
      taken ordered =>
    have hbody := stage.level.body_setWindows windows
    have hwindows : (stage.level.setWindows windows).Reads declared :=
      h.change opened (by rw [hbody]) (by rw [hbody]) (stage.level.sourceColumns_setWindows windows)
    exact (hwindows.nested order label).change rfl rfl rfl rfl
  | groupBy | ungroup | arrange | windowOrder | windowFrame | collapse => exact h

theorem Join.offers_side (h : stage.level.Reads declared) (label : String) :
    Ensures (fun side ↦ side.1.Offers declared side.2 ∧ side.2 = stage.level.names)
      (Join.side target stage label) := by
  unfold Join.side
  split
  · rename_i hbare
    refine .pure ⟨?_, rfl⟩
    rw [Sql.Source.Offers]
    exact h.bareTable hbare
  · refine .bind (.trivial _) (fun order _ ↦ .pure ⟨?_, rfl⟩)
    rw [Sql.Source.Offers]
    exact h.toSelect order

/-- A join is written with a star only if neither side has a column. -/
theorem Join.reads_level {left right : Sql.Source × List String}
    (hleft : left.1.Offers declared left.2) (hright : right.1.Offers declared right.2)
    {keys : List (String × String)} (hkeys : ∀ key ∈ keys, key.1 ∈ left.2) (d : Dialect)
    (type : JoinType) (suffixes : String × String) :
    (Join.level d type keys suffixes left right).Reads declared := by
  -- A star stands for the columns of the source, so with none of these the level has no columns.
  have hempty {pairs : List (String × Sql.Expr)} {level : Level}
      (hsource : level.sourceColumns = []) (hcolumns : level.columns = Bindings.ofPairs pairs)
      (hstar : level.isStar = true) : pairs = [] := by
    have hnames := Bindings.names_ofPairs pairs
    rw [← hcolumns, Level.columns_of_isStar hstar, hsource] at hnames
    have hnone (pair : String × Sql.Expr) (hpair : pair ∈ pairs) : False := by
      have hmem := mem_dedup.2 (List.mem_map_of_mem (f := Prod.fst) hpair)
      rw [← hnames] at hmem
      cases hmem
    exact List.eq_nil_iff_forall_not_mem.2 hnone
  have htest (negated : Bool) :
      (semiLevel d negated left.1 right.1 left.2 keys).Reads declared := by
    refine ⟨left.2, ⟨left.2, [], hleft, ?_, (List.append_nil _).symm⟩, ?_⟩
    · change Sql.JoinsOffer declared [] []
      rw [Sql.JoinsOffer]
    · rintro (hopen | hstar)
      · cases hopen
      · have hnone := hempty rfl rfl hstar
        exact List.map_eq_nil_iff.1 hnone
  have hboth (kind : Sql.JoinKind) : (fullLevel kind left.1 right.1 keys
      (Join.columns type keys suffixes left.2 right.2)).Reads declared := by
    refine ⟨left.2 ++ right.2, ⟨left.2, right.2, hleft, ?_, rfl⟩, ?_⟩
    · change Sql.JoinsOffer declared [⟨kind, right.1, condition keys⟩] right.2
      rw [Sql.JoinsOffer]
      exact ⟨right.2, [], hright, by rw [Sql.JoinsOffer], (List.append_nil _).symm⟩
    · rintro (hopen | hstar)
      · cases hopen
      · have hnone := hempty rfl rfl hstar
        rw [List.append_eq_nil_iff, List.map_eq_nil_iff, List.map_eq_nil_iff] at hnone
        obtain ⟨hleftNone, hkept⟩ := hnone
        have hkeysNone : keys = [] := by
          apply List.eq_nil_iff_forall_not_mem.2
          intro key hkey
          have hmem := hkeys key hkey
          rw [hleftNone] at hmem
          cases hmem
        have hrightNone : right.2 = [] := by simpa [rightKept, hkeysNone] using hkept
        rw [hleftNone, hrightNone]
        rfl
  cases type with
  | semi => exact htest false
  | anti => exact htest true
  | inner | left | right | full => exact hboth _

theorem Stage.reads_joined {left right : Stage} (hleft : left.level.Reads declared)
    (hright : right.level.Reads declared) {type : JoinType} {keys : List (String × String)}
    {suffixes : String × String}
    (hjoined : Stage.Joined target type keys suffixes left right next) :
    next.level.Reads declared := by
  obtain ⟨hknown, hleftMade, hrightMade⟩ := hjoined
  obtain ⟨hleftOffers, hleftNames⟩ := (Join.offers_side hleft _).of_yields hleftMade
  obtain ⟨hrightOffers, -⟩ := (Join.offers_side hright _).of_yields hrightMade
  apply Join.reads_level hleftOffers hrightOffers
  intro key hkey
  rw [hleftNames]
  exact (Join.keys_known hknown key hkey).1

end Steps

/-- Every stage of a plan reads the columns that its source has. -/
theorem Plan.build_reads (target : Target) (declared : TableName → List String → Prop)
    (plan : Plan) :
    Ensures (fun stage ↦ (∀ entry ∈ plan.tables, declared (.ofText entry.1) entry.2) →
      stage.level.Reads declared) (plan.build target) := by
  apply Plan.build_ensures fun plan stage ↦
    (∀ entry ∈ plan.tables, declared (.ofText entry.1) entry.2) → stage.level.Reads declared
  · intro name columns hdeclared
    apply Level.Reads.ofSource
    rw [Sql.Source.Offers]
    exact hdeclared (name, columns) (List.mem_singleton_self _)
  · intro plan stage next h hnested hdeclared
    exact Stage.reads_nested (h hdeclared) hnested
  · intro plan verb stage next h hacts hdeclared
    exact Stage.reads_acts (h hdeclared) hacts
  · intro left right type keys suffixes leftStage rightStage next hleft hright hjoined hdeclared
    obtain ⟨hdeclaredLeft, hdeclaredRight⟩ := List.forall_mem_append.1 hdeclared
    exact Stage.reads_joined (hleft hdeclaredLeft) (hright hdeclaredRight) hjoined

/-! ## Schemas, verb by verb -/

namespace Schema

/-- Writes columns: in place if they are there, at the end otherwise. -/
def write (schema : Schema) (names : List String) : Schema :=
  { schema with
    columns := names.foldl
      (fun columns name ↦ if name ∈ columns then columns else columns ++ [name]) schema.columns }

/-- Picks columns under new names, given as pairs of new and old name. If the rest is not kept,
visible groups that are not listed stay in front. Groups get new names too. -/
def pick (schema : Schema) (columns : List (String × String)) (keepRest : Bool) : Schema :=
  let renamed (name : String) := (Stage.newName? columns name).getD name
  let unlisted := schema.groups.filter (fun group ↦
    (Stage.newName? columns group).isNone && schema.columns.contains group)
  { columns :=
      dedup (if keepRest then schema.columns.map renamed else unlisted ++ columns.map Prod.fst)
    groups := schema.groups.map renamed }

/-- One row for each group: the groups, and then the summaries. -/
def summarise (schema : Schema) (names : List String) : Schema where
  columns := dedup (schema.groups ++ names)
  groups := schema.groups.dropLast

/-- The left columns, and then the right ones that are no keys. A column that is no key gets the
suffix of its side if the other side has the name too; right keys do not count for that. -/
def join (type : JoinType) (keys : List (String × String)) (suffixes : String × String)
    (left right : Schema) : Schema :=
  let kept := right.columns.filter (fun name ↦ !(keys.map Prod.snd).contains name)
  let leftName (name : String) :=
    if !(keys.map Prod.fst).contains name && kept.contains name then name ++ suffixes.1 else name
  let rightName (name : String) :=
    if left.columns.contains name then name ++ suffixes.2 else name
  { left with
    columns :=
      if type.isTest then left.columns
      else dedup (left.columns.map leftName ++ kept.map rightName) }

end Schema

/-- The names of the columns and groups of a query. -/
def Query.schema : Query → Schema
  | .table _ columns => ⟨dedup columns, []⟩
  | .pick parent columns keepRest => parent.schema.pick columns keepRest
  | .mutate parent columns => parent.schema.write (columns.map Prod.fst)
  | .summarise parent columns => parent.schema.summarise (columns.map Prod.fst)
  | .groupBy parent columns => { parent.schema with groups := columns }
  | .ungroup parent => { parent.schema with groups := [] }
  | .join left right type keys suffixes => .join type keys suffixes left.schema right.schema
  | .filter parent _ | .arrange parent _ | .distinct parent | .head parent _
  | .windowOrder parent _ | .windowFrame parent _ | .collapse parent => parent.schema

theorem dedup_concat (items : List String) (name : String) :
    dedup (items ++ [name]) = if name ∈ items then dedup items else dedup items ++ [name] := by
  have hcontains : (dedup items).contains name = true ↔ name ∈ items := by
    rw [List.contains_iff_mem, mem_dedup]
  calc dedup (items ++ [name])
      = if (dedup items).contains name then dedup items else dedup items ++ [name] := by
        rw [dedup, List.foldl_append]
        rfl
    _ = if name ∈ items then dedup items else dedup items ++ [name] := by simp only [hcontains]

theorem dedup_append_dedup (items more : List String) :
    dedup (items ++ dedup more) = dedup (items ++ more) := by
  induction more using List.reverseRecOn with
  | nil => rfl
  | append_singleton more name ih =>
    rw [dedup_concat more name, ← List.append_assoc, dedup_concat (items ++ more) name]
    split
    · rename_i hmem
      rw [ih, if_pos (List.mem_append_right items hmem)]
    · rw [← List.append_assoc, dedup_concat, ih]
      simp only [List.mem_append, mem_dedup]

theorem Join.names_columns (type : JoinType) (keys : List (String × String))
    (suffixes : String × String) (left right : Schema) (h : type.isTest = false) :
    (Join.columns type keys suffixes left.columns right.columns).names =
      (Schema.join type keys suffixes left right).columns := by
  have hkey (name : String) : (keys.find? (fun key ↦ key.1 = name)).isNone =
      !(keys.map Prod.fst).contains name := by
    rw [Bool.eq_iff_iff]
    simp only [Option.isNone_iff_eq_none, List.find?_eq_none, decide_eq_true_eq, Bool.not_eq_true',
      Bool.eq_false_iff, ne_eq, List.contains_iff_mem, List.mem_map, not_exists, not_and]
  rw [Join.columns, Bindings.names_ofPairs, List.map_append, List.map_map, List.map_map]
  simp only [Schema.join, h, Function.comp_def, leftOutput, rightOutput, hkey, rightKept]
  rfl

theorem Plan.outline_andAll (plan : Plan) (verbs : List Verb) :
    (plan.andAll verbs).outline = verbs.foldl Verb.outline plan.outline := by
  induction verbs generalizing plan with
  | nil => rfl
  | cons verb later ih => exact ih (plan.andThen verb)

/-- Both ways of reading the verbs give the same names. -/
theorem Query.outline_plan (query : Query) :
    query.plan.outline.columns = query.schema.columns ∧
      query.plan.outline.groups = query.schema.groups := by
  induction query with
  | table name columns => exact ⟨rfl, rfl⟩
  | pick parent columns keepRest ih =>
    simp only [plan, Plan.outline, Verb.outline, schema, Schema.pick, ih.1, ih.2, and_self]
  | filter parent predicates ih =>
    -- The plan has one verb for each predicate, and none of them changes a name.
    have hkept (o : Outline) : ((predicates.map Verb.filter).foldl Verb.outline o).columns =
        o.columns ∧ ((predicates.map Verb.filter).foldl Verb.outline o).groups = o.groups := by
      induction predicates generalizing o with
      | nil => exact ⟨rfl, rfl⟩
      | cons predicate later ihlater => exact ihlater _
    rw [plan, Plan.outline_andAll, (hkept _).1, (hkept _).2]
    exact ih
  | mutate parent columns ih =>
    have hwritten (o : Outline) :
        ((columns.map fun column ↦ Verb.mutate column.1 column.2).foldl Verb.outline o).columns =
          (Schema.write ⟨o.columns, o.groups⟩ (columns.map Prod.fst)).columns ∧
        ((columns.map fun column ↦ Verb.mutate column.1 column.2).foldl Verb.outline o).groups =
          o.groups := by
      induction columns generalizing o with
      | nil => exact ⟨rfl, rfl⟩
      | cons column later ihlater => exact ihlater _
    rw [plan, Plan.outline_andAll, (hwritten _).1, (hwritten _).2, ih.1, ih.2]
    exact ⟨rfl, rfl⟩
  | summarise parent columns ih =>
    simp only [plan, Plan.outline, Verb.outline, schema, Schema.summarise, ih.2,
      dedup_append_dedup, and_self]
  | groupBy parent columns ih => exact ⟨ih.1, rfl⟩
  | ungroup parent ih => exact ⟨ih.1, rfl⟩
  | join left right type keys suffixes ihleft ihright =>
    refine ⟨?_, ihleft.2⟩
    simp only [plan, Plan.outline, Outline.join, schema, ihleft.1, ihright.1]
    split
    · rename_i htest
      simp only [Schema.join, htest, if_true]
    · rename_i hboth
      exact Join.names_columns type keys suffixes _ _ (by simpa using hboth)
  | arrange | distinct | head | windowOrder | windowFrame | collapse => assumption

/-! ## The schema of the compiled statement -/

/-- The table occurs in the query with these columns. -/
def Query.Declares (query : Query) (table : TableName) (columns : List String) : Prop :=
  ∃ entry ∈ query.plan.tables, table = .ofText entry.1 ∧ columns = entry.2

theorem Query.toSelect_outputs (target : Target) (query : Query) :
    Ensures (fun result ↦ result.2 = query.schema.columns ∧
      ∀ declared : TableName → List String → Prop,
        (∀ entry ∈ query.plan.tables, declared (.ofText entry.1) entry.2) →
          Sql.Outputs declared result.1 query.schema.columns) (query.toSelect target) := by
  have hreads : Ensures (fun stage ↦ ∀ declared : TableName → List String → Prop,
      (∀ entry ∈ query.plan.tables, declared (.ofText entry.1) entry.2) →
        stage.level.Reads declared) (query.plan.build target) := by
    intro progress stage progress' hstage declared
    exact query.plan.build_reads target declared progress stage progress' hstage
  rw [Query.toSelect, Query.build_eq_plan]
  refine .bind ((query.plan.build_follows target).and hreads) ?_
  rintro stage ⟨hfollows, hlevel⟩
  have hnames : stage.level.names = query.schema.columns :=
    hfollows.names.trans query.outline_plan.1
  refine .bind (.trivial _) (fun order _ ↦ .pure ⟨hnames, ?_⟩)
  intro declared hdeclared
  rw [← hnames]
  exact (hlevel declared hdeclared).toSelect order

/-- The schema depends on the verbs alone. The output columns of the statement that a query is
compiled to are those that its verbs give, one after the other and on names only; each table has the
columns that are declared where it occurs. So they are the same for every dialect, for strict
translation and for all local bindings with which the query compiles, and they are the columns of
the query over a temporary table with its rows. -/
theorem Query.output_schema {target : Target} {query : Query} {compiled : Compiled}
    (h : query.compile target = .ok compiled) :
    (∃ select progress,
      (query.toSelect target).run {} = .ok ((select, compiled.columns), progress) ∧
        compiled.sql = select.render target.dialect ∧
          Sql.Outputs query.Declares select query.schema.columns ∧
            ∀ tables : TableName → List String,
              (∀ entry ∈ query.plan.tables, tables (.ofText entry.1) = entry.2) →
                Sql.outputsOf tables select = query.schema.columns) ∧
      compiled.columns = query.schema.columns ∧
      (∀ other compiled', query.compile other = .ok compiled' →
        compiled'.columns = compiled.columns) ∧
      ∀ (m : Type → Type) [Monad m] (ρ : Type) (executor : Executor m ρ) (name : String),
        query.compute executor target name = (do
          return match ← executor.execute (target.dialect.temporaryTable name compiled.sql) with
            | .ok () => .ok (.table (target.dialect.temporaryTableName name) query.schema.columns)
            | .error reason => .error (.executor reason)) := by
  have hcolumns {other : Target} {compiled' : Compiled}
      (h' : query.compile other = .ok compiled') : compiled'.columns = query.schema.columns := by
    obtain ⟨⟨⟨select, columns⟩, progress⟩, hselect, hcompiled⟩ := bind_eq_ok.1 h'
    cases hcompiled
    exact (query.toSelect_outputs other {} _ progress hselect).1
  refine ⟨?_, hcolumns h, fun other compiled' h' ↦ (hcolumns h').trans (hcolumns h).symm, ?_⟩
  · obtain ⟨⟨⟨select, columns⟩, progress⟩, hselect, hcompiled⟩ := bind_eq_ok.1 h
    cases hcompiled
    obtain ⟨-, houtputs⟩ := query.toSelect_outputs target {} _ progress hselect
    refine ⟨select, progress, hselect, rfl, ?_, ?_⟩
    · exact houtputs query.Declares (fun entry hentry ↦ ⟨entry, hentry, rfl, rfl⟩)
    · intro tables htables
      exact Sql.outputsOf_of_outputs (houtputs _ htables)
  · intro m _ ρ executor name
    rw [Query.compute, h, ← hcolumns h]
    rfl

/-- Sales above the average, beside the customers and with the share of their limits. Both sides of
the join have amounts, and the window of the condition is a column that is hidden again. -/
def limitShares : Query :=
  let average := Host.Expr.call "mean" [.symbol "amount"] []
  let large := (Query.table "sales" ["id", "customer", "amount"]).filter
    [.call ">" [.symbol "amount", average] []]
  let named := Query.join large (.table "customers" ["id", "name", "amount"]) .left
    [("customer", "id")] Query.defaultSuffixes
  named.mutate [("share", .call "/" [.symbol "amount.x", .symbol "amount.y"] [])]

def limitShares.target : Target where
  dialect := .ansi
  now := ⟨⟨2000, 1, 1⟩, 0, 0, 0⟩

def limitShares.tables (table : TableName) : List String :=
  if table.name = "sales" then ["id", "customer", "amount"] else ["id", "name", "amount"]

open limitShares in
theorem Query.output_schema_limitShares :
    ∃ compiled select progress, limitShares.compile target = .ok compiled ∧
      (limitShares.toSelect target).run {} = .ok ((select, compiled.columns), progress) ∧
        Sql.outputsOf tables select =
          ["id", "customer", "amount.x", "name", "amount.y", "share"] ∧
        compiled.columns = ["id", "customer", "amount.x", "name", "amount.y", "share"] := by
  have hok : (limitShares.compile target).isOk = true := by decide +kernel
  obtain ⟨compiled, hcompiled⟩ : ∃ compiled, limitShares.compile target = .ok compiled := by
    cases h : limitShares.compile target with
    | ok compiled => exact ⟨compiled, rfl⟩
    | error e => simp [h, Except.isOk, Except.toBool] at hok
  have hschema : limitShares.schema.columns =
      ["id", "customer", "amount.x", "name", "amount.y", "share"] := by decide +kernel
  have htables : ∀ entry ∈ limitShares.plan.tables, tables (.ofText entry.1) = entry.2 := by
    decide +kernel
  obtain ⟨⟨select, progress, hselect, -, -, houtputs⟩, hcolumns, -⟩ := Query.output_schema hcompiled
  exact ⟨compiled, select, progress, hcompiled, hselect, (houtputs tables htables).trans hschema,
    hcolumns.trans hschema⟩

end SqlVerbs
