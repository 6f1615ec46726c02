import Mathlib.Data.List.TakeWhile
import SqlVerbs.Proofs.Query.Having
import SqlVerbs.Proofs.Query.Schemas

/-!
# Reading temporary tables back

A query that is stored in a temporary table is read on from there. The statement that stores it
writes the name of the table as one identifier, but a name to read from is split at its first dot
into a schema and a table. So exactly the names without a dot are found again; the columns always
are.
-/

namespace SqlVerbs

open Compile (Ensures)
open Sql (TableName)

/-! ## Names with a dot -/

theorem Dialect.doubling_append (test : Char → Bool) (chars more : List Char) :
    doubling test (chars ++ more) = doubling test chars ++ doubling test more := by
  induction chars with
  | nil => rfl
  | cons c rest ih =>
    simp only [List.cons_append, doubling, ih]
    split <;> rfl

/-- Two quotes more stand around two identifiers than around one, even if the dot is a quote. -/
theorem Dialect.length_identifierChars_append (d : Dialect) (schema table : List Char) :
    (d.identifierChars (schema ++ '.' :: table)).length <
      (d.identifierChars schema ++ '.' :: d.identifierChars table).length := by
  have hdot : (doubling (· = d.identifierClose) ('.' :: table)).length ≤
      (doubling (· = d.identifierClose) table).length + 2 := by
    rw [doubling]
    split <;> simp
  simp only [identifierChars, doubling_append, List.length_cons, List.length_append,
    List.length_nil]
  omega

namespace Sql.TableName

theorem ofText_of_notMem {text : String} (h : '.' ∉ text.toList) : ofText text = ⟨none, text⟩ := by
  have hrest : text.toList.dropWhile (· ≠ '.') = [] := by
    rw [List.dropWhile_eq_nil_iff]
    intro c hc
    simpa using ne_of_mem_of_not_mem hc h
  rw [ofText, hrest]

/-- A name is split at its first dot. -/
theorem ofText_append {schema : List Char} (h : '.' ∉ schema) (table : List Char) :
    ofText (String.ofList (schema ++ '.' :: table)) =
      ⟨some (String.ofList schema), String.ofList table⟩ := by
  have hschema : ∀ c ∈ schema, decide (c ≠ '.') = true := by
    intro c hc
    simpa using ne_of_mem_of_not_mem hc h
  have htake : (schema ++ '.' :: table).takeWhile (· ≠ '.') = schema := by
    rw [List.takeWhile_append_of_pos hschema]
    simp
  have hdrop : (schema ++ '.' :: table).dropWhile (· ≠ '.') = '.' :: table := by
    rw [List.dropWhile_append_of_pos hschema]
    simp
  rw [ofText, String.toList_ofList, hdrop, htake]

/-- A name is read as one identifier if and only if it has no dot. -/
theorem render_ofText_eq_iff (d : Dialect) (text : String) :
    (ofText text).render d = d.quoteIdentifier text ↔ '.' ∉ text.toList := by
  constructor
  · intro hrender hdot
    obtain ⟨schema, table, hsplit, hschema⟩ := List.eq_append_cons_of_mem hdot
    have htext : text = String.ofList (schema ++ '.' :: table) := by
      rw [← hsplit, String.ofList_toList]
    rw [htext, ofText_append hschema, ← String.toList_inj] at hrender
    have hlength := d.length_identifierChars_append schema table
    have hchars := congrArg List.length hrender
    simp [render, Dialect.quoteIdentifier] at hchars hlength
    omega
  · intro hdot
    rw [ofText_of_notMem hdot, render]
    simp

end Sql.TableName

theorem Dialect.dot_mem_temporaryTableName (d : Dialect) (name : String) :
    '.' ∈ (d.temporaryTableName name).toList ↔ '.' ∈ name.toList := by
  unfold temporaryTableName
  split
  · rfl
  · simp

/-! ## The query over a table -/

theorem Query.nodup_schema (query : Query) (target : Target) :
    Ensures (fun result ↦ result.2.Nodup) (query.toSelect target) := by
  rw [toSelect, build_eq_plan]
  refine .bind (query.plan.build_follows target) fun stage hfollows ↦ ?_
  exact .bind (.trivial _) fun order _ ↦ .pure hfollows.nodup

/-- A query over a table reads everything from it. -/
theorem Query.toSelect_table {columns : List String} (h : columns.Nodup) (name : String)
    (target : Target) :
    ((table name columns).toSelect target).run {} =
      .ok (({ source := .table (.ofText name) none }, columns), {}) := by
  have hstar := Level.selectList_ofSource h (.table (.ofText name) none)
  have hnames := @Level.names_ofSource_of_nodup (.table (.ofText name) none) _ h
  change Except.ok (((Level.ofSource (.table (.ofText name) none) columns).toSelect [],
    (Level.ofSource (.table (.ofText name) none) columns).names), ({} : Progress)) = _
  rw [Level.toSelect, hstar, hnames]
  rfl

theorem Sql.render_table (d : Dialect) (table : TableName) :
    SelectFrom.render d { source := .table table none } = "SELECT *\nFROM " ++ table.render d := by
  have htop : topText d none = "" := by
    unfold topText
    cases d.limitStyle <;> rfl
  have hlimit : limitText d none = "" := by
    unfold limitText
    cases d.limitStyle <;> rfl
  calc SelectFrom.render d { source := .table table none }
    _ = "SELECT " ++ "" ++ topText d none ++ "*" ++ "\nFROM " ++ (table.render d ++ "") ++ "" ++
          "" ++ "" ++ "" ++ "" ++ limitText d none := by
      delta SelectFrom.render
      rw [renderSelect, Source.render, renderJoins]
      delta selectText
      rfl
    _ = "SELECT " ++ "*" ++ "\nFROM " ++ table.render d := by
      simp only [htop, hlimit, String.append_empty]
    _ = "SELECT *\nFROM " ++ table.render d := rfl

theorem Query.compile_table {columns : List String} (h : columns.Nodup) (name : String)
    (target : Target) :
    (table name columns).compile target =
      .ok ⟨"SELECT *\nFROM " ++ (TableName.ofText name).render target.dialect, [], columns⟩ := by
  rw [← Sql.render_table]
  exact bind_eq_ok.2 ⟨_, toSelect_table h name target, rfl⟩

/-! ## Storing and reading -/

/-- The statement stores the rows of a query in the table that is written so. -/
def Dialect.StoresIn (d : Dialect) (table select statement : String) : Prop :=
  match d.tempTable with
  | .createAs => statement = "CREATE TEMPORARY TABLE " ++ table ++ " AS\n" ++ select
  | .selectInto =>
    statement = "SELECT * INTO " ++ table ++ " FROM (\n" ++ Text.indent select ++ "\n) AS " ++
      d.quoteIdentifier "q01"

theorem Dialect.storesIn_temporaryTable (d : Dialect) (name select : String) :
    d.StoresIn (d.quoteIdentifier (d.temporaryTableName name)) select
      (d.temporaryTable name select) := by
  unfold StoresIn temporaryTable
  cases d.tempTable with
  | createAs => rfl
  | selectInto => rfl

/-- A temporary table is read back if and only if its name has no dot. Whoever runs the statement
that stores a query, and if it succeeds, the query over the table is one and the same. It has the
output columns of the statement that was stored, and for the dialect it is compiled to a statement
that reads everything from one table. That is the table which was stored exactly if the name that
was asked for has no dot. -/
theorem Query.compute_reads_back_iff {target : Target} {query : Query} {compiled : Compiled}
    (h : query.compile target = .ok compiled) (name : String) :
    ∃ (stored : Query) (written : String),
      target.dialect.StoresIn written compiled.sql
        (target.dialect.temporaryTable name compiled.sql) ∧
      (∀ (m : Type → Type) [Monad m] (ρ : Type) (executor : Executor m ρ),
        query.compute executor target name = (do
          return match ← executor.execute (target.dialect.temporaryTable name compiled.sql) with
            | .ok () => .ok stored
            | .error reason => .error (.executor reason))) ∧
      (∃ select progress,
        (query.toSelect target).run {} = .ok ((select, compiled.columns), progress) ∧
          compiled.sql = select.render target.dialect ∧
            Sql.Outputs query.Declares select compiled.columns) ∧
      ∀ other : Target, other.dialect = target.dialect →
        ∃ table : TableName,
          (stored.toSelect other).run {} =
            .ok (({ source := .table table none }, compiled.columns), {}) ∧
          stored.compile other =
            .ok ⟨"SELECT *\nFROM " ++ table.render target.dialect, [], compiled.columns⟩ ∧
          (table.render target.dialect = written ↔ '.' ∉ name.toList) := by
  obtain ⟨⟨⟨select, columns⟩, progress⟩, hselect, hcompiled⟩ := bind_eq_ok.1 h
  cases hcompiled
  have hnodup : columns.Nodup := query.nodup_schema target {} _ progress hselect
  obtain ⟨hcolumns, houtputs⟩ := query.toSelect_outputs target {} _ progress hselect
  refine ⟨ofTemporary target.dialect name columns, _,
    target.dialect.storesIn_temporaryTable name _, ?_, ⟨select, progress, hselect, rfl, ?_⟩, ?_⟩
  · intro m _ ρ executor
    unfold compute
    generalize query.compile target = outcome at h
    subst h
    rfl
  · have hcolumns' : columns = query.schema.columns := hcolumns
    rw [hcolumns']
    exact houtputs query.Declares fun entry hentry ↦ ⟨entry, hentry, rfl, rfl⟩
  · intro other hdialect
    refine ⟨.ofText (target.dialect.temporaryTableName name), toSelect_table hnodup _ other, ?_, ?_⟩
    · rw [← hdialect]
      exact compile_table hnodup _ other
    · rw [TableName.render_ofText_eq_iff, target.dialect.dot_mem_temporaryTableName]

/-- The sales of each day. -/
def dailySales : Query :=
  ((Query.table "sales" ["day", "amount"]).groupBy ["day"]).summarise
    [("total", .call "sum" [.symbol "amount"] [])]

def dailySales.target : Target where
  dialect := .mssql
  now := ⟨⟨2000, 1, 1⟩, 0, 0, 0⟩

open dailySales in
theorem Query.compute_reads_back_iff_dailySales :
    ∃ compiled, dailySales.compile target = .ok compiled ∧
      ∃ (stored : Query) (written : String) (table : TableName),
        target.dialect.StoresIn written compiled.sql
          (target.dialect.temporaryTable "per.day" compiled.sql) ∧
        (dailySales.compute (m := Id) ⟨fun _ ↦ .ok (), fun _ ↦ .ok ()⟩ target "per.day" =
          .ok stored) ∧
        stored.compile target =
          .ok ⟨"SELECT *\nFROM " ++ table.render .mssql, [], compiled.columns⟩ ∧
        table.render .mssql ≠ written := by
  obtain ⟨compiled, hcompiled⟩ : ∃ compiled, dailySales.compile target = .ok compiled := ⟨_, rfl⟩
  obtain ⟨stored, written, hwritten, hstored, -, hread⟩ :=
    Query.compute_reads_back_iff hcompiled "per.day"
  obtain ⟨table, -, hcompiles, hiff⟩ := hread target rfl
  refine ⟨compiled, hcompiled, stored, written, table, hwritten, ?_, hcompiles, fun hsame ↦ ?_⟩
  · exact hstored Id Unit ⟨fun _ ↦ .ok (), fun _ ↦ .ok ()⟩
  · exact absurd (hiff.1 hsame) (by decide)

end SqlVerbs
