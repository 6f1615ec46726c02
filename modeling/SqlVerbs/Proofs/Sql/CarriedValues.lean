import SqlVerbs.Proofs.Sql.Engine

/-!
# Values that rows carry over

A row of one statement takes values over from a row of another one if it was made of it: the
statement keeps some of the rows, in another order or under other names, or it joins them with
others. This holds under every engine that sorts, drops repeated rows and joins as SQL says.
-/

namespace SqlVerbs.Sql

namespace Expr

/-- The operands of a call. -/
def operands : Expr → List Expr
  | .withinGroup fn order => fn.operands ++ order
  | e => e.children

/-- What has to have a value in every row, before the expression has one: what is right below it,
but the operands of a call in place of the call if it opens a window. -/
def ranges : Expr → List Expr
  | .window fn partition order _ => fn.operands ++ partition ++ order
  | e => e.children

end Expr

namespace Engine

variable {V : Type}

/-- Where the rows of a join come from. The labels of the two sides differ. -/
structure Joins (E : Engine V) (null : V) (kind : JoinKind) (first second : String)
    (left right : List (Row V)) (env : Env V) : Prop where
  left : (∃ row ∈ left, ∀ name, env (some first) name = row name) ∨
    (kind = .right ∨ kind = .full) ∧ ∀ name, env (some first) name = null
  right : (∃ row ∈ right, ∀ name, env (some second) name = row name) ∨
    (kind = .left ∨ kind = .full) ∧ ∀ name, env (some second) name = null

/-- The engine sorts, drops repeated rows, groups and joins as SQL says. -/
structure IsLawful (E : Engine V) (null : V) : Prop where
  sort : ∀ order units rows, (E.sort order units rows).Perm rows
  distinct : ∀ rows, ∀ row ∈ E.distinct rows, row ∈ rows
  /-- Only an aggregate without a window, or text that is not read here, makes one group of all
  rows. -/
  summarises : ∀ e, E.summarises e = true →
    E.isCall e = true ∨ (∃ text, e = .raw text) ∨ ∃ c ∈ e.ranges, E.summarises c = true
  coalesce : E.isAggregate "COALESCE" = false
  /-- The first of two values, unless it is null. -/
  coalesced : ∀ first second,
    let value := E.operate (.call "COALESCE" [.star, .star]) [first, second]
    first ≠ null ∧ value = first ∨ first = null ∧ value = second
  join : ∀ kind on first second left right env, first ≠ second →
    env ∈ E.join kind on (left.map (E.labelled (some first)))
      (right.map (E.labelled (some second))) →
        E.Joins null kind first second left right env

theorem IsLawful.summarises_identifier {E : Engine V} {null : V} (hE : E.IsLawful null)
    (qualifier : Option String) (name : String) :
    E.summarises (.identifier qualifier name) = false := by
  rw [Bool.eq_false_iff]
  intro hsummarises
  rcases hE.summarises _ hsummarises with hcall | ⟨text, htext⟩ | ⟨c, hc, -⟩
  · cases hcall
  · cases htext
  · cases hc

/-! ## Rows by their places -/

section Units

variable (E : Engine V) {σ : Type}

/-- The groups of the rows that are kept, or these rows taken for groups of one. -/
def unitsOf (grouped : Bool) (filters groups having : List Expr) (rows : List (Env V)) :
    List (List (Env V)) :=
  let kept := rows.filter fun env ↦ filters.all fun e ↦ E.holds (E.inRow env e)
  if grouped then
    (E.groupsOf groups kept).filter fun group ↦ having.all fun e ↦ E.holds (E.inGroup group e)
  else kept.map fun env ↦ [env]

/-- What the output rows of a statement are made of, over the rows of its `FROM` clause. -/
def units (select : SelectFrom σ) (rows : List (Env V)) : List (List (Env V)) :=
  E.unitsOf (E.isGrouped select) select.filters select.groups select.having rows

/-- Under more conditions there is nothing more. More conditions on rows change the groups. -/
theorem mem_unitsOf_of_narrowed {grouped : Bool}
    {filters filters' groups having having' : List Expr} {rows : List (Env V)} {unit : List (Env V)} (hfilters : grouped = true → filters' = [])
    (h : unit ∈ E.unitsOf grouped (filters ++ filters') groups (having ++ having') rows) :
    unit ∈ E.unitsOf grouped filters groups having rows := by
  cases grouped with
  | true =>
    simp only [unitsOf, hfilters rfl, List.append_nil, if_true, List.mem_filter, List.all_append,
      Bool.and_eq_true] at h ⊢
    exact ⟨h.1, h.2.1⟩
  | false =>
    simp only [unitsOf, Bool.false_eq_true, if_false, List.mem_map, List.mem_filter,
      List.all_append, Bool.and_eq_true] at h ⊢
    obtain ⟨env, ⟨henv, hkept, -⟩, rfl⟩ := h
    exact ⟨env, ⟨henv, hkept⟩, rfl⟩

/-- The value of an expression for a group, or for a row taken for one. -/
def ofUnit (grouped : Bool) (unit : List (Env V)) : Expr → V :=
  if grouped then E.inGroup unit else E.inRow (unit.headD fun _ _ ↦ E.missing)

/-- The value of an expression in the row at a place. -/
def atPlace (grouped : Bool) (units : List (List (Env V))) (i : Nat) (unit : List (Env V))
    (e : Expr) : V :=
  if e.isWindowed then E.windowed e units i else E.ofUnit grouped unit e

theorem answer_eq (select : SelectFrom σ) (rows : List (Env V)) :
    E.answer select rows = E.finish select (E.units select rows)
      (E.project select.items (E.units select rows) (E.ofUnit (E.isGrouped select))) := by
  unfold answer units unitsOf ofUnit
  cases E.isGrouped select <;> rfl

theorem mem_project {items : SelectList} {units : List (List (Env V))} {grouped : Bool}
    {row : Row V} :
    row ∈ E.project items units (E.ofUnit grouped) ↔
      ∃ i unit, units[i]? = some unit ∧ row = E.output (E.atPlace grouped units i unit) items := by
  rw [project, List.mem_iff_getElem?]
  simp only [List.getElem?_mapIdx, Option.map_eq_some_iff]
  constructor
  · rintro ⟨i, unit, hunit, rfl⟩
    exact ⟨i, unit, hunit, rfl⟩
  · rintro ⟨i, unit, hunit, rfl⟩
    exact ⟨i, unit, hunit, rfl⟩

end Units

section Finish

variable {E : Engine V} {null : V} (hE : E.IsLawful null) {σ : Type}

include hE

theorem IsLawful.mem_of_mem_finish {select : SelectFrom σ} {units : List (List (Env V))}
    {rows : List (Row V)} {row : Row V} (h : row ∈ E.finish select units rows) : row ∈ rows := by
  have hdistinct : ∀ row ∈ if select.distinct then E.distinct rows else rows, row ∈ rows := by
    split
    · exact hE.distinct rows
    · exact fun row hrow ↦ hrow
  have hsorted (kept : List (Row V)) :
      ∀ row ∈ if select.order.isEmpty then kept else E.sort select.order units kept,
        row ∈ kept := by
    split
    · exact fun row hrow ↦ hrow
    · exact fun row hrow ↦ (hE.sort _ _ _).mem_iff.1 hrow
  unfold finish at h
  dsimp only at h
  split at h
  · exact hdistinct row (hsorted _ row (List.mem_of_mem_take h))
  · exact hdistinct row (hsorted _ row h)

/-- Without a limit and without dropping rows, every row is left. -/
theorem IsLawful.mem_finish {select : SelectFrom σ} (hdistinct : select.distinct = false)
    (hlimit : select.limit = none) {units : List (List (Env V))} {rows : List (Row V)}
    {row : Row V} (h : row ∈ rows) : row ∈ E.finish select units rows := by
  simp only [finish, hdistinct, hlimit, Bool.false_eq_true, if_false]
  split
  · exact h
  · exact (hE.sort _ _ _).mem_iff.2 h

/-- Without a limit, the order does not matter for which rows there are. -/
theorem IsLawful.mem_finish_iff {select select' : SelectFrom σ}
    (hdistinct : select'.distinct = select.distinct) (hlimit : select.limit = none)
    (hlimit' : select'.limit = none) {units : List (List (Env V))} {rows : List (Row V)}
    {row : Row V} : row ∈ E.finish select' units rows ↔ row ∈ E.finish select units rows := by
  have hsorted (order : List Expr) (kept : List (Row V)) :
      row ∈ (if order.isEmpty then kept else E.sort order units kept) ↔ row ∈ kept := by
    split
    · exact Iff.rfl
    · exact (hE.sort _ _ _).mem_iff
  simp only [finish, hdistinct, hlimit, hlimit', hsorted]

end Finish

/-! ## Columns that are carried over -/

section Carries

variable (E : Engine V) (tables : TableName → List (Row V))

/-- Every row of the second statement has, in the first column of each pair, the value that one row
of the first statement has in the second column. -/
def Carries (pairs : String → String → Prop) (before after : Select) : Prop :=
  ∀ row ∈ E.rows tables after, ∃ old ∈ E.rows tables before,
    ∀ name source, pairs name source → row name = old source

variable {E tables} {pairs pairs' : String → String → Prop} {first second third : Select}

theorem Carries.mono (h : E.Carries tables pairs first second)
    (hpairs : ∀ name source, pairs' name source → pairs name source) :
    E.Carries tables pairs' first second := by
  intro row hrow
  obtain ⟨old, hold, hvalues⟩ := h row hrow
  exact ⟨old, hold, fun name source hpair ↦ hvalues name source (hpairs name source hpair)⟩

theorem Carries.trans (h : E.Carries tables pairs first second)
    (h' : E.Carries tables pairs' second third) :
    E.Carries tables (fun name source ↦ ∃ between, pairs' name between ∧ pairs between source)
      first third := by
  intro row hrow
  obtain ⟨between, hbetween, hvalues'⟩ := h' row hrow
  obtain ⟨old, hold, hvalues⟩ := h between hbetween
  refine ⟨old, hold, ?_⟩
  rintro name source ⟨middle, hmiddle, hsource⟩
  exact (hvalues' name middle hmiddle).trans (hvalues middle source hsource)

end Carries

end Engine

end SqlVerbs.Sql
