import SqlVerbs.Proofs.Query.Having
import SqlVerbs.Proofs.Sql.CarriedValues

/-!
# Levels that are read as they are meant

An engine takes the rows of a statement for groups if the statement has keys or conditions for
groups, or an output column that makes all rows one group. The compiler means groups in summaries
only. Both agree at every level of a plan whose expressions do not make groups on their own, as some
text of the user's may.
-/

namespace SqlVerbs

open Compile (Ensures Yields)
open Sql (Engine)

variable {V : Type} (E : Engine V)

/-- The expression calls aggregates in windows only, and it has no text that is written as it is. -/
inductive Sql.Expr.IsRowwise : Sql.Expr → Prop
  | mk {e : Sql.Expr} (call : E.isCall e = false) (read : ∀ text, e ≠ .raw text)
    (window : e.isCalledWindow = true) (ranges : ∀ c ∈ e.ranges, c.IsRowwise) : IsRowwise e

/-- No expression of the verb makes all rows one group, but a summary has groups, and no windows. -/
def Verb.IsRowwise (target : Target) (o : Outline) (verb : Verb) : Prop :=
  match verb with
  | .filter e | .mutate _ e => ∀ residual lowered warnings,
    Local.partialEval (o.scope target []) e = .ok residual →
      Lowering.lower (o.context target true) residual = .ok (lowered, warnings) →
        lowered.IsRowwise E
  | .summarise _ => o.groups ≠ [] ∧ verb.hasPlainSummaries target.dialect = true
  | _ => True

/-- No expression of the plan makes all rows one group where it is not meant. -/
def Plan.IsRowwise (target : Target) : Plan → Prop
  | .table _ _ => True
  | .andThen parent verb => parent.IsRowwise target ∧ verb.IsRowwise E target parent.outline
  | .join left right _ _ _ => left.IsRowwise target ∧ right.IsRowwise target

/-- The rows of the level are groups exactly if it is a summary. No column of another level makes
all rows one group, and a summary has groups and no windows. -/
structure Level.IsRead (level : Level) : Prop where
  rows : level.summarised = false → ∀ entry ∈ level.columns, E.summarises entry.2 = false
  groups : level.summarised = true → level.body.groups ≠ [] ∧ level.hasWindows = false

variable {E} {null : V}

/-! ## Rowwise expressions -/

namespace Sql.Expr

theorem operands_inline {defs : String → Option Expr} {fn : Expr}
    (h : fn.isAggregateCall = true) :
    (fn.inline defs).operands = fn.operands.map (Expr.inline defs) := by
  induction fn using Expr.induction with
  | function name args distinct =>
    rw [inline, inlineAll_eq_map]
    rfl
  | withinGroup fn order ih =>
    calc ((Expr.withinGroup fn order).inline defs).operands
        = (fn.inline defs).operands ++ order.map (Expr.inline defs) := by
          rw [inline, operands, inlineAll_eq_map]
      _ = (Expr.withinGroup fn order).operands.map (Expr.inline defs) := by
        rw [ih h, operands, List.map_append]
  | _ => cases h

theorem ranges_inline {defs : String → Option Expr} {e : Expr}
    (hcolumn : ∀ name, e ≠ .identifier none name) (hwindow : e.isCalledWindow = true) :
    (e.inline defs).ranges = e.ranges.map (Expr.inline defs) := by
  cases e with
  | window fn partition order frame =>
    rw [inline, ranges, ranges, operands_inline hwindow, inlineAll_eq_map, inlineAll_eq_map,
      List.map_append, List.map_append]
  | identifier qualifier name =>
    cases qualifier with
    | none => exact absurd rfl (hcolumn name)
    | some qualifier => rfl
  | _ => exact children_inline hcolumn

/-- A window in a call is in one of its operands. -/
theorem mem_parts_operands {fn s : Expr} (h : fn.isAggregateCall = true) (hs : s ∈ fn.parts)
    (hwindow : s.isWindow = true) : ∃ c ∈ fn.operands, s ∈ c.parts := by
  induction fn using Expr.induction with
  | function name args distinct =>
    rw [parts_eq, List.mem_cons, List.mem_flatMap] at hs
    rcases hs with rfl | hs
    · cases hwindow
    · exact hs
  | withinGroup fn order ih =>
    rw [parts_eq, List.mem_cons, List.mem_flatMap] at hs
    rcases hs with rfl | ⟨c, hc, hs⟩
    · cases hwindow
    · rcases List.mem_cons.1 hc with rfl | hc
      · obtain ⟨c, hc, hs⟩ := ih h hs
        exact ⟨c, List.mem_append_left _ hc, hs⟩
      · exact ⟨c, List.mem_append_right _ hc, hs⟩
  | _ => cases h

theorem mem_parts_ranges {e s : Expr} (h : e.isCalledWindow = true) (hs : s ∈ e.parts)
    (hwindow : s.isWindow = true) : s = e ∨ ∃ c ∈ e.ranges, s ∈ c.parts := by
  rw [parts_eq, List.mem_cons, List.mem_flatMap] at hs
  apply hs.imp_right
  rintro ⟨c, hc, hpart⟩
  cases e with
  | window fn partition order frame =>
    rcases List.mem_cons.1 hc with rfl | hc
    · obtain ⟨operand, hoperand, hpart⟩ := mem_parts_operands h hpart hwindow
      exact ⟨operand, by simp [ranges, hoperand], hpart⟩
    · refine ⟨c, ?_, hpart⟩
      rw [ranges, List.append_assoc]
      exact List.mem_append_right _ hc
  | _ => exact ⟨c, hc, hpart⟩

namespace IsRowwise

theorem column (name : String) : (Expr.column name).IsRowwise E :=
  .mk rfl (by simp [Expr.column]) rfl (List.forall_mem_nil _)

theorem literal (value : Literal) : (Expr.literal value).IsRowwise E :=
  .mk rfl (by simp) rfl (List.forall_mem_nil _)

theorem binary {l r : Expr} (op : BinaryOp) (hl : l.IsRowwise E) (hr : r.IsRowwise E) :
    (Expr.binary l op r).IsRowwise E :=
  .mk rfl (by simp) rfl (by simp [ranges, children, hl, hr])

/-- Over columns that do not make all rows one group, a rowwise expression does not. -/
theorem summarises_inline (hE : E.IsLawful null) {defs : String → Option Expr}
    (hdefs : ∀ name definition, defs name = some definition → E.summarises definition = false)
    {e : Expr} (h : e.IsRowwise E) : E.summarises (e.inline defs) = false := by
  induction h with
  | @mk e call read window ranges ih =>
    by_cases hcolumn : ∃ name, e = .identifier none name
    · obtain ⟨name, rfl⟩ := hcolumn
      rw [inline]
      cases hdefinition : defs name with
      | none => exact hE.summarises_identifier none name
      | some definition => exact hdefs name definition hdefinition
    · have hnode : ∀ name, e ≠ .identifier none name := by simpa using hcolumn
      rw [Bool.eq_false_iff]
      intro hsummarises
      rcases hE.summarises _ hsummarises with hcall | ⟨text, htext⟩ | ⟨_, hmem, hsummarises⟩
      · rw [E.isCall_inline hnode, call] at hcall
        cases hcall
      · have hshape := @shape_inline defs e hnode
        rw [htext] at hshape
        cases e <;> simp_all [shape]
      · rw [ranges_inline hnode window] at hmem
        obtain ⟨c, hc, rfl⟩ := List.mem_map.1 hmem
        exact absurd ((ih c hc).symm.trans hsummarises) (by simp)

theorem of_window {e s : Expr} (h : e.IsRowwise E) (hs : s ∈ e.parts)
    (hwindow : s.isWindow = true) : s.IsRowwise E := by
  induction h with
  | @mk e call read window ranges ih =>
    rcases mem_parts_ranges window hs hwindow with rfl | ⟨c, hc, hpart⟩
    · exact .mk call read window ranges
    · exact ih c hc hpart

end IsRowwise

end Sql.Expr

/-! ## Changes to levels -/

theorem Level.IsRead.ofSource (hE : E.IsLawful null) (source : Sql.Source) (names : List String) :
    (Level.ofSource source names).IsRead E where
  rows := by
    intro _ entry hentry
    obtain ⟨name, -, rfl⟩ := mem_columns_ofSource hentry
    exact hE.summarises_identifier none name
  groups := nofun

theorem Level.IsRead.isGrouped {level : Level} (h : level.IsRead E) (hordinary : level.IsOrdinary)
    (order : List Sql.Expr) : E.isGrouped (level.toSelect order) = level.summarised := by
  change (!level.body.groups.isEmpty || !level.body.having.isEmpty ||
    level.selectList.exprs.any E.summarises) = level.summarised
  cases hsummarised : level.summarised with
  | true =>
    obtain ⟨hgroups, -⟩ := h.groups hsummarised
    simp [hgroups]
  | false =>
    have hitems : level.selectList.exprs.any E.summarises = false := by
      rw [List.any_eq_false, Level.selectList]
      split
      · exact List.forall_mem_nil _
      · rw [Sql.SelectList.exprs, List.map_map, List.forall_mem_map]
        intro entry hentry
        rw [Function.comp_apply, (Sql.outputName?_named entry.2 entry.1).2]
        simpa using h.rows hsummarised entry hentry
    rw [hordinary.groups hsummarised, hordinary.having hsummarised, hitems]
    rfl

/-- Nothing but definitions that were there before. -/
theorem Level.IsRead.of_definitions {level next : Level} (h : level.IsRead E)
    (hsummarised : next.summarised = level.summarised)
    (hgroups : next.body.groups = level.body.groups)
    (hcolumns : ∀ entry ∈ next.columns, ∃ old ∈ level.columns, old.2 = entry.2) :
    next.IsRead E where
  rows := by
    intro hrows entry hentry
    obtain ⟨old, hold, heq⟩ := hcolumns entry hentry
    rw [← heq]
    exact h.rows (hsummarised ▸ hrows) old hold
  groups := by
    intro hgrouped
    obtain ⟨hkeys, hwindows⟩ := h.groups (hsummarised ▸ hgrouped)
    refine ⟨hgroups ▸ hkeys, ?_⟩
    rw [hasWindows, Bindings.values, List.any_map, List.any_eq_false] at hwindows ⊢
    intro entry hentry
    obtain ⟨old, hold, heq⟩ := hcolumns entry hentry
    simpa [heq] using hwindows old hold

theorem Level.IsRead.setColumn {level : Level} (h : level.IsRead E)
    (hrows : level.summarised = false) {name : String} {definition : Sql.Expr}
    (hdefinition : E.summarises definition = false) :
    (level.setColumn name definition).IsRead E where
  rows := by
    intro _ entry hentry
    rcases Bindings.mem_of_mem_insert hentry with hold | rfl
    · exact h.rows hrows entry hold
    · exact hdefinition
  groups hsummarised := absurd (hrows.symm.trans hsummarised) (by simp)

/-- Over the columns of a level that is no summary, a rowwise expression makes no group. -/
theorem Level.IsRead.resolve {level : Level} (h : level.IsRead E) (hE : E.IsLawful null)
    (hrows : level.summarised = false) {e : Sql.Expr} (he : e.IsRowwise E) :
    E.summarises (level.resolve true e) = false := by
  rw [level.resolve_true]
  apply he.summarises_inline hE
  intro name definition hdefinition
  exact h.rows hrows _ (Bindings.mem_of_get? hdefinition)

theorem Level.IsRead.setWindows {level : Level} (h : level.IsRead E) (hE : E.IsLawful null)
    (hrows : level.summarised = false) {windows : Windows}
    (hwindows : ∀ w ∈ windows, w.2.IsRowwise E) : (level.setWindows windows).IsRead E := by
  induction windows generalizing level with
  | nil => exact h
  | cons window later ih =>
    rw [List.forall_mem_cons] at hwindows
    exact ih (h.setColumn hrows (h.resolve hE hrows hwindows.1)) hrows hwindows.2

/-! ## Every level of a plan -/

section Steps

variable {target : Target} {stage next : Stage} {o : Outline}

theorem Stage.isRead_nested (hE : E.IsLawful null) (hnested : stage.Nested target next) :
    next.level.IsRead E := by
  obtain ⟨-⟩ := hnested
  exact .ofSource hE _ _

theorem Stage.isRead_nests (hE : E.IsLawful null) (h : stage.level.IsRead E)
    (hnests : stage.Nests target next) : next.level.IsRead E := by
  cases hnests with
  | none => exact h
  | more _ nested => exact Stage.isRead_nested hE nested

/-- What a verb becomes is rowwise, if the verb is. -/
theorem Stage.Follows.isRowwise (h : stage.Follows o) {e : Host.Expr} {lowered : Sql.Expr}
    (hrowwise : ∀ residual lowered warnings,
      Local.partialEval (o.scope target []) e = .ok residual →
        Lowering.lower (o.context target true) residual = .ok (lowered, warnings) →
          lowered.IsRowwise E)
    (hlowered : (stage.lower target true [] e).Yields lowered) : lowered.IsRowwise E := by
  rw [Stage.lower_eq, h.scope, h.context] at hlowered
  obtain ⟨warnings, hresult⟩ := (Ensures.ofNoted _).of_yields hlowered
  cases hresidual : Local.partialEval (o.scope target []) e with
  | error e => rw [hresidual] at hresult; cases hresult
  | ok residual =>
    rw [hresidual] at hresult
    exact hrowwise residual lowered warnings hresidual hresult

theorem Stage.isRead_acts (hE : E.IsLawful null) (hfollows : stage.Follows o)
    (h : stage.level.IsRead E) {verb : Verb} (hrowwise : verb.IsRowwise E target o)
    (hacts : verb.Acts target stage next) : next.level.IsRead E := by
  cases hacts with
  | pick opened known => exact h.of_definitions rfl rfl fun entry ↦ Level.mem_pickedColumns
  | @filterWindows predicate condition rest windows order label =>
    have hsource : (Level.ofSource (.subquery ((stage.level.setWindows windows).toSelect order)
        label) (stage.level.setWindows windows).names).IsRead E := .ofSource hE _ _
    refine hsource.of_definitions rfl rfl fun entry hentry ↦ ⟨entry, ?_, rfl⟩
    exact List.mem_of_mem_filter hentry
  | @mutate name e lowered opened rows lowers apart =>
    have hlowered := hfollows.isRowwise hrowwise lowers
    exact h.setColumn rows (h.resolve hE rows hlowered)
  | @summarise columns summaries opened rows windowless apart defined =>
    obtain ⟨hgroups, hplain⟩ := hrowwise
    have hcolumns : ∀ column ∈ columns,
        column.2.calls.any target.dialect.isWindowFunction = false := by
      simpa [Verb.hasPlainSummaries] using hplain
    refine ⟨(absurd ·.symm Bool.false_ne_true), fun _ ↦ ⟨?_, ?_⟩⟩
    · simpa [hfollows.groups] using hgroups
    · exact stage.isWindowed_summary windowless
        (fun column hcolumn _ ↦ Stage.lower_isWindowed (hcolumns column hcolumn)) defined
  | filterRows | filterGroups | arrange | distinct | head | collapse | groupBy | ungroup |
    windowOrder | windowFrame => exact ⟨h.rows, h.groups⟩

theorem Join.summarises_leftDefinition (hE : E.IsLawful null) (type : JoinType)
    (key : Option (String × String)) (name : String) :
    E.summarises (leftDefinition type key name) = false := by
  unfold leftDefinition
  split
  · exact hE.summarises_identifier _ _
  · rw [Bool.eq_false_iff]
    intro hsummarises
    rcases hE.summarises _ hsummarises with hcall | ⟨text, htext⟩ | ⟨c, hc, hsummarises⟩
    · exact absurd (hE.coalesce.symm.trans hcall) (by simp)
    · cases htext
    · rcases List.mem_pair.1 hc with rfl | rfl <;>
        exact absurd ((hE.summarises_identifier _ _).symm.trans hsummarises) (by simp)
  · exact hE.summarises_identifier _ _

theorem Join.isRead_level (hE : E.IsLawful null) (d : Dialect) (type : JoinType)
    (keys : List (String × String)) (suffixes : String × String)
    (left right : Sql.Source × List String) :
    (Join.level d type keys suffixes left right).IsRead E := by
  have htest (negated : Bool) : (semiLevel d negated left.1 right.1 left.2 keys).IsRead E := by
    refine ⟨fun _ entry hentry ↦ ?_, nofun⟩
    obtain ⟨name, -, rfl⟩ := List.mem_map.1 (Bindings.mem_of_mem_ofPairs hentry)
    exact hE.summarises_identifier _ name
  have hboth (kind : Sql.JoinKind) : (fullLevel kind left.1 right.1 keys
      (columns type keys suffixes left.2 right.2)).IsRead E := by
    refine ⟨fun _ entry hentry ↦ ?_, nofun⟩
    rcases List.mem_append.1 (Bindings.mem_of_mem_ofPairs hentry) with hmem | hmem
    · obtain ⟨name, -, rfl⟩ := List.mem_map.1 hmem
      exact summarises_leftDefinition hE type _ name
    · obtain ⟨name, -, rfl⟩ := List.mem_map.1 hmem
      exact hE.summarises_identifier _ name
  cases type with
  | semi => exact htest false
  | anti => exact htest true
  | inner | left | right | full => exact hboth _

end Steps

theorem Plan.IsRowwise.of_andAll {target : Target} {plan : Plan} {verbs : List Verb}
    (h : (plan.andAll verbs).IsRowwise E target) : plan.IsRowwise E target := by
  induction verbs generalizing plan with
  | nil => exact h
  | cons verb later ih => exact (@ih (plan.andThen verb) h).1

/-- Every level of a plan is read as it is meant. -/
theorem Plan.build_isRead (hE : E.IsLawful null) (target : Target) (plan : Plan) :
    Ensures (fun stage ↦ plan.IsRowwise E target → stage.level.IsRead E) (plan.build target) := by
  have hall : Ensures (fun stage ↦ stage.Follows plan.outline ∧
      (plan.IsRowwise E target → stage.level.IsRead E)) (plan.build target) := by
    apply Plan.build_ensures fun plan stage ↦ stage.Follows plan.outline ∧
      (plan.IsRowwise E target → stage.level.IsRead E)
    · intro name columns
      exact ⟨(Plan.build_follows target (.table name columns)).of_yields ⟨{}, {}, rfl⟩,
        fun _ ↦ .ofSource hE _ _⟩
    · rintro plan stage next ⟨hfollows, -⟩ hnested
      exact ⟨hfollows.nested hnested, fun _ ↦ Stage.isRead_nested hE hnested⟩
    · rintro plan verb stage next ⟨hfollows, hread⟩ hacts
      refine ⟨hfollows.acts hacts, ?_⟩
      rintro ⟨hplan, hverb⟩
      exact Stage.isRead_acts hE hfollows (hread hplan) hverb hacts
    · rintro left right type keys suffixes leftStage rightStage next ⟨hleft, -⟩ ⟨hright, -⟩ hjoined
      refine ⟨hleft.joined hright hjoined, fun _ ↦ ?_⟩
      obtain ⟨-, -, -⟩ := hjoined
      exact Join.isRead_level hE _ _ _ _ _ _
  exact hall.mono fun stage h ↦ h.2

end SqlVerbs
