import SqlVerbs.Dialect.Registry
import SqlVerbs.Proofs.Lowering.WindowRules
import SqlVerbs.Proofs.Query.WindowClauses

/-!
# Windows where they are allowed

Some databases have no windows. For them nothing becomes a window, at whatever stage of a query it
is lowered, and so there is no window anywhere in a statement. For the others there is none outside
of windows, as long as no window rule applies to a call.
-/

namespace SqlVerbs

open Compile (Ensures Yields)

/-! ## Statements without windows -/

/-- No expression of the statement has a window, at any depth. -/
structure Sql.SelectFrom.IsWindowless (select : Sql.Select) : Prop where
  items : ∀ e ∈ select.items.exprs, e.isWindowed = false
  source : ∀ e ∈ select.source.exprs, e.isWindowed = false
  joins : ∀ e ∈ Sql.exprsOfJoins select.joins, e.isWindowed = false
  filters : ∀ e ∈ select.filters, e.isWindowed = false
  groups : ∀ e ∈ select.groups, e.isWindowed = false
  having : ∀ e ∈ select.having, e.isWindowed = false
  order : ∀ e ∈ select.order, e.isWindowed = false

theorem Sql.SelectFrom.IsWindowless.exprs {select : Sql.Select} (h : select.IsWindowless) :
    ∀ e ∈ Sql.exprsOfSelect select, e.isWindowed = false := by
  cases select
  simp only [Sql.exprsOfSelect, List.forall_mem_append]
  exact ⟨⟨⟨⟨⟨⟨h.items, h.source⟩, h.joins⟩, h.filters⟩, h.groups⟩, h.having⟩, h.order⟩

/-- There is no window in the statement of the stage or in the definitions of its columns. -/
structure Stage.IsWindowless (stage : Stage) : Prop where
  body : stage.level.body.IsWindowless
  columns : stage.level.hasWindows = false

theorem Level.isWindowless_ofSource {source : Sql.Source} {names : List String}
    (h : ∀ e ∈ source.exprs, e.isWindowed = false) : (ofSource source names).body.IsWindowless :=
  ⟨nofun, h, nofun, nofun, nofun, nofun, nofun⟩

section Steps

variable {target : Target} {stage next : Stage}

namespace Stage.IsWindowless

theorem toSelect (h : stage.IsWindowless) {order : List Sql.Expr}
    (horder : ∀ key ∈ order, key.isWindowed = false) :
    (stage.level.toSelect order).IsWindowless :=
  ⟨Level.isWindowed_selectList h.columns, h.body.source, h.body.joins, h.body.filters,
    h.body.groups, h.body.having, horder⟩

end Stage.IsWindowless

variable (hsupport : target.dialect.supportsWindows = false)

include hsupport

theorem Stage.lower_windowless {windowed : Bool} {more : List String} {e : Host.Expr} :
    Ensures (fun lowered ↦ lowered.isWindowed = false) (stage.lower target windowed more e) := by
  refine .bind (.trivial _) fun residual _ ↦ .mono (.ofNoted _) ?_
  rintro lowered ⟨warnings, hlowered⟩
  exact Lowering.lower_windowless_of_unsupported (by exact hsupport) residual lowered warnings
    hlowered

namespace Stage.IsWindowless

theorem orderBy (h : stage.IsWindowless) :
    Ensures (∀ key ∈ ·, key.isWindowed = false) (stage.orderBy target) :=
  .mapM fun _ _ ↦ .bind (Stage.lower_windowless hsupport) fun _ hlowered ↦
    .pure (Level.isWindowed_resolve h.columns hlowered)

theorem nestedOrderBy (h : stage.IsWindowless) :
    Ensures (∀ key ∈ ·, key.isWindowed = false) (stage.nestedOrderBy target) := by
  unfold Stage.nestedOrderBy
  split
  · exact h.orderBy hsupport
  · exact .pure (List.forall_mem_nil _)

theorem nested (h : stage.IsWindowless) (hnested : stage.Nested target next) :
    next.IsWindowless := by
  obtain ⟨hordered⟩ := hnested
  have horder := (h.nestedOrderBy hsupport).of_yields hordered
  exact ⟨Level.isWindowless_ofSource (h.toSelect horder).exprs, Level.hasWindows_ofSource⟩

/-- A condition without windows gives none away, so nothing but the condition changes. -/
theorem filterWindows (h : stage.IsWindowless) {condition rest : Sql.Expr} {windows : Windows}
    {order : List Sql.Expr} {label : String} (hcondition : condition.isWindowed = false)
    (htaken : takeWindows stage.level.names condition [] = (rest, windows))
    (hordered : ({ stage with level := stage.level.setWindows windows }.nestedOrderBy
      target).Yields order) :
    { stage with
      level := ((Level.ofSource (.subquery ((stage.level.setWindows windows).toSelect order) label)
        (stage.level.setWindows windows).names).addFilter rest).keepOnly
          stage.level.names }.IsWindowless := by
  have htakes : Takes stage.level.names [] windows [condition] [rest] := by
    simpa [htaken] using takes_takeWindows stage.level.names condition []
  obtain rfl : windows = [] := by
    refine List.eq_nil_iff_forall_not_mem.2 fun w hw ↦ ?_
    rcases htakes.windows w hw with hnone | ⟨hwindow, e, he, hpart⟩
    · cases hnone
    · rw [List.mem_singleton.1 he] at hpart
      rw [Sql.Expr.isWindowed_eq_any, List.any_eq_false] at hcondition
      exact hcondition _ hpart hwindow
  have horder := (h.nestedOrderBy hsupport).of_yields hordered
  let fresh := Level.ofSource (.subquery (stage.level.toSelect order) label) stage.level.names
  have hfresh : fresh.body.IsWindowless := Level.isWindowless_ofSource (h.toSelect horder).exprs
  have hcolumns := Level.hasWindows_iff.1 (show fresh.hasWindows = false from
    Level.hasWindows_ofSource)
  refine ⟨⟨nofun, hfresh.source, nofun, ?_, nofun, nofun, nofun⟩, ?_⟩
  · simpa [Level.keepOnly, Level.addFilter, Level.ofSource] using
      htakes.windowless rest List.mem_cons_self
  · exact Level.hasWindows_iff.2 fun entry hentry ↦ hcolumns entry (List.mem_of_mem_filter hentry)

theorem acts (h : stage.IsWindowless) {verb : Verb} (hacts : verb.Acts target stage next) :
    next.IsWindowless := by
  have hcolumns := Level.hasWindows_iff.1 h.columns
  have hresolve {windowed : Bool} {e : Host.Expr} {lowered : Sql.Expr}
      (hlowered : (stage.lower target windowed [] e).Yields lowered) :
      (stage.level.resolve true lowered).isWindowed = false :=
    Level.isWindowed_resolve h.columns ((Stage.lower_windowless hsupport).of_yields hlowered)
  cases hacts with
  | @pick columns keepRest opened known =>
    refine ⟨h.body, Level.hasWindows_iff.2 fun entry hentry ↦ ?_⟩
    obtain ⟨old, hold, heq⟩ := Level.mem_pickedColumns hentry
    rw [← heq]
    exact hcolumns old hold
  | filterRows opened rows windowless lowered apart plain =>
    refine ⟨⟨h.body.items, h.body.source, h.body.joins, ?_, h.body.groups, h.body.having,
      h.body.order⟩, h.columns⟩
    exact List.forall_mem_append.2 ⟨h.body.filters, by simpa using hresolve lowered⟩
  | filterWindows opened rows windowless lowered apart taken ordered =>
    exact h.filterWindows hsupport ((Stage.lower_windowless hsupport).of_yields lowered) taken
      ordered
  | filterGroups opened groups lowered plain =>
    refine ⟨⟨h.body.items, h.body.source, h.body.joins, h.body.filters, h.body.groups, ?_,
      h.body.order⟩, h.columns⟩
    exact List.forall_mem_append.2 ⟨h.body.having, by simpa using hresolve lowered⟩
  | mutate opened rows lowers apart =>
    refine ⟨h.body, Level.hasWindows_iff.2 fun entry hentry ↦ ?_⟩
    rcases Bindings.mem_of_mem_insert hentry with hold | rfl
    · exact hcolumns entry hold
    · exact hresolve lowers
  | summarise opened rows windowless apart defined =>
    refine ⟨⟨h.body.items, h.body.source, h.body.joins, h.body.filters, ?_, h.body.having,
      h.body.order⟩, ?_⟩
    · exact List.forall_mem_map.2 fun group _ ↦ stage.isWindowed_groupDefinition h.columns group
    · exact stage.isWindowed_summary h.columns
        (fun _ _ _ ↦ Stage.lower_windowless hsupport) defined
  | distinct | head =>
    exact ⟨⟨h.body.items, h.body.source, h.body.joins, h.body.filters, h.body.groups,
      h.body.having, h.body.order⟩, h.columns⟩
  | arrange | groupBy | ungroup | windowOrder | windowFrame => exact ⟨h.body, h.columns⟩
  | collapse => exact h

theorem side (h : stage.IsWindowless) (label : String) :
    Ensures (fun side ↦ ∀ e ∈ side.1.exprs, e.isWindowed = false)
      (Join.side target stage label) := by
  unfold Join.side
  split
  · exact .pure nofun
  · exact .bind (h.nestedOrderBy hsupport) fun order horder ↦ .pure (h.toSelect horder).exprs

end Stage.IsWindowless

/-! ## Joins -/

omit hsupport in
theorem Join.isWindowed_columns {type : JoinType} {keys : List (String × String)}
    {suffixes : String × String} {leftColumns rightColumns : List String} :
    ∀ entry ∈ Join.columns type keys suffixes leftColumns rightColumns,
      entry.2.isWindowed = false := by
  intro entry hentry
  rcases List.mem_append.1 (Bindings.mem_of_mem_ofPairs hentry) with hleft | hright
  · obtain ⟨name, -, rfl⟩ := List.mem_map.1 hleft
    dsimp only [Join.leftOutput, Join.leftDefinition]
    split <;> rfl
  · obtain ⟨name, -, rfl⟩ := List.mem_map.1 hright
    rfl

theorem Stage.IsWindowless.joined {left right : Stage} (hleft : left.IsWindowless)
    (hright : right.IsWindowless) {type : JoinType} {keys : List (String × String)}
    {suffixes : String × String}
    (hjoined : Stage.Joined target type keys suffixes left right next) : next.IsWindowless := by
  obtain @⟨leftSide, rightSide, -, hleftMade, hrightMade⟩ := hjoined
  have hleftSide := (hleft.side hsupport Join.leftLabel).of_yields hleftMade
  have hrightSide := (hright.side hsupport Join.rightLabel).of_yields hrightMade
  have htest (negated : Bool) : { left with
      level := Join.semiLevel target.dialect negated leftSide.1 rightSide.1 leftSide.2 keys
      order := [] }.IsWindowless := by
    refine ⟨⟨nofun, hleftSide, nofun, ?_, nofun, nofun, nofun⟩, Level.hasWindows_iff.2 ?_⟩
    · exact List.forall_mem_singleton.2 rfl
    · intro entry hentry
      obtain ⟨name, -, rfl⟩ := List.mem_map.1 (Bindings.mem_of_mem_ofPairs hentry)
      rfl
  have hboth (kind : Sql.JoinKind) : { left with
      level := Join.fullLevel kind leftSide.1 rightSide.1 keys
        (Join.columns type keys suffixes leftSide.2 rightSide.2)
      order := [] }.IsWindowless := by
    refine ⟨⟨nofun, hleftSide, ?_, nofun, nofun, nofun, nofun⟩,
      Level.hasWindows_iff.2 Join.isWindowed_columns⟩
    simpa [Join.fullLevel, Sql.exprsOfJoins, or_imp, forall_and] using
      ⟨hrightSide, isWindowed_condition keys⟩
  cases type with
  | semi => exact htest false
  | anti => exact htest true
  | inner | left | right | full => exact hboth _

/-! ## Whole queries -/

theorem Plan.build_isWindowless (plan : Plan) :
    Ensures Stage.IsWindowless (plan.build target) := by
  apply Plan.build_ensures fun _ stage ↦ stage.IsWindowless
  · intro name columns
    exact ⟨Level.isWindowless_ofSource nofun, Level.hasWindows_ofSource⟩
  · intro plan stage next h hnested
    exact h.nested hsupport hnested
  · intro plan verb stage next h hacts
    exact h.acts hsupport hacts
  · intro left right type keys suffixes leftStage rightStage next hleft hright hjoined
    exact hleft.joined hsupport hright hjoined

/-- The statements in the conditions of semi and anti joins. -/
theorem Plan.tests_isWindowless {plan : Plan} {left : Sql.Source} {test : Sql.Select}
    (h : plan.Tests target left test) : test.IsWindowless := by
  obtain ⟨⟨_, right, keys⟩, -, -, stage, -, side, -, hstage, -, -, hside, -, rfl⟩ := h
  have hsource := (((right.build_isWindowless hsupport).of_yields hstage).side hsupport
    Join.rightLabel).of_yields hside
  exact ⟨List.forall_mem_singleton.2 rfl, hsource, nofun, isWindowed_condition keys, nofun, nofun,
    nofun⟩

end Steps

/-- There are windows only where they are allowed. For a dialect without windows, every expression
becomes one without windows, and so does every expression of the statement that a query is compiled
to and of the statements in the conditions of its joins. For every dialect, an expression becomes
one without windows outside of windows, if no window rule applies to the calls in it. -/
theorem windows_only_where_allowed :
    (∀ (cx : Lowering.Context) (e : Host.Expr),
      cx.dialect.supportsWindows = false ∨
        cx.windowed = false ∧ (∀ c ∈ e.subterms, cx.callsWindow c = false) →
      Noted.Ensures (fun lowered ↦ lowered.isWindowed = false) (Lowering.lower cx e)) ∧
    ∀ (target : Target) (query : Query) (compiled : Compiled),
      target.dialect.supportsWindows = false → query.compile target = .ok compiled →
      ∃ select progress,
        (query.toSelect target).run {} = .ok ((select, compiled.columns), progress) ∧
          compiled.sql = select.render target.dialect ∧
            (∀ e ∈ Sql.exprsOfSelect select, e.isWindowed = false) ∧
              ∀ left test, query.plan.Tests target left test →
                ∀ e ∈ Sql.exprsOfSelect test, e.isWindowed = false := by
  constructor
  · rintro cx e (hsupport | ⟨hplain, hwindow⟩)
    · exact Lowering.lower_windowless_of_unsupported hsupport e
    · exact Lowering.lower_windowless_of_plain hplain hwindow
  · intro target query compiled hsupport h
    obtain ⟨⟨⟨select, columns⟩, progress⟩, hselect, hcompiled⟩ := bind_eq_ok.1 h
    cases hcompiled
    have hresult : Ensures (fun result ↦ result.1.IsWindowless) (query.toSelect target) := by
      rw [Query.toSelect, Query.build_eq_plan]
      refine .bind (query.plan.build_isWindowless hsupport) fun stage hstage ↦ ?_
      exact .bind (hstage.orderBy hsupport) fun order horder ↦ .pure (hstage.toSelect horder)
    refine ⟨select, progress, hselect, rfl, (hresult {} _ progress hselect).exprs, ?_⟩
    exact fun left test htest ↦ (Plan.tests_isWindowless hsupport htest).exprs

/-- The shops with a large sale, in the order of their names. -/
def largeSales : Query :=
  let large := Host.Expr.call ">" [.symbol "price", .literal (.integer (some 100))] []
  (Query.join (Query.table "shops" ["shop", "town"])
    ((Query.table "sales" ["shop", "price"]).filter [large]) .semi [("shop", "shop")]
      Query.defaultSuffixes).arrange [.symbol "shop"]

def largeSales.target : Target where
  dialect := .sqliteLegacy
  now := ⟨⟨2000, 1, 1⟩, 0, 0, 0⟩

/-- Outside of windows a total is no window, and a database without windows has none for it. -/
theorem windows_only_where_allowed_largeSales :
    let total := Host.Expr.call "sum" [.symbol "price"] []
    let tree := Sql.Expr.call "SUM" [.column "price"]
    (Lowering.lower { dialect := .ansi } total = .ok (tree, []) ∧ tree.isWindowed = false) ∧
      (largeSales.target.dialect.supportsWindows = false ∧
        ∃ compiled select progress, largeSales.compile largeSales.target = .ok compiled ∧
          (largeSales.toSelect largeSales.target).run {} =
            .ok ((select, compiled.columns), progress) ∧
          (∀ e ∈ Sql.exprsOfSelect select, e.isWindowed = false) ∧
            ∀ left test, largeSales.plan.Tests largeSales.target left test →
              ∀ e ∈ Sql.exprsOfSelect test, e.isWindowed = false) := by
  intro total tree
  have htotal : Lowering.lower { dialect := .ansi } total = .ok (tree, []) := rfl
  have hwindow : ∀ c ∈ total.subterms,
      Lowering.Context.callsWindow { dialect := .ansi } c = false := by decide
  have htree := windows_only_where_allowed.1 { dialect := .ansi } total (.inr ⟨rfl, hwindow⟩)
  obtain ⟨compiled, hcompiled⟩ : ∃ compiled, largeSales.compile largeSales.target = .ok compiled :=
    ⟨_, rfl⟩
  obtain ⟨select, progress, hselect, -, hexprs, htests⟩ :=
    windows_only_where_allowed.2 largeSales.target largeSales compiled rfl hcompiled
  exact ⟨⟨htotal, htree tree [] htotal⟩, rfl, compiled, select, progress, hcompiled, hselect,
    hexprs, htests⟩

end SqlVerbs
