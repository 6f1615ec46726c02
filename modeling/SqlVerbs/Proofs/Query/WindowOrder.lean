import SqlVerbs.Proofs.Query.LiveTerms

/-!
# The order of windows

Where no order of windows is set, windows are ordered by the terms that order the rows. These terms
take two routes into SQL: on their way to the order of rows they are folded, and on their way into a
window they are not. So the two agree where folding leaves the terms as they are, and where the
terms call nothing that becomes something else in a window.
-/

namespace SqlVerbs

open Compile (Ensures Yields Repeatable)
open Lowering (Context lowerWith orderTerms)

/-! ## Results of several steps -/

theorem Noted.yields_bind {α β : Type} {x : Noted α} {f : α → Noted β} {b : β} :
    (x >>= f).Yields b ↔ ∃ a, x.Yields a ∧ (f a).Yields b := by
  constructor
  · intro h
    have hboth : Noted.Ensures (fun b ↦ ∃ a, x.Yields a ∧ (f a).Yields b) (x >>= f) :=
      .bind (.yields x) fun a ha ↦ .mono (.yields (f a)) fun b hb ↦ ⟨a, ha, hb⟩
    exact hboth.of_yields h
  · rintro ⟨a, ⟨before, rfl⟩, after, h⟩
    refine ⟨before ++ after, ?_⟩
    change Noted.bind (.ok (a, before)) f = _
    rw [Noted.bind, h]

theorem Compile.Yields.bind {α β : Type} {x : Compile α} {f : α → Compile β} {a : α} {b : β}
    (hx : x.Yields a) (hf : (f a).Yields b) (hrepeat : (f a).Repeatable) : (x >>= f).Yields b := by
  obtain ⟨progress, between, hx⟩ := hx
  obtain ⟨after, hf⟩ := hrepeat b hf between
  exact ⟨progress, after, (Compile.bind_of_ok hx f).trans hf⟩

/-- Steps whose results are collected one after the other have the results that they have at
once. -/
theorem Compile.yields_mapM {α β γ : Type} {f : β → Noted α} {g : α → γ} {items : List β}
    {as : List α} (h : (Noted.all (items.map f)).Yields as) :
    (items.mapM fun item ↦ do return g (← Compile.ofNoted (f item))).Yields (as.map g) := by
  have hstep (item : β) : Repeatable (do return g (← Compile.ofNoted (f item))) :=
    .bind (.ofNoted _) fun _ ↦ .pure _
  induction items generalizing as with
  | nil =>
    obtain ⟨_, ⟨⟩⟩ := h
    exact ⟨{}, {}, rfl⟩
  | cons item later ih =>
    obtain ⟨a, ⟨warnings, ha⟩, h⟩ := Noted.yields_bind.1 h
    obtain ⟨rest, hrest, ⟨_, ⟨⟩⟩⟩ := Noted.yields_bind.1 h
    rw [List.mapM_cons, List.map_cons]
    refine .bind (a := g a) (.bind (.ofNoted ha) ⟨{}, {}, rfl⟩ (.pure _)) ?_ ?_
    · exact .bind (ih hrest) ⟨{}, {}, rfl⟩ (.pure _)
    · exact .bind (.mapM hstep) fun _ ↦ .pure _

/-! ## Expressions over columns of the source -/

namespace Level

variable {level : Level} {e : Sql.Expr}

/-- An expression that uses no computed column is the same over the source, whether computed columns
are replaced or not. -/
theorem resolve_of_apart (h : level.usesComputed e = false) :
    level.resolve true e = level.resolve false e := by
  refine Sql.Expr.inline_congr fun name hname ↦ ?_
  have hplain := List.any_eq_false.1 h name hname
  rw [isComputed] at hplain
  rw [definition?, definition?]
  cases hget : level.columns.get? name with
  | none => rfl
  | some definition =>
    have hpassed : definition.passedColumn?.isSome = true := by
      rw [hget] at hplain
      simpa [Option.isSome_iff_ne_none] using hplain
    simp [Option.filter, hpassed]

/-- Columns of the source have no windows to add. -/
theorem window_of_resolve {window : Sql.Expr} (h : window ∈ (level.resolve false e).parts)
    (hwindow : window.isWindow = true) :
    ∃ made ∈ e.parts, made.isWindow = true ∧ window = level.resolve false made := by
  obtain ⟨name, definition, -, hdefinition, hpart⟩ | ⟨made, hmade, rfl, hnone⟩ :=
    Sql.Expr.mem_parts_inline h
  · obtain ⟨-, hpassed⟩ := Option.filter_eq_some_iff.1 hdefinition
    obtain ⟨source, hsource⟩ := Option.isSome_iff_exists.1 (by simpa using hpassed)
    rw [Sql.Expr.passedColumn?_eq_some.1 hsource, Sql.Expr.column, Sql.Expr.parts,
      List.mem_singleton] at hpart
    rw [hpart] at hwindow
    cases hwindow
  · exact ⟨made, hmade, by rwa [Sql.Expr.isWindow_inline hnone] at hwindow, rfl⟩

end Level

/-! ## Terms that are the same in both orders -/

namespace Stage

/-- The term is over visible columns, folding resolves nothing in it, and it calls neither window
functions nor aggregates. -/
structure IsPlainTerm (target : Target) (stage : Stage) (term : Host.Expr) : Prop where
  visible : ∀ name ∈ term.references, stage.level.has name = true
  remote : ∀ function ∈ term.calls, (!Local.alwaysLocal.contains function) = true
  rowwise : ∀ function ∈ term.calls, target.dialect.isWindowFunction function = false ∧
    target.dialect.isAggregateFunction function = false

variable {target : Target} {stage : Stage}

namespace IsPlainTerm

variable {term : Host.Expr} (h : stage.IsPlainTerm target term)

include h

theorem sortKey : stage.sortKey target term = (do
    return stage.level.resolve false
      (← Compile.ofNoted (Lowering.lower (stage.context target false) term))) := by
  rw [Stage.sortKey, lower_eq, partialEval_of_visible h.visible h.remote]
  rfl

/-- In a window the term becomes what it becomes in the order of rows. -/
theorem lowerWith_eq (ordering : Noted (List Sql.Expr)) :
    lowerWith (stage.context target true) ordering term =
      Lowering.lower (stage.context target false) term := by
  refine congrArg Lowering.Operand.result
    (Lowering.lowerOperand_congr (by rfl) (by rfl) fun function hcall ↦ ?_)
  obtain ⟨hwindow, haggregate⟩ := h.rowwise function hcall
  exact Lowering.agreeOn_windowed haggregate fun hwindow' ↦ Bool.noConfusion (hwindow ▸ hwindow')

theorem isWindowed : Noted.Ensures (fun key ↦ key.isWindowed = false)
    (Lowering.lower (stage.context target false) term) :=
  .mono (Lowering.lower_plain rfl (fun function hcall ↦ (h.rowwise function hcall).1)
    fun _ hname ↦ hname) fun _ hover ↦ hover.isWindowed

end IsPlainTerm

section Terms

variable (hterms : ∀ term ∈ stage.order, stage.IsPlainTerm target term)

include hterms

theorem orderBy_of_plain : stage.orderBy target = stage.order.mapM (fun term ↦ do
    return stage.level.resolve false
      (← Compile.ofNoted (Lowering.lower (stage.context target false) term))) := by
  have hlive : stage.liveTerms target = stage.order := by
    refine List.filter_eq_self.2 fun term hterm ↦ List.all_eq_true.2 fun name hname ↦ ?_
    exact knows_of_visible ((hterms term hterm).visible name hname)
  rw [orderBy_eq_mapM, hlive]
  exact Compile.mapM_congr fun term hterm ↦ (hterms term hterm).sortKey

variable (hwindowOrder : stage.windowOrder = [])

include hwindowOrder

theorem orderTerms_of_plain : orderTerms (stage.context target true) =
    Noted.all (stage.order.map (Lowering.lower (stage.context target false))) := by
  have hcontext : (stage.context target true).order = stage.order := by
    simp [context, windowTerms, hwindowOrder]
  rw [orderTerms, hcontext]
  exact congrArg Noted.all (List.map_congr_left fun term hterm ↦
    (hterms term hterm).lowerWith_eq _)

/-- The order of windows, over the source, is the order of rows. -/
theorem orderBy_iff {order : List Sql.Expr}
    (h : (orderTerms (stage.context target true)).Yields order) (keys : List Sql.Expr) :
    (stage.orderBy target).Yields keys ↔ keys = order.map (stage.level.resolve false) := by
  have hyields : (stage.orderBy target).Yields (order.map (stage.level.resolve false)) := by
    rw [orderTerms_of_plain hterms hwindowOrder] at h
    rw [orderBy_of_plain hterms]
    exact Compile.yields_mapM h
  refine ⟨fun hkeys ↦ stage.orderBy_settled target _ _ hkeys hyields, ?_⟩
  rintro rfl
  exact hyields

theorem orderTerms_isWindowed : Noted.Ensures (∀ key ∈ ·, key.isWindowed = false)
    (orderTerms (stage.context target true)) := by
  rw [orderTerms_of_plain hterms hwindowOrder]
  exact .all (List.forall_mem_map.2 fun term hterm ↦ (hterms term hterm).isWindowed)

end Terms

/-! ## The order of windows -/

/-- In a new column, the call opens this window. -/
def OpensWindow (target : Target) (stage : Stage) (c : Host.Expr) (window : Sql.Expr) : Prop :=
  (stage.context target true).Opens (orderTerms (stage.context target true)) c window

/-- The windows of a new column are in the order of rows. Each is made, over the columns of the
source, of one that some calls of the expression open. If one of these states no order itself, the
keys of the window are those of the order of rows; only an aggregate without a frame is in no
order. -/
def WindowsFollowRows (target : Target) (stage : Stage) (e : Host.Expr) (definition : Sql.Expr) :
    Prop :=
  ∀ fn partition order frame, .window fn partition order frame ∈ definition.parts →
    ∃ made, .window fn partition order frame = stage.level.resolve false made ∧
      (∃ c ∈ e.subterms, stage.OpensWindow target c made) ∧
      ∀ c, stage.OpensWindow target c made → (stage.context target true).ownOrder? c = none →
        if (stage.context target true).consultsAt c then
          ∀ keys, (stage.orderBy target).Yields keys ↔ keys = order
        else order = []

theorem windowsFollowRows (hterms : ∀ term ∈ stage.order, stage.IsPlainTerm target term)
    (hwindowOrder : stage.windowOrder = []) {e : Host.Expr} {lowered : Sql.Expr}
    (hlowered : (Lowering.lower (stage.context target true) e).Yields lowered)
    (hapart : stage.level.usesComputed lowered = false) :
    stage.WindowsFollowRows target e (stage.level.resolve true lowered) := by
  intro fn partition order frame hpart
  rw [Level.resolve_of_apart hapart] at hpart
  obtain ⟨made, hmade, hwindow, heq⟩ := Level.window_of_resolve hpart rfl
  have hopens : ∃ c ∈ e.subterms, stage.OpensWindow target c made :=
    (Lowering.lowerWith_windows (orderTerms_isWindowed hterms hwindowOrder) e).of_yields hlowered
      made hmade hwindow
  refine ⟨made, heq, hopens, fun c hc hown ↦ ?_⟩
  obtain ⟨_, keys, _, rfl, -, -, hkeys⟩ := hc.isWindowIn
  rw [Level.resolve, Sql.Expr.inline, Sql.Expr.inlineAll_eq_map, Sql.Expr.inlineAll_eq_map] at heq
  obtain ⟨-, -, rfl, -⟩ := Sql.Expr.window.inj heq
  rw [Context.orderAt, hown] at hkeys
  dsimp only at hkeys
  split at hkeys
  · rename_i hconsults
    rw [if_pos hconsults]
    exact orderBy_iff hterms hwindowOrder hkeys
  · rename_i hconsults
    rw [if_neg hconsults]
    obtain ⟨_, ⟨⟩⟩ := hkeys
    rfl

/-- Nesting keeps what is visible, and all orders. -/
theorem Nests.keeps {opened : Stage} (h : stage.Nests target opened) :
    opened.order = stage.order ∧ opened.windowOrder = stage.windowOrder ∧
      ∀ name, stage.level.has name = true → opened.level.has name = true := by
  induction h with
  | none => exact ⟨rfl, rfl, fun _ hname ↦ hname⟩
  | more _ nested ih =>
    obtain ⟨horder, hwindowOrder, hvisible⟩ := ih
    cases nested
    refine ⟨horder, hwindowOrder, fun name hname ↦ ?_⟩
    have hmem := Bindings.get?_isSome.1 (hvisible name hname)
    refine Bindings.get?_isSome.2 ?_
    change name ∈ (Level.ofSource _ _).names
    rw [Level.names_ofSource]
    exact mem_dedup.2 hmem

/-- Windows use the order of the statement. Where no order of windows is set, and the ordering terms
are over visible columns, have nothing to resolve and call neither window functions nor aggregates,
a new column is one at a level where each of its windows is in the order of rows: if a call that
opens the window states no order itself, the keys of the window are the keys that the order of rows
has at this level, and none if the call is an aggregate without a frame. -/
theorem mutate_windows_follow_rows (hwindowOrder : stage.windowOrder = [])
    (hterms : ∀ term ∈ stage.order, stage.IsPlainTerm target term) (name : String)
    (e : Host.Expr) :
    Ensures (fun next ↦ ∃ opened residual definition, stage.Nests target opened ∧
        Local.partialEval (opened.scope target []) e = .ok residual ∧
        next = { opened with level := opened.level.setColumn name definition } ∧
        opened.WindowsFollowRows target residual definition)
      (stage.mutate target name e) := by
  refine .mono (stage.mutate_leads name e) ?_
  rintro next ⟨opened, hnests, hacts⟩
  cases hacts with
  | mutate hopen hrows hlowers hapart =>
    obtain ⟨horder, hwindow, hvisible⟩ := hnests.keeps
    have hopened : ∀ term ∈ opened.order, opened.IsPlainTerm target term := by
      intro term hterm
      have hplain := hterms term (horder ▸ hterm)
      exact ⟨fun name hname ↦ hvisible name (hplain.visible name hname), hplain.remote,
        hplain.rowwise⟩
    rw [lower_eq] at hlowers
    obtain ⟨warnings, hlowered⟩ := (Ensures.ofNoted _).of_yields hlowers
    obtain ⟨residual, hresidual, hlowered⟩ := bind_eq_ok.1 hlowered
    exact ⟨opened, residual, _, hnests, hresidual, rfl,
      windowsFollowRows hopened (hwindow.trans hwindowOrder) ⟨warnings, hlowered⟩ hapart⟩

end Stage

namespace dailyTotals

/-- Sales of shops by day, the largest of a day first. -/
def query : Query :=
  ((Query.table "sales" ["shop", "day", "amount"]).groupBy ["shop"]).arrange
    [.symbol "day", .call "desc" [.symbol "amount"] []]

def stage : Stage where
  level := .ofSource (.table (.ofText "sales") none) ["shop", "day", "amount"]
  groups := ["shop"]
  order := [.symbol "day", .call "desc" [.symbol "amount"] []]

def target : Target where
  dialect := .ansi
  now := ⟨⟨2000, 1, 1⟩, 0, 0, 0⟩

/-- The sales so far. -/
def total : Host.Expr := .call "cumsum" [.symbol "amount"] []

def keys : List Sql.Expr := [.column "day", .desc (.column "amount")]

def definition : Sql.Expr :=
  .window (.call "SUM" [.column "amount"]) [.column "shop"] keys (some .cumulative)

end dailyTotals

open dailyTotals in
/-- The running total of each shop is in the order of the rows. -/
theorem Stage.mutate_windows_follow_rows_dailyTotals :
    stage.windowOrder = [] ∧ (∀ term ∈ stage.order, stage.IsPlainTerm target term) ∧
      (query.build target).Yields stage ∧
      (stage.mutate target "total" total).Yields
        { stage with level := stage.level.setColumn "total" definition } ∧
      ∃ opened, stage.Nests target opened ∧
        ∀ order, (opened.orderBy target).Yields order ↔ order = keys := by
  have hterms : ∀ term ∈ stage.order, stage.IsPlainTerm target term := by
    intro term hterm
    obtain rfl | hterm := List.mem_cons.1 hterm
    · exact ⟨by decide, by decide, by decide⟩
    · obtain rfl := List.mem_singleton.1 hterm
      exact ⟨by decide, by decide, by decide⟩
  have hyields : (stage.mutate target "total" total).Yields
      { stage with level := stage.level.setColumn "total" definition } := ⟨{}, {}, rfl⟩
  refine ⟨rfl, hterms, ⟨{}, {}, rfl⟩, hyields, ?_⟩
  obtain ⟨opened, residual, made, hnests, hresidual, hnext, hfollow⟩ :=
    (Stage.mutate_windows_follow_rows rfl hterms "total" total).of_yields hyields
  have hmade : some made = some definition := by
    have hcolumns := congrArg (fun next : Stage ↦ next.level.columns.get? "total") hnext
    simpa [Level.setColumn, Bindings.get?_insert_self] using hcolumns.symm
  obtain rfl := Option.some.inj hmade
  obtain rfl : total = residual := by
    have hvisible : ∀ name ∈ total.references, stage.level.has name = true := by decide
    have hstays := @Stage.partialEval_of_visible target opened total
      (fun name hname ↦ hnests.keeps.2.2 name (hvisible name hname)) (by decide)
    exact Except.ok.inj (hstays.symm.trans hresidual)
  obtain ⟨window, -, ⟨c, hc, hopens⟩, hkeys⟩ := hfollow _ _ _ _ (Sql.Expr.mem_parts_self definition)
  have htotal : c = total := by
    obtain rfl | hc := List.mem_cons.1 hc
    · rfl
    · obtain rfl := List.mem_singleton.1 hc
      exact absurd hopens.opensAt Bool.false_ne_true
  subst htotal
  exact ⟨opened, hnests, hkeys _ hopens rfl⟩

end SqlVerbs
