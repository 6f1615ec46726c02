import SqlVerbs.Proofs.Query.CarriedColumns

/-!
# Hoisting windows

The outermost windows of a condition become columns of a subquery. Each has the first numbered name
that is free, and this name stands for it in what is left of the condition. Where the windows take
the places of their names again, the condition is what it was.
-/

namespace SqlVerbs

open Compile (Ensures)
open Sql.Semantics (passed)

/-! ## The search for a name -/

/-- A search that starts at this number ends with this name, the first one that is not taken. -/
inductive FirstFree (taken : List String) : Nat → String → Prop
  | here {n : Nat} (free : Compile.numbered "col" n ∉ taken) :
    FirstFree taken n (Compile.numbered "col" n)
  | later {n : Nat} {name : String} (inUse : Compile.numbered "col" n ∈ taken)
    (next : FirstFree taken (n + 1) name) : FirstFree taken n name

theorem firstFree_freshName {taken : List String} {n tries : Nat}
    (h : ∃ k ≤ tries, Compile.numbered "col" (n + k) ∉ taken) :
    FirstFree taken n (freshName taken n tries) := by
  induction tries generalizing n with
  | zero =>
    obtain ⟨k, hk, hfree⟩ := h
    obtain rfl : k = 0 := by omega
    exact .here hfree
  | succ tries ih =>
    rw [freshName]
    split
    · rename_i htaken
      refine .later (by simpa using htaken) (ih ?_)
      obtain ⟨k, hk, hfree⟩ := h
      cases k with
      | zero => exact absurd (by simpa using htaken) hfree
      | succ k => exact ⟨k, by omega, by rwa [Nat.add_right_comm]⟩
    · rename_i hfree
      exact .here (by simpa using hfree)

theorem firstFree_windowName (visible : List String) (windows : Windows) :
    FirstFree (visible ++ windows.map Prod.fst) (windows.length + 1)
      (windowName visible windows) :=
  firstFree_freshName (exists_numbered_notMem _ _)

/-- The names were found one after the other. The search for each starts at the position of its
window, and keeps clear of the names found before. -/
inductive FirstNames (visible : List String) : Windows → Prop
  | nil : FirstNames visible []
  | snoc {windows : Windows} {name : String} (earlier : FirstNames visible windows)
    (first : FirstFree (visible ++ windows.map Prod.fst) (windows.length + 1) name)
    (window : Sql.Expr) : FirstNames visible (windows ++ [(name, window)])

/-! ## The outermost windows -/

namespace Sql.Expr

mutual

/-- The windows of a tree that are in no other window, from left to right. -/
def outerWindows : Expr → List Expr
  | .window fn partition order frame => [.window fn partition order frame]
  | .literal _ | .identifier .. | .star | .raw _ => []
  | .list items => outerWindowsAll items
  | .function _ args _ => outerWindowsAll args
  | .binary l _ r => outerWindows l ++ outerWindows r
  | .unary _ e | .isNull e | .cast e _ | .desc e => outerWindows e
  | .between e low high => outerWindows e ++ outerWindows low ++ outerWindows high
  | .elemOf e items => outerWindows e ++ outerWindows items
  | .caseWhen branches otherwise => outerWindowsBranches branches ++ outerWindowsOption otherwise
  | .withinGroup fn order => outerWindows fn ++ outerWindowsAll order

def outerWindowsAll : List Expr → List Expr
  | [] => []
  | e :: rest => outerWindows e ++ outerWindowsAll rest

def outerWindowsBranches : List (Expr × Expr) → List Expr
  | [] => []
  | (cond, value) :: rest => outerWindows cond ++ outerWindows value ++ outerWindowsBranches rest

def outerWindowsOption : Option Expr → List Expr
  | none => []
  | some e => outerWindows e

end

theorem outerWindowsAll_eq_flatMap (items : List Expr) :
    outerWindowsAll items = items.flatMap outerWindows := by
  induction items with
  | nil => rfl
  | cons e rest ih => rw [outerWindowsAll, ih, List.flatMap_cons]

theorem outerWindowsBranches_eq_flatMap (branches : List (Expr × Expr)) :
    outerWindowsBranches branches =
      branches.flatMap (fun b ↦ outerWindows b.1 ++ outerWindows b.2) := by
  induction branches with
  | nil => rfl
  | cons b rest ih => rw [outerWindowsBranches, ih, List.flatMap_cons]

theorem outerWindows_eq_flatMap {e : Expr} (h : e.isWindow = false) :
    e.outerWindows = e.children.flatMap outerWindows := by
  cases e with
  | window => cases h
  | caseWhen branches otherwise =>
    cases otherwise <;> simp [outerWindows, outerWindowsOption, children,
      outerWindowsBranches_eq_flatMap, List.flatMap_assoc]
  | _ => simp [outerWindows, children, outerWindowsAll_eq_flatMap]

end Sql.Expr

/-! ## One node at a time -/

section Traversal

variable {visible : List String} {found : Windows} {e : Sql.Expr} {defs : String → Option Sql.Expr}

theorem takeWindowsAll_cons (e : Sql.Expr) (rest : List Sql.Expr) :
    takeWindowsAll visible (e :: rest) found =
      ((takeWindows visible e found).1 ::
          (takeWindowsAll visible rest (takeWindows visible e found).2).1,
        (takeWindowsAll visible rest (takeWindows visible e found).2).2) := rfl

theorem takeWindowsAll_append (items more : List Sql.Expr) :
    takeWindowsAll visible (items ++ more) found =
      ((takeWindowsAll visible items found).1 ++
          (takeWindowsAll visible more (takeWindowsAll visible items found).2).1,
        (takeWindowsAll visible more (takeWindowsAll visible items found).2).2) := by
  induction items generalizing found with
  | nil => rfl
  | cons e rest ih =>
    rw [List.cons_append, takeWindowsAll_cons, takeWindowsAll_cons, ih]
    rfl

theorem takeWindowsAll_branches (branches : List (Sql.Expr × Sql.Expr)) :
    takeWindowsAll visible (branches.flatMap (fun b ↦ [b.1, b.2])) found =
      ((takeWindowsBranches visible branches found).1.flatMap (fun b ↦ [b.1, b.2]),
        (takeWindowsBranches visible branches found).2) := by
  induction branches generalizing found with
  | nil => rfl
  | cons b rest ih =>
    rw [List.flatMap_cons, takeWindowsAll_append, ih]
    rfl

theorem takeWindowsAll_option (otherwise : Option Sql.Expr) :
    takeWindowsAll visible otherwise.toList found =
      ((takeWindowsOption visible otherwise found).1.toList,
        (takeWindowsOption visible otherwise found).2) := by
  cases otherwise <;> rfl

/-- Windows are taken out of a node by taking them out of its children. -/
theorem takeWindowsAll_children (h : e.isWindow = false) :
    takeWindowsAll visible e.children found =
      ((takeWindows visible e found).1.children, (takeWindows visible e found).2) := by
  cases e with
  | window => cases h
  | caseWhen branches otherwise =>
    simp only [Sql.Expr.children, takeWindowsAll_append, takeWindowsAll_branches,
      takeWindowsAll_option, takeWindows]
  | _ => rfl

/-- The node stays, so that it is what it was if its children are. -/
theorem inline_takeWindows (h : e.isWindow = false)
    (hcolumn : ∀ name, e = .identifier none name → defs name = none)
    (hchildren : (takeWindows visible e found).1.children.map (Sql.Expr.inline defs) =
      e.children) : (takeWindows visible e found).1.inline defs = e := by
  cases e with
  | window => cases h
  | identifier qualifier name =>
    cases qualifier with
    | none => simp [takeWindows, Sql.Expr.inline, hcolumn name rfl]
    | some qualifier => rfl
  | caseWhen branches otherwise =>
    rw [← List.map_id (Sql.Expr.children (.caseWhen branches otherwise))] at hchildren
    obtain ⟨hbranches, hotherwise⟩ :=
      branches_of_children (length_takeWindowsBranches visible branches found) hchildren
    simp only [takeWindows, Sql.Expr.inline, Sql.Expr.inlineBranches_eq_map,
      Sql.Expr.inlineOption_eq_map]
    exact congrArg₂ Sql.Expr.caseWhen (by simpa using hbranches) (by simpa using hotherwise)
  | _ =>
    simp_all [takeWindows, Sql.Expr.inline, Sql.Expr.children, Sql.Expr.inlineAll_eq_map]

end Traversal

/-! ## Windows under the names found -/

/-- Expressions before and after their windows are taken out, in terms of the windows themselves. -/
structure Replaces (visible : List String) (found found' : Windows) (before after : List Sql.Expr) :
    Prop where
  subset : found ⊆ found'
  windows : found'.map Prod.snd = found.map Prod.snd ++ before.flatMap Sql.Expr.outerWindows
  names : FirstNames visible found → FirstNames visible found'
  restored : ∀ defs : String → Option Sql.Expr,
    (∀ e ∈ before, ∀ name, .identifier none name ∈ e.parts → defs name = none) →
    (∀ w ∈ found', defs w.1 = some w.2) → after.map (Sql.Expr.inline defs) = before

namespace Replaces

variable {visible : List String} {found found' found'' : Windows}
  {before before' after after' : List Sql.Expr}

theorem nil : Replaces visible found found [] [] where
  subset := List.Subset.refl found
  windows := by simp
  names h := h
  restored := by simp

theorem append (h : Replaces visible found found' before after)
    (h' : Replaces visible found' found'' before' after') :
    Replaces visible found found'' (before ++ before') (after ++ after') where
  subset := List.Subset.trans h.subset h'.subset
  windows := by rw [h'.windows, h.windows, List.flatMap_append, List.append_assoc]
  names hnames := h'.names (h.names hnames)
  restored defs hcolumns hwindows := by
    rw [List.forall_mem_append] at hcolumns
    have hfirst := h.restored defs hcolumns.1 fun w hw ↦ hwindows w (h'.subset hw)
    rw [List.map_append, hfirst, h'.restored defs hcolumns.2 hwindows]

theorem window {e : Sql.Expr} (hwindow : e.isWindow = true) (found : Windows) :
    Replaces visible found (takeWindows visible e found).2 [e]
      [(takeWindows visible e found).1] := by
  cases e with
  | window fn partition order frame =>
    exact {
      subset := List.subset_append_left _ _
      windows := by simp [takeWindows, Sql.Expr.outerWindows]
      names := fun hnames ↦ .snoc hnames (firstFree_windowName visible found) _
      restored := fun defs _ hwindows ↦ by
        have hname := hwindows (windowName visible found, .window fn partition order frame)
          (by simp [takeWindows])
        simp [takeWindows, Sql.Expr.column, Sql.Expr.inline, hname] }
  | _ => cases hwindow

theorem node {e : Sql.Expr} (hwindow : e.isWindow = false)
    (h : Replaces visible found (takeWindowsAll visible e.children found).2 e.children
      (takeWindowsAll visible e.children found).1) :
    Replaces visible found (takeWindows visible e found).2 [e]
      [(takeWindows visible e found).1] := by
  rw [takeWindowsAll_children hwindow] at h
  refine ⟨h.subset, ?_, h.names, fun defs hcolumns hwindows ↦ ?_⟩
  · rw [h.windows, List.flatMap_singleton, Sql.Expr.outerWindows_eq_flatMap hwindow]
  · rw [List.forall_mem_singleton] at hcolumns
    have hchildren := h.restored defs
      (fun c hc name hname ↦ hcolumns name (Sql.Expr.mem_parts_of_child hc hname)) hwindows
    rw [List.map_singleton, inline_takeWindows hwindow ?_ hchildren]
    rintro name rfl
    exact hcolumns name (Sql.Expr.mem_parts_self _)

end Replaces

theorem replaces_takeWindows (visible : List String) (e : Sql.Expr) (found : Windows) :
    Replaces visible found (takeWindows visible e found).2 [e]
      [(takeWindows visible e found).1] := by
  induction e using Sql.Expr.induction_children generalizing found with
  | node e ih =>
    cases hwindow : e.isWindow with
    | true => exact .window hwindow found
    | false =>
      refine .node hwindow ?_
      generalize e.children = items at ih
      induction items generalizing found with
      | nil => exact .nil
      | cons c rest ihrest =>
        rw [List.forall_mem_cons] at ih
        rw [takeWindowsAll_cons]
        exact (ih.1 found).append (ihrest _ ih.2)

/-- A condition is taken apart into its outermost windows, which have names of their own, and what
is left of it. -/
structure TakesApart (visible : List String) (condition : Sql.Expr) (windows : Windows)
    (rest : Sql.Expr) : Prop where
  outermost : windows.map Prod.snd = condition.outerWindows
  names : FirstNames visible windows
  nodup : (visible ++ windows.map Prod.fst).Nodup
  windowless : rest.isWindowed = false
  restored : rest.inline (Bindings.get? windows) = condition

theorem takesApart_takeWindows {visible : List String} (hvisible : visible.Nodup)
    {condition : Sql.Expr}
    (hcondition : ∀ name, .identifier none name ∈ condition.parts → name ∈ visible) :
    TakesApart visible condition (takeWindows visible condition []).2
      (takeWindows visible condition []).1 := by
  have htakes := takes_takeWindows visible condition []
  have hreplaces := replaces_takeWindows visible condition []
  have hnodup := htakes.nodup (by simpa using hvisible)
  refine ⟨by simpa using hreplaces.windows, hreplaces.names .nil, hnodup,
    htakes.windowless _ (List.mem_singleton_self _), ?_⟩
  have hrestored := hreplaces.restored (Bindings.get? (takeWindows visible condition []).2)
    (by
      rw [List.forall_mem_singleton]
      intro name hname
      refine Bindings.get?_eq_none.2 fun htaken ↦ ?_
      exact (List.nodup_append.1 hnodup).2.2 name (hcondition name hname) name htaken rfl)
    (fun w hw ↦ Bindings.get?_of_mem (List.nodup_append.1 hnodup).2.1 hw)
  exact List.singleton_inj.1 hrestored

/-! ## Windows as columns -/

namespace Level

variable {level : Level} {windows : Windows}

/-- The definitions of windows as columns at the level. -/
def windowColumns (level : Level) (windows : Windows) : Bindings Sql.Expr :=
  Bindings.mapValues (fun window ↦ window.inline level.columns.get?) windows

theorem columns_setWindows (hnodup : (level.names ++ windows.map Prod.fst).Nodup)
    (hwindows : ∀ w ∈ windows, ∀ name, .identifier none name ∈ w.2.parts → name ∈ level.names) :
    (level.setWindows windows).columns = level.columns ++ level.windowColumns windows := by
  induction windows using List.reverseRecOn with
  | nil => simp [setWindows, windowColumns, Bindings.mapValues]
  | append_singleton earlier w ih =>
    rw [List.map_append, ← List.append_assoc] at hnodup
    rw [List.forall_mem_append, List.forall_mem_singleton] at hwindows
    have hearlier := (List.nodup_append.1 hnodup).1
    have hnew : w.1 ∉ (level.setWindows earlier).names := by
      rw [names_setWindows hearlier]
      exact fun hold ↦ (List.nodup_append.1 hnodup).2.2 _ hold w.1 (by simp) rfl
    have hresolve : (level.setWindows earlier).resolve true w.2 =
        w.2.inline level.columns.get? := by
      rw [resolve_true]
      refine Sql.Expr.inline_congr fun name hname ↦ ?_
      have hvisible := hwindows.2 name (Sql.Expr.mem_parts_of_mem_columnReferences hname)
      refine get?_setWindows fun htaken ↦ ?_
      exact (List.nodup_append.1 hearlier).2.2 name hvisible name htaken rfl
    calc (level.setWindows (earlier ++ [w])).columns
        = (level.setWindows earlier).columns.insert w.1
            ((level.setWindows earlier).resolve true w.2) := by
          simp [setWindows, List.foldl_append, setColumn]
      _ = level.columns ++ level.windowColumns earlier ++
            [(w.1, w.2.inline level.columns.get?)] := by
          rw [Bindings.insert_of_notMem hnew, hresolve, ih hearlier hwindows.1]
      _ = level.columns ++ level.windowColumns (earlier ++ [w]) := by
          simp [windowColumns, Bindings.mapValues]

end Level

namespace Stage

variable {target : Target} {stage : Stage} {condition : Sql.Expr}

/-- The stage with windows as more columns of its level. -/
def withWindows (stage : Stage) (windows : Windows) : Stage :=
  { stage with
    level := { stage.level with
      columns := stage.level.columns ++ stage.level.windowColumns windows } }

/-- The stage over the rows of its level that fulfil a condition on the windows. -/
def hoisted (stage : Stage) (windows : Windows) (rest : Sql.Expr) (order : List Sql.Expr)
    (label : String) : Stage :=
  { stage with
    level := {
      body := {
        source := .subquery ((stage.withWindows windows).level.toSelect order) label
        filters := [rest] }
      sourceColumns := stage.level.names ++ windows.map Prod.fst
      columns := passed stage.level.names } }

theorem hoist_eq
    (hcondition : ∀ name, .identifier none name ∈ condition.parts → name ∈ stage.level.names)
    {windows : Windows} {rest : Sql.Expr}
    (htaken : takeWindows stage.level.names condition [] = (rest, windows))
    (hapart : TakesApart stage.level.names condition windows rest) :
    stage.hoist target condition = (do
      let order ← (stage.withWindows windows).nestedOrderBy target
      let label ← Compile.nextLabel
      return stage.hoisted windows rest order label) := by
  -- A window that is taken reads what the condition reads, so its names are visible.
  have hwindows : ∀ w ∈ windows, ∀ name, .identifier none name ∈ w.2.parts →
      name ∈ stage.level.names := by
    have htakes := takes_takeWindows stage.level.names condition []
    rw [htaken] at htakes
    intro w hw name hname
    obtain hw | ⟨-, e, he, hpart⟩ := htakes.windows w hw
    · cases hw
    · obtain rfl := List.mem_singleton.1 he
      exact hcondition name (Sql.Expr.mem_parts_of_part hpart hname)
  have hset : { stage with level := stage.level.setWindows windows } =
      stage.withWindows windows := by
    rw [Level.setWindows_eq, Level.columns_setWindows hapart.nodup hwindows]
    rfl
  have hextended : (stage.withWindows windows).level.names =
      stage.level.names ++ windows.map Prod.fst := by
    rw [← hset]
    exact Level.names_setWindows hapart.nodup
  have hkept (source : Sql.Source) :
      (((Level.ofSource source (stage.withWindows windows).level.names).addFilter rest).keepOnly
        stage.level.names) =
      { body := { source := source, filters := [rest] }
        sourceColumns := stage.level.names ++ windows.map Prod.fst
        columns := passed stage.level.names } := by
    rw [hextended]
    exact congrArg (Level.mk _ _ · _ _) (Level.columns_keepOnly hapart.nodup source rest)
  rw [hoist, htaken]
  dsimp only
  rw [hset, wrap]
  simp only [bind_assoc, pure_bind]
  refine bind_congr fun order ↦ bind_congr fun label ↦ ?_
  rw [hkept]
  rfl

/-- A condition over the visible columns is hoisted exactly. Each of its outermost windows gets the
first numbered name that neither a visible column nor an earlier window has. What is left of the
condition has no windows, and is the condition again where the windows take the places of their
names. The statement below has one more column for each window, with its definition at the level,
the next level filters its rows by what is left, and it has the columns that were visible before,
in their order. Only the order of a level with a limit can fail. -/
theorem hoist_exact (hnames : stage.level.names.Nodup)
    (hcondition : ∀ name, .identifier none name ∈ condition.parts → name ∈ stage.level.names) :
    ∃ windows rest, takeWindows stage.level.names condition [] = (rest, windows) ∧
      TakesApart stage.level.names condition windows rest ∧
      stage.hoist target condition = (do
        let order ← (stage.withWindows windows).nestedOrderBy target
        let label ← Compile.nextLabel
        return stage.hoisted windows rest order label) ∧
      (stage.level.body.limit = none → ∀ progress, ∃ next after,
        stage.hoist target condition progress = .ok (next, after)) ∧
      Ensures (fun next ↦ next.level.body.filters = [rest] ∧
        next.level.names = stage.level.names) (stage.hoist target condition) := by
  obtain ⟨rest, windows, htaken⟩ :
      ∃ rest windows, takeWindows stage.level.names condition [] = (rest, windows) := ⟨_, _, rfl⟩
  have hapart : TakesApart stage.level.names condition windows rest := by
    simpa [htaken] using takesApart_takeWindows hnames hcondition
  have heq : stage.hoist target condition = _ := hoist_eq hcondition htaken hapart
  refine ⟨windows, rest, htaken, hapart, heq, fun hlimit progress ↦ ?_, ?_⟩
  · have horder : (stage.withWindows windows).nestedOrderBy target = pure [] := by
      rw [nestedOrderBy]
      exact if_neg (by simp [withWindows, hlimit])
    rw [heq, horder]
    exact ⟨_, _, rfl⟩
  · rw [heq]
    refine .bind (.trivial _) fun order _ ↦ .bind (.trivial _) fun label _ ↦ .pure ⟨rfl, ?_⟩
    exact Sql.Semantics.names_passed stage.level.names

end Stage

/-- The water levels of a river, with a column that has the name of a first window. -/
def waterLevels : Stage := .ofTable "water_levels" ["col01", "height"]

namespace waterLevels

def target : Target where
  dialect := .ansi
  now := ⟨⟨2000, 1, 1⟩, 0, 0, 0⟩

/-- The heights reach further than a bound. -/
def condition : Sql.Expr :=
  .binary
    (.binary (.window (.call "MAX" [.column "height"]) [] [] none) .sub
      (.window (.call "MIN" [.column "height"]) [] [] none))
    .gt (.column "col01")

end waterLevels

open waterLevels in
/-- The second name is free for the first window, and then the third one for the second. -/
theorem Stage.hoist_exact_waterLevels : ∃ windows rest next,
    waterLevels.level.names.Nodup ∧
      (∀ name, .identifier none name ∈ condition.parts → name ∈ waterLevels.level.names) ∧
      TakesApart waterLevels.level.names condition windows rest ∧
      windows.map Prod.fst = ["col02", "col03"] ∧
      (waterLevels.hoist target condition).Yields next ∧ next.level.body.filters = [rest] ∧
      next.level.names = ["col01", "height"] := by
  have hnames : waterLevels.level.names.Nodup := by decide
  have hcondition : ∀ name, .identifier none name ∈ condition.parts →
      name ∈ waterLevels.level.names := by
    have hnames : waterLevels.level.names = ["col01", "height"] := rfl
    simp [condition, Sql.Expr.parts, Sql.Expr.partsAll, Sql.Expr.call, Sql.Expr.column, hnames]
  obtain ⟨windows, rest, htaken, hapart, -, htotal, hresult⟩ :=
    @Stage.hoist_exact target waterLevels condition hnames hcondition
  obtain ⟨next, after, hnext⟩ := htotal rfl {}
  obtain ⟨hfilters, hvisible⟩ := hresult {} next after hnext
  refine ⟨windows, rest, next, hnames, hcondition, hapart, ?_, ⟨{}, after, hnext⟩, hfilters,
    hvisible⟩
  obtain ⟨-, rfl⟩ := Prod.mk.inj htaken.symm
  decide

end SqlVerbs
