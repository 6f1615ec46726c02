import Mathlib.Data.List.Perm.Subperm
import SqlVerbs.Proofs.Query.Rows
import SqlVerbs.Query.Hoist

/-!
# Taking windows out of expressions

A window that is taken out of a condition gets a name that nothing else has. Where that name stands
for the values of the window, what is left of the condition has the values of the whole, and it has
no windows.
-/

namespace SqlVerbs

/-! ## Fresh names -/

theorem numbered_injective (word : String) {m n : Nat}
    (h : Compile.numbered word m = Compile.numbered word n) : m = n := by
  have hdecode (n : Nat) : Nat.ofDigitChars 10
      ((if n < 10 then "0" else "") ++ toString n).toList 0 = n := by
    split <;> simp [Nat.ofDigitChars_cons]
  have htail : (if m < 10 then "0" else "") ++ toString m =
      (if n < 10 then "0" else "") ++ toString n := by
    simpa [Compile.numbered, String.append_assoc] using h
  rw [← hdecode m, htail, hdecode n]

/-- Among one more numbered name than there are taken ones, some name is not taken. -/
theorem exists_numbered_notMem (taken : List String) (n : Nat) :
    ∃ k ≤ taken.length, Compile.numbered "col" (n + k) ∉ taken := by
  by_contra hall
  push Not at hall
  let names := (List.range (taken.length + 1)).map (fun k ↦ Compile.numbered "col" (n + k))
  have hnodup : names.Nodup :=
    List.Nodup.map_on (fun a _ b _ hab ↦ by have := numbered_injective "col" hab; omega)
      List.nodup_range
  have hsubset : names ⊆ taken := by
    intro name hname
    obtain ⟨k, hk, rfl⟩ := List.mem_map.1 hname
    exact hall k (by simpa [Nat.lt_succ_iff] using hk)
  have hlength := (hnodup.subperm hsubset).length_le
  simp only [names, List.length_map, List.length_range] at hlength
  omega

theorem freshName_notMem_of_exists {taken : List String} {n tries : Nat}
    (h : ∃ k ≤ tries, Compile.numbered "col" (n + k) ∉ taken) :
    freshName taken n tries ∉ taken := by
  induction tries generalizing n with
  | zero =>
    obtain ⟨k, hk, hfree⟩ := h
    obtain rfl : k = 0 := by omega
    exact hfree
  | succ tries ih =>
    rw [freshName]
    split
    · rename_i htaken
      apply ih
      obtain ⟨k, hk, hfree⟩ := h
      cases k with
      | zero => exact absurd (by simpa using htaken) hfree
      | succ k => exact ⟨k, by omega, by rwa [Nat.add_right_comm]⟩
    · rename_i hfree
      simpa using hfree

theorem windowName_notMem (visible : List String) (windows : Windows) :
    windowName visible windows ∉ visible ++ windows.map Prod.fst :=
  freshName_notMem_of_exists (exists_numbered_notMem _ _)

/-! ## What is left, and what was taken out -/

open Sql (Semantics Columns)

/-- What it means that windows were taken out of expressions. Every window has a name that was not
in use. What is left has no windows, it mentions nothing new but these names, and in a row where the
names stand for the windows it has the values that it had before. -/
structure Takes (visible : List String) (found found' : Windows) (before after : List Sql.Expr) :
    Prop where
  extends_found : ∃ more, found' = found ++ more
  nodup : (visible ++ found.map Prod.fst).Nodup → (visible ++ found'.map Prod.fst).Nodup
  windows : ∀ w ∈ found', w ∈ found ∨ w.2.isWindow = true ∧ ∃ e ∈ before, w.2 ∈ e.parts
  windowless : ∀ e ∈ after, e.isWindowed = false
  columns : ∀ e ∈ after, ∀ label name, .identifier label name ∈ e.parts →
    (∃ b ∈ before, .identifier label name ∈ b.parts) ∨ label = none ∧ name ∈ found'.map Prod.fst
  values : ∀ {V A : Type} (S : Semantics V A) (n : Nat) (columns columns' : Columns V) (i : Nat),
    (∀ e ∈ before, ∀ name, .identifier none name ∈ e.parts → columns' name i = columns name i) →
    (∀ w ∈ found', columns' w.1 i = (S.eval n columns w.2).value i) →
    after.map (fun e ↦ (S.eval n columns' e).value i) =
      before.map (fun e ↦ (S.eval n columns e).value i)

namespace Takes

variable {visible : List String} {found found' found'' : Windows}
  {before before' after after' : List Sql.Expr}

theorem nil : Takes visible found found [] [] where
  extends_found := ⟨[], by simp⟩
  nodup h := h
  windows w hw := .inl hw
  windowless := by simp
  columns := by simp
  values := by simp

theorem append (h : Takes visible found found' before after)
    (h' : Takes visible found' found'' before' after') :
    Takes visible found found'' (before ++ before') (after ++ after') where
  extends_found := by
    obtain ⟨more, rfl⟩ := h.extends_found
    obtain ⟨more', rfl⟩ := h'.extends_found
    exact ⟨more ++ more', by simp⟩
  nodup hnodup := h'.nodup (h.nodup hnodup)
  windows w hw := by
    rcases h'.windows w hw with hw | ⟨hwindow, e, he, hpart⟩
    · rcases h.windows w hw with hw | ⟨hwindow, e, he, hpart⟩
      · exact .inl hw
      · exact .inr ⟨hwindow, e, List.mem_append_left _ he, hpart⟩
    · exact .inr ⟨hwindow, e, List.mem_append_right _ he, hpart⟩
  windowless := by
    simp only [List.mem_append]
    exact fun e he ↦ he.elim (h.windowless e) (h'.windowless e)
  columns e he label name hname := by
    obtain ⟨more, rfl⟩ := h'.extends_found
    rcases List.mem_append.1 he with he | he
    · rcases h.columns e he label name hname with ⟨b, hb, hpart⟩ | ⟨rfl, hwindow⟩
      · exact .inl ⟨b, List.mem_append_left _ hb, hpart⟩
      · exact .inr ⟨rfl, by rw [List.map_append]; exact List.mem_append_left _ hwindow⟩
    · rcases h'.columns e he label name hname with ⟨b, hb, hpart⟩ | hwindow
      · exact .inl ⟨b, List.mem_append_right _ hb, hpart⟩
      · exact .inr hwindow
  values S n columns columns' i hnames hwindows := by
    rw [List.forall_mem_append] at hnames
    have hsubset : ∀ w ∈ found', w ∈ found'' := by
      obtain ⟨more, rfl⟩ := h'.extends_found
      exact fun w hw ↦ List.mem_append_left _ hw
    have hfirst := h.values S n columns columns' i hnames.1
      (fun w hw ↦ hwindows w (hsubset w hw))
    have hsecond := h'.values S n columns columns' i hnames.2 hwindows
    rw [List.map_append, List.map_append, hfirst, hsecond]

/-- A node that is no window stays, and its value in a row depends on those of its children. -/
theorem node {e e' : Sql.Expr} (h : Takes visible found found' e.children e'.children)
    (hwindow : e'.isWindow = false)
    (hcolumn : ∀ label name, e' = .identifier label name → e = .identifier label name)
    (hvalue : ∀ {V A : Type} (S : Semantics V A) (n : Nat) (columns columns' : Columns V) (i : Nat),
      (∀ name, .identifier none name ∈ e.parts → columns' name i = columns name i) →
      e'.children.map (fun c ↦ (S.eval n columns' c).value i) =
        e.children.map (fun c ↦ (S.eval n columns c).value i) →
      (S.eval n columns' e').value i = (S.eval n columns e).value i) :
    Takes visible found found' [e] [e'] where
  extends_found := h.extends_found
  nodup := h.nodup
  windows w hw := by
    rcases h.windows w hw with hw | ⟨hwindow, c, hc, hpart⟩
    · exact .inl hw
    · exact .inr ⟨hwindow, e, by simp, Sql.Expr.mem_parts_of_child hc hpart⟩
  windowless := by
    simp only [List.mem_singleton, forall_eq]
    rw [Sql.Expr.isWindowed_eq_any, Sql.Expr.parts_eq, List.any_cons, hwindow, Bool.false_or,
      List.any_flatMap, List.any_eq_false]
    intro c hc
    rw [← Sql.Expr.isWindowed_eq_any, h.windowless c hc]
    simp
  columns := by
    simp only [List.mem_singleton, forall_eq, exists_eq_left]
    intro label name hname
    rw [Sql.Expr.parts_eq, List.mem_cons, List.mem_flatMap] at hname
    rcases hname with hself | ⟨c, hc, hpart⟩
    · rw [hcolumn label name hself.symm]
      exact .inl (Sql.Expr.mem_parts_self _)
    · rcases h.columns c hc label name hpart with ⟨b, hb, hpart⟩ | hwindow
      · exact .inl (Sql.Expr.mem_parts_of_child hb hpart)
      · exact .inr hwindow
  values S n columns columns' i hnames hwindows := by
    simp only [List.mem_singleton, forall_eq] at hnames
    have hchildren := h.values S n columns columns' i
      (fun c hc name hname ↦ hnames name (Sql.Expr.mem_parts_of_child hc hname)) hwindows
    simpa using hvalue S n columns columns' i hnames hchildren

/-- A window is taken out as a whole. -/
theorem window (fn : Sql.Expr) (partition order : List Sql.Expr) (frame : Option Sql.Frame) :
    Takes visible found
      (found ++ [(windowName visible found, .window fn partition order frame)])
      [.window fn partition order frame] [.column (windowName visible found)] where
  extends_found := ⟨_, rfl⟩
  nodup hnodup := by
    have hfresh := windowName_notMem visible found
    rw [List.map_append, ← List.append_assoc]
    refine List.Nodup.append hnodup (by simp) ?_
    simpa [List.disjoint_right] using hfresh
  windows w hw := by
    rcases List.mem_append.1 hw with hw | hw
    · exact .inl hw
    · obtain rfl := List.mem_singleton.1 hw
      exact .inr ⟨rfl, _, by simp, Sql.Expr.mem_parts_self _⟩
  windowless := by simp [Sql.Expr.column, Sql.Expr.isWindowed]
  columns := by
    simp only [List.mem_singleton, forall_eq, Sql.Expr.column, Sql.Expr.parts]
    rintro label name ⟨⟩
    exact .inr ⟨rfl, by simp⟩
  values S n columns columns' i _ hwindows := by
    have hname := hwindows (windowName visible found, .window fn partition order frame) (by simp)
    simpa [Sql.Expr.column, Semantics.eval] using hname

end Takes

/-- The values of expressions in a row, read off the values of each. -/
theorem values_of_children {V A : Type} {S : Semantics V A} {n i : Nat}
    {columns columns' : Columns V} {items items' : List Sql.Expr}
    (h : items'.map (fun e ↦ (S.eval n columns' e).value i) =
      items.map (fun e ↦ (S.eval n columns e).value i)) :
    (S.evalAll n columns' items').map (·.value i) =
      (S.evalAll n columns items).map (·.value i) := by
  simpa [Semantics.evalAll_eq_map, Function.comp_def] using h

/-- The values of branches, read off the values of all their parts. -/
theorem branches_of_children {α β : Type} {f : Sql.Expr → β} {g : α → β}
    {branches : List (Sql.Expr × Sql.Expr)} {branches' : List (α × α)}
    (hlength : branches'.length = branches.length) {otherwise : Option Sql.Expr}
    {otherwise' : Option α}
    (h : (branches'.flatMap (fun b ↦ [b.1, b.2]) ++ otherwise'.toList).map g =
      (branches.flatMap (fun b ↦ [b.1, b.2]) ++ otherwise.toList).map f) :
    branches'.map (fun b ↦ (g b.1, g b.2)) = branches.map (fun b ↦ (f b.1, f b.2)) ∧
      otherwise'.map g = otherwise.map f := by
  induction branches generalizing branches' with
  | nil =>
    obtain rfl : branches' = [] := List.eq_nil_of_length_eq_zero hlength
    cases otherwise <;> cases otherwise' <;> simp_all
  | cons b branches ih =>
    cases branches' with
    | nil => cases hlength
    | cons b' branches' =>
      simp only [List.flatMap_cons, List.cons_append, List.nil_append, List.map_cons,
        List.cons.injEq] at h
      have hrest := ih (by simpa using hlength) h.2.2
      exact ⟨by rw [List.map_cons, List.map_cons, h.1, h.2.1, hrest.1], hrest.2⟩

section Traversal

variable (visible : List String)

/-- Windows are taken out of this expression, whatever was taken out before. -/
def TakesOut (e : Sql.Expr) : Prop :=
  ∀ found, Takes visible found (takeWindows visible e found).2 [e] [(takeWindows visible e found).1]

theorem takes_takeWindowsAll {items : List Sql.Expr} (h : ∀ e ∈ items, TakesOut visible e)
    (found : Windows) :
    Takes visible found (takeWindowsAll visible items found).2 items
      (takeWindowsAll visible items found).1 := by
  induction items generalizing found with
  | nil => exact .nil
  | cons e rest ih =>
    rw [List.forall_mem_cons] at h
    exact (h.1 found).append (ih h.2 _)

theorem takes_takeWindowsBranches {branches : List (Sql.Expr × Sql.Expr)}
    (h : ∀ b ∈ branches, TakesOut visible b.1 ∧ TakesOut visible b.2) (found : Windows) :
    Takes visible found (takeWindowsBranches visible branches found).2
      (branches.flatMap (fun b ↦ [b.1, b.2]))
      ((takeWindowsBranches visible branches found).1.flatMap (fun b ↦ [b.1, b.2])) := by
  induction branches generalizing found with
  | nil => exact .nil
  | cons b rest ih =>
    rw [List.forall_mem_cons] at h
    exact ((h.1.1 found).append (h.1.2 _)).append (ih h.2 _)

theorem length_takeWindowsBranches (branches : List (Sql.Expr × Sql.Expr)) (found : Windows) :
    (takeWindowsBranches visible branches found).1.length = branches.length := by
  induction branches generalizing found with
  | nil => rfl
  | cons b rest ih => exact congrArg (· + 1) (ih _)

theorem takes_takeWindowsOption {otherwise : Option Sql.Expr}
    (h : ∀ e ∈ otherwise, TakesOut visible e) (found : Windows) :
    Takes visible found (takeWindowsOption visible otherwise found).2 otherwise.toList
      (takeWindowsOption visible otherwise found).1.toList := by
  cases otherwise with
  | none => exact .nil
  | some e => exact h e rfl found

theorem takes_takeWindows (e : Sql.Expr) : TakesOut visible e := by
  induction e using Sql.Expr.induction with
  | literal | star | raw => exact fun found ↦ .node .nil rfl (fun _ _ h ↦ by cases h) (fun _ _ _ _ _ _ _ ↦ rfl)
  | identifier qualifier name =>
    intro found
    refine .node .nil rfl (fun _ _ h ↦ h) (fun S n columns columns' i hnames _ ↦ ?_)
    cases qualifier with
    | some qualifier => rfl
    | none => exact hnames name (Sql.Expr.mem_parts_self _)
  | list items ih =>
    intro found
    refine .node (takes_takeWindowsAll visible ih found) rfl (fun _ _ h ↦ by cases h)
      (fun S n columns columns' i _ h ↦ ?_)
    exact congrArg S.list (values_of_children h)
  | function name args distinct ih =>
    intro found
    refine .node (takes_takeWindowsAll visible ih found) rfl (fun _ _ h ↦ by cases h)
      (fun S n columns columns' i _ h ↦ ?_)
    exact congrArg (S.function name · distinct) (values_of_children h)
  | binary l op r ihl ihr =>
    intro found
    refine .node ((ihl found).append (ihr _)) rfl (fun _ _ h ↦ by cases h) (fun S n columns columns' i _ h ↦ ?_)
    obtain ⟨hl, h⟩ := List.cons.inj h
    exact congrArg₂ (S.binary · op ·) hl (List.cons.inj h).1
  | unary op e ih =>
    intro found
    refine .node (ih found) rfl (fun _ _ h ↦ by cases h) (fun S n columns columns' i _ h ↦ ?_)
    exact congrArg (S.unary op) (List.cons.inj h).1
  | isNull e ih =>
    intro found
    refine .node (ih found) rfl (fun _ _ h ↦ by cases h) (fun S n columns columns' i _ h ↦ ?_)
    exact congrArg S.isNull (List.cons.inj h).1
  | between e low high ihe ihl ihh =>
    intro found
    refine .node (((ihe found).append (ihl _)).append (ihh _)) rfl (fun _ _ h ↦ by cases h)
      (fun S n columns columns' i _ h ↦ ?_)
    obtain ⟨he, h⟩ := List.cons.inj h
    obtain ⟨hlow, h⟩ := List.cons.inj h
    have hhigh := (List.cons.inj h).1
    simpa [takeWindows, Semantics.eval] using congr (congrArg₂ S.between he hlow) hhigh
  | elemOf e items ihe ihi =>
    intro found
    refine .node ((ihe found).append (ihi _)) rfl (fun _ _ h ↦ by cases h) (fun S n columns columns' i _ h ↦ ?_)
    obtain ⟨he, h⟩ := List.cons.inj h
    exact congrArg₂ S.elemOf he (List.cons.inj h).1
  | caseWhen branches otherwise ihb iho =>
    intro found
    refine .node ((takes_takeWindowsBranches visible ihb found).append
      (takes_takeWindowsOption visible iho _)) rfl (fun _ _ h ↦ by cases h) (fun S n columns columns' i _ h ↦ ?_)
    obtain ⟨hbranches, hotherwise⟩ :=
      branches_of_children (length_takeWindowsBranches visible branches found) h
    simp only [takeWindows, Semantics.eval, Semantics.evalBranches_eq_map,
      Semantics.evalOption_eq_map, Semantics.value_plain, List.map_map, Option.map_map]
    exact congrArg₂ S.caseWhen hbranches hotherwise
  | cast e type ih =>
    intro found
    refine .node (ih found) rfl (fun _ _ h ↦ by cases h) (fun S n columns columns' i _ h ↦ ?_)
    exact congrArg (S.cast · type) (List.cons.inj h).1
  | window fn partition order frame => exact fun found ↦ .window fn partition order frame
  | withinGroup fn order ihf iho =>
    intro found
    refine .node ((ihf found).append (takes_takeWindowsAll visible iho _)) rfl (fun _ _ h ↦ by cases h)
      (fun S n columns columns' i _ h ↦ ?_)
    obtain ⟨hfn, h⟩ := List.cons.inj h
    exact congrArg₂ S.withinGroup hfn (values_of_children h)
  | desc e ih =>
    intro found
    refine .node (ih found) rfl (fun _ _ h ↦ by cases h) (fun S n columns columns' i _ h ↦ ?_)
    exact congrArg S.desc (List.cons.inj h).1

end Traversal

/-! ## Rows with windows as columns -/

namespace Sql.Semantics

variable {V A : Type} (S : Semantics V A)

/-- The rows with more columns at the end, one for each definition. -/
def extend (more : Bindings Expr) (rows : List (Bindings V)) : List (Bindings V) :=
  rows.mapIdx (fun i row ↦ row ++ more.mapValues (fun e ↦ S.across rows e i))

variable {S} {rows : List (Bindings V)} {names : List String} (hrows : HaveColumns rows names)

theorem getElem?_extend (more : Bindings Expr) (i : Nat) : (S.extend more rows)[i]? =
    rows[i]?.map (fun row ↦ row ++ more.mapValues (fun e ↦ S.across rows e i)) := by
  rw [extend, List.getElem?_mapIdx]

theorem extend_nil : S.extend [] rows = rows := by
  refine List.ext_getElem? (fun i ↦ ?_)
  simp [getElem?_extend, Bindings.mapValues]

@[simp] theorem length_extend (more : Bindings Expr) :
    (S.extend more rows).length = rows.length := by simp [extend]

include hrows

theorem columnsOf_extend (more : Bindings Expr) {name : String} (hname : name ∈ names) (i : Nat) :
    S.columnsOf (S.extend more rows) name i = S.columnsOf rows name i := by
  rw [columnsOf, columnsOf, getElem?_extend]
  cases hrow : rows[i]? with
  | none => rfl
  | some row =>
    rw [← hrows row (List.mem_of_getElem? hrow), ← Bindings.get?_isSome] at hname
    obtain ⟨value, hvalue⟩ := Option.isSome_iff_exists.1 hname
    simp [Bindings.get?_append, hvalue]

theorem columnsOf_extend_of_mem {more : Bindings Expr} (hnodup : (names ++ more.names).Nodup)
    {entry : String × Expr} (hentry : entry ∈ more) {i : Nat} (hi : i < rows.length) :
    S.columnsOf (S.extend more rows) entry.1 i = S.across rows entry.2 i := by
  have hnames := hrows _ (List.getElem_mem hi)
  have hnew : entry.1 ∉ Bindings.names rows[i] := by
    rw [hnames]
    exact fun hold ↦ (List.nodup_append.1 hnodup).2.2 _ hold _ (List.mem_map_of_mem hentry) rfl
  have hvalue := Bindings.get?_of_mem (List.nodup_append.1 hnodup).2.1 hentry
  rw [columnsOf, getElem?_extend, List.getElem?_eq_getElem hi]
  simp [Bindings.get?_append, Bindings.get?_eq_none.2 hnew, hvalue]

/-- More columns change nothing for expressions over the others. -/
theorem across_extend (more : Bindings Expr) {e : Expr}
    (he : ∀ name, .identifier none name ∈ e.parts → name ∈ names) {i : Nat}
    (hi : i < rows.length) : S.across (S.extend more rows) e i = S.across rows e i := by
  rw [across, across, length_extend]
  refine (S.eval_congr (fun name hname j _ ↦ ?_)).value i hi
  exact columnsOf_extend hrows more (he name hname) j

theorem withColumn_extend {more : Bindings Expr} {name : String} {e : Expr}
    (hname : name ∉ names ++ more.names)
    (he : ∀ name, .identifier none name ∈ e.parts → name ∈ names) :
    S.withColumn name e (S.extend more rows) = S.extend (more ++ [(name, e)]) rows := by
  refine List.ext_getElem? (fun i ↦ ?_)
  rw [withColumn, List.getElem?_mapIdx, getElem?_extend, getElem?_extend]
  cases hrow : rows[i]? with
  | none => rfl
  | some row =>
    have hi : i < rows.length := (List.getElem?_eq_some_iff.1 hrow).1
    have hnew : name ∉ (row ++ more.mapValues (fun e ↦ S.across rows e i)).map Prod.fst := by
      have hnames : row.map Prod.fst = names := hrows row (List.mem_of_getElem? hrow)
      simpa [hnames, Bindings.names, Bindings.mapValues] using hname
    rw [Option.map_some, Option.map_some, Option.map_some, across_extend hrows more he hi,
      Bindings.insert_of_notMem hnew]
    simp [Bindings.mapValues]

/-- Rows may be kept by a condition without windows if the windows are columns. -/
theorem keepWhere_extend {windows : Windows} {condition rest : Expr}
    (htakes : Takes names [] windows [condition] [rest]) (hnodup : names.Nodup)
    (hcondition : ∀ name, .identifier none name ∈ condition.parts → name ∈ names) :
    S.project (passed names) (S.keepWhere [rest] (S.extend windows rows)) =
      S.keepWhere [condition] rows := by
  have hwindows : (names ++ windows.map Prod.fst).Nodup := htakes.nodup (by simpa using hnodup)
  have hvalue : ∀ i < rows.length,
      S.across (S.extend windows rows) rest i = S.across rows condition i := by
    intro i hi
    have hvalues := htakes.values S rows.length (S.columnsOf rows)
      (S.columnsOf (S.extend windows rows)) i
      (by simpa using fun name hname ↦ columnsOf_extend hrows windows (hcondition name hname) i)
      (fun w hw ↦ columnsOf_extend_of_mem hrows hwindows hw hi)
    simpa [across] using hvalues
  have hback : ∀ i row, rows[i]? = some row → (passed names).mapValues
      (S.inRow (row ++ Bindings.mapValues (fun e ↦ S.across rows e i) windows)) = row := by
    intro i row hrow
    have hnames := hrows row (List.mem_of_getElem? hrow)
    subst hnames
    exact S.mapValues_passed hnodup _
  rw [S.project_eq_map (isWindowed_passed names), keepWhere, keepWhere, extend]
  rw [map_keepAt_mapIdx hback]
  refine keepAt_congr (fun i hi ↦ ?_)
  simpa [extend] using congrArg S.holds (hvalue i hi)

end Sql.Semantics

end SqlVerbs
