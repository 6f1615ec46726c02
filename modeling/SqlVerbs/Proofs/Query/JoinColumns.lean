import Mathlib.Data.List.Perm.Subperm
import SqlVerbs.Proofs.Query.FrozenStatements

/-!
# Columns of joins

Except for semi and anti joins, a join has a column for each left column and for each right column
that is no key. A name that both sides have gets suffixes, one for each side. Columns are written
one after the other, so that a name with a suffix that is the name of another column costs one of
both. All columns are there if and only if this does not happen.
-/

namespace SqlVerbs

open Compile (Ensures Yields)

/-- Pairs of which none is lost where they are read as entries have different names. -/
theorem Bindings.nodup_of_length_ofPairs {α : Type} {pairs : List (String × α)}
    (h : (ofPairs pairs).length = pairs.length) : (pairs.map Prod.fst).Nodup := by
  have hnodup : (names (ofPairs pairs)).Nodup := nodup_ofPairs pairs
  have hsubset : names (ofPairs pairs) ⊆ pairs.map Prod.fst := by
    intro name hname
    rwa [names_ofPairs, mem_dedup] at hname
  have hlength : (pairs.map Prod.fst).length ≤ (names (ofPairs pairs)).length := by
    rw [names, List.length_map, List.length_map, h]
  exact ((List.subperm_of_subset hnodup hsubset).perm_of_length_le hlength).nodup_iff.1 hnodup

namespace Join

/-! ## Names with suffixes -/

/-- A name with a suffix, if it needs one. -/
def suffixed (clashes : String → Bool) (suffix name : String) : String :=
  if clashes name then name ++ suffix else name

/-- Does a left column need a suffix? The right side has its name, too, and it is no key. -/
def leftClashes (keys : List (String × String)) (rightColumns : List String) (name : String) :
    Bool :=
  (keys.find? (fun key ↦ key.1 = name)).isNone && (rightKept keys rightColumns).contains name

/-- The columns that keep their names. -/
def plainNames (keys : List (String × String)) (leftColumns rightColumns : List String) :
    List String :=
  leftColumns.filter (fun name ↦ !leftClashes keys rightColumns name) ++
    (rightKept keys rightColumns).filter (fun name ↦ !leftColumns.contains name)

/-- Is each name with a suffix neither the name of another column nor a name with the other
suffix? -/
def suffixesApart (keys : List (String × String)) (suffixes : String × String)
    (leftColumns rightColumns : List String) : Bool :=
  let leftOnes := leftColumns.filter (leftClashes keys rightColumns)
  let rightOnes := (rightKept keys rightColumns).filter leftColumns.contains
  let plain := plainNames keys leftColumns rightColumns
  leftOnes.all (fun name ↦ !plain.contains (name ++ suffixes.1)) &&
    rightOnes.all (fun name ↦ !plain.contains (name ++ suffixes.2)) &&
    leftOnes.all fun name ↦ rightOnes.all fun other ↦ name ++ suffixes.1 ≠ other ++ suffixes.2

theorem suffixed_of_clash {clashes : String → Bool} {name : String} (h : clashes name = true)
    (suffix : String) : suffixed clashes suffix name = name ++ suffix := if_pos h

theorem suffixed_of_free {clashes : String → Bool} {name : String} (h : clashes name = false)
    (suffix : String) : suffixed clashes suffix name = name := by
  rw [suffixed, h, if_neg Bool.false_ne_true]

theorem nodup_map_suffixed {columns : List String} (hnodup : columns.Nodup)
    (clashes : String → Bool) (suffix : String) :
    (columns.map (suffixed clashes suffix)).Nodup ↔
      ∀ name ∈ columns, clashes name = true → ∀ other ∈ columns, clashes other = false →
        name ++ suffix ≠ other := by
  rw [List.nodup_map_iff_inj_on hnodup]
  constructor
  · intro hinjective name hname hclash other hother hfree heq
    have hsame := hinjective name hname other hother
      (by rw [suffixed_of_clash hclash, suffixed_of_free hfree, heq])
    rw [hsame, hfree] at hclash
    cases hclash
  · intro hapart name hname other hother heq
    cases hclash : clashes name <;> cases hclash' : clashes other <;>
      simp only [suffixed, hclash, hclash', if_true, if_false, Bool.false_eq_true] at heq
    · exact heq
    · exact absurd heq.symm (hapart other hother hclash' name hname hclash)
    · exact absurd heq (hapart name hname hclash other hother hclash')
    · exact (String.append_left_inj suffix).1 heq

theorem mem_plainNames {keys : List (String × String)} {leftColumns rightColumns : List String}
    {name : String} : name ∈ plainNames keys leftColumns rightColumns ↔
      name ∈ leftColumns ∧ leftClashes keys rightColumns name = false ∨
        name ∈ rightKept keys rightColumns ∧ leftColumns.contains name = false := by
  simp [plainNames]

theorem suffixesApart_iff {keys : List (String × String)} {suffixes : String × String}
    {leftColumns rightColumns : List String} :
    suffixesApart keys suffixes leftColumns rightColumns = true ↔
      (∀ name ∈ leftColumns, leftClashes keys rightColumns name = true →
        name ++ suffixes.1 ∉ plainNames keys leftColumns rightColumns) ∧
      (∀ name ∈ rightKept keys rightColumns, leftColumns.contains name = true →
        name ++ suffixes.2 ∉ plainNames keys leftColumns rightColumns) ∧
      ∀ name ∈ leftColumns, leftClashes keys rightColumns name = true →
        ∀ other ∈ rightKept keys rightColumns, leftColumns.contains other = true →
          name ++ suffixes.1 ≠ other ++ suffixes.2 := by
  simp [suffixesApart, and_assoc, ← Bool.not_eq_true, ← imp_iff_not_or]

/-- No left name is a right name: where both keep theirs, the right column is none of the left
ones. -/
theorem suffixed_ne_iff {clashes : String → Bool} {suffixes : String × String}
    {leftColumns kept : List String} :
    (∀ name ∈ leftColumns, ∀ other ∈ kept, suffixed clashes suffixes.1 name ≠
      suffixed leftColumns.contains suffixes.2 other) ↔
      (∀ name ∈ leftColumns, clashes name = true → ∀ other ∈ kept,
        leftColumns.contains other = false → name ++ suffixes.1 ≠ other) ∧
      (∀ other ∈ kept, leftColumns.contains other = true → ∀ name ∈ leftColumns,
        clashes name = false → other ++ suffixes.2 ≠ name) ∧
      ∀ name ∈ leftColumns, clashes name = true → ∀ other ∈ kept,
        leftColumns.contains other = true → name ++ suffixes.1 ≠ other ++ suffixes.2 := by
  constructor
  · intro hapart
    refine ⟨?_, ?_, ?_⟩
    · intro name hname hclash other hother hfree
      rw [← suffixed_of_clash hclash, ← suffixed_of_free hfree suffixes.2]
      exact hapart name hname other hother
    · intro other hother hclash name hname hfree
      rw [← suffixed_of_clash hclash, ← suffixed_of_free hfree suffixes.1]
      exact (hapart name hname other hother).symm
    · intro name hname hclash other hother hclash'
      rw [← suffixed_of_clash hclash, ← suffixed_of_clash hclash']
      exact hapart name hname other hother
  · rintro ⟨hleft, hright, hboth⟩ name hname other hother
    cases hclash : clashes name <;> cases hclash' : leftColumns.contains other <;>
      simp only [suffixed, hclash, hclash', if_true, if_false, Bool.false_eq_true]
    · rintro rfl
      simp [hname] at hclash'
    · exact (hright other hother hclash' name hname hclash).symm
    · exact hleft name hname hclash other hother hclash'
    · exact hboth name hname hclash other hother hclash'

theorem nodup_suffixed_iff {leftColumns rightColumns : List String} (hleft : leftColumns.Nodup)
    (hright : rightColumns.Nodup) (keys : List (String × String)) (suffixes : String × String) :
    (leftColumns.map (suffixed (leftClashes keys rightColumns) suffixes.1) ++
      (rightKept keys rightColumns).map (suffixed leftColumns.contains suffixes.2)).Nodup ↔
        suffixesApart keys suffixes leftColumns rightColumns = true := by
  have hkept : (rightKept keys rightColumns).Nodup := hright.filter _
  rw [List.nodup_append, nodup_map_suffixed hleft, nodup_map_suffixed hkept, suffixesApart_iff]
  simp only [List.forall_mem_map, suffixed_ne_iff, mem_plainNames]
  grind

/-! ## Columns and their definitions -/

/-- A column of one of the sides. -/
inductive Origin where
  | left (name : String)
  | right (name : String)

/-- What a join has columns for: the left columns, and the right ones that are no keys. -/
def origins (keys : List (String × String)) (leftColumns rightColumns : List String) :
    List Origin :=
  leftColumns.map .left ++ (rightKept keys rightColumns).map .right

/-- The definition of a key: the side that has all rows, or the first value of both. -/
def keyDefinition (type : JoinType) (key : String × String) : Sql.Expr :=
  match type with
  | .right => rightColumn key.2
  | .full => .call "COALESCE" [leftColumn key.1, rightColumn key.2]
  | _ => leftColumn key.1

/-- The definition of a column of a join. -/
inductive Defines (type : JoinType) (keys : List (String × String)) : Origin → Sql.Expr → Prop
  | left {name : String} (other : ∀ key ∈ keys, key.1 ≠ name) :
    Defines type keys (.left name) (leftColumn name)
  | key {key : String × String} (mem : key ∈ keys) :
    Defines type keys (.left key.1) (keyDefinition type key)
  | right (name : String) : Defines type keys (.right name) (rightColumn name)

/-- The level has one column for each column of the sides that is no right key, in their order, and
their names are different. -/
structure HasAllColumns (type : JoinType) (keys : List (String × String))
    (leftColumns rightColumns : List String) (level : Level) : Prop where
  names : level.names.Nodup
  columns : List.Forall₂ (Defines type keys) (origins keys leftColumns rightColumns)
    level.columns.values

theorem defines_leftDefinition (type : JoinType) (keys : List (String × String)) (name : String) :
    Defines type keys (.left name)
      (leftDefinition type (keys.find? fun key ↦ key.1 = name) name) := by
  cases hkey : keys.find? (fun key ↦ key.1 = name) with
  | none =>
    have hdefinition : leftDefinition type none name = leftColumn name := by cases type <;> rfl
    rw [hdefinition]
    exact .left fun key hmem ↦ by simpa using List.find?_eq_none.1 hkey key hmem
  | some key =>
    obtain rfl : key.1 = name := by simpa using List.find?_some hkey
    have hdefinition : leftDefinition type (some key) key.1 = keyDefinition type key := by
      cases type <;> rfl
    rw [hdefinition]
    exact .key (List.mem_of_find?_eq_some hkey)

/-- The columns as they are written, one after the other. -/
def outputs (type : JoinType) (keys : List (String × String)) (suffixes : String × String)
    (leftColumns rightColumns : List String) : List (String × Sql.Expr) :=
  leftColumns.map (leftOutput type keys (rightKept keys rightColumns) suffixes.1) ++
    (rightKept keys rightColumns).map (rightOutput leftColumns suffixes.2)

section Outputs

variable {type : JoinType} {keys : List (String × String)} {suffixes : String × String}
  {leftColumns rightColumns : List String}

theorem names_outputs : (outputs type keys suffixes leftColumns rightColumns).map Prod.fst =
    leftColumns.map (suffixed (leftClashes keys rightColumns) suffixes.1) ++
      (rightKept keys rightColumns).map (suffixed leftColumns.contains suffixes.2) := by
  rw [outputs, List.map_append, List.map_map, List.map_map]
  rfl

theorem defines_outputs :
    List.Forall₂ (Defines type keys) (origins keys leftColumns rightColumns)
      ((outputs type keys suffixes leftColumns rightColumns).map Prod.snd) := by
  rw [outputs, List.map_append, List.map_map, List.map_map]
  refine List.rel_append ?_ ?_
  · rw [List.forall₂_map_left_iff, List.forall₂_map_right_iff, List.forall₂_same]
    exact fun name _ ↦ defines_leftDefinition type keys name
  · rw [List.forall₂_map_left_iff, List.forall₂_map_right_iff, List.forall₂_same]
    exact fun name _ ↦ .right name

/-- The columns of a join are all there if and only if the suffixes keep their names apart. -/
theorem hasAllColumns_iff (hleft : leftColumns.Nodup) (hright : rightColumns.Nodup)
    {level : Level}
    (hcolumns : level.columns = columns type keys suffixes leftColumns rightColumns) :
    HasAllColumns type keys leftColumns rightColumns level ↔
      suffixesApart keys suffixes leftColumns rightColumns = true := by
  have hwritten : level.columns =
      Bindings.ofPairs (outputs type keys suffixes leftColumns rightColumns) := hcolumns
  have hdefines := @defines_outputs type keys suffixes leftColumns rightColumns
  rw [← nodup_suffixed_iff hleft hright, ← @names_outputs type]
  constructor
  · intro h
    apply Bindings.nodup_of_length_ofPairs
    have hlength := h.columns.length_eq.symm.trans hdefines.length_eq
    rwa [Bindings.values, List.length_map, List.length_map, hwritten] at hlength
  · intro hnodup
    rw [Bindings.ofPairs_of_nodup hnodup] at hwritten
    refine ⟨?_, ?_⟩
    · rwa [Level.names, hwritten]
    · rwa [hwritten]

end Outputs

theorem columns_level {type : JoinType} (htype : type.isTest = false) (d : Dialect)
    (keys : List (String × String)) (suffixes : String × String)
    (left right : Sql.Source × List String) :
    (level d type keys suffixes left right).columns =
      columns type keys suffixes left.2 right.2 := by
  cases type with
  | semi | anti => cases htype
  | inner | left | right | full => rfl

/-! ## Compiling joins -/

theorem unknownKey?_of_known {left right : Level} {keys : List (String × String)}
    (h : ∀ key ∈ keys, key.1 ∈ left.names ∧ key.2 ∈ right.names) :
    unknownKey? left right keys = none := by
  induction keys with
  | nil => rfl
  | cons key later ih =>
    rw [List.forall_mem_cons] at h
    have hleft : left.has key.1 = true := Bindings.get?_isSome.2 h.1.1
    have hright : right.has key.2 = true := Bindings.get?_isSome.2 h.1.2
    rw [unknownKey?, hleft, hright]
    exact ih h.2

/-- A stage whose order can be compiled can be a side. -/
theorem side_total {target : Target} {stage : Stage} {order : List Sql.Expr}
    (horder : (stage.orderBy target).Yields order) (label : String) (progress : Progress) :
    ∃ made after, side target stage label progress = .ok (made, after) := by
  rw [side]
  cases stage.level.bareTable? with
  | some name => exact ⟨_, progress, rfl⟩
  | none =>
    obtain ⟨nested, after, hnested⟩ := Stage.nestedOrderBy_total horder progress
    exact ⟨_, after, Compile.bind_of_ok hnested _⟩

end Join

namespace Query

variable {target : Target} {left right : Query}

theorem build_of_compile {query : Query} {compiled : Compiled}
    (h : query.compile target = .ok compiled) :
    ∃ stage after order, query.plan.build target {} = .ok (stage, after) ∧
      (stage.orderBy target).Yields order ∧
        query.plan.outline.columns = compiled.columns ∧ compiled.columns.Nodup := by
  obtain ⟨⟨⟨select, columns⟩, progress⟩, hselect, hcompiled⟩ := bind_eq_ok.1 h
  cases hcompiled
  obtain ⟨stage, after, order, hbuild, horder, -, hnames⟩ := toSelect_eq_ok.1 hselect
  have hfollows := query.plan.build_follows target {} stage after hbuild
  refine ⟨stage, after, order, hbuild, ⟨after, progress, horder⟩, ?_, ?_⟩
  · exact hfollows.names.symm.trans hnames
  · exact hnames ▸ hfollows.nodup

/-- Two queries that compile can be joined by keys that they have. -/
theorem compile_join {l r : Compiled} (hleft : left.compile target = .ok l)
    (hright : right.compile target = .ok r) (type : JoinType) {keys : List (String × String)}
    (hkeys : ∀ key ∈ keys, key.1 ∈ l.columns ∧ key.2 ∈ r.columns) (suffixes : String × String) :
    ∃ joined, (Query.join left right type keys suffixes).compile target = .ok joined := by
  obtain ⟨leftStage, between, leftOrder, hleftBuild, hleftOrder, hleftNames, -⟩ :=
    build_of_compile hleft
  obtain ⟨alone, after, rightOrder, haloneBuild, haloneOrder, hrightNames, -⟩ :=
    build_of_compile hright
  obtain ⟨rightStage, after', hrightBuild, halike⟩ := Plan.build_later haloneBuild between
  have hrightOrder : (rightStage.orderBy target).Yields rightOrder := by
    obtain ⟨-, -, -⟩ := halike
    exact haloneOrder
  have hleftFollows := left.plan.build_follows target {} leftStage between hleftBuild
  have hrightFollows := right.plan.build_follows target between rightStage after' hrightBuild
  have hknown : Join.unknownKey? leftStage.level rightStage.level keys = none := by
    apply Join.unknownKey?_of_known
    rwa [hleftFollows.names, hrightFollows.names, hleftNames, hrightNames]
  obtain ⟨leftSide, afterLeft, hleftSide⟩ := Join.side_total hleftOrder Join.leftLabel after'
  obtain ⟨rightSide, afterRight, hrightSide⟩ :=
    Join.side_total hrightOrder Join.rightLabel afterLeft
  have hbuild : (Query.join left right type keys suffixes).plan.build target {} =
      .ok ({ leftStage with
        level := Join.level target.dialect type keys suffixes leftSide rightSide
        order := [] }, afterRight) := by
    change (left.plan.build target >>= fun left ↦ right.plan.build target >>= fun right ↦
      left.join target right type keys suffixes) {} = _
    rw [Compile.bind_of_ok hleftBuild, Compile.bind_of_ok hrightBuild, Stage.join, hknown]
    exact (Compile.bind_of_ok hleftSide _).trans (Compile.bind_of_ok hrightSide _)
  have hselect := toSelect_eq_ok.2 ⟨_, afterRight, [], hbuild, rfl, rfl, rfl⟩
  exact ⟨_, bind_eq_ok.2 ⟨_, hselect, rfl⟩⟩

/-- Joins lose no column as long as suffixes keep names apart. Two queries that compile have an
inner, left, right or full join by any keys that they have. It has one column for each left column
and for each right column that is no key, with different names; each is defined as the column of its
side, and a left key as that of the side that has all rows, or as the first value of both. All this
holds if and only if each name with a suffix is neither the name of another column nor a name with
the other suffix; otherwise some column is written over by another one. -/
theorem join_keeps_columns_iff {l r : Compiled} (hleft : left.compile target = .ok l)
    (hright : right.compile target = .ok r) {type : JoinType} (htype : type.isTest = false)
    {keys : List (String × String)}
    (hkeys : ∀ key ∈ keys, key.1 ∈ l.columns ∧ key.2 ∈ r.columns) (suffixes : String × String) :
    (∃ joined, (Query.join left right type keys suffixes).compile target = .ok joined) ∧
      Ensures (fun stage ↦
        Join.HasAllColumns type keys l.columns r.columns stage.level ↔
          Join.suffixesApart keys suffixes l.columns r.columns = true)
        ((Query.join left right type keys suffixes).build target) := by
  refine ⟨compile_join hleft hright type hkeys suffixes, ?_⟩
  obtain ⟨-, -, -, -, -, hleftNames, hleftNodup⟩ := build_of_compile hleft
  obtain ⟨-, -, -, -, -, hrightNames, hrightNodup⟩ := build_of_compile hright
  rw [build_eq_plan]
  refine .bind (left.plan.build_follows target) fun leftStage hleftFollows ↦ ?_
  refine .bind (right.plan.build_follows target) fun rightStage hrightFollows ↦ ?_
  refine .mono (leftStage.join_joined rightStage type keys suffixes) ?_
  rintro _ ⟨-, hleftMade, hrightMade⟩
  apply Join.hasAllColumns_iff hleftNodup hrightNodup
  rw [Join.columns_level htype, Join.side_names.of_yields hleftMade,
    Join.side_names.of_yields hrightMade, hleftFollows.names, hrightFollows.names, hleftNames,
    hrightNames]

end Query

/-- Orders with a note, and the shops that they were made in, which have notes, too. -/
def ordersOfShops : Query :=
  .join (.table "orders" ["id", "shop", "note"]) (.table "shops" ["id", "note", "city"]) .full
    [("shop", "id")] Query.defaultSuffixes

def ordersOfShops.target : Target where
  dialect := .ansi
  now := ⟨⟨2000, 1, 1⟩, 0, 0, 0⟩

open ordersOfShops in
/-- The note of each side has a suffix, and the shop is taken from both sides. -/
theorem Query.join_keeps_columns_iff_ordersOfShops :
    ∃ l r stage, (Query.table "orders" ["id", "shop", "note"]).compile target = .ok l ∧
      (Query.table "shops" ["id", "note", "city"]).compile target = .ok r ∧
      JoinType.full.isTest = false ∧
      (∀ key ∈ [("shop", "id")], key.1 ∈ l.columns ∧ key.2 ∈ r.columns) ∧
      (ordersOfShops.build target).Yields stage ∧
      stage.level.names = ["id", "shop", "note.x", "note.y", "city"] ∧
      Join.HasAllColumns .full [("shop", "id")] l.columns r.columns stage.level := by
  have hleft : (Query.table "orders" ["id", "shop", "note"]).compile target =
      .ok ⟨_, _, ["id", "shop", "note"]⟩ := rfl
  have hright : (Query.table "shops" ["id", "note", "city"]).compile target =
      .ok ⟨_, _, ["id", "note", "city"]⟩ := rfl
  have hkeys : ∀ key ∈ [("shop", "id")],
      key.1 ∈ ["id", "shop", "note"] ∧ key.2 ∈ ["id", "note", "city"] := by decide
  have hbuild : (ordersOfShops.build target).Yields _ := ⟨{}, _, rfl⟩
  obtain ⟨-, hcolumns⟩ := Query.join_keeps_columns_iff hleft hright
    (rfl : JoinType.full.isTest = false) hkeys Query.defaultSuffixes
  exact ⟨_, _, _, hleft, hright, rfl, hkeys, hbuild, rfl,
    (hcolumns.of_yields hbuild).2 (by decide +kernel)⟩

/-- With the first suffix, the name of a shared column is that of another left column. -/
example : Join.suffixesApart [("id", "id")] Query.defaultSuffixes ["id", "note", "note.x"]
    ["id", "note"] = false := by decide +kernel

end SqlVerbs
