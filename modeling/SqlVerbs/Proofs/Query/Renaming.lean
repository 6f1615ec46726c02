import SqlVerbs.Proofs.Query.JoinColumns

/-!
# Renamed columns

A rename writes the columns again, one after the other, each under its new name. A new name may be
that of a column which gets another name itself, before or after it, so that names can be swapped.
If it is the name of a column that keeps its own, one of the two is written over.
-/

namespace SqlVerbs

open Compile (Ensures Yields)

/-! ## New names -/

namespace Stage

variable {columns : List (String × String)} {name new : String} {names : List String}

/-- Does no column get the name of a column that keeps its own? -/
def newNamesFree (columns : List (String × String)) (names : List String) : Bool :=
  columns.all fun column ↦ !names.contains column.1 || (columns.map Prod.snd).contains column.1

theorem newNamesFree_iff : newNamesFree columns names = true ↔
    ∀ column ∈ columns, column.1 ∈ names → column.1 ∈ columns.map Prod.snd := by
  simp [newNamesFree, ← Bool.not_eq_true, ← imp_iff_not_or]

theorem newName?_eq_none : newName? columns name = none ↔ ∀ column ∈ columns, column.2 ≠ name := by
  simp [newName?]

theorem newName?_eq_some (hold : (columns.map Prod.snd).Nodup) :
    newName? columns name = some new ↔ (new, name) ∈ columns := by
  constructor
  · intro h
    obtain ⟨column, hfound, rfl⟩ := Option.map_eq_some_iff.1 h
    obtain rfl : column.2 = name := by simpa using List.find?_some hfound
    exact List.mem_of_find?_eq_some hfound
  · intro h
    cases hnew : newName? columns name with
    | none => exact absurd rfl (newName?_eq_none.1 hnew _ h)
    | some other =>
      obtain ⟨column, hfound, rfl⟩ := Option.map_eq_some_iff.1 hnew
      have hname : column.2 = name := by simpa using List.find?_some hfound
      have hsame : column = (new, name) :=
        List.inj_on_of_nodup_map hold (List.mem_of_find?_eq_some hfound) h hname
      rw [hsame]

/-- New names may be swapped, but not taken from columns that keep them. -/
theorem nodup_map_newName?_iff (hnames : names.Nodup) (hnew : (columns.map Prod.fst).Nodup)
    (hold : (columns.map Prod.snd).Nodup) (hknown : ∀ column ∈ columns, column.2 ∈ names) :
    (names.map fun name ↦ (newName? columns name).getD name).Nodup ↔
      newNamesFree columns names = true := by
  rw [List.nodup_map_iff_inj_on hnames, newNamesFree_iff]
  constructor
  · intro hinjective column hcolumn htaken
    by_contra hkept
    have hkeeps : newName? columns column.1 = none :=
      newName?_eq_none.2 fun other hother heq ↦ hkept (heq ▸ List.mem_map_of_mem hother)
    have hgets : newName? columns column.2 = some column.1 := (newName?_eq_some hold).2 hcolumn
    have hsame : column.2 = column.1 :=
      hinjective column.2 (hknown column hcolumn) column.1 htaken (by rw [hgets, hkeeps]; rfl)
    exact hkept (hsame ▸ List.mem_map_of_mem hcolumn)
  · intro hfree
    -- A column that keeps its name has it alone.
    have hapart (name other new : String) (hother : other ∈ names)
        (hgets : newName? columns name = some new) (hkeeps : newName? columns other = none) :
        new ≠ other := by
      rintro rfl
      obtain ⟨column, hcolumn, hsame⟩ :=
        List.mem_map.1 (hfree _ ((newName?_eq_some hold).1 hgets) hother)
      exact newName?_eq_none.1 hkeeps column hcolumn hsame
    intro name hname other hother heq
    cases hfirst : newName? columns name <;> cases hsecond : newName? columns other <;>
      rw [hfirst, hsecond] at heq
    · exact heq
    · exact absurd heq.symm (hapart other name _ hname hsecond hfirst)
    · exact absurd heq (hapart name other _ hother hfirst hsecond)
    · have hsame := List.inj_on_of_nodup_map hnew ((newName?_eq_some hold).1 hfirst)
        ((newName?_eq_some hold).1 hsecond) heq
      exact congrArg Prod.snd hsame

end Stage

/-! ## Columns under new names -/

namespace Level

/-- A column before and after a rename. -/
inductive Renames (columns : List (String × String)) : String × Sql.Expr → String × Sql.Expr → Prop
  | renamed {new old : String} (listed : (new, old) ∈ columns) (definition : Sql.Expr) :
    Renames columns (old, definition) (new, definition)
  | kept {name : String} (unlisted : ∀ column ∈ columns, column.2 ≠ name)
    (definition : Sql.Expr) : Renames columns (name, definition) (name, definition)

/-- The second level has the columns of the first one in their positions, with their definitions,
under their new names, and these are different. -/
structure KeepsColumns (columns : List (String × String)) (level next : Level) : Prop where
  names : next.names.Nodup
  columns : List.Forall₂ (Renames columns) level.columns next.columns

variable {columns : List (String × String)} {level next : Level}

theorem renames_newName? (hold : (columns.map Prod.snd).Nodup) (entry : String × Sql.Expr) :
    Renames columns entry ((Stage.newName? columns entry.1).getD entry.1, entry.2) := by
  cases hnew : Stage.newName? columns entry.1 with
  | none => exact .kept (Stage.newName?_eq_none.1 hnew) entry.2
  | some new => exact .renamed ((Stage.newName?_eq_some hold).1 hnew) entry.2

/-- A rename keeps all columns if and only if it keeps their number, and if and only if no column
gets the name of one that keeps its own. -/
theorem keepsColumns_iff (hnames : level.names.Nodup) (hnew : (columns.map Prod.fst).Nodup)
    (hold : (columns.map Prod.snd).Nodup) (hknown : ∀ column ∈ columns, column.2 ∈ level.names)
    (hnext : next.columns = Stage.renamedColumns columns level) :
    (KeepsColumns columns level next ↔ Stage.newNamesFree columns level.names = true) ∧
      (next.names.length = level.names.length ↔
        Stage.newNamesFree columns level.names = true) := by
  let pairs : List (String × Sql.Expr) := level.columns.map fun entry ↦
    ((Stage.newName? columns entry.1).getD entry.1, entry.2)
  have hpairs : next.columns = Bindings.ofPairs pairs := hnext
  have hwritten : pairs.map Prod.fst =
      level.names.map fun name ↦ (Stage.newName? columns name).getD name := by
    simp [pairs, Level.names, Bindings.names]
  rw [← Stage.nodup_map_newName?_iff hnames hnew hold hknown, ← hwritten]
  have hlength : next.names.length = level.names.length → (pairs.map Prod.fst).Nodup := by
    intro h
    apply Bindings.nodup_of_length_ofPairs
    rw [← hpairs]
    simpa [Level.names, Bindings.names, pairs] using h
  have hkeeps : (pairs.map Prod.fst).Nodup → KeepsColumns columns level next := by
    intro hnodup
    rw [Bindings.ofPairs_of_nodup hnodup] at hpairs
    refine ⟨?_, ?_⟩
    · rwa [Level.names, hpairs]
    · rw [hpairs, List.forall₂_map_right_iff, List.forall₂_same]
      exact fun entry _ ↦ renames_newName? hold entry
  have hcounts : KeepsColumns columns level next → next.names.length = level.names.length := by
    intro h
    rw [Level.names, Level.names, Bindings.names, Bindings.names, List.length_map, List.length_map,
      h.columns.length_eq]
  exact ⟨⟨fun h ↦ hlength (hcounts h), hkeeps⟩, ⟨hlength, fun h ↦ hcounts (hkeeps h)⟩⟩

end Level

/-! ## Compiling renames -/

section Renames

variable {target : Target} {stage : Stage} {columns : List (String × String)}

theorem Stage.unknown?_of_known {level : Level} {names : List String}
    (h : ∀ name ∈ names, name ∈ level.names) : unknown? level names = none := by
  rw [unknown?, List.find?_eq_none]
  intro name hname
  have hhas : level.has name = true := Bindings.get?_isSome.2 (h name hname)
  simp [hhas]

/-- An open stage stays as it is, and a closed one is nested. -/
theorem Stage.Follows.reopen {o : Outline} (h : stage.Follows o) :
    Ensures (fun opened ↦ stage.Nests target opened ∧
      (stage.level.closed = false → opened = stage) ∧ opened.Follows o) (stage.reopen target) := by
  rw [Stage.reopen]
  cases hclosed : stage.level.closed with
  | false => exact .pure ⟨.none, fun _ ↦ rfl, h⟩
  | true =>
    refine .mono stage.wrap_nested fun opened hnested ↦ ?_
    exact ⟨.more .none hnested, fun hopen ↦ absurd hopen.symm Bool.false_ne_true, h.nested hnested⟩

/-- The stage with its columns under their new names. -/
def Stage.rename (stage : Stage) (columns : List (String × String)) : Stage :=
  { stage with
    level := { stage.level with columns := renamedColumns columns stage.level }
    groups := stage.groups.map (fun group ↦ (newName? columns group).getD group) }

/-- Of a query whose columns are known, nothing but nesting comes before a rename. -/
theorem Query.build_rename {query : Query} {names : List String}
    (hnames : query.plan.outline.columns = names)
    (hknown : ∀ column ∈ columns, column.2 ∈ names) {progress progress' : Progress}
    (hbuild : query.build target progress = .ok (stage, progress')) :
    (query.rename columns).build target progress =
      (stage.reopen target >>= fun opened ↦ pure (opened.rename columns)) progress' := by
  have hfollows : stage.Follows query.plan.outline := by
    rw [query.build_eq_plan] at hbuild
    exact query.plan.build_follows target progress stage progress' hbuild
  change (query.build target >>= fun stage ↦ stage.pick target columns true) progress = _
  rw [Compile.bind_of_ok hbuild]
  change (stage.reopen target >>= _) progress' = _
  cases hopened : stage.reopen target progress' with
  | error e => rw [Compile.bind_of_error hopened, Compile.bind_of_error hopened]
  | ok result =>
    obtain ⟨opened, after⟩ := result
    have hopenedNames : opened.level.names = names :=
      (hfollows.reopen progress' opened after hopened).2.2.names.trans hnames
    have hfound : Stage.unknown? opened.level (columns.map Prod.snd) = none := by
      refine Stage.unknown?_of_known fun name hname ↦ ?_
      obtain ⟨column, hcolumn, rfl⟩ := List.mem_map.1 hname
      exact hopenedNames ▸ hknown column hcolumn
    rw [Compile.bind_of_ok hopened, Compile.bind_of_ok hopened, hfound]
    rfl

end Renames

namespace Query

variable {target : Target} {query : Query}

/-- A rename keeps every column, unless it gives a column the name of one that keeps its own. A
query that compiles can be renamed, with different new names for different columns that it has. The
level stays as it is if it is open, and is nested if it is closed. Then it has as many columns as
before, in the same positions, each with the definition it had, the listed ones under their new
names and all others under their own, if and only if no new name is that of a column that is not
listed. Otherwise there are fewer columns than before. -/
theorem rename_keeps_columns_iff {compiled : Compiled}
    (hquery : query.compile target = .ok compiled) {columns : List (String × String)}
    (hnew : (columns.map Prod.fst).Nodup) (hold : (columns.map Prod.snd).Nodup)
    (hknown : ∀ column ∈ columns, column.2 ∈ compiled.columns) :
    (∃ next after, (query.rename columns).build target {} = .ok (next, after)) ∧
      Ensures (fun next ↦ ∃ stage opened : Stage, (query.build target).Yields stage ∧
        stage.Nests target opened ∧ (stage.level.closed = false → opened = stage) ∧
        opened.level.names = compiled.columns ∧
        (opened.level.KeepsColumns columns next.level ↔
          Stage.newNamesFree columns compiled.columns = true) ∧
        (next.level.names.length = compiled.columns.length ↔
          Stage.newNamesFree columns compiled.columns = true))
        ((query.rename columns).build target) := by
  obtain ⟨stage, between, order, hbuild, horder, hnames, -⟩ := build_of_compile hquery
  rw [← query.build_eq_plan] at hbuild
  constructor
  · obtain ⟨opened, after, hopened⟩ := Stage.reopen_total horder between
    refine ⟨opened.rename columns, after, ?_⟩
    rw [build_rename hnames hknown hbuild, Compile.bind_of_ok hopened]
    rfl
  · intro progress next last hnext
    obtain ⟨⟨stage, between⟩, hstage, -⟩ := bind_eq_ok.1 hnext
    rw [build_rename hnames hknown hstage] at hnext
    obtain ⟨⟨opened, _⟩, hopened, hrenamed⟩ := bind_eq_ok.1 hnext
    cases hrenamed
    have hfollows : stage.Follows query.plan.outline := by
      refine (query.plan.build_follows target).of_yields ⟨progress, between, ?_⟩
      rwa [← query.build_eq_plan]
    obtain ⟨hnests, hsame, hopenedFollows⟩ := hfollows.reopen between opened last hopened
    have hopenedNames := hopenedFollows.names.trans hnames
    rw [← hopenedNames] at hknown ⊢
    have hkeeps := @Level.keepsColumns_iff columns opened.level (opened.rename columns).level
      hopenedFollows.nodup hnew hold hknown rfl
    exact ⟨stage, opened, ⟨progress, between, hstage⟩, hnests, hsame, rfl, hkeeps⟩

end Query

/-- The first ten shifts of a plan. -/
def firstShifts : Query := (Query.table "shifts" ["early", "late", "night", "day"]).head 10

def firstShifts.target : Target where
  dialect := .ansi
  now := ⟨⟨2000, 1, 1⟩, 0, 0, 0⟩

open firstShifts in
/-- Three columns take the names of each other, over the ten shifts. -/
theorem Query.rename_keeps_columns_iff_firstShifts :
    let columns := [("late", "early"), ("night", "late"), ("early", "night")]
    ∃ compiled stage opened next, firstShifts.compile target = .ok compiled ∧
      (columns.map Prod.fst).Nodup ∧ (columns.map Prod.snd).Nodup ∧
      (∀ column ∈ columns, column.2 ∈ compiled.columns) ∧
      (firstShifts.build target).Yields stage ∧ stage.Nests target opened ∧
      ((firstShifts.rename columns).build target).Yields next ∧
      opened.level.KeepsColumns columns next.level ∧
      next.level.columns = [("late", .column "early"), ("night", .column "late"),
        ("early", .column "night"), ("day", .column "day")] := by
  intro columns
  have hcompile : firstShifts.compile target = .ok ⟨_, _, ["early", "late", "night", "day"]⟩ := rfl
  have hnew : (columns.map Prod.fst).Nodup := by decide
  have hold : (columns.map Prod.snd).Nodup := by decide
  have hknown : ∀ column ∈ columns, column.2 ∈ ["early", "late", "night", "day"] := by decide
  have hnext : ((firstShifts.rename columns).build target).Yields _ := ⟨{}, _, rfl⟩
  obtain ⟨-, hkeeps⟩ := Query.rename_keeps_columns_iff hcompile hnew hold hknown
  obtain ⟨stage, opened, hstage, hnests, -, -, hcolumns, -⟩ := hkeeps.of_yields hnext
  exact ⟨_, stage, opened, _, hcompile, hnew, hold, hknown, hstage, hnests, hnext,
    hcolumns.2 (by decide), rfl⟩

/-- A column that takes the name of one that keeps it. -/
example : Stage.newNamesFree [("late", "early")] ["early", "late"] = false := by decide

end SqlVerbs
