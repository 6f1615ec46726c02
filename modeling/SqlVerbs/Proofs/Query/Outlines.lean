import SqlVerbs.Proofs.Query.Statements

/-!
# Outlines of queries

What is known of a query without compiling any expression: the names of its columns, and the groups,
orderings and frame that are carried from verb to verb by name. Every stage of compilation follows
the outline of the verbs so far.
-/

namespace SqlVerbs

open Compile (Ensures Yields)

/-- The names that a query carries from verb to verb. -/
structure Outline where
  columns : List String
  groups : List String := []
  order : List Host.Expr := []
  windowOrder : List Host.Expr := []
  frame : Option Sql.Frame := none
  /-- The last level has a limit, so that its order matters. -/
  limited : Bool := false

/-- The outline after a verb. -/
def Verb.outline (o : Outline) : Verb → Outline
  | .pick columns keepRest =>
    let kept :=
      if keepRest then o.columns.map (fun name ↦ (Stage.newName? columns name).getD name)
      else
        o.groups.filter (fun group ↦
          (Stage.newName? columns group).isNone && o.columns.contains group) ++
            columns.map Prod.fst
    { o with
      columns := dedup kept
      groups := o.groups.map (fun group ↦ (Stage.newName? columns group).getD group)
      limited := false }
  | .arrange terms => { o with order := terms, limited := false }
  | .mutate name _ =>
    let columns := if name ∈ o.columns then o.columns else o.columns ++ [name]
    { o with columns, limited := false }
  | .summarise columns =>
    { o with
      columns := dedup (o.groups ++ dedup (columns.map Prod.fst))
      groups := o.groups.dropLast
      order := []
      limited := false }
  | .groupBy columns => { o with groups := columns }
  | .ungroup => { o with groups := [] }
  | .head _ => { o with limited := true }
  | .windowOrder terms => { o with windowOrder := terms }
  | .windowFrame frame => { o with frame := some frame }
  | .filter _ | .distinct | .collapse => { o with limited := false }

/-- The outline of a join. Groups, window order and frame are those of the left side. -/
def Outline.join (type : JoinType) (keys : List (String × String)) (suffixes : String × String)
    (left right : Outline) : Outline :=
  { left with
    columns :=
      if type.isTest then left.columns
      else (Join.columns type keys suffixes left.columns right.columns).names
    order := []
    limited := false }

/-- The outline of a plan. -/
def Plan.outline : Plan → Outline
  | .table _ columns => { columns := dedup columns }
  | .andThen parent verb => verb.outline parent.outline
  | .join left right type keys suffixes => .join type keys suffixes left.outline right.outline

/-- The stage has the names of the outline. Only a closed level has a limit. -/
structure Stage.Follows (stage : Stage) (o : Outline) : Prop where
  names : stage.level.names = o.columns
  nodup : stage.level.names.Nodup
  groups : stage.groups = o.groups
  order : stage.order = o.order
  windowOrder : stage.windowOrder = o.windowOrder
  frame : stage.frame = o.frame
  limited : stage.level.body.limit.isSome = true → o.limited = true
  unlimited : stage.level.closed = false → stage.level.body.limit = none

/-! ## Names after each verb -/

section Names

theorem Level.names_ofSource {source : Sql.Source} {names : List String} :
    (Level.ofSource source names).names = dedup names := by
  rw [Level.names, Level.ofSource, Bindings.names_ofPairs, List.map_map]
  simp [Function.comp_def]

theorem Level.names_ofSource_of_nodup {source : Sql.Source} {names : List String}
    (h : names.Nodup) : (Level.ofSource source names).names = names := by
  rw [Level.names, Level.columns_ofSource h, Sql.Semantics.names_passed]

theorem Stage.unlistedGroups_eq (columns : List (String × String)) (groups : List String)
    (level : Level) : unlistedGroups columns groups level = level.columns.pick
      (Bindings.same (groups.filter fun group ↦
        (newName? columns group).isNone && level.names.contains group)) := by
  rw [unlistedGroups, Bindings.pick, Bindings.same, List.filterMap_map, List.filterMap_filter,
    List.filterMap_filter]
  apply List.filterMap_congr
  intro group _
  cases hunlisted : (newName? columns group).isNone with
  | false => simp
  | true =>
    by_cases hvisible : group ∈ level.names
    · simp [hvisible]
    · simp [hvisible, Bindings.get?_eq_none.2 hvisible]

/-- The names that a pick leaves, whether or not the groups are all visible. -/
theorem Level.names_picked {level : Level} {columns : List (String × String)} {keepRest : Bool}
    {groups : List String} (hknown : ∀ column ∈ columns, column.2 ∈ level.names) :
    (if keepRest then Stage.renamedColumns columns level
      else Stage.pickedColumns columns groups level).names =
      dedup (if keepRest then
        level.names.map (fun name ↦ (Stage.newName? columns name).getD name)
      else
        groups.filter (fun group ↦
          (Stage.newName? columns group).isNone && level.names.contains group) ++
            columns.map Prod.fst) := by
  split
  · rw [Stage.renamedColumns, Bindings.names_ofPairs, List.map_map, Level.names, Bindings.names,
      List.map_map]
    rfl
  · have hlisted : (Stage.listedColumns columns level).map Prod.fst = columns.map Prod.fst :=
      Bindings.names_pick hknown
    have hgroups : (Stage.unlistedGroups columns groups level).map Prod.fst =
        groups.filter (fun group ↦
          (Stage.newName? columns group).isNone && level.names.contains group) := by
      rw [Stage.unlistedGroups_eq]
      refine (Bindings.names_pick fun column hcolumn ↦ ?_).trans
        (by simp [Bindings.same, Function.comp_def])
      obtain ⟨group, hgroup, rfl⟩ := List.mem_map.1 hcolumn
      have hkept := (List.mem_filter.1 hgroup).2
      rw [Bool.and_eq_true, List.contains_iff_mem] at hkept
      exact hkept.2
    rw [Stage.pickedColumns, Bindings.names_ofPairs, List.map_append, hlisted, hgroups]

theorem Level.names_setWindows {level : Level} {windows : Windows}
    (h : (level.names ++ windows.map Prod.fst).Nodup) :
    (level.setWindows windows).names = level.names ++ windows.map Prod.fst := by
  induction windows generalizing level with
  | nil => simp [Level.setWindows]
  | cons window later ih =>
    have hnew : window.1 ∉ level.names :=
      fun hold ↦ (List.nodup_append.1 h).2.2 _ hold window.1 (by simp) rfl
    have hset := level.names_setColumn window.1 (level.resolve true window.2)
    rw [if_neg hnew] at hset
    have hlater : ((level.setColumn window.1 (level.resolve true window.2)).names ++
        later.map Prod.fst).Nodup := by
      rw [hset]
      simpa using h
    calc (level.setWindows (window :: later)).names
        = ((level.setColumn window.1 (level.resolve true window.2)).setWindows later).names := rfl
      _ = level.names ++ [window.1] ++ later.map Prod.fst := by rw [ih hlater, hset]
      _ = level.names ++ (window :: later).map Prod.fst := by simp

theorem Stage.summaries_names {target : Target} {stage : Stage}
    {columns : List (String × Host.Expr)} {done : Bindings Sql.Expr} :
    Ensures (fun summaries ↦ summaries.names = (columns.map Prod.fst).foldl
      (fun seen name ↦ if seen.contains name then seen else seen ++ [name]) done.names)
      (stage.summaries target done columns) := by
  induction columns generalizing done with
  | nil => exact .pure rfl
  | cons column later ih =>
    refine .bind (.trivial _) (fun lowered _ ↦ ?_)
    refine .mono ih (fun summaries hnames ↦ ?_)
    rw [hnames, Bindings.names_insert]
    simp

end Names

/-! ## Every stage follows its outline -/

section Steps

variable {target : Target} {stage next : Stage} {o : Outline}

/-- Another level without a limit. -/
theorem Stage.Follows.withLevel (h : stage.Follows o) {level : Level} {columns : List String}
    (hnames : level.names = columns) (hnodup : level.names.Nodup)
    (hlimit : level.body.limit = none) :
    { stage with level }.Follows { o with columns, limited := false } :=
  ⟨hnames, hnodup, h.groups, h.order, h.windowOrder, h.frame, by simp [hlimit], fun _ ↦ hlimit⟩

theorem Stage.Follows.nested (h : stage.Follows o) (hnested : stage.Nested target next) :
    next.Follows o := by
  obtain @⟨order, label, -⟩ := hnested
  have hnames := @Level.names_ofSource_of_nodup (.subquery (stage.level.toSelect order) label) _
    h.nodup
  exact ⟨hnames.trans h.names, by rw [hnames]; exact h.nodup, h.groups, h.order, h.windowOrder,
    h.frame, nofun, fun _ ↦ rfl⟩

theorem Stage.Follows.nests (h : stage.Follows o) (hnests : stage.Nests target next) :
    next.Follows o := by
  induction hnests with
  | none => exact h
  | more _ nested ih => exact ih.nested nested

theorem Stage.Follows.filterWindows (h : stage.Follows o) {condition rest : Sql.Expr}
    {windows : Windows} {source : Sql.Source}
    (htaken : takeWindows stage.level.names condition [] = (rest, windows)) :
    { stage with
      level := ((Level.ofSource source (stage.level.setWindows windows).names).addFilter
        rest).keepOnly stage.level.names }.Follows { o with limited := false } := by
  have htakes : Takes stage.level.names [] windows [condition] [rest] := by
    simpa [htaken] using takes_takeWindows stage.level.names condition []
  have hall : (stage.level.names ++ windows.map Prod.fst).Nodup :=
    htakes.nodup (by simpa using h.nodup)
  have hnames : (((Level.ofSource source (stage.level.setWindows windows).names).addFilter
      rest).keepOnly stage.level.names).names = stage.level.names := by
    rw [Level.names_setWindows hall]
    rw [Level.names, Level.columns_keepOnly hall, Sql.Semantics.names_passed]
  exact h.withLevel (hnames.trans h.names) (by rw [hnames]; exact h.nodup) rfl

theorem Stage.Follows.acts (h : stage.Follows o) {verb : Verb}
    (hacts : verb.Acts target stage next) : next.Follows (verb.outline o) := by
  cases hacts with
  | @pick columns keepRest opened known =>
    have hnames := @Level.names_picked stage.level columns keepRest stage.groups known
    rw [h.names, h.groups] at hnames
    refine ⟨h.groups ▸ hnames, ?_, congrArg (List.map _) h.groups, h.order, h.windowOrder, h.frame,
      by simp [h.unlimited opened], fun _ ↦ h.unlimited opened⟩
    cases keepRest with
    | true => exact Bindings.nodup_ofPairs _
    | false => exact Bindings.nodup_ofPairs _
  | filterRows opened rows windowless lowered apart condition =>
    exact h.withLevel h.names h.nodup (h.unlimited opened)
  | filterWindows opened rows windowless lowered apart taken ordered => exact h.filterWindows taken
  | filterGroups opened groups lowered condition =>
    exact h.withLevel h.names h.nodup (h.unlimited opened)
  | @mutate name e lowered opened rows lowers apart =>
    have hnames := stage.level.names_setColumn name (stage.level.resolve true lowered)
    rw [h.names] at hnames
    exact h.withLevel hnames (Bindings.nodup_insert h.nodup _ _) (h.unlimited opened)
  | @summarise columns summaries opened rows windowless apart defined =>
    have hnames := Bindings.names_ofPairs
      (stage.groups.map (fun group ↦ (group, stage.groupDefinition group)) ++ summaries)
    have hdefined : summaries.map Prod.fst = dedup (columns.map Prod.fst) :=
      Stage.summaries_names.of_yields defined
    rw [List.map_append, hdefined, List.map_map] at hnames
    refine ⟨?_, Bindings.nodup_ofPairs _, congrArg List.dropLast h.groups, rfl, h.windowOrder,
      h.frame, by simp [h.unlimited opened], fun _ ↦ h.unlimited opened⟩
    calc (Bindings.ofPairs _).names
        = dedup (stage.groups ++ dedup (columns.map Prod.fst)) := by
          simpa [Function.comp_def] using hnames
      _ = dedup (o.groups ++ dedup (columns.map Prod.fst)) := by rw [h.groups]
  | groupBy known =>
    exact ⟨h.names, h.nodup, rfl, h.order, h.windowOrder, h.frame, h.limited, h.unlimited⟩
  | ungroup =>
    exact ⟨h.names, h.nodup, rfl, h.order, h.windowOrder, h.frame, h.limited, h.unlimited⟩
  | arrange opened =>
    exact ⟨h.names, h.nodup, h.groups, rfl, h.windowOrder, h.frame, by simp [h.unlimited opened],
      fun _ ↦ h.unlimited opened⟩
  | distinct opened =>
    exact ⟨h.names, h.nodup, h.groups, h.order, h.windowOrder, h.frame,
      by simp [Stage.closeWith, h.unlimited opened], nofun⟩
  | head opened =>
    exact ⟨h.names, h.nodup, h.groups, h.order, h.windowOrder, h.frame, fun _ ↦ rfl, nofun⟩
  | windowOrder =>
    exact ⟨h.names, h.nodup, h.groups, h.order, rfl, h.frame, h.limited, h.unlimited⟩
  | windowFrame =>
    exact ⟨h.names, h.nodup, h.groups, h.order, h.windowOrder, rfl, h.limited, h.unlimited⟩
  | collapse opened => exact h.withLevel h.names h.nodup (h.unlimited opened)

theorem Join.side_names {label : String} :
    Ensures (fun side ↦ side.2 = stage.level.names) (Join.side target stage label) := by
  unfold Join.side
  split
  · exact .pure rfl
  · exact .bind (.trivial _) (fun order _ ↦ .pure rfl)

theorem Stage.Follows.joined {left right : Stage} {leftOutline rightOutline : Outline}
    (hleft : left.Follows leftOutline) (hright : right.Follows rightOutline) {type : JoinType}
    {keys : List (String × String)} {suffixes : String × String}
    (hjoined : Stage.Joined target type keys suffixes left right next) :
    next.Follows (.join type keys suffixes leftOutline rightOutline) := by
  obtain @⟨leftSide, rightSide, -, hleftMade, hrightMade⟩ := hjoined
  have hleftNames := Join.side_names.of_yields hleftMade
  have hrightNames := Join.side_names.of_yields hrightMade
  have hkept (definition : String → Sql.Expr) :
      Bindings.ofPairs (leftSide.2.map fun name ↦ (name, definition name)) =
        leftSide.2.map fun name ↦ (name, definition name) := by
    apply Bindings.ofPairs_of_nodup
    simpa [hleftNames, Function.comp_def] using hleft.nodup
  have hnames : (Join.level target.dialect type keys suffixes leftSide rightSide).names =
      if type.isTest then leftOutline.columns
      else (Join.columns type keys suffixes leftOutline.columns rightOutline.columns).names := by
    rw [← hleft.names, ← hright.names, ← hleftNames, ← hrightNames]
    cases type with
    | semi | anti =>
      change (Bindings.ofPairs _).names = _
      rw [hkept]
      simp [Bindings.names, JoinType.isTest, Function.comp_def]
    | inner | left | right | full => rfl
  have hnodup : (Join.level target.dialect type keys suffixes leftSide rightSide).names.Nodup := by
    cases type <;> exact Bindings.nodup_ofPairs _
  have hlimit : (Join.level target.dialect type keys suffixes leftSide rightSide).body.limit =
      none := by
    cases type <;> rfl
  exact ⟨hnames, hnodup, hleft.groups, rfl, hleft.windowOrder, hleft.frame, by simp [hlimit],
    fun _ ↦ hlimit⟩

end Steps

/-- Every stage of a plan has the names of its outline. -/
theorem Plan.build_follows (target : Target) (plan : Plan) :
    Ensures (fun stage ↦ stage.Follows plan.outline) (plan.build target) := by
  apply Plan.build_ensures fun plan stage ↦ stage.Follows plan.outline
  · intro name columns
    exact ⟨Level.names_ofSource, Bindings.nodup_ofPairs _, rfl, rfl, rfl, rfl, nofun, fun _ ↦ rfl⟩
  · intro plan stage next h hnested
    exact h.nested hnested
  · intro plan verb stage next h hacts
    exact h.acts hacts
  · intro left right type keys suffixes leftStage rightStage next hleft hright hjoined
    exact hleft.joined hright hjoined

end SqlVerbs
