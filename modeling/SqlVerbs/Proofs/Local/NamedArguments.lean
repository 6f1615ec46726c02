import SqlVerbs.Dialect.Registry
import SqlVerbs.Proofs.Local.Names

/-!
# Arguments given by name

The rules of a dialect name their parameters, and an argument may be given by such a name. A local
function knows nothing of the rules: it takes its arguments from their positions, and looks for a
few names of its own. So the name of a parameter counts here only if the function looks for it, and
then the call has the value of the call without names. Any other name makes all named arguments of
the call count for nothing.
-/

namespace SqlVerbs.Local

open Calendar (DateTime)
open Host (Expr)

/-! ## Spellings of a call -/

/-- The second and third list are the arguments of the first, where some of them are given by the
names of their parameters. The others keep their order, and the named ones are in any order. -/
inductive Respells {α : Type} : List String → List α → List α → List (String × α) → Prop
  | nil (params : List String) : Respells params [] [] []
  | keep {param : String} {params : List String} {a : α} {args positional : List α}
      {named : List (String × α)} (later : Respells params args positional named) :
      Respells (param :: params) (a :: args) (a :: positional) named
  | name {param : String} {params : List String} {a : α} {args positional : List α}
      (before after : List (String × α))
      (later : Respells params args positional (before ++ after)) :
      Respells (param :: params) (a :: args) positional (before ++ (param, a) :: after)

namespace Respells

variable {α β : Type} {params : List String} {args positional : List α} {named : List (String × α)}

theorem map (f : α → β) (h : Respells params args positional named) :
    Respells params (args.map f) (positional.map f) (Bindings.mapValues f named) := by
  induction h with
  | nil params => exact .nil params
  | keep _ ih => exact .keep ih
  | name _ _ _ ih =>
    simp only [Bindings.mapValues, List.map_append, List.map_cons] at ih ⊢
    exact .name _ _ ih

theorem mem_params (h : Respells params args positional named) :
    ∀ entry ∈ named, entry.1 ∈ params := by
  induction h with
  | nil => simp
  | keep _ ih => exact fun entry hentry ↦ List.mem_cons_of_mem _ (ih entry hentry)
  | name _ _ _ ih =>
    rw [List.forall_mem_append] at ih
    rw [List.forall_mem_append, List.forall_mem_cons]
    exact ⟨fun entry hentry ↦ List.mem_cons_of_mem _ (ih.1 entry hentry), List.mem_cons_self,
      fun entry hentry ↦ List.mem_cons_of_mem _ (ih.2 entry hentry)⟩

theorem eq_of_unnamed (h : Respells params args positional []) : positional = args := by
  generalize hnamed : [] = named at h
  induction h with
  | nil => rfl
  | keep _ ih => rw [ih hnamed]
  | name => simp at hnamed

/-- The arguments are the same ones. -/
theorem any_eq (p : α → Bool) (h : Respells params args positional named) :
    args.any p = (positional.any p || named.any (fun entry ↦ p entry.2)) := by
  induction h with
  | nil => rfl
  | keep _ ih => rw [List.any_cons, List.any_cons, ih, Bool.or_assoc]
  | name _ _ _ ih =>
    simp only [List.any_cons, List.any_append, ih]
    grind

theorem of_noParams (h : Respells [] args positional named) :
    args = [] ∧ positional = [] ∧ named = [] := by
  cases h
  exact ⟨rfl, rfl, rfl⟩

theorem of_oneParam {param : String} (h : Respells [param] args positional named) :
    named = [] ∨ ∃ a, args = [a] ∧ positional = [] ∧ named = [(param, a)] := by
  cases h with
  | nil => exact .inl rfl
  | keep later => exact .inl later.of_noParams.2.2
  | @name _ _ a _ _ before after later =>
    obtain ⟨rfl, rfl, hnone⟩ := later.of_noParams
    obtain ⟨rfl, rfl⟩ := List.append_eq_nil_iff.1 hnone
    exact .inr ⟨a, rfl, rfl, rfl⟩

/-- If the second of two arguments is named, it is the only one, or no argument is left without a
name. -/
theorem of_secondNamed {first second : String} (h : Respells [first, second] args positional named)
    (hdistinct : first ≠ second) (hsecond : second ∈ named.map Prod.fst) :
    (∃ a b, args = [a, b] ∧ positional = [a] ∧ named = [(second, b)]) ∨
      positional = [] ∧ first ∈ named.map Prod.fst := by
  cases h with
  | nil => cases hsecond
  | @keep _ _ a _ _ _ later =>
    obtain rfl | ⟨b, rfl, rfl, rfl⟩ := later.of_oneParam
    · cases hsecond
    · exact .inl ⟨a, b, rfl, rfl, rfl⟩
  | @name _ _ a _ _ before after later =>
    obtain hnone | ⟨b, -, rfl, -⟩ := later.of_oneParam
    · obtain ⟨rfl, rfl⟩ := List.append_eq_nil_iff.1 hnone
      exact absurd (List.mem_singleton.1 hsecond).symm hdistinct
    · exact .inr ⟨rfl, by simp⟩

end Respells

/-! ## The names that functions look for -/

/-- The names that a local function looks for among its named arguments. -/
def optionsOf : String → List String
  | "log" => ["base"]
  | "round" => ["digits"]
  | "as.Date" => ["format"]
  | "grepl" | "sub" | "gsub" => ["fixed", "ignore.case"]
  | "paste" => ["sep", "collapse"]
  | "paste0" => ["collapse"]
  | "sum" | "mean" | "min" | "max" => ["na.rm"]
  | _ => []

section Options

variable {now : DateTime} {name : String} {args : List Value} {named named' : Bindings Value}

theorem patternOf_congr (hfixed : named.get? "fixed" = named'.get? "fixed")
    (hcase : named.get? "ignore.case" = named'.get? "ignore.case") (pattern : Value) :
    patternOf pattern named = patternOf pattern named' := by
  simp only [patternOf, patternFlag, hfixed, hcase]

theorem asDate_congr (h : named.get? "format" = named'.get? "format") (x : Value) :
    asDate x named = asDate x named' := by
  unfold asDate
  rw [h]

variable (hsame : ∀ option ∈ optionsOf name, named.get? option = named'.get? option)

include hsame

theorem callUnary_congr (x : Value) : callUnary name x named = callUnary name x named' := by
  unfold callUnary
  split <;> first
    | rfl
    | rw [hsame "base" (by decide)]
    | rw [hsame "digits" (by decide)]
    | rw [asDate_congr (hsame "format" (by decide))]

theorem callBinary_congr (x y : Value) : callBinary name x y named = callBinary name x y named' := by
  unfold callBinary
  split
  · rfl
  · rfl
  · split <;> first
      | rfl
      | rw [matching, matching,
          patternOf_congr (hsame "fixed" (by decide)) (hsame "ignore.case" (by decide))]

theorem callTernary_congr (x y z : Value) :
    callTernary name x y z named = callTernary name x y z named' := by
  unfold callTernary
  split <;> first
    | rfl
    | rw [replacing, replacing,
        patternOf_congr (hsame "fixed" (by decide)) (hsame "ignore.case" (by decide))]

theorem entry_congr : entry now name args named = entry now name args named' := by
  unfold entry
  split
  · rfl
  · exact callUnary_congr hsame _
  · exact callBinary_congr hsame _ _
  · exact callTernary_congr hsame _ _ _
  · rfl

/-- Only `c` takes all that is named. -/
theorem callVariadic_congr (hc : name ≠ "c") :
    callVariadic name args named = callVariadic name args named' := by
  unfold callVariadic
  split
  · exact absurd rfl hc
  · rw [pasteCall, pasteCall, hsame "sep" (by decide), hsame "collapse" (by decide)]
  · simp only [pasteCall, hsame "collapse" (by decide), String.reduceEq, if_false]
  · cases hop : AggregateOp.ofName? name with
    | none => rfl
    | some op =>
      have hoption : "na.rm" ∈ optionsOf name := by
        unfold AggregateOp.ofName? at hop
        split at hop <;> first | decide | cases hop
      rw [Option.map_some, Option.map_some, aggregate, aggregate, hsame _ hoption]

theorem callLocal_congr (hc : name ≠ "c") :
    callLocal now name args named = callLocal now name args named' := by
  unfold callLocal
  rw [callVariadic_congr hsame hc, entry_congr hsame]

end Options

/-- A function that looks for its second parameter `option`, and for no other name. -/
structure LooksForSecond (name option : String) : Prop where
  options : optionsOf name = [option]
  distinct : "x" ≠ option
  second (now : DateTime) (x y : Value) :
    callLocal now name [x] [(option, y)] = callLocal now name [x, y] []
  alone (now : DateTime) (named : Bindings Value) :
    callLocal now name [] named = callLocal now name [] []

theorem looksForSecond_log : LooksForSecond "log" "base" :=
  ⟨rfl, by decide, fun _ _ _ ↦ rfl, fun _ _ ↦ rfl⟩

theorem looksForSecond_round : LooksForSecond "round" "digits" :=
  ⟨rfl, by decide, fun _ _ _ ↦ rfl, fun _ _ ↦ rfl⟩

/-! ## Functions with rules -/

section Rules

variable {d : Dialect} (hd : d ∈ Dialect.builtin) {name : String} {rules : List Rule}
  (hrules : d.rulesFor name = some rules) {rule : Rule} (hrule : rule ∈ rules)

include hd hrules

theorem not_alwaysLocal_of_rulesFor : ¬ alwaysLocal.contains name = true := by
  have htable : ∀ d ∈ Dialect.builtin, ∀ name ∈ alwaysLocal, d.rulesFor name = none := by
    decide +kernel
  intro hname
  cases (htable d hd name (List.contains_iff_mem.1 hname)).symm.trans hrules

include hrule

/-- Two functions are all that look for a parameter of their rules. -/
theorem looksForSecond_of_param {param : String} (hparam : param ∈ rule.params)
    (hoption : param ∈ optionsOf name) :
    ∃ option, rule.params = ["x", option] ∧ LooksForSecond name option := by
  have htable : ∀ d ∈ Dialect.builtin, ∀ entry ∈ d.rules, ∀ rule ∈ entry.2, ∀ param ∈ rule.params,
      param ∈ optionsOf entry.1 → (entry.1 = "log" ∧ rule.params = ["x", "base"]) ∨
        (entry.1 = "round" ∧ rule.params = ["x", "digits"]) := by
    decide +kernel
  obtain ⟨rfl, hparams⟩ | ⟨rfl, hparams⟩ :=
    htable d hd _ (Bindings.mem_of_get? hrules) rule hrule param hparam hoption
  · exact ⟨"base", hparams, looksForSecond_log⟩
  · exact ⟨"digits", hparams, looksForSecond_round⟩

theorem ne_combine_of_param {param : String} (hparam : param ∈ rule.params) : name ≠ "c" := by
  have htable : ∀ d ∈ Dialect.builtin, ∀ rules ∈ d.rulesFor "c", ∀ rule ∈ rules,
      rule.params = [] := by
    decide +kernel
  rintro rfl
  rw [htable d hd rules hrules rule hrule] at hparam
  cases hparam

/-- The arguments of a call in another spelling, as the function takes them. -/
theorem callLocal_respelled (now : DateTime) {args positional : List Value}
    {named : List (String × Value)} (h : Respells rule.params args positional named) :
    callLocal now name positional named = callLocal now name
      (if named.all (fun entry ↦ (optionsOf name).contains entry.1) then args else positional)
      [] := by
  by_cases hoption : ∃ entry ∈ named, entry.1 ∈ optionsOf name
  -- A name that the function looks for can only be that of its second parameter.
  · obtain ⟨entry, hentry, hoption⟩ := hoption
    obtain ⟨option, hparams, hlooks⟩ :=
      looksForSecond_of_param hd hrules hrule (h.mem_params entry hentry) hoption
    rw [hlooks.options, List.mem_singleton] at hoption
    rw [hparams] at h
    rw [hlooks.options]
    obtain ⟨x, y, rfl, rfl, rfl⟩ | ⟨rfl, hfirst⟩ :=
      h.of_secondNamed hlooks.distinct (hoption ▸ List.mem_map_of_mem hentry)
    · rw [hlooks.second now x y]
      simp
    · obtain ⟨first, hfirst, hx⟩ := List.mem_map.1 hfirst
      have hall : named.all (fun entry ↦ [option].contains entry.1) = false :=
        List.all_eq_false.2 ⟨first, hfirst, by simp [hx, hlooks.distinct]⟩
      rw [hlooks.alone, hall]
      rfl
  -- Names that the function does not look for are ignored, and their values with them.
  · by_cases hnamed : named = []
    · subst hnamed
      rw [h.eq_of_unnamed]
      rfl
    · obtain ⟨first, hfirst⟩ := List.exists_mem_of_ne_nil named hnamed
      have hunknown : first.1 ∉ optionsOf name := fun hmem ↦ hoption ⟨first, hfirst, hmem⟩
      have hall : named.all (fun entry ↦ (optionsOf name).contains entry.1) = false :=
        List.all_eq_false.2 ⟨first, hfirst, by simpa using hunknown⟩
      rw [hall]
      refine callLocal_congr (fun option hmem ↦ ?_)
        (ne_combine_of_param hd hrules hrule (h.mem_params first hfirst))
      rw [Bindings.get?_nil, Bindings.get?_eq_none]
      exact fun hnames ↦ hoption (by
        obtain ⟨entry, hentry, rfl⟩ := List.mem_map.1 hnames
        exact ⟨entry, hentry, hmem⟩)

end Rules

/-! ## Folded calls -/

/-- An expression that is folded to a local value. -/
structure Known (scope : Scope) where
  expr : Expr
  value : Value
  folded : Folded
  fold_eq : fold scope expr = .ok folded
  value_eq : folded.value = some value

/-- A constant is known by its own value. -/
def Known.literal (scope : Scope) (value : Literal) : Known scope where
  expr := .literal value
  value := .ofLiteral value
  folded := .constant (.literal value) (.ofLiteral value)
  fold_eq := rfl
  value_eq := rfl

/-- A symbol is known by its binding, unless it is a column. -/
def Known.symbol (scope : Scope) (name : String) (value : Value)
    (hcolumn : scope.isColumn name = false) (hbound : scope.env.get? name = some value) :
    Known scope where
  expr := .symbol name
  value := value
  folded := .bound (.symbol name) value
  fold_eq := by
    rw [fold, foldSymbol, hcolumn, hbound]
    rfl
  value_eq := rfl

section Known

variable {scope : Scope} (args : List (Known scope)) (named : List (String × Known scope))

theorem foldAll_known : foldAll scope (args.map Known.expr) = .ok (args.map Known.folded) := by
  induction args with
  | nil => rfl
  | cons a rest ih =>
    rw [List.map_cons, foldAll, a.fold_eq, ih]
    rfl

theorem valuesOf?_known : valuesOf? (args.map Known.folded) = some (args.map Known.value) := by
  induction args with
  | nil => rfl
  | cons a rest ih =>
    rw [List.map_cons, valuesOf?, a.value_eq, ih]
    rfl

theorem foldNamed_known : foldNamed scope (Bindings.mapValues Known.expr named) =
    .ok (Bindings.mapValues Known.folded named) := by
  induction named with
  | nil => rfl
  | cons entry rest ih =>
    change (do return (entry.1, ← fold scope entry.2.expr) ::
      (← foldNamed scope (Bindings.mapValues Known.expr rest))) = _
    rw [entry.2.fold_eq, ih]
    rfl

theorem namedValuesOf?_known : namedValuesOf? (Bindings.mapValues Known.folded named) =
    some (Bindings.mapValues Known.value named) := by
  induction named with
  | nil => rfl
  | cons entry rest ih =>
    change (do return (entry.1, ← entry.2.folded.value) ::
      (← namedValuesOf? (Bindings.mapValues Known.folded rest))) = _
    rw [entry.2.value_eq, ih]
    rfl

/-- The call of a function with local values. -/
def spelled (name : String) : Expr :=
  .call name (args.map Known.expr) (Bindings.mapValues Known.expr named)

theorem callFolded?_known {name : String} (hremote : ¬ alwaysRemote.contains name = true) :
    callFolded? scope name (args.map Known.folded) (Bindings.mapValues Known.folded named) =
      some (callLocal scope.now name (args.map Known.value)
        (Bindings.mapValues Known.value named)) := by
  rw [callFolded?, if_neg hremote, valuesOf?_known, namedValuesOf?_known]
  rfl

/-- Was a local binding used by one of the arguments? -/
def anyTouched : Bool :=
  args.any (fun a ↦ a.folded.touched) || named.any (fun entry ↦ entry.2.folded.touched)

theorem fold_spelled {name : String} (hlocal : ¬ alwaysLocal.contains name = true) :
    fold scope (spelled args named name) = foldCall scope (spelled args named name) name
      (args.map Known.folded) (Bindings.mapValues Known.folded named) := by
  rw [spelled, fold, if_neg hlocal, foldAll_known, foldNamed_known]
  rfl

theorem any_folded_touched : ((args.map Known.folded).any Folded.touched ||
    (Bindings.mapValues Known.folded named).any fun entry ↦ entry.2.touched) =
      anyTouched args named := by
  simp [anyTouched, Bindings.mapValues, Function.comp_def]

/-- A call with a local part is replaced by its value. -/
theorem partialEval_spelled {name : String} (hlocal : ¬ alwaysLocal.contains name = true)
    (hremote : ¬ alwaysRemote.contains name = true) (htouched : anyTouched args named = true) :
    partialEval scope (spelled args named name) =
      blame (spelled args named name)
        (callLocal scope.now name (args.map Known.value) (Bindings.mapValues Known.value named) >>=
          Value.toExpr) := by
  rw [partialEval, fold_spelled args named hlocal]
  simp only [foldCall, callFolded?_known args named hremote, any_folded_touched, htouched]
  cases callLocal scope.now name (args.map Known.value) (Bindings.mapValues Known.value named) with
  | error reason => rfl
  | ok value => rfl

/-- A call that has a value is folded to it, with or without a local part. -/
theorem fold_spelled_of_value {name : String} {value : Value}
    (hlocal : ¬ alwaysLocal.contains name = true) (hremote : ¬ alwaysRemote.contains name = true)
    (hvalue : callLocal scope.now name (args.map Known.value)
      (Bindings.mapValues Known.value named) = .ok value) :
    fold scope (spelled args named name) =
      .ok ⟨spelled args named name, some value, anyTouched args named⟩ := by
  rw [fold_spelled args named hlocal]
  simp only [foldCall, callFolded?_known args named hremote, any_folded_touched, hvalue]
  cases anyTouched args named <;> rfl

/-- The call is folded to the value, which takes its place if a local binding was used. -/
def FoldsTo (name : String) (value : Value) : Prop :=
  fold scope (spelled args named name) =
      .ok ⟨spelled args named name, some value, anyTouched args named⟩ ∧
    (anyTouched args named = true →
      partialEval scope (spelled args named name) = blame (spelled args named name) value.toExpr)

theorem foldsTo_of_value {name : String} {value : Value}
    (hlocal : ¬ alwaysLocal.contains name = true) (hremote : ¬ alwaysRemote.contains name = true)
    (hvalue : callLocal scope.now name (args.map Known.value)
      (Bindings.mapValues Known.value named) = .ok value) : FoldsTo args named name value := by
  refine ⟨fold_spelled_of_value args named hlocal hremote hvalue, fun htouched ↦ ?_⟩
  rw [partialEval_spelled args named hlocal hremote htouched, hvalue]
  rfl

end Known

/-- The result of a call whose arguments are local values, some of them given by the names of their
parameters. If the function looks for all of these names, it is the result of the call without
names. Otherwise it is that of the call without the named arguments. -/
theorem partialEval_respelled {d : Dialect} (hd : d ∈ Dialect.builtin) {name : String}
    (hname : name ∈ localFunctions) {rules : List Rule} (hrules : d.rulesFor name = some rules)
    {rule : Rule} (hrule : rule ∈ rules) {scope : Scope} {args positional : List (Known scope)}
    {named : List (String × Known scope)} (h : Respells rule.params args positional named)
    (htouched : args.any (fun a ↦ a.folded.touched) = true) :
    let whole := callLocal scope.now name (args.map Known.value) [] >>= Value.toExpr
    let rest := callLocal scope.now name (positional.map Known.value) [] >>= Value.toExpr
    partialEval scope (spelled args [] name) = blame (spelled args [] name) whole ∧
      partialEval scope (spelled positional named name) = blame (spelled positional named name)
        (if named.all (fun entry ↦ (optionsOf name).contains entry.1) then whole else rest) := by
  intro whole rest
  have hlocal := not_alwaysLocal_of_rulesFor hd hrules
  have hremote : ¬ alwaysRemote.contains name = true := by
    have hdisjoint : ∀ function ∈ localFunctions, ¬ alwaysRemote.contains function = true := by
      decide
    exact hdisjoint name hname
  constructor
  · refine partialEval_spelled args [] hlocal hremote ?_
    rw [anyTouched, htouched, Bool.true_or]
  · have hnamed : anyTouched positional named = true := (h.any_eq _).symm.trans htouched
    rw [partialEval_spelled positional named hlocal hremote hnamed,
      callLocal_respelled hd hrules hrule scope.now (h.map Known.value)]
    congr 1
    have hkeys : (Bindings.mapValues Known.value named).all
        (fun entry ↦ (optionsOf name).contains entry.1) =
        named.all (fun entry ↦ (optionsOf name).contains entry.1) := by
      rw [Bindings.mapValues, List.all_map]
      rfl
    rw [hkeys]
    split <;> rfl

/-- `substr(word, 1L, 3L)` is folded, while `substr(word, stop = 3L, start = 1L)` comes down to a
call with one argument. `round(rate, digits = 0L)` is folded like `round(rate, 0L)`. -/
theorem partialEval_respelled_parcel :
    let integer (i : Int64) : Literal := .integer (some i)
    let scope : Scope :=
      { columns := []
        env := [("word", .atomic [.string (some "parcel")]), ("rate", .atomic [integer 19])]
        now := ⟨⟨2024, 1, 1⟩, 0, 0, 0⟩ }
    let literal (i : Int64) : Expr := .literal (integer i)
    let slice : Expr := .call "substr" [.symbol "word"] [("stop", literal 3), ("start", literal 1)]
    partialEval scope (.call "substr" [.symbol "word", literal 1, literal 3] []) =
        .ok (.literal (.string (some "par"))) ∧
      partialEval scope slice =
        .error (.localFailure slice.deparse (.wrongArguments "substr" 1)) ∧
      partialEval scope (.call "round" [.symbol "rate", literal 0] []) = .ok (literal 19) ∧
      partialEval scope (.call "round" [.symbol "rate"] [("digits", literal 0)]) =
        .ok (literal 19) := by
  intro integer scope literal slice
  have hansi : Dialect.ansi ∈ Dialect.builtin := List.mem_cons_self
  let word : Known scope := .symbol scope "word" (.atomic [.string (some "parcel")]) rfl rfl
  let rate : Known scope := .symbol scope "rate" (.atomic [integer 19]) rfl rfl
  let known (i : Int64) : Known scope := .literal scope (integer i)
  have hslice : Respells ["x", "start", "stop"] [word, known 1, known 3] [word]
      [("stop", known 3), ("start", known 1)] :=
    .keep (.name [("stop", known 3)] [] (.name [] [] (.nil [])))
  have hround : Respells ["x", "digits"] [rate, known 0] [rate] [("digits", known 0)] :=
    .keep (.name [] [] (.nil []))
  have hlocal : "substr" ∈ localFunctions ∧ "round" ∈ localFunctions := by decide
  obtain ⟨hwhole, hnamed⟩ :=
    partialEval_respelled hansi hlocal.1 rfl List.mem_cons_self hslice rfl
  obtain ⟨hwhole', hnamed'⟩ :=
    partialEval_respelled hansi hlocal.2 rfl List.mem_cons_self hround rfl
  exact ⟨hwhole, hnamed, hwhole', hnamed'⟩

end SqlVerbs.Local
