import SqlVerbs.Local.Fold
import SqlVerbs.Proofs.Bindings

/-!
# The names that folding leaves

An expression whose symbols are columns or local bindings is folded to one whose symbols are
columns. Names behind a pronoun count where they are chosen among the columns; any other form that
never reaches the backend becomes a value, whatever it mentions.
-/

namespace SqlVerbs

namespace Host.Expr

/-- Induction on host expressions, with all arguments of a call at hand. -/
theorem induction {motive : Expr → Prop} (literal : ∀ value, motive (.literal value))
    (vector : ∀ items, motive (.vector items)) (symbol : ∀ name, motive (.symbol name))
    (call : ∀ name args named, (∀ e ∈ args, motive e) →
      (∀ entry ∈ named, motive entry.2) → motive (.call name args named))
    (e : Expr) : motive e := by
  refine @Expr.rec motive (fun args ↦ ∀ e ∈ args, motive e)
    (fun named ↦ ∀ entry ∈ named, motive entry.2) (fun entry ↦ motive entry.2)
    literal vector symbol call ?_ ?_ ?_ ?_ ?_ e
  · simp
  · exact fun head tail hhead htail ↦ List.forall_mem_cons.2 ⟨hhead, htail⟩
  · simp
  · exact fun head tail hhead htail ↦ List.forall_mem_cons.2 ⟨hhead, htail⟩
  · exact fun _ _ h ↦ h

theorem referencesAll_eq_flatMap (args : List Expr) :
    referencesAll args = args.flatMap references := by
  induction args with
  | nil => rfl
  | cons e rest ih => rw [referencesAll, ih, List.flatMap_cons]

theorem referencesNamed_eq_flatMap (named : List (String × Expr)) :
    referencesNamed named = named.flatMap (fun entry ↦ references entry.2) := by
  induction named with
  | nil => rfl
  | cons entry rest ih => rw [referencesNamed, ih, List.flatMap_cons]

theorem forall_mem_references_call {p : String → Prop} {name : String} {args : List Expr}
    {named : List (String × Expr)} :
    (∀ x ∈ references (.call name args named), p x) ↔
      (∀ e ∈ args, ∀ x ∈ e.references, p x) ∧
        ∀ entry ∈ named, ∀ x ∈ entry.2.references, p x := by
  simp only [references, referencesAll_eq_flatMap, referencesNamed_eq_flatMap,
    List.forall_mem_append, List.mem_flatMap, forall_exists_index, and_imp]
  exact and_congr ⟨fun h e he x hx ↦ h x e he hx, fun h x e he hx ↦ h e he x hx⟩
    ⟨fun h e he x hx ↦ h x e he hx, fun h x e he hx ↦ h e he x hx⟩

mutual

/-- The functions that the tree calls, in visiting order, with repetitions. -/
def calls : Expr → List String
  | .call name args named => name :: (callsAll args ++ callsNamed named)
  | _ => []

/-- The functions that several expressions call. -/
def callsAll : List Expr → List String
  | [] => []
  | e :: rest => calls e ++ callsAll rest

/-- The functions that named arguments call. -/
def callsNamed : List (String × Expr) → List String
  | [] => []
  | (_, e) :: rest => calls e ++ callsNamed rest

end

theorem forall_mem_calls_call {p : String → Prop} {name : String} {args : List Expr}
    {named : List (String × Expr)} :
    (∀ function ∈ calls (.call name args named), p function) ↔
      p name ∧ (∀ e ∈ args, ∀ function ∈ e.calls, p function) ∧
        ∀ entry ∈ named, ∀ function ∈ entry.2.calls, p function := by
  have hargs : callsAll args = args.flatMap calls := by
    induction args with
    | nil => rfl
    | cons e rest ih => rw [callsAll, ih, List.flatMap_cons]
  have hnamed : callsNamed named = named.flatMap (fun entry ↦ calls entry.2) := by
    induction named with
    | nil => rfl
    | cons entry rest ih => rw [callsNamed, ih, List.flatMap_cons]
  simp only [calls, hargs, hnamed, List.forall_mem_cons, List.forall_mem_append, List.mem_flatMap,
    forall_exists_index, and_imp]
  exact and_congr_right' (and_congr ⟨fun h e he x hx ↦ h x e he hx, fun h x e he hx ↦ h e he x hx⟩
    ⟨fun h e he x hx ↦ h x e he hx, fun h x e he hx ↦ h e he x hx⟩)

mutual

/-- Does every expression in the tree pass a test? -/
def everywhere (test : Expr → Bool) : Expr → Bool
  | .call name args named =>
    test (.call name args named) && everywhereAll test args && everywhereNamed test named
  | e => test e

/-- Does every expression in several trees pass a test? -/
def everywhereAll (test : Expr → Bool) : List Expr → Bool
  | [] => true
  | e :: rest => everywhere test e && everywhereAll test rest

/-- Does every expression in named arguments pass a test? -/
def everywhereNamed (test : Expr → Bool) : List (String × Expr) → Bool
  | [] => true
  | (_, e) :: rest => everywhere test e && everywhereNamed test rest

end

theorem everywhere_call {test : Expr → Bool} {name : String} {args : List Expr}
    {named : List (String × Expr)} :
    everywhere test (.call name args named) = true ↔ test (.call name args named) = true ∧
      (∀ e ∈ args, e.everywhere test = true) ∧
        ∀ entry ∈ named, entry.2.everywhere test = true := by
  have hargs : everywhereAll test args = args.all (everywhere test) := by
    induction args with
    | nil => rfl
    | cons e rest ih => rw [everywhereAll, ih, List.all_cons]
  have hnamed : everywhereNamed test named = named.all (fun entry ↦ everywhere test entry.2) := by
    induction named with
    | nil => rfl
    | cons entry rest ih => rw [everywhereNamed, ih, List.all_cons]
  rw [everywhere, hargs, hnamed, Bool.and_eq_true, Bool.and_eq_true, List.all_eq_true,
    List.all_eq_true, and_assoc]

mutual

/-- The expression and every expression in it. -/
def subterms : Expr → List Expr
  | .call name args named => .call name args named :: (subtermsAll args ++ subtermsNamed named)
  | e => [e]

/-- Several expressions and every expression in them. -/
def subtermsAll : List Expr → List Expr
  | [] => []
  | e :: rest => subterms e ++ subtermsAll rest

/-- Named arguments and every expression in them. -/
def subtermsNamed : List (String × Expr) → List Expr
  | [] => []
  | (_, e) :: rest => subterms e ++ subtermsNamed rest

end

theorem subtermsAll_eq_flatMap (args : List Expr) : subtermsAll args = args.flatMap subterms := by
  induction args with
  | nil => rfl
  | cons e rest ih => rw [subtermsAll, ih, List.flatMap_cons]

theorem subtermsNamed_eq_flatMap (named : List (String × Expr)) :
    subtermsNamed named = named.flatMap (fun entry ↦ subterms entry.2) := by
  induction named with
  | nil => rfl
  | cons entry rest ih => rw [subtermsNamed, ih, List.flatMap_cons]

theorem forall_mem_subterms_call {p : Expr → Prop} {name : String} {args : List Expr}
    {named : List (String × Expr)} :
    (∀ c ∈ subterms (.call name args named), p c) ↔ p (.call name args named) ∧
      (∀ e ∈ args, ∀ c ∈ e.subterms, p c) ∧
        ∀ entry ∈ named, ∀ c ∈ entry.2.subterms, p c := by
  rw [subterms, List.forall_mem_cons, List.forall_mem_append, subtermsAll_eq_flatMap,
    subtermsNamed_eq_flatMap, List.forall_mem_flatMap, List.forall_mem_flatMap]

/-- What an expression in the tree calls, the tree calls. -/
theorem calls_of_subterm {p : String → Prop} {e : Expr} (h : ∀ function ∈ e.calls, p function) :
    ∀ c ∈ e.subterms, ∀ function ∈ c.calls, p function := by
  induction e using induction with
  | literal | vector | symbol => simpa [subterms] using h
  | call name args named ihargs ihnamed =>
    refine forall_mem_subterms_call.2 ⟨h, ?_⟩
    rw [forall_mem_calls_call] at h
    exact ⟨fun e he ↦ ihargs e he (h.2.1 e he),
      fun entry hentry ↦ ihnamed entry hentry (h.2.2 entry hentry)⟩

theorem mem_subterms_self (e : Expr) : e ∈ e.subterms := by
  cases e <;> simp [subterms]

theorem mem_subterms_call {c : Expr} {name : String} {args : List Expr}
    {named : List (String × Expr)} :
    c ∈ subterms (.call name args named) ↔ c = .call name args named ∨
      (∃ e ∈ args, c ∈ e.subterms) ∨ ∃ entry ∈ named, c ∈ entry.2.subterms := by
  rw [subterms, List.mem_cons, List.mem_append, subtermsAll_eq_flatMap, subtermsNamed_eq_flatMap,
    List.mem_flatMap, List.mem_flatMap]

theorem subterms_subset {c e : Expr} (hc : c ∈ e.subterms) : c.subterms ⊆ e.subterms := by
  induction e using induction with
  | literal | vector | symbol => obtain rfl := List.mem_singleton.1 hc; exact fun _ h ↦ h
  | call name args named ihargs ihnamed =>
    obtain rfl | ⟨e, he, hc⟩ | ⟨entry, hentry, hc⟩ := mem_subterms_call.1 hc
    · exact fun _ h ↦ h
    · exact fun s hs ↦ mem_subterms_call.2 (.inr (.inl ⟨e, he, ihargs e he hc hs⟩))
    · exact fun s hs ↦
        mem_subterms_call.2 (.inr (.inr ⟨entry, hentry, ihnamed entry hentry hc hs⟩))

end Host.Expr

/-- A computation that has a result has one in each of its steps. -/
theorem bind_eq_ok {ε α β : Type} {x : Except ε α} {f : α → Except ε β} {b : β} :
    (x >>= f) = .ok b ↔ ∃ a, x = .ok a ∧ f a = .ok b := by
  cases x with
  | error e => exact ⟨nofun, nofun⟩
  | ok a => exact ⟨fun h ↦ ⟨a, rfl, h⟩, fun ⟨_, ha, h⟩ ↦ by cases ha; exact h⟩

namespace Local

open Host (Expr)

namespace Scope

/-- Is the name that a form chooses by pronoun among the columns? Other forms choose none. -/
def coversForm (scope : Scope) (name : String) (args : List Expr) (named : List (String × Expr)) :
    Bool :=
  match Access.ofCall name args with
  | .pronoun .data member =>
    match pronounMember (.call name args named) member (eval scope member) with
    | .ok chosen => scope.isColumn chosen
    | .error _ => true
  | _ => true

mutual

/-- Does the expression mention columns and local bindings only? -/
def covers (scope : Scope) : Expr → Bool
  | .literal _ | .vector _ => true
  | .symbol name => scope.isColumn name || scope.env.has name
  | .call name args named =>
    if alwaysLocal.contains name then scope.coversForm name args named
    else coversAll scope args && coversNamed scope named

def coversAll (scope : Scope) : List Expr → Bool
  | [] => true
  | e :: rest => covers scope e && coversAll scope rest

def coversNamed (scope : Scope) : List (String × Expr) → Bool
  | [] => true
  | (_, e) :: rest => covers scope e && coversNamed scope rest

end

theorem coversAll_eq_all (scope : Scope) (args : List Expr) :
    coversAll scope args = args.all (covers scope) := by
  induction args with
  | nil => rfl
  | cons e rest ih => rw [coversAll, ih, List.all_cons]

theorem coversNamed_eq_all (scope : Scope) (named : List (String × Expr)) :
    coversNamed scope named = named.all (fun entry ↦ covers scope entry.2) := by
  induction named with
  | nil => rfl
  | cons entry rest ih => rw [coversNamed, ih, List.all_cons]

end Scope

/-! ## Values in place of expressions -/

theorem references_toExpr {value : Value} {e : Expr} (h : value.toExpr = .ok e) :
    e.references = [] := by
  unfold Value.toExpr at h
  split at h <;> cases h <;> rfl

/-- What is known of a folded expression: what is left of it mentions columns only, and where it is
a constant it mentions nothing. -/
structure Leaves (scope : Scope) (e : Expr) (f : Folded) : Prop where
  residual : ∀ r, f.residual = .ok r → ∀ name ∈ r.references, scope.isColumn name = true
  constant : f.value.isSome = true → f.touched = false → e.references = []

namespace Leaves

variable {scope : Scope} {e : Expr}

theorem ofConstant (value : Value) (h : e.references = []) :
    Leaves scope e (.constant e value) where
  residual := by
    rintro _ ⟨⟩ name hname
    rw [Folded.constant, h] at hname
    cases hname
  constant _ _ := h

theorem ofBound (source : Expr) (value : Value) : Leaves scope e (.bound source value) where
  residual r h name hname := by
    change blame source value.toExpr = .ok r at h
    cases hvalue : value.toExpr with
    | error reason => rw [hvalue] at h; cases h
    | ok r' =>
      rw [hvalue] at h
      cases h
      rw [references_toExpr hvalue] at hname
      cases hname
  constant _ := nofun

theorem ofRemote {residual : Expr} (touched : Bool)
    (h : ∀ name ∈ residual.references, scope.isColumn name = true) :
    Leaves scope e (.remote residual touched) where
  residual := by
    rintro _ ⟨⟩
    exact h
  constant := nofun

end Leaves

/-! ## Folding -/

section Lists

variable {scope : Scope}

theorem foldAll_forall₂ {R : Expr → Folded → Prop} {args : List Expr}
    (ih : ∀ e ∈ args, ∀ f, fold scope e = .ok f → R e f) {folded : List Folded}
    (h : foldAll scope args = .ok folded) : List.Forall₂ R args folded := by
  induction args generalizing folded with
  | nil => cases h; exact .nil
  | cons e rest ihrest =>
    rw [List.forall_mem_cons] at ih
    obtain ⟨f, hf, h⟩ := bind_eq_ok.1 h
    obtain ⟨fs, hfs, h⟩ := bind_eq_ok.1 h
    cases h
    exact .cons (ih.1 f hf) (ihrest ih.2 hfs)

/-- What each residual has, all have. -/
theorem residuals_forall {p : Expr → Prop} {args : List Expr} {folded : List Folded}
    (h : List.Forall₂ (fun _ f ↦ ∀ r, f.residual = .ok r → p r) args folded) {rs : List Expr}
    (hrs : residuals folded = .ok rs) : ∀ r ∈ rs, p r := by
  induction h generalizing rs with
  | nil => cases hrs; simp
  | cons hf _ ih =>
    obtain ⟨r, hr, hrs⟩ := bind_eq_ok.1 hrs
    obtain ⟨rest, hrest, hrs⟩ := bind_eq_ok.1 hrs
    cases hrs
    exact List.forall_mem_cons.2 ⟨hf r hr, ih hrest⟩

/-- What each constant has, all untouched arguments with values have. -/
theorem valuesOf?_constant {p : Expr → Prop} {args : List Expr} {folded : List Folded}
    (h : List.Forall₂ (fun e f ↦ f.value.isSome = true → f.touched = false → p e) args folded)
    {values : List Value} (hvalues : valuesOf? folded = some values)
    (htouched : folded.any Folded.touched = false) : ∀ e ∈ args, p e := by
  induction h generalizing values with
  | nil => simp
  | cons hf _ ih =>
    simp only [valuesOf?, Option.bind_eq_bind, Option.bind_eq_some_iff] at hvalues
    obtain ⟨value, hvalue, rest, hrest, -⟩ := hvalues
    rw [List.any_cons, Bool.or_eq_false_iff] at htouched
    exact List.forall_mem_cons.2 ⟨hf (by simp [hvalue]) htouched.1, ih hrest htouched.2⟩

theorem valuesOf?_forall₂ {R : Expr → Value → Prop} {args : List Expr} {folded : List Folded}
    (h : List.Forall₂ (fun e f ↦ ∀ value, f.value = some value → R e value) args folded)
    {values : List Value} (hvalues : valuesOf? folded = some values) :
    List.Forall₂ R args values := by
  induction h generalizing values with
  | nil => cases hvalues; exact .nil
  | cons hf _ ih =>
    simp only [valuesOf?, Option.bind_eq_bind, Option.bind_eq_some_iff] at hvalues
    obtain ⟨value, hvalue, rest, hrest, hvalues⟩ := hvalues
    cases hvalues
    exact .cons (hf value hvalue) (ih hrest)

/-! Named arguments are folded as if they were positional. -/

theorem foldAll_of_foldNamed {named : List (String × Expr)} {folded : List (String × Folded)}
    (h : foldNamed scope named = .ok folded) :
    foldAll scope (named.map Prod.snd) = .ok (folded.map Prod.snd) := by
  induction named generalizing folded with
  | nil => cases h; rfl
  | cons entry rest ih =>
    obtain ⟨f, hf, h⟩ := bind_eq_ok.1 h
    obtain ⟨fs, hfs, h⟩ := bind_eq_ok.1 h
    cases h
    exact bind_eq_ok.2 ⟨f, hf, bind_eq_ok.2 ⟨_, ih hfs, rfl⟩⟩

theorem residuals_of_namedResiduals {folded : List (String × Folded)} {rs : List (String × Expr)}
    (h : namedResiduals folded = .ok rs) :
    residuals (folded.map Prod.snd) = .ok (rs.map Prod.snd) := by
  induction folded generalizing rs with
  | nil => cases h; rfl
  | cons entry rest ih =>
    obtain ⟨r, hr, h⟩ := bind_eq_ok.1 h
    obtain ⟨rs, hrs, h⟩ := bind_eq_ok.1 h
    cases h
    exact bind_eq_ok.2 ⟨r, hr, bind_eq_ok.2 ⟨_, ih hrs, rfl⟩⟩

theorem valuesOf?_map_snd (folded : List (String × Folded)) :
    valuesOf? (folded.map Prod.snd) = (namedValuesOf? folded).map (List.map Prod.snd) := by
  induction folded with
  | nil => rfl
  | cons entry rest ih =>
    rw [List.map_cons, valuesOf?, ih, namedValuesOf?]
    cases entry.2.value with
    | none => rfl
    | some value => cases namedValuesOf? rest <;> rfl

theorem valuesOf?_of_namedValuesOf? {folded : List (String × Folded)}
    {values : List (String × Value)} (h : namedValuesOf? folded = some values) :
    valuesOf? (folded.map Prod.snd) = some (values.map Prod.snd) := by
  rw [valuesOf?_map_snd, h, Option.map_some]

end Lists

section Calls

variable {scope : Scope} {name : String} {args : List Expr} {named : List (String × Expr)}
  {folded : List Folded} {foldedNamed : List (String × Folded)}
  (hargs : List.Forall₂ (Leaves scope) args folded)
  (hnamed : List.Forall₂ (Leaves scope) (named.map Prod.snd) (foldedNamed.map Prod.snd))

include hargs hnamed

theorem references_of_callFolded? {result : Except Reason Value}
    (h : callFolded? scope name folded foldedNamed = some result)
    (htouched : folded.any Folded.touched = false)
    (htouchedNamed : foldedNamed.any (fun entry ↦ entry.2.touched) = false) :
    (Expr.call name args named).references = [] := by
  rw [callFolded?] at h
  split at h
  · cases h
  · simp only [Option.bind_eq_bind, Option.bind_eq_some_iff] at h
    obtain ⟨values, hvalues, namedValues, hnamedValues, -⟩ := h
    have hconstant := valuesOf?_constant (hargs.imp fun _ _ hf ↦ hf.constant) hvalues htouched
    have hconstantNamed := valuesOf?_constant (hnamed.imp fun _ _ hf ↦ hf.constant)
      (valuesOf?_of_namedValuesOf? hnamedValues) (by simpa [List.any_map] using htouchedNamed)
    rw [List.eq_nil_iff_forall_not_mem, Expr.forall_mem_references_call]
    refine ⟨fun e he ↦ by simp [hconstant e he], fun entry hentry ↦ ?_⟩
    simp [hconstantNamed entry.2 (List.mem_map_of_mem hentry)]

theorem rebuild_leaves {e : Expr} {touched : Bool} {f : Folded}
    (h : rebuild name folded foldedNamed touched = .ok f) : Leaves scope e f := by
  obtain ⟨rs, hrs, h⟩ := bind_eq_ok.1 h
  obtain ⟨namedRs, hnamedRs, h⟩ := bind_eq_ok.1 h
  cases h
  refine .ofRemote touched (Expr.forall_mem_references_call.2
    ⟨residuals_forall (hargs.imp fun _ _ hf ↦ hf.residual) hrs, ?_⟩)
  intro entry hentry
  exact residuals_forall (hnamed.imp fun _ _ hf ↦ hf.residual)
    (residuals_of_namedResiduals hnamedRs) _ (List.mem_map_of_mem hentry)

theorem foldCall_leaves {f : Folded}
    (h : foldCall scope (.call name args named) name folded foldedNamed = .ok f) :
    Leaves scope (.call name args named) f := by
  simp only [foldCall] at h
  split at h
  · obtain ⟨value, -, h⟩ := bind_eq_ok.1 h
    cases h
    exact .ofBound _ value
  · rename_i hresult htouched
    rw [Bool.or_eq_false_iff] at htouched
    cases h
    exact .ofConstant _ (references_of_callFolded? hargs hnamed hresult htouched.1 htouched.2)
  · exact rebuild_leaves hargs hnamed h

end Calls

theorem foldLocal_leaves {scope : Scope} {name : String} {args : List Expr}
    {named : List (String × Expr)} (hcovers : scope.coversForm name args named = true)
    {f : Folded} (h : foldLocal scope name args named = .ok f) (e : Expr) : Leaves scope e f := by
  simp only [foldLocal] at h
  split at h
  · rename_i member haccess
    obtain ⟨chosen, hchosen, h⟩ := bind_eq_ok.1 h
    cases h
    simp only [Scope.coversForm, haccess, hchosen] at hcovers
    exact .ofRemote false (by simpa [Expr.references] using hcovers)
  · obtain ⟨value, -, h⟩ := bind_eq_ok.1 h
    cases h
    exact .ofBound _ value

theorem fold_leaves {scope : Scope} {e : Expr} (hcovers : scope.covers e = true) {f : Folded}
    (h : fold scope e = .ok f) : Leaves scope e f := by
  induction e using Expr.induction generalizing f with
  | literal value => cases h; exact .ofConstant _ rfl
  | vector items => cases h; exact .ofConstant _ rfl
  | symbol name =>
    cases h
    rw [foldSymbol]
    split
    · rename_i hcolumn
      exact .ofRemote false (by simpa [Expr.references] using hcolumn)
    · rename_i hcolumn
      split
      · exact .ofBound _ _
      · rename_i hbinding
        simp [Scope.covers, hcolumn, Bindings.has, hbinding] at hcovers
  | call name args named ihargs ihnamed =>
    rw [fold] at h
    rw [Scope.covers] at hcovers
    split at h
    · rename_i hlocal
      rw [if_pos hlocal] at hcovers
      exact foldLocal_leaves hcovers h _
    · rename_i hremote
      rw [if_neg hremote, Bool.and_eq_true, Scope.coversAll_eq_all, Scope.coversNamed_eq_all,
        List.all_eq_true, List.all_eq_true] at hcovers
      obtain ⟨folded, hfolded, h⟩ := bind_eq_ok.1 h
      obtain ⟨foldedNamed, hfoldedNamed, h⟩ := bind_eq_ok.1 h
      have hargs := foldAll_forall₂ (fun e he f hf ↦ ihargs e he (hcovers.1 e he) hf) hfolded
      have hnamed := foldAll_forall₂ (List.forall_mem_map.2
        (fun entry hentry f hf ↦ ihnamed entry hentry (hcovers.2 entry hentry) hf))
        (foldAll_of_foldNamed hfoldedNamed)
      exact foldCall_leaves hargs hnamed h

/-- What is left of an expression that mentions columns and local bindings mentions columns. -/
theorem partialEval_columns {scope : Scope} {e residual : Expr} (hcovers : scope.covers e = true)
    (h : partialEval scope e = .ok residual) :
    ∀ name ∈ residual.references, name ∈ scope.columns := by
  obtain ⟨f, hf, h⟩ := bind_eq_ok.1 h
  simpa [Scope.isColumn] using (fold_leaves hcovers hf).residual residual h

/-! ## The functions that are left -/

theorem calls_toExpr {value : Value} {e : Expr} (h : value.toExpr = .ok e) : e.calls = [] := by
  unfold Value.toExpr at h
  split at h <;> cases h <;> rfl

theorem calls_residual_bound {source r : Expr} {value : Value}
    (h : (Folded.bound source value).residual = .ok r) : r.calls = [] := by
  change blame source value.toExpr = .ok r at h
  cases hvalue : value.toExpr with
  | error reason => rw [hvalue] at h; cases h
  | ok r' =>
    rw [hvalue] at h
    cases h
    exact calls_toExpr hvalue

/-- What is left of the expression calls nothing that the expression does not call. -/
def KeepsCalls (e : Expr) (f : Folded) : Prop :=
  ∀ r, f.residual = .ok r → ∀ function ∈ r.calls, function ∈ e.calls

theorem residuals_calls {args : List Expr} {folded : List Folded} {rs : List Expr}
    (h : List.Forall₂ KeepsCalls args folded) (hrs : residuals folded = .ok rs) :
    ∀ r ∈ rs, ∀ function ∈ r.calls, ∃ e ∈ args, function ∈ e.calls := by
  induction h generalizing rs with
  | nil => cases hrs; simp
  | @cons e f args folded hf _ ih =>
    obtain ⟨r, hr, hrs⟩ := bind_eq_ok.1 hrs
    obtain ⟨rest, hrest, hrs⟩ := bind_eq_ok.1 hrs
    cases hrs
    rw [List.forall_mem_cons]
    constructor
    · intro function hfunction
      exact ⟨e, List.mem_cons_self, hf r hr function hfunction⟩
    · intro r hr function hfunction
      obtain ⟨e', he', hcalls⟩ := ih hrest r hr function hfunction
      exact ⟨e', List.mem_cons_of_mem _ he', hcalls⟩

theorem foldCall_keepsCalls {scope : Scope} {name : String} {args : List Expr}
    {named : List (String × Expr)} {folded : List Folded} {foldedNamed : List (String × Folded)}
    (hargs : List.Forall₂ KeepsCalls args folded)
    (hnamed : List.Forall₂ KeepsCalls (named.map Prod.snd) (foldedNamed.map Prod.snd)) {f : Folded}
    (h : foldCall scope (.call name args named) name folded foldedNamed = .ok f) :
    KeepsCalls (.call name args named) f := by
  have hcalls := Expr.forall_mem_calls_call.1
    (fun function (hfunction : function ∈ (Expr.call name args named).calls) ↦ hfunction)
  simp only [foldCall] at h
  split at h
  · obtain ⟨value, -, h⟩ := bind_eq_ok.1 h
    cases h
    intro r hr
    simp [calls_residual_bound hr]
  · cases h
    rintro _ ⟨⟩
    exact fun function hfunction ↦ hfunction
  · obtain ⟨rs, hrs, h⟩ := bind_eq_ok.1 h
    obtain ⟨namedRs, hnamedRs, h⟩ := bind_eq_ok.1 h
    cases h
    rintro _ ⟨⟩
    refine Expr.forall_mem_calls_call.2 ⟨hcalls.1, ?_, ?_⟩
    · intro r hr function hfunction
      obtain ⟨e, he, hold⟩ := residuals_calls hargs hrs r hr function hfunction
      exact hcalls.2.1 e he function hold
    · intro entry hentry function hfunction
      obtain ⟨e, he, hold⟩ := residuals_calls hnamed (residuals_of_namedResiduals hnamedRs) _
        (List.mem_map_of_mem hentry) function hfunction
      obtain ⟨old, hmem, rfl⟩ := List.mem_map.1 he
      exact hcalls.2.2 old hmem function hold

theorem fold_keepsCalls {scope : Scope} {e : Expr} {f : Folded} (h : fold scope e = .ok f) :
    KeepsCalls e f := by
  induction e using Expr.induction generalizing f with
  | literal value => cases h; rintro _ ⟨⟩; exact fun _ hfunction ↦ hfunction
  | vector items => cases h; rintro _ ⟨⟩; exact fun _ hfunction ↦ hfunction
  | symbol name =>
    cases h
    intro r hr
    unfold foldSymbol at hr
    split at hr
    · cases hr; simp [Folded.remote, Expr.calls]
    · split at hr
      · simp [calls_residual_bound hr]
      · cases hr; simp [Folded.remote, Expr.calls]
  | call name args named ihargs ihnamed =>
    rw [fold] at h
    split at h
    · simp only [foldLocal] at h
      split at h
      · obtain ⟨chosen, -, h⟩ := bind_eq_ok.1 h
        cases h
        rintro _ ⟨⟩
        simp [Folded.remote, Expr.calls]
      · obtain ⟨value, -, h⟩ := bind_eq_ok.1 h
        cases h
        intro r hr
        simp [calls_residual_bound hr]
    · obtain ⟨folded, hfolded, h⟩ := bind_eq_ok.1 h
      obtain ⟨foldedNamed, hfoldedNamed, h⟩ := bind_eq_ok.1 h
      have hargs := foldAll_forall₂ (fun e he _ hf ↦ ihargs e he hf) hfolded
      have hnamed := foldAll_forall₂ (List.forall_mem_map.2 fun entry he _ hf ↦ ihnamed entry he hf)
        (foldAll_of_foldNamed hfoldedNamed)
      exact foldCall_keepsCalls hargs hnamed h

/-- Folding introduces no calls. -/
theorem partialEval_calls {scope : Scope} {e residual : Expr}
    (h : partialEval scope e = .ok residual) :
    ∀ function ∈ residual.calls, function ∈ e.calls := by
  obtain ⟨f, hf, h⟩ := bind_eq_ok.1 h
  exact fold_keepsCalls hf residual h

end Local

end SqlVerbs
