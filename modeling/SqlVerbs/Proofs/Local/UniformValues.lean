import SqlVerbs.Proofs.Local.Agreement

/-!
# Values of one kind

The elements of a vector have one kind, missing ones included, and `NULL` is none of them. If this
holds of the bindings, also inside lists, and of the vectors that an expression spells out, then it
holds of every vector on the way to the folded expression and of those that are left in it.
-/

namespace SqlVerbs

namespace Host.Expr

/-- The elements of a vector that is spelled out. -/
def vectorItems? : Expr → Option (List Literal)
  | .vector items => some items
  | _ => none

/-- The vectors in the tree. -/
def vectors (e : Expr) : List (List Literal) := e.subterms.filterMap vectorItems?

theorem mem_vectors {e : Expr} {items : List Literal} :
    items ∈ e.vectors ↔ .vector items ∈ e.subterms := by
  rw [vectors, List.mem_filterMap]
  constructor
  · rintro ⟨c, hc, hitems⟩
    cases c <;> cases hitems
    exact hc
  · exact fun h ↦ ⟨_, h, rfl⟩

theorem forall_mem_vectors_call {p : List Literal → Prop} {name : String} {args : List Expr}
    {named : List (String × Expr)} :
    (∀ items ∈ vectors (.call name args named), p items) ↔
      (∀ e ∈ args, ∀ items ∈ e.vectors, p items) ∧
        ∀ entry ∈ named, ∀ items ∈ entry.2.vectors, p items := by
  have hvectors (e : Expr) : (∀ items ∈ e.vectors, p items) ↔
      ∀ c ∈ e.subterms, ∀ items ∈ c.vectorItems?, p items := by
    rw [vectors, List.forall_mem_filterMap]
    rfl
  simp only [hvectors, forall_mem_subterms_call]
  exact and_iff_right nofun

theorem vectors_subset {c e : Expr} (hc : c ∈ e.subterms) : c.vectors ⊆ e.vectors :=
  fun _ h ↦ mem_vectors.2 (subterms_subset hc (mem_vectors.1 h))

end Host.Expr

namespace Local

open Calendar (DateTime)
open Host (Expr)

/-- Have the literals one kind, and not that of `NULL`? -/
def haveOneKind : List Literal → Bool
  | [] => true
  | first :: rest => first.kind ≠ .null && rest.all (fun l ↦ l.kind = first.kind)

mutual

/-- Have the elements of each vector in the value one kind? -/
def Value.isUniform : Value → Bool
  | .atomic items => haveOneKind items
  | .list entries => entriesUniform entries
  | .date _ | .dateTime _ | .null => true

/-- Have the elements of each vector in the members of a list one kind? -/
def Value.entriesUniform : List (String × Value) → Bool
  | [] => true
  | (_, value) :: rest => Value.isUniform value && Value.entriesUniform rest

end

theorem entriesUniform_eq_all (entries : List (String × Value)) :
    Value.entriesUniform entries = entries.all (fun entry ↦ entry.2.isUniform) := by
  induction entries with
  | nil => rfl
  | cons entry rest ih => rw [Value.entriesUniform, ih, List.all_cons]

/-! ## Vectors -/

section Vectors

variable {kind : Kind} {items : List Literal} {v : Value}

theorem haveOneKind_iff :
    haveOneKind items = true ↔ ∃ kind, kind ≠ .null ∧ ∀ l ∈ items, l.kind = kind := by
  cases items with
  | nil => exact iff_of_true rfl ⟨.logical, nofun, by simp⟩
  | cons first rest =>
    simp only [haveOneKind, Bool.and_eq_true, decide_eq_true_eq, List.all_eq_true,
      List.forall_mem_cons]
    constructor
    · rintro ⟨hne, hrest⟩
      exact ⟨first.kind, hne, rfl, hrest⟩
    · rintro ⟨kind, hne, rfl, hrest⟩
      exact ⟨hne, hrest⟩

theorem kindOf_eq (h : ∀ l ∈ items, l.kind = kind) (hne : items ≠ []) : kindOf items = kind := by
  have hjoin (rest : List Literal) (hrest : ∀ l ∈ rest, l.kind = kind) :
      rest.foldl (fun acc l ↦ acc.join l.kind) kind = kind := by
    induction rest with
    | nil => rfl
    | cons l rest ih =>
      rw [List.forall_mem_cons] at hrest
      rw [List.foldl_cons, hrest.1, join_self, ih hrest.2]
  cases items with
  | nil => exact absurd rfl hne
  | cons first rest =>
    rw [List.forall_mem_cons] at h
    rw [kindOf, h.1, hjoin rest h.2]

theorem isUniform_ofLiteral (l : Literal) : (Value.ofLiteral l).isUniform = true := by
  cases l <;> rfl

theorem haveOneKind_literals (hv : v.isUniform = true) (h : v.literals = .ok items) :
    haveOneKind items = true := by
  cases v with
  | atomic _ => cases h; exact hv
  | null | date _ | dateTime _ => cases h; rfl
  | list _ => cases h

/-- Coercion of the elements to a kind leaves them with this kind. -/
theorem haveOneKind_map_coerce (hkind : kind ≠ .null) (items : List Literal) :
    haveOneKind (items.map (coerce kind)) = true :=
  haveOneKind_iff.2 ⟨kind, hkind, List.forall_mem_map.2 fun l _ ↦ kind_coerce kind l⟩

end Vectors

/-! ## Steps of an evaluation -/

section Steps

variable {v target index : Value}

/-- A local function gives vectors of one kind for vectors of one kind. -/
theorem callLocal_isUniform {now : DateTime} {name : String} {args : List Value}
    {named : Bindings Value} (hargs : ∀ a ∈ args, a.isUniform = true)
    (h : callLocal now name args named = .ok v) : v.isUniform = true := by
  cases callLocal_makes h with
  | vector kind ofKind known =>
    refine haveOneKind_iff.2 ⟨kind, fun hnull ↦ ?_, ofKind⟩
    -- An argument with `NULL` among its elements is none of one kind.
    obtain ⟨x, hx, all, hall, hmem⟩ := known hnull
    obtain ⟨other, hne, hother⟩ := haveOneKind_iff.1 (haveOneKind_literals (hargs x hx) hall)
    exact hne (hother .null hmem).symm
  | argument mem => exact hargs v mem
  | @mapped x items mem read f respects =>
    have hitems := haveOneKind_literals (hargs x mem) read
    cases items with
    | nil => rfl
    | cons first rest =>
      obtain ⟨kind, hne, hkind⟩ := haveOneKind_iff.1 hitems
      rw [List.forall_mem_cons] at hkind
      rw [Value.isUniform]
      refine haveOneKind_iff.2 ⟨(f first).kind, ?_, List.forall_mem_map.2 ?_⟩
      · exact respects.ne_null first (hkind.1 ▸ hne)
      · rw [List.forall_mem_cons]
        exact ⟨rfl, fun l hl ↦ respects.congr l first ((hkind.2 l hl).trans hkind.1.symm)⟩
  | null | date _ _ | dateTime _ _ => rfl

theorem isUniform_of_isMember (htarget : target.isUniform = true) (h : IsMember v target) :
    v.isUniform = true := by
  obtain ⟨entries, rfl, entry, hentry, rfl⟩ := h
  rw [Value.isUniform, entriesUniform_eq_all, List.all_eq_true] at htarget
  exact htarget entry hentry

theorem memberOf_isUniform {key : String} (htarget : target.isUniform = true)
    (h : memberOf target key = .ok v) : v.isUniform = true := by
  obtain rfl | hmember := memberOf_eq h
  · rfl
  · exact isUniform_of_isMember htarget hmember

theorem elementOf_isUniform (htarget : target.isUniform = true)
    (h : elementOf target index = .ok v) : v.isUniform = true := by
  obtain ⟨l, rfl⟩ | hmember := elementOf_eq h
  · exact isUniform_ofLiteral l
  · exact isUniform_of_isMember htarget hmember

/-- Beyond the end of a vector its kind goes on. -/
theorem subset_isUniform (htarget : target.isUniform = true) (h : subset target index = .ok v) :
    v.isUniform = true := by
  obtain ⟨items, hitems, h⟩ := bind_eq_ok.1 h
  obtain ⟨positions, -, h⟩ := bind_eq_ok.1 h
  obtain ⟨out, hout, h⟩ := bind_eq_ok.1 h
  cases h
  obtain ⟨kind, hne, hkind⟩ := haveOneKind_iff.1 (haveOneKind_literals htarget hitems)
  refine haveOneKind_iff.2 ⟨kindOf items, kindOf_ne_null fun l hl hnull ↦ ?_,
    forall_mem_of_mapM (fun position l hl ↦ ?_) hout⟩
  · exact hne ((hkind l hl).symm.trans (kind_eq_null.2 hnull))
  · obtain hmem | rfl := subsetItem_eq hl
    · rw [hkind l hmem, kindOf_eq hkind (List.ne_nil_of_mem hmem)]
    · exact Literal.kind_missing _

end Steps

/-! ## Constants in place of values -/

section Constants

/-- The constant that stands for a value of one kind spells out vectors of one kind. -/
theorem haveOneKind_toExpr {v : Value} {e : Expr} (hv : v.isUniform = true)
    (h : v.toExpr = .ok e) : ∀ items ∈ e.vectors, haveOneKind items = true := by
  unfold Value.toExpr at h
  split at h <;> cases h
  case h_2 items _ =>
    rw [Value.isUniform] at hv
    simpa [Expr.vectors, Expr.subterms, Expr.vectorItems?] using hv
  all_goals simp [Expr.vectors, Expr.subterms, Expr.vectorItems?]

/-- What is known of a folded expression: its value and its expression have vectors of one kind. -/
structure LeavesUniform (f : Folded) : Prop where
  value : ∀ v, f.value = some v → v.isUniform = true
  expr : ∀ items ∈ f.expr.vectors, haveOneKind items = true

theorem LeavesUniform.residual {f : Folded} (hf : LeavesUniform f) {r : Expr}
    (h : f.residual = .ok r) : ∀ items ∈ r.vectors, haveOneKind items = true := by
  unfold Folded.residual at h
  split at h
  · rename_i v hv _
    exact haveOneKind_toExpr (hf.value v hv) (blame_eq_ok.1 h)
  · cases h
    exact hf.expr

theorem rebuild_vectors {name : String} {args : List Expr} {named : List (String × Expr)}
    {folded : List Folded} {foldedNamed : List (String × Folded)} {touched : Bool} {f : Folded}
    (hargs : List.Forall₂ (fun _ f ↦ LeavesUniform f) args folded)
    (hnamed : List.Forall₂ (fun _ f ↦ LeavesUniform f) (named.map Prod.snd)
      (foldedNamed.map Prod.snd))
    (h : rebuild name folded foldedNamed touched = .ok f) :
    ∀ items ∈ f.expr.vectors, haveOneKind items = true := by
  obtain ⟨rs, hrs, h⟩ := bind_eq_ok.1 h
  obtain ⟨namedRs, hnamedRs, h⟩ := bind_eq_ok.1 h
  cases h
  refine Expr.forall_mem_vectors_call.2
    ⟨residuals_forall (hargs.imp fun _ _ hf _ ↦ hf.residual) hrs, fun entry hentry ↦ ?_⟩
  exact residuals_forall (hnamed.imp fun _ _ hf _ ↦ hf.residual)
    (residuals_of_namedResiduals hnamedRs) _ (List.mem_map_of_mem hentry)

end Constants

/-! ## Evaluation and folding -/

section Folding

variable {scope : Scope} (henv : ∀ entry ∈ scope.env, entry.2.isUniform = true)

include henv

theorem isUniform_of_get? {name : String} {v : Value} (h : scope.env.get? name = some v) :
    v.isUniform = true :=
  henv _ (Bindings.mem_of_get? h)

theorem eval_isUniform {e : Expr} {v : Value} (he : ∀ items ∈ e.vectors, haveOneKind items = true)
    (h : eval scope e = .ok v) : v.isUniform = true := by
  induction e using Expr.induction generalizing v with
  | literal l => cases h; exact isUniform_ofLiteral l
  | vector items => cases h; exact he items (by simp [Expr.mem_vectors, Expr.subterms])
  | symbol name =>
    rw [eval, blame_eq_ok, Scope.lookup_eq_ok] at h
    exact isUniform_of_get? henv h
  | call name args named ihargs ihnamed =>
    have huniform (e : Expr) (hmem : e ∈ args) {v : Value} (hv : eval scope e = .ok v) :
        v.isUniform = true := ihargs e hmem ((Expr.forall_mem_vectors_call.1 he).1 e hmem) hv
    cases eval_call.1 h with
    | binding pair access choice bound => exact isUniform_of_get? henv bound
    | member pair access target found =>
      exact memberOf_isUniform (huniform _ (by simp [pair]) target) found
    | element pair access target index found =>
      exact elementOf_isUniform (huniform _ (by simp [pair]) target) found
    | subset pair access target index found =>
      exact subset_isUniform (huniform _ (by simp [pair]) target) found
    | qualified access bound => exact isUniform_of_get? henv bound
    | function access valued keys namedValued result =>
      exact callLocal_isUniform (valued.forall_value fun e he _ ↦ huniform e he) result

theorem fold_leavesUniform {e : Expr} {f : Folded}
    (he : ∀ items ∈ e.vectors, haveOneKind items = true) (h : fold scope e = .ok f) :
    LeavesUniform f := by
  refine ⟨fun v hv ↦ eval_isUniform henv he (fold_givesValue h v hv), ?_⟩
  -- The value is uniform by evaluation; the induction is for the expression that is left.
  induction e using Expr.induction generalizing f with
  | literal | vector => cases h; exact he
  | symbol name =>
    cases h
    unfold foldSymbol
    repeat' split
    all_goals exact he
  | call name args named ihargs ihnamed =>
    rw [fold] at h
    split at h
    · unfold foldLocal at h
      dsimp only at h
      split at h <;> obtain ⟨_, -, h⟩ := bind_eq_ok.1 h <;> cases h
      · nofun
      · exact he
    · obtain ⟨folded, hfolded, h⟩ := bind_eq_ok.1 h
      obtain ⟨foldedNamed, hfoldedNamed, h⟩ := bind_eq_ok.1 h
      unfold foldCall at h
      dsimp only at h
      split at h
      · obtain ⟨_, -, h⟩ := bind_eq_ok.1 h
        cases h
        exact he
      · cases h
        exact he
      · rw [Expr.forall_mem_vectors_call] at he
        have hleaves {e : Expr} {f : Folded} (he : ∀ items ∈ e.vectors, haveOneKind items = true)
            (hf : fold scope e = .ok f)
            (hexpr : ∀ items ∈ f.expr.vectors, haveOneKind items = true) : LeavesUniform f :=
          ⟨fun v hv ↦ eval_isUniform henv he (fold_givesValue hf v hv), hexpr⟩
        refine rebuild_vectors (foldAll_forall₂ (fun e hmem f hf ↦ ?_) hfolded)
          (foldAll_forall₂ (List.forall_mem_map.2 fun entry hmem f hf ↦ ?_)
            (foldAll_of_foldNamed hfoldedNamed)) h
        · exact hleaves (he.1 e hmem) hf (ihargs e hmem (he.1 e hmem) hf)
        · exact hleaves (he.2 entry hmem) hf (ihnamed entry hmem (he.2 entry hmem) hf)

end Folding

/-- Local values stay uniform. Local functions, members, elements, subsets and coercions make
vectors of one kind out of such vectors. So if the bindings and the expression have no others, then
no expression in the tree has a value with others, evaluated or folded, and every vector that is
left for the backend has one kind. -/
theorem partialEval_isUniform {scope : Scope} {e : Expr}
    (henv : ∀ entry ∈ scope.env, entry.2.isUniform = true)
    (he : ∀ items ∈ e.vectors, haveOneKind items = true) :
    (∀ now name args named v, (∀ a ∈ args, a.isUniform = true) →
        callLocal now name args named = .ok v → v.isUniform = true) ∧
      (∀ target v, target.isUniform = true →
        (∃ key, memberOf target key = .ok v) ∨ (∃ index, elementOf target index = .ok v) ∨
          (∃ index, subset target index = .ok v) → v.isUniform = true) ∧
      (∀ (kind : Kind) (items : List Literal), kind ≠ .null →
        haveOneKind (items.map (coerce kind)) = true) ∧
      (∀ c ∈ e.subterms, ∀ v, eval scope c = .ok v → v.isUniform = true) ∧
      (∀ c ∈ e.subterms, ∀ f, fold scope c = .ok f → LeavesUniform f) ∧
      ∀ residual, partialEval scope e = .ok residual →
        ∀ items ∈ residual.vectors, ∃ kind, kind ≠ .null ∧ ∀ l ∈ items, l.kind = kind := by
  have hsubterm (c : Expr) (hc : c ∈ e.subterms) :
      ∀ items ∈ c.vectors, haveOneKind items = true :=
    fun items hitems ↦ he items (Expr.vectors_subset hc hitems)
  refine ⟨fun _ _ _ _ _ ↦ callLocal_isUniform, ?_,
    fun kind items h ↦ haveOneKind_map_coerce h items,
    fun c hc v ↦ eval_isUniform henv (hsubterm c hc),
    fun c hc f ↦ fold_leavesUniform henv (hsubterm c hc), ?_⟩
  · rintro target v htarget (⟨key, h⟩ | ⟨index, h⟩ | ⟨index, h⟩)
    · exact memberOf_isUniform htarget h
    · exact elementOf_isUniform htarget h
    · exact subset_isUniform htarget h
  · intro residual h items hitems
    obtain ⟨f, hf, h⟩ := bind_eq_ok.1 h
    exact haveOneKind_iff.1 ((fold_leavesUniform henv he hf).residual h items hitems)

/-- A member of a list is negated, combined with a double and subset beyond its end:
`x == c(-limits$low, 2.5)[c(1L, 5L)]` is folded to `x == c(-1, NA_real_)`. -/
theorem partialEval_isUniform_limits :
    let integer (i : Int64) : Literal := .integer (some i)
    let scope : Scope :=
      { columns := ["x"]
        env := [("limits", .list [("low", .atomic [integer 1, .integer none]), ("unit", .null)])]
        now := ⟨⟨2024, 1, 1⟩, 0, 0, 0⟩ }
    let combined : Expr := .call "c" [.call "-" [.call "$" [.symbol "limits", .symbol "low"] []] [],
      .literal (.double (some 2.5))] []
    let e : Expr := .call "==" [.symbol "x",
      .call "[" [combined, .vector [integer 1, integer 5]] []] []
    let left : List Literal := [.double (some (-1.0)), .double none]
    (∀ entry ∈ scope.env, entry.2.isUniform = true) ∧
      (∀ items ∈ e.vectors, haveOneKind items = true) ∧
      partialEval scope e = .ok (.call "==" [.symbol "x", .vector left] []) ∧
      (∀ v, eval scope combined = .ok v → v.isUniform = true) ∧
      ∃ kind, kind ≠ .null ∧ ∀ l ∈ left, l.kind = kind := by
  intro integer scope combined e left
  have henv : ∀ entry ∈ scope.env, entry.2.isUniform = true := by decide
  have he : ∀ items ∈ e.vectors, haveOneKind items = true := by decide
  have hresidual : partialEval scope e = .ok (.call "==" [.symbol "x", .vector left] []) := rfl
  obtain ⟨-, -, -, heval, -, hleft⟩ := partialEval_isUniform henv he
  have hcombined : combined ∈ e.subterms := by
    simp [e, Expr.subterms, Expr.subtermsAll, Expr.mem_subterms_self]
  exact ⟨henv, he, hresidual, heval combined hcombined,
    hleft _ hresidual left (by simp [Expr.mem_vectors, Expr.subterms, Expr.subtermsAll])⟩

end Local

end SqlVerbs
