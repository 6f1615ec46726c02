import SqlVerbs.Proofs.Host.Pieces
import SqlVerbs.Proofs.Local.Names

/-!
# The text of operator trees

Operators with blanks around them, and operators in front of an operand, put operands that are
operators in parentheses. Tight operators and brackets do not. So what stands beside those can be
grouped in more than one way, and nothing else can: trees have the same text if and only if they
have the same row of pieces.
-/

namespace SqlVerbs.Host

namespace Expr

/-- The trees of operators over symbols with syntactic names. Words that are reserved are names like
others here. -/
inductive IsOperatorTree : Expr → Prop where
  | symbol {name : String} (h : isSyntactic name = true) : IsOperatorTree (.symbol name)
  | spaced {op : String} {l r : Expr} (h : op ∈ spacedOperators) (left : IsOperatorTree l)
      (right : IsOperatorTree r) : IsOperatorTree (.call op [l, r] [])
  | tight {op : String} {l r : Expr} (h : op ∈ tightOperators) (left : IsOperatorTree l)
      (right : IsOperatorTree r) : IsOperatorTree (.call op [l, r] [])
  | sign {op : String} {x : Expr} (h : op ∈ signs) (operand : IsOperatorTree x) :
      IsOperatorTree (.call op [x] [])
  | subset {bracket : String} {x i : Expr} (h : bracket ∈ brackets) (target : IsOperatorTree x)
      (index : IsOperatorTree i) : IsOperatorTree (.call bracket [x, i] [])

/-- The pieces of an argument, and whether it needs parentheses next to an operator. -/
structure OperandPieces where
  pieces : List Piece
  isOperator : Bool

/-- The pieces next to an operator. -/
def OperandPieces.guarded (o : OperandPieces) : List Piece :=
  if o.isOperator then [.group o.pieces] else o.pieces

/-- The pieces of a call from the ones of its arguments. -/
def callPieces (name : String) : List OperandPieces → List Piece
  | [l, r] =>
    if spacedOperators.contains name then l.guarded ++ .spaced name :: r.guarded
    else if tightOperators.contains name then l.pieces ++ .tight name :: r.pieces
    else l.pieces ++ [.subset name r.pieces]
  | [x] => .sign name :: x.guarded
  | _ => []

mutual

/-- The row of pieces that a tree of operators is written as. -/
def pieces : Expr → List Piece
  | .symbol name => [.symbol name]
  | .call name args _ => callPieces name (piecesAll args)
  | _ => []

def piecesAll : List Expr → List OperandPieces
  | [] => []
  | e :: rest => ⟨pieces e, e.isOperatorCall⟩ :: piecesAll rest

end

/-- The pieces of an operand next to an operator that puts other operators in parentheses. -/
def guardedPieces (e : Expr) : List Piece := OperandPieces.guarded ⟨e.pieces, e.isOperatorCall⟩

theorem guardedPieces_eq (e : Expr) :
    e.guardedPieces = if e.isOperatorCall then [.group e.pieces] else e.pieces := rfl

/-! ## The forms of operator trees -/

section Forms

variable {op : String} {l r x : Expr}

/-- No function is written in two ways. -/
theorem not_mem_spacedOperators (h : op ∈ tightOperators ∨ op ∈ brackets) :
    op ∉ spacedOperators := by
  have htable : ∀ op ∈ tightOperators ++ brackets, op ∉ spacedOperators := by decide
  exact htable op (List.mem_append.2 h)

theorem not_mem_tightOperators (h : op ∈ brackets) : op ∉ tightOperators :=
  (by decide : ∀ op ∈ brackets, op ∉ tightOperators) op h

theorem pieces_spaced (h : op ∈ spacedOperators) :
    pieces (.call op [l, r] []) = l.guardedPieces ++ .spaced op :: r.guardedPieces := by
  simp [pieces, piecesAll, callPieces, h, guardedPieces]

theorem pieces_tight (h : op ∈ tightOperators) :
    pieces (.call op [l, r] []) = l.pieces ++ .tight op :: r.pieces := by
  simp [pieces, piecesAll, callPieces, h, not_mem_spacedOperators (.inl h)]

theorem pieces_sign : pieces (.call op [x] []) = .sign op :: x.guardedPieces := by
  simp [pieces, piecesAll, callPieces, guardedPieces]

theorem pieces_subset (h : op ∈ brackets) :
    pieces (.call op [l, r] []) = l.pieces ++ [.subset op r.pieces] := by
  simp [pieces, piecesAll, callPieces, not_mem_spacedOperators (.inr h), not_mem_tightOperators h]

theorem isOperatorCall_eq_true {args : List Expr} (h : op ∈ spacedOperators ∨ op ∈ signs) :
    isOperatorCall (.call op args []) = true := by
  have htable : ∀ op ∈ spacedOperators ++ signs,
      (spacedOperators.contains op || op = "!" || op = "-") = true := by decide
  exact htable op (List.mem_append.2 h)

theorem isOperatorCall_eq_false {args : List Expr} (h : op ∈ tightOperators ∨ op ∈ brackets) :
    isOperatorCall (.call op args []) = false := by
  have htable : ∀ op ∈ tightOperators ++ brackets,
      (spacedOperators.contains op || op = "!" || op = "-") = false := by decide
  exact htable op (List.mem_append.2 h)

end Forms

/-! ## Text and pieces -/

section Text

open Piece (textOf)

variable {e : Expr}

theorem toList_guarded (h : e.deparse.toList = textOf e.pieces) :
    (Operand.guarded ⟨e.deparse, e.isOperatorCall⟩).toList = textOf e.guardedPieces := by
  rw [Operand.guarded, guardedPieces_eq]
  split <;> simp [h, textOf, Piece.text]

/-- A tree is written as the text of its pieces. -/
theorem toList_deparse (h : e.IsOperatorTree) : e.deparse.toList = textOf e.pieces := by
  induction h with
  | symbol h => simp [deparse, nameText, h, pieces, textOf, Piece.text]
  | spaced h _ _ ihl ihr =>
    rw [pieces_spaced h, Piece.textOf_append, ← toList_guarded ihl, textOf, ← toList_guarded ihr]
    simp [deparse, deparseArgs, deparseNamed, callText, h, Piece.text]
  | tight h _ _ ihl ihr =>
    rw [pieces_tight h, Piece.textOf_append, ← ihl, textOf, ← ihr]
    simp [deparse, deparseArgs, deparseNamed, callText, h, not_mem_spacedOperators (.inl h),
      Piece.text]
  | sign h _ ih =>
    rw [pieces_sign, textOf, ← toList_guarded ih]
    simp only [signs, List.mem_cons, List.not_mem_nil, or_false] at h
    obtain rfl | rfl | rfl := h <;> simp [deparse, deparseArgs, deparseNamed, callText, Piece.text]
  | subset h _ _ ihx ihi =>
    rw [pieces_subset h, Piece.textOf_append, ← ihx, textOf, Piece.text, ← ihi]
    simp only [brackets, List.mem_cons, List.not_mem_nil, or_false] at h
    obtain rfl | rfl := h <;>
      simp [deparse, deparseArgs, deparseNamed, callText, spacedOperators, tightOperators, textOf]

end Text

end Expr

namespace Piece

/-- A row that operators can stand beside. -/
structure StandsAlone (ps : List Piece) : Prop where
  legible : AreLegible ps
  first : leadOf ps ∈ [Lead.symbol, .sign, .group]
  last : ∀ p ∈ ps.getLast?, p.lead ≠ .tight

namespace StandsAlone

variable {p : Piece} {ps qs : List Piece}

theorem ne_nil (h : StandsAlone ps) : ps ≠ [] := by
  rintro rfl
  simpa [leadOf] using h.first

/-- Parentheses around a row. -/
theorem group (h : AreLegible ps) : StandsAlone [.group ps] where
  legible := .cons trivial h (fun heq ↦ by cases heq) .nil
  first := by simp [leadOf, lead]
  last := by simp [lead]

/-- An operator in front of a row. -/
theorem sign {op : String} (hop : op ∈ signs) (h : StandsAlone ps) :
    StandsAlone (.sign op :: ps) where
  legible := .cons hop .nil (fun _ ↦ by simp [lead]) h.legible
  first := by simp [leadOf, lead]
  last := by
    rw [List.getLast?_cons_of_ne_nil h.ne_nil]
    exact h.last

/-- An operator between two rows. -/
theorem between (hl : StandsAlone ps) (hr : StandsAlone qs) (hp : p.IsWritten)
    (hinner : AreLegible p.inside) (hlead : p.lead ∈ [Lead.spaced, .tight]) :
    StandsAlone (ps ++ p :: qs) where
  legible := by
    have hnext : p.lead ≠ leadOf qs := by
      intro heq
      have hfirst := hr.first
      rw [← heq] at hfirst
      revert hlead hfirst
      cases p.lead <;> simp
    refine hl.legible.append (.cons hp hinner (fun heq ↦ absurd heq hnext) hr.legible) ?_
    intro q hq heq
    refine ⟨?_, hl.last q hq⟩
    rw [heq, leadOf]
    revert hlead
    cases p.lead <;> simp
  first := by
    rw [leadOf_append hl.ne_nil]
    exact hl.first
  last := by
    rw [List.getLast?_append_of_ne_nil _ (List.cons_ne_nil p qs),
      List.getLast?_cons_of_ne_nil hr.ne_nil]
    exact hr.last

/-- Brackets behind a row. -/
theorem subset {bracket : String} (hx : StandsAlone ps) (hbracket : bracket ∈ brackets)
    (hi : StandsAlone qs) : StandsAlone (ps ++ [.subset bracket qs]) where
  legible := by
    have hinner : leadOf qs ≠ .subset := by
      have hfirst := hi.first
      revert hfirst
      cases leadOf qs <;> simp
    refine hx.legible.append (.cons ⟨hbracket, hinner⟩ hi.legible (fun heq ↦ by cases heq) .nil) ?_
    exact fun q hq heq ↦ ⟨by rw [heq]; simp [leadOf, lead], hx.last q hq⟩
  first := by
    rw [leadOf_append hx.ne_nil]
    exact hx.first
  last := by simp [lead]

end StandsAlone

end Piece

namespace Expr

open Piece (StandsAlone)

theorem standsAlone_guardedPieces {e : Expr} (h : StandsAlone e.pieces) :
    StandsAlone e.guardedPieces := by
  rw [guardedPieces_eq]
  split
  · exact .group h.legible
  · exact h

theorem standsAlone_pieces {e : Expr} (h : e.IsOperatorTree) : StandsAlone e.pieces := by
  induction h with
  | symbol h =>
    exact ⟨.cons h .nil (fun heq ↦ by cases heq) .nil, by simp [pieces, Piece.leadOf, Piece.lead],
      by simp [pieces, Piece.lead]⟩
  | spaced h _ _ ihl ihr =>
    rw [pieces_spaced h]
    exact (standsAlone_guardedPieces ihl).between (standsAlone_guardedPieces ihr) h .nil
      (by simp [Piece.lead])
  | tight h _ _ ihl ihr =>
    rw [pieces_tight h]
    exact ihl.between ihr h .nil (by simp [Piece.lead])
  | sign h _ ih =>
    rw [pieces_sign]
    exact (standsAlone_guardedPieces ih).sign h
  | subset h _ _ ihx ihi =>
    rw [pieces_subset h]
    exact ihx.subset h ihi

/-- Operator trees have the same text if and only if they have the same pieces. -/
theorem deparse_eq_iff {e e' : Expr} (he : e.IsOperatorTree) (he' : e'.IsOperatorTree) :
    e.deparse = e'.deparse ↔ e.pieces = e'.pieces := by
  rw [← String.toList_inj, toList_deparse he, toList_deparse he']
  exact Piece.textOf_inj (standsAlone_pieces he).legible (standsAlone_pieces he').legible

/-! ## Rows with one tree -/

/-- A symbol, or a sign in front of a symbol or of parentheses. -/
def isNarrow : Expr → Bool
  | .symbol _ => true
  | .call _ [x] _ => x.isOperatorCall || x.symbolName?.isSome
  | _ => false

/-- Is the operand in front of each tight operator and of all brackets none that needs parentheses,
and what stands behind each tight operator nothing that could be divided? -/
def keepsOperandsApart : Expr → Bool :=
  everywhere fun
    | .call name [l, r] _ =>
      !((tightOperators ++ brackets).contains name && l.isOperatorCall) &&
        (!tightOperators.contains name || r.isNarrow)
    | _ => true

section OneTree

variable {op : String} {l r x e e' : Expr}

theorem keepsOperandsApart_pair : keepsOperandsApart (.call op [l, r] []) = true ↔
    ((op ∈ tightOperators ∨ op ∈ brackets → l.isOperatorCall = false) ∧
      (op ∈ tightOperators → r.isNarrow = true)) ∧
        l.keepsOperandsApart = true ∧ r.keepsOperandsApart = true := by
  rw [keepsOperandsApart, everywhere_call, List.forall_mem_cons, List.forall_mem_singleton]
  simp [imp_iff_not_or]

theorem keepsOperandsApart_single :
    keepsOperandsApart (.call op [x] []) = true ↔ x.keepsOperandsApart = true := by
  simp [keepsOperandsApart, everywhere_call]

theorem pieces_narrow (he : e.IsOperatorTree) (h : e.isNarrow = true) :
    ∀ p ∈ e.pieces, p.lead ∈ [Lead.symbol, .sign, .group] := by
  cases he with
  | symbol => simp [pieces, Piece.lead]
  | @sign op x hop hx =>
    rw [pieces_sign, guardedPieces_eq]
    cases x with
    | symbol name => simp [isOperatorCall, pieces, Piece.lead]
    | call name args named =>
      have hx : isOperatorCall (.call name args named) = true := by
        simpa [isNarrow, symbolName?] using h
      simp [hx, Piece.lead]
    | literal value | vector items => cases hx
  | spaced | tight | subset => cases h

/-- Only operators in parentheses stand in a row of tight operators and brackets. -/
theorem pieces_of_isOperatorCall_eq_false (he : e.IsOperatorTree)
    (hapart : e.keepsOperandsApart = true) (h : e.isOperatorCall = false) :
    Piece.leadOf e.pieces = .symbol ∧ ∀ p ∈ e.pieces, p.lead ≠ .spaced := by
  induction he with
  | symbol => simp [pieces, Piece.leadOf, Piece.lead]
  | spaced hop | sign hop => simp [isOperatorCall_eq_true, hop] at h
  | tight hop hl hr ihl ihr =>
    obtain ⟨⟨hleft, hright⟩, hapart, -⟩ := keepsOperandsApart_pair.1 hapart
    obtain ⟨hlead, hnone⟩ := ihl hapart (hleft (.inl hop))
    rw [pieces_tight hop, Piece.leadOf_append (standsAlone_pieces hl).ne_nil]
    refine ⟨hlead, List.forall_mem_append.2 ⟨hnone, List.forall_mem_cons.2 ⟨?_, fun p hp heq ↦ ?_⟩⟩⟩
    · simp [Piece.lead]
    · simpa [heq] using pieces_narrow hr (hright hop) p hp
  | subset hop hx hi ihx ihi =>
    obtain ⟨⟨hleft, hright⟩, hapart, -⟩ := keepsOperandsApart_pair.1 hapart
    obtain ⟨hlead, hnone⟩ := ihx hapart (hleft (.inr hop))
    rw [pieces_subset hop, Piece.leadOf_append (standsAlone_pieces hx).ne_nil]
    exact ⟨hlead, List.forall_mem_append.2 ⟨hnone, by simp [Piece.lead]⟩⟩

theorem guardedPieces_lead (he : e.IsOperatorTree) (hapart : e.keepsOperandsApart = true) :
    Piece.leadOf e.guardedPieces ∈ [Lead.symbol, .group] ∧
      ∀ p ∈ e.guardedPieces, p.lead ≠ .spaced := by
  rw [guardedPieces_eq]
  split
  · simp [Piece.leadOf, Piece.lead]
  · rename_i hop
    obtain ⟨hlead, hnone⟩ :=
      pieces_of_isOperatorCall_eq_false he hapart (Bool.eq_false_iff.2 hop)
    exact ⟨by simp [hlead], hnone⟩

/-- Parentheses are not mistaken for a row that begins with a symbol. -/
theorem guardedPieces_inj (he : e.IsOperatorTree) (he' : e'.IsOperatorTree)
    (hapart : e.keepsOperandsApart = true) (hapart' : e'.keepsOperandsApart = true)
    (h : e.guardedPieces = e'.guardedPieces) : e.pieces = e'.pieces := by
  rw [guardedPieces_eq, guardedPieces_eq] at h
  split at h <;> split at h
  · simpa using h
  · rename_i hop
    have hlead := (pieces_of_isOperatorCall_eq_false he' hapart' (Bool.eq_false_iff.2 hop)).1
    rw [← h] at hlead
    cases hlead
  · rename_i hop _
    have hlead := (pieces_of_isOperatorCall_eq_false he hapart (Bool.eq_false_iff.2 hop)).1
    rw [h] at hlead
    cases hlead
  · exact h

/-- What a tree is at the top, named by the piece that its operator is written as. -/
def form : Expr → Lead
  | .call op [_, _] _ =>
    if op ∈ spacedOperators then .spaced else if op ∈ tightOperators then .tight else .subset
  | .call _ _ _ => .sign
  | _ => .symbol

@[simp] theorem form_symbol {name : String} : form (.symbol name) = .symbol := rfl

@[simp] theorem form_sign : form (.call op [x] []) = .sign := rfl

@[simp] theorem form_spaced (h : op ∈ spacedOperators) : form (.call op [l, r] []) = .spaced := by
  simp [form, h]

@[simp] theorem form_tight (h : op ∈ tightOperators) : form (.call op [l, r] []) = .tight := by
  simp [form, h, not_mem_spacedOperators (.inl h)]

@[simp] theorem form_subset (h : op ∈ brackets) : form (.call op [l, r] []) = .subset := by
  simp [form, not_mem_spacedOperators (.inr h), not_mem_tightOperators h]

/-- The first piece, the last one and the operators of a row tell the form of its tree. -/
def formOf (ps : List Piece) : Lead :=
  if Piece.leadOf ps = .sign then .sign
  else if ps.any (·.lead = .spaced) then .spaced
  else if ps.getLast?.any (·.lead = .subset) then .subset
  else if ps.any (·.lead = .tight) then .tight
  else .symbol

theorem formOf_pieces (he : e.IsOperatorTree) (hapart : e.keepsOperandsApart = true) :
    formOf e.pieces = e.form := by
  have hnone {ps : List Piece} (h : ∀ p ∈ ps, p.lead ≠ .spaced) :
      ps.any (·.lead = .spaced) = false :=
    List.any_eq_false.2 fun p hp ↦ by simpa using h p hp
  cases he with
  | symbol => rfl
  | @spaced op l r hop hl hr =>
    have hlead := (guardedPieces_lead hl (keepsOperandsApart_pair.1 hapart).2.1).1
    have hsign : Piece.leadOf (pieces (.call op [l, r] [])) ≠ .sign := by
      rw [pieces_spaced hop,
        Piece.leadOf_append (standsAlone_guardedPieces (standsAlone_pieces hl)).ne_nil]
      rintro heq
      simp [heq] at hlead
    have hany : (pieces (.call op [l, r] [])).any (·.lead = .spaced) = true := by
      simp [pieces_spaced hop, Piece.lead]
    rw [formOf, if_neg hsign, if_pos hany, form_spaced hop]
  | @tight op l r hop hl hr =>
    have hfalse : isOperatorCall (.call op [l, r] []) = false :=
      isOperatorCall_eq_false (.inl hop)
    obtain ⟨hlead, hspaced⟩ := pieces_of_isOperatorCall_eq_false (.tight hop hl hr) hapart hfalse
    have hlast : (pieces (.call op [l, r] [])).getLast?.any (·.lead = .subset) = false := by
      rw [pieces_tight hop, List.getLast?_append_of_ne_nil _ (List.cons_ne_nil _ _),
        List.getLast?_cons_of_ne_nil (standsAlone_pieces hr).ne_nil, Option.any_eq_false]
      intro p hp
      have hnarrow := pieces_narrow hr ((keepsOperandsApart_pair.1 hapart).1.2 hop) p
        (List.mem_of_getLast? hp)
      rw [decide_eq_false_iff_not]
      rintro heq
      simp [heq] at hnarrow
    have hany : (pieces (.call op [l, r] [])).any (·.lead = .tight) = true := by
      simp [pieces_tight hop, Piece.lead]
    rw [formOf, hlead, if_neg (by decide), hnone hspaced, if_neg Bool.false_ne_true, hlast,
      if_neg Bool.false_ne_true, if_pos hany, form_tight hop]
  | sign hop hx => rw [pieces_sign]; rfl
  | @subset op x i hop hx hi =>
    have hfalse : isOperatorCall (.call op [x, i] []) = false :=
      isOperatorCall_eq_false (.inr hop)
    obtain ⟨hlead, hspaced⟩ := pieces_of_isOperatorCall_eq_false (.subset hop hx hi) hapart hfalse
    have hlast : (pieces (.call op [x, i] [])).getLast?.any (·.lead = .subset) = true := by
      simp [pieces_subset hop, Piece.lead]
    rw [formOf, hlead, if_neg (by decide), hnone hspaced, if_neg Bool.false_ne_true, if_pos hlast,
      form_subset hop]

/-- A row is divided at its only spaced piece. -/
theorem spaced_cancel (hl : e.IsOperatorTree) (hl' : e'.IsOperatorTree)
    (hapart : e.keepsOperandsApart = true) (hapart' : e'.keepsOperandsApart = true)
    {op op' : String} {ps ps' : List Piece}
    (h : e.guardedPieces ++ .spaced op :: ps = e'.guardedPieces ++ .spaced op' :: ps') :
    e.guardedPieces = e'.guardedPieces ∧ op = op' ∧ ps = ps' := by
  have hnone {e : Expr} (he : e.IsOperatorTree) (hapart : e.keepsOperandsApart = true) :
      ∀ p ∈ e.guardedPieces, decide (p.lead ≠ .spaced) = true :=
    fun p hp ↦ decide_eq_true ((guardedPieces_lead he hapart).2 p hp)
  obtain ⟨hl, hrest⟩ := append_cancel_of_all (hnone hl hapart) (hnone hl' hapart')
    (by simp [Piece.lead]) (by simp [Piece.lead]) h
  simpa [hl] using hrest

/-- A row is divided at its last tight operator. -/
theorem tight_cancel (hr : e.IsOperatorTree) (hr' : e'.IsOperatorTree)
    (hnarrow : e.isNarrow = true) (hnarrow' : e'.isNarrow = true)
    {op op' : String} {ps ps' : List Piece}
    (h : ps ++ .tight op :: e.pieces = ps' ++ .tight op' :: e'.pieces) :
    ps = ps' ∧ op = op' ∧ e.pieces = e'.pieces := by
  have hnone {e : Expr} (he : e.IsOperatorTree) (hnarrow : e.isNarrow = true) :
      ∀ p ∈ e.pieces.reverse, decide (p.lead ≠ .tight) = true := by
    intro p hp
    have hlead := pieces_narrow he hnarrow p (List.mem_reverse.1 hp)
    refine decide_eq_true fun heq ↦ ?_
    simp [heq] at hlead
  have hreverse := congrArg List.reverse h
  simp only [List.reverse_append, List.reverse_cons, List.append_assoc, List.singleton_append]
    at hreverse
  obtain ⟨hr, hrest⟩ := append_cancel_of_all (hnone hr hnarrow) (hnone hr' hnarrow')
    (by simp [Piece.lead]) (by simp [Piece.lead]) hreverse
  rw [List.cons.injEq, Piece.tight.injEq] at hrest
  exact ⟨List.reverse_inj.1 hrest.2, hrest.1, List.reverse_inj.1 hr⟩

theorem form_eq_of_pieces_eq (he : e.IsOperatorTree) (he' : e'.IsOperatorTree)
    (hapart : e.keepsOperandsApart = true) (hapart' : e'.keepsOperandsApart = true)
    (heq : e.pieces = e'.pieces) : e.form = e'.form := by
  rw [← formOf_pieces he hapart, heq, formOf_pieces he' hapart']

/-- Only one tree that keeps its operands apart is written as a row. -/
theorem eq_of_pieces_eq (he : e.IsOperatorTree) (he' : e'.IsOperatorTree)
    (hapart : e.keepsOperandsApart = true) (hapart' : e'.keepsOperandsApart = true)
    (heq : e.pieces = e'.pieces) : e = e' := by
  -- Equal rows have one form, so the second tree is built by the same rule; what stands between the
  -- operands is then cancelled.
  induction he generalizing e' with
  | symbol h =>
    have hform := form_eq_of_pieces_eq (.symbol h) he' hapart hapart' heq
    cases he' with
    | symbol h' => simpa [pieces] using heq
    | spaced h' | tight h' | sign h' | subset h' => simp [h'] at hform
  | spaced h hl hr ihl ihr =>
    have hform := form_eq_of_pieces_eq (.spaced h hl hr) he' hapart hapart' heq
    cases he' with
    | spaced h' hl' hr' =>
      obtain ⟨-, hapartl, hapartr⟩ := keepsOperandsApart_pair.1 hapart
      obtain ⟨-, hapartl', hapartr'⟩ := keepsOperandsApart_pair.1 hapart'
      rw [pieces_spaced h, pieces_spaced h'] at heq
      obtain ⟨hleft, hop, hright⟩ := spaced_cancel hl hl' hapartl hapartl' heq
      have hl := ihl hl' hapartl hapartl' (guardedPieces_inj hl hl' hapartl hapartl' hleft)
      have hr := ihr hr' hapartr hapartr' (guardedPieces_inj hr hr' hapartr hapartr' hright)
      rw [hl, hop, hr]
    | symbol h' | tight h' | sign h' | subset h' => simp [h, h'] at hform
  | tight h hl hr ihl ihr =>
    have hform := form_eq_of_pieces_eq (.tight h hl hr) he' hapart hapart' heq
    cases he' with
    | tight h' hl' hr' =>
      obtain ⟨⟨-, hnarrow⟩, hapartl, hapartr⟩ := keepsOperandsApart_pair.1 hapart
      obtain ⟨⟨-, hnarrow'⟩, hapartl', hapartr'⟩ := keepsOperandsApart_pair.1 hapart'
      rw [pieces_tight h, pieces_tight h'] at heq
      obtain ⟨hleft, hop, hright⟩ := tight_cancel hr hr' (hnarrow h) (hnarrow' h') heq
      rw [ihl hl' hapartl hapartl' hleft, hop, ihr hr' hapartr hapartr' hright]
    | symbol h' | spaced h' | sign h' | subset h' => simp [h, h'] at hform
  | sign h hx ih =>
    have hform := form_eq_of_pieces_eq (.sign h hx) he' hapart hapart' heq
    cases he' with
    | sign h' hx' =>
      rw [keepsOperandsApart_single] at hapart hapart'
      rw [pieces_sign, pieces_sign, List.cons.injEq, Piece.sign.injEq] at heq
      rw [heq.1, ih hx' hapart hapart' (guardedPieces_inj hx hx' hapart hapart' heq.2)]
    | symbol h' | spaced h' | tight h' | subset h' => simp [h'] at hform
  | subset h hx hi ihx ihi =>
    have hform := form_eq_of_pieces_eq (.subset h hx hi) he' hapart hapart' heq
    cases he' with
    | subset h' hx' hi' =>
      obtain ⟨-, hapartx, haparti⟩ := keepsOperandsApart_pair.1 hapart
      obtain ⟨-, hapartx', haparti'⟩ := keepsOperandsApart_pair.1 hapart'
      rw [pieces_subset h, pieces_subset h'] at heq
      obtain ⟨htarget, hlast⟩ := List.append_inj' heq rfl
      rw [List.singleton_inj, Piece.subset.injEq] at hlast
      rw [hlast.1, ihx hx' hapartx hapartx' htarget, ihi hi' haparti haparti' hlast.2]
    | symbol h' | spaced h' | tight h' | sign h' => simp [h, h'] at hform

end OneTree

/-! ## Text and trees -/

section Regrouped

variable {l m r : Expr} {op t : String}

/-- A tight operator or brackets behind an operator: the text is the same whether they take all that
stands before them or the last operand only. So it is with an operator behind a tight one. -/
theorem deparse_regrouped (hl : l.IsOperatorTree) (hm : m.IsOperatorTree) (hr : r.IsOperatorTree)
    (hunguarded : m.isOperatorCall = false) (ht : t ∈ tightOperators ∨ t ∈ brackets) :
    (op ∈ spacedOperators ∨ op ∈ tightOperators →
      deparse (.call t [.call op [l, m] [], r] []) =
        deparse (.call op [l, .call t [m, r] []] [])) ∧
    (op ∈ signs → deparse (.call t [.call op [m] [], r] []) =
      deparse (.call op [.call t [m, r] []] [])) ∧
    (op ∈ spacedOperators → t ∈ tightOperators → deparse (.call t [l, .call op [m, r] []] []) =
      deparse (.call op [.call t [l, m] [], r] [])) := by
  have htree {x : Expr} (hx : x.IsOperatorTree) : IsOperatorTree (.call t [x, r] []) :=
    ht.elim (.tight · hx hr) (.subset · hx hr)
  obtain ⟨behind, hbehind⟩ : ∃ behind, ∀ x, pieces (.call t [x, r] []) = x.pieces ++ behind :=
    ht.elim (fun ht ↦ ⟨_, fun _ ↦ pieces_tight ht⟩) (fun ht ↦ ⟨_, fun _ ↦ pieces_subset ht⟩)
  have hbefore : m.guardedPieces = m.pieces := by simp [guardedPieces_eq, hunguarded]
  have hguarded : guardedPieces (.call t [m, r] []) = m.pieces ++ behind := by
    simp [guardedPieces_eq, isOperatorCall_eq_false ht, hbehind]
  refine ⟨fun hop ↦ ?_, fun hop ↦ ?_, fun hop ht ↦ ?_⟩
  · obtain hop | hop := hop
    · rw [deparse_eq_iff (htree (.spaced hop hl hm)) (.spaced hop hl (htree hm)), hbehind,
        pieces_spaced hop, pieces_spaced hop, hbefore, hguarded, List.append_assoc,
        List.cons_append]
    · rw [deparse_eq_iff (htree (.tight hop hl hm)) (.tight hop hl (htree hm)), hbehind,
        pieces_tight hop, pieces_tight hop, hbehind, List.append_assoc, List.cons_append]
  · rw [deparse_eq_iff (htree (.sign hop hm)) (.sign hop (htree hm)), hbehind, pieces_sign,
      pieces_sign, hbefore, hguarded, List.cons_append]
  · rw [deparse_eq_iff (.tight ht hl (.spaced hop hm hr)) (.spaced hop (.tight ht hl hm) hr),
      pieces_tight ht, pieces_spaced hop, pieces_spaced hop, guardedPieces_eq (.call t _ _),
      isOperatorCall_eq_false (.inl ht), if_neg Bool.false_ne_true, pieces_tight ht, hbefore,
      List.append_assoc, List.cons_append]

end Regrouped

/-- Two operator trees have the same text if and only if they have the same pieces. So all that the
text leaves open is the grouping of what stands unguarded beside tight operators and brackets: no
two trees that keep their operands apart share a text. -/
theorem deparse_unambiguous {e e' : Expr} (he : e.IsOperatorTree) (he' : e'.IsOperatorTree) :
    (e.deparse = e'.deparse ↔ e.pieces = e'.pieces) ∧
      (e.keepsOperandsApart = true → e'.keepsOperandsApart = true →
        e.deparse = e'.deparse → e = e') :=
  ⟨deparse_eq_iff he he', fun hapart hapart' h ↦
    eq_of_pieces_eq he he' hapart hapart' ((deparse_eq_iff he he').1 h)⟩

/-- The sum of `x` and an element of `y`. -/
def sumOfElement : Expr := .call "+" [.symbol "x", .call "[" [.symbol "y", .symbol "i"] []] []

/-- The element of a sum, which has the same text. -/
def elementOfSum : Expr := .call "[" [.call "+" [.symbol "x", .symbol "y"] [], .symbol "i"] []

/-- The sum of an element of `x` and `y`, which has another text. -/
def sumWithElement : Expr := .call "+" [.call "[" [.symbol "x", .symbol "i"] [], .symbol "y"] []

theorem deparse_unambiguous_elements :
    sumOfElement.IsOperatorTree ∧ elementOfSum.IsOperatorTree ∧ sumWithElement.IsOperatorTree ∧
      sumOfElement ≠ elementOfSum ∧ sumOfElement.deparse = elementOfSum.deparse ∧
      sumOfElement.keepsOperandsApart = true ∧ sumWithElement.keepsOperandsApart = true ∧
      sumOfElement.deparse ≠ sumWithElement.deparse := by
  have hx : IsOperatorTree (.symbol "x") := .symbol (by decide)
  have hy : IsOperatorTree (.symbol "y") := .symbol (by decide)
  have hi : IsOperatorTree (.symbol "i") := .symbol (by decide)
  have hof : sumOfElement.IsOperatorTree := .spaced (by decide) hx (.subset (by decide) hy hi)
  have hsum : elementOfSum.IsOperatorTree := .subset (by decide) (.spaced (by decide) hx hy) hi
  have hwith : sumWithElement.IsOperatorTree := .spaced (by decide) (.subset (by decide) hx hi) hy
  have hapart : sumOfElement.keepsOperandsApart = true := by decide
  have hapart' : sumWithElement.keepsOperandsApart = true := by decide
  refine ⟨hof, hsum, hwith, ?_, (deparse_unambiguous hof hsum).1.2 rfl, hapart, hapart', ?_⟩
  · simp [sumOfElement, elementOfSum]
  · intro h
    have heq := (deparse_unambiguous hof hwith).2 hapart hapart' h
    simp [sumOfElement, sumWithElement] at heq

end Expr

end SqlVerbs.Host
