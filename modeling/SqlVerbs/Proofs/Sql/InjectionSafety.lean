import SqlVerbs.Proofs.Sql.Lexemes

/-!
# Printed expressions are safe from injection

The scanner of a built-in dialect gives back, for the printed text of an expression, the lexemes
that are read off its tree. So the contents of names and strings cannot be taken for anything else,
and no text opens a comment.
-/

namespace SqlVerbs.Sql

open Scanner

/-! ## Tokens that may stand side by side -/

/-- Is the token one after which anything may follow at once? -/
def Token.isOpening : Token → Bool
  | .symbol "(" | .symbol "." => true
  | _ => false

/-- Is the token one that may follow anything at once? -/
def Token.isClosing : Token → Bool
  | .symbol "(" | .symbol ")" | .symbol "," => true
  | _ => false

def Token.isIdentifier : Token → Bool
  | .identifier _ => true
  | _ => false

/-- May one piece follow another with nothing in between? -/
def Piece.joins : Piece → Piece → Bool
  | .token t, .token u => t.isOpening || u.isClosing || (t.isIdentifier && u = .symbol ".")
  | _, _ => true

/-- Pieces that can be told apart, and tokens that the dialect allows. -/
structure Legible (d : Dialect) (pieces : List Piece) : Prop where
  spaced : pieces.IsChain (fun p q ↦ p.joins q = true)
  safe : ∀ p ∈ pieces, p.isSafe d = true

theorem Piece.joins_blank (p : Piece) : p.joins .blank = true := by cases p <;> rfl

theorem Piece.blank_joins (p : Piece) : Piece.joins .blank p = true := rfl

theorem Piece.joins_closing (p : Piece) {t : Token} (ht : t.isClosing = true) :
    p.joins (.token t) = true := by
  cases p <;> simp [Piece.joins, ht]

/-- The first character of a piece that follows a token at once ends the token. -/
theorem endsBefore_head {d : Dialect} {t : Token} {q : Piece} {rest : List Char}
    (h : Piece.joins (.token t) q = true) :
    ∀ c ∈ (q.chars d ++ rest).head?, t.endsBefore c = true := by
  intro c hc
  cases q with
  | blank =>
    obtain rfl : ' ' = c := by simpa using hc
    exact t.endsBefore_of_isSeparator rfl
  | token u =>
    simp only [Piece.joins, Bool.or_eq_true, Bool.and_eq_true, decide_eq_true_eq] at h
    rcases h with (hopening | hclosing) | ⟨hidentifier, rfl⟩
    · unfold Token.isOpening at hopening
      split at hopening
      · rfl
      · rfl
      · cases hopening
    · unfold Token.isClosing at hclosing
      split at hclosing
      · obtain rfl : '(' = c := by simpa [Token.chars] using hc
        exact t.endsBefore_of_isSeparator rfl
      · obtain rfl : ')' = c := by simpa [Token.chars] using hc
        exact t.endsBefore_of_isSeparator rfl
      · obtain rfl : ',' = c := by simpa [Token.chars] using hc
        exact t.endsBefore_of_isSeparator rfl
      · cases hclosing
    · obtain rfl : '.' = c := by simpa [Token.chars] using hc
      cases t <;> first | rfl | cases hidentifier

/-- The scanner reports the lexemes of legible pieces one after the other. -/
theorem Legible.scanFrom_spell {d : Dialect} (hd : LexicalTables d) {pieces : List Piece}
    (h : Legible d pieces) (rest : List Char) (hrest : ∀ c ∈ rest.head?, isSeparator c = true) :
    scanFrom d .blank (spell d pieces ++ rest) =
      prepend (pieces.flatMap Piece.lexemes) (scanFrom d .blank rest) := by
  induction pieces with
  | nil => simp
  | cons p pieces ih =>
    have hlater := ih ⟨h.spaced.tail, fun q hq ↦ h.safe q (List.mem_cons_of_mem p hq)⟩
    cases p with
    | blank =>
      rw [spell_cons, chars_blank, List.append_assoc, List.singleton_append, scanFrom_blank rfl,
        hlater]
      rfl
    | token t =>
      have hends : ∀ c ∈ (spell d pieces ++ rest).head?, t.endsBefore c = true := by
        cases pieces with
        | nil => exact fun c hc ↦ t.endsBefore_of_isSeparator (hrest c hc)
        | cons q pieces =>
          rw [spell_cons, List.append_assoc]
          exact endsBefore_head (List.isChain_cons_cons.1 h.spaced).1
      have hsafe : t.isSafe d = true := h.safe _ List.mem_cons_self
      rw [spell_cons, chars_token, List.append_assoc, scanFrom_token hd hsafe hends, hlater,
        prepend_prepend]
      rfl

/-! ## The pieces of expressions are legible -/

namespace Legible

variable {d : Dialect} {first second : List Piece}

theorem nil : Legible d [] := ⟨.nil, by simp⟩

theorem token {t : Token} (ht : t.isSafe d = true) : Legible d [.token t] :=
  ⟨.singleton _, by simpa [Piece.isSafe] using ht⟩

theorem append (hfirst : Legible d first) (hsecond : Legible d second)
    (h : ∀ p ∈ first.getLast?, ∀ q ∈ second.head?, p.joins q = true) :
    Legible d (first ++ second) := by
  refine ⟨List.isChain_append.2 ⟨hfirst.spaced, hsecond.spaced, h⟩, fun p hp ↦ ?_⟩
  exact (List.mem_append.1 hp).elim (hfirst.safe p) (hsecond.safe p)

theorem blank_cons (h : Legible d second) : Legible d (.blank :: second) := by
  have hblank : Legible d [.blank] := ⟨.singleton _, by simp [Piece.isSafe]⟩
  refine append hblank h ?_
  rintro p hp q -
  obtain rfl : Piece.blank = p := by simpa using hp
  exact q.blank_joins

theorem append_blank (hfirst : Legible d first) (hsecond : Legible d second) :
    Legible d (first ++ .blank :: second) := by
  refine append hfirst hsecond.blank_cons ?_
  rintro p - q hq
  obtain rfl : Piece.blank = q := by simpa using hq
  exact p.joins_blank

theorem token_blank {t : Token} (ht : t.isSafe d = true) (h : Legible d second) :
    Legible d (.token t :: .blank :: second) := append_blank (token ht) h

theorem append_closing {t : Token} (hfirst : Legible d first)
    (hsecond : Legible d (.token t :: second)) (ht : t.isClosing = true) :
    Legible d (first ++ .token t :: second) := by
  refine append hfirst hsecond ?_
  rintro p - q hq
  obtain rfl : Piece.token t = q := by simpa using hq
  exact p.joins_closing ht

theorem parens (h : Legible d first) : Legible d (parensPieces first) := by
  have hclosed : Legible d (first ++ [.symbol ")"]) := append_closing h (token rfl) rfl
  have hopen : Legible d [.symbol "("] := token rfl
  refine append hopen hclosed ?_
  rintro p hp q -
  obtain rfl : Piece.symbol "(" = p := by simpa using hp
  cases q <;> rfl

theorem token_parens {t : Token} (ht : t.isSafe d = true) (h : Legible d first) :
    Legible d (.token t :: parensPieces first) :=
  append_closing (token ht) h.parens rfl

theorem parensIf (needed : Bool) (h : Legible d first) :
    Legible d (parensPiecesIf needed first) := by
  cases needed with
  | true => exact h.parens
  | false => exact h

theorem comma {lists : List (List Piece)} (h : ∀ l ∈ lists, Legible d l) :
    Legible d (commaPieces lists) := by
  induction lists with
  | nil => exact nil
  | cons l lists ih =>
    have hl := h l List.mem_cons_self
    have hlists := ih (fun l' hl' ↦ h l' (List.mem_cons_of_mem l hl'))
    cases lists with
    | nil => simpa [commaPieces] using hl
    | cons l' lists =>
      simpa [commaPieces, Piece.symbol] using
        append_closing hl (token_blank (t := .symbol ",") rfl hlists) rfl

theorem blanks {lists : List (List Piece)} (h : ∀ l ∈ lists, Legible d l) :
    Legible d ([.blank].intercalate lists) := by
  induction lists with
  | nil => exact nil
  | cons l lists ih =>
    have hl := h l List.mem_cons_self
    have hlists := ih (fun l' hl' ↦ h l' (List.mem_cons_of_mem l hl'))
    cases lists with
    | nil => simpa using hl
    | cons l' lists => simpa using append_blank hl hlists

theorem bound (bound : Bound) : Legible d bound.pieces := by
  cases bound <;> exact token_blank rfl (token rfl)

theorem frame (frame : Frame) : Legible d frame.pieces := by
  obtain ⟨start, stop⟩ := frame
  cases stop with
  | none => exact token_blank rfl (bound start)
  | some stop =>
    have hstop := token_blank (d := d) (t := .word "AND") rfl (bound stop)
    have hrange := (bound start).append_blank hstop
    have hall := token_blank (t := .word "ROWS") rfl (token_blank (t := .word "BETWEEN") rfl hrange)
    simpa [Frame.pieces, Piece.word] using hall

theorem overClause {partition order : List (List Piece)} (frame : Option Frame)
    (hp : ∀ l ∈ partition, Legible d l) (ho : ∀ l ∈ order, Legible d l) :
    Legible d (overPieces partition order frame) := by
  refine blanks (fun l hl ↦ ?_)
  simp only [List.mem_append, List.mem_map, Option.mem_toList] at hl
  rcases hl with (hl | hl) | ⟨frame', -, rfl⟩
  · split at hl
    · cases hl
    · obtain rfl := List.mem_singleton.1 hl
      exact token_blank rfl (token_blank rfl (comma hp))
  · split at hl
    · cases hl
    · obtain rfl := List.mem_singleton.1 hl
      exact token_blank rfl (token_blank rfl (comma ho))
  · exact Legible.frame frame'

theorem branches {lists : List (List Piece)} (hfirst : Legible d first)
    (h : ∀ l ∈ lists, ∃ more, l = .blank :: more ∧ Legible d more) :
    Legible d (first ++ lists.flatten) := by
  induction lists generalizing first with
  | nil => simpa using hfirst
  | cons l lists ih =>
    obtain ⟨more, rfl, hmore⟩ := h l List.mem_cons_self
    have hall := ih (hfirst.append_blank hmore) (fun l hl ↦ h l (List.mem_cons_of_mem _ hl))
    simpa using hall

end Legible

namespace Expr

/-- Is the node one that the tables of the dialect and the form of names allow? -/
def isSafe (d : Dialect) : Expr → Bool
  | .raw _ => false
  | .function name _ _ => Lowering.isFunctionName name
  | .binary _ (.custom text) _ => d.customOperators.contains text
  | .cast _ type => d.castTypes.all.contains type
  | _ => true

theorem isSafe_asToken {d : Dialect} {l : Expr} {op : BinaryOp} {r : Expr}
    (h : isSafe d (.binary l op r) = true) : op.asToken.isSafe d = true := by
  cases op <;> first | rfl | exact h

theorem legible_piecesAll {d : Dialect} (items : List Expr)
    (h : ∀ e ∈ items, Legible d e.pieces) : ∀ l ∈ piecesAll items, Legible d l := by
  rw [piecesAll_eq_map]
  simpa using h

/-- The pieces of a tree are legible if all of its nodes are safe. -/
theorem legible_pieces (d : Dialect) (e : Expr) (h : ∀ s ∈ e.parts, s.isSafe d = true) :
    Legible d e.pieces := by
  induction e using Expr.induction_children with
  | node e ih =>
  have hchild : ∀ c ∈ e.children, Legible d c.pieces :=
    fun c hc ↦ ih c hc (fun s hs ↦ h s (mem_parts_of_child hc hs))
  have hself := h e (mem_parts_self e)
  cases e with
  | literal value => exact .token rfl
  | identifier qualifier name =>
    cases qualifier with
    | none => exact .token rfl
    | some qualifier =>
      exact ⟨.cons_cons rfl (.cons_cons rfl (.singleton _)), by simp [pieces, Piece.isSafe,
        Token.isSafe, Piece.symbol, punctuationSymbols]⟩
  | star => exact .token rfl
  | raw text => cases hself
  | list items => exact (Legible.comma (legible_piecesAll items hchild)).parens
  | function name args distinct =>
    have hargs := Legible.comma (legible_piecesAll args hchild)
    refine .token_parens hself ?_
    cases distinct with
    | true => exact .token_blank rfl hargs
    | false => exact hargs
  | binary l op r =>
    have hl := (hchild l (by simp [children])).parensIf (needsParens op .left l)
    have hr := (hchild r (by simp [children])).parensIf (needsParens op .right r)
    exact hl.append_blank (.token_blank (isSafe_asToken hself) hr)
  | unary op e =>
    have he := hchild e (by simp [children])
    cases op <;> exact .token_parens rfl he
  | isNull e =>
    have he := (hchild e (by simp [children])).parens
    exact (he.append_blank (.token_blank rfl (.token rfl))).parens
  | between e low high =>
    have he := (hchild e (by simp [children])).parensIf (comparisonNeedsParens e)
    have hlow := (hchild low (by simp [children])).parensIf (comparisonNeedsParens low)
    have hhigh := (hchild high (by simp [children])).parensIf (comparisonNeedsParens high)
    exact he.append_blank (.token_blank rfl (hlow.append_blank (.token_blank rfl hhigh)))
  | elemOf e items =>
    have he := (hchild e (by simp [children])).parensIf (comparisonNeedsParens e)
    exact he.append_blank (.token_blank rfl (hchild items (by simp [children])))
  | caseWhen branches otherwise =>
    -- Each branch begins with a blank, so it may follow any token.
    have hbranch : ∀ l ∈ piecesBranches branches, ∃ more, l = .blank :: more ∧ Legible d more := by
      rw [piecesBranches_eq_map]
      intro l hl
      obtain ⟨b, hb, rfl⟩ := List.mem_map.1 hl
      have hmem (c : Expr) (hc : c ∈ [b.1, b.2]) : c ∈ children (.caseWhen branches otherwise) :=
        List.mem_append_left _ (List.mem_flatMap.2 ⟨b, hb, hc⟩)
      have hcond := (hchild b.1 (hmem _ (by simp))).parens
      have hvalue := (hchild b.2 (hmem _ (by simp))).parens
      exact ⟨_, rfl, .token_blank rfl (hcond.append_blank (.token_blank rfl hvalue))⟩
    have hfront := (Legible.token (t := .word "CASE") rfl).branches hbranch
    have hend : Legible d [.word "END"] := .token rfl
    cases otherwise with
    | none => simpa [pieces, piecesElse, Piece.word] using hfront.append_blank hend
    | some e =>
      have he := (hchild e (by simp [children])).parens
      have helse := hfront.append_blank (.token_blank (t := .word "ELSE") rfl he)
      simpa [pieces, piecesElse, Piece.word] using helse.append_blank hend
  | cast e type =>
    have he := hchild e (by simp [children])
    exact .token_parens rfl (he.append_blank (.token_blank rfl (.token hself)))
  | window fn partition order frame =>
    have hfn := hchild fn (by simp [children])
    have hpartition := legible_piecesAll partition (fun e he ↦ hchild e (by simp [children, he]))
    have horder := legible_piecesAll order (fun e he ↦ hchild e (by simp [children, he]))
    exact hfn.append_blank (.token_blank rfl (Legible.overClause frame hpartition horder).parens)
  | withinGroup fn order =>
    have hfn := hchild fn (by simp [children])
    have horder := legible_piecesAll order (fun e he ↦ hchild e (by simp [children, he]))
    have hby := Legible.token_blank (t := .word "ORDER") rfl
      (.token_blank (t := .word "BY") rfl (.comma horder))
    exact hfn.append_blank (.token_blank rfl (.token_blank rfl hby.parens))
  | desc e => exact (hchild e (by simp [children])).append_blank (.token rfl)

/-! ## Lexemes read off the tree -/

/-- The lexemes of a tree. -/
def lexemes (e : Expr) : List Lexeme := e.pieces.flatMap Piece.lexemes

theorem scan_render {d : Dialect} (hd : LexicalTables d) {e : Expr}
    (h : ∀ s ∈ e.parts, s.isSafe d = true) : scan d (e.render d) = some e.lexemes := by
  have hscan := (legible_pieces d e h).scanFrom_spell hd [] (by simp)
  rw [List.append_nil, ← toList_render] at hscan
  rw [scan, hscan, scanFrom, finish, prepend_some, List.append_nil, lexemes]

end Expr

theorem comment_notMem_lexemes (t : Token) : Lexeme.comment ∉ t.lexemes := by
  have hsign (negative : Bool) : Lexeme.comment ∉ signLexemes negative := by
    cases negative <;> simp [signLexemes]
  cases t with
  | word text =>
    simp only [Token.lexemes, nameLexemes]
    split <;> simp
  | custom text =>
    simp only [Token.lexemes]
    split <;> simp
  | literal value =>
    simp only [Token.lexemes, literalLexemes]
    split <;> try simp [hsign]
    split <;> simp [hsign]
  | typeName type =>
    simp only [Token.lexemes, typeLexemes]
    split <;> simp
  | _ => simp [Token.lexemes]

/-- A lexeme without the content of a quoted text. -/
def Lexeme.shape : Lexeme → Lexeme
  | .quoted kind _ => .quoted kind []
  | lexeme => lexeme

/-- A token without the name of an identifier or the content of a string. -/
def Token.erased : Token → Token
  | .identifier _ => .identifier ""
  | .literal (.string (some _)) => .literal (.string (some ""))
  | t => t

def Piece.erased : Piece → Piece
  | .token t => .token t.erased
  | .blank => .blank

theorem shape_lexemes_erased (p : Piece) :
    p.erased.lexemes.map Lexeme.shape = p.lexemes.map Lexeme.shape := by
  cases p with
  | blank => rfl
  | token t =>
    cases t with
    | literal value =>
      match value with
      | .string (some text) => rfl
      | .string none | .integer _ | .double _ | .logical _ | .null => rfl
    | _ => rfl

section Erased

variable (lists : List (List Piece)) (inner : List Piece)

@[simp] theorem erased_word (text : String) : (Piece.word text).erased = .word text := rfl

@[simp] theorem erased_symbol (text : String) : (Piece.symbol text).erased = .symbol text := rfl

@[simp] theorem erased_token (t : Token) : (Piece.token t).erased = .token t.erased := rfl

@[simp] theorem erased_typeName (type : String) :
    (Token.typeName type).erased = .typeName type := rfl

@[simp] theorem erased_blank : Piece.blank.erased = .blank := rfl

@[simp] theorem erased_asToken (op : BinaryOp) : op.asToken.erased = op.asToken := by
  cases op <;> rfl

@[simp] theorem map_erased_parensPieces :
    (parensPieces inner).map Piece.erased = parensPieces (inner.map Piece.erased) := by
  simp [parensPieces]

@[simp] theorem map_erased_parensPiecesIf (needed : Bool) :
    (parensPiecesIf needed inner).map Piece.erased =
      parensPiecesIf needed (inner.map Piece.erased) := by
  cases needed <;> simp [parensPiecesIf]

theorem map_erased_intercalate {separator : List Piece}
    (h : separator.map Piece.erased = separator) :
    (separator.intercalate lists).map Piece.erased =
      separator.intercalate (lists.map (List.map Piece.erased)) := by
  induction lists with
  | nil => rfl
  | cons first rest ih =>
    cases rest with
    | nil => simp
    | cons second rest => simpa [h] using ih

@[simp] theorem map_erased_commaPieces :
    (commaPieces lists).map Piece.erased = commaPieces (lists.map (List.map Piece.erased)) :=
  map_erased_intercalate lists rfl

@[simp] theorem map_erased_frame (frame : Frame) :
    frame.pieces.map Piece.erased = frame.pieces := by
  obtain ⟨start, stop⟩ := frame
  cases stop with
  | none => cases start <;> rfl
  | some stop => cases start <;> cases stop <;> rfl

@[simp] theorem map_erased_overPieces (partition order : List (List Piece))
    (frame : Option Frame) :
    (overPieces partition order frame).map Piece.erased =
      overPieces (partition.map (List.map Piece.erased)) (order.map (List.map Piece.erased))
        frame := by
  rw [overPieces, map_erased_intercalate _ rfl]
  cases partition <;> cases order <;> cases frame <;> simp [overPieces]

end Erased

namespace Expr

/-- A leaf without the name of an identifier or the content of a string. -/
def erasedLeaf : Expr → Expr
  | .identifier qualifier _ => .identifier (qualifier.map (fun _ ↦ "")) ""
  | .literal (.string (some _)) => .literal (.string (some ""))
  | e => e

/-- The tree without the names of identifiers and the contents of strings. -/
def skeleton : Expr → Expr := rebuild erasedLeaf (fun l op _ r ↦ .binary l op r)

theorem strength_skeleton (e : Expr) : (skeleton e).strength = e.strength := by
  cases e with
  | literal value =>
    match value with
    | .string (some text) => rfl
    | .string none | .integer _ | .double _ | .logical _ | .null => rfl
  | unary op e => cases op <;> rfl
  | _ => rfl

theorem needsParens_skeleton (op : BinaryOp) (side : Side) (e : Expr) :
    needsParens op side (skeleton e) = needsParens op side e := by
  have hequal : equalNeedsParens op side (skeleton e) = equalNeedsParens op side e := by
    cases e with
    | literal value =>
      match value with
      | .string (some text) => rfl
      | .string none | .integer _ | .double _ | .logical _ | .null => rfl
    | _ => rfl
  rw [needsParens, strength_skeleton, hequal, needsParens]

theorem comparisonNeedsParens_skeleton (e : Expr) :
    comparisonNeedsParens (skeleton e) = comparisonNeedsParens e := by
  rw [comparisonNeedsParens, strength_skeleton, comparisonNeedsParens]

theorem map_erased_piecesAll {items : List Expr}
    (h : ∀ e ∈ items, (skeleton e).pieces = e.pieces.map Piece.erased) :
    piecesAll (items.map skeleton) = (piecesAll items).map (List.map Piece.erased) := by
  simp only [piecesAll_eq_map, List.map_map]
  exact List.map_congr_left h

theorem pieces_skeleton (e : Expr) : (skeleton e).pieces = e.pieces.map Piece.erased := by
  induction e using Expr.induction with
  | literal value =>
    match value with
    | .string (some text) => rfl
    | .string none | .integer _ | .double _ | .logical _ | .null => rfl
  | identifier qualifier name => cases qualifier <;> rfl
  | star => rfl
  | raw text => rfl
  | list items ih =>
    have hitems := map_erased_piecesAll ih
    simp [skeleton, rebuild, rebuildAll_eq_map, pieces, ← hitems]
  | function name args distinct ih =>
    have hargs := map_erased_piecesAll ih
    cases distinct <;> simp [skeleton, rebuild, rebuildAll_eq_map, pieces, ← hargs]
  | binary l op r ihl ihr =>
    have hnode : skeleton (.binary l op r) = .binary (skeleton l) op (skeleton r) := rfl
    simp [hnode, pieces, needsParens_skeleton, ihl, ihr]
  | unary op e ih =>
    have hnode : skeleton (.unary op e) = .unary op (skeleton e) := rfl
    cases op <;> simp [hnode, pieces, ih]
  | isNull e ih =>
    have hnode : skeleton (.isNull e) = .isNull (skeleton e) := rfl
    simp [hnode, pieces, ih]
  | between e low high ihe ihl ihh =>
    have hnode : skeleton (.between e low high) =
        .between (skeleton e) (skeleton low) (skeleton high) := rfl
    simp [hnode, pieces, comparisonNeedsParens_skeleton, ihe, ihl, ihh]
  | elemOf e items ihe ihi =>
    have hnode : skeleton (.elemOf e items) = .elemOf (skeleton e) (skeleton items) := rfl
    simp [hnode, pieces, comparisonNeedsParens_skeleton, ihe, ihi]
  | caseWhen branches otherwise ihb iho =>
    have hnode : skeleton (.caseWhen branches otherwise) =
        .caseWhen (branches.map (fun b ↦ (skeleton b.1, skeleton b.2)))
          (otherwise.map skeleton) := by
      simp [skeleton, rebuild, rebuildBranches_eq_map, rebuildOption_eq_map]
    have hbranches : (branches.map (fun b ↦ (skeleton b.1, skeleton b.2))).map branchPieces =
        (branches.map branchPieces).map (List.map Piece.erased) := by
      rw [List.map_map, List.map_map]
      refine List.map_congr_left (fun b hb ↦ ?_)
      simp [branchPieces, ihb b hb]
    have helse : piecesElse (otherwise.map skeleton) =
        (piecesElse otherwise).map Piece.erased := by
      cases otherwise with
      | none => rfl
      | some e => simp [piecesElse, iho e rfl]
    simp [hnode, pieces, piecesBranches_eq_map, hbranches, helse, List.map_flatten]
  | cast e type ih =>
    have hnode : skeleton (.cast e type) = .cast (skeleton e) type := rfl
    simp [hnode, pieces, ih]
  | window fn partition order frame ihf ihp iho =>
    have hp := map_erased_piecesAll ihp
    have ho := map_erased_piecesAll iho
    have hnode : skeleton (.window fn partition order frame) =
        .window (skeleton fn) (partition.map skeleton) (order.map skeleton) frame := by
      simp [skeleton, rebuild, rebuildAll_eq_map]
    simp [hnode, pieces, ihf, hp, ho]
  | withinGroup fn order ihf iho =>
    have ho := map_erased_piecesAll iho
    have hnode : skeleton (.withinGroup fn order) =
        .withinGroup (skeleton fn) (order.map skeleton) := by
      simp [skeleton, rebuild, rebuildAll_eq_map]
    simp [hnode, pieces, ihf, ho]
  | desc e ih =>
    have hnode : skeleton (.desc e) = .desc (skeleton e) := rfl
    simp [hnode, pieces, ih]

theorem shape_lexemes_skeleton (e : Expr) :
    (skeleton e).lexemes.map Lexeme.shape = e.lexemes.map Lexeme.shape := by
  rw [lexemes, pieces_skeleton, lexemes, List.flatMap_map, List.map_flatMap, List.map_flatMap]
  congr 1
  funext p
  exact shape_lexemes_erased p

/-- The printed text of a tree is scanned as the lexemes of the tree, with the exact names and
contents of its nodes. It opens no comment, and a tree that differs in names and contents only has
lexemes that differ in these only. -/
theorem injection_safe {d : Dialect} (hd : d ∈ Dialect.builtin) (e : Expr)
    (he : ∀ s ∈ e.parts, s.isSafe d = true) :
    scan d (e.render d) = some e.lexemes ∧ Lexeme.comment ∉ e.lexemes ∧
      ∀ e' : Expr, (∀ s ∈ e'.parts, s.isSafe d = true) → e'.skeleton = e.skeleton →
        scan d (e'.render d) = some e'.lexemes ∧
          e'.lexemes.map Lexeme.shape = e.lexemes.map Lexeme.shape := by
  have htables := lexicalTables_of_mem_builtin hd
  refine ⟨scan_render htables he, ?_, fun e' he' hskeleton ↦ ⟨scan_render htables he', ?_⟩⟩
  · simp only [lexemes, List.mem_flatMap, not_exists, not_and]
    intro p _ hcomment
    cases p with
    | blank => cases hcomment
    | token t => exact comment_notMem_lexemes t hcomment
  · rw [← shape_lexemes_skeleton e', hskeleton, shape_lexemes_skeleton e]

/-- A name that closes its quotes, compared with a string that closes its own and opens a
comment. -/
def hostileComparison : Expr :=
  .binary (.column "a\x60; DROP") .eq (.literal (.string (some "\\'; -- ")))

theorem injection_safe_hostileComparison :
    scan Dialect.mysql (hostileComparison.render Dialect.mysql) =
      some [.quoted .identifier "a\x60; DROP".toList, .symbol ['='],
        .quoted .string "\\'; -- ".toList] := by
  have hsafe : ∀ s ∈ hostileComparison.parts, s.isSafe Dialect.mysql = true := by decide
  have hd : Dialect.mysql ∈ Dialect.builtin := by simp [Dialect.builtin]
  exact (injection_safe hd hostileComparison hsafe).1

end Expr

end SqlVerbs.Sql
