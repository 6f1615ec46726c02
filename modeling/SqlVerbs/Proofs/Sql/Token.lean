import SqlVerbs.Proofs.Sql.Traversal

/-!
# The tokens of printed expressions

Printed SQL is a sequence of tokens, with a blank between some of them. The sequence is read off
the tree here, apart from the printer, and the printed text is shown to be its spelling.
-/

namespace SqlVerbs.Sql

/-- A token of an expression. -/
inductive Token where
  /-- A keyword, or the name of a function. -/
  | word (text : String)
  /-- Parentheses, commas, dots and operators. -/
  | symbol (text : String)
  /-- An operator of one backend only. -/
  | custom (text : String)
  | identifier (name : String)
  | literal (value : Literal)
  /-- Something of which only the text is known. -/
  | verbatim (text : String)
  | typeName (text : String)
  /-- A number of rows. -/
  | rows (count : UInt64)
deriving DecidableEq

/-- A token, or the blank between two tokens. -/
inductive Piece where
  | token (token : Token)
  | blank

namespace Piece

def word (text : String) : Piece := .token (.word text)

def symbol (text : String) : Piece := .token (.symbol text)

end Piece

/-- The characters of a token. -/
def Token.chars (d : Dialect) : Token → List Char
  | .word text | .symbol text | .custom text | .verbatim text | .typeName text => text.toList
  | .identifier name => (d.quoteIdentifier name).toList
  | .literal value => (d.formatLiteral value).toList
  | .rows count => (toString count.toNat).toList

def Piece.chars (d : Dialect) : Piece → List Char
  | .token t => t.chars d
  | .blank => [' ']

attribute [grind =] Token.chars

/-- The text of pieces. -/
def spell (d : Dialect) (pieces : List Piece) : List Char := pieces.flatMap (Piece.chars d)

/-- The pieces without the blanks. -/
def tokensOf (pieces : List Piece) : List Token :=
  pieces.filterMap (fun | .token t => some t | .blank => none)

/-! ## The pieces of a tree -/

def BinaryOp.asToken : BinaryOp → Token
  | .custom text => .custom text
  | .and => .word "AND"
  | .or => .word "OR"
  | .like => .word "LIKE"
  | op => .symbol op.token

def Bound.pieces : Bound → List Piece
  | .unboundedPreceding => [.word "UNBOUNDED", .blank, .word "PRECEDING"]
  | .preceding rows => [.token (.rows rows), .blank, .word "PRECEDING"]
  | .currentRow => [.word "CURRENT", .blank, .word "ROW"]
  | .following rows => [.token (.rows rows), .blank, .word "FOLLOWING"]
  | .unboundedFollowing => [.word "UNBOUNDED", .blank, .word "FOLLOWING"]

def Frame.pieces (frame : Frame) : List Piece :=
  match frame.stop with
  | some stop =>
    [.word "ROWS", .blank, .word "BETWEEN", .blank] ++ frame.start.pieces ++
      [.blank, .word "AND", .blank] ++ stop.pieces
  | none => [.word "ROWS", .blank] ++ frame.start.pieces

def parensPieces (inner : List Piece) : List Piece := .symbol "(" :: (inner ++ [.symbol ")"])

def parensPiecesIf (needed : Bool) (inner : List Piece) : List Piece :=
  if needed then parensPieces inner else inner

def commaPieces (lists : List (List Piece)) : List Piece := [.symbol ",", .blank].intercalate lists

/-- The inside of an `OVER` clause. -/
def overPieces (partition order : List (List Piece)) (frame : Option Frame) : List Piece :=
  [.blank].intercalate
    ((if partition.isEmpty then []
      else [[.word "PARTITION", .blank, .word "BY", .blank] ++ commaPieces partition]) ++
      (if order.isEmpty then []
      else [[.word "ORDER", .blank, .word "BY", .blank] ++ commaPieces order]) ++
      frame.toList.map Frame.pieces)

namespace Expr

mutual

/-- The pieces of a tree. -/
def pieces : Expr → List Piece
  | .literal value => [.token (.literal value)]
  | .identifier none name => [.token (.identifier name)]
  | .identifier (some qualifier) name =>
    [.token (.identifier qualifier), .symbol ".", .token (.identifier name)]
  | .star => [.symbol "*"]
  | .raw text => [.token (.verbatim text)]
  | .list items => parensPieces (commaPieces (piecesAll items))
  | .function name args distinct =>
    .word name :: parensPieces
      ((if distinct then [.word "DISTINCT", .blank] else []) ++ commaPieces (piecesAll args))
  | .binary l op r =>
    parensPiecesIf (needsParens op .left l) (pieces l) ++ .blank :: .token op.asToken :: .blank ::
      parensPiecesIf (needsParens op .right r) (pieces r)
  | .unary .not e => .word "NOT" :: parensPieces (pieces e)
  | .unary .neg e => .symbol "-" :: parensPieces (pieces e)
  | .isNull e =>
    parensPieces (parensPieces (pieces e) ++ [.blank, .word "IS", .blank, .word "NULL"])
  | .between e low high =>
    parensPiecesIf (comparisonNeedsParens e) (pieces e) ++ .blank :: .word "BETWEEN" :: .blank ::
      (parensPiecesIf (comparisonNeedsParens low) (pieces low) ++
        .blank :: .word "AND" :: .blank ::
          parensPiecesIf (comparisonNeedsParens high) (pieces high))
  | .elemOf e items =>
    parensPiecesIf (comparisonNeedsParens e) (pieces e) ++ .blank :: .word "IN" :: .blank ::
      pieces items
  | .caseWhen branches otherwise =>
    .word "CASE" :: ((piecesBranches branches).flatten ++ piecesElse otherwise ++
      [.blank, .word "END"])
  | .cast e type =>
    .word "CAST" :: parensPieces
      (pieces e ++ [.blank, .word "AS", .blank, .token (.typeName type)])
  | .window fn partition order frame =>
    pieces fn ++ .blank :: .word "OVER" :: .blank ::
      parensPieces (overPieces (piecesAll partition) (piecesAll order) frame)
  | .withinGroup fn order =>
    pieces fn ++ .blank :: .word "WITHIN" :: .blank :: .word "GROUP" :: .blank ::
      parensPieces (.word "ORDER" :: .blank :: .word "BY" :: .blank ::
        commaPieces (piecesAll order))
  | .desc e => pieces e ++ [.blank, .word "DESC"]

def piecesAll : List Expr → List (List Piece)
  | [] => []
  | e :: rest => pieces e :: piecesAll rest

def piecesBranches : List (Expr × Expr) → List (List Piece)
  | [] => []
  | (cond, value) :: rest =>
    (.blank :: .word "WHEN" :: .blank :: (parensPieces (pieces cond) ++
      .blank :: .word "THEN" :: .blank :: parensPieces (pieces value))) :: piecesBranches rest

def piecesElse : Option Expr → List Piece
  | none => []
  | some e => .blank :: .word "ELSE" :: .blank :: parensPieces (pieces e)

end

attribute [grind =] pieces

theorem piecesAll_eq_map (items : List Expr) : piecesAll items = items.map pieces := by
  induction items with
  | nil => rfl
  | cons e rest ih => rw [piecesAll, ih, List.map_cons]

/-- The pieces of one branch of a `CASE`. -/
def branchPieces (b : Expr × Expr) : List Piece :=
  .blank :: .word "WHEN" :: .blank :: (parensPieces (pieces b.1) ++
    .blank :: .word "THEN" :: .blank :: parensPieces (pieces b.2))

theorem piecesBranches_eq_map (branches : List (Expr × Expr)) :
    piecesBranches branches = branches.map branchPieces := by
  induction branches with
  | nil => rfl
  | cons b rest ih => rw [piecesBranches, ih, List.map_cons, branchPieces]

end Expr

/-! ## The printed text is the spelling of the pieces -/

section Spelling

variable (d : Dialect)

@[simp] theorem spell_nil : spell d [] = [] := rfl

@[simp] theorem spell_cons (piece : Piece) (rest : List Piece) :
    spell d (piece :: rest) = piece.chars d ++ spell d rest := rfl

@[simp] theorem spell_append (first second : List Piece) :
    spell d (first ++ second) = spell d first ++ spell d second := List.flatMap_append

@[simp] theorem chars_blank : Piece.blank.chars d = [' '] := rfl

@[simp] theorem chars_token (t : Token) : (Piece.token t).chars d = t.chars d := rfl

@[simp] theorem chars_word (text : String) : (Piece.word text).chars d = text.toList := rfl

@[simp] theorem chars_symbol (text : String) : (Piece.symbol text).chars d = text.toList := rfl

@[simp] theorem chars_asToken (op : BinaryOp) : op.asToken.chars d = op.token.toList := by
  cases op <;> rfl

@[simp] theorem spell_intercalate (separator : List Piece) (lists : List (List Piece)) :
    spell d (separator.intercalate lists) =
      (spell d separator).intercalate (lists.map (spell d)) := by
  induction lists with
  | nil => rfl
  | cons first rest ih =>
    cases rest with
    | nil => simp
    | cons second rest => simpa using ih

@[simp] theorem spell_parensPieces (inner : List Piece) :
    spell d (parensPieces inner) = '(' :: (spell d inner ++ [')']) := by
  simp [parensPieces]

theorem toList_parensIf (needed : Bool) {text : String} {inner : List Piece}
    (h : text.toList = spell d inner) :
    (parensIf needed text).toList = spell d (parensPiecesIf needed inner) := by
  cases needed <;> simp [parensIf, parensPiecesIf, h]

theorem toList_commaList {texts : List String} {lists : List (List Piece)}
    (h : texts.map String.toList = lists.map (spell d)) :
    (commaList texts).toList = spell d (commaPieces lists) := by
  simp [commaList, commaPieces, h]

theorem toList_render_bound (bound : Bound) : bound.render.toList = spell d bound.pieces := by
  cases bound <;> simp [Bound.render, Bound.pieces, Token.chars]

theorem toList_render_frame (frame : Frame) : frame.render.toList = spell d frame.pieces := by
  obtain ⟨start, stop⟩ := frame
  cases stop with
  | none => simp [Frame.render, Frame.pieces, toList_render_bound d]
  | some stop => simp [Frame.render, Frame.pieces, toList_render_bound d]

theorem toList_overText {partition order : List String}
    {partitionPieces orderPieces : List (List Piece)} (frame : Option Frame)
    (hp : partition.map String.toList = partitionPieces.map (spell d))
    (ho : order.map String.toList = orderPieces.map (spell d)) :
    (overText partition order frame).toList =
      spell d (overPieces partitionPieces orderPieces frame) := by
  have hpe : partition.isEmpty = partitionPieces.isEmpty := by
    simpa using congrArg List.isEmpty hp
  have hoe : order.isEmpty = orderPieces.isEmpty := by simpa using congrArg List.isEmpty ho
  unfold overText overPieces
  rw [hpe, hoe]
  cases frame <;> cases partitionPieces.isEmpty <;> cases orderPieces.isEmpty <;>
    simp [toList_commaList d hp, toList_commaList d ho, toList_render_frame d]

end Spelling

namespace Expr

theorem map_toList_renderAll (d : Dialect) {items : List Expr}
    (h : ∀ e ∈ items, (e.render d).toList = spell d e.pieces) :
    (renderAll d items).map String.toList = (piecesAll items).map (spell d) := by
  rw [renderAll_eq_map, piecesAll_eq_map, List.map_map, List.map_map]
  exact List.map_congr_left h

theorem toList_join_renderBranches (d : Dialect) {branches : List (Expr × Expr)}
    (h : ∀ b ∈ branches, (b.1.render d).toList = spell d b.1.pieces ∧
      (b.2.render d).toList = spell d b.2.pieces) :
    (String.join (renderBranches d branches)).toList =
      spell d (piecesBranches branches).flatten := by
  induction branches with
  | nil => rfl
  | cons b rest ih =>
    obtain ⟨hc, hv⟩ := h b List.mem_cons_self
    have hrest := ih (fun b hb ↦ h b (List.mem_cons_of_mem _ hb))
    simp [renderBranches, piecesBranches, hc, hv, ← hrest]

theorem toList_renderElse (d : Dialect) {otherwise : Option Expr}
    (h : ∀ e ∈ otherwise, (e.render d).toList = spell d e.pieces) :
    (renderElse d otherwise).toList = spell d (piecesElse otherwise) := by
  cases otherwise with
  | none => rfl
  | some e => simp [renderElse, piecesElse, h e rfl]

end Expr

/-- The printed text of a tree is the spelling of its pieces. -/
theorem Expr.toList_render (d : Dialect) (e : Expr) : (e.render d).toList = spell d e.pieces := by
  induction e using Expr.induction with
  | literal value => simp [render, pieces, Token.chars]
  | identifier qualifier name =>
    cases qualifier <;> simp [render, pieces, Token.chars]
  | star => simp [render, pieces]
  | list items ih =>
    have h := toList_commaList d (map_toList_renderAll d ih)
    simp [render, pieces, h]
  | function name args distinct ih =>
    have h := toList_commaList d (map_toList_renderAll d ih)
    cases distinct <;> simp [render, pieces, h]
  | binary l op r ihl ihr =>
    simp [render, pieces, toList_parensIf d _ ihl, toList_parensIf d _ ihr]
  | unary op e ih => cases op <;> simp [render, pieces, ih]
  | isNull e ih => simp [render, pieces, ih]
  | between e low high ihe ihl ihh =>
    simp [render, pieces, toList_parensIf d _ ihe, toList_parensIf d _ ihl,
      toList_parensIf d _ ihh]
  | elemOf e items ihe ihi => simp [render, pieces, toList_parensIf d _ ihe, ihi]
  | caseWhen branches otherwise ihb iho =>
    have hb := toList_join_renderBranches d ihb
    have ho := toList_renderElse d iho
    simp [render, pieces, hb, ho]
  | cast e type ih => simp [render, pieces, ih, Token.chars]
  | window fn partition order frame ihf ihp iho =>
    have h := toList_overText d frame (map_toList_renderAll d ihp) (map_toList_renderAll d iho)
    simp [render, pieces, ihf, h]
  | withinGroup fn order ihf iho =>
    have h := toList_commaList d (map_toList_renderAll d iho)
    simp [render, pieces, ihf, h]
  | desc e ih => simp [render, pieces, ih]
  | raw text => simp [render, pieces, Token.chars]

end SqlVerbs.Sql
