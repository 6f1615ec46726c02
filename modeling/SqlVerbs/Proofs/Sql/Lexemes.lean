import SqlVerbs.Dialect.Registry
import SqlVerbs.Proofs.Sql.Scanner
import SqlVerbs.Proofs.Sql.Token

/-!
# The lexemes of tokens

What a scanner should report for a token is read off the token. This module says so for every kind
of token, and shows that the scanner reports it when the token is followed by something that cannot
belong to it.
-/

namespace SqlVerbs.Sql.Scanner

/-! ## Numbers -/

/-- Characters with which a number goes on wherever they stand. -/
def goesOn (c : Char) : Bool := isNameChar c || c = '.'

theorem goesOn_of_isDigit {c : Char} (h : c.isDigit = true) : goesOn c = true := by
  simp [goesOn, isNameChar, h]

theorem continuesNumber_of_goesOn {c : Char} (h : goesOn c = true) (last : Char) :
    continuesNumber last c = true := by
  simp only [goesOn, Bool.or_eq_true, decide_eq_true_eq] at h
  rcases h with hname | rfl
  · simp [continuesNumber, hname]
  · simp [continuesNumber]

theorem isChain_cons_of_goesOn (first : Char) {text : List Char}
    (h : ∀ c ∈ text, goesOn c = true) :
    (first :: text).IsChain (fun a b ↦ continuesNumber a b = true) := by
  induction text generalizing first with
  | nil => exact .singleton first
  | cons c text ih =>
    exact .cons_cons (continuesNumber_of_goesOn (h c List.mem_cons_self) first)
      (ih c (fun b hb ↦ h b (List.mem_cons_of_mem c hb)))

theorem isNumber_glue {text more : List Char} (h : IsNumber text)
    (hmore : more.IsChain (fun a b ↦ continuesNumber a b = true))
    (hglue : ∀ a ∈ text.getLast?, ∀ b ∈ more.head?, continuesNumber a b = true) :
    IsNumber (text ++ more) := by
  obtain ⟨⟨c, hc, hdigit⟩, hchain⟩ := h
  exact ⟨⟨c, by simp [Option.mem_def.1 hc], hdigit⟩, List.isChain_append.2 ⟨hchain, hmore, hglue⟩⟩

theorem isNumber_append {text : List Char} (h : IsNumber text) (more : List Char)
    (hmore : ∀ c ∈ more, goesOn c = true) : IsNumber (text ++ more) := by
  refine isNumber_glue h ?_ (fun a _ b hb ↦ ?_)
  · cases more with
    | nil => exact .nil
    | cons c more => exact isChain_cons_of_goesOn c (fun b hb ↦ hmore b (List.mem_cons_of_mem c hb))
  · exact continuesNumber_of_goesOn (hmore b (List.mem_of_mem_head? hb)) a

theorem isNumber_of_digits {text : List Char} (hne : text ≠ [])
    (h : ∀ c ∈ text, c.isDigit = true) : IsNumber text := by
  obtain ⟨c, rest, rfl⟩ := List.exists_cons_of_ne_nil hne
  refine ⟨⟨c, rfl, h c List.mem_cons_self⟩, isChain_cons_of_goesOn c (fun b hb ↦ ?_)⟩
  exact goesOn_of_isDigit (h b (List.mem_cons_of_mem c hb))

theorem isDigit_toDigits {n : Nat} {c : Char} (hc : c ∈ Nat.toDigits 10 n) : c.isDigit = true :=
  Nat.isDigit_of_mem_toDigits (by decide) (by decide) hc

theorem isNumber_toDigits (n : Nat) : IsNumber (Nat.toDigits 10 n) :=
  isNumber_of_digits Nat.toDigits_ne_nil (fun _ hc ↦ isDigit_toDigits hc)

theorem isNumber_toString (n : Nat) : IsNumber (toString n).toList := by
  simpa using isNumber_toDigits n

/-- An exponent with or without a sign. -/
theorem isNumber_exponent {text : List Char} (h : IsNumber text) (i : Int) :
    IsNumber (text ++ 'e' :: (toString i).toList) := by
  have he : goesOn 'e' = true := by decide
  have hdigits (n : Nat) (c : Char) (hc : c ∈ n.repr.toList) : goesOn c = true :=
    goesOn_of_isDigit (isDigit_toDigits (by simpa using hc))
  rw [Int.toString_eq_repr, Int.repr_eq_if]
  split
  · refine isNumber_append h _ ?_
    simpa only [List.mem_cons, forall_eq_or_imp] using ⟨he, hdigits _⟩
  · have hmantissa := isNumber_append h ['e'] (by simpa using he)
    have hall := isNumber_glue hmantissa (isChain_cons_of_goesOn '-' (hdigits (-i).toNat)) (by
      simp [continuesNumber])
    simpa using hall

theorem isNumber_positional (decimal : Double.Decimal) : IsNumber decimal.positional.toList := by
  have hzeros (n : Nat) (c : Char) (hc : c ∈ List.replicate n '0') : goesOn c = true := by
    obtain rfl := (List.mem_replicate.1 hc).2
    decide
  have hdigits (c : Char) (hc : c ∈ Nat.toDigits 10 decimal.digits) : goesOn c = true :=
    goesOn_of_isDigit (isDigit_toDigits hc)
  unfold Double.Decimal.positional
  dsimp only
  split
  · simpa [Double.digitsText, Double.zeros] using
      isNumber_append (isNumber_toDigits decimal.digits) _ (hzeros _)
  split
  · rename_i hplaces
    have hwhole : IsNumber ((Nat.toDigits 10 decimal.digits).take
        ((Nat.toDigits 10 decimal.digits).length - (-decimal.power).toNat)) := by
      refine isNumber_of_digits ?_ (fun c hc ↦ isDigit_toDigits (List.mem_of_mem_take hc))
      simp only [ne_eq, List.take_eq_nil_iff, Nat.toDigits_ne_nil, or_false]
      omega
    have hall := isNumber_append hwhole ('.' :: (Nat.toDigits 10 decimal.digits).drop
        ((Nat.toDigits 10 decimal.digits).length - (-decimal.power).toNat)) (by
      simp only [List.mem_cons, forall_eq_or_imp]
      exact ⟨by decide, fun c hc ↦ hdigits c (List.mem_of_mem_drop hc)⟩)
    simpa using hall
  · have hzero : IsNumber ['0'] := isNumber_of_digits (by simp) (by simp)
    have hall := isNumber_append hzero ('.' :: (List.replicate
        ((-decimal.power).toNat - (Nat.toDigits 10 decimal.digits).length) '0' ++
          Nat.toDigits 10 decimal.digits)) (by
      simp only [List.mem_cons, forall_eq_or_imp, List.mem_append]
      exact ⟨by decide, fun c hc ↦ hc.elim (hzeros _ c) (hdigits c)⟩)
    simpa [Double.digitsText, Double.zeros] using hall

theorem isNumber_mantissaText (decimal : Double.Decimal) :
    IsNumber decimal.mantissaText.toList := by
  have hdigits (c : Char) (hc : c ∈ Nat.toDigits 10 decimal.digits) : c.isDigit = true :=
    isDigit_toDigits hc
  unfold Double.Decimal.mantissaText
  split
  · exact isNumber_of_digits (by simp) (by simp)
  · rename_i only heq
    rw [heq] at hdigits
    exact isNumber_of_digits (by simp) (by simpa using hdigits)
  · rename_i first rest _ heq
    rw [heq] at hdigits
    have hfirst : IsNumber [first] := isNumber_of_digits (by simp) (by
      simpa using hdigits first List.mem_cons_self)
    have hall := isNumber_append hfirst ('.' :: rest) (by
      simp only [List.mem_cons, forall_eq_or_imp]
      exact ⟨by decide, fun c hc ↦ goesOn_of_isDigit (hdigits c (List.mem_cons_of_mem first hc))⟩)
    simpa using hall

/-- The SQL text of the absolute value of a finite double is a number. -/
theorem isNumber_sqlText {parts : Double.Parts} (h : parts.negative = false) :
    IsNumber parts.sqlText.toList := by
  unfold Double.Parts.sqlText
  dsimp only
  rw [h]
  split
  · have hall := isNumber_append (isNumber_toDigits (parts.numerator / parts.denominator))
      ['.', '0'] (by simp; decide)
    simpa [Double.signText, Double.digitsText] using hall
  split
  · have hall := isNumber_exponent (isNumber_mantissaText (parts.shortest .greater))
      (parts.shortest .greater).scale
    simpa [Double.signText, Double.Decimal.scientific] using hall
  · simpa [Double.signText] using isNumber_positional (parts.shortest .greater)

end SqlVerbs.Sql.Scanner

namespace SqlVerbs

/-- The operators that the rules of a dialect bring in. -/
def Dialect.customOperators (d : Dialect) : List String :=
  d.rules.flatMap (fun entry ↦ entry.2.filterMap (fun rule ↦
    match rule.kind with
    | .regex token => some token
    | _ => none))

def CastTypes.all (types : CastTypes) : List String :=
  [types.integer, types.double, types.character, types.logical, types.date]

end SqlVerbs

namespace SqlVerbs.Sql

open Scanner

/-! ## What tokens stand for -/

/-- A name, or two with a dot between them. -/
def nameLexemes (name : List Char) : List Lexeme :=
  match name.dropWhile (· ≠ '.') with
  | [] => [.word name]
  | _ :: second => [.word (name.takeWhile (· ≠ '.')), .symbol ['.'], .word second]

theorem nameLexemes_plain {name : List Char} (h : name.dropWhile (· ≠ '.') = []) :
    nameLexemes name = [.word name] := by
  unfold nameLexemes
  rw [h]

theorem nameLexemes_dotted {name second : List Char} {dot : Char}
    (h : name.dropWhile (· ≠ '.') = dot :: second) :
    nameLexemes name = [.word (name.takeWhile (· ≠ '.')), .symbol ['.'], .word second] := by
  unfold nameLexemes
  rw [h]

def signLexemes (negative : Bool) : List Lexeme := if negative then [.symbol ['-']] else []

/-- A number and its sign are two lexemes. -/
def literalLexemes : Literal → List Lexeme
  | .integer (some i) =>
    signLexemes (i.toInt < 0) ++ [.number (toString i.toInt.natAbs).toList]
  | .double (some value) =>
    match Double.shape value with
    | .nan => [.word "NULL".toList]
    | .infinite negative =>
      [.quoted .string (if negative then "-Infinity" else "Infinity").toList]
    | .finite parts =>
      signLexemes parts.negative ++ [.number ({ parts with negative := false }).sqlText.toList]
  | .logical (some true) => [.number ['1']]
  | .logical (some false) => [.number ['0']]
  | .string (some text) => [.quoted .string text.toList]
  | .integer none | .double none | .logical none | .string none | .null => [.word "NULL".toList]

def typeLexemes : String → List Lexeme
  | "DOUBLE PRECISION" => [.word "DOUBLE".toList, .word "PRECISION".toList]
  | "SIGNED INTEGER" => [.word "SIGNED".toList, .word "INTEGER".toList]
  | "VARCHAR(MAX)" =>
    [.word "VARCHAR".toList, .symbol ['('], .word "MAX".toList, .symbol [')']]
  | type => [.word type.toList]

/-- The lexemes of a token. -/
def Token.lexemes : Token → List Lexeme
  | .word text => nameLexemes text.toList
  | .symbol text => [.symbol text.toList]
  | .custom text =>
    if Lowering.isName text.toList then [.word text.toList] else [.symbol text.toList]
  | .identifier name => [.quoted .identifier name.toList]
  | .literal value => literalLexemes value
  | .verbatim _ => []
  | .typeName type => typeLexemes type
  | .rows count => [.number (toString count.toNat).toList]

def Piece.lexemes : Piece → List Lexeme
  | .token t => t.lexemes
  | .blank => []

def operatorSymbols : List String :=
  ["+", "-", "*", "/", "%", "||", "=", "!=", "<", "<=", ">", ">="]

def punctuationSymbols : List String := ["(", ")", ",", "."]

/-- Is the token one that the tables of the dialect and the form of names allow? -/
def Token.isSafe (d : Dialect) : Token → Bool
  | .word text => Lowering.isFunctionName text
  | .symbol text => operatorSymbols.contains text || punctuationSymbols.contains text
  | .custom text => d.customOperators.contains text
  | .identifier _ | .literal _ | .rows _ => true
  | .verbatim _ => false
  | .typeName type => d.castTypes.all.contains type

def Piece.isSafe (d : Dialect) : Piece → Bool
  | .token t => t.isSafe d
  | .blank => true

/-- The lexical properties of a dialect on which its scanner relies. -/
structure LexicalTables (d : Dialect) : Prop extends PlainQuotes d where
  operators : ∀ text ∈ d.customOperators, text = "~" ∨ Lowering.isName text.toList = true
  types : ∀ type ∈ d.castTypes.all, type = "DOUBLE PRECISION" ∨ type = "SIGNED INTEGER" ∨
    type = "VARCHAR(MAX)" ∨ Lowering.isName type.toList = true

theorem lexicalTables_of_mem_builtin {d : Dialect} (hd : d ∈ Dialect.builtin) :
    LexicalTables d := by
  simp only [Dialect.builtin, List.mem_cons, List.not_mem_nil, or_false] at hd
  rcases hd with rfl | rfl | rfl | rfl | rfl | rfl <;>
    exact ⟨⟨by decide, by decide, by decide, by decide⟩, by decide +kernel, by decide +kernel⟩

/-- May a character follow a token at once? -/
def Token.endsBefore : Token → Char → Bool
  | .symbol "(", _ | .symbol ".", _ => true
  | .identifier _, '.' => true
  | _, c => isSeparator c

theorem Token.endsBefore_of_isSeparator (t : Token) {c : Char} (h : isSeparator c = true) :
    t.endsBefore c = true := by
  unfold Token.endsBefore
  split <;> first | rfl | exact h

/-! ## The scanner reports them -/

section ScanToken

variable {d : Dialect} {rest : List Char}

theorem scanFrom_functionName (hd : PlainQuotes d) {name : String}
    (hname : Lowering.isFunctionName name = true)
    (hrest : ∀ c ∈ rest.head?, isSeparator c = true) :
    scanFrom d .blank (name.toList ++ rest) =
      prepend (nameLexemes name.toList) (scanFrom d .blank rest) := by
  have hnames : ∀ c ∈ rest.head?, isNameChar c = false :=
    fun c hc ↦ isNameChar_of_isSeparator (hrest c hc)
  have hsplit := List.takeWhile_append_dropWhile (p := (· ≠ '.')) (l := name.toList)
  unfold Lowering.isFunctionName at hname
  dsimp only at hname
  split at hname
  · rename_i hdrop
    rw [hdrop, List.append_nil] at hsplit
    rw [hsplit] at hname
    rw [nameLexemes_plain hdrop]
    exact hd.scanFrom_name hname hnames
  · rename_i dot second hdrop
    obtain rfl : dot = '.' := by
      have hhead := List.head?_dropWhile_not (fun c ↦ decide (c ≠ '.')) name.toList
      rw [hdrop] at hhead
      simpa using hhead
    simp only [Bool.and_eq_true] at hname
    rw [hdrop] at hsplit
    have htext : name.toList ++ rest =
        name.toList.takeWhile (· ≠ '.') ++ '.' :: (second ++ rest) := by
      conv_lhs => rw [← hsplit]
      simp
    rw [htext, nameLexemes_dotted hdrop, hd.scanFrom_name hname.1 (by simp; decide),
      hd.scanFrom_punctuation (by decide), hd.scanFrom_name hname.2 hnames]
    simp

theorem head_append_of_number {text : List Char} (htext : IsNumber text) :
    ∀ c ∈ (text ++ rest).head?, isOperator c = false := by
  obtain ⟨⟨c, hc, hdigit⟩, -⟩ := htext
  intro c' hc'
  have heq : c' = c := by
    cases text with
    | nil => cases hc
    | cons x xs => simp_all
  subst heq
  refine Bool.eq_false_iff.2 (fun hop ↦ ?_)
  simp only [isOperator, List.contains_eq_mem, List.mem_cons, List.not_mem_nil, or_false,
    decide_eq_true_eq] at hop
  rcases hop with rfl | rfl | rfl | rfl | rfl | rfl | rfl | rfl | rfl | rfl | rfl | rfl | rfl <;>
    cases hdigit

theorem scanFrom_signed (hd : PlainQuotes d) (negative : Bool) {text : List Char}
    (htext : IsNumber text) (hrest : ∀ c ∈ rest.head?, isSeparator c = true) :
    scanFrom d .blank ((if negative then ['-'] else []) ++ text ++ rest) =
      prepend (signLexemes negative ++ [.number text]) (scanFrom d .blank rest) := by
  cases negative with
  | false => simpa [signLexemes] using hd.scanFrom_number htext hrest
  | true =>
    simp only [if_true, List.cons_append, List.nil_append]
    rw [hd.scanFrom_operator (by decide) (head_append_of_number htext),
      hd.scanFrom_number htext hrest, prepend_prepend]
    rfl

theorem toList_toString_int (i : Int) :
    (toString i).toList = (if i < 0 then ['-'] else []) ++ (toString i.natAbs).toList := by
  rw [Int.toString_eq_repr, Int.repr_eq_if]
  by_cases h : i < 0
  · have hne : ¬ 0 ≤ i := by omega
    have hnat : (-i).toNat = i.natAbs := by omega
    simp [h, hne, hnat]
  · have hle : 0 ≤ i := by omega
    have hnat : i.toNat = i.natAbs := by omega
    simp [h, hle, hnat]

theorem toList_sqlText (parts : Double.Parts) :
    parts.sqlText.toList =
      (if parts.negative then ['-'] else []) ++
        ({ parts with negative := false }).sqlText.toList := by
  have hsign : (Double.signText parts.negative).toList =
      if parts.negative then ['-'] else [] := by
    cases parts.negative <;> rfl
  obtain ⟨negative, mantissa, exponent⟩ := parts
  unfold Double.Parts.sqlText
  dsimp only at hsign ⊢
  rw [String.toList_append, hsign]
  rfl

theorem scanFrom_literal (hd : PlainQuotes d) (value : Literal)
    (hrest : ∀ c ∈ rest.head?, isSeparator c = true) :
    scanFrom d .blank ((d.formatLiteral value).toList ++ rest) =
      prepend (literalLexemes value) (scanFrom d .blank rest) := by
  have hplain : ∀ c ∈ rest.head?, isPlain c = true :=
    fun c hc ↦ isPlain_of_isSeparator (hrest c hc)
  have hnull : scanFrom d .blank ("NULL".toList ++ rest) =
      prepend [.word "NULL".toList] (scanFrom d .blank rest) :=
    hd.scanFrom_name (by decide) (fun c hc ↦ isNameChar_of_isSeparator (hrest c hc))
  have hstring (text : String) : scanFrom d .blank ((d.quoteString text).toList ++ rest) =
      prepend [.quoted .string text.toList] (scanFrom d .blank rest) := by
    simpa [Dialect.quoteString] using hd.scanFrom_string text.toList hplain
  have hdigit (c : Char) (hc : c.isDigit = true) :
      scanFrom d .blank (c :: rest) = prepend [.number [c]] (scanFrom d .blank rest) :=
    hd.scanFrom_number (isNumber_of_digits (List.cons_ne_nil c []) (by simpa using hc)) hrest
  match value with
  | .integer (some i) =>
    rw [Dialect.formatLiteral, toList_toString_int, literalLexemes]
    simpa using scanFrom_signed hd (decide (i.toInt < 0)) (isNumber_toString i.toInt.natAbs) hrest
  | .double (some value) =>
    rw [Dialect.formatLiteral, Dialect.formatDouble, literalLexemes]
    cases Double.shape value with
    | nan => exact hnull
    | infinite negative => exact hstring _
    | finite parts =>
      simp only [toList_sqlText parts]
      exact scanFrom_signed hd parts.negative (isNumber_sqlText rfl) hrest
  | .logical (some true) => simpa [Dialect.formatLiteral, literalLexemes] using hdigit '1' rfl
  | .logical (some false) => simpa [Dialect.formatLiteral, literalLexemes] using hdigit '0' rfl
  | .string (some text) => exact hstring text
  | .integer none => exact hnull
  | .double none => exact hnull
  | .logical none => exact hnull
  | .string none => exact hnull
  | .null => exact hnull

theorem scanFrom_typeName (hd : LexicalTables d) {type : String} (htype : type ∈ d.castTypes.all)
    (hrest : ∀ c ∈ rest.head?, isSeparator c = true) :
    scanFrom d .blank (type.toList ++ rest) =
      prepend (typeLexemes type) (scanFrom d .blank rest) := by
  have hnames : ∀ c ∈ rest.head?, isNameChar c = false :=
    fun c hc ↦ isNameChar_of_isSeparator (hrest c hc)
  have hwords (first second : String) (hfirst : Lowering.isName first.toList = true)
      (hsecond : Lowering.isName second.toList = true) :
      scanFrom d .blank (first.toList ++ ' ' :: (second.toList ++ rest)) =
        prepend [.word first.toList, .word second.toList] (scanFrom d .blank rest) := by
    rw [hd.scanFrom_name hfirst (by simp; decide), scanFrom_blank rfl,
      hd.scanFrom_name hsecond hnames, prepend_prepend, List.singleton_append]
  rcases hd.types type htype with rfl | rfl | rfl | hname
  · exact hwords "DOUBLE" "PRECISION" (by decide) (by decide)
  · exact hwords "SIGNED" "INTEGER" (by decide) (by decide)
  · have hsplit : "VARCHAR(MAX)".toList ++ rest =
        "VARCHAR".toList ++ '(' :: ("MAX".toList ++ ')' :: rest) := rfl
    rw [hsplit, hd.scanFrom_name (by decide) (by simp; decide), hd.scanFrom_punctuation (by decide),
      hd.scanFrom_name (by decide) (by simp; decide), hd.scanFrom_punctuation (by decide)]
    simp [typeLexemes]
  · have htext : typeLexemes type = [.word type.toList] := by
      unfold typeLexemes
      split
      · cases hname
      · cases hname
      · cases hname
      · rfl
    rw [htext]
    exact hd.scanFrom_name hname hnames

theorem scanFrom_customOperator (hd : LexicalTables d) {text : String}
    (htext : text ∈ d.customOperators) (hrest : ∀ c ∈ rest.head?, isSeparator c = true) :
    scanFrom d .blank (text.toList ++ rest) =
      prepend (Token.custom text).lexemes (scanFrom d .blank rest) := by
  rcases hd.operators text htext with rfl | hname
  · exact hd.scanFrom_operator (by decide) (fun c hc ↦ isOperator_of_isSeparator (hrest c hc))
  · simp only [Token.lexemes, hname, if_true]
    exact hd.scanFrom_name hname (fun c hc ↦ isNameChar_of_isSeparator (hrest c hc))

theorem scanFrom_operatorSymbol (hd : PlainQuotes d) {text : String}
    (htext : text ∈ operatorSymbols) (hrest : ∀ c ∈ rest.head?, isSeparator c = true) :
    scanFrom d .blank (text.toList ++ rest) =
      prepend [.symbol text.toList] (scanFrom d .blank rest) := by
  have hops : ∀ c ∈ rest.head?, isOperator c = false :=
    fun c hc ↦ isOperator_of_isSeparator (hrest c hc)
  simp only [operatorSymbols, List.mem_cons, List.not_mem_nil, or_false] at htext
  rcases htext with rfl | rfl | rfl | rfl | rfl | rfl | rfl | rfl | rfl | rfl | rfl | rfl
  all_goals first
    | exact hd.scanFrom_operator (by decide) hops
    | exact hd.scanFrom_operators (by decide) (by decide) rfl hops

/-- The scanner reports the lexemes of a token, and goes on with what follows. -/
theorem scanFrom_token (hd : LexicalTables d) {t : Token} (ht : t.isSafe d = true)
    (hrest : ∀ c ∈ rest.head?, t.endsBefore c = true) :
    scanFrom d .blank (t.chars d ++ rest) = prepend t.lexemes (scanFrom d .blank rest) := by
  cases t with
  | word text => exact scanFrom_functionName hd.toPlainQuotes ht hrest
  | symbol text =>
    simp only [Token.isSafe, Bool.or_eq_true, List.contains_eq_mem, decide_eq_true_eq] at ht
    rcases ht with hop | hpunctuation
    · refine scanFrom_operatorSymbol hd.toPlainQuotes hop (fun c hc ↦ ?_)
      have hends := hrest c hc
      unfold Token.endsBefore at hends
      split at hends <;> simp_all [operatorSymbols]
    · simp only [punctuationSymbols, List.mem_cons, List.not_mem_nil, or_false] at hpunctuation
      rcases hpunctuation with rfl | rfl | rfl | rfl <;>
        exact hd.scanFrom_punctuation (by decide) rest
  | custom text =>
    exact scanFrom_customOperator hd (by simpa [Token.isSafe] using ht) hrest
  | identifier name =>
    have hplain : ∀ c ∈ rest.head?, isPlain c = true := by
      intro c hc
      by_cases hdot : c = '.'
      · subst hdot
        decide
      · have hends : isSeparator c = true := by simpa [Token.endsBefore, hdot] using hrest c hc
        exact isPlain_of_isSeparator hends
    simpa [Token.chars, Token.lexemes, Dialect.quoteIdentifier] using
      hd.scanFrom_identifier name.toList hplain
  | literal value => exact scanFrom_literal hd.toPlainQuotes value hrest
  | verbatim text => cases ht
  | typeName type => exact scanFrom_typeName hd (by simpa [Token.isSafe] using ht) hrest
  | rows count => exact hd.scanFrom_number (isNumber_toString count.toNat) hrest

end ScanToken

end SqlVerbs.Sql
