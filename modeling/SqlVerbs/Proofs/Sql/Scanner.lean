import Mathlib.Data.List.Chain
import SqlVerbs.Lowering.Expr

/-!
# Scanning SQL text

The lexical rules of a dialect as an automaton that takes one character after the other. Text is cut
into words, numbers, symbols, quoted identifiers and quoted strings; a comment is reported where it
is opened. The closing quote is doubled inside a quoted text. In a string a backslash may take the
next character as it is.
-/

namespace SqlVerbs.Sql

/-- What a quoted text stands for. -/
inductive Quote where
  | identifier
  | string
deriving DecidableEq

/-- What the scanner reports. A quoted text is reported by its content. -/
inductive Lexeme where
  | word (text : List Char)
  | number (text : List Char)
  | symbol (text : List Char)
  | quoted (kind : Quote) (content : List Char)
  | comment
deriving DecidableEq

/-- What the scanner is in the middle of. -/
inductive Mode where
  | blank
  | word (text : List Char)
  /-- A number, with its last character apart. -/
  | number (text : List Char) (last : Char)
  /-- An operator, with its last character apart. -/
  | symbol (text : List Char) (last : Char)
  | quoted (kind : Quote) (content : List Char)
  /-- After a closing quote, which may be the first of two. -/
  | closing (kind : Quote) (content : List Char)
  /-- After a backslash in a string. -/
  | escaped (content : List Char)
  | lineComment
  /-- A comment that ends at `*/`; was the last character the star? -/
  | blockComment (star : Bool)

namespace Scanner

def isBlank (c : Char) : Bool := c = ' ' || c = '\n' || c = '\r' || c = '\t'

def isNameChar (c : Char) : Bool := Lowering.isNameStart c || c.isDigit

def isOperator (c : Char) : Bool :=
  ['+', '-', '*', '/', '%', '|', '=', '!', '<', '>', '~', '&', '^'].contains c

/-- May a number go on with a character after another? A sign may follow the letter of an
exponent. -/
def continuesNumber (last c : Char) : Bool :=
  isNameChar c || c = '.' || ((c = '-' || c = '+') && (last = 'e' || last = 'E'))

/-- What two characters begin if they open a comment. -/
def commentMode? (last c : Char) : Option Mode :=
  if last = '-' && c = '-' then some .lineComment
  else if last = '/' && c = '*' then some (.blockComment false)
  else none

/-- The quote that ends a quoted text. -/
def closingQuote (d : Dialect) : Quote → Char
  | .identifier => d.identifierClose
  | .string => d.stringQuote

/-- Does the character take the next one as it is? -/
def isEscape (d : Dialect) (kind : Quote) (c : Char) : Bool :=
  kind = .string && d.escapesBackslash && c = '\\'

/-- The first character after something that has ended. -/
def start (d : Dialect) (c : Char) : List Lexeme × Mode :=
  if isBlank c then ([], .blank)
  else if c = d.identifierOpen then ([], .quoted .identifier [])
  else if c = d.stringQuote then ([], .quoted .string [])
  else if Lowering.isNameStart c then ([], .word [c])
  else if c.isDigit then ([], .number [] c)
  else if isOperator c then ([], .symbol [] c)
  else ([.symbol [c]], .blank)

/-- The first character after a lexeme. -/
def startAfter (d : Dialect) (lexeme : Lexeme) (c : Char) : List Lexeme × Mode :=
  (lexeme :: (start d c).1, (start d c).2)

/-- What one more character reports and leads to. -/
def step (d : Dialect) : Mode → Char → List Lexeme × Mode
  | .blank, c => start d c
  | .word text, c => if isNameChar c then ([], .word (text ++ [c])) else startAfter d (.word text) c
  | .number text last, c =>
    if continuesNumber last c then ([], .number (text ++ [last]) c)
    else startAfter d (.number (text ++ [last])) c
  | .symbol text last, c =>
    match commentMode? last c with
    | some mode => ((if text.isEmpty then [] else [.symbol text]) ++ [.comment], mode)
    | none =>
      if isOperator c then ([], .symbol (text ++ [last]) c)
      else startAfter d (.symbol (text ++ [last])) c
  | .quoted kind content, c =>
    if c = closingQuote d kind then ([], .closing kind content)
    else if isEscape d kind c then ([], .escaped content)
    else ([], .quoted kind (content ++ [c]))
  | .closing kind content, c =>
    if c = closingQuote d kind then ([], .quoted kind (content ++ [c]))
    else startAfter d (.quoted kind content) c
  | .escaped content, c => ([], .quoted .string (content ++ [c]))
  | .lineComment, c => if c = '\n' then ([], .blank) else ([], .lineComment)
  | .blockComment star, c =>
    if star && c = '/' then ([], .blank) else ([], .blockComment (c = '*'))

/-- What is reported at the end of the text, unless a quoted text or a comment is open there. -/
def finish : Mode → Option (List Lexeme)
  | .blank | .lineComment => some []
  | .word text => some [.word text]
  | .number text last => some [.number (text ++ [last])]
  | .symbol text last => some [.symbol (text ++ [last])]
  | .closing kind content => some [.quoted kind content]
  | .quoted .. | .escaped _ | .blockComment _ => none

/-- Lexemes in front of a result. -/
def prepend (lexemes : List Lexeme) (result : Option (List Lexeme)) : Option (List Lexeme) :=
  result.map (lexemes ++ ·)

/-- The lexemes of a text from a mode on. -/
def scanFrom (d : Dialect) : Mode → List Char → Option (List Lexeme)
  | mode, [] => finish mode
  | mode, c :: rest => prepend (step d mode c).1 (scanFrom d (step d mode c).2 rest)

attribute [grind =] scanFrom

end Scanner

/-- The lexemes of a text. -/
def scan (d : Dialect) (text : String) : Option (List Lexeme) :=
  Scanner.scanFrom d .blank text.toList

namespace Scanner

section Prepend

variable (first second : List Lexeme) (result : Option (List Lexeme))

@[simp] theorem prepend_nil : prepend [] result = result := by cases result <;> rfl

@[simp] theorem prepend_some (lexemes : List Lexeme) :
    prepend first (some lexemes) = some (first ++ lexemes) := rfl

@[simp] theorem prepend_none : prepend first none = none := rfl

@[simp] theorem prepend_prepend :
    prepend first (prepend second result) = prepend (first ++ second) result := by
  cases result <;> simp

end Prepend

/-! ## Where lexemes end -/

variable {d : Dialect}

attribute [local simp] step

theorem scanFrom_startAfter {mode : Mode} {lexeme : Lexeme} {rest : List Char}
    (hend : finish mode = some [lexeme])
    (hstep : ∀ c ∈ rest.head?, step d mode c = startAfter d lexeme c) :
    scanFrom d mode rest = prepend [lexeme] (scanFrom d .blank rest) := by
  cases rest with
  | nil => rw [scanFrom, hend, scanFrom, finish, prepend_some, List.append_nil]
  | cons c rest => rw [scanFrom, hstep c rfl, scanFrom, startAfter, step, prepend_prepend,
      List.singleton_append]

theorem scanFrom_word {text rest : List Char} (h : ∀ c ∈ rest.head?, isNameChar c = false) :
    scanFrom d (.word text) rest = prepend [.word text] (scanFrom d .blank rest) :=
  scanFrom_startAfter rfl (fun c hc ↦ by simp [h c hc])

theorem scanFrom_number {text rest : List Char} {last : Char}
    (h : ∀ c ∈ rest.head?, continuesNumber last c = false) :
    scanFrom d (.number text last) rest =
      prepend [.number (text ++ [last])] (scanFrom d .blank rest) :=
  scanFrom_startAfter rfl (fun c hc ↦ by simp [h c hc])

theorem scanFrom_symbol {text rest : List Char} {last : Char}
    (h : ∀ c ∈ rest.head?, isOperator c = false) :
    scanFrom d (.symbol text last) rest =
      prepend [.symbol (text ++ [last])] (scanFrom d .blank rest) := by
  refine scanFrom_startAfter rfl (fun c hc ↦ ?_)
  have hop := h c hc
  have hcomment : commentMode? last c = none := by
    have hminus : c ≠ '-' := by rintro rfl; cases hop
    have hstar : c ≠ '*' := by rintro rfl; cases hop
    simp [commentMode?, hminus, hstar]
  simp [hcomment, hop]

theorem scanFrom_closing {kind : Quote} {content rest : List Char}
    (h : ∀ c ∈ rest.head?, c ≠ closingQuote d kind) :
    scanFrom d (.closing kind content) rest =
      prepend [.quoted kind content] (scanFrom d .blank rest) :=
  scanFrom_startAfter rfl (fun c hc ↦ by simp [h c hc])

/-! ## Inside of lexemes -/

theorem scanFrom_word_append {text cs : List Char} (hcs : cs.all isNameChar = true)
    (rest : List Char) :
    scanFrom d (.word text) (cs ++ rest) = scanFrom d (.word (text ++ cs)) rest := by
  induction cs generalizing text with
  | nil => simp
  | cons c cs ih =>
    simp only [List.all_cons, Bool.and_eq_true] at hcs
    simp [scanFrom, hcs.1, ih hcs.2]

theorem scanFrom_number_append (text : List Char) {cs : List Char} {last : Char}
    (hcs : (last :: cs).IsChain (fun a b ↦ continuesNumber a b = true)) (rest : List Char) :
    ∃ text' last', text ++ last :: cs = text' ++ [last'] ∧
      (last :: cs).getLast? = some last' ∧
      scanFrom d (.number text last) (cs ++ rest) = scanFrom d (.number text' last') rest := by
  induction cs generalizing text last with
  | nil => exact ⟨text, last, rfl, rfl, rfl⟩
  | cons c cs ih =>
    rw [List.isChain_cons_cons] at hcs
    obtain ⟨text', last', htext, hlast, hscan⟩ := ih (text ++ [last]) hcs.2
    refine ⟨text', last', by simpa using htext, by simpa using hlast, ?_⟩
    simpa [scanFrom, hcs.1] using hscan

/-- The characters that are doubled inside a quoted text. -/
def isDoubled (d : Dialect) (kind : Quote) (c : Char) : Bool :=
  c = closingQuote d kind || isEscape d kind c

theorem scanFrom_doubling (kind : Quote) (content text rest : List Char) :
    scanFrom d (.quoted kind content)
        (Dialect.doubling (isDoubled d kind) text ++ closingQuote d kind :: rest) =
      scanFrom d (.closing kind (content ++ text)) rest := by
  induction text generalizing content with
  | nil => simp [Dialect.doubling, scanFrom]
  | cons c text ih =>
    have happend : content ++ c :: text = content ++ [c] ++ text := by simp
    rw [happend, ← ih]
    by_cases hclose : c = closingQuote d kind
    · simp [Dialect.doubling, isDoubled, hclose, scanFrom]
    · cases hescape : isEscape d kind c with
      | true =>
        have hkind : kind = .string := by
          simp only [isEscape, Bool.and_eq_true, decide_eq_true_eq] at hescape
          exact hescape.1.1
        subst hkind
        simp [Dialect.doubling, isDoubled, hescape, hclose, scanFrom]
      | false => simp [Dialect.doubling, isDoubled, hescape, hclose, scanFrom]

/-! ## Whole lexemes -/

def isPunctuation (c : Char) : Bool := ['(', ')', ',', '.'].contains c

/-- The characters of which no quote is made. -/
def isPlain (c : Char) : Bool := isBlank c || isNameChar c || isOperator c || isPunctuation c

/-- The characters that end any lexeme. -/
def isSeparator (c : Char) : Bool := isBlank c || ['(', ')', ','].contains c

theorem isSeparator_cases {c : Char} (h : isSeparator c = true) :
    c = ' ' ∨ c = '\n' ∨ c = '\r' ∨ c = '\t' ∨ c = '(' ∨ c = ')' ∨ c = ',' := by
  simp [isSeparator, isBlank] at h
  tauto

theorem isNameChar_of_isSeparator {c : Char} (h : isSeparator c = true) : isNameChar c = false := by
  rcases isSeparator_cases h with rfl | rfl | rfl | rfl | rfl | rfl | rfl <;> decide

theorem isOperator_of_isSeparator {c : Char} (h : isSeparator c = true) : isOperator c = false := by
  rcases isSeparator_cases h with rfl | rfl | rfl | rfl | rfl | rfl | rfl <;> decide

theorem isPlain_of_isSeparator {c : Char} (h : isSeparator c = true) : isPlain c = true := by
  rcases isSeparator_cases h with rfl | rfl | rfl | rfl | rfl | rfl | rfl <;> decide

theorem continuesNumber_of_isSeparator {c : Char} (h : isSeparator c = true) (last : Char) :
    continuesNumber last c = false := by
  rcases isSeparator_cases h with rfl | rfl | rfl | rfl | rfl | rfl | rfl <;>
    simp [continuesNumber] <;> decide

theorem isBlank_of_isNameChar {c : Char} (h : isNameChar c = true) : isBlank c = false := by
  refine Bool.eq_false_iff.2 (fun hblank ↦ ?_)
  rw [isNameChar_of_isSeparator (by simp [isSeparator, hblank])] at h
  cases h

theorem isNameStart_of_isDigit {c : Char} (h : c.isDigit = true) :
    Lowering.isNameStart c = false := by
  have hne : c ≠ '_' := by rintro rfl; cases h
  simp only [Char.isDigit, Bool.and_eq_true, decide_eq_true_eq] at h
  unfold Lowering.isNameStart Char.isAlpha Char.isUpper Char.isLower
  simp only [hne]
  grind

/-- The text of a number: a digit, and characters with which it goes on. -/
def IsNumber (text : List Char) : Prop :=
  (∃ c ∈ text.head?, c.isDigit = true) ∧ text.IsChain (fun a b ↦ continuesNumber a b = true)

/-- No quote of the dialect is a character that other lexemes are made of. -/
structure PlainQuotes (d : Dialect) : Prop where
  opening : isPlain d.identifierOpen = false
  closing : isPlain d.identifierClose = false
  string : isPlain d.stringQuote = false
  distinct : d.identifierOpen ≠ d.stringQuote

theorem scanFrom_blank {c : Char} (hc : isBlank c = true) (rest : List Char) :
    scanFrom d .blank (c :: rest) = scanFrom d .blank rest := by
  simp [scanFrom, start, hc]

namespace PlainQuotes

variable (hd : PlainQuotes d)

include hd

theorem start_plain {c : Char} (hc : isPlain c = true) :
    start d c =
      if isBlank c then ([], .blank)
      else if Lowering.isNameStart c then ([], .word [c])
      else if c.isDigit then ([], .number [] c)
      else if isOperator c then ([], .symbol [] c)
      else ([.symbol [c]], .blank) := by
  have hopen : c ≠ d.identifierOpen := by
    rintro rfl
    rw [hd.opening] at hc
    cases hc
  have hstring : c ≠ d.stringQuote := by
    rintro rfl
    rw [hd.string] at hc
    cases hc
  simp [start, hopen, hstring]

theorem scanFrom_name {name rest : List Char} (hname : Lowering.isName name = true)
    (hrest : ∀ c ∈ rest.head?, isNameChar c = false) :
    scanFrom d .blank (name ++ rest) = prepend [.word name] (scanFrom d .blank rest) := by
  cases name with
  | nil => cases hname
  | cons c cs =>
    simp only [Lowering.isName, Bool.and_eq_true] at hname
    have hchar : isNameChar c = true := by simp [isNameChar, hname.1]
    have hplain : isPlain c = true := by simp [isPlain, hchar]
    have hstart : start d c = ([], .word [c]) := by
      simp [hd.start_plain hplain, isBlank_of_isNameChar hchar, hname.1]
    rw [List.cons_append, scanFrom, step, hstart, prepend_nil, scanFrom_word_append hname.2,
      scanFrom_word hrest, List.singleton_append]

theorem scanFrom_number {text rest : List Char} (htext : IsNumber text)
    (hrest : ∀ c ∈ rest.head?, isSeparator c = true) :
    scanFrom d .blank (text ++ rest) = prepend [.number text] (scanFrom d .blank rest) := by
  obtain ⟨⟨c, hc, hdigit⟩, hchain⟩ := htext
  cases text with
  | nil => cases hc
  | cons c' cs =>
    obtain rfl : c' = c := by simpa using hc
    have hchar : isNameChar c' = true := by simp [isNameChar, hdigit]
    have hstart : start d c' = ([], .number [] c') := by
      simp [hd.start_plain (by simp [isPlain, hchar] : isPlain c' = true),
        isBlank_of_isNameChar hchar, isNameStart_of_isDigit hdigit, hdigit]
    obtain ⟨text', last', htext, -, hscan⟩ := scanFrom_number_append (d := d) [] hchain rest
    rw [List.cons_append, scanFrom, step, hstart, prepend_nil, hscan,
      Scanner.scanFrom_number (fun c hc ↦ continuesNumber_of_isSeparator (hrest c hc) _), ← htext,
      List.nil_append]

theorem scanFrom_punctuation {c : Char} (hc : isPunctuation c = true) (rest : List Char) :
    scanFrom d .blank (c :: rest) = prepend [.symbol [c]] (scanFrom d .blank rest) := by
  have hstart : start d c = ([.symbol [c]], .blank) := by
    rw [hd.start_plain (by simp [isPlain, hc])]
    simp only [isPunctuation, List.contains_eq_mem, List.mem_cons, List.not_mem_nil, or_false,
      decide_eq_true_eq] at hc
    rcases hc with rfl | rfl | rfl | rfl <;> rfl
  rw [scanFrom, step, hstart]

theorem start_operator {c : Char} (hc : isOperator c = true) : start d c = ([], .symbol [] c) := by
  rw [hd.start_plain (by simp [isPlain, hc])]
  simp only [isOperator, List.contains_eq_mem, List.mem_cons, List.not_mem_nil, or_false,
    decide_eq_true_eq] at hc
  rcases hc with rfl | rfl | rfl | rfl | rfl | rfl | rfl | rfl | rfl | rfl | rfl | rfl | rfl <;>
    rfl

theorem scanFrom_operator {c : Char} {rest : List Char} (hc : isOperator c = true)
    (hrest : ∀ c ∈ rest.head?, isOperator c = false) :
    scanFrom d .blank (c :: rest) = prepend [.symbol [c]] (scanFrom d .blank rest) := by
  rw [scanFrom, step, hd.start_operator hc, prepend_nil,
    scanFrom_symbol hrest, List.nil_append]

theorem scanFrom_operators {a b : Char} {rest : List Char} (ha : isOperator a = true)
    (hb : isOperator b = true) (hcomment : commentMode? a b = none)
    (hrest : ∀ c ∈ rest.head?, isOperator c = false) :
    scanFrom d .blank (a :: b :: rest) = prepend [.symbol [a, b]] (scanFrom d .blank rest) := by
  have hstep : step d (.symbol [] a) b = ([], .symbol [a] b) := by simp [hcomment, hb]
  rw [scanFrom, step, hd.start_operator ha, prepend_nil, scanFrom, hstep, prepend_nil,
    scanFrom_symbol hrest, List.singleton_append]

theorem scanFrom_identifier (name : List Char) {rest : List Char}
    (hrest : ∀ c ∈ rest.head?, isPlain c = true) :
    scanFrom d .blank (d.identifierChars name ++ rest) =
      prepend [.quoted .identifier name] (scanFrom d .blank rest) := by
  have hblank : isBlank d.identifierOpen = false := by
    have h := hd.opening
    simp only [isPlain, Bool.or_eq_false_iff] at h
    exact h.1.1.1
  have hstart : start d d.identifierOpen = ([], .quoted .identifier []) := by
    simp [start, hblank]
  have htest : (fun c ↦ decide (c = d.identifierClose)) = isDoubled d .identifier := by
    funext c
    simp only [isDoubled, isEscape, reduceCtorEq, decide_false, Bool.false_and, Bool.or_false]
    rfl
  have hclose : ∀ c ∈ rest.head?, c ≠ closingQuote d .identifier := by
    rintro c hc rfl
    have h := hrest _ hc
    rw [closingQuote, hd.closing] at h
    cases h
  have hscan := scanFrom_doubling (d := d) .identifier [] name rest
  rw [closingQuote, ← htest] at hscan
  rw [Dialect.identifierChars, List.cons_append, scanFrom, step, hstart, prepend_nil,
    List.append_assoc, List.singleton_append, hscan, scanFrom_closing hclose, List.nil_append]

theorem scanFrom_string (text : List Char) {rest : List Char}
    (hrest : ∀ c ∈ rest.head?, isPlain c = true) :
    scanFrom d .blank (d.stringChars text ++ rest) =
      prepend [.quoted .string text] (scanFrom d .blank rest) := by
  have hblank : isBlank d.stringQuote = false := by
    have h := hd.string
    simp only [isPlain, Bool.or_eq_false_iff] at h
    exact h.1.1.1
  have hstart : start d d.stringQuote = ([], .quoted .string []) := by
    simp [start, hblank, hd.distinct.symm]
  have htest : d.doublesInString = isDoubled d .string := by
    funext c
    simp only [isDoubled, isEscape, decide_true, Bool.true_and]
    rfl
  have hclose : ∀ c ∈ rest.head?, c ≠ closingQuote d .string := by
    rintro c hc rfl
    have h := hrest _ hc
    rw [closingQuote, hd.string] at h
    cases h
  have hscan := scanFrom_doubling (d := d) .string [] text rest
  rw [closingQuote, ← htest] at hscan
  rw [Dialect.stringChars, List.cons_append, scanFrom, step, hstart, prepend_nil,
    List.append_assoc, List.singleton_append, hscan, scanFrom_closing hclose, List.nil_append]

end PlainQuotes

end Scanner

end SqlVerbs.Sql
