import Mathlib.Data.List.Forall2
import Mathlib.Tactic.Ring
import SqlVerbs.Proofs.Sql.Scanner

/-!
# Quoted text in nested statements

A nested statement is indented line by line, whether a line break stands between lexemes or inside
of quotes. Between lexemes that changes nothing. Inside of quotes every line break is followed by
two more blanks for each level of nesting, and a carriage return before it is lost. So a text keeps
its lexemes if and only if no line break stands inside of quotes.
-/

namespace SqlVerbs.Text

/-! ## Indentation one character after the other -/

/-- A line break with the blanks of the next line, unless the text ends there. -/
def breakLine (rest indented : List Char) : List Char :=
  if rest.isEmpty then [] else '\n' :: ' ' :: ' ' :: indented

/-- What indentation makes of a text behind the first two blanks. -/
def indentFrom : List Char → List Char
  | [] => []
  | '\r' :: '\n' :: rest => breakLine rest (indentFrom rest)
  | '\n' :: rest => breakLine rest (indentFrom rest)
  | c :: rest => c :: indentFrom rest

/-- A line without the carriage return at its end. -/
def stripReturn (line : List Char) : List Char :=
  if line.getLast? = some '\r' then line.dropLast else line

theorem indentFrom_cons {c : Char} {rest : List Char} (hc : c ≠ '\n')
    (hreturn : c = '\r' → rest.head? ≠ some '\n') :
    indentFrom (c :: rest) = c :: indentFrom rest := by
  rw [indentFrom]
  · rintro rest' rfl rfl
    exact hreturn rfl rfl
  · exact hc

theorem indentFrom_of_notMem {line : List Char} (h : '\n' ∉ line) : indentFrom line = line := by
  induction line with
  | nil => rfl
  | cons c line ih =>
    simp only [List.mem_cons, not_or] at h
    rw [indentFrom_cons (Ne.symm h.1) (fun _ hhead ↦ h.2 (List.mem_of_mem_head? hhead)), ih h.2]

theorem stripReturn_cons_cons (c c' : Char) (line : List Char) :
    stripReturn (c :: c' :: line) = c :: stripReturn (c' :: line) := by
  simp only [stripReturn, List.getLast?_cons_cons, List.dropLast_cons_cons]
  split <;> rfl

theorem indentFrom_append {line : List Char} (h : '\n' ∉ line) (rest : List Char) :
    indentFrom (line ++ '\n' :: rest) = stripReturn line ++ breakLine rest (indentFrom rest) := by
  induction line with
  | nil => simp [indentFrom, stripReturn]
  | cons c line ih =>
    simp only [List.mem_cons, not_or] at h
    have hrest := ih h.2
    cases line with
    | nil =>
      by_cases hc : c = '\r'
      · subst hc
        simp [indentFrom, stripReturn]
      · rw [List.cons_append, indentFrom_cons (Ne.symm h.1) (fun h ↦ absurd h hc), hrest]
        simp [stripReturn, hc]
    | cons c' line =>
      have hc' : c' ≠ '\n' := by
        rintro rfl
        simp at h
      rw [List.cons_append, indentFrom_cons (Ne.symm h.1) (by simpa using fun _ ↦ hc'), hrest,
        stripReturn_cons_cons, List.cons_append]

/-- The lines with two blanks before each of them and line breaks between. -/
def joinLines (lines : List (List Char)) : List Char :=
  ['\n'].intercalate (lines.map (fun line ↦ ' ' :: ' ' :: line))

theorem stripReturn_reverse (current : List Char) :
    stripReturn current.reverse =
      match current with
      | '\r' :: before => before.reverse
      | _ => current.reverse := by
  cases current with
  | nil => rfl
  | cons c before =>
    by_cases hc : c = '\r'
    · subst hc
      simp [stripReturn]
    · simp [stripReturn, hc]

theorem splitLines_ne_nil {cs current : List Char} (h : cs ≠ [] ∨ current ≠ []) :
    splitLines cs current ≠ [] := by
  fun_induction splitLines cs current <;> simp_all

theorem joinLines_cons (line : List Char) {lines : List (List Char)} (h : lines ≠ []) :
    joinLines (line :: lines) = ' ' :: ' ' :: (line ++ '\n' :: joinLines lines) := by
  rw [joinLines, List.map_cons, List.intercalate_cons_of_ne_nil (by simpa using h)]
  simp [joinLines]

theorem joinLines_splitLines {cs current : List Char} (hcurrent : '\n' ∉ current)
    (hne : current.reverse ++ cs ≠ []) :
    joinLines (splitLines cs current) = ' ' :: ' ' :: indentFrom (current.reverse ++ cs) := by
  fun_induction splitLines cs current with
  | case1 current hempty => simp_all
  | case2 current hempty =>
    rw [List.append_nil, indentFrom_of_notMem (by simpa using hcurrent)]
    simp [joinLines]
  | case3 rest current line ih =>
    have hline : line = stripReturn current.reverse := (stripReturn_reverse current).symm
    rw [indentFrom_append (by simpa using hcurrent), hline]
    cases rest with
    | nil => simp [splitLines, joinLines, breakLine]
    | cons c rest =>
      rw [joinLines_cons _ (splitLines_ne_nil (.inl (by simp))), ih (by simp) (by simp)]
      simp [breakLine]
  | case4 c rest current hc ih =>
    have hjoin := ih (by simp [hcurrent, Ne.symm hc]) (by simp)
    simpa using hjoin

theorem toList_indent {text : String} (h : text ≠ "") :
    (indent text).toList = ' ' :: ' ' :: indentFrom text.toList := by
  have hjoin : joinLines (splitLines text.toList []) = _ :=
    joinLines_splitLines (by simp) (by simpa using h)
  rw [List.reverse_nil, List.nil_append] at hjoin
  rw [← hjoin, indent, lines, joinLines, String.toList_intercalate, List.map_map, List.map_map]
  congr 1
  exact List.map_congr_left (fun line _ ↦ by simp)

end SqlVerbs.Text

namespace SqlVerbs.Sql

/-! ## Texts before and after -/

/-- What some levels of nesting make of a quoted text: every line feed is followed by two more
blanks a level, and without a line feed or without a level nothing changes. -/
structure Nested (levels : Nat) (before after : List Char) : Prop where
  lineFeeds : after.count '\n' = before.count '\n'
  blanks : after.count ' ' = before.count ' ' + 2 * levels * before.count '\n'
  kept : levels = 0 ∨ '\n' ∉ before → after = before

namespace Nested

variable {levels more : Nat} {before after last : List Char}

theorem refl (text : List Char) (h : levels = 0 ∨ '\n' ∉ text) : Nested levels text text where
  lineFeeds := rfl
  blanks := by
    rcases h with rfl | h
    · simp
    · simp [List.count_eq_zero_of_not_mem h]
  kept _ := rfl

theorem eq_iff (h : Nested levels before after) :
    after = before ↔ levels = 0 ∨ '\n' ∉ before := by
  refine ⟨fun heq ↦ ?_, h.kept⟩
  have hblanks := h.blanks
  rw [heq] at hblanks
  have hzero : 2 * levels * before.count '\n' = 0 := by omega
  rcases Nat.mul_eq_zero.1 hzero with hlevels | hfeeds
  · exact .inl (by omega)
  · exact .inr (List.count_eq_zero.1 hfeeds)

theorem trans (h : Nested levels before after) (h' : Nested more after last) :
    Nested (levels + more) before last where
  lineFeeds := h'.lineFeeds.trans h.lineFeeds
  blanks := by
    rw [h'.blanks, h.blanks, h.lineFeeds]
    ring
  kept hkept := by
    have hfirst : after = before := h.kept (hkept.imp_left (by omega))
    rw [h'.kept (by rw [hfirst]; exact hkept.imp_left (by omega)), hfirst]

theorem append {before' after' : List Char} (h : Nested levels before after)
    (h' : Nested levels before' after') : Nested levels (before ++ before') (after ++ after') where
  lineFeeds := by simp [h.lineFeeds, h'.lineFeeds]
  blanks := by
    simp only [List.count_append, h.blanks, h'.blanks]
    ring
  kept hkept := by
    simp only [List.mem_append, not_or] at hkept
    rw [h.kept (hkept.imp_right And.left), h'.kept (hkept.imp_right And.right)]

theorem append_char (h : Nested levels before after) {c : Char} (hc : c ≠ '\n') :
    Nested levels (before ++ [c]) (after ++ [c]) :=
  h.append (refl [c] (.inr (by simpa using Ne.symm hc)))

theorem append_lineBreak (h : Nested 1 before after) {cs : List Char}
    (hcs : cs = ['\n'] ∨ cs = ['\r', '\n']) :
    Nested 1 (before ++ cs) (after ++ ['\n', ' ', ' ']) := by
  refine h.append ?_
  rcases hcs with rfl | rfl <;> exact ⟨by decide, by decide, by decide⟩

end Nested

/-- Does a line break stand inside of quotes? -/
def Lexeme.breaksLine : Lexeme → Bool
  | .quoted _ content => content.contains '\n'
  | _ => false

/-- What some levels of nesting make of a lexeme. -/
inductive Lexeme.Nests (levels : Nat) : Lexeme → Lexeme → Prop where
  | word (text : List Char) : Nests levels (.word text) (.word text)
  | number (text : List Char) : Nests levels (.number text) (.number text)
  | symbol (text : List Char) : Nests levels (.symbol text) (.symbol text)
  | comment : Nests levels .comment .comment
  | quoted (kind : Quote) {before after : List Char} (h : Nested levels before after) :
    Nests levels (.quoted kind before) (.quoted kind after)

namespace Lexeme.Nests

variable {levels more : Nat} {l l' l'' : Lexeme}

theorem refl (l : Lexeme) (h : levels = 0 ∨ l.breaksLine = false) : l.Nests levels l := by
  cases l with
  | quoted kind content => exact .quoted kind (.refl content (by simpa [breaksLine] using h))
  | _ => constructor

/-- A lexeme is kept if and only if it is not nested or has no line break inside of quotes. -/
theorem eq_iff (h : l.Nests levels l') : l' = l ↔ levels = 0 ∨ l.breaksLine = false := by
  cases h with
  | quoted kind h => simpa [breaksLine] using h.eq_iff
  | _ => simp [breaksLine]

theorem trans (h : l.Nests levels l') (h' : l'.Nests more l'') : l.Nests (levels + more) l'' := by
  cases h with
  | quoted kind h =>
    cases h' with
    | quoted _ h' => exact .quoted kind (h.trans h')
  | _ => cases h'; constructor

theorem trans_forall {ls ls' ls'' : List Lexeme} (h : List.Forall₂ (Nests levels) ls ls')
    (h' : List.Forall₂ (Nests more) ls' ls'') : List.Forall₂ (Nests (levels + more)) ls ls'' := by
  induction h generalizing ls'' with
  | nil =>
    cases h'
    exact .nil
  | cons hl hls ih =>
    cases h' with
    | cons hl' hls' => exact .cons (hl.trans hl') (ih hls')

theorem eq_iff_forall {ls ls' : List Lexeme} (h : List.Forall₂ (Nests levels) ls ls') :
    ls' = ls ↔ levels = 0 ∨ ∀ l ∈ ls, l.breaksLine = false := by
  induction h with
  | nil => simp
  | cons hl hls ih =>
    rw [List.cons_eq_cons, hl.eq_iff, ih, List.forall_mem_cons]
    tauto

end Lexeme.Nests

/-- What some levels of nesting make of the lexemes of a text. -/
abbrev Alike (levels : Nat) : Option (List Lexeme) → Option (List Lexeme) → Prop :=
  Option.Rel (List.Forall₂ (Lexeme.Nests levels))

namespace Alike

variable {levels more : Nat} {result result' result'' : Option (List Lexeme)}

theorem refl (result : Option (List Lexeme)) : Alike 0 result result := by
  cases result with
  | none => exact .none
  | some lexemes => exact .some (List.forall₂_same.2 (fun l _ ↦ Lexeme.Nests.refl l (.inl rfl)))

theorem trans (h : Alike levels result result') (h' : Alike more result' result'') :
    Alike (levels + more) result result'' := by
  cases h with
  | none =>
    cases h'
    exact .none
  | some h =>
    cases h' with
    | some h' => exact .some (Lexeme.Nests.trans_forall h h')

theorem prepend {first second : List Lexeme}
    (hfirst : List.Forall₂ (Lexeme.Nests levels) first second) (h : Alike levels result result') :
    Alike levels (Scanner.prepend first result) (Scanner.prepend second result') := by
  cases h with
  | some h => exact .some (List.rel_append hfirst h)
  | none => exact .none

theorem eq_iff (h : Alike levels result result') :
    result' = result ↔
      levels = 0 ∨ ∀ lexemes ∈ result, ∀ l ∈ lexemes, l.breaksLine = false := by
  cases h with
  | none => simp
  | some h => simpa using Lexeme.Nests.eq_iff_forall h

end Alike

/-! ## Two scanners side by side -/

namespace Scanner

/-- The modes of two scanners, of which the second reads the indented text. -/
inductive Aligned : Mode → Mode → Prop where
  | blank : Aligned .blank .blank
  | word (text : List Char) : Aligned (.word text) (.word text)
  | number (text : List Char) (last : Char) : Aligned (.number text last) (.number text last)
  | symbol (text : List Char) (last : Char) : Aligned (.symbol text last) (.symbol text last)
  | lineComment : Aligned .lineComment .lineComment
  | blockComment (star : Bool) : Aligned (.blockComment star) (.blockComment star)
  | quoted (kind : Quote) {content content' : List Char} (h : Nested 1 content content') :
    Aligned (.quoted kind content) (.quoted kind content')
  | closing (kind : Quote) {content content' : List Char} (h : Nested 1 content content') :
    Aligned (.closing kind content) (.closing kind content')
  | escaped {content content' : List Char} (h : Nested 1 content content') :
    Aligned (.escaped content) (.escaped content')

/-- The reports of two scanners so far and their modes. -/
structure Parallel (first second : List Lexeme × Mode) : Prop where
  lexemes : List.Forall₂ (Lexeme.Nests 1) first.1 second.1
  mode : Aligned first.2 second.2

/-- What some characters report and lead to. -/
def run (d : Dialect) : Mode → List Char → List Lexeme × Mode
  | mode, [] => ([], mode)
  | mode, c :: cs =>
    let next := run d (step d mode c).2 cs
    ((step d mode c).1 ++ next.1, next.2)

variable {d : Dialect}

theorem scanFrom_append (mode : Mode) (cs rest : List Char) :
    scanFrom d mode (cs ++ rest) =
      prepend (run d mode cs).1 (scanFrom d (run d mode cs).2 rest) := by
  induction cs generalizing mode with
  | nil => simp [run]
  | cons c cs ih => rw [List.cons_append, scanFrom, ih, prepend_prepend, run]

theorem start_blank {c : Char} (hc : isBlank c = true) : start d c = ([], .blank) := by
  simp [start, hc]

theorem Parallel.start (c : Char) : Parallel (Scanner.start d c) (Scanner.start d c) := by
  have hnil : Nested 1 [] [] := .refl [] (.inr (by simp))
  unfold Scanner.start
  split_ifs
  · exact ⟨.nil, .blank⟩
  · exact ⟨.nil, .quoted _ hnil⟩
  · exact ⟨.nil, .quoted _ hnil⟩
  · exact ⟨.nil, .word _⟩
  · exact ⟨.nil, .number _ _⟩
  · exact ⟨.nil, .symbol _ _⟩
  · exact ⟨.cons (.symbol _) .nil, .blank⟩

theorem Parallel.startAfter {l l' : Lexeme} (h : l.Nests 1 l') (c : Char) :
    Parallel (Scanner.startAfter d l c) (Scanner.startAfter d l' c) :=
  ⟨.cons h (Parallel.start c).lexemes, (Parallel.start c).mode⟩

/-- The quotes of a dialect are no blanks. -/
theorem PlainQuotes.closingQuote_ne (hd : PlainQuotes d) (kind : Quote) {c : Char}
    (hc : isBlank c = true) : c ≠ closingQuote d kind := by
  have hplain : isPlain c = true := by simp [isPlain, hc]
  rintro rfl
  cases kind with
  | identifier => simp [closingQuote, hd.closing] at hplain
  | string => simp [closingQuote, hd.string] at hplain

theorem isEscape_blank (d : Dialect) (kind : Quote) {c : Char} (hc : isBlank c = true) :
    isEscape d kind c = false := by
  have hne : c ≠ '\\' := by rintro rfl; cases hc
  simp [isEscape, hne]

theorem PlainQuotes.step_quoted_blank (hd : PlainQuotes d) (kind : Quote) (content : List Char)
    {c : Char} (hc : isBlank c = true) :
    step d (.quoted kind content) c = ([], .quoted kind (content ++ [c])) := by
  simp [step, hd.closingQuote_ne kind hc, isEscape_blank d kind hc]

/-- A blank ends what is no quoted text and no comment. -/
theorem PlainQuotes.step_ending (hd : PlainQuotes d) {mode : Mode} {lexeme : Lexeme}
    (h : finish mode = some [lexeme]) {c : Char} (hc : isBlank c = true) :
    step d mode c = ([lexeme], .blank) := by
  have hsep : isSeparator c = true := by simp [isSeparator, hc]
  cases mode with
  | word text =>
    cases h
    simp [step, isNameChar_of_isSeparator hsep, startAfter, start_blank hc]
  | number text last =>
    cases h
    simp [step, continuesNumber_of_isSeparator hsep, startAfter, start_blank hc]
  | symbol text last =>
    cases h
    have hop := isOperator_of_isSeparator hsep
    have hminus : c ≠ '-' := by rintro rfl; cases hop
    have hstar : c ≠ '*' := by rintro rfl; cases hop
    simp [step, commentMode?, hminus, hstar, hop, startAfter, start_blank hc]
  | closing kind content =>
    cases h
    simp [step, hd.closingQuote_ne kind hc, startAfter, start_blank hc]
  | _ => cases h

theorem run_blank {cs : List Char} (hcs : cs.all isBlank = true) :
    run d .blank cs = ([], .blank) := by
  induction cs with
  | nil => rfl
  | cons c cs ih =>
    rw [List.all_cons, Bool.and_eq_true] at hcs
    simp [run, step, start_blank hcs.1, ih hcs.2]

theorem PlainQuotes.run_ending (hd : PlainQuotes d) {mode : Mode} {lexeme : Lexeme}
    (h : finish mode = some [lexeme]) {cs : List Char} (hne : cs ≠ [])
    (hcs : cs.all isBlank = true) : run d mode cs = ([lexeme], .blank) := by
  obtain ⟨c, cs, rfl⟩ := List.exists_cons_of_ne_nil hne
  rw [List.all_cons, Bool.and_eq_true] at hcs
  simp [run, hd.step_ending h hcs.1, run_blank hcs.2]

theorem PlainQuotes.run_quoted (hd : PlainQuotes d) (kind : Quote) (content : List Char)
    {cs : List Char} (hcs : cs.all isBlank = true) :
    run d (.quoted kind content) cs = ([], .quoted kind (content ++ cs)) := by
  induction cs generalizing content with
  | nil => simp [run]
  | cons c cs ih =>
    rw [List.all_cons, Bool.and_eq_true] at hcs
    simp [run, hd.step_quoted_blank kind content hcs.1, ih _ hcs.2]

theorem PlainQuotes.run_escaped (hd : PlainQuotes d) {content cs : List Char} (hne : cs ≠ [])
    (hcs : cs.all isBlank = true) :
    run d (.escaped content) cs = ([], .quoted .string (content ++ cs)) := by
  obtain ⟨c, cs, rfl⟩ := List.exists_cons_of_ne_nil hne
  rw [List.all_cons, Bool.and_eq_true] at hcs
  simp [run, step, hd.run_quoted .string _ hcs.2]

section Steps

variable {m m' : Mode}

theorem Aligned.of_commentMode? {last c : Char} (h : commentMode? last c = some m) :
    Aligned m m := by
  unfold commentMode? at h
  split_ifs at h
  · cases h
    exact .lineComment
  · cases h
    exact .blockComment false

theorem Aligned.step (h : Aligned m m') {c : Char} (hc : c ≠ '\n') :
    Parallel (Scanner.step d m c) (Scanner.step d m' c) := by
  -- The two scanners differ in the quoted text that they hold, and in nothing that decides the
  -- step.
  cases h with
  | blank => exact .start c
  | word text =>
    simp only [Scanner.step]
    split_ifs
    · exact ⟨.nil, .word _⟩
    · exact .startAfter (.word _) c
  | number text last =>
    simp only [Scanner.step]
    split_ifs
    · exact ⟨.nil, .number _ _⟩
    · exact .startAfter (.number _) c
  | symbol text last =>
    have hreported : List.Forall₂ (Lexeme.Nests 1)
        ((if text.isEmpty then [] else [.symbol text]) ++ [.comment])
        ((if text.isEmpty then [] else [.symbol text]) ++ [.comment]) := by
      split_ifs
      · exact .cons .comment .nil
      · exact .cons (.symbol _) (.cons .comment .nil)
    simp only [Scanner.step]
    cases hcomment : commentMode? last c with
    | some mode => exact ⟨hreported, .of_commentMode? hcomment⟩
    | none =>
      dsimp only
      split_ifs
      · exact ⟨.nil, .symbol _ _⟩
      · exact .startAfter (.symbol _) c
  | lineComment =>
    simp only [Scanner.step, hc, if_false]
    exact ⟨.nil, .lineComment⟩
  | blockComment star =>
    simp only [Scanner.step]
    split_ifs
    · exact ⟨.nil, .blank⟩
    · exact ⟨.nil, .blockComment _⟩
  | quoted kind h =>
    simp only [Scanner.step]
    split_ifs
    · exact ⟨.nil, .closing _ h⟩
    · exact ⟨.nil, .escaped h⟩
    · exact ⟨.nil, .quoted _ (h.append_char hc)⟩
  | closing kind h =>
    simp only [Scanner.step]
    split_ifs
    · exact ⟨.nil, .quoted _ (h.append_char hc)⟩
    · exact .startAfter (.quoted _ h) c
  | escaped h => exact ⟨.nil, .quoted _ (h.append_char hc)⟩

/-- A blank after a lexeme that ends, and the blanks after it. -/
theorem Parallel.ending (hd : PlainQuotes d) {l l' : Lexeme} (hm : finish m = some [l])
    (hm' : finish m' = some [l']) (h : l.Nests 1 l') {cs cs' : List Char} (hcs : cs ≠ [])
    (hcs' : cs' ≠ []) (hblank : cs.all isBlank = true)
    (hblank' : cs'.all isBlank = true) : Parallel (run d m cs) (run d m' cs') := by
  rw [hd.run_ending hm hcs hblank, hd.run_ending hm' hcs' hblank']
  exact ⟨.cons h .nil, .blank⟩

/-- A line break, and the line break with the blanks of the next line. -/
theorem Aligned.lineBreak (hd : PlainQuotes d) (h : Aligned m m') {cs : List Char}
    (hcs : cs = ['\n'] ∨ cs = ['\r', '\n']) :
    Parallel (run d m cs) (run d m' ['\n', ' ', ' ']) := by
  have hne : cs ≠ [] := by rcases hcs with rfl | rfl <;> simp
  have hblank : cs.all isBlank = true := by rcases hcs with rfl | rfl <;> rfl
  cases h with
  | blank => rw [run_blank hblank, run_blank rfl]; exact ⟨.nil, .blank⟩
  | word text => exact .ending hd rfl rfl (.word text) hne (by simp) hblank rfl
  | number text last => exact .ending hd rfl rfl (.number _) hne (by simp) hblank rfl
  | symbol text last => exact .ending hd rfl rfl (.symbol _) hne (by simp) hblank rfl
  | closing kind h => exact .ending hd rfl rfl (.quoted kind h) hne (by simp) hblank rfl
  | lineComment =>
    rcases hcs with rfl | rfl <;> exact ⟨.nil, .blank⟩
  | blockComment star =>
    rcases hcs with rfl | rfl <;> cases star <;> exact ⟨.nil, .blockComment false⟩
  | quoted kind h =>
    rw [hd.run_quoted kind _ hblank, hd.run_quoted kind _ rfl]
    exact ⟨.nil, .quoted kind (h.append_lineBreak hcs)⟩
  | escaped h =>
    rw [hd.run_escaped hne hblank, hd.run_escaped (by simp) rfl]
    exact ⟨.nil, .quoted _ (h.append_lineBreak hcs)⟩

/-- A line break at the end, which indentation leaves out. -/
theorem Aligned.lastBreak (hd : PlainQuotes d) (h : Aligned m m') {cs : List Char}
    (hcs : cs = ['\n'] ∨ cs = ['\r', '\n']) :
    Alike 1 (scanFrom d m cs) (finish m') := by
  have hne : cs ≠ [] := by rcases hcs with rfl | rfl <;> simp
  have hblank : cs.all isBlank = true := by rcases hcs with rfl | rfl <;> rfl
  have hscan : scanFrom d m cs = prepend (run d m cs).1 (finish (run d m cs).2) := by
    simpa [scanFrom] using scanFrom_append (d := d) m cs []
  rw [hscan]
  cases h with
  | blank => rw [run_blank hblank]; exact .some .nil
  | word text => rw [hd.run_ending rfl hne hblank]; exact .some (.cons (.word _) .nil)
  | number text last => rw [hd.run_ending rfl hne hblank]; exact .some (.cons (.number _) .nil)
  | symbol text last => rw [hd.run_ending rfl hne hblank]; exact .some (.cons (.symbol _) .nil)
  | closing kind h => rw [hd.run_ending rfl hne hblank]; exact .some (.cons (.quoted _ h) .nil)
  | lineComment => rcases hcs with rfl | rfl <;> exact .some .nil
  | blockComment star => rcases hcs with rfl | rfl <;> cases star <;> exact .none
  | quoted kind h => rw [hd.run_quoted kind _ hblank]; exact .none
  | escaped h => rw [hd.run_escaped hne hblank]; exact .none

theorem Aligned.finish (h : Aligned m m') :
    Alike 1 (Scanner.finish m) (Scanner.finish m') := by
  cases h with
  | blank | lineComment => exact .some .nil
  | word text => exact .some (.cons (.word _) .nil)
  | number text last => exact .some (.cons (.number _) .nil)
  | symbol text last => exact .some (.cons (.symbol _) .nil)
  | closing kind h => exact .some (.cons (.quoted kind h) .nil)
  | quoted | escaped | blockComment => exact .none

theorem Parallel.scanFrom {cs cs' rest rest' : List Char}
    (h : Parallel (run d m cs) (run d m' cs'))
    (hrest : Alike 1 (Scanner.scanFrom d (run d m cs).2 rest)
      (Scanner.scanFrom d (run d m' cs').2 rest')) :
    Alike 1 (Scanner.scanFrom d m (cs ++ rest)) (Scanner.scanFrom d m' (cs' ++ rest')) := by
  rw [scanFrom_append, scanFrom_append]
  exact hrest.prepend h.lexemes

theorem Aligned.scanFrom (hd : PlainQuotes d) (h : Aligned m m') (cs : List Char) :
    Alike 1 (Scanner.scanFrom d m cs) (Scanner.scanFrom d m' (Text.indentFrom cs)) := by
  fun_induction Text.indentFrom cs generalizing m m' with
  | case1 => exact h.finish
  | case2 rest ih =>
    cases rest with
    | nil => exact h.lastBreak hd (.inr rfl)
    | cons c rest =>
      have hparallel := h.lineBreak hd (.inr rfl)
      exact hparallel.scanFrom (ih hparallel.mode)
  | case3 rest ih =>
    cases rest with
    | nil => exact h.lastBreak hd (.inl rfl)
    | cons c rest =>
      have hparallel := h.lineBreak hd (.inl rfl)
      exact hparallel.scanFrom (ih hparallel.mode)
  | case4 c rest hreturn hc ih =>
    have hstep : Parallel (run d m [c]) (run d m' [c]) := by
      simpa [run] using h.step hc
    exact hstep.scanFrom (ih hstep.mode)

end Steps

end Scanner

/-! ## Indented texts -/

variable {d : Dialect}

theorem scan_indent (hd : Scanner.PlainQuotes d) (text : String) :
    Alike 1 (scan d text) (scan d (Text.indent text)) := by
  by_cases htext : text = ""
  · subst htext
    exact .some .nil
  · rw [scan, scan, Text.toList_indent htext, Scanner.scanFrom_blank rfl,
      Scanner.scanFrom_blank rfl]
    exact Scanner.Aligned.blank.scanFrom hd text.toList

theorem scan_indent_iterate (hd : Scanner.PlainQuotes d) (levels : Nat) (text : String) :
    Alike levels (scan d text) (scan d (Text.indent^[levels] text)) := by
  induction levels with
  | zero => exact .refl _
  | succ levels ih =>
    rw [Function.iterate_succ_apply']
    exact ih.trans (scan_indent hd _)

/-- A text has the same lexemes after some levels of nesting if and only if no line break stands
inside of quotes. -/
theorem scan_indent_iterate_eq_iff (hd : Scanner.PlainQuotes d) (levels : Nat) (text : String) :
    scan d (Text.indent^[levels] text) = scan d text ↔
      levels = 0 ∨ ∀ lexemes ∈ scan d text, ∀ l ∈ lexemes, l.breaksLine = false :=
  (scan_indent_iterate hd levels text).eq_iff

end SqlVerbs.Sql
