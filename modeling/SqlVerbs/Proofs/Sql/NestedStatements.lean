import SqlVerbs.Proofs.Sql.InjectionSafety
import SqlVerbs.Proofs.Sql.Nesting
import SqlVerbs.Query.Join

/-!
# Quoted text of printed statements

The lexemes of a statement are those of its expressions, names and keywords, each at the depth of
the nested statement in which it stands. The printed statement has them in the same order, and a
quoted text at some depth is kept if and only if it has no line break in it.
-/

namespace SqlVerbs.Sql

open Scanner

/-- Lexemes, each with the number of statements in which it is nested. -/
abbrev Placed := List (Nat × Lexeme)

namespace Placed

/-- Lexemes that are not nested. -/
def here (lexemes : List Lexeme) : Placed := lexemes.map (fun l ↦ (0, l))

/-- The lexemes of a nested statement. -/
def deeper (placed : Placed) : Placed := placed.map (fun p ↦ (p.1 + 1, p.2))

def words (texts : List String) : Placed := here (texts.map (fun text ↦ .word text.toList))

def symbol (text : String) : Placed := here [.symbol text.toList]

def identifier (name : String) : Placed := here [.quoted .identifier name.toList]

def parens (inner : Placed) : Placed := symbol "(" ++ inner ++ symbol ")"

/-- The lexemes as they stand in a text. -/
def StandsFor (placed : Placed) (lexemes : List Lexeme) : Prop :=
  List.Forall₂ (fun p l ↦ p.2.Nests p.1 l) placed lexemes

theorem standsFor_here (lexemes : List Lexeme) : (here lexemes).StandsFor lexemes := by
  rw [StandsFor, here, List.forall₂_map_left_iff]
  exact List.forall₂_same.2 (fun l _ ↦ .refl l (.inl rfl))

theorem StandsFor.append {first second : Placed} {ls ls' : List Lexeme} (h : first.StandsFor ls)
    (h' : second.StandsFor ls') : (first ++ second).StandsFor (ls ++ ls') :=
  List.rel_append h h'

theorem StandsFor.deeper {placed : Placed} {ls ls' : List Lexeme} (h : placed.StandsFor ls)
    (h' : List.Forall₂ (Lexeme.Nests 1) ls ls') : placed.deeper.StandsFor ls' := by
  rw [StandsFor, Placed.deeper, List.forall₂_map_left_iff]
  induction h generalizing ls' with
  | nil =>
    cases h'
    exact .nil
  | cons hl _ ih =>
    cases h' with
    | cons hl' hls' => exact .cons (hl.trans hl') (ih hls')

end Placed

/-- The text has the lexemes, whatever follows it, if only it begins with a character of a kind. -/
def ReportsBefore (d : Dialect) (follows : Char → Bool) (text : String) (placed : Placed) : Prop :=
  ∃ lexemes, placed.StandsFor lexemes ∧ ∀ rest : List Char, (∀ c ∈ rest.head?, follows c = true) →
    scanFrom d .blank (text.toList ++ rest) = prepend lexemes (scanFrom d .blank rest)

/-- The text has the lexemes if a character follows that ends any lexeme. -/
abbrev Reports (d : Dialect) : String → Placed → Prop := ReportsBefore d isSeparator

/-- The text has the lexemes whatever follows it. -/
abbrev Leads (d : Dialect) : String → Placed → Prop := ReportsBefore d (fun _ ↦ true)

namespace ReportsBefore

variable {d : Dialect} {follows follows' : Char → Bool} {text text' : String}
  {placed placed' : Placed}

theorem join (h : ReportsBefore d follows text placed)
    (h' : ReportsBefore d follows' text' placed')
    (hjoin : ∀ rest : List Char, (∀ c ∈ rest.head?, follows' c = true) →
      ∀ c ∈ (text'.toList ++ rest).head?, follows c = true) :
    ReportsBefore d follows' (text ++ text') (placed ++ placed') := by
  obtain ⟨ls, hls, hscan⟩ := h
  obtain ⟨ls', hls', hscan'⟩ := h'
  refine ⟨ls ++ ls', hls.append hls', fun rest hrest ↦ ?_⟩
  rw [String.toList_append, List.append_assoc, hscan _ (hjoin rest hrest), hscan' rest hrest,
    prepend_prepend]

theorem leads_append (h : Leads d text placed) (h' : ReportsBefore d follows text' placed') :
    ReportsBefore d follows (text ++ text') (placed ++ placed') :=
  h.join h' (by simp)

/-- What follows begins with a character that ends any lexeme. -/
theorem append_apart (h : Reports d text placed) (h' : ReportsBefore d follows text' placed')
    (hsep : text'.toList.head?.any isSeparator = true) :
    ReportsBefore d follows (text ++ text') (placed ++ placed') := by
  refine h.join h' (fun rest _ ↦ ?_)
  cases htext : text'.toList with
  | nil => simp [htext] at hsep
  | cons c cs => simpa [htext] using hsep

theorem append (h : Reports d text placed) (h' : Reports d text' placed')
    (hsep : text'.toList.head?.all isSeparator = true) :
    Reports d (text ++ text') (placed ++ placed') := by
  refine h.join h' (fun rest hrest ↦ ?_)
  cases htext : text'.toList with
  | nil => simpa using hrest
  | cons c cs => simpa [htext] using hsep

theorem reports (h : Leads d text placed) : Reports d text placed := by
  obtain ⟨ls, hls, hscan⟩ := h
  exact ⟨ls, hls, fun rest _ ↦ hscan rest (by simp)⟩

theorem scan_eq (h : ReportsBefore d follows text placed) :
    ∃ lexemes, scan d text = some lexemes ∧ placed.StandsFor lexemes := by
  obtain ⟨ls, hls, hscan⟩ := h
  have hall := hscan [] (by simp)
  rw [List.append_nil, scanFrom, finish, prepend_some, List.append_nil] at hall
  exact ⟨ls, hall, hls⟩

theorem empty : Leads d "" [] := ⟨[], .nil, by simp⟩

theorem blanks (h : text.toList.all isBlank = true) : Leads d text [] := by
  refine ⟨[], .nil, fun rest _ ↦ ?_⟩
  revert h
  generalize text.toList = cs
  intro h
  induction cs with
  | nil => simp
  | cons c cs ih =>
    simp only [List.all_cons, Bool.and_eq_true] at h
    rw [List.cons_append, scanFrom_blank h.1, ih h.2]

theorem punctuation (hd : PlainQuotes d) {c : Char} (hc : isPunctuation c = true)
    (htext : text.toList = [c]) : Leads d text (.here [.symbol [c]]) :=
  ⟨_, Placed.standsFor_here _, fun rest _ ↦ by
    simpa [htext] using hd.scanFrom_punctuation hc rest⟩

theorem intercalate {α : Type} {separator : String} {between : Placed}
    (hbetween : Leads d separator between)
    (hsep : separator.toList.head?.any isSeparator = true) {items : List α} {text : α → String}
    {placed : α → Placed} (h : ∀ a ∈ items, Reports d (text a) (placed a)) :
    Reports d (separator.intercalate (items.map text))
      (between.intercalate (items.map placed)) := by
  induction items with
  | nil => exact empty.reports
  | cons a items ih =>
    rw [List.forall_mem_cons] at h
    cases items with
    | nil => simpa using h.1
    | cons b items =>
      simp only [List.map_cons, String.intercalate_cons_cons, List.intercalate_cons_cons] at ih ⊢
      exact (h.1.append_apart hbetween hsep).leads_append (ih h.2)

theorem of_legible (hd : LexicalTables d) (pieces : List Piece) (h : Legible d pieces)
    (htext : text.toList = spell d pieces) :
    Reports d text (.here (pieces.flatMap Piece.lexemes)) := by
  refine ⟨_, Placed.standsFor_here _, fun rest hrest ↦ ?_⟩
  rw [htext]
  exact h.scanFrom_spell hd rest hrest

end ReportsBefore

namespace Scanner

variable {d : Dialect}

/-- A line feed ends any text that the scanner accepts. -/
theorem PlainQuotes.scanFrom_lineFeed (hd : PlainQuotes d) {mode : Mode} {text : List Char}
    {lexemes : List Lexeme} (h : scanFrom d mode text = some lexemes) (rest : List Char) :
    scanFrom d mode (text ++ '\n' :: rest) = prepend lexemes (scanFrom d .blank rest) := by
  have hending {m : Mode} {ls : List Lexeme} (hm : finish m = some ls) :
      scanFrom d m ('\n' :: rest) = prepend ls (scanFrom d .blank rest) := by
    cases m with
    | blank | lineComment =>
      cases hm
      simp [scanFrom, step, start_blank (d := d) (c := '\n') rfl]
    | word | number | symbol | closing =>
      cases hm
      rw [scanFrom, hd.step_ending rfl rfl]
    | quoted | escaped | blockComment => cases hm
  rw [← List.append_nil text, scanFrom_append, scanFrom] at h
  rw [scanFrom_append]
  cases hfinish : finish (run d mode text).2 with
  | none => simp [hfinish] at h
  | some ls =>
    rw [hfinish, prepend_some, Option.some.injEq] at h
    rw [hending hfinish, prepend_prepend, h]

end Scanner

/-- An indented statement and the line break after it. -/
theorem ReportsBefore.indented {d : Dialect} (hd : PlainQuotes d) {text : String} {placed : Placed}
    (h : Reports d text placed) : Leads d (Text.indent text ++ "\n") placed.deeper := by
  obtain ⟨ls, hscan, hls⟩ := h.scan_eq
  have hindent := scan_indent hd text
  rw [hscan] at hindent
  cases hindented : scan d (Text.indent text) with
  | none =>
    rw [hindented] at hindent
    cases hindent
  | some ls' =>
    rw [hindented] at hindent
    cases hindent with
    | some hnests =>
      refine ⟨ls', hls.deeper hnests, fun rest _ ↦ ?_⟩
      rw [String.toList_append, List.append_assoc]
      exact hd.scanFrom_lineFeed hindented rest

section Words

variable {d : Dialect} (hd : PlainQuotes d)

include hd

theorem ReportsBefore.word {text : String} (h : Lowering.isName text.toList = true) :
    Reports d text (.words [text]) :=
  ⟨_, Placed.standsFor_here _, fun _ hrest ↦
    hd.scanFrom_name h (fun c hc ↦ isNameChar_of_isSeparator (hrest c hc))⟩

/-- Words after some blanks. -/
theorem ReportsBefore.words {text : String} (blanks : String) (texts : List String)
    (htext : text = blanks ++ String.join (texts.map (· ++ " ")))
    (hblanks : blanks.toList.all isBlank = true)
    (h : ∀ text ∈ texts, Lowering.isName text.toList = true) : Leads d text (.words texts) := by
  have hwords : Leads d (String.join (texts.map (· ++ " "))) (.words texts) := by
    clear htext
    induction texts with
    | nil => exact .empty
    | cons text texts ih =>
      rw [List.forall_mem_cons] at h
      have hblank : Leads d " " [] := .blanks (by decide)
      have hfirst := (ReportsBefore.word hd h.1).append_apart hblank (by decide)
      simpa [Placed.words, Placed.here] using hfirst.leads_append (ih h.2)
  rw [htext]
  exact (ReportsBefore.blanks hblanks).leads_append hwords

end Words

/-! ## Clauses -/

section Clauses

variable (lexemesOf : Expr → Placed)

def predicatesPlaced (conditions : List Expr) : Placed :=
  (Placed.words ["AND"]).intercalate (conditions.map (fun e ↦ (lexemesOf e).parens))

def listPlaced (items : List Expr) : Placed :=
  (Placed.symbol ",").intercalate (items.map lexemesOf)

def clausePlaced (words : List String) (items : List Expr) (placed : List Expr → Placed) : Placed :=
  if items.isEmpty then [] else Placed.words words ++ placed items

def labelPlaced : Option String → Placed
  | some label => Placed.words ["AS"] ++ .identifier label
  | none => []

def SelectItem.placed (item : SelectItem) : Placed := lexemesOf item.expr ++ labelPlaced item.label

def SelectList.placed : SelectList → Placed
  | .star => .symbol "*"
  | .columns items => (Placed.symbol ",").intercalate (items.map (SelectItem.placed lexemesOf))

def TableName.placed (table : TableName) : Placed :=
  (match table.schema with
    | some schema => .identifier schema ++ .symbol "."
    | none => []) ++ .identifier table.name

/-- A row limit, in the style of the dialect. -/
def limitPlaced (d : Dialect) (style : LimitStyle) (word : String) : Option UInt64 → Placed
  | some n =>
    if d.limitStyle = style then .here [.word word.toList, .number (toString n.toNat).toList]
    else []
  | none => []

def JoinKind.words : JoinKind → List String
  | .inner => ["INNER", "JOIN"]
  | .left => ["LEFT", "JOIN"]
  | .right => ["RIGHT", "JOIN"]
  | .full => ["FULL", "JOIN"]

/-- The condition that always holds. -/
def alwaysPlaced : Placed :=
  .here [.symbol ['('], .number ['1'], .symbol ['='], .number ['1'], .symbol [')']]

def joinPlaced (kind : JoinKind) (source : Placed) (on : List Expr) : Placed :=
  Placed.words kind.words ++ source ++ Placed.words ["ON"] ++
    (if on.isEmpty then alwaysPlaced else predicatesPlaced lexemesOf on)

def selectPlaced (d : Dialect) (select : Select) (source joins : Placed) : Placed :=
  Placed.words ["SELECT"] ++ (if select.distinct then Placed.words ["DISTINCT"] else []) ++
    limitPlaced d .top "TOP" select.limit ++ select.items.placed lexemesOf ++
    Placed.words ["FROM"] ++ source ++ joins ++
    clausePlaced ["WHERE"] select.filters (predicatesPlaced lexemesOf) ++
    clausePlaced ["GROUP", "BY"] select.groups (listPlaced lexemesOf) ++
    clausePlaced ["HAVING"] select.having (predicatesPlaced lexemesOf) ++
    clausePlaced ["ORDER", "BY"] select.order (listPlaced lexemesOf) ++
    limitPlaced d .limit "LIMIT" select.limit

mutual

/-- The lexemes of a source of rows. -/
def Source.placed (d : Dialect) : Source → Placed
  | .table name label => name.placed ++ labelPlaced label
  | .subquery select label => (placedSelect d select).deeper.parens ++ labelPlaced (some label)

/-- The lexemes of a statement. -/
def placedSelect (d : Dialect) : SelectFrom Source → Placed
  | ⟨distinct, items, source, joins, filters, groups, having, order, limit⟩ =>
    selectPlaced lexemesOf d
      ⟨distinct, items, source, joins, filters, groups, having, order, limit⟩
      (source.placed d) (placedJoins d joins).flatten

/-- The lexemes of joins. -/
def placedJoins (d : Dialect) : List (JoinWith Source) → List Placed
  | [] => []
  | ⟨kind, source, on⟩ :: rest =>
    joinPlaced lexemesOf kind (source.placed d) on :: placedJoins d rest

end

end Clauses

def temporaryPlaced (d : Dialect) (name : String) (select : Placed) : Placed :=
  let table := Placed.identifier (d.temporaryTableName name)
  match d.tempTable with
  | .createAs => .words ["CREATE", "TEMPORARY", "TABLE"] ++ table ++ .words ["AS"] ++ select
  | .selectInto =>
    .words ["SELECT"] ++ .symbol "*" ++ .words ["INTO"] ++ table ++ .words ["FROM"] ++
      (select.deeper.parens ++ labelPlaced (some "q01"))

/-- The statement in the condition of a semi or an anti join. -/
def matching (right : Source) (keys : List (String × String)) : Select where
  source := right
  items := .columns [⟨.literal (.integer (some 1)), none⟩]
  filters := Join.condition keys

def existencePlaced (negated : Bool) (matching : Placed) : Placed :=
  (if negated then Placed.words ["NOT"] else []) ++ Placed.words ["EXISTS"] ++
    matching.deeper.parens

def SelectList.exprs : SelectList → List Expr
  | .star => []
  | .columns items => items.map SelectItem.expr

mutual

/-- The expressions of a source of rows, at any depth. -/
def Source.exprs : Source → List Expr
  | .table _ _ => []
  | .subquery select _ => exprsOfSelect select

/-- The expressions of a statement, at any depth. -/
def exprsOfSelect : SelectFrom Source → List Expr
  | ⟨_, items, source, joins, filters, groups, having, order, _⟩ =>
    items.exprs ++ source.exprs ++ exprsOfJoins joins ++ filters ++ groups ++ having ++ order

/-- The expressions of joins, at any depth. -/
def exprsOfJoins : List (JoinWith Source) → List Expr
  | [] => []
  | ⟨_, source, on⟩ :: rest => source.exprs ++ on ++ exprsOfJoins rest

end

/-! ## The printed clauses have their lexemes -/

/-- A clause begins with a line break. -/
theorem clauseText_apart (word : String) (items : List Expr) (text : List Expr → String) :
    (clauseText word items text).toList.head?.all isSeparator = true := by
  unfold clauseText
  split
  · rfl
  · simp [isSeparator, isBlank]

theorem limitText_apart (d : Dialect) (limit : Option UInt64) :
    (limitText d limit).toList.head?.all isSeparator = true := by
  unfold limitText
  split
  · simp [isSeparator, isBlank]
  · rfl

theorem joinText_apart (d : Dialect) (kind : JoinKind) (source : String) (on : List Expr)
    (rest : String) : (joinText d kind source on ++ rest).toList.head?.all isSeparator = true := by
  simp [joinText, isSeparator, isBlank]

theorem labelText_apart (d : Dialect) (label : Option String) :
    (labelText d label).toList.head?.all isSeparator = true := by
  cases label with
  | none => rfl
  | some label => simp [labelText, isSeparator, isBlank]

section Printed

variable {d : Dialect} (hd : LexicalTables d) {lexemesOf : Expr → Placed}

include hd

theorem leads_parens {text : String} {placed : Placed} (h : Reports d text placed) :
    Leads d ("(" ++ text ++ ")") placed.parens := by
  have hopen : Leads d "(" (.symbol "(") := .punctuation hd.toPlainQuotes rfl (by decide)
  have hclose : Leads d ")" (.symbol ")") := .punctuation hd.toPlainQuotes rfl (by decide)
  exact (hopen.leads_append h).append_apart hclose (by decide)

theorem leads_comma : Leads d ", " (.symbol ",") := by
  have hcomma : Leads d "," (.symbol ",") := .punctuation hd.toPlainQuotes rfl (by decide)
  have hblank : Leads d " " [] := .blanks (by decide)
  simpa using hcomma.leads_append hblank

theorem reports_predicates (conditions : List Expr)
    (h : ∀ e ∈ conditions, Reports d (e.render d) (lexemesOf e)) :
    Reports d (predicatesText d conditions) (predicatesPlaced lexemesOf conditions) := by
  have hand : Leads d " AND " (.words ["AND"]) :=
    .words hd.toPlainQuotes " " ["AND"] (by decide) (by decide) (by decide)
  exact .intercalate hand (by decide) (fun e he ↦ (leads_parens hd (h e he)).reports)

theorem reports_list (items : List Expr)
    (h : ∀ e ∈ items, Reports d (e.render d) (lexemesOf e)) :
    Reports d (listText d items) (listPlaced lexemesOf items) :=
  .intercalate (leads_comma hd) (by decide) h

theorem reports_identifier (name : String) :
    Reports d (d.quoteIdentifier name) (.identifier name) :=
  .of_legible hd [.token (.identifier name)] (.token rfl) (by simp [Token.chars])

theorem reports_label (label : Option String) :
    Reports d (labelText d label) (labelPlaced label) := by
  cases label with
  | none => exact ReportsBefore.empty.reports
  | some label =>
    have has : Leads d " AS " (.words ["AS"]) :=
      .words hd.toPlainQuotes " " ["AS"] (by decide) (by decide) (by decide)
    exact has.leads_append (reports_identifier hd label)

theorem reports_item {item : SelectItem}
    (h : Reports d (item.expr.render d) (lexemesOf item.expr)) :
    Reports d (item.render d) (item.placed lexemesOf) := by
  exact h.append (reports_label hd item.label) (labelText_apart d item.label)

theorem reports_items {items : SelectList}
    (h : ∀ e ∈ items.exprs, Reports d (e.render d) (lexemesOf e)) :
    Reports d (items.render d) (items.placed lexemesOf) := by
  cases items with
  | star => exact .of_legible hd [.symbol "*"] (.token rfl) (by simp [SelectList.render])
  | columns items =>
    refine .intercalate (leads_comma hd) (by decide) (fun item hitem ↦ ?_)
    exact reports_item hd (h item.expr (List.mem_map_of_mem hitem))

theorem reports_table (table : TableName) : Reports d (table.render d) table.placed := by
  obtain ⟨schema, name⟩ := table
  cases schema with
  | none => simpa [TableName.render, TableName.placed] using reports_identifier hd name
  | some schema =>
    refine .of_legible hd
      [.token (.identifier schema), .symbol ".", .token (.identifier name)] ?_ ?_
    · exact ⟨.cons_cons rfl (.cons_cons rfl (.singleton _)),
        by simp [Piece.isSafe, Token.isSafe, Piece.symbol, punctuationSymbols]⟩
    · simp [TableName.render, Token.chars]

theorem reports_clause (word : String) (words : List String) {items : List Expr}
    {text : List Expr → String} {placed : List Expr → Placed}
    (h : Reports d (text items) (placed items))
    (hword : word ++ " " = String.join (words.map (· ++ " ")))
    (hnames : ∀ word ∈ words, Lowering.isName word.toList = true) :
    Reports d (clauseText word items text) (clausePlaced words items placed) := by
  unfold clauseText clausePlaced
  split
  · exact ReportsBefore.empty.reports
  · have hwords : Leads d ("\n" ++ word ++ " ") (.words words) :=
      .words hd.toPlainQuotes "\n" words (by rw [String.append_assoc, hword]) (by decide) hnames
    exact hwords.leads_append h

theorem reports_rows (n : UInt64) :
    Reports d (toString n.toNat) (.here [.number (toString n.toNat).toList]) :=
  .of_legible hd [.token (.rows n)] (.token rfl) (by simp [Token.chars])

theorem leads_top (limit : Option UInt64) :
    Leads d (topText d limit) (limitPlaced d .top "TOP" limit) := by
  unfold topText limitPlaced
  cases limit with
  | none => cases d.limitStyle <;> exact .empty
  | some n =>
    cases d.limitStyle with
    | limit => exact .empty
    | top =>
      have htop : Leads d "TOP " (.words ["TOP"]) :=
        .words hd.toPlainQuotes "" ["TOP"] (by decide) (by decide) (by decide)
      have hblank : Leads d " " [] := .blanks (by decide)
      exact (htop.leads_append (reports_rows hd n)).append_apart hblank (by decide)

theorem reports_limit (limit : Option UInt64) :
    Reports d (limitText d limit) (limitPlaced d .limit "LIMIT" limit) := by
  unfold limitText limitPlaced
  cases limit with
  | none => cases d.limitStyle <;> exact ReportsBefore.empty.reports
  | some n =>
    cases d.limitStyle with
    | top => exact ReportsBefore.empty.reports
    | limit =>
      have hlimit : Leads d "\nLIMIT " (.words ["LIMIT"]) :=
        .words hd.toPlainQuotes "\n" ["LIMIT"] (by decide) (by decide) (by decide)
      exact hlimit.leads_append (reports_rows hd n)

theorem reports_always : Reports d "(1 = 1)" alwaysPlaced := by
  have hinner : Legible d [.token (.rows 1), .blank, .symbol "=", .blank, .token (.rows 1)] :=
    .token_blank rfl (.token_blank rfl (.token rfl))
  exact .of_legible hd _ hinner.parens rfl

theorem reports_join (kind : JoinKind) {source : String} {placed : Placed} {on : List Expr}
    (hsource : Reports d source placed)
    (hon : ∀ e ∈ on, Reports d (e.render d) (lexemesOf e)) :
    Reports d (joinText d kind source on) (joinPlaced lexemesOf kind placed on) := by
  have hkind : Leads d ("\n" ++ kind.text ++ " ") (.words kind.words) := by
    refine .words hd.toPlainQuotes "\n" kind.words ?_ (by decide) ?_ <;> cases kind <;> decide
  have honWord : Leads d "\n  ON " (.words ["ON"]) :=
    .words hd.toPlainQuotes "\n  " ["ON"] (by decide) (by decide) (by decide)
  refine ((hkind.leads_append hsource).append_apart honWord (by decide)).leads_append ?_
  split
  · exact reports_always hd
  · exact reports_predicates hd on hon

theorem reports_select {select : Select} {source joins : String} {sourcePlaced joinsPlaced : Placed}
    (hsource : Reports d source sourcePlaced) (hjoins : Reports d joins joinsPlaced)
    (hsep : joins.toList.head?.all isSeparator = true)
    (hitems : ∀ e ∈ select.items.exprs, Reports d (e.render d) (lexemesOf e))
    (hclauses : ∀ e ∈ select.filters ++ select.groups ++ select.having ++ select.order,
      Reports d (e.render d) (lexemesOf e)) :
    Reports d (selectText d select source joins)
      (selectPlaced lexemesOf d select sourcePlaced joinsPlaced) := by
  have hselect : Leads d "SELECT " (.words ["SELECT"]) :=
    .words hd.toPlainQuotes "" ["SELECT"] (by decide) (by decide) (by decide)
  have hdistinct : Leads d (if select.distinct then "DISTINCT " else "")
      (if select.distinct then Placed.words ["DISTINCT"] else []) := by
    split
    · exact .words hd.toPlainQuotes "" ["DISTINCT"] (by decide) (by decide) (by decide)
    · exact .empty
  have hfrom : Leads d "\nFROM " (.words ["FROM"]) :=
    .words hd.toPlainQuotes "\n" ["FROM"] (by decide) (by decide) (by decide)
  have hwhere := reports_clause hd "WHERE" ["WHERE"] (reports_predicates hd select.filters
    (fun e he ↦ hclauses e (by simp [he]))) (by decide) (by decide)
  have hgroups := reports_clause hd "GROUP BY" ["GROUP", "BY"] (reports_list hd select.groups
    (fun e he ↦ hclauses e (by simp [he]))) (by decide) (by decide)
  have hhaving := reports_clause hd "HAVING" ["HAVING"] (reports_predicates hd select.having
    (fun e he ↦ hclauses e (by simp [he]))) (by decide) (by decide)
  have horder := reports_clause hd "ORDER BY" ["ORDER", "BY"] (reports_list hd select.order
    (fun e he ↦ hclauses e (by simp [he]))) (by decide) (by decide)
  have hhead := (hselect.leads_append hdistinct).leads_append (leads_top hd select.limit)
  have hbody := ((hhead.leads_append (reports_items hd hitems)).append_apart hfrom
    (by decide)).leads_append hsource
  have hfiltered := (hbody.append hjoins hsep).append hwhere (clauseText_apart _ _ _)
  have hgrouped := (hfiltered.append hgroups (clauseText_apart _ _ _)).append hhaving
    (clauseText_apart _ _ _)
  exact (hgrouped.append horder (clauseText_apart _ _ _)).append (reports_limit hd select.limit)
    (limitText_apart _ _)

/-- A nested statement. -/
theorem leads_nested {inner : String} {placed : Placed} (h : Reports d inner placed) :
    Leads d ("(\n" ++ Text.indent inner ++ "\n)") placed.deeper.parens := by
  have hopen : Leads d "(" (.symbol "(") := .punctuation hd.toPlainQuotes rfl (by decide)
  have hclose : Leads d ")" (.symbol ")") := .punctuation hd.toPlainQuotes rfl (by decide)
  have hbreak : Leads d "\n" [] := .blanks (by decide)
  have hinner := ((hopen.leads_append hbreak).leads_append
    (h.indented hd.toPlainQuotes)).leads_append hclose
  have htext : "(\n" ++ Text.indent inner ++ "\n)" =
      "(" ++ "\n" ++ (Text.indent inner ++ "\n") ++ ")" := by
    rw [← String.toList_inj]
    simp
  rw [htext]
  simpa [Placed.parens] using hinner

theorem reports_subquery {inner : String} {placed : Placed} (h : Reports d inner placed)
    (label : String) :
    Reports d (subqueryText d inner label) (placed.deeper.parens ++ labelPlaced (some label)) := by
  have htext : subqueryText d inner label =
      "(\n" ++ Text.indent inner ++ "\n)" ++ labelText d (some label) := by
    rw [← String.toList_inj]
    simp [subqueryText, labelText]
  rw [htext]
  exact (leads_nested hd h).leads_append (reports_label hd (some label))

mutual

theorem reports_source (source : Source)
    (h : ∀ e ∈ source.exprs, Reports d (e.render d) (lexemesOf e)) :
    Reports d (source.render d) (source.placed lexemesOf d) := by
  cases source with
  | table name label =>
    rw [Source.render, Source.placed]
    exact (reports_table hd name).append (reports_label hd label) (labelText_apart d label)
  | subquery select label =>
    rw [Source.render, Source.placed]
    exact reports_subquery hd (reports_renderSelect select h) label

theorem reports_renderSelect (select : SelectFrom Source)
    (h : ∀ e ∈ exprsOfSelect select, Reports d (e.render d) (lexemesOf e)) :
    Reports d (renderSelect d select) (placedSelect lexemesOf d select) := by
  obtain ⟨distinct, items, source, joins, filters, groups, having, order, limit⟩ := select
  rw [renderSelect, placedSelect]
  simp only [exprsOfSelect, List.forall_mem_append] at h
  obtain ⟨⟨⟨⟨⟨⟨hitems, hsource⟩, hjoins⟩, hfilters⟩, hgroups⟩, hhaving⟩, horder⟩ := h
  have hjoined := reports_renderJoins joins hjoins
  refine reports_select hd (reports_source source hsource) hjoined.1 hjoined.2 hitems ?_
  simp only [List.forall_mem_append]
  exact ⟨⟨⟨hfilters, hgroups⟩, hhaving⟩, horder⟩

theorem reports_renderJoins (joins : List (JoinWith Source))
    (h : ∀ e ∈ exprsOfJoins joins, Reports d (e.render d) (lexemesOf e)) :
    Reports d (String.join (renderJoins d joins)) (placedJoins lexemesOf d joins).flatten ∧
      (String.join (renderJoins d joins)).toList.head?.all isSeparator = true := by
  match joins, h with
  | [], _ => exact ⟨ReportsBefore.empty.reports, rfl⟩
  | ⟨kind, source, on⟩ :: rest, h =>
    simp only [exprsOfJoins, List.forall_mem_append] at h
    obtain ⟨⟨hsource, hon⟩, hrest⟩ := h
    have hjoin := reports_join hd kind (reports_source source hsource) hon
    have hjoins := reports_renderJoins rest hrest
    rw [renderJoins, placedJoins, String.join_cons, List.flatten_cons]
    exact ⟨hjoin.append hjoins.1 hjoins.2, joinText_apart ..⟩

end

/-- The statement that stores a query in a temporary table. -/
theorem reports_temporaryTable (name : String) {select : String} {placed : Placed}
    (h : Reports d select placed) :
    Reports d (d.temporaryTable name select) (temporaryPlaced d name placed) := by
  have htable := reports_identifier hd (d.temporaryTableName name)
  unfold Dialect.temporaryTable temporaryPlaced
  cases d.tempTable with
  | createAs =>
    have hcreate : Leads d "CREATE TEMPORARY TABLE " (.words ["CREATE", "TEMPORARY", "TABLE"]) :=
      .words hd.toPlainQuotes "" _ (by decide) (by decide) (by decide)
    have has : Leads d " AS\n" (.words ["AS"]) := by
      have hblank : Leads d " " [] := .blanks (by decide)
      have hword : Reports d "AS" (.words ["AS"]) := .word hd.toPlainQuotes (by decide)
      have hbreak : Leads d "\n" [] := .blanks (by decide)
      simpa using (hblank.leads_append hword).append_apart hbreak (by decide)
    exact ((hcreate.leads_append htable).append_apart has (by decide)).leads_append h
  | selectInto =>
    have hselect : Leads d "SELECT " (.words ["SELECT"]) :=
      .words hd.toPlainQuotes "" ["SELECT"] (by decide) (by decide) (by decide)
    have hstar : Reports d "*" (.symbol "*") := .of_legible hd [.symbol "*"] (.token rfl) (by simp)
    have hinto : Leads d " INTO " (.words ["INTO"]) :=
      .words hd.toPlainQuotes " " ["INTO"] (by decide) (by decide) (by decide)
    have hfrom : Leads d " FROM " (.words ["FROM"]) :=
      .words hd.toPlainQuotes " " ["FROM"] (by decide) (by decide) (by decide)
    have hhead := ((hselect.leads_append hstar).append_apart hinto (by decide)).leads_append htable
    have hall := (hhead.append_apart hfrom (by decide)).leads_append (reports_subquery hd h "q01")
    have htext (table label : String) :
        "SELECT * INTO " ++ table ++ " FROM (\n" ++ Text.indent select ++ "\n) AS " ++ label =
          "SELECT " ++ "*" ++ " INTO " ++ table ++ " FROM " ++
            ("(\n" ++ Text.indent select ++ "\n) AS " ++ label) := by
      rw [← String.toList_inj]
      simp
    dsimp only
    rw [htext]
    exact hall

/-- The condition of a semi or an anti join. -/
theorem reports_existence (negated : Bool) (right : Source) (keys : List (String × String))
    (h : ∀ e ∈ exprsOfSelect (matching right keys), Reports d (e.render d) (lexemesOf e)) :
    Reports d ((Join.existence d negated right keys).render d)
      (existencePlaced negated (placedSelect lexemesOf d (matching right keys))) := by
  have hnot : Leads d (if negated then "NOT " else "")
      (if negated then Placed.words ["NOT"] else []) := by
    cases negated with
    | true => exact .words hd.toPlainQuotes "" ["NOT"] (by decide) (by decide) (by decide)
    | false => exact .empty
  have hexists : Leads d "EXISTS " (.words ["EXISTS"]) :=
    .words hd.toPlainQuotes "" ["EXISTS"] (by decide) (by decide) (by decide)
  have hinner := leads_nested hd (reports_renderSelect hd (matching right keys) h)
  have hall := (hnot.leads_append hexists).leads_append hinner
  have htext : (Join.existence d negated right keys).render d =
      (if negated then "NOT " else "") ++ "EXISTS " ++
        ("(\n" ++ Text.indent (renderSelect d (matching right keys)) ++ "\n)") := by
    rw [← String.toList_inj]
    simp [Join.existence, Expr.render, matching, SelectFrom.render]
  rw [htext]
  exact hall.reports

end Printed

/-! ## What is kept -/

/-- A text with its lexemes. One at some depth is kept if and only if it is not nested or has no
line break inside of quotes. -/
def Shows (d : Dialect) (text : String) (placed : Placed) : Prop :=
  ∃ lexemes, scan d text = some lexemes ∧ List.Forall₂ (fun p l ↦ p.2.Nests p.1 l ∧
    (l = p.2 ↔ p.1 = 0 ∨ p.2.breaksLine = false)) placed lexemes

theorem ReportsBefore.shows {d : Dialect} {follows : Char → Bool} {text : String} {placed : Placed}
    (h : ReportsBefore d follows text placed) : Shows d text placed := by
  obtain ⟨lexemes, hscan, hlexemes⟩ := h.scan_eq
  exact ⟨lexemes, hscan, hlexemes.imp (fun _ _ hnests ↦ ⟨hnests, hnests.eq_iff⟩)⟩

/-- The text of a safe expression has the lexemes of the expression. -/
theorem Expr.reports_render {d : Dialect} (hd : LexicalTables d) {e : Expr}
    (h : ∀ s ∈ e.parts, s.isSafe d = true) : Reports d (e.render d) (.here e.lexemes) :=
  .of_legible hd e.pieces (legible_pieces d e h) (toList_render d e)

/-- What nesting keeps. A text that is indented any number of times has the lexemes that it had
before if and only if no line break stands inside of quotes. In a printed statement, in the
statement that makes a temporary table of it and in a condition on the existence of rows every
lexeme is found again, at any depth; it is kept if and only if it is not nested or has no line break
inside of quotes. -/
theorem nested_lexemes_kept_iff {d : Dialect} (hd : d ∈ Dialect.builtin) :
    (∀ (text : String) (levels : Nat),
      scan d (Text.indent^[levels] text) = scan d text ↔
        levels = 0 ∨ ∀ lexemes ∈ scan d text, ∀ l ∈ lexemes, l.breaksLine = false) ∧
    ∀ lexemesOf : Expr → Placed,
      (∀ select : Select, (∀ e ∈ exprsOfSelect select, Reports d (e.render d) (lexemesOf e)) →
        Shows d (select.render d) (placedSelect lexemesOf d select) ∧
        ∀ name, Shows d (d.temporaryTable name (select.render d))
          (temporaryPlaced d name (placedSelect lexemesOf d select))) ∧
      ∀ negated right keys,
        (∀ e ∈ exprsOfSelect (matching right keys), Reports d (e.render d) (lexemesOf e)) →
        Reports d ((Join.existence d negated right keys).render d)
          (existencePlaced negated (placedSelect lexemesOf d (matching right keys))) ∧
        Shows d ((Join.existence d negated right keys).render d)
          (existencePlaced negated (placedSelect lexemesOf d (matching right keys))) := by
  have htables := lexicalTables_of_mem_builtin hd
  refine ⟨fun text levels ↦ scan_indent_iterate_eq_iff htables.toPlainQuotes levels text, ?_⟩
  refine fun lexemesOf ↦ ⟨fun select h ↦ ?_, fun negated right keys h ↦ ?_⟩
  · have hselect := reports_renderSelect htables select h
    exact ⟨hselect.shows, fun name ↦ (reports_temporaryTable htables name hselect).shows⟩
  · have hexistence := reports_existence htables negated right keys h
    exact ⟨hexistence, hexistence.shows⟩

/-- A comparison with a string of two lines. -/
def twoLines : Expr := .binary (.column "x") .eq (.literal (.string (some "a\nb")))

/-- A statement with the comparison, and a statement that reads from it. -/
def twoLinesSelect : Select where
  source := .table ⟨none, "t"⟩ none
  filters := [twoLines]

def nestedTwoLines : Select where
  source := .subquery twoLinesSelect "q01"

theorem nested_lexemes_kept_iff_twoLines :
    scan .ansi (Text.indent (twoLinesSelect.render .ansi)) ≠
      scan .ansi (twoLinesSelect.render .ansi) ∧
    Shows .ansi (nestedTwoLines.render .ansi)
      (placedSelect (fun e ↦ .here e.lexemes) .ansi nestedTwoLines) := by
  have hmem : Dialect.ansi ∈ Dialect.builtin := by simp [Dialect.builtin]
  have htheorem := nested_lexemes_kept_iff hmem
  constructor
  · intro h
    have hkept := (htheorem.1 (twoLinesSelect.render .ansi) 1).1 h
    revert hkept
    decide +kernel
  · refine ((htheorem.2 _).1 nestedTwoLines (fun e he ↦ ?_)).1
    obtain rfl : e = twoLines := by simpa [exprsOfSelect, Source.exprs, exprsOfJoins,
      SelectList.exprs, nestedTwoLines, twoLinesSelect] using he
    exact Expr.reports_render (lexicalTables_of_mem_builtin hmem) (by decide)

end SqlVerbs.Sql
