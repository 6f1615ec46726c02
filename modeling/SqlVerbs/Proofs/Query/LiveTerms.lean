import SqlVerbs.Proofs.Local.ReadNames
import SqlVerbs.Proofs.Query.SortKeys

/-!
# Terms that the order of rows loses

An ordering term is left out where one of its symbols is neither a visible column nor bound locally.
The symbols are those of the term as it was written. Some of them are never looked up, such as the
name of a member of a local list, so that a term may be left out although every column that it is
folded to is visible. Nothing but these symbols makes a difference.
-/

namespace SqlVerbs

open Compile (Ensures Yields)

namespace Stage

variable {target : Target} {stage : Stage}

theorem mem_liveTerms {term : Host.Expr} :
    term ∈ stage.liveTerms target ↔
      term ∈ stage.order ∧ ∀ name ∈ term.references, stage.knows target name = true := by
  rw [liveTerms, List.mem_filter, List.all_eq_true]

theorem knows_of_bound {name : String} (h : target.env.has name = true) :
    stage.knows target name = true := by
  simp [knows, h]

theorem knows_of_visible {name : String} (h : stage.level.has name = true) :
    stage.knows target name = true := by
  simp [knows, h]

/-- A term is lost by a symbol that it is folded to, or by one that is never looked up. -/
theorem knows_all_iff {term residual : Host.Expr}
    (h : Local.partialEval (stage.scope target []) term = .ok residual) :
    (∀ name ∈ term.references, stage.knows target name = true) ↔
      (∀ name ∈ term.references, name ∈ residual.references → stage.knows target name = true) ∧
        ∀ name ∈ Local.unreadNames term, stage.knows target name = true := by
  constructor
  · intro hknown
    exact ⟨fun name hname _ ↦ hknown name hname,
      fun name hname ↦ hknown name (List.mem_of_mem_filter hname)⟩
  · rintro ⟨hleft, hunread⟩ name hname
    by_cases hread : name ∈ Local.readNames term
    · obtain hbound | hresidual := Local.partialEval_accounts h name hread
      · exact knows_of_bound hbound
      · exact hleft name hname hresidual
    · exact hunread name (List.mem_filter.2 ⟨hname, by simpa using hread⟩)

/-- A key of the order of rows is what its term is folded to, as SQL over the source. -/
def IsKey (target : Target) (stage : Stage) (term : Host.Expr) (key : Sql.Expr) : Prop :=
  ∃ residual lowered warnings, Local.partialEval (stage.scope target []) term = .ok residual ∧
    Lowering.lower (stage.context target false) residual = .ok (lowered, warnings) ∧
      key = stage.level.resolve false lowered

theorem sortKey_isKey (term : Host.Expr) :
    Ensures (stage.IsKey target term) (stage.sortKey target term) := by
  refine .bind (.yields _) fun lowered hlowered ↦ .pure ?_
  rw [lower_eq] at hlowered
  obtain ⟨warnings, h⟩ := (Ensures.ofNoted _).of_yields hlowered
  obtain ⟨residual, hresidual, h⟩ := bind_eq_ok.1 h
  exact ⟨residual, lowered, warnings, hresidual, h, rfl⟩

/-- Orderings are dropped only for symbols. The order of rows has one key for each live term, made
of what the term is folded to. A term that can be folded is left out if and only if a symbol that is
left of it, or a symbol of it that is never looked up, is neither a visible column nor bound
locally. So where every symbol that is left is a visible column, the term has a key unless one of
those that are never looked up is unknown. -/
theorem order_drops_iff (target : Target) (stage : Stage) :
    Ensures (List.Forall₂ (stage.IsKey target) (stage.liveTerms target)) (stage.orderBy target) ∧
      ∀ term ∈ stage.order, ∀ residual,
        Local.partialEval (stage.scope target []) term = .ok residual →
          (term ∉ stage.liveTerms target ↔
            (∃ name ∈ term.references, name ∈ residual.references ∧
              stage.knows target name = false) ∨
            ∃ name ∈ Local.unreadNames term, stage.knows target name = false) ∧
          ((∀ name ∈ residual.references, stage.level.has name = true) →
            (term ∈ stage.liveTerms target ↔
              ∀ name ∈ Local.unreadNames term, stage.knows target name = true)) := by
  refine ⟨.mapM_forall₂ fun term _ ↦ sortKey_isKey term, fun term hterm residual h ↦ ⟨?_, ?_⟩⟩
  · rw [mem_liveTerms, knows_all_iff h]
    grind
  · intro hvisible
    rw [mem_liveTerms, knows_all_iff h]
    have hleft : ∀ name ∈ term.references, name ∈ residual.references →
        stage.knows target name = true :=
      fun name _ hname ↦ knows_of_visible (hvisible name hname)
    exact ⟨fun hlive ↦ hlive.2.2, fun hunread ↦ ⟨hterm, hleft, hunread⟩⟩

end Stage

namespace weighted

/-- The weight times an element of a local vector, and times a member of a local list. -/
def kept : List Host.Expr :=
  [.call "*" [.symbol "weight", .call "[[" [.symbol "factors", .literal (.integer (some 2))] []] [],
    .call "*" [.symbol "weight",
      .call "$" [.symbol "rates", .literal (.string (some "heavy"))] []] []]

/-- The same member, and its name is a symbol. -/
def dropped : Host.Expr :=
  .call "*" [.symbol "weight", .call "$" [.symbol "rates", .symbol "heavy"] []] []

def stage : Stage where
  level := .ofSource (.table (.ofText "parcels") none) ["number", "weight"]
  order := dropped :: kept

def target : Target where
  dialect := .ansi
  env := [("factors", .atomic [.integer (some 1), .integer (some 3)]),
    ("rates", .list [("heavy", .atomic [.integer (some 2)])])]
  now := ⟨⟨2000, 1, 1⟩, 0, 0, 0⟩

end weighted

open weighted in
/-- Of three terms that are folded to products of the weight with numbers, two have keys. -/
theorem Stage.order_drops_iff_weighted :
    (((Query.table "parcels" ["number", "weight"]).arrange (dropped :: kept)).build target).Yields
      stage ∧
    (∀ term ∈ kept, term ∈ stage.liveTerms target) ∧ dropped ∉ stage.liveTerms target ∧
      (stage.orderBy target).Yields
        [.binary (.column "weight") .mul (.literal (.integer (some 3))),
          .binary (.column "weight") .mul (.literal (.integer (some 2)))] := by
  obtain ⟨-, hdrops⟩ := Stage.order_drops_iff target stage
  refine ⟨⟨{}, {}, rfl⟩, ?_, ?_, ⟨{}, {}, rfl⟩⟩
  · intro term hterm
    have hordered : term ∈ stage.order := List.mem_cons_of_mem _ hterm
    obtain ⟨residual, hresidual, hvisible, hunread⟩ : ∃ residual,
        Local.partialEval (stage.scope target []) term = .ok residual ∧
          (∀ name ∈ residual.references, stage.level.has name = true) ∧
            ∀ name ∈ Local.unreadNames term, stage.knows target name = true := by
      obtain rfl | hterm := List.mem_cons.1 hterm
      · exact ⟨_, rfl, by decide, by decide⟩
      · obtain rfl := List.mem_singleton.1 hterm
        exact ⟨_, rfl, by decide, by decide⟩
    exact ((hdrops term hordered residual hresidual).2 hvisible).2 hunread
  · have hordered : dropped ∈ stage.order := List.mem_cons_self
    exact (hdrops dropped hordered _ rfl).1.2 (.inr ⟨"heavy", by decide, by decide⟩)

end SqlVerbs
