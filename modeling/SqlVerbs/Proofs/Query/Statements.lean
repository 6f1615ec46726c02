import SqlVerbs.Proofs.Query.Plans
import SqlVerbs.Proofs.Sql.NestedStatements

/-!
# The statements of a compiled query

A compiled query holds statements at many depths: in its `FROM` clause, as sides of joins, and as
text in the conditions of semi and anti joins. The last ones are found through the query, because
text has no structure.
-/

namespace SqlVerbs

open Compile (Ensures Yields)

namespace Sql

mutual

/-- The statements of a source of rows, at any depth. -/
def Source.statements : Source → List Select
  | .table _ _ => []
  | .subquery select _ => statementsOf select

/-- A statement and the statements that it reads from, at any depth. -/
def statementsOf : SelectFrom Source → List Select
  | ⟨distinct, items, source, joins, filters, groups, having, order, limit⟩ =>
    ⟨distinct, items, source, joins, filters, groups, having, order, limit⟩ ::
      (source.statements ++ statementsOfJoins joins)

/-- The statements of joined sources, at any depth. -/
def statementsOfJoins : List (JoinWith Source) → List Select
  | [] => []
  | ⟨_, source, _⟩ :: rest => source.statements ++ statementsOfJoins rest

end

theorem statementsOf_eq (select : Select) :
    statementsOf select =
      select :: (select.source.statements ++ statementsOfJoins select.joins) := by
  rw [statementsOf]

/-- What a statement reads from holds these statements. -/
def SelectFrom.sources (select : Select) : List Select :=
  select.source.statements ++ statementsOfJoins select.joins

end Sql

/-! ## Conditions of semi and anti joins -/

/-- Does the join only test whether there is a match? -/
def JoinType.isTest : JoinType → Bool
  | .semi | .anti => true
  | .inner | .left | .right | .full => false

namespace Plan

/-- The semi and anti joins of a plan: both sides, and the keys. -/
def tests : Plan → List (Plan × Plan × List (String × String))
  | .table _ _ => []
  | .andThen parent _ => parent.tests
  | .join left right type keys _ =>
    (if type.isTest then [(left, right, keys)] else []) ++ (left.tests ++ right.tests)

/-- The statement is in the condition of a semi or an anti join of the plan, of which this is the
left side. -/
def Tests (target : Target) (plan : Plan) (left : Sql.Source) (statement : Sql.Select) : Prop :=
  ∃ test ∈ plan.tests, ∃ leftStage rightStage leftSide rightSide,
    (test.1.build target).Yields leftStage ∧ (test.2.1.build target).Yields rightStage ∧
      Join.unknownKey? leftStage.level rightStage.level test.2.2 = none ∧
        (Join.side target leftStage Join.leftLabel).Yields leftSide ∧
          (Join.side target rightStage Join.rightLabel).Yields rightSide ∧
            left = leftSide.1 ∧ statement = Sql.matching rightSide.1 test.2.2

/-- What holds of a plan and passes from plans to their parts holds of both sides of a test. -/
theorem of_mem_tests (holds : Plan → Prop)
    (parent : ∀ plan verb, holds (.andThen plan verb) → holds plan)
    (sides : ∀ left right type keys suffixes, holds (.join left right type keys suffixes) →
      holds left ∧ holds right) {plan : Plan} (h : holds plan)
    {test : Plan × Plan × List (String × String)} (htest : test ∈ plan.tests) :
    holds test.1 ∧ holds test.2.1 := by
  induction plan with
  | table name columns => cases htest
  | andThen plan verb ih => exact ih (parent plan verb h) htest
  | join left right type keys suffixes ihleft ihright =>
    have hsides := sides left right type keys suffixes h
    rw [tests, List.mem_append, List.mem_append] at htest
    rcases htest with hhere | hleft | hright
    · split at hhere
      · rw [List.mem_singleton.1 hhere]
        exact hsides
      · cases hhere
    · exact ihleft hsides.1 hleft
    · exact ihright hsides.2 hright

end Plan

/-- The statement is somewhere in the statement that a query is compiled to, or in the condition of
a semi or an anti join of the query. -/
def Query.HoldsStatement (target : Target) (query : Query) (select statement : Sql.Select) :
    Prop :=
  statement ∈ Sql.statementsOf select ∨
    ∃ left test, query.plan.Tests target left test ∧ statement ∈ Sql.statementsOf test

end SqlVerbs
