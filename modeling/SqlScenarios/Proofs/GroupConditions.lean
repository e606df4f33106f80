import Mathlib.Data.Option.Basic
import SqlScenarios.Proofs.Regrouping

/-!
# Conditions on groups

A condition on groups is recorded for each leaf that compares a call with a literal, provided
that the call has an argument.  The leaf may compare with `>` or with `=`, the call has to come
first, and parentheses around the leaf or around either side do not matter.  All other leaves are
passed over, and none is refused.
-/

namespace SqlScenarios

open Sql

/-! ## Comparisons of a call with a literal -/

/-- The operator on groups that an operator between two operands is, if it is one. -/
def Sql.BinaryOp.groupOperator? : BinaryOp → Option HavingOperator
  | .greater => some .greater
  | .equal => some .equal
  | .and | .or | .other _ => none

/-- An argument as it is printed, without its label. -/
def Sql.Argument.text : Argument → String
  | .value _ expr => expr.toSql
  | .wildcard text => text

/-- A leaf compares a call that has an argument with a literal.  What is recorded of it is the
name of the function in upper case, the first argument, the operator and the literal. -/
inductive Sql.Expr.ComparesCall (leaf : Expr) : HavingCondition → Prop where
  | intro {left right : Expr} {op : BinaryOp} {operator : HavingOperator}
      {function : List Ident} {parameters clauses suffix : List Fragment} {quantifier : String}
      {first : Argument} {others : List Argument} :
      leaf.unwrapped = .binary left op right → op.groupOperator? = some operator →
      left.unwrapped =
        .call function parameters (.list quantifier (first :: others) clauses) suffix →
      right.isLiteral = true →
      ComparesCall leaf
        ⟨Text.uppercase (nameToSql function), first.text, operator, right.toSql⟩

namespace Sql

/-- An expression is a call if it is one without the parentheses around it. -/
theorem Expr.call?_eq_some_iff {expr : Expr} {call : Call} :
    expr.call? = some call ↔
      ∃ parameters suffix,
        expr.unwrapped = .call call.function parameters call.arguments suffix := by
  rw [call?]
  constructor
  · intro found
    split at found
    next function parameters arguments suffix bare =>
      cases found
      exact ⟨parameters, suffix, bare⟩
    next => cases found
  · intro found
    rcases found with ⟨parameters, suffix, bare⟩
    simp only [bare]

/-- A call has a first argument if it is applied to a list that is not empty. -/
theorem Call.firstArgument?_eq_some_iff {call : Call} {text : String} :
    call.firstArgument? = some text ↔
      ∃ quantifier first others clauses,
        call.arguments = .list quantifier (first :: others) clauses ∧ first.text = text := by
  rw [firstArgument?]
  constructor
  · intro found
    split at found
    next quantifier label expr others clauses listed =>
      cases found
      exact ⟨quantifier, .value label expr, others, clauses, listed, rfl⟩
    next quantifier star others clauses listed =>
      exact ⟨quantifier, .wildcard star, others, clauses, listed, Option.some.inj found⟩
    next => cases found
  · intro found
    rcases found with ⟨quantifier, first, others, clauses, listed, rfl⟩
    cases first <;> simp only [listed, Argument.text]

end Sql

theorem havingCondition?_eq_some_iff {operator : HavingOperator} {left right : Expr}
    {recorded : HavingCondition} :
    havingCondition? operator left right = some recorded ↔
      ∃ call column, left.call? = some call ∧ right.isLiteral = true ∧
        call.firstArgument? = some column ∧
        ⟨call.functionName, column, operator, right.toSql⟩ = recorded := by
  simp only [havingCondition?, guard, Option.bind_eq_bind, Option.bind_eq_some_iff, Option.pure_def,
    Option.some.injEq]
  constructor
  · intro found
    rcases found with ⟨call, called, passed, literal, column, first, same⟩
    cases isLiteral : right.isLiteral with
    | true => exact ⟨call, column, called, rfl, first, same⟩
    | false => simp [isLiteral] at literal
  · intro found
    rcases found with ⟨call, column, called, literal, first, same⟩
    exact ⟨call, called, (), by simp [literal], column, first, same⟩

namespace Sql.Expr

/-- A leaf is recorded under the operator that its own operator is on groups. -/
theorem having?_eq_some_iff_exists {leaf : Expr} {recorded : HavingCondition} :
    leaf.having? = some recorded ↔
      ∃ left op right operator, leaf.unwrapped = .binary left op right ∧
        op.groupOperator? = some operator ∧
        havingCondition? operator left right = some recorded := by
  rw [having?]
  constructor
  · intro found
    split at found
    next left right bare => exact ⟨left, .greater, right, .greater, bare, rfl, found⟩
    next left right bare => exact ⟨left, .equal, right, .equal, bare, rfl, found⟩
    next => cases found
  · intro found
    rcases found with ⟨left, op, right, operator, bare, compares, found⟩
    rw [bare]
    cases op with
    | greater | equal =>
        cases compares
        exact found
    | and | or | other _ => cases compares

/-- The recorded leaves are exactly the comparisons of a call with a literal. -/
theorem having?_eq_some_iff {leaf : Expr} {recorded : HavingCondition} :
    leaf.having? = some recorded ↔ leaf.ComparesCall recorded := by
  rw [having?_eq_some_iff_exists]
  constructor
  · intro found
    rcases found with ⟨left, op, right, operator, bare, compares, found⟩
    rw [havingCondition?_eq_some_iff] at found
    rcases found with ⟨call, column, called, literal, first, rfl⟩
    rw [call?_eq_some_iff] at called
    rcases called with ⟨parameters, suffix, called⟩
    rw [Call.firstArgument?_eq_some_iff] at first
    rcases first with ⟨quantifier, argument, others, clauses, listed, rfl⟩
    rw [listed] at called
    exact .intro bare compares called literal
  · intro comparison
    cases comparison with
    | @intro left right op operator function parameters clauses suffix quantifier first others
        bare compares called literal =>
        refine ⟨left, op, right, operator, bare, compares, ?_⟩
        rw [havingCondition?_eq_some_iff]
        refine ⟨⟨function, .list quantifier (first :: others) clauses⟩, first.text, ?_, literal, ?_,
          rfl⟩
        · rw [call?_eq_some_iff]
          exact ⟨parameters, suffix, called⟩
        · rw [Call.firstArgument?_eq_some_iff]
          exact ⟨quantifier, first, others, clauses, rfl, rfl⟩

end Sql.Expr

/-! ## Regrouping a condition on groups -/

/-- A condition on groups adds what is recorded for each of its leaves, in the order of the leaves,
behind what is there already, and is never refused.  What is recorded for a leaf is that it
compares a call with a literal, and nothing if it does not.  So what a condition adds is the same
for every regrouping of it. -/
theorem addHavings_leafwise :
    (∀ (condition : Expr) (initial : List HavingCondition),
      (addHavings condition).collectFrom initial =
        (initial ++ condition.leaves.filterMap Expr.having?, .ok ())) ∧
    (∀ (leaf : Expr) (recorded : HavingCondition),
      leaf.having? = some recorded ↔ leaf.ComparesCall recorded) ∧
    (∀ (condition regrouped : Expr), Expr.Regrouped condition regrouped →
      ∀ initial, (addHavings regrouped).collectFrom initial =
        (addHavings condition).collectFrom initial) := by
  refine ⟨?_, ?_, ?_⟩
  · intro condition initial
    exact collectFrom_addHavings condition initial
  · intro leaf recorded
    exact Expr.having?_eq_some_iff
  · intro condition regrouped change initial
    rw [collectFrom_addHavings, collectFrom_addHavings, change.leaves_eq]

/-- The call of a function with a single argument. -/
def callOn (function column : String) : Expr :=
  .call [⟨function, none⟩] [] (.list "" [.value [] (.name [⟨column, none⟩])] []) []

/-- The condition `(sum(n) > -1 OR NOW() = 1) AND 2 = COUNT(m) AND (Max(m)) = 'x'`. -/
def groupCondition : Expr :=
  .binary
    (.binary
      (.paren (.binary
        (.binary (callOn "sum" "n") .greater (.unary .minus (.literal (.number "1" false))))
        .or
        (.binary (.call [⟨"NOW", none⟩] [] (.list "" [] []) []) .equal
          (.literal (.number "1" false)))))
      .and
      (.binary (.literal (.number "2" false)) .equal (callOn "COUNT" "m")))
    .and
    (.binary (.paren (callOn "Max" "m")) .equal (.literal (.string .single "x")))

/-- The condition `sum(n) > -1 OR (NOW() = 1 OR (2 = COUNT(m) AND ((Max(m)) = 'x')))`. -/
def groupConditionRegrouped : Expr :=
  .binary
    (.binary (callOn "sum" "n") .greater (.unary .minus (.literal (.number "1" false))))
    .or
    (.paren (.binary
      (.binary (.call [⟨"NOW", none⟩] [] (.list "" [] []) []) .equal
        (.literal (.number "1" false)))
      .or
      (.paren (.binary
        (.binary (.literal (.number "2" false)) .equal (callOn "COUNT" "m"))
        .and
        (.paren (.binary (.paren (callOn "Max" "m")) .equal
          (.literal (.string .single "x"))))))))

theorem addHavings_leafwise_mixed :
    Expr.Regrouped groupCondition groupConditionRegrouped ∧
      (addHavings groupConditionRegrouped).collectFrom [⟨"MIN", "k", .equal, "0"⟩] =
        (addHavings groupCondition).collectFrom [⟨"MIN", "k", .equal, "0"⟩] ∧
      (addHavings groupCondition).collectFrom [⟨"MIN", "k", .equal, "0"⟩] =
        ([⟨"MIN", "k", .equal, "0"⟩, ⟨"SUM", "n", .greater, "-1"⟩, ⟨"MAX", "m", .equal, "'x'"⟩],
          .ok ()) := by
  have change : Expr.Regrouped groupCondition groupConditionRegrouped :=
    Expr.regrouped_iff_leaves_eq.2 rfl
  refine ⟨change, ?_, ?_⟩
  · exact addHavings_leafwise.2.2 groupCondition groupConditionRegrouped change _
  · rw [addHavings_leafwise.1]
    rfl

end SqlScenarios
