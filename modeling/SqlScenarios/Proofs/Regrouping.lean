import Mathlib.Logic.Relation
import SqlScenarios.Proofs.Leaves

/-!
# Regrouping a condition

Which filters a condition gives depends on the sequence of its leaves and on nothing else.
Regrouping exchanges the two connectives, moves the parentheses of a chain of connectives, or
adds and removes parentheses, anywhere above the leaves.  Two conditions have the same
leaves exactly if one can be regrouped into the other, so regrouping keeps the filters.
-/

namespace SqlScenarios

namespace Sql

/-- Whether an operator connects conditions. -/
def BinaryOp.isConnective : BinaryOp → Bool
  | .and | .or => true
  | _ => false

namespace Expr

/-- A condition with a connective has the leaves of its operands. -/
theorem leaves_binary {op : BinaryOp} (connective : op.isConnective) (left right : Expr) :
    (binary left op right).leaves = left.leaves ++ right.leaves := by
  cases op with
  | and | or => rw [leaves]
  | equal | greater | other _ => contradiction

/-- One change of the grouping of a condition, at any depth above its leaves. -/
inductive Regroups : Expr → Expr → Prop where
  | exchange {op other : BinaryOp} (left right : Expr) :
      op.isConnective → other.isConnective →
      Regroups (binary left op right) (binary left other right)
  | reassociate {op other : BinaryOp} (first second third : Expr) :
      op.isConnective → other.isConnective →
      Regroups (binary (binary first op second) other third)
        (binary first op (binary second other third))
  | unwrap (inner : Expr) : Regroups (paren inner) inner
  | inParen {inner inner' : Expr} :
      Regroups inner inner' → Regroups (paren inner) (paren inner')
  | inLeft {op : BinaryOp} {left left' : Expr} (right : Expr) :
      op.isConnective → Regroups left left' →
      Regroups (binary left op right) (binary left' op right)
  | inRight {op : BinaryOp} (left : Expr) {right right' : Expr} :
      op.isConnective → Regroups right right' →
      Regroups (binary left op right) (binary left op right')

/-- Any number of changes of the grouping, each in either direction. -/
def Regrouped : Expr → Expr → Prop := Relation.EqvGen Regroups

/-- A change of the grouping keeps the leaves. -/
theorem Regroups.leaves_eq {condition changed : Expr} (change : Regroups condition changed) :
    condition.leaves = changed.leaves := by
  induction change with
  | exchange left right connective other =>
      rw [leaves_binary connective, leaves_binary other]
  | reassociate first second third connective other =>
      simp only [leaves_binary connective, leaves_binary other, List.append_assoc]
  | unwrap inner => rw [leaves]
  | inParen _ ih =>
      rw [leaves, leaves]
      exact ih
  | inLeft right connective _ ih => rw [leaves_binary connective, leaves_binary connective, ih]
  | inRight left connective _ ih => rw [leaves_binary connective, leaves_binary connective, ih]

/-- Regrouping keeps the leaves. -/
theorem Regrouped.leaves_eq {condition changed : Expr} (change : Regrouped condition changed) :
    condition.leaves = changed.leaves := by
  induction change with
  | rel _ _ step => exact step.leaves_eq
  | refl => rfl
  | symm _ _ _ ih => exact ih.symm
  | trans _ _ _ _ _ first second => exact first.trans second

/-! ## Conditions with the same leaves -/

namespace Regrouped

/-- Regrouping an operand regroups the condition that it is an operand of. -/
theorem inOperand {enclose : Expr → Expr}
    (keeps : ∀ {operand changed : Expr}, Regroups operand changed →
      Regroups (enclose operand) (enclose changed))
    {operand changed : Expr} (change : Regrouped operand changed) :
    Regrouped (enclose operand) (enclose changed) := by
  induction change with
  | rel _ _ step => exact .rel _ _ (keeps step)
  | refl => exact .refl _
  | symm _ _ _ ih => exact .symm _ _ ih
  | trans _ _ _ _ _ first second => exact .trans _ _ _ first second

end Regrouped

/-- Conditions that all have to hold, as a chain without parentheses. -/
def chain : Expr → List Expr → Expr
  | first, [] => first
  | first, next :: rest => binary first .and (chain next rest)

/-- Two chains with a connective between them can be regrouped into one. -/
theorem regrouped_chain_append {op : BinaryOp} (connective : op.isConnective)
    (first next : Expr) (rest more : List Expr) :
    Regrouped (binary (chain first rest) op (chain next more))
      (chain first (rest ++ next :: more)) := by
  induction rest generalizing first with
  | nil => exact .rel _ _ (.exchange _ _ connective rfl)
  | cons second rest ih =>
      have moved : Regrouped
          (binary (binary first .and (chain second rest)) op (chain next more))
          (binary first .and (binary (chain second rest) op (chain next more))) :=
        .rel _ _ (.reassociate _ _ _ rfl connective)
      exact .trans _ _ _ moved ((ih second).inOperand (.inRight first rfl))

/-- A condition can be regrouped into the chain of its leaves. -/
theorem exists_regrouped_chain (condition : Expr) :
    ∃ first rest, condition.leaves = first :: rest ∧
      Regrouped condition (chain first rest) := by
  have connect {op : BinaryOp} (connective : op.isConnective) {left right : Expr}
      (leftChain : ∃ first rest, left.leaves = first :: rest ∧
        Regrouped left (chain first rest))
      (rightChain : ∃ first rest, right.leaves = first :: rest ∧
        Regrouped right (chain first rest)) :
      ∃ first rest, left.leaves ++ right.leaves = first :: rest ∧
        Regrouped (binary left op right) (chain first rest) := by
    obtain ⟨first, rest, leftLeaves, leftChange⟩ := leftChain
    obtain ⟨next, more, rightLeaves, rightChange⟩ := rightChain
    refine ⟨first, rest ++ next :: more, by rw [leftLeaves, rightLeaves]; rfl, ?_⟩
    have operands : Regrouped (binary left op right)
        (binary (chain first rest) op (chain next more)) :=
      .trans _ _ _ (leftChange.inOperand (.inLeft right connective))
        (rightChange.inOperand (.inRight _ connective))
    exact .trans _ _ _ operands (regrouped_chain_append connective first next rest more)
  fun_induction leaves condition with
  | case1 inner ih =>
      obtain ⟨first, rest, innerLeaves, change⟩ := ih
      exact ⟨first, rest, innerLeaves, .trans _ _ _ (.rel _ _ (.unwrap inner)) change⟩
  | case2 left right leftIH rightIH => exact connect rfl leftIH rightIH
  | case3 left right leftIH rightIH => exact connect rfl leftIH rightIH
  | case4 leaf => exact ⟨leaf, [], rfl, .refl leaf⟩

/-- Two conditions can be regrouped into each other exactly if they have the same leaves in
the same order. -/
theorem regrouped_iff_leaves_eq {left right : Expr} :
    Regrouped left right ↔ left.leaves = right.leaves := by
  constructor
  · exact Regrouped.leaves_eq
  · intro same
    obtain ⟨first, rest, leftLeaves, leftChange⟩ := exists_regrouped_chain left
    obtain ⟨next, more, rightLeaves, rightChange⟩ := exists_regrouped_chain right
    rw [leftLeaves, rightLeaves] at same
    cases same
    exact .trans _ _ _ leftChange (.symm _ _ rightChange)

end Expr

end Sql

open Sql

/-- A condition adds one filter for each leaf that is a comparison, range or membership, in the
order of the leaves, and nothing for any other leaf.  So what it adds, and whether it is
refused, is the same for every regrouping of it. -/
theorem addFilters_leafwise :
    (∀ (condition : Expr) (initial : List FilterCondition),
      (∀ leaf ∈ condition.leaves, leaf.emptyList? = none) →
      (addFilters condition).collectFrom initial =
        (initial ++ condition.leaves.filterMap Expr.filter?, .ok ())) ∧
    (∀ (condition regrouped : Expr), Expr.Regrouped condition regrouped →
      ∀ initial, (addFilters regrouped).collectFrom initial =
        (addFilters condition).collectFrom initial) := by
  constructor
  · intro condition initial allowed
    have none_refused : condition.leaves.findSome? Expr.emptyList? = none :=
      List.findSome?_eq_none_iff.2 allowed
    rw [collectFrom_addFilters, Collector.takeWhile_eq_self_of_allowed none_refused,
      none_refused]
  · intro condition regrouped change initial
    rw [collectFrom_addFilters, collectFrom_addFilters, change.leaves_eq]

/-- The condition `(a = 1 OR NOT b = 2) AND c BETWEEN 1 AND 2`. -/
def mixedCondition : Expr :=
  .binary
    (.paren (.binary (.binary (.name [⟨"a", none⟩]) .equal (.literal (.number "1" false))) .or
      (.unary .not (.binary (.name [⟨"b", none⟩]) .equal (.literal (.number "2" false))))))
    .and
    (.between (.name [⟨"c", none⟩]) false (.literal (.number "1" false))
      (.literal (.number "2" false)))

/-- The condition `a = 1 AND (NOT b = 2 OR (c BETWEEN 1 AND 2))`. -/
def mixedConditionRegrouped : Expr :=
  .binary (.binary (.name [⟨"a", none⟩]) .equal (.literal (.number "1" false))) .and
    (.paren (.binary
      (.unary .not (.binary (.name [⟨"b", none⟩]) .equal (.literal (.number "2" false)))) .or
      (.paren (.between (.name [⟨"c", none⟩]) false (.literal (.number "1" false))
        (.literal (.number "2" false))))))

theorem addFilters_leafwise_mixed :
    (∀ leaf ∈ mixedCondition.leaves, leaf.emptyList? = none) ∧
    (addFilters mixedCondition).collectFrom [] =
      ([⟨"a", .equal, ["1"]⟩, ⟨"c", .between, ["1", "2"]⟩], .ok ()) ∧
    Expr.Regrouped mixedCondition mixedConditionRegrouped ∧
    (addFilters mixedConditionRegrouped).collectFrom [] =
      (addFilters mixedCondition).collectFrom [] := by
  have allowed : ∀ leaf ∈ mixedCondition.leaves, leaf.emptyList? = none := by decide
  have change : Expr.Regrouped mixedCondition mixedConditionRegrouped :=
    Expr.regrouped_iff_leaves_eq.2 rfl
  exact ⟨allowed, addFilters_leafwise.1 mixedCondition [] allowed, change,
    addFilters_leafwise.2 mixedCondition mixedConditionRegrouped change []⟩

end SqlScenarios
