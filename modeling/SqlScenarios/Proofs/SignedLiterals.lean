import SqlScenarios.Proofs.EnclosedJoins
import SqlScenarios.Proofs.GroupConditions

/-!
# Signs before literals

A condition on groups should compare with a literal or with a number that has a sign.  Of an
expression with a sign it is only asked that a literal follows the sign, though, so a comparison
with a text, a truth value, a missing value or a placeholder that has a sign is recorded as well.
Everything else that is recorded is as it should be, so nothing is recorded wrongly exactly if no
leaf makes such a comparison.
-/

namespace SqlScenarios

namespace Sql

/-- Whether an operator before its operand is a sign. -/
def UnaryOp.isSign : UnaryOp → Bool
  | .minus | .plus => true
  | .not | .other _ => false

/-- Whether a literal is a number. -/
def Literal.isNumber : Literal → Bool
  | .number _ _ => true
  | .string _ _ | .boolean _ | .null | .placeholder _ => false

namespace Expr

variable {expr leaf : Expr} {recorded : HavingCondition}

/-! ## Constants -/

/-- An expression is a literal, or one sign before a literal of a kind that takes signs.  There may
be parentheses around the expression and around what the sign stands before. -/
inductive IsConstant (takesSign : Literal → Prop) (expr : Expr) : Prop where
  | bare {value : Literal} : expr.unwrapped = .literal value → IsConstant takesSign expr
  | signed {sign : UnaryOp} {operand : Expr} {value : Literal} :
      sign.isSign = true → expr.unwrapped = .unary sign operand →
      operand.unwrapped = .literal value → takesSign value → IsConstant takesSign expr

/-- A literal, or a number with a sign. -/
def IsProperConstant : Expr → Prop := IsConstant fun value => value.isNumber = true

/-- A sign before a literal that is not a number. -/
def IsSignedOther (expr : Expr) : Prop :=
  ∃ sign operand value, UnaryOp.isSign sign = true ∧ expr.unwrapped = .unary sign operand ∧
    operand.unwrapped = .literal value ∧ Literal.isNumber value = false

theorem isValue_iff : expr.isValue = true ↔ ∃ value, expr.unwrapped = .literal value := by
  rw [isValue]
  split
  next value bare => exact ⟨fun _ => ⟨value, bare⟩, fun _ => rfl⟩
  next noLiteral =>
    constructor
    · intro never
      cases never
    · intro found
      rcases found with ⟨value, bare⟩
      exact absurd bare (noLiteral value)

/-- An operand with a sign is accepted exactly if it is a literal. -/
theorem isLiteral_of_signed {sign : UnaryOp} {operand : Expr} (isSign : sign.isSign = true)
    (bare : expr.unwrapped = .unary sign operand) : expr.isLiteral = operand.isValue := by
  rw [isLiteral, bare]
  cases sign with
  | minus | plus => rfl
  | not | other _ => cases isSign

/-- The accepted expressions are the constants, where any literal takes a sign. -/
theorem isLiteral_iff_isConstant : expr.isLiteral = true ↔ expr.IsConstant fun _ => True := by
  constructor
  · intro accepted
    rw [isLiteral] at accepted
    split at accepted
    next value bare => exact .bare bare
    next operand bare =>
      rcases isValue_iff.mp accepted with ⟨value, literal⟩
      exact .signed rfl bare literal trivial
    next operand bare =>
      rcases isValue_iff.mp accepted with ⟨value, literal⟩
      exact .signed rfl bare literal trivial
    next => cases accepted
  · intro constant
    cases constant with
    | bare literal => rw [isLiteral, literal]
    | signed isSign bare literal =>
        rw [isLiteral_of_signed isSign bare]
        exact isValue_iff.mpr ⟨_, literal⟩

/-- An accepted expression is a proper constant, unless a sign stands before something other than
a number. -/
theorem isLiteral_iff_proper_or_signedOther :
    expr.isLiteral = true ↔ expr.IsProperConstant ∨ expr.IsSignedOther := by
  rw [isLiteral_iff_isConstant]
  constructor
  · intro constant
    cases constant with
    | bare literal => exact .inl (.bare literal)
    | @signed sign operand value isSign bare literal =>
        cases kind : value.isNumber with
        | true => exact .inl (.signed isSign bare literal kind)
        | false => exact .inr ⟨sign, operand, value, isSign, bare, literal, kind⟩
  · intro either
    rcases either with proper | ⟨sign, operand, value, isSign, bare, literal, -⟩
    · cases proper with
      | bare literal => exact .bare literal
      | signed isSign bare literal => exact .signed isSign bare literal trivial
    · exact .signed isSign bare literal trivial

/-- No proper constant is a sign before something other than a number. -/
theorem IsProperConstant.not_signedOther (proper : expr.IsProperConstant) :
    ¬ expr.IsSignedOther := by
  intro other
  rcases other with ⟨sign, operand, value, -, bare, literal, noNumber⟩
  cases proper with
  | bare bareLiteral => cases bareLiteral.symm.trans bare
  | signed _ bareSigned signedLiteral isNumber =>
      cases bareSigned.symm.trans bare
      cases signedLiteral.symm.trans literal
      cases isNumber.symm.trans noNumber

/-- The accepted expressions are the proper constants, if signs before other literals are left
out. -/
theorem isProperConstant_iff :
    expr.IsProperConstant ↔ expr.isLiteral = true ∧ ¬ expr.IsSignedOther := by
  constructor
  · intro proper
    exact ⟨isLiteral_iff_proper_or_signedOther.mpr (.inl proper), proper.not_signedOther⟩
  · intro accepted
    exact (isLiteral_iff_proper_or_signedOther.mp accepted.1).resolve_right accepted.2

/-! ## Comparisons with constants -/

/-- A leaf is recorded, and the right side of its comparison is one of some expressions. -/
def ComparesWith (allowed : Expr → Prop) (leaf : Expr) (recorded : HavingCondition) : Prop :=
  leaf.ComparesCall recorded ∧
    ∃ left op right, leaf.unwrapped = .binary left op right ∧ allowed right

/-- The right side of a recorded comparison is accepted. -/
theorem ComparesCall.comparesWith (comparison : leaf.ComparesCall recorded) :
    leaf.ComparesWith (fun right => right.isLiteral = true) recorded := by
  cases comparison with
  | intro bare compares called literal =>
      exact ⟨.intro bare compares called literal, _, _, _, bare, literal⟩

/-- What is recorded compares with a proper constant, or with a sign before something other than
a number. -/
theorem comparesCall_iff : leaf.ComparesCall recorded ↔
    leaf.ComparesWith IsProperConstant recorded ∨ leaf.ComparesWith IsSignedOther recorded := by
  constructor
  · intro comparison
    rcases comparison.comparesWith with ⟨-, left, op, right, bare, literal⟩
    rcases isLiteral_iff_proper_or_signedOther.mp literal with proper | other
    · exact .inl ⟨comparison, left, op, right, bare, proper⟩
    · exact .inr ⟨comparison, left, op, right, bare, other⟩
  · intro either
    rcases either with proper | other
    · exact proper.1
    · exact other.1

/-- No leaf compares with both. -/
theorem ComparesWith.not_signedOther (proper : leaf.ComparesWith IsProperConstant recorded)
    (other : HavingCondition) : ¬ leaf.ComparesWith IsSignedOther other := by
  intro signed
  rcases proper with ⟨-, left, op, right, bare, proper⟩
  rcases signed with ⟨-, otherLeft, otherOp, otherRight, otherBare, signed⟩
  cases bare.symm.trans otherBare
  exact proper.not_signedOther signed

/-! ## The conditions that should be recorded -/

/-- Whether an expression is a sign before a literal that is not a number. -/
def isSignedOther (expr : Expr) : Bool :=
  match expr.unwrapped with
  | .unary sign operand =>
      match operand.unwrapped with
      | .literal value => sign.isSign && !value.isNumber
      | _ => false
  | _ => false

theorem isSignedOther_iff : expr.isSignedOther = true ↔ expr.IsSignedOther := by
  rw [isSignedOther]
  constructor
  · intro signed
    split at signed
    next sign operand bare =>
      split at signed
      next value literal =>
        rw [Bool.and_eq_true, Bool.not_eq_true'] at signed
        exact ⟨sign, operand, value, signed.1, bare, literal, signed.2⟩
      next => cases signed
    next => cases signed
  · intro signed
    rcases signed with ⟨sign, operand, value, isSign, bare, literal, noNumber⟩
    simp only [bare, literal, isSign, noNumber, Bool.not_false, Bool.and_self]

/-- The condition on groups that a leaf should be recorded as: none, if it compares with a sign
before something other than a number. -/
def properHaving? (leaf : Expr) : Option HavingCondition :=
  match leaf.unwrapped with
  | .binary _ _ right => if right.isSignedOther then none else leaf.having?
  | _ => none

theorem properHaving?_of_binary {left right : Expr} {op : BinaryOp}
    (bare : leaf.unwrapped = .binary left op right) :
    leaf.properHaving? = if right.isSignedOther then none else leaf.having? := by
  rw [properHaving?, bare]

theorem properHaving?_eq_some_iff :
    leaf.properHaving? = some recorded ↔ leaf.ComparesWith IsProperConstant recorded := by
  constructor
  · intro found
    rw [properHaving?] at found
    split at found
    next left op right bare =>
      split at found
      next => cases found
      next notSigned =>
        rcases comparesCall_iff.mp (having?_eq_some_iff.mp found) with proper | other
        · exact proper
        · rcases other with ⟨-, otherLeft, otherOp, otherRight, otherBare, signed⟩
          cases bare.symm.trans otherBare
          exact absurd (isSignedOther_iff.mpr signed) notSigned
    next => cases found
  · intro proper
    rcases proper with ⟨comparison, left, op, right, bare, constant⟩
    rw [properHaving?_of_binary bare, if_neg]
    · exact having?_eq_some_iff.mpr comparison
    · intro signed
      exact constant.not_signedOther (isSignedOther_iff.mp signed)

/-- A leaf is recorded as it should be, unless it compares with a sign before something other than
a number. -/
theorem having?_eq_properHaving?_iff :
    leaf.having? = leaf.properHaving? ↔ ∀ recorded, ¬ leaf.ComparesWith IsSignedOther recorded := by
  constructor
  · intro same recorded other
    have found : leaf.properHaving? = some recorded := by
      rw [← same]
      exact having?_eq_some_iff.mpr other.1
    exact (properHaving?_eq_some_iff.mp found).not_signedOther recorded other
  · intro noOther
    apply Option.ext
    intro recorded
    rw [having?_eq_some_iff, properHaving?_eq_some_iff, comparesCall_iff]
    exact or_iff_left (noOther recorded)

end Expr

end Sql

/-! ## What is recorded wrongly -/

/-- A function that gives some of the values of another one selects a part of its list. -/
theorem filterMap_sublist_of_imp {α β : Type} {part whole : α → Option β}
    (included : ∀ item value, part item = some value → whole item = some value)
    (items : List α) : (items.filterMap part).Sublist (items.filterMap whole) := by
  induction items with
  | nil => exact .slnil
  | cons item items ih =>
      cases found : part item with
      | none =>
          rw [List.filterMap_cons_none found]
          exact ih.trans (List.Sublist.filterMap whole (List.sublist_cons_self item items))
      | some value =>
          rw [List.filterMap_cons_some found,
            List.filterMap_cons_some (included item value found)]
          exact ih.cons_cons value

/-- The part is the whole list exactly if the functions agree on every item. -/
theorem filterMap_eq_filterMap_iff {α β : Type} {part whole : α → Option β}
    (included : ∀ item value, part item = some value → whole item = some value)
    (items : List α) :
    items.filterMap whole = items.filterMap part ↔ ∀ item ∈ items, whole item = part item := by
  constructor
  · intro same
    induction items with
    | nil => exact List.forall_mem_nil _
    | cons item items ih =>
        have rest := (filterMap_sublist_of_imp included items).length_le
        rw [List.forall_mem_cons]
        cases found : part item with
        | some value =>
            have foundWhole := included item value found
            rw [List.filterMap_cons_some found, List.filterMap_cons_some foundWhole] at same
            exact ⟨foundWhole, ih (List.cons.inj same).2⟩
        | none =>
            cases foundWhole : whole item with
            | none =>
                rw [List.filterMap_cons_none found, List.filterMap_cons_none foundWhole] at same
                exact ⟨rfl, ih same⟩
            | some value =>
                -- The whole list has one item more than the part, and the parts of the rest
                -- cannot make up for it.
                have lengths := congrArg List.length same
                rw [List.filterMap_cons_none found, List.filterMap_cons_some foundWhole,
                  List.length_cons] at lengths
                omega
  · intro agree
    exact List.filterMap_congr agree

open Sql

/-- An expression is accepted as a constant if it is a literal or one sign before any literal.
This is right for an expression unless it is a sign before something other than a number, and what
a condition on groups records is right unless one of its leaves compares with such an
expression. -/
theorem addHavings_proper_iff (expr condition : Expr) (initial : List HavingCondition) :
    (expr.isLiteral = true ↔ expr.IsConstant fun _ => True) ∧
    ((expr.isLiteral = true ↔ expr.IsProperConstant) ↔ ¬ expr.IsSignedOther) ∧
    (∀ (leaf : Expr) (recorded : HavingCondition), leaf.properHaving? = some recorded ↔
      leaf.ComparesWith Expr.IsProperConstant recorded) ∧
    ((addHavings condition).collectFrom initial =
        (initial ++ condition.leaves.filterMap Expr.properHaving?, .ok ()) ↔
      ∀ leaf ∈ condition.leaves, ∀ recorded, ¬ leaf.ComparesWith Expr.IsSignedOther recorded) := by
  refine ⟨Expr.isLiteral_iff_isConstant, ?_, ?_, ?_⟩
  · rw [Expr.isProperConstant_iff]
    constructor
    · intro right signed
      exact (right.mp (Expr.isLiteral_iff_proper_or_signedOther.mpr (.inr signed))).2 signed
    · intro notSigned
      exact (and_iff_left notSigned).symm
  · intro leaf recorded
    exact Expr.properHaving?_eq_some_iff
  · have included : ∀ (leaf : Expr) (recorded : HavingCondition),
        leaf.properHaving? = some recorded → leaf.having? = some recorded := by
      intro leaf recorded found
      exact Expr.having?_eq_some_iff.mpr (Expr.properHaving?_eq_some_iff.mp found).1
    rw [collectFrom_addHavings, Prod.mk.injEq, and_iff_left rfl, List.append_cancel_left_eq,
      filterMap_eq_filterMap_iff included]
    simp only [Expr.having?_eq_properHaving?_iff]

/-- The statement `SELECT ... FROM t HAVING COUNT(id) > -'a'` compares with a text that has a
sign. -/
theorem signed_text_recorded :
    let signedText : Expr := .unary .minus (.literal (.string .single "a"))
    let block : Block := { selectFrom [] ⟨namedTable "t", []⟩ with
      having := some (.binary (callOn "COUNT" "id") .greater signedText) }
    signedText.isLiteral = true ∧ ¬ signedText.IsProperConstant ∧
    QueryModel.ofStatement (.query ⟨false, [], .block block, []⟩) =
      .ok { havingConditions := [⟨"COUNT", "id", .greater, "-'a'"⟩] } := by
  intro signedText block
  refine ⟨rfl, ?_, by rfl⟩
  intro constant
  cases constant with
  | bare literal => cases literal
  | signed _ bare literal isNumber =>
      cases bare
      cases literal
      cases isNumber

end SqlScenarios
