import SqlScenarios.Proofs.Refusals

/-!
# Conditions that share one list

The filters of several conditions can be collected in one list.  A condition only adds to the end
of the list, and what it adds does not depend on what is there already, also if it is refused: then
it has added the filters of the leaves before the first empty list.  So conditions that are taken
one after the other each add what they add to a list of their own.
-/

namespace SqlScenarios

open Sql

/-! ## Steps that only add -/

namespace Collector

variable {α β : Type}

/-- Whether a step ends every list with the same conditions, and always has the same outcome. -/
def Adds (collector : Collector α Unit) (added : List α) (outcome : Except ShapeFault Unit) :
    Prop :=
  ∀ initial, collector.collectFrom initial = (initial ++ added, outcome)

/-- What a step adds is what it makes of the empty list. -/
theorem Adds.collectFrom_nil {collector : Collector α Unit} {added : List α}
    {outcome : Except ShapeFault Unit} (adds : collector.Adds added outcome) :
    collector.collectFrom [] = (added, outcome) := by
  rw [adds, List.nil_append]

/-- The steps for some items, taken one after the other on one list: the list after each step, and
how the step ended.  What a failed step has added stays, and the next step is taken all the
same. -/
def runEach (step : β → Collector α Unit) : List α → List β → List (List α × Except ShapeFault Unit)
  | _, [] => []
  | conditions, item :: items =>
      let reached := (step item).collectFrom conditions
      reached :: runEach step reached.1 items

/-- After each step, the list holds what all the steps so far add to a list of their own. -/
theorem getElem?_runEach {step : β → Collector α Unit} {added : β → List α}
    {outcome : β → Except ShapeFault Unit}
    (adds : ∀ item, (step item).Adds (added item) (outcome item))
    (initial : List α) (before : List β) (item : β) (after : List β) :
    (runEach step initial (before ++ item :: after))[before.length]? =
      some (initial ++ before.flatMap added ++ added item, outcome item) := by
  induction before generalizing initial with
  | nil =>
      rw [List.nil_append, runEach, adds item initial, List.flatMap_nil, List.append_nil]
      rfl
  | cons first before ih =>
      rw [List.cons_append, runEach, adds first initial, List.length_cons,
        List.getElem?_cons_succ, ih, List.flatMap_cons, List.append_assoc initial (added first)]

end Collector

/-! ## What a condition adds -/

/-- What a condition adds to a list, and how it ends: it adds the filters of all its leaves, or, if
some leaf asks for membership in an empty list, those of the leaves before the first such leaf, and
then reports what this leaf compares. -/
inductive Sql.Expr.Collects (condition : Expr) :
    List FilterCondition → Except ShapeFault Unit → Prop where
  | whole :
      (∀ leaf ∈ condition.leaves, ¬ leaf.IsEmptyList) →
      Collects condition (condition.leaves.filterMap Expr.filter?) (.ok ())
  | cut {before after : List Expr} {leaf subject : Expr} :
      condition.leaves = before ++ leaf :: after →
      (∀ earlier ∈ before, ¬ earlier.IsEmptyList) →
      leaf.unwrapped = .inList subject false [] →
      Collects condition (before.filterMap Expr.filter?) (.error (.emptyList subject.toSql))

theorem Sql.Expr.exists_collects (condition : Expr) :
    ∃ added outcome, condition.Collects added outcome := by
  cases refused : condition.leaves.findSome? Expr.emptyList? with
  | none =>
      rw [List.findSome?_eq_none_iff] at refused
      refine ⟨_, _, .whole ?_⟩
      intro leaf member
      exact Expr.emptyList?_eq_none_iff.mp (refused leaf member)
  | some fault =>
      rw [List.findSome?_eq_some_iff] at refused
      rcases refused with ⟨before, leaf, after, split, empty, allowed⟩
      rcases Expr.emptyList?_eq_some_iff.mp empty with ⟨subject, bare, -⟩
      refine ⟨_, _, .cut split ?_ bare⟩
      intro earlier member
      exact Expr.emptyList?_eq_none_iff.mp (allowed earlier member)

/-- The leaves before the first empty list are those that are visited. -/
theorem Sql.Expr.takeWhile_eq_of_first_emptyList {before after : List Expr} {leaf subject : Expr}
    (allowed : ∀ earlier ∈ before, ¬ earlier.IsEmptyList)
    (empty : leaf.unwrapped = .inList subject false []) :
    ((before ++ leaf :: after).takeWhile fun leaf => leaf.emptyList?.isNone) = before := by
  have refused : leaf.emptyList? = some (.emptyList subject.toSql) :=
    Expr.emptyList?_eq_some_iff.mpr ⟨subject, empty, rfl⟩
  rw [List.takeWhile_append_of_pos, List.takeWhile_cons_of_neg, List.append_nil]
  · simp [refused]
  · intro earlier member
    simp [Expr.emptyList?_eq_none_iff.mpr (allowed earlier member)]

theorem Sql.Expr.Collects.adds {condition : Expr} {added : List FilterCondition}
    {outcome : Except ShapeFault Unit} (collects : condition.Collects added outcome) :
    (addFilters condition).Adds added outcome := by
  intro initial
  rw [collectFrom_addFilters]
  cases collects with
  | whole allowed =>
      have noneRefused : condition.leaves.findSome? Expr.emptyList? = none := by
        rw [List.findSome?_eq_none_iff]
        intro leaf member
        exact Expr.emptyList?_eq_none_iff.mpr (allowed leaf member)
      rw [Collector.takeWhile_eq_self_of_allowed noneRefused, noneRefused]
  | cut split allowed empty =>
      rw [split, Expr.takeWhile_eq_of_first_emptyList allowed empty,
        Expr.findSome?_of_first_emptyList allowed empty]

/-- A condition adds the filters of its leaves up to the first empty list, whatever the list
holds already and whether or not the condition is refused.  So of conditions that are taken one
after the other on one list, each has the outcome that it has alone, and adds what it adds to the
empty list. -/
theorem addFilters_extends :
    (∀ condition : Expr, ∃ added outcome, condition.Collects added outcome ∧
      ∀ initial, (addFilters condition).collectFrom initial = (initial ++ added, outcome)) ∧
    (∀ (initial : List FilterCondition) (before : List Expr) (condition : Expr)
      (after : List Expr),
      let alone (condition : Expr) := (addFilters condition).collectFrom []
      (Collector.runEach addFilters initial (before ++ condition :: after))[before.length]? =
        some (initial ++ before.flatMap (fun earlier => (alone earlier).1) ++ (alone condition).1,
          (alone condition).2)) := by
  constructor
  · intro condition
    rcases condition.exists_collects with ⟨added, outcome, collects⟩
    exact ⟨added, outcome, collects, collects.adds⟩
  · intro initial before condition after alone
    apply Collector.getElem?_runEach
    intro other
    rcases other.exists_collects with ⟨added, outcome, collects⟩
    have same : alone other = (added, outcome) := collects.adds.collectFrom_nil
    rw [same]
    exact collects.adds

-- Of the condition `a = 1 AND (b IN () OR c = 2)`, only the first filter is added.
example :
    let column (name : String) : Expr := .name [⟨name, none⟩]
    let equals (name number : String) : Expr :=
      .binary (column name) .equal (.literal (.number number false))
    (addFilters (.binary (equals "a" "1") .and
      (.paren (.binary (.inList (column "b") false []) .or (equals "c" "2"))))).collectFrom
        [⟨"z", .inQuery, ["w"]⟩] =
      ([⟨"z", .inQuery, ["w"]⟩, ⟨"a", .equal, ["1"]⟩], .error (.emptyList "b")) := by
  rfl

end SqlScenarios
