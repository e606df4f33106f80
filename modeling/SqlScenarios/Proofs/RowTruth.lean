import Mathlib.Order.Lattice
import SqlScenarios.Proofs.Expansion

/-!
# What the rows of an operator test

Predicates on a column have three truth values, since the value of the column may be missing.
Operands are read as values of any linearly ordered domain.  Whichever domain and reading
are taken, a value for which the predicate of a row is true is one for which the filter is as
the kind of the row says, and for each value the predicate of some row is true.
-/

namespace SqlScenarios

universe u

/-! ## Truth values -/

/-- The truth of a predicate on a value that may be missing. -/
inductive Truth where
  | yes
  | no
  | unknown
  deriving DecidableEq, Repr

namespace Truth

def ofBool : Bool → Truth
  | true => yes
  | false => no

def not : Truth → Truth
  | yes => no
  | no => yes
  | unknown => unknown

def and : Truth → Truth → Truth
  | no, _ | _, no => no
  | yes, yes => yes
  | _, _ => unknown

def or : Truth → Truth → Truth
  | yes, _ | _, yes => yes
  | no, no => no
  | _, _ => unknown

/-- The truth of a comparison, which is unknown of a missing value. -/
def compare {D : Type u} (holds : D → Bool) : Option D → Truth
  | some value => ofBool (holds value)
  | none => unknown

@[simp] theorem ofBool_eq_yes {holds : Bool} : ofBool holds = yes ↔ holds = true := by
  cases holds <;> simp [ofBool]

@[simp] theorem ofBool_eq_no {holds : Bool} : ofBool holds = no ↔ holds = false := by
  cases holds <;> simp [ofBool]

@[simp] theorem not_eq_yes {truth : Truth} : truth.not = yes ↔ truth = no := by
  cases truth <;> simp [not]

@[simp] theorem and_eq_yes {left right : Truth} :
    left.and right = yes ↔ left = yes ∧ right = yes := by
  cases left <;> cases right <;> simp [and]

@[simp] theorem or_eq_yes {left right : Truth} :
    left.or right = yes ↔ left = yes ∨ right = yes := by
  cases left <;> cases right <;> simp [or]

@[simp] theorem or_eq_no {left right : Truth} :
    left.or right = no ↔ left = no ∧ right = no := by
  cases left <;> cases right <;> simp [or]

@[simp] theorem compare_eq_yes {D : Type u} {holds : D → Bool} {value : Option D} :
    compare holds value = yes ↔ ∃ present, value = some present ∧ holds present = true := by
  cases value <;> simp [compare]

@[simp] theorem compare_eq_no {D : Type u} {holds : D → Bool} {value : Option D} :
    compare holds value = no ↔ ∃ present, value = some present ∧ holds present = false := by
  cases value <;> simp [compare]

end Truth

/-! ## Predicates and filters -/

section Meaning

variable {D : Type u} [LinearOrder D]

namespace RowPredicate

/-- The operands that a predicate mentions. -/
def operands : RowPredicate → List String
  | equal operand | notEqual operand | greater operand | less operand => [operand]
  | between low high => [low, high]
  | isIn operands | notIn operands => operands
  | isNull => []

/-- The truth of a predicate on a column, by the value of the column and a reading of the
operands. -/
def truth (read : String → D) (value : Option D) : RowPredicate → Truth
  | equal operand => .compare (fun present => decide (present = read operand)) value
  | notEqual operand => (Truth.compare (fun present => decide (present = read operand)) value).not
  | greater operand => .compare (fun present => decide (read operand < present)) value
  | less operand => .compare (fun present => decide (present < read operand)) value
  | between low high =>
      (Truth.compare (fun present => decide (read low ≤ present)) value).and
        (.compare (fun present => decide (present ≤ read high)) value)
  | isIn operands => anyEqual operands
  | notIn operands => (anyEqual operands).not
  | isNull => .ofBool value.isNone
where
  /-- Whether the value equals one of some operands. -/
  anyEqual : List String → Truth
    | [] => .no
    | operand :: operands =>
        (Truth.compare (fun present => decide (present = read operand)) value).or
          (anyEqual operands)

/-- How predicates on a column are written in SQL. -/
inductive Written (column : String) : RowPredicate → String → Prop where
  | equal (value : String) : Written column (.equal value) (column ++ " = " ++ value)
  | notEqual (value : String) : Written column (.notEqual value) (column ++ " != " ++ value)
  | greater (value : String) : Written column (.greater value) (column ++ " > " ++ value)
  | less (value : String) : Written column (.less value) (column ++ " < " ++ value)
  | between (low high : String) :
      Written column (.between low high) (column ++ " BETWEEN " ++ low ++ " AND " ++ high)
  | isIn (values : List String) :
      Written column (.isIn values) (column ++ " IN (" ++ String.intercalate ", " values ++ ")")
  | notIn (values : List String) :
      Written column (.notIn values)
        (column ++ " NOT IN (" ++ String.intercalate ", " values ++ ")")
  | isNull : Written column .isNull (column ++ " IS NULL")

theorem written_text (column : String) (predicate : RowPredicate) :
    predicate.Written column (predicate.text column) := by
  cases predicate with
  | equal value => exact .equal value
  | notEqual value => exact .notEqual value
  | greater value => exact .greater value
  | less value => exact .less value
  | between low high => exact .between low high
  | isIn values => exact .isIn values
  | notIn values => exact .notIn values
  | isNull => exact .isNull

end RowPredicate

/-- The truth of a filter on a column, by the value of the column and a reading of the
operands. -/
def FilterCondition.truth (filter : FilterCondition) (read : String → D) (value : Option D) :
    Truth :=
  match filter.operator, filter.values with
  | .equal, [operand] => (RowPredicate.equal operand).truth read value
  | .greater, [operand] => (RowPredicate.greater operand).truth read value
  | .between, [low, high] => (RowPredicate.between low high).truth read value
  | .isIn, operands => (RowPredicate.isIn operands).truth read value
  | _, _ => .unknown

/-- What a scenario of a kind says of a value: that the filter is true of it, that the filter
is not true of it, or that it is one of the operands. -/
def FilterCondition.Admits (filter : FilterCondition) (read : String → D) (value : Option D) :
    ScenarioKind → Prop
  | .positive => filter.truth read value = .yes
  | .negative => filter.truth read value ≠ .yes
  | .boundary => ∃ operand ∈ filter.values, value = some (read operand)

/-! ## Predicates that are true -/

namespace RowPredicate

variable {read : String → D} {value : Option D}

@[simp] theorem truth_equal {operand : String} :
    (equal operand).truth read value = .yes ↔ value = some (read operand) := by
  simp [truth]

@[simp] theorem truth_notEqual {operand : String} :
    (notEqual operand).truth read value = .yes ↔
      ∃ present, value = some present ∧ present ≠ read operand := by
  simp [truth]

@[simp] theorem truth_greater {operand : String} :
    (greater operand).truth read value = .yes ↔
      ∃ present, value = some present ∧ read operand < present := by
  simp [truth]

@[simp] theorem truth_less {operand : String} :
    (less operand).truth read value = .yes ↔
      ∃ present, value = some present ∧ present < read operand := by
  simp [truth]

@[simp] theorem truth_between {low high : String} :
    (between low high).truth read value = .yes ↔
      ∃ present, value = some present ∧ read low ≤ present ∧ present ≤ read high := by
  cases value <;> simp [truth]

@[simp] theorem truth_isIn {operands : List String} :
    (isIn operands).truth read value = .yes ↔
      ∃ operand ∈ operands, value = some (read operand) := by
  rw [truth]
  induction operands with
  | nil => simp [truth.anyEqual]
  | cons operand operands ih => simp [truth.anyEqual, ih]

@[simp] theorem truth_notIn {operands : List String} :
    (notIn operands).truth read value = .yes ↔
      ∀ operand ∈ operands, ∃ present, value = some present ∧ present ≠ read operand := by
  rw [truth, Truth.not_eq_yes]
  induction operands with
  | nil => simp [truth.anyEqual]
  | cons operand operands ih => simp [truth.anyEqual, ih]

@[simp] theorem truth_isNull : isNull.truth read value = .yes ↔ value = none := by
  simp [truth]

end RowPredicate

/-! ## The table of each operator -/

namespace OperatorRow

variable {read : String → D} {value : Option D} {column : String}

/-- No filter is true of a missing value, which is what the row for it is about. -/
theorem admits_missing {filter : FilterCondition}
    (holds : missing.predicate.truth read value = .yes) :
    filter.Admits read value .negative := by
  have absent : value = none := RowPredicate.truth_isNull.1 holds
  subst absent
  change filter.truth read none ≠ .yes
  unfold FilterCondition.truth
  split <;> simp

theorem admits_equality {operand : String} {row : OperatorRow}
    (member : row ∈ equality operand) (holds : row.predicate.truth read value = .yes) :
    FilterCondition.Admits ⟨column, .equal, [operand]⟩ read value
      (FilterOperator.equal.kindOf row.intent) := by
  simp only [equality, List.mem_cons, List.not_mem_nil, or_false] at member
  rcases member with rfl | rfl | rfl
  · exact holds
  · intro filterHolds
    change (RowPredicate.equal operand).truth read value = .yes at filterHolds
    rw [RowPredicate.truth_notEqual] at holds
    rw [RowPredicate.truth_equal] at filterHolds
    obtain ⟨present, rfl, different⟩ := holds
    exact different (Option.some.inj filterHolds)
  · exact admits_missing holds

theorem admits_greaterThan {operand : String} {row : OperatorRow}
    (member : row ∈ greaterThan operand) (holds : row.predicate.truth read value = .yes) :
    FilterCondition.Admits ⟨column, .greater, [operand]⟩ read value
      (FilterOperator.greater.kindOf row.intent) := by
  simp only [greaterThan, List.mem_cons, List.not_mem_nil, or_false] at member
  rcases member with rfl | rfl | rfl | rfl
  · exact holds
  · exact ⟨operand, by simp, RowPredicate.truth_equal.1 holds⟩
  · intro filterHolds
    change (RowPredicate.greater operand).truth read value = .yes at filterHolds
    rw [RowPredicate.truth_less] at holds
    rw [RowPredicate.truth_greater] at filterHolds
    obtain ⟨present, rfl, below⟩ := holds
    obtain ⟨_, same, above⟩ := filterHolds
    cases same
    exact lt_asymm below above
  · exact admits_missing holds

theorem admits_range {low high : String} {row : OperatorRow}
    (member : row ∈ range low high) (holds : row.predicate.truth read value = .yes) :
    FilterCondition.Admits ⟨column, .between, [low, high]⟩ read value
      (FilterOperator.between.kindOf row.intent) := by
  simp only [range, List.mem_cons, List.not_mem_nil, or_false] at member
  have inRange : FilterCondition.truth ⟨column, .between, [low, high]⟩ read value =
      (RowPredicate.between low high).truth read value := rfl
  rcases member with rfl | rfl | rfl | rfl | rfl | rfl
  · exact holds
  · exact ⟨low, by simp, RowPredicate.truth_equal.1 holds⟩
  · exact ⟨high, by simp, RowPredicate.truth_equal.1 holds⟩
  · intro filterHolds
    rw [RowPredicate.truth_less] at holds
    rw [inRange, RowPredicate.truth_between] at filterHolds
    obtain ⟨present, rfl, below⟩ := holds
    obtain ⟨_, same, above, _⟩ := filterHolds
    cases same
    exact not_le_of_gt below above
  · intro filterHolds
    rw [RowPredicate.truth_greater] at holds
    rw [inRange, RowPredicate.truth_between] at filterHolds
    obtain ⟨present, rfl, above⟩ := holds
    obtain ⟨_, same, _, below⟩ := filterHolds
    cases same
    exact not_le_of_gt above below
  · exact admits_missing holds

theorem admits_membership {operands : List String} {row : OperatorRow}
    (member : row ∈ membership operands) (holds : row.predicate.truth read value = .yes) :
    FilterCondition.Admits ⟨column, .isIn, operands⟩ read value
      (FilterOperator.isIn.kindOf row.intent) := by
  simp only [membership, List.mem_cons, List.not_mem_nil, or_false] at member
  rcases member with rfl | rfl | rfl
  · exact holds
  · intro filterHolds
    change (RowPredicate.isIn operands).truth read value = .yes at filterHolds
    rw [RowPredicate.truth_notIn] at holds
    rw [RowPredicate.truth_isIn] at filterHolds
    obtain ⟨operand, operandMember, rfl⟩ := filterHolds
    obtain ⟨present, same, different⟩ := holds operand operandMember
    exact different (Option.some.inj same).symm
  · exact admits_missing holds

/-- A value is equal to an operand, or not equal to it, or missing. -/
theorem exists_true_equality (operand : String) :
    ∃ row ∈ equality operand, row.predicate.truth read value = .yes := by
  cases value with
  | none => exact ⟨missing, by simp [equality], by simp [missing]⟩
  | some present =>
      by_cases same : present = read operand
      · exact ⟨_, .head _, by simp [same]⟩
      · exact ⟨_, .tail _ (.head _), by simp [same]⟩

/-- A value is above an operand, equal to it, below it, or missing. -/
theorem exists_true_greaterThan (operand : String) :
    ∃ row ∈ greaterThan operand, row.predicate.truth read value = .yes := by
  cases value with
  | none => exact ⟨missing, by simp [greaterThan], by simp [missing]⟩
  | some present =>
      rcases lt_trichotomy present (read operand) with below | same | above
      · exact ⟨_, .tail _ (.tail _ (.head _)), by simp [below]⟩
      · exact ⟨_, .tail _ (.head _), by simp [same]⟩
      · exact ⟨_, .head _, by simp [above]⟩

/-- A value is below the lower bound, above the upper one, within both, or missing.  The bounds
may be in the wrong order. -/
theorem exists_true_range (low high : String) :
    ∃ row ∈ range low high, row.predicate.truth read value = .yes := by
  cases value with
  | none => exact ⟨missing, by simp [range], by simp [missing]⟩
  | some present =>
      rcases lt_or_ge present (read low) with below | atLeast
      · exact ⟨_, .tail _ (.tail _ (.tail _ (.head _))), by simp [below]⟩
      · rcases le_or_gt present (read high) with atMost | above
        · exact ⟨_, .head _, by simp [atLeast, atMost]⟩
        · exact ⟨_, .tail _ (.tail _ (.tail _ (.tail _ (.head _)))), by simp [above]⟩

/-- A value is one of the operands, or none of them, or missing. -/
theorem exists_true_membership (operands : List String) :
    ∃ row ∈ membership operands, row.predicate.truth read value = .yes := by
  cases value with
  | none => exact ⟨missing, by simp [membership], by simp [missing]⟩
  | some present =>
      by_cases listed : ∃ operand ∈ operands, present = read operand
      · exact ⟨_, .head _, by simpa using listed⟩
      · exact ⟨_, .tail _ (.head _), by simpa using listed⟩

end OperatorRow

namespace FilterCondition.Tabled

variable {filter : FilterCondition}

/-- Rows mention no operands but those of the filter. -/
theorem mem_values (tabled : filter.Tabled) {row : OperatorRow} (member : row ∈ filter.rows)
    {operand : String} (mentioned : operand ∈ row.predicate.operands) :
    operand ∈ filter.values := by
  cases tabled with
  | equal column value =>
      simp only [rows, OperatorRow.equality, List.mem_cons, List.not_mem_nil, or_false] at member
      rcases member with rfl | rfl | rfl
      · exact mentioned
      · exact mentioned
      · cases mentioned
  | greater column value =>
      simp only [rows, OperatorRow.greaterThan, List.mem_cons, List.not_mem_nil, or_false] at member
      rcases member with rfl | rfl | rfl | rfl
      · exact mentioned
      · exact mentioned
      · exact mentioned
      · cases mentioned
  | between column low high =>
      simp only [rows, OperatorRow.range, List.mem_cons, List.not_mem_nil, or_false] at member
      have mentionedLow : operand ∈ [low] → operand ∈ [low, high] := by
        intro inLow
        cases List.mem_singleton.1 inLow
        exact .head _
      have mentionedHigh : operand ∈ [high] → operand ∈ [low, high] := .tail low
      rcases member with rfl | rfl | rfl | rfl | rfl | rfl
      · exact mentioned
      · exact mentionedLow mentioned
      · exact mentionedHigh mentioned
      · exact mentionedLow mentioned
      · exact mentionedHigh mentioned
      · cases mentioned
  | isIn column value values =>
      simp only [rows, OperatorRow.membership, List.mem_cons, List.not_mem_nil, or_false] at member
      rcases member with rfl | rfl | rfl
      · exact mentioned
      · exact mentioned
      · cases mentioned

/-- A value for which the predicate of a row is true is as the kind of the row says. -/
theorem admits (tabled : filter.Tabled) {row : OperatorRow} (member : row ∈ filter.rows)
    {read : String → D} {value : Option D} (holds : row.predicate.truth read value = .yes) :
    filter.Admits read value (filter.operator.kindOf row.intent) := by
  cases tabled with
  | equal column operand => exact OperatorRow.admits_equality member holds
  | greater column operand => exact OperatorRow.admits_greaterThan member holds
  | between column low high => exact OperatorRow.admits_range member holds
  | isIn column operand operands => exact OperatorRow.admits_membership member holds

/-- The rows leave no value out. -/
theorem exists_true (tabled : filter.Tabled) (read : String → D) (value : Option D) :
    ∃ row ∈ filter.rows, row.predicate.truth read value = .yes := by
  cases tabled with
  | equal column operand => exact OperatorRow.exists_true_equality operand
  | greater column operand => exact OperatorRow.exists_true_greaterThan operand
  | between column low high => exact OperatorRow.exists_true_range low high
  | isIn column operand operands => exact OperatorRow.exists_true_membership (operand :: operands)

end FilterCondition.Tabled

end Meaning

/-! ## Expansions -/

/-- A scenario tests a filter by a predicate if its description is how the predicate is written
for the column of the filter, the predicate mentions only operands of the filter, and a value
for which it is true is as the kind of the scenario says. -/
structure FilterCondition.Tests (filter : FilterCondition) (scenario : Scenario)
    (predicate : RowPredicate) : Prop where
  written : predicate.Written filter.column scenario.description
  operands : ∀ operand ∈ predicate.operands, operand ∈ filter.values
  sound : ∀ {D : Type u} [LinearOrder D] (read : String → D) (value : Option D),
    predicate.truth read value = .yes → filter.Admits read value scenario.kind

/-- The scenario of a row tests the filter by the predicate of the row. -/
theorem FilterCondition.Tabled.tests {filter : FilterCondition} (tabled : filter.Tabled)
    {row : OperatorRow} (member : row ∈ filter.rows) (id : String) :
    FilterCondition.Tests.{u} filter ((row.draft filter).withId id) row.predicate where
  written := row.predicate.written_text filter.column
  operands := fun _ mentioned => tabled.mem_values member mentioned
  sound := fun _ _ holds => tabled.admits member holds

/-- The expansion of a filter with one of the first four operators that passes the check is
sound and exhaustive.  Its scenarios test the filter by the predicates of the rows, and each
value, missing or not, makes one of these predicates true. -/
theorem FilterCondition.expand_sound_exhaustive (filter : FilterCondition) (ids : ScenarioIds)
    (checked : filter.check = .ok ())
    (operator : filter.operator ∈ [.equal, .greater, .between, .isIn]) :
    ∃ scenarios rest, filter.expand ids = .ok (scenarios, rest) ∧
      List.Forall₂ (FilterCondition.Tests.{u} filter) scenarios
        (filter.rows.map OperatorRow.predicate) ∧
      ∀ {D : Type u} [LinearOrder D] (read : String → D) (value : Option D),
        ∃ predicate ∈ filter.rows.map OperatorRow.predicate,
          predicate.truth read value = .yes := by
  have tabled : filter.Tabled := tabled_of_check checked operator
  refine ⟨_, _, expand_of_check checked ids, ?_, ?_⟩
  · rw [List.forall₂_map_right_iff]
    exact ids.forall₂_label fun row member id => tabled.tests member id
  · intro D _ read value
    obtain ⟨row, member, holds⟩ := tabled.exists_true read value
    exact ⟨row.predicate, List.mem_map_of_mem member, holds⟩

/-- A range whose bounds are in the wrong order, so that no value is in it. -/
def invertedRange : FilterCondition := ⟨"price", .between, ["20", "10"]⟩

theorem FilterCondition.expand_sound_exhaustive_inverted :
    invertedRange.check = .ok () ∧
      invertedRange.operator ∈ [.equal, .greater, .between, .isIn] ∧
      ∃ scenarios rest, invertedRange.expand .fresh = .ok (scenarios, rest) ∧
        scenarios.map Scenario.description = ["price BETWEEN 20 AND 10", "price = 20",
          "price = 10", "price < 20", "price > 10", "price IS NULL"] ∧
        List.Forall₂ (FilterCondition.Tests.{0} invertedRange) scenarios
          (invertedRange.rows.map OperatorRow.predicate) ∧
        ∀ {D : Type} [LinearOrder D] (read : String → D) (value : Option D),
          ∃ predicate ∈ invertedRange.rows.map OperatorRow.predicate,
            predicate.truth read value = .yes := by
  have operator : invertedRange.operator ∈ [.equal, .greater, .between, .isIn] := by decide
  rcases FilterCondition.expand_sound_exhaustive invertedRange .fresh rfl operator with
    ⟨scenarios, rest, expanded, tests, exhaustive⟩
  refine ⟨rfl, operator, scenarios, rest, expanded, ?_, tests, exhaustive⟩
  cases expanded
  decide +kernel

end SqlScenarios
