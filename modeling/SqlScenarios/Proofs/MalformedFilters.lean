import SqlScenarios.Proofs.Expansion

/-!
# The first malformed filter

A strategy refuses a model for the first filter whose operator does not take as many operands
as the filter has, and for nothing else.  One strategy checks all filters before it makes any
scenario and the other checks each filter when it comes to it, but they refuse the same models
with the same fault.
-/

namespace SqlScenarios

/-- The numbers of operands that an operator takes. -/
inductive FilterOperator.Takes : FilterOperator → Nat → Prop where
  | equal : Takes .equal 1
  | greater : Takes .greater 1
  | between : Takes .between 2
  | isIn (more : Nat) : Takes .isIn (more + 1)
  | inQuery : Takes .inQuery 1
  | other (text : String) (count : Nat) : Takes (.other text) count

theorem FilterOperator.allows_iff_takes {operator : FilterOperator} {count : Nat} :
    operator.operandCount.allows count = true ↔ operator.Takes count := by
  constructor
  · intro allowed
    cases operator with
    | equal =>
        cases beq_iff_eq.mp allowed
        exact .equal
    | greater =>
        cases beq_iff_eq.mp allowed
        exact .greater
    | between =>
        cases beq_iff_eq.mp allowed
        exact .between
    | isIn =>
        obtain ⟨more, rfl⟩ := Nat.exists_eq_add_of_le' (of_decide_eq_true allowed)
        exact .isIn more
    | inQuery =>
        cases beq_iff_eq.mp allowed
        exact .inQuery
    | other text => exact .other text count
  · intro taken
    cases taken with
    | equal | greater | between | inQuery | other => rfl
    | isIn more => simp [operandCount, OperandCount.allows]

namespace FilterCondition

/-- Whether the operator of a filter takes as many operands as the filter has. -/
def HasOperands (filter : FilterCondition) : Prop := filter.operator.Takes filter.values.length

/-- The fault of a filter that has another number of operands. -/
def fault (filter : FilterCondition) : MalformedCondition :=
  ⟨filter.column, filter.operator, filter.values.length⟩

theorem check_of_hasOperands {filter : FilterCondition} (complete : filter.HasOperands) :
    filter.check = .ok () :=
  if_pos (FilterOperator.allows_iff_takes.mpr complete)

theorem check_of_not_hasOperands {filter : FilterCondition} (malformed : ¬ filter.HasOperands) :
    filter.check = .error filter.fault :=
  if_neg fun wellFormed => malformed (FilterOperator.allows_iff_takes.mp wellFormed)

theorem check_eq_ok_iff {filter : FilterCondition} :
    filter.check = .ok () ↔ filter.HasOperands := by
  constructor
  · intro passed
    apply Classical.byContradiction
    intro malformed
    cases passed.symm.trans (check_of_not_hasOperands malformed)
  · exact check_of_hasOperands

theorem check_eq_error_iff {filter : FilterCondition} {fault : MalformedCondition} :
    filter.check = .error fault ↔ ¬ filter.HasOperands ∧ fault = filter.fault := by
  constructor
  · intro refused
    have malformed : ¬ filter.HasOperands := by
      intro complete
      cases refused.symm.trans (check_of_hasOperands complete)
    exact ⟨malformed, Except.error.inj (refused.symm.trans (check_of_not_hasOperands malformed))⟩
  · rintro ⟨malformed, rfl⟩
    exact check_of_not_hasOperands malformed

end FilterCondition

namespace Strategy

/-- Either strategy ends with a fault exactly if it is the fault of the first malformed filter. -/
theorem generate_eq_error_iff {strategy : Strategy} {model : QueryModel}
    {fault : MalformedCondition} :
    strategy.generate model = .error fault ↔
      ∃ before filter after, model.filters = before ++ filter :: after ∧
        (∀ earlier ∈ before, earlier.HasOperands) ∧
        ¬ filter.HasOperands ∧ fault = filter.fault := by
  have refusal : strategy.generate model = .error fault ↔
      model.filters.forM FilterCondition.check = .error fault := by
    rw [generate_eq]
    cases model.filters.forM FilterCondition.check with
    | error other =>
        change Except.error other = Except.error fault ↔ Except.error other = Except.error fault
        rw [Except.error.injEq, Except.error.injEq]
    | ok => exact ⟨nofun, nofun⟩
  rw [refusal, forM_eq_error_iff]
  simp only [FilterCondition.check_eq_ok_iff, FilterCondition.check_eq_error_iff]

/-- Either strategy ends with some fault exactly if some filter is malformed. -/
theorem exists_generate_error_iff {strategy : Strategy} {model : QueryModel} :
    (∃ fault, strategy.generate model = .error fault) ↔
      ∃ filter ∈ model.filters, ¬ filter.HasOperands := by
  constructor
  · rintro ⟨fault, refused⟩
    obtain ⟨before, filter, after, split, -, malformed, -⟩ := generate_eq_error_iff.mp refused
    exact ⟨filter, by simp [split], malformed⟩
  · rintro ⟨filter, member, malformed⟩
    cases outcome : strategy.generate model with
    | error fault => exact ⟨fault, rfl⟩
    | ok scenarios =>
        have checked := (generate_eq_ok_iff.mp outcome).1 filter member
        exact absurd (FilterCondition.check_eq_ok_iff.mp checked) malformed

end Strategy

/-- The strategies refuse the same models, which are those with a malformed filter, and both
report the column, the operator and the number of operands of the first such filter, whatever
stands around it. -/
theorem strategies_refuse_alike (model : QueryModel) :
    ((∃ fault, Strategy.category.generate model = .error fault) ↔
      ∃ filter ∈ model.filters, ¬ filter.operator.Takes filter.values.length) ∧
    (∀ fault, Strategy.category.generate model = .error fault ↔
      Strategy.operatorTable.generate model = .error fault) ∧
    (∀ (before : List FilterCondition) (filter : FilterCondition)
      (after : List FilterCondition), model.filters = before ++ filter :: after →
      (∀ earlier ∈ before, earlier.operator.Takes earlier.values.length) →
      ¬ filter.operator.Takes filter.values.length → ∀ strategy : Strategy,
        strategy.generate model =
          .error ⟨filter.column, filter.operator, filter.values.length⟩) := by
  refine ⟨Strategy.exists_generate_error_iff, ?_, ?_⟩
  · intro fault
    rw [Strategy.generate_eq_error_iff, Strategy.generate_eq_error_iff]
  · intro before filter after split passed malformed strategy
    apply Strategy.generate_eq_error_iff.mpr
    exact ⟨before, filter, after, split, passed, malformed, rfl⟩

theorem strategies_refuse_alike_second :
    let before : List FilterCondition := [⟨"a", .other "LIKE", []⟩, ⟨"b", .inQuery, ["SELECT 1"]⟩]
    let filter : FilterCondition := ⟨"c", .between, ["1"]⟩
    let after : List FilterCondition := [⟨"d", .equal, []⟩]
    let model : QueryModel := { filters := before ++ filter :: after, joins := [⟨"x", "y"⟩] }
    (∀ earlier ∈ before, earlier.operator.Takes earlier.values.length) ∧
      ¬ filter.operator.Takes filter.values.length ∧
      ∀ strategy : Strategy, strategy.generate model = .error ⟨"c", .between, 1⟩ := by
  intro before filter after model
  have passed : ∀ earlier ∈ before, earlier.operator.Takes earlier.values.length := by
    simp only [before, List.forall_mem_cons]
    exact ⟨.other "LIKE" 0, .inQuery, List.forall_mem_nil _⟩
  have malformed : ¬ filter.operator.Takes filter.values.length := nofun
  exact ⟨passed, malformed,
    (strategies_refuse_alike model).2.2 before filter after rfl passed malformed⟩

end SqlScenarios
