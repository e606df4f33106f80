/-!
# Outcomes

A step that can fail ends with a result or with a fault.  Steps that come one after the other
end with a result if every one of them does, and otherwise with the fault of the first one that
has a fault.  A step that changes a state leaves the state that the next one starts from.
-/

namespace SqlScenarios

variable {ε σ α β : Type}

/-- A step after another one goes on with the result and the state of the first. -/
theorem run_bind_of_run {first : StateM σ α} {next : α → StateM σ β} {state after : σ} {value : α}
    (ran : first.run state = (value, after)) :
    (first >>= next).run state = (next value).run after := by
  rw [StateT.run_bind, ran]
  rfl

/-- A step after another one succeeds if the first succeeds, and the second on its result. -/
theorem bind_eq_ok_iff {first : Except ε α} {next : α → Except ε β} {result : β} :
    (first >>= next) = .ok result ↔ ∃ value, first = .ok value ∧ next value = .ok result := by
  cases first with
  | error fault => simp [bind, Except.bind]
  | ok value => simp [bind, Except.bind]

/-- A step for each of some values succeeds if it does for every one of them. -/
theorem forM_eq_ok_iff {step : α → Except ε Unit} {values : List α} :
    values.forM step = .ok () ↔ ∀ value ∈ values, step value = .ok () := by
  induction values with
  | nil => simp [pure, Except.pure]
  | cons value values ih =>
      rw [List.forM, bind_eq_ok_iff, List.forall_mem_cons, ih]
      constructor
      · rintro ⟨_, passed, rest⟩
        exact ⟨passed, rest⟩
      · rintro ⟨passed, rest⟩
        exact ⟨_, passed, rest⟩

/-- A step for each of some values ends with the fault of the first value that it fails for. -/
theorem forM_eq_error_iff {step : α → Except ε Unit} {values : List α} {fault : ε} :
    values.forM step = .error fault ↔
      ∃ before value after, values = before ++ value :: after ∧
        (∀ earlier ∈ before, step earlier = .ok ()) ∧ step value = .error fault := by
  induction values with
  | nil => simp [pure, Except.pure]
  | cons first values ih =>
      rw [List.forM]
      cases outcome : step first with
      | error other =>
          change Except.error other = .error fault ↔ _
          constructor
          · intro same
            exact ⟨[], first, values, rfl, List.forall_mem_nil _, outcome.trans same⟩
          · rintro ⟨before, value, after, split, passed, refused⟩
            cases before with
            | nil =>
                cases split
                exact outcome.symm.trans refused
            | cons =>
                cases split
                cases outcome.symm.trans (passed first List.mem_cons_self)
      | ok =>
          change values.forM step = .error fault ↔ _
          rw [ih]
          constructor
          · rintro ⟨before, value, after, rfl, passed, refused⟩
            exact ⟨first :: before, value, after, rfl,
              List.forall_mem_cons.mpr ⟨outcome, passed⟩, refused⟩
          · rintro ⟨before, value, after, split, passed, refused⟩
            cases before with
            | nil =>
                cases split
                cases outcome.symm.trans refused
            | cons =>
                cases split
                exact ⟨_, value, after, rfl, (List.forall_mem_cons.mp passed).2, refused⟩

end SqlScenarios
