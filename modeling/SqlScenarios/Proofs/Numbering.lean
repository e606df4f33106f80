import Mathlib.Data.List.Nodup
import SqlScenarios.Proofs.Expansion

/-!
# Numbers of scenarios

A source numbers drafts one after another, and different numbers have different texts, so no
two scenarios of a source share theirs.  A source that starts later gives the same scenarios
with greater numbers.
-/

namespace SqlScenarios

/-- A scenario without its number. -/
def Scenario.draft (scenario : Scenario) : Draft :=
  ⟨scenario.description, scenario.expectedResult, scenario.kind, scenario.criticality⟩

@[simp] theorem Draft.draft_withId (draft : Draft) (id : String) :
    (draft.withId id).draft = draft := rfl

/-- Whether scenarios have the numbers from the first one on, in their order. -/
structure Numbered (scenarios : List Scenario) : Prop where
  consecutive : scenarios.map Scenario.id =
    (List.range' 1 scenarios.length).map fun number => "TC_" ++ toString number
  distinct : (scenarios.map Scenario.id).Nodup

/-- Whether a scenario is another one with a number that is greater by some amount. -/
def Scenario.ShiftedBy (amount : Nat) (scenario shifted : Scenario) : Prop :=
  ∃ number, scenario.id = "TC_" ++ toString number ∧
    shifted = { scenario with id := "TC_" ++ toString (number + amount) }

namespace ScenarioIds

/-- Different numbers have different texts. -/
theorem idText_injective : Function.Injective idText := by
  intro left right same
  have chars := congrArg String.toList same
  rw [idText, idText, String.toList_append, String.toList_append] at chars
  have digits : Nat.toDigits 10 left = Nat.toDigits 10 right := by
    simpa [Nat.toString_eq_ofList_toDigits] using List.append_cancel_left chars
  -- A number is read back from its digits.
  calc
    left = Nat.ofDigitChars 10 (Nat.toDigits 10 left) 0 := Nat.ofDigitChars_ten_toDigits.symm
    _ = Nat.ofDigitChars 10 (Nat.toDigits 10 right) 0 := by rw [digits]
    _ = right := Nat.ofDigitChars_ten_toDigits

@[simp] theorem map_draft_label (ids : ScenarioIds) (drafts : List Draft) :
    (ids.label drafts).1.map Scenario.draft = drafts := by
  induction drafts generalizing ids with
  | nil => rfl
  | cons draft drafts ih =>
      rw [label, List.map_cons, Draft.draft_withId]
      exact congrArg _ (ih ids.take.2)

/-- A fresh source numbers drafts from the first number on. -/
theorem numbered_label_fresh (drafts : List Draft) : Numbered (fresh.label drafts).1 := by
  have consecutive := fresh.map_id_label drafts
  constructor
  · rw [consecutive, length_label]
    rfl
  · rw [consecutive]
    exact (List.nodup_range' 1).map idText_injective

/-- A source that starts later gives the same scenarios with greater numbers. -/
theorem forall₂_shiftedBy_label (ids : ScenarioIds) (amount : Nat) (drafts : List Draft) :
    List.Forall₂ (Scenario.ShiftedBy amount) (ids.label drafts).1
      ((⟨ids.next + amount⟩ : ScenarioIds).label drafts).1 := by
  induction drafts generalizing ids with
  | nil => exact .nil
  | cons draft drafts ih =>
      apply List.Forall₂.cons
      · exact ⟨ids.next, rfl, rfl⟩
      · have rest := ih ids.take.2
        rw [take, Nat.add_right_comm] at rest
        exact rest

end ScenarioIds

end SqlScenarios
