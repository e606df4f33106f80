import SqlScenarios.Scenario

/-!
# Numbers of scenarios

A source hands out `TC_1`, `TC_2` and so on.  It is a value: handing out a number gives the
number together with the source that continues after it, and a source that is kept elsewhere
is not affected.
-/

namespace SqlScenarios

/-- A source of numbers, which hands out `next` next. -/
structure ScenarioIds where
  next : Nat
  deriving DecidableEq, Repr

namespace ScenarioIds

/-- The source that starts at the first number. -/
def fresh : ScenarioIds := ⟨1⟩

/-- The text of a number. -/
def idText (number : Nat) : String := "TC_" ++ toString number

/-- Hand out a number. -/
def take (ids : ScenarioIds) : String × ScenarioIds := (idText ids.next, ⟨ids.next + 1⟩)

/-- Hand out several numbers, of which only the last is wanted. -/
def takeMany (ids : ScenarioIds) (last : Option String) : Nat → Option String × ScenarioIds
  | 0 => (last, ids)
  | count + 1 =>
      let (id, rest) := ids.take
      rest.takeMany (some id) count

/-- Number drafts in their order. -/
def label (ids : ScenarioIds) : List Draft → List Scenario × ScenarioIds
  | [] => ([], ids)
  | draft :: drafts =>
      let (id, rest) := ids.take
      let (scenarios, last) := rest.label drafts
      (draft.withId id :: scenarios, last)

/-- As many numbers are used up as there are drafts. -/
theorem label_next (ids : ScenarioIds) (drafts : List Draft) :
    (ids.label drafts).2 = ⟨ids.next + drafts.length⟩ := by
  induction drafts generalizing ids with
  | nil => rfl
  | cons draft drafts ih => simp [label, take, ih, Nat.add_comm, Nat.add_left_comm]

/-- Every draft becomes one scenario. -/
@[simp] theorem length_label (ids : ScenarioIds) (drafts : List Draft) :
    (ids.label drafts).1.length = drafts.length := by
  induction drafts generalizing ids with
  | nil => rfl
  | cons draft drafts ih => simp [label, ih]

end ScenarioIds

end SqlScenarios
