import SqlScenarios.Proofs.JsonText
import SqlScenarios.Proofs.Records

/-!
# What the JSON text of an output says

An output is read back from its JSON text: the scenarios by their own decoder, the counts as
whole numbers and the supplement as it is.  So the text of an output belongs to this output alone.
-/

namespace SqlScenarios

/-! ## Counts -/

/-- The whole number that a value is.  Those beyond 64 bits are read as decimals. -/
def Json.count? : Json → Option Nat
  | .integer value => if 0 ≤ value then some value.toNat else none
  | .decimal ⟨false, digits, 0⟩ => some digits
  | _ => none

@[simp] theorem Json.count?_ofInt (count : Nat) : (ofInt count).count? = some count := by
  rw [ofInt]
  split
  · rw [count?, if_pos (Int.natCast_nonneg count), Int.toNat_natCast]
  · rw [decide_eq_false (Int.not_lt.mpr (Int.natCast_nonneg count)), Int.natAbs_natCast]
    rfl

/-! ## Members of an output -/

/-- What the members of an output say about the scenarios, about the model that these were made
from, and about the supplement. -/
structure OutputMembers (model : QueryModel) (scenarios : List Scenario)
    (supplement : Option String) (members : List (String × Json)) : Prop where
  names : members.map Prod.fst = ["standardized", "scenarios", "validation", "aiUsed"] ++
    (supplement.map fun _ => "aiSupplement").toList
  standardized : Json.lookup? members "standardized" = some (.boolean true)
  items : ∃ items, Json.lookup? members "scenarios" = some items ∧
    Decoder.list Scenario.decode items = .ok scenarios
  counts : ∃ counts, Json.lookup? members "validation" = some (.object counts) ∧
    (counts.map fun (name, value) => (name, value.count?)) =
      [("joinCount", some model.joins.length),
        ("filterCount", some model.filters.length),
        ("aggregateCount", some model.aggregates.length),
        ("havingCount", some model.havingConditions.length),
        ("generatedScenarios", some scenarios.length)]
  used : Json.lookup? members "aiUsed" = some (.boolean supplement.isSome)
  text : Json.lookup? members "aiSupplement" = supplement.map Json.string

namespace OutputMembers

variable {model other : QueryModel} {scenarios others : List Scenario}
variable {supplement another : Option String} {members : List (String × Json)}

/-- Members say what the output is that they belong to. -/
theorem output_eq (said : OutputMembers model scenarios supplement members)
    (alsoSaid : OutputMembers other others another members) :
    Output.of model scenarios supplement = Output.of other others another := by
  obtain ⟨items, foundItems, decoded⟩ := said.items
  obtain ⟨otherItems, foundOtherItems, otherDecoded⟩ := alsoSaid.items
  cases foundItems.symm.trans foundOtherItems
  cases decoded.symm.trans otherDecoded
  obtain ⟨counts, foundCounts, counted⟩ := said.counts
  obtain ⟨otherCounts, foundOtherCounts, otherCounted⟩ := alsoSaid.counts
  cases foundCounts.symm.trans foundOtherCounts
  have lengths := counted.symm.trans otherCounted
  simp only [List.cons.injEq, Prod.mk.injEq, Option.some.injEq, true_and, and_true] at lengths
  obtain ⟨joins, filters, aggregates, havings⟩ := lengths
  have sameText : supplement = another := by
    apply Option.map_injective (f := Json.string) (by rintro _ _ ⟨⟩; rfl)
    exact said.text.symm.trans alsoSaid.text
  simp only [Output.of, Summary.of, joins, filters, aggregates, havings, sameText]

end OutputMembers

namespace Output

theorem itemsAsRead_scenarios (scenarios : List Scenario) :
    Json.itemsAsRead (scenarios.map Scenario.toJson) = scenarios.map Scenario.toJson := by
  rw [Json.itemsAsRead_eq, List.map_map]
  rfl

/-- The counts that a summary is read as. -/
def readCounts (summary : Summary) : List (String × Json) :=
  [("joinCount", .ofInt summary.joinCount),
    ("filterCount", .ofInt summary.filterCount),
    ("aggregateCount", .ofInt summary.aggregateCount),
    ("havingCount", .ofInt summary.havingCount),
    ("generatedScenarios", .ofInt summary.scenarioCount)]

/-- The members that an output is read as. -/
def readMembers (output : Output) : List (String × Json) :=
  [("standardized", .boolean true),
    ("scenarios", .array (output.scenarios.map Scenario.toJson)),
    ("validation", .object (readCounts output.summary)),
    ("aiUsed", .boolean output.supplement.isSome)] ++
  (output.supplement.map fun text => ("aiSupplement", Json.string text)).toList

theorem parse?_json (output : Output) :
    Json.parse? output.json = some (.object output.readMembers) := by
  have scenarios := itemsAsRead_scenarios output.scenarios
  have counts : output.summary.toJson.asRead = .object (readCounts output.summary) := rfl
  rw [json, Json.parse?_pretty, toJson, Json.asRead, Json.membersAsRead_eq, readMembers]
  cases output.supplement <;> simp [Json.asRead, scenarios, counts]

theorem names_readMembers (output : Output) :
    output.readMembers.map Prod.fst = ["standardized", "scenarios", "validation", "aiUsed"] ++
      (output.supplement.map fun _ => "aiSupplement").toList := by
  rw [readMembers]
  cases output.supplement <;> rfl

theorem lookup?_readMembers (output : Output) {name : String} {value : Json}
    (member : (name, value) ∈ output.readMembers) :
    Json.lookup? output.readMembers name = some value := by
  apply Json.lookup?_of_mem _ member
  rw [names_readMembers]
  cases output.supplement <;> simp

/-- The members that an output is read as say what it was made of. -/
theorem outputMembers_readMembers (model : QueryModel) (scenarios : List Scenario)
    (supplement : Option String) :
    OutputMembers model scenarios supplement (of model scenarios supplement).readMembers where
  names := names_readMembers _
  standardized := lookup?_readMembers _ (by simp [readMembers])
  items :=
    ⟨.array (scenarios.map Scenario.toJson), lookup?_readMembers _ (by simp [readMembers, of]),
      Scenario.decode_inverts.list scenarios⟩
  counts :=
    ⟨readCounts (.of model scenarios), lookup?_readMembers _ (by simp [readMembers, of]),
      by simp [readCounts, Summary.of]⟩
  used := lookup?_readMembers _ (by simp [readMembers, of])
  text := by
    cases supplement with
    | none => rfl
    | some text => exact lookup?_readMembers _ (by simp [readMembers, of])

end Output

/-- The JSON text of an output is an object that tells the scenarios, the counts and the supplement.
So two outputs have the same text only if they agree in all of them. -/
theorem output_json_lossless (model : QueryModel) (scenarios : List Scenario)
    (supplement : Option String) :
    (∃ members, Json.parse? (Output.of model scenarios supplement).json = some (.object members) ∧
      OutputMembers model scenarios supplement members) ∧
    ∀ other others another,
      (Output.of model scenarios supplement).json = (Output.of other others another).json ↔
        scenarios = others ∧ Summary.of model scenarios = Summary.of other others ∧
          supplement = another := by
  have said := Output.outputMembers_readMembers model scenarios supplement
  refine ⟨⟨_, Output.parse?_json _, said⟩, fun other others another => ⟨?_, ?_⟩⟩
  · intro sameText
    have read := Output.parse?_json (.of other others another)
    rw [← sameText, Output.parse?_json, Option.some.injEq, Json.object.injEq] at read
    rw [read] at said
    have alsoSaid := Output.outputMembers_readMembers other others another
    exact Output.mk.inj (said.output_eq alsoSaid)
  · rintro ⟨rfl, sameSummary, rfl⟩
    rw [Output.of, Output.of, sameSummary]

end SqlScenarios
