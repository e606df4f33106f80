import Mathlib.Data.List.Forall2
import Mathlib.Data.List.Nodup
import SqlScenarios.Proofs.OperatorTexts
import SqlScenarios.Proofs.Outcomes
import SqlScenarios.Record

/-!
# Written records

A record is decoded from the members that it is written as, in any order and beside other members,
and from the array of their values.  So what has been decoded once, however it was written, is
decoded as it is written again.  Of all records only a filter may be decoded otherwise than it was
made, because the text of its operator is trimmed and looked up in any letter case.
-/

namespace SqlScenarios

/-! ## Members of an object -/

namespace Json

variable {members : List (String × Json)} {name : String} {value : Json}

theorem mem_of_lookup? (found : lookup? members name = some value) : (name, value) ∈ members := by
  rw [lookup?, List.lookup_eq_some_iff] at found
  obtain ⟨before, after, split, -⟩ := found
  rw [← List.mem_reverse, split]
  simp

/-- Members with different names are all found by their names. -/
theorem lookup?_of_mem (distinct : (members.map Prod.fst).Nodup)
    (member : (name, value) ∈ members) : lookup? members name = some value := by
  cases found : lookup? members name with
  | none =>
      rw [lookup?, List.lookup_eq_none_iff] at found
      have different := found (name, value) (List.mem_reverse.mpr member)
      simp at different
  | some other =>
      have same := List.inj_on_of_nodup_map distinct (mem_of_lookup? found) member rfl
      rw [(Prod.mk.inj same).2]

end Json

/-! ## Fields of a record -/

namespace Fields

variable {α β : Type} {fields : Fields α} {members : List (String × Json)} {record : α}

/-- Whether a record is built from the values of members, which are its fields in their order. -/
structure Writes (fields : Fields α) (members : List (String × Json)) (record : α) : Prop where
  tested : List.Forall₂ (fun test member => test.1 = member.1 ∧ test.2 member.2 = .ok ())
    fields.tests members
  built : ∀ source place,
    (∀ position member, members[position]? = some member →
      source (place + position) member.1 = .ok member.2) →
    fields.build source place = .ok record

theorem writes_pure (value : α) : (Fields.pure value).Writes [] value :=
  ⟨.nil, fun _ _ _ => rfl⟩

/-- A record with one more field is written with one more member, which is decoded to the part
that the field is for. -/
theorem Writes.field {fields : Fields (α → β)} {make : α → β} (written : fields.Writes members make)
    (name : String) {decode : Decoder α} {value : Json} {part : α}
    (decoded : decode value = .ok part) :
    (fields.field name decode).Writes (members ++ [(name, value)]) (make part) := by
  constructor
  · apply List.rel_append written.tested
    refine .cons ⟨rfl, ?_⟩ .nil
    simp only [decoded]
    rfl
  · intro source place given
    have earlier : fields.build source place = .ok make := by
      apply written.built
      intro position member found
      apply given
      rw [List.getElem?_append_left (List.getElem?_eq_some_iff.mp found).1, found]
    have last : source (place + fields.tests.length) name = .ok value := by
      rw [written.tested.length_eq]
      exact given members.length (name, value) (by simp)
    simp only [Fields.field, earlier, last, decoded, bind, Except.bind]
    rfl

/-- Members among which those are found that a record is written as pass the tests of its
fields. -/
theorem Writes.testMembers_eq_ok (written : fields.Writes members record)
    {given : List (String × Json)}
    (found : ∀ member ∈ members, Json.lookup? given member.1 = some member.2) :
    fields.testMembers given = .ok () := by
  rw [testMembers, forM_eq_ok_iff]
  intro test sorted
  have member : test ∈ fields.tests := List.mem_mergeSort.mp sorted
  obtain ⟨position, bound, rfl⟩ := List.mem_iff_getElem.mp member
  have other : position < members.length := written.tested.length_eq ▸ bound
  obtain ⟨named, passed⟩ := written.tested.get bound other
  simp only [List.get_eq_getElem] at named passed
  simp only [named, found _ (List.getElem_mem other), passed]

/-- A record is decoded from an object that has the members that it is written as, in any order
and beside other members. -/
theorem Writes.decode_object (written : fields.Writes members record)
    {given : List (String × Json)}
    (found : ∀ member ∈ members, Json.lookup? given member.1 = some member.2) (type : String) :
    fields.decode type (.object given) = .ok record := by
  rw [decode, written.testMembers_eq_ok found]
  apply written.built
  intro position member located
  simp only [found member (List.mem_of_getElem? located)]

/-- A record is decoded from the object of the members that it is written as. -/
theorem Writes.decode_members (written : fields.Writes members record)
    (distinct : (members.map Prod.fst).Nodup) (type : String) :
    fields.decode type (.object members) = .ok record :=
  written.decode_object (fun _ member => Json.lookup?_of_mem distinct member) type

/-- A record is decoded from the array of the values that it is written with. -/
theorem Writes.decode_array (written : fields.Writes members record) (type : String) :
    fields.decode type (.array (members.map Prod.snd)) = .ok record := by
  rw [decode, bind_eq_ok_iff]
  refine ⟨record, ?_, ?_⟩
  · apply written.built
    intro position member located
    rw [Nat.zero_add, List.getElem?_map, located]
    rfl
  · rw [List.length_map, written.tested.length_eq, if_neg (Nat.lt_irrefl _)]

/-- A record that is decoded has been built. -/
theorem exists_build_of_decode {type : String} {value : Json}
    (decoded : fields.decode type value = .ok record) :
    ∃ source place, fields.build source place = .ok record := by
  cases value with
  | object members =>
      rw [decode, bind_eq_ok_iff] at decoded
      obtain ⟨_, -, built⟩ := decoded
      exact ⟨_, _, built⟩
  | array items =>
      rw [decode, bind_eq_ok_iff] at decoded
      obtain ⟨other, built, complete⟩ := decoded
      split at complete
      next => cases complete
      next =>
        cases complete
        exact ⟨_, _, built⟩
  | null | boolean | integer | decimal | string => cases decoded

/-- A record with a last field is built from the part that this field is decoded to. -/
theorem exists_of_build_field {fields : Fields (α → β)} {name : String} {decode : Decoder α}
    {source : Nat → String → Except DecodeFault Json} {place : Nat} {record : β}
    (built : (fields.field name decode).build source place = .ok record) :
    ∃ make value part, fields.build source place = .ok make ∧ decode value = .ok part ∧
      make part = record := by
  simp only [Fields.field, bind_eq_ok_iff] at built
  obtain ⟨make, earlier, value, -, part, decoded, rest⟩ := built
  exact ⟨make, value, part, earlier, decoded, Except.ok.inj rest⟩

end Fields

/-! ## Values that are decoded as they were written -/

namespace Decoder

variable {α : Type} {decode : Decoder α} {encode : α → Json}

/-- Whether everything is decoded as it was written. -/
def Inverts (decode : Decoder α) (encode : α → Json) : Prop :=
  ∀ record, decode (encode record) = .ok record

/-- Whether everything that was decoded once is decoded as it was written, so that to decode and
write a second time changes nothing. -/
structure Settles (decode : Decoder α) (encode : α → Json) : Prop where
  again : ∀ value record, decode value = .ok record → decode (encode record) = .ok record
  idempotent : ∀ value written, encode <$> decode value = .ok written →
    encode <$> decode written = .ok written

theorem Settles.of_again
    (again : ∀ value record, decode value = .ok record → decode (encode record) = .ok record) :
    Settles decode encode := by
  refine ⟨again, ?_⟩
  intro value written recoded
  cases decoded : decode value with
  | error fault =>
      rw [decoded] at recoded
      cases recoded
  | ok record =>
      rw [decoded] at recoded
      cases recoded
      rw [again value record decoded]
      rfl

theorem Inverts.settles (inverts : Inverts decode encode) : Settles decode encode :=
  .of_again fun _ record _ => inverts record

theorem Inverts.list (inverts : Inverts decode encode) :
    Inverts (Decoder.list decode) fun records => .array (records.map encode) := by
  intro records
  change (records.map encode).mapM decode = .ok records
  induction records with
  | nil => rfl
  | cons record records ih =>
      rw [List.map_cons, List.mapM_cons, inverts record, ih]
      rfl

theorem text_inverts : Inverts Decoder.text Json.string := fun _ => rfl

end Decoder

open Decoder

/-! ## Enumerations -/

theorem HavingOperator.decode_inverts : Inverts HavingOperator.decode HavingOperator.toJson := by
  intro operator
  cases operator <;> rfl

theorem ScenarioKind.decode_inverts : Inverts ScenarioKind.decode ScenarioKind.toJson := by
  intro kind
  cases kind <;> rfl

theorem Criticality.decode_inverts : Inverts Criticality.decode Criticality.toJson := by
  intro criticality
  cases criticality <;> rfl

theorem TestIntent.decode_inverts : Inverts TestIntent.decode TestIntent.toJson := by
  intro intent
  cases intent <;> rfl

/-- An operator of a filter is decoded to the one that its text is read as. -/
theorem FilterOperator.decode_toJson (operator : FilterOperator) :
    decode operator.toJson = .ok (ofText operator.text) := rfl

theorem FilterOperator.decode_settles : Settles decode toJson := by
  apply Settles.of_again
  intro value operator decoded
  cases value with
  | string text =>
      cases decoded
      rw [decode_toJson, ofText_text_ofText]
  | null | boolean | integer | decimal | array | object => cases decoded

/-! ## Conditions and scenarios -/

theorem JoinCondition.decode_inverts : Inverts JoinCondition.decode JoinCondition.toJson := by
  intro join
  have written := ((Fields.writes_pure JoinCondition.mk).field "leftColumn"
    (text_inverts join.leftColumn)).field "rightColumn" (text_inverts join.rightColumn)
  exact written.decode_members (by simp) "JoinCondition"

theorem AggregateCondition.decode_inverts :
    Inverts AggregateCondition.decode AggregateCondition.toJson := by
  intro aggregate
  have written := ((Fields.writes_pure AggregateCondition.mk).field "function"
    (text_inverts aggregate.function)).field "column" (text_inverts aggregate.column)
  exact written.decode_members (by simp) "AggregateCondition"

theorem HavingCondition.decode_inverts :
    Inverts HavingCondition.decode HavingCondition.toJson := by
  intro having
  have written := ((((Fields.writes_pure HavingCondition.mk).field "function"
    (text_inverts having.function)).field "column" (text_inverts having.column)).field "operator"
    (HavingOperator.decode_inverts having.operator)).field "value" (text_inverts having.value)
  exact written.decode_members (by simp) "HavingCondition"

theorem CaseCondition.decode_inverts : Inverts CaseCondition.decode CaseCondition.toJson := by
  intro branch
  have written := ((Fields.writes_pure CaseCondition.mk).field "condition"
    (text_inverts branch.condition)).field "result" (text_inverts branch.result)
  exact written.decode_members (by simp) "CaseCondition"

theorem Scenario.decode_inverts : Inverts Scenario.decode Scenario.toJson := by
  intro scenario
  have written := (((((Fields.writes_pure Scenario.mk).field "id"
    (text_inverts scenario.id)).field "description"
    (text_inverts scenario.description)).field "expectedResult"
    (text_inverts scenario.expectedResult)).field "scenarioType"
    (ScenarioKind.decode_inverts scenario.kind)).field "criticality"
    (Criticality.decode_inverts scenario.criticality)
  exact written.decode_members (by simp) "Scenario"

/-- A filter is decoded with the operator that the text of its operator is read as. -/
theorem FilterCondition.decode_toJson (filter : FilterCondition) :
    decode filter.toJson = .ok { filter with operator := .ofText filter.operator.text } := by
  have written := (((Fields.writes_pure FilterCondition.mk).field "column"
    (text_inverts filter.column)).field "operator"
    (FilterOperator.decode_toJson filter.operator)).field "values"
    (text_inverts.list filter.values)
  exact written.decode_members (by simp) "FilterCondition"

/-- The operator of a filter that was decoded is the one that its text is read as. -/
theorem FilterCondition.ofText_text_of_decode {value : Json} {filter : FilterCondition}
    (decoded : decode value = .ok filter) :
    FilterOperator.ofText filter.operator.text = filter.operator := by
  obtain ⟨source, place, built⟩ := Fields.exists_build_of_decode decoded
  obtain ⟨complete, _, values, builtTwo, -, rfl⟩ := Fields.exists_of_build_field built
  obtain ⟨withOperator, operatorValue, operator, builtOne, operatorDecoded, rfl⟩ :=
    Fields.exists_of_build_field builtTwo
  obtain ⟨make, _, column, builtNone, -, rfl⟩ := Fields.exists_of_build_field builtOne
  cases builtNone
  have settled := FilterOperator.decode_settles.again operatorValue operator operatorDecoded
  exact Except.ok.inj settled

theorem FilterCondition.decode_settles : Settles decode toJson := by
  apply Settles.of_again
  intro value filter decoded
  rw [decode_toJson, ofText_text_of_decode decoded]

/-- What has been decoded once is decoded as it was written, for every kind of record and of
enumeration, however it was written before.  All records but filters and their operators are decoded
as they were made.  A filter is decoded as it was made exactly if its operator is none without a
name whose text begins or ends with a blank, or is a name in some letter case. -/
theorem records_settle :
    (Settles FilterCondition.decode FilterCondition.toJson ∧
      Settles FilterOperator.decode FilterOperator.toJson ∧
      Settles JoinCondition.decode JoinCondition.toJson ∧
      Settles AggregateCondition.decode AggregateCondition.toJson ∧
      Settles HavingCondition.decode HavingCondition.toJson ∧
      Settles HavingOperator.decode HavingOperator.toJson ∧
      Settles CaseCondition.decode CaseCondition.toJson ∧
      Settles Scenario.decode Scenario.toJson ∧
      Settles ScenarioKind.decode ScenarioKind.toJson ∧
      Settles Criticality.decode Criticality.toJson ∧
      Settles TestIntent.decode TestIntent.toJson) ∧
    (Inverts JoinCondition.decode JoinCondition.toJson ∧
      Inverts AggregateCondition.decode AggregateCondition.toJson ∧
      Inverts HavingCondition.decode HavingCondition.toJson ∧
      Inverts HavingOperator.decode HavingOperator.toJson ∧
      Inverts CaseCondition.decode CaseCondition.toJson ∧
      Inverts Scenario.decode Scenario.toJson ∧
      Inverts ScenarioKind.decode ScenarioKind.toJson ∧
      Inverts Criticality.decode Criticality.toJson ∧
      Inverts TestIntent.decode TestIntent.toJson) ∧
    ∀ filter : FilterCondition, FilterCondition.decode filter.toJson = .ok filter ↔
      ¬ ∃ text, filter.operator = .other text ∧
        ((∃ c, (c ∈ text.toList.head? ∨ c ∈ text.toList.getLast?) ∧ Text.isBlank c = true) ∨
          text.map Char.toUpper ∈ ["=", ">", "BETWEEN", "IN", "IN_SUBQUERY"]) := by
  refine ⟨?_, ?_, ?_⟩
  · exact ⟨FilterCondition.decode_settles, FilterOperator.decode_settles,
      JoinCondition.decode_inverts.settles, AggregateCondition.decode_inverts.settles,
      HavingCondition.decode_inverts.settles, HavingOperator.decode_inverts.settles,
      CaseCondition.decode_inverts.settles, Scenario.decode_inverts.settles,
      ScenarioKind.decode_inverts.settles, Criticality.decode_inverts.settles,
      TestIntent.decode_inverts.settles⟩
  · exact ⟨JoinCondition.decode_inverts, AggregateCondition.decode_inverts,
      HavingCondition.decode_inverts, HavingOperator.decode_inverts, CaseCondition.decode_inverts,
      Scenario.decode_inverts, ScenarioKind.decode_inverts, Criticality.decode_inverts,
      TestIntent.decode_inverts⟩
  · intro filter
    rw [FilterCondition.decode_toJson, ← FilterOperator.names,
      ← FilterOperator.ofText_text_eq_self_iff]
    constructor
    · intro same
      exact congrArg FilterCondition.operator (Except.ok.inj same)
    · intro same
      rw [same]

theorem records_settle_spellings :
    let given : Json := .object [("values", .array [.string "1"]), ("note", .null),
      ("operator", .string " between "), ("column", .string "a")]
    let filter : FilterCondition := ⟨"a", .between, ["1"]⟩
    let join : JoinCondition := ⟨"x", "y"⟩
    (FilterCondition.decode given = .ok filter ∧
      FilterCondition.decode filter.toJson = .ok filter) ∧
    (JoinCondition.decode (.array [.string "x", .string "y"]) = .ok join ∧
      JoinCondition.decode join.toJson = .ok join) ∧
    (Criticality.decode (.object [("LOW", .null)]) = .ok .low ∧
      Criticality.decode (Criticality.toJson .low) = .ok .low ∧
      Criticality.decode (Criticality.toJson .critical) = .ok .critical) ∧
    FilterCondition.decode (FilterCondition.toJson ⟨"a", .other "LIKE", []⟩) =
      .ok ⟨"a", .other "LIKE", []⟩ ∧
    FilterCondition.decode (FilterCondition.toJson ⟨"a", .other "LIKE ", []⟩) ≠
      .ok ⟨"a", .other "LIKE ", []⟩ ∧
    FilterCondition.decode (FilterCondition.toJson ⟨"a", .other "in", []⟩) ≠
      .ok ⟨"a", .other "in", []⟩ := by
  intro given filter join
  obtain ⟨⟨filters, -, joins, -, -, -, -, -, -, criticalities, -⟩,
    ⟨-, -, -, -, -, -, -, madeCriticalities, -⟩, exactly⟩ := records_settle
  have padded : FilterOperator.decode (.string " between ") = .ok .between :=
    congrArg Except.ok (show FilterOperator.ofText " between " = .between by decide +kernel)
  have filterGiven : FilterCondition.decode given = .ok filter := by
    have written := (((Fields.writes_pure FilterCondition.mk).field "column"
      (text_inverts "a")).field "operator" padded).field "values" (text_inverts.list ["1"])
    apply written.decode_object
    simp [Json.lookup?, List.lookup_cons]
  have joinGiven : JoinCondition.decode (.array [.string "x", .string "y"]) = .ok join :=
    (((Fields.writes_pure JoinCondition.mk).field "leftColumn" (text_inverts "x")).field
      "rightColumn" (text_inverts "y")).decode_array "JoinCondition"
  have lowGiven : Criticality.decode (.object [("LOW", .null)]) = .ok .low := rfl
  refine ⟨⟨filterGiven, filters.again given filter filterGiven⟩,
    ⟨joinGiven, joins.again _ join joinGiven⟩,
    ⟨lowGiven, criticalities.again _ _ lowGiven, madeCriticalities .critical⟩,
    (exactly _).mpr ?_, fun kept => (exactly _).mp kept ?_, fun kept => (exactly _).mp kept ?_⟩
  · rintro ⟨text, same, altered⟩
    cases same
    rcases altered with ⟨c, ends, blank⟩ | named
    · have ends : c = 'L' ∨ c = 'E' := by simpa [eq_comm] using ends
      rcases ends with rfl | rfl <;> cases blank
    · exact absurd named (by decide +kernel)
  · exact ⟨"LIKE ", rfl, .inl ⟨' ', .inr (by decide +kernel), rfl⟩⟩
  · exact ⟨"in", rfl, .inr (by decide +kernel)⟩

end SqlScenarios
