import Mathlib.Data.List.Forall2
import SqlScenarios.Proofs.OperatorTexts
import SqlScenarios.Strategy.OperatorTable

/-!
# Spellings of operators

The text of an operator with a name can be spelled in several ways: with blanks of any kind around
it, and with its letters in either case.  Only the letters of ASCII have two cases here, so letters
that look alike do not count as the same.  All spellings of a text are read as the same operator,
and a text that is no spelling of a name is kept without the blanks around it.
-/

namespace SqlScenarios

namespace Text

variable {chars front back : List Char} {text core left right : String} {c d : Char}

/-! ## Blanks around a text -/

/-- A text is another one with blanks around it, and has none at its own ends. -/
def IsCore (core text : String) : Prop :=
  Trimmed core.toList ∧ ∃ front back, text.toList = front ++ core.toList ++ back ∧
    (∀ c ∈ front, isBlank c = true) ∧ ∀ c ∈ back, isBlank c = true

theorem rdropWhile_append_of_blank (blank : ∀ c ∈ back, isBlank c = true) :
    (chars ++ back).rdropWhile isBlank = chars.rdropWhile isBlank := by
  have blankReversed : ∀ c ∈ back.reverse, isBlank c = true := by
    intro c member
    exact blank c (List.mem_reverse.mp member)
  rw [List.rdropWhile, List.reverse_append, List.dropWhile_append_of_pos blankReversed,
    List.rdropWhile]

/-- Further blanks around some characters are removed with the others. -/
theorem trimChars_append (blankFront : ∀ c ∈ front, isBlank c = true)
    (blankBack : ∀ c ∈ back, isBlank c = true) :
    trimChars (front ++ chars ++ back) = trimChars chars := by
  rw [trimChars_eq, trimChars_eq, List.append_assoc, List.dropWhile_append_of_pos blankFront,
    List.dropWhile_append]
  cases rest : chars.dropWhile isBlank with
  | nil =>
      rw [List.dropWhile_eq_nil_iff.mpr blankBack]
      rfl
  | cons first others => exact rdropWhile_append_of_blank blankBack

theorem exists_append_trimChars (chars : List Char) :
    ∃ front back, chars = front ++ trimChars chars ++ back ∧
      (∀ c ∈ front, isBlank c = true) ∧ ∀ c ∈ back, isBlank c = true := by
  refine ⟨chars.takeWhile isBlank, (chars.dropWhile isBlank).rtakeWhile isBlank, ?_, ?_, ?_⟩
  · rw [trimChars_eq, List.append_assoc, List.rdropWhile_append_rtakeWhile,
      List.takeWhile_append_dropWhile]
  · intro c member
    exact List.mem_takeWhile_imp member
  · intro c member
    exact List.mem_rtakeWhile_imp member

/-- Every text has one core, which is left when the blanks around the text are removed. -/
theorem isCore_iff : IsCore core text ↔ trim text = core := by
  rw [trim, ← String.toList_inj, String.toList_ofList]
  constructor
  · intro isCore
    rcases isCore with ⟨trimmed, front, back, split, blankFront, blankBack⟩
    rw [split, trimChars_append blankFront blankBack, trimmed.trimChars_eq]
  · intro same
    rcases exists_append_trimChars text.toList with ⟨front, back, split, blank⟩
    rw [same] at split
    refine ⟨?_, front, back, split, blank⟩
    rw [← same]
    exact trimmed_trimChars text.toList

/-! ## Letter case -/

/-- The letters of ASCII in both cases. -/
def letters : List (Char × Char) :=
  "abcdefghijklmnopqrstuvwxyz".toList.zip "ABCDEFGHIJKLMNOPQRSTUVWXYZ".toList

/-- Two characters are the same, or one letter in two cases. -/
def SameLetter (c d : Char) : Prop := c = d ∨ (c, d) ∈ letters ∨ (d, c) ∈ letters

/-- Two texts are the same but for the cases of their letters. -/
def SameButCase (left right : String) : Prop :=
  List.Forall₂ SameLetter left.toList right.toList

instance : DecidableRel SameLetter := fun c d =>
  inferInstanceAs (Decidable (c = d ∨ (c, d) ∈ letters ∨ (d, c) ∈ letters))

instance : DecidableRel SameButCase := fun left right =>
  inferInstanceAs (Decidable (List.Forall₂ SameLetter left.toList right.toList))

theorem toUpper_of_mem_letters (pair : (c, d) ∈ letters) : c.toUpper = d ∧ d.toUpper = d := by
  have all : ∀ pair ∈ letters, pair.1.toUpper = pair.2 ∧ pair.2.toUpper = pair.2 := by
    decide +kernel
  exact all (c, d) pair

theorem lower_eq_of_mem_letters {upper : Char} (first : (c, upper) ∈ letters)
    (second : (d, upper) ∈ letters) : c = d := by
  have all : ∀ pair ∈ letters, ∀ other ∈ letters, pair.2 = other.2 → pair.1 = other.1 := by
    decide +kernel
  exact all _ first _ second rfl

/-- A character that is changed by writing it in upper case is a letter. -/
theorem toUpper_eq_or_mem_letters (c : Char) : c.toUpper = c ∨ (c, c.toUpper) ∈ letters := by
  by_cases lower : 'a'.val ≤ c.val ∧ c.val ≤ 'z'.val
  · right
    have all : ∀ n : Fin 26,
        (Char.ofNat (97 + n), (Char.ofNat (97 + n)).toUpper) ∈ letters := by
      decide +kernel
    have low : 97 ≤ c.toNat := UInt32.le_iff_toNat_le.mp lower.1
    have high : c.toNat ≤ 122 := UInt32.le_iff_toNat_le.mp lower.2
    have letter := all ⟨c.toNat - 97, by omega⟩
    rwa [Nat.add_sub_cancel' low, Char.ofNat_toNat] at letter
  · left
    exact dif_neg lower

theorem toUpper_eq_iff : c.toUpper = d.toUpper ↔ SameLetter c d := by
  constructor
  · intro same
    rcases toUpper_eq_or_mem_letters c with upper | pair
    · rcases toUpper_eq_or_mem_letters d with otherUpper | otherPair
      · exact .inl (upper.symm.trans (same.trans otherUpper))
      · rw [← same, upper] at otherPair
        exact .inr (.inr otherPair)
    · rcases toUpper_eq_or_mem_letters d with otherUpper | otherPair
      · rw [same, otherUpper] at pair
        exact .inr (.inl pair)
      · rw [same] at pair
        exact .inl (lower_eq_of_mem_letters pair otherPair)
  · intro same
    rcases same with rfl | pair | pair
    · rfl
    · exact (toUpper_of_mem_letters pair).1.trans (toUpper_of_mem_letters pair).2.symm
    · exact (toUpper_of_mem_letters pair).2.trans (toUpper_of_mem_letters pair).1.symm

/-- Two texts are the same but for case if they are the same in upper case. -/
theorem map_toUpper_eq_iff : left.map Char.toUpper = right.map Char.toUpper ↔
    SameButCase left right := by
  rw [← String.toList_inj, String.toList_map, String.toList_map, SameButCase,
    ← List.forall₂_eq_eq_eq, List.forall₂_map_left_iff, List.forall₂_map_right_iff]
  simp only [toUpper_eq_iff]

/-- Blanks have no case. -/
theorem isBlank_toUpper (c : Char) : isBlank c.toUpper = isBlank c := by
  rcases toUpper_eq_or_mem_letters c with upper | pair
  · rw [upper]
  · have all : ∀ pair ∈ letters, isBlank pair.2 = isBlank pair.1 := by decide +kernel
    exact all (c, c.toUpper) pair

theorem trimChars_map {f : Char → Char} (keeps : ∀ c, isBlank (f c) = isBlank c)
    (chars : List Char) : trimChars (chars.map f) = (trimChars chars).map f := by
  have blanks : isBlank ∘ f = isBlank := funext keeps
  rw [trimChars, trimChars, dropBlankEnd, dropBlankEnd, List.dropWhile_map, blanks,
    ← List.map_reverse, List.dropWhile_map, blanks, ← List.map_reverse]

/-- It makes no difference whether the blanks around a text are removed before its characters are
changed or after, if the change keeps the blanks. -/
theorem trim_map {f : Char → Char} (keeps : ∀ c, isBlank (f c) = isBlank c) (text : String) :
    trim (text.map f) = (trim text).map f := by
  rw [← String.toList_inj, String.toList_map, trim, trim, String.toList_ofList,
    String.toList_ofList, String.toList_map, trimChars_map keeps]

end Text

/-! ## Spellings of names -/

namespace FilterOperator

variable {text changed : String} {operator : FilterOperator}

theorem map_toUpper_text_of_known (known : operator.isOther = false) :
    operator.text.map Char.toUpper = operator.text := by
  cases operator with
  | equal | greater | between | isIn | inQuery => decide +kernel
  | other text => cases known

/-- Which operator a text is read as depends on its core in upper case, if this is a name. -/
theorem ofText_eq_iff_map_toUpper (known : operator.isOther = false) :
    ofText text = operator ↔ (Text.trim text).map Char.toUpper = operator.text := by
  constructor
  · intro read
    by_cases named : (Text.trim text).map Char.toUpper ∈ names
    · rw [← (text_ofText_of_mem named).1, read]
    · rw [← read, ofText_of_notMem named] at known
      cases known
  · intro same
    cases operator with
    | equal | greater | between | isIn | inQuery => rw [ofText, same]; rfl
    | other text => cases known

/-- A text is read as an operator with a name if it spells the name, and all other texts are
kept. -/
theorem ofText_eq_iff (known : operator.isOther = false) :
    ofText text = operator ↔ Text.SameButCase (Text.trim text) operator.text := by
  rw [ofText_eq_iff_map_toUpper known, ← Text.map_toUpper_eq_iff, map_toUpper_text_of_known known]

theorem ofText_eq_other (unnamed : ∀ operator : FilterOperator, operator.isOther = false →
    ¬ Text.SameButCase (Text.trim text) operator.text) :
    ofText text = .other (Text.trim text) := by
  by_cases named : (Text.trim text).map Char.toUpper ∈ names
  · have known := (text_ofText_of_mem named).2
    exact absurd ((ofText_eq_iff known).mp rfl) (unnamed (ofText text) known)
  · exact ofText_of_notMem named

/-- Another spelling of the text of an operator: with blanks around it, or, for an operator with a
name, with letters in other cases. -/
inductive Respelled (text : String) : String → Prop where
  | padded {front back : String} :
      (∀ c ∈ front.toList, Text.isBlank c = true) → (∀ c ∈ back.toList, Text.isBlank c = true) →
      Respelled text (front ++ text ++ back)
  | recased {changed : String} :
      (ofText text).isOther = false → Text.SameButCase text changed → Respelled text changed

theorem Respelled.ofText_eq (respelled : Respelled text changed) :
    ofText changed = ofText text := by
  cases respelled with
  | @padded front back blankFront blankBack =>
      have same : Text.trim (front ++ text ++ back) = Text.trim text := by
        rw [Text.trim, String.toList_append, String.toList_append,
          Text.trimChars_append blankFront blankBack, Text.trim]
      simp only [ofText, same]
  | recased known same =>
      rw [ofText_eq_iff_map_toUpper known, ← Text.trim_map Text.isBlank_toUpper,
        ← Text.map_toUpper_eq_iff.mpr same, Text.trim_map Text.isBlank_toUpper]
      exact (ofText_eq_iff_map_toUpper known).mp rfl

end FilterOperator

/-- A text is read as an operator with a name exactly if it is the name without the blanks around
it and but for the cases of its letters, and is kept without the blanks around it if it is no name.
Reading the text of what was read changes nothing.  So a filter has the same fault, worded alike,
and the same scenarios if the text of its operator is spelled in another way. -/
theorem spellings_read_alike :
    (∀ text : String, Text.IsCore (Text.trim text) text ∧
      (∀ operator : FilterOperator, operator.isOther = false →
        (FilterOperator.ofText text = operator ↔
          Text.SameButCase (Text.trim text) operator.text)) ∧
      ((∀ operator : FilterOperator, operator.isOther = false →
          ¬ Text.SameButCase (Text.trim text) operator.text) →
        FilterOperator.ofText text = .other (Text.trim text))) ∧
    (∀ text : String,
      FilterOperator.ofText (FilterOperator.ofText text).text = FilterOperator.ofText text) ∧
    (∀ text changed : String, FilterOperator.Respelled text changed →
      ∀ (column : String) (values : List String),
        let filter (text : String) : FilterCondition := ⟨column, .ofText text, values⟩
        (filter changed).check = (filter text).check ∧
        ∀ ids, (filter changed).expand ids = (filter text).expand ids) := by
  refine ⟨?_, ?_, ?_⟩
  · intro text
    refine ⟨Text.isCore_iff.mpr rfl, ?_, ?_⟩
    · intro operator known
      exact FilterOperator.ofText_eq_iff known
    · intro unnamed
      exact FilterOperator.ofText_eq_other unnamed
  · intro text
    exact FilterOperator.ofText_text_ofText text
  · intro text changed respelled column values filter
    have same : filter changed = filter text := by
      simp only [filter, respelled.ofText_eq]
    rw [same]
    exact ⟨rfl, fun _ => rfl⟩

/-- The text `ıN` has a letter that only looks like one of `IN`. -/
theorem spellings_read_alike_mixed :
    FilterOperator.between.isOther = false ∧
    FilterOperator.ofText "\u2003beTween\n" = .between ∧
    (∀ operator : FilterOperator, operator.isOther = false →
      ¬ Text.SameButCase (Text.trim " ıN\u00a0") operator.text) ∧
    FilterOperator.ofText " ıN\u00a0" = .other (Text.trim " ıN\u00a0") ∧
    FilterOperator.Respelled " Between" " beTween" ∧
    FilterCondition.check ⟨"a", .ofText " beTween", ["1"]⟩ =
      FilterCondition.check ⟨"a", .ofText " Between", ["1"]⟩ := by
  have known : FilterOperator.between.isOther = false := rfl
  have spelled : Text.SameButCase (Text.trim "\u2003beTween\n") FilterOperator.between.text := by
    decide +kernel
  have unnamed : ∀ operator : FilterOperator, operator.isOther = false →
      ¬ Text.SameButCase (Text.trim " ıN\u00a0") operator.text := by
    intro operator known
    cases operator with
    | equal | greater | between | isIn | inQuery => decide +kernel
    | other text => cases known
  have between : FilterOperator.ofText " Between" = .between := by
    apply (FilterOperator.ofText_eq_iff known).mpr
    decide +kernel
  have respelled : FilterOperator.Respelled " Between" " beTween" := by
    apply FilterOperator.Respelled.recased
    · rw [between, known]
    · decide +kernel
  refine ⟨known, ?_, unnamed, ?_, respelled, ?_⟩
  · exact ((spellings_read_alike.1 "\u2003beTween\n").2.1 .between known).mpr spelled
  · exact (spellings_read_alike.1 " ıN\u00a0").2.2 unnamed
  · exact (spellings_read_alike.2.2 " Between" " beTween" respelled "a" ["1"]).1

end SqlScenarios
