import Mathlib.Data.List.DropRight
import SqlScenarios.Condition.Filter

/-!
# Texts of operators

The text of an operator is read without the blanks around it and in any letter case.  So an
operator is the one that its text is read as, unless it has no name and its text has blanks at an
end or is a name in some letter case.
-/

namespace SqlScenarios

/-! ## Texts without blanks at their ends -/

namespace Text

variable {chars : List Char} {text : String}

/-- Whether neither end of a sequence of characters is blank. -/
structure Trimmed (chars : List Char) : Prop where
  first : ∀ c ∈ chars.head?, isBlank c = false
  last : ∀ c ∈ chars.getLast?, isBlank c = false

theorem not_trimmed_iff : ¬ Trimmed chars ↔
    ∃ c, (c ∈ chars.head? ∨ c ∈ chars.getLast?) ∧ isBlank c = true := by
  constructor
  · intro untrimmed
    by_contra bare
    simp only [not_exists, not_and, Bool.not_eq_true] at bare
    exact untrimmed ⟨fun c first => bare c (.inl first), fun c last => bare c (.inr last)⟩
  · rintro ⟨c, first | last, blank⟩ trimmed
    · simp [trimmed.first c first] at blank
    · simp [trimmed.last c last] at blank

theorem trimChars_eq (chars : List Char) :
    trimChars chars = (chars.dropWhile isBlank).rdropWhile isBlank := rfl

theorem trimmed_trimChars (chars : List Char) : Trimmed (trimChars chars) := by
  rw [trimChars_eq]
  constructor
  · intro c first
    obtain ⟨removed, split⟩ := List.rdropWhile_prefix isBlank (chars.dropWhile isBlank)
    have before : c ∈ (chars.dropWhile isBlank).head? := by
      rw [← split, List.head?_append, Option.mem_def.mp first]
      rfl
    have notBlank := List.head?_dropWhile_not isBlank chars
    rw [Option.mem_def.mp before] at notBlank
    simpa using notBlank
  · intro c last
    obtain ⟨nonempty, same⟩ := List.mem_getLast?_eq_getLast last
    rw [same]
    simpa using List.rdropWhile_last_not isBlank (chars.dropWhile isBlank) nonempty

theorem Trimmed.trimChars_eq (trimmed : Trimmed chars) : trimChars chars = chars := by
  have front : chars.dropWhile isBlank = chars := by
    cases chars with
    | nil => rfl
    | cons c rest =>
        rw [List.dropWhile_cons_of_neg]
        simp [trimmed.first c rfl]
  rw [Text.trimChars_eq, front, List.rdropWhile_eq_self_iff]
  intro nonempty
  simp [trimmed.last _ (List.getLast_mem_getLast? nonempty)]

/-- Removing the blanks around a text changes it unless it has none at its ends. -/
theorem trim_eq_self_iff : trim text = text ↔ Trimmed text.toList := by
  rw [trim, ← String.toList_inj, String.toList_ofList]
  constructor
  · intro same
    rw [← same]
    exact trimmed_trimChars text.toList
  · exact Trimmed.trimChars_eq

theorem trim_trim (text : String) : trim (trim text) = trim text := by
  rw [trim_eq_self_iff, trim, String.toList_ofList]
  exact trimmed_trimChars text.toList

end Text

/-! ## Names of operators -/

namespace FilterOperator

variable {text : String} {operator : FilterOperator}

/-- The names of operators. -/
def names : List String := ["=", ">", "BETWEEN", "IN", "IN_SUBQUERY"]

/-- Whether an operator has no name. -/
def isOther : FilterOperator → Bool
  | other _ => true
  | _ => false

/-- A text that is a name in some letter case is read as the operator with this name. -/
theorem text_ofText_of_mem (named : (Text.trim text).map Char.toUpper ∈ names) :
    (ofText text).text = (Text.trim text).map Char.toUpper ∧ (ofText text).isOther = false := by
  simp only [names, List.mem_cons, List.not_mem_nil, or_false] at named
  rcases named with same | same | same | same | same <;>
    · rw [ofText, same]
      exact ⟨rfl, rfl⟩

/-- A text that is no name is kept. -/
theorem ofText_of_notMem (unnamed : (Text.trim text).map Char.toUpper ∉ names) :
    ofText text = .other (Text.trim text) := by
  simp only [names, List.mem_cons, List.not_mem_nil, or_false, not_or] at unnamed
  obtain ⟨equal, greater, between, isIn, inQuery⟩ := unnamed
  simp only [ofText]

theorem ofText_text_of_known (known : operator.isOther = false) :
    ofText operator.text = operator := by
  cases operator with
  | equal | greater | between | isIn | inQuery => decide +kernel
  | other text => cases known

/-- Reading the text of an operator that was read gives this operator again. -/
theorem ofText_text_ofText (text : String) : ofText (ofText text).text = ofText text := by
  by_cases named : (Text.trim text).map Char.toUpper ∈ names
  · exact ofText_text_of_known (text_ofText_of_mem named).2
  · rw [ofText_of_notMem named]
    change ofText (Text.trim text) = _
    rw [ofText_of_notMem (by rwa [Text.trim_trim]), Text.trim_trim]

/-- A text without a name is kept exactly if it has no blanks at its ends and is no name in some
letter case. -/
theorem ofText_eq_other_iff :
    ofText text = .other text ↔ Text.Trimmed text.toList ∧ text.map Char.toUpper ∉ names := by
  rw [← Text.trim_eq_self_iff]
  constructor
  · intro kept
    have unnamed : (Text.trim text).map Char.toUpper ∉ names := by
      intro named
      have known := (text_ofText_of_mem named).2
      rw [kept] at known
      cases known
    have trimmed : Text.trim text = text := by
      rw [ofText_of_notMem unnamed] at kept
      exact other.inj kept
    exact ⟨trimmed, by rwa [trimmed] at unnamed⟩
  · rintro ⟨trimmed, unnamed⟩
    rw [ofText_of_notMem (by rwa [trimmed]), trimmed]

/-- An operator is the one that its text is read as, unless it has no name and its text has a
blank at an end or is a name in some letter case. -/
theorem ofText_text_eq_self_iff (operator : FilterOperator) :
    ofText operator.text = operator ↔ ¬ ∃ text, operator = .other text ∧
      ((∃ c, (c ∈ text.toList.head? ∨ c ∈ text.toList.getLast?) ∧ Text.isBlank c = true) ∨
        text.map Char.toUpper ∈ names) := by
  cases known : operator.isOther with
  | false =>
      refine iff_of_true (ofText_text_of_known known) ?_
      rintro ⟨text, rfl, -⟩
      cases known
  | true =>
      cases operator with
      | equal | greater | between | isIn | inQuery => cases known
      | other text =>
          change ofText text = .other text ↔ _
          rw [ofText_eq_other_iff]
          simp only [other.injEq, ↓existsAndEq, true_and, not_or, ← Text.not_trimmed_iff, not_not]

end FilterOperator

end SqlScenarios
