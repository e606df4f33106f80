import Mathlib.Data.List.DropRight
import SqlScenarios.Output.Report

/-!
# Reading tables

A row of a table is read by taking the text between its first and its last pipe, splitting it
at the pipes that no backslash hides, removing the space on either side of each cell and
undoing the escapes.  Reading a row of escaped texts gives the texts back, except that each
of their line breaks has become a mark.
-/

namespace SqlScenarios

/-! ## Lines -/

/-- Whether a character breaks a line. -/
def IsBreak (c : Char) : Prop := c = '\r' ∨ c = '\n'

instance : DecidablePred IsBreak := fun c => inferInstanceAs (Decidable (c = '\r' ∨ c = '\n'))

/-- Whether a text stays on one line. -/
def Unbroken (text : List Char) : Prop := ∀ c ∈ text, ¬ IsBreak c

instance : DecidablePred Unbroken := fun text => List.decidableBAll _ text

theorem Unbroken.nil : Unbroken [] := List.forall_mem_nil _

theorem unbroken_cons_iff {c : Char} {text : List Char} :
    Unbroken (c :: text) ↔ ¬ IsBreak c ∧ Unbroken text :=
  List.forall_mem_cons

theorem Unbroken.append {first second : List Char} (firstUnbroken : Unbroken first)
    (secondUnbroken : Unbroken second) : Unbroken (first ++ second) :=
  List.forall_mem_append.mpr ⟨firstUnbroken, secondUnbroken⟩

/-- The lines of a text.  A carriage return and a line feed together break one line. -/
def lines : List Char → List (List Char)
  | [] => [[]]
  | '\r' :: '\n' :: rest => [] :: lines rest
  | c :: rest => if IsBreak c then [] :: lines rest else (lines rest).modifyHead (c :: ·)

/-- A text in which each line break has become a mark. -/
def markBreaks (text : String) : String :=
  String.ofList (lineBreakMark.intercalate (lines text.toList))

theorem lines_ne_nil (text : List Char) : lines text ≠ [] := by
  fun_induction lines text with
  | case1 | case2 | case3 => simp
  | case4 c rest _ _ ih => simpa using ih

theorem lines_cons {c : Char} (unbroken : ¬ IsBreak c) (rest : List Char) :
    lines (c :: rest) = (lines rest).modifyHead (c :: ·) := by
  rw [lines, if_neg unbroken]
  rintro tail rfl
  exact absurd (.inl rfl) unbroken

/-- Text without a break is put in front of the first line. -/
theorem lines_append {line : List Char} (unbroken : Unbroken line) (rest : List Char) :
    lines (line ++ rest) = (lines rest).modifyHead (line ++ ·) := by
  induction line with
  | nil => exact (congrFun List.modifyHead_id _).symm
  | cons c line ih =>
      rw [unbroken_cons_iff] at unbroken
      rw [List.cons_append, lines_cons unbroken.1, ih unbroken.2, List.modifyHead_modifyHead]
      rfl

theorem lines_eq_singleton {line : List Char} (unbroken : Unbroken line) :
    lines line = [line] := by
  have alone := lines_append unbroken []
  rwa [List.append_nil, lines, List.modifyHead_cons, List.append_nil] at alone

/-- A line feed ends a line. -/
theorem lines_append_newline {line : List Char} (unbroken : Unbroken line) (rest : List Char) :
    lines (line ++ '\n' :: rest) = line :: lines rest := by
  have feed : lines ('\n' :: rest) = [] :: lines rest := by
    rw [lines, if_pos (.inr rfl)]
    simp
  rw [lines_append unbroken, feed, List.modifyHead_cons, List.append_nil]

/-- The lines of a text of lines, and of what follows them. -/
theorem lines_flatMap_append {pieces : List (List Char)}
    (unbroken : ∀ piece ∈ pieces, Unbroken piece) (rest : List Char) :
    lines ((pieces.flatMap (· ++ ['\n'])) ++ rest) = pieces ++ lines rest := by
  induction pieces with
  | nil => rfl
  | cons piece pieces ih =>
      rw [List.forall_mem_cons] at unbroken
      rw [List.flatMap_cons, List.append_assoc, List.append_assoc, List.singleton_append,
        lines_append_newline unbroken.1, ih unbroken.2, List.cons_append]

/-! ## Plain texts -/

/-- Whether a character stands for itself inside a cell. -/
def IsPlain (c : Char) : Prop := c ≠ '|' ∧ c ≠ '\\' ∧ ¬ IsBreak c

instance : DecidablePred IsPlain := fun c =>
  inferInstanceAs (Decidable (c ≠ '|' ∧ c ≠ '\\' ∧ ¬ IsBreak c))

theorem isPlain_of_isDigit {c : Char} (digit : c.isDigit = true) : IsPlain c := by
  refine ⟨?_, ?_, ?_⟩
  · rintro rfl
    cases digit
  · rintro rfl
    cases digit
  · rintro (rfl | rfl) <;> cases digit

/-- Whether a text stands for itself inside a cell. -/
def Plain (text : List Char) : Prop := ∀ c ∈ text, IsPlain c

instance : DecidablePred Plain := fun text => List.decidableBAll _ text

namespace Plain

theorem toString (number : Nat) : Plain (toString number).toList := by
  intro c member
  rw [Nat.toString_eq_repr, Nat.toList_repr] at member
  exact isPlain_of_isDigit (Nat.isDigit_of_mem_toDigits (by decide) (by decide) member)

theorem append {first second : List Char} (firstPlain : Plain first)
    (secondPlain : Plain second) : Plain (first ++ second) :=
  List.forall_mem_append.mpr ⟨firstPlain, secondPlain⟩

theorem unbroken {text : List Char} (plain : Plain text) : Unbroken text :=
  fun c member => (plain c member).2.2

theorem escapeCellChars_eq {text : List Char} (plain : Plain text) :
    escapeCellChars text = text := by
  induction text with
  | nil => rfl
  | cons c rest ih =>
      obtain ⟨⟨pipe, backslash, unbroken⟩, restPlain⟩ := List.forall_mem_cons.mp plain
      rw [escapeCellChars, if_neg backslash, if_neg pipe, ih restPlain]
      · exact congrArg (· ++ rest) (if_neg unbroken)
      · exact fun _ feed _ => unbroken (.inl feed)

theorem escapeCell_eq {text : String} (plain : Plain text.toList) : escapeCell text = text := by
  rw [escapeCell, plain.escapeCellChars_eq, String.ofList_toList]

theorem markBreaks_eq {text : String} (plain : Plain text.toList) : markBreaks text = text := by
  rw [markBreaks, lines_eq_singleton plain.unbroken, List.intercalate_singleton,
    String.ofList_toList]

end Plain

/-! ## Cells -/

/-- A text without its escapes, which are undone from left to right. -/
def unescape : List Char → List Char
  | '\\' :: '\\' :: rest => '\\' :: unescape rest
  | '\\' :: '|' :: rest => '|' :: unescape rest
  | c :: rest => c :: unescape rest
  | [] => []

/-- The cells of a row, which pipes separate.  A backslash hides what comes after it. -/
def splitCells : List Char → List (List Char)
  | [] => [[]]
  | '|' :: rest => [] :: splitCells rest
  | '\\' :: c :: rest => (splitCells rest).modifyHead ('\\' :: c :: ·)
  | c :: rest => (splitCells rest).modifyHead (c :: ·)

/-- The text between the first and the last pipe of a row. -/
def betweenPipes (row : List Char) : List Char :=
  (((row.dropWhile (· ≠ '|')).drop 1).rdropWhile (· ≠ '|')).dropLast

/-- A cell without the space on either side, if it has both. -/
def unpad? : List Char → Option (List Char)
  | ' ' :: rest => if rest.getLast? = some ' ' then some rest.dropLast else none
  | _ => none

/-- The texts of a row, if each of its cells has a space on either side. -/
def readRow? (row : List Char) : Option (List String) :=
  (splitCells (betweenPipes row)).mapM fun cell =>
    (unpad? cell).map fun text => String.ofList (unescape text)

theorem unescape_cons {c : Char} (plain : c ≠ '\\') (rest : List Char) :
    unescape (c :: rest) = c :: unescape rest := by
  rw [unescape]
  · exact fun _ backslash _ => plain backslash
  · exact fun _ backslash _ => plain backslash

theorem unescape_mark_append (rest : List Char) :
    unescape (lineBreakMark ++ rest) = lineBreakMark ++ unescape rest := by
  simp only [lineBreakMark, List.cons_append, List.nil_append]
  repeat rw [unescape_cons (by decide)]

theorem intercalate_modifyHead_cons (separator : List Char) (c : Char) {parts : List (List Char)}
    (nonempty : parts ≠ []) :
    separator.intercalate (parts.modifyHead (c :: ·)) = c :: separator.intercalate parts := by
  match parts, nonempty with
  | [part], _ => simp
  | part :: next :: parts, _ => simp [List.intercalate_cons_cons]

/-- Undoing the escapes of a text leaves its line breaks marked. -/
theorem unescape_escapeCellChars (text : List Char) :
    unescape (escapeCellChars text) = lineBreakMark.intercalate (lines text) := by
  fun_induction escapeCellChars text with
  | case1 => rfl
  | case2 rest ih =>
      rw [unescape_mark_append, ih, lines,
        List.intercalate_cons_of_ne_nil (lines_ne_nil rest), List.nil_append]
  | case3 c rest separate ih =>
      -- A break starts a line and nothing else does, whether or not the character is escaped.
      by_cases breaks : IsBreak c
      · have special : c ≠ '\\' ∧ c ≠ '|' := by rcases breaks with rfl | rfl <;> decide
        rw [if_neg special.1, if_neg special.2, if_pos (show c = '\r' ∨ c = '\n' from breaks),
          unescape_mark_append, ih, lines, if_pos breaks,
          List.intercalate_cons_of_ne_nil (lines_ne_nil rest), List.nil_append]
        exact separate
      · rw [lines_cons breaks, intercalate_modifyHead_cons _ _ (lines_ne_nil rest), ← ih]
        split_ifs with backslash pipe broken
        · rw [backslash]
          rfl
        · rw [pipe]
          rfl
        · exact absurd broken breaks
        · exact unescape_cons backslash _

/-- A text is sealed if no pipe of it separates cells, and it hides nothing of what follows. -/
def Sealed (text : List Char) : Prop :=
  ∀ rest, splitCells (text ++ rest) = (splitCells rest).modifyHead (text ++ ·)

namespace Sealed

theorem nil : Sealed [] := by
  intro rest
  exact (congrFun List.modifyHead_id _).symm

theorem append {first second : List Char} (firstSealed : Sealed first)
    (secondSealed : Sealed second) : Sealed (first ++ second) := by
  intro rest
  rw [List.append_assoc, firstSealed, secondSealed, List.modifyHead_modifyHead]
  simp [Function.comp_def]

theorem singleton {c : Char} (pipe : c ≠ '|') (backslash : c ≠ '\\') : Sealed [c] := by
  intro rest
  rw [List.singleton_append, splitCells]
  · rfl
  · exact pipe
  · exact fun _ _ same _ => backslash same

theorem hidden (c : Char) : Sealed ['\\', c] := by
  intro rest
  rfl

theorem of_plain {text : List Char} (plain : Plain text) : Sealed text := by
  induction text with
  | nil => exact nil
  | cons c text ih =>
      obtain ⟨⟨pipe, backslash, _⟩, restPlain⟩ := List.forall_mem_cons.mp plain
      exact (singleton pipe backslash).append (ih restPlain)

/-- Escaping a text seals it. -/
theorem escapeCellChars (text : List Char) : Sealed (escapeCellChars text) := by
  have mark : Sealed lineBreakMark := of_plain (by decide)
  fun_induction SqlScenarios.escapeCellChars text with
  | case1 => exact nil
  | case2 rest ih => exact mark.append ih
  | case3 c rest _ ih =>
      apply append _ ih
      split_ifs with backslash pipe
      · exact hidden '\\'
      · exact hidden '|'
      · exact mark
      · exact singleton pipe backslash

end Sealed

/-- An escaped text stays on one line. -/
theorem unbroken_escapeCellChars (text : List Char) : Unbroken (escapeCellChars text) := by
  have mark : Unbroken lineBreakMark := by decide
  fun_induction escapeCellChars text with
  | case1 => exact .nil
  | case2 rest ih => exact mark.append ih
  | case3 c rest _ ih =>
      apply Unbroken.append _ ih
      split_ifs with backslash pipe breaks
      · decide
      · decide
      · exact mark
      · exact unbroken_cons_iff.mpr ⟨breaks, .nil⟩

theorem Sealed.escapeCell (text : String) : Sealed (escapeCell text).toList := by
  rw [SqlScenarios.escapeCell, String.toList_ofList]
  exact .escapeCellChars text.toList

theorem unbroken_escapeCell (text : String) : Unbroken (escapeCell text).toList := by
  rw [escapeCell, String.toList_ofList]
  exact unbroken_escapeCellChars text.toList

/-! ## Rows -/

theorem splitCells_of_sealed {cell : List Char} (whole : Sealed cell) :
    splitCells cell = [cell] := by
  have alone := whole []
  rwa [List.append_nil, splitCells, List.modifyHead_cons, List.append_nil] at alone

/-- Sealed cells with pipes between them are split at these pipes alone. -/
theorem splitCells_intercalate {cells : List (List Char)} (nonempty : cells ≠ [])
    (whole : ∀ cell ∈ cells, Sealed cell) :
    splitCells (['|'].intercalate cells) = cells := by
  induction cells with
  | nil => exact absurd rfl nonempty
  | cons cell cells ih =>
      rw [List.forall_mem_cons] at whole
      cases cells with
      | nil => simpa using splitCells_of_sealed whole.1
      | cons next cells =>
          rw [List.intercalate_cons_cons, List.append_assoc, whole.1, List.singleton_append,
            splitCells, ih (by simp) whole.2, List.modifyHead_cons, List.append_nil]

/-- A cell with a space on either side. -/
def pad (cell : String) : List Char := ' ' :: (cell.toList ++ [' '])

theorem unpad?_pad (cell : String) : unpad? (pad cell) = some cell.toList := by
  simp [pad, unpad?]

theorem Sealed.pad {cell : String} (whole : Sealed cell.toList) : Sealed (pad cell) := by
  have space : Sealed [' '] := of_plain (by decide)
  exact space.append (whole.append space)

theorem flatMap_cons_eq_intercalate (separator : Char) {parts : List (List Char)}
    (nonempty : parts ≠ []) :
    parts.flatMap (separator :: ·) = separator :: [separator].intercalate parts := by
  induction parts with
  | nil => exact absurd rfl nonempty
  | cons part parts ih =>
      cases parts with
      | nil => simp
      | cons next parts =>
          rw [List.flatMap_cons, ih (by simp), List.intercalate_cons_cons, List.append_assoc]
          rfl

/-- A row has pipes between its cells, and one on either side. -/
theorem toList_tableRow {cells : List String} (nonempty : cells ≠ []) :
    (tableRow cells).toList = '|' :: (['|'].intercalate (cells.map pad) ++ ['|']) := by
  have joined : (tableRow cells).toList =
      (cells.map pad).flatMap (fun cell => '|' :: cell) ++ ['|'] := by
    rw [tableRow, String.toList_append, String.toList_join, List.flatMap_map, List.flatMap_map]
    simp [pad]
  rw [joined, flatMap_cons_eq_intercalate '|' (by simpa using nonempty), List.cons_append]

theorem unbroken_tableRow {cells : List String}
    (unbroken : ∀ cell ∈ cells, Unbroken cell.toList) : Unbroken (tableRow cells).toList := by
  have opening : Unbroken "| ".toList := by decide
  have closing : Unbroken "|".toList := by decide
  have space : Unbroken " ".toList := by decide
  rw [tableRow, String.toList_append, String.toList_join, List.flatMap_map]
  refine Unbroken.append ?_ closing
  intro c member
  obtain ⟨cell, inside, member⟩ := List.mem_flatMap.mp member
  rw [String.toList_append, String.toList_append] at member
  exact (opening.append (unbroken cell inside)).append space c member

/-- A row stays on one line exactly if each of its cells does. -/
theorem unbroken_tableRow_iff {cells : List String} :
    Unbroken (tableRow cells).toList ↔ ∀ cell ∈ cells, Unbroken cell.toList := by
  constructor
  · intro unbroken cell inside c member
    apply unbroken
    rw [tableRow, String.toList_append, String.toList_join, List.flatMap_map]
    apply List.mem_append_left
    rw [List.mem_flatMap]
    exact ⟨cell, inside, by simp [member]⟩
  · exact unbroken_tableRow

theorem betweenPipes_append (text : List Char) : betweenPipes ('|' :: (text ++ ['|'])) = text := by
  rw [betweenPipes, List.dropWhile_cons_of_neg (by simp), List.drop_one, List.tail_cons,
    List.rdropWhile_concat_neg _ _ _ (by simp), List.dropLast_concat]

/-- Sealed cells are read as the texts that they escape. -/
theorem readRow?_tableRow {cells : List String} (nonempty : cells ≠ [])
    (whole : ∀ cell ∈ cells, Sealed cell.toList) :
    readRow? (tableRow cells).toList =
      some (cells.map fun cell => String.ofList (unescape cell.toList)) := by
  have padded : ∀ cell ∈ cells.map pad, Sealed cell := by
    rintro _ member
    obtain ⟨cell, inside, rfl⟩ := List.mem_map.mp member
    exact (whole cell inside).pad
  rw [readRow?, toList_tableRow nonempty, betweenPipes_append,
    splitCells_intercalate (by simpa using nonempty) padded, List.mapM_map]
  simp only [Function.comp_def, unpad?_pad, Option.map_some]
  exact List.mapM_pure

/-- A row of escaped texts is read as these texts with their line breaks marked. -/
theorem readRow?_escaped {texts : List String} (nonempty : texts ≠ []) :
    readRow? (tableRow (texts.map escapeCell)).toList = some (texts.map markBreaks) := by
  have whole : ∀ cell ∈ texts.map escapeCell, Sealed cell.toList := by
    rintro _ member
    obtain ⟨text, _, rfl⟩ := List.mem_map.mp member
    exact .escapeCell text
  have read (text : String) :
      String.ofList (unescape (escapeCell text).toList) = markBreaks text := by
    rw [escapeCell, String.toList_ofList, unescape_escapeCellChars, markBreaks]
  rw [readRow?_tableRow (by simpa using nonempty) whole, List.map_map]
  exact congrArg some (List.map_congr_left fun text _ => read text)

end SqlScenarios
