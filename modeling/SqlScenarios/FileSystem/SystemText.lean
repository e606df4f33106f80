/-!
# Texts of the operating system

Arguments and the names of files are bytes to the operating system, mostly those of a text in
UTF-8, but not always.
-/

namespace SqlScenarios

/-- A text of the operating system: a text, or bytes that are no text. -/
inductive SystemText where
  | utf8 (text : String)
  | raw (bytes : List UInt8) (noText : ¬ (ByteArray.mk bytes.toArray).IsValidUTF8)
  deriving DecidableEq, Repr

namespace SystemText

instance : Coe String SystemText := ⟨utf8⟩

/-- The text of some characters. -/
def ofChars (chars : List Char) : SystemText := utf8 (String.ofList chars)

/-- The text that some bytes are, if they are one. -/
def ofBytes (bytes : List UInt8) : SystemText :=
  if valid : (ByteArray.mk bytes.toArray).IsValidUTF8 then utf8 (String.fromUTF8 _ valid)
  else raw bytes valid

/-- The text, if it is one. -/
def text? : SystemText → Option String
  | utf8 text => some text
  | raw .. => none

/-- How many bytes a text takes. -/
def size : SystemText → Nat
  | utf8 text => text.utf8ByteSize
  | raw bytes _ => bytes.length

/-- Whether a text is empty. -/
def isEmpty (given : SystemText) : Bool := given.size == 0

/-- Whether a text holds the character that no name can hold. -/
def holdsNul : SystemText → Bool
  | utf8 text => text.toList.contains (Char.ofNat 0)
  | raw bytes _ => bytes.contains 0

/-! ## Showing bytes that are no text -/

/-- Whether a byte can follow the first one of a character of three or four bytes. -/
def continues (first second : UInt8) : Bool :=
  if first == 0xE0 then 0xA0 ≤ second && second ≤ 0xBF
  else if first == 0xED then 0x80 ≤ second && second ≤ 0x9F
  else if 0xE1 ≤ first && first ≤ 0xEF then 0x80 ≤ second && second ≤ 0xBF
  else if first == 0xF0 then 0x90 ≤ second && second ≤ 0xBF
  else if 0xF1 ≤ first && first ≤ 0xF3 then 0x80 ≤ second && second ≤ 0xBF
  else first == 0xF4 && 0x80 ≤ second && second ≤ 0x8F

/-- How many bytes after the first one are a part of a character that is broken off. -/
def brokenOff (first : UInt8) : List UInt8 → Nat
  | [] => 0
  | second :: rest =>
      if continues first second then
        if 0xF0 ≤ first && rest.head?.any fun third => 0x80 ≤ third && third ≤ 0xBF then 2 else 1
      else 0

/-- The characters that bytes are shown as: one replacement character stands for each part that is
not a character. -/
def shownChars : List UInt8 → List Char
  | [] => []
  | first :: rest =>
      match (ByteArray.mk (first :: rest).toArray).utf8DecodeChar? 0 with
      | some c => c :: shownChars (rest.drop (c.utf8Size - 1))
      | none => Char.ofNat 0xFFFD :: shownChars (rest.drop (brokenOff first rest))
termination_by bytes => bytes.length
decreasing_by all_goals simp only [List.length_drop, List.length_cons]; omega

/-- The text that is shown. -/
def shown : SystemText → String
  | utf8 text => text
  | raw bytes _ => String.ofList (shownChars bytes)

/-- The first character that is shown, or the whole text if it does not start with a character. -/
def firstShown : SystemText → String
  | utf8 text => String.ofList (text.toList.take 1)
  | raw bytes noText =>
      match (ByteArray.mk bytes.toArray).utf8DecodeChar? 0 with
      | some c => String.singleton c
      | none => (raw bytes noText).shown

end SystemText

end SqlScenarios
