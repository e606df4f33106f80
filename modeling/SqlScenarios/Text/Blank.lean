/-!
# Blank space

Blank characters are those with the Unicode property `White_Space`.  Names, operators and
output names are read with the blanks around them removed, and the kind of a statement is
the first of its words, where words are what stands between blanks.
-/

namespace SqlScenarios.Text

/-- Whether a character has the Unicode property `White_Space`. -/
def isBlank (c : Char) : Bool :=
  let code := c.toNat
  (9 ≤ code && code ≤ 13) || code == 0x20 || code == 0x85 || code == 0xA0 || code == 0x1680 ||
    (0x2000 ≤ code && code ≤ 0x200A) || code == 0x2028 || code == 0x2029 || code == 0x202F ||
    code == 0x205F || code == 0x3000

/-- The characters without the blanks at the end. -/
def dropBlankEnd (chars : List Char) : List Char :=
  (chars.reverse.dropWhile isBlank).reverse

/-- The characters without the blanks at either end. -/
def trimChars (chars : List Char) : List Char :=
  dropBlankEnd (chars.dropWhile isBlank)

/-- A text without the blanks at either end. -/
def trim (text : String) : String := String.ofList (trimChars text.toList)

/-- A text without the blanks at its end. -/
def trimEnd (text : String) : String := String.ofList (dropBlankEnd text.toList)

/-- The first word of a text, if it has any. -/
def firstWord? (text : String) : Option String :=
  match text.toList.dropWhile isBlank with
  | [] => none
  | chars => some (String.ofList (chars.takeWhile fun c => !isBlank c))

end SqlScenarios.Text
