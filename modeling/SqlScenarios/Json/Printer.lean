import SqlScenarios.Json

/-!
# Printing JSON

Values are printed with a line for each item and each member, two blanks deeper than what
they belong to.  Only quotation marks, backslashes and the characters below the blank are
escaped.
-/

namespace SqlScenarios.Json

/-- A hexadecimal digit in lower case. -/
def hexDigit (value : Nat) : Char := Nat.digitChar (value % 16)

/-- A character inside a string. -/
def escapedChar (c : Char) : List Char :=
  if c = '"' then ['\\', '"']
  else if c = '\\' then ['\\', '\\']
  else if c = '\n' then ['\\', 'n']
  else if c = '\r' then ['\\', 'r']
  else if c = '\t' then ['\\', 't']
  else if c.toNat = 8 then ['\\', 'b']
  else if c.toNat = 12 then ['\\', 'f']
  else if c.toNat < 32 then ['\\', 'u', '0', '0', hexDigit (c.toNat / 16), hexDigit c.toNat]
  else [c]

/-- A text between quotation marks. -/
def quoted (text : String) : String :=
  String.ofList ('"' :: text.toList.flatMap escapedChar ++ ['"'])

/-- The text of a decimal number. -/
def decimalText (value : Decimal) : String :=
  (if value.negative then "-" else "") ++ toString value.digits ++ "e" ++ toString value.exponent

/-- A new line with the blanks of a level. -/
def newLine (level : Nat) : String := String.ofList ('\n' :: List.replicate (2 * level) ' ')

mutual

/-- The text of a value that stands on a level. -/
def prettyAt (level : Nat) : Json → String
  | null => "null"
  | boolean true => "true"
  | boolean false => "false"
  | integer value => toString value
  | decimal value => decimalText value
  | string text => quoted text
  | array [] => "[]"
  | array (item :: items) =>
      "[" ++ newLine (level + 1) ++ item.prettyAt (level + 1) ++ prettyItems (level + 1) items ++
        newLine level ++ "]"
  | object [] => "\x7b\x7d"
  | object ((name, value) :: members) =>
      "\x7b" ++ newLine (level + 1) ++ quoted name ++ ": " ++ value.prettyAt (level + 1) ++
        prettyMembers (level + 1) members ++ newLine level ++ "\x7d"

/-- The text of the items after the first one. -/
def prettyItems (level : Nat) : List Json → String
  | [] => ""
  | item :: items => "," ++ newLine level ++ item.prettyAt level ++ prettyItems level items

/-- The text of the members after the first one. -/
def prettyMembers (level : Nat) : List (String × Json) → String
  | [] => ""
  | (name, value) :: members =>
      "," ++ newLine level ++ quoted name ++ ": " ++ value.prettyAt level ++
        prettyMembers level members

end

/-- The text of a value. -/
def pretty (value : Json) : String := value.prettyAt 0

end SqlScenarios.Json
