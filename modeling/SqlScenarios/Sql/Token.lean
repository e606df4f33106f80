import SqlScenarios.Text.Uppercase

/-!
# Tokens

The words, literals and signs that SQL text is made of, with the places where they stand.
Comments and blanks are not tokens.  A word that is not delimited is at the same time a
keyword; its keyword is its upper-case spelling.
-/

namespace SqlScenarios.Sql

/-- A place in a text, counted in characters from line 1, column 1. -/
structure Position where
  line : Nat
  column : Nat
  deriving DecidableEq, Repr

namespace Position

/-- The place of the first character. -/
def start : Position := ⟨1, 1⟩

/-- The place after a character. -/
def after (position : Position) (c : Char) : Position :=
  if c = '\n' then ⟨position.line + 1, 1⟩ else ⟨position.line, position.column + 1⟩

/-- The suffix of an error message that names a place. -/
def suffix (position : Position) : String :=
  s!" at Line: {position.line}, Column: {position.column}"

end Position

/-- The marks around a string literal. -/
inductive Quotation where
  | single
  | double
  | tripleSingle
  | tripleDouble
  | national
  | escaped
  | codePoints
  | hexadecimal
  | bytesSingle
  | bytesDouble
  | bytesTripleSingle
  | bytesTripleDouble
  | rawSingle
  | rawDouble
  | rawTripleSingle
  | rawTripleDouble
  | dollar (tag : String)
  deriving DecidableEq, Repr

/-- The text before and after the content of a string literal. -/
def Quotation.marks : Quotation → String × String
  | single => ("'", "'")
  | double => ("\"", "\"")
  | tripleSingle => ("'''", "'''")
  | tripleDouble => ("\"\"\"", "\"\"\"")
  | national => ("N'", "'")
  | escaped => ("E'", "'")
  | codePoints => ("U&'", "'")
  | hexadecimal => ("X'", "'")
  | bytesSingle => ("B'", "'")
  | bytesDouble => ("B\"", "\"")
  | bytesTripleSingle => ("B'''", "'''")
  | bytesTripleDouble => ("B\"\"\"", "\"\"\"")
  | rawSingle => ("R'", "'")
  | rawDouble => ("R\"", "\"")
  | rawTripleSingle => ("R'''", "'''")
  | rawTripleDouble => ("R\"\"\"", "\"\"\"")
  | dollar tag => ("$" ++ tag ++ "$", "$" ++ tag ++ "$")

/-- A token of SQL text. -/
inductive Token where
  | word (text : String) (delimiter : Option Char)
  | number (digits : String) (long : Bool)
  | string (quotation : Quotation) (content : String)
  | placeholder (text : String)
  | sign (text : String)
  | operator (text : String)
  | other (c : Char)
  deriving DecidableEq, Repr

/-- The mark that closes a delimited name. -/
def closingDelimiter (opening : Char) : Char :=
  if opening = '[' then ']' else opening

namespace Token

/-- The spelling of a token in an error message. -/
def spelling : Token → String
  | word text none => text
  | word text (some opening) =>
      String.singleton opening ++ text ++ String.singleton (closingDelimiter opening)
  | number digits long => if long then digits ++ "L" else digits
  | string quotation content => quotation.marks.1 ++ content ++ quotation.marks.2
  | placeholder text => text
  | sign text => text
  | operator text => text
  | other c => String.singleton c

/-- The keyword that a token is; empty for every token that is not a plain word. -/
def keyword : Token → String
  | word text none => Text.uppercase text
  | _ => ""

end Token

/-- A token, the keyword it is, and the place where it starts. -/
structure Lexeme where
  token : Token
  keyword : String
  position : Position
  deriving DecidableEq, Repr

end SqlScenarios.Sql
