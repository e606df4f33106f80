import SqlScenarios.Sql.Parser.Names

/-!
# Data types

A data type is read for its text alone.  What an expression needs to know besides is only
whether the type is one of the language's own, the type of intervals, or a name that a user
could have given.
-/

namespace SqlScenarios.Sql.Parser

/-- What is known of a data type besides its text. -/
inductive DataTypeKind where
  | interval
  | custom
  | builtIn
  deriving DecidableEq, Repr

/-- A data type that has been read. -/
structure DataType where
  kind : DataTypeKind
  text : String

/-- What may follow the first keyword of a data type. -/
inductive DataTypeShape where
  | plain
  | length
  | characters
  | precisionScale
  | zoned
  | signed
  | angled
  | options
  | nested
  deriving DecidableEq, Repr

/-- The types that start with one keyword, with what may follow it.  Synonyms keep their
own spelling. -/
def dataTypeShapes : List (String × DataTypeShape) :=
  [("BOOLEAN", .plain), ("BOOL", .plain), ("FLOAT", .length), ("REAL", .plain),
    ("FLOAT4", .plain), ("FLOAT32", .plain), ("FLOAT64", .plain), ("FLOAT8", .plain),
    ("TINYINT", .signed), ("INT2", .signed), ("SMALLINT", .signed), ("MEDIUMINT", .signed),
    ("INT", .signed), ("INT4", .signed), ("INT8", .signed), ("INTEGER", .signed),
    ("BIGINT", .signed), ("INT16", .plain), ("INT32", .plain), ("INT64", .plain),
    ("INT128", .plain), ("INT256", .plain), ("HUGEINT", .plain), ("UBIGINT", .plain),
    ("UHUGEINT", .plain), ("USMALLINT", .plain), ("UTINYINT", .plain), ("UINT8", .plain),
    ("UINT16", .plain), ("UINT32", .plain), ("UINT64", .plain), ("UINT128", .plain),
    ("UINT256", .plain), ("VARCHAR", .characters), ("NVARCHAR", .characters),
    ("CLOB", .length), ("BINARY", .length), ("VARBINARY", .characters), ("BLOB", .length),
    ("TINYBLOB", .plain), ("MEDIUMBLOB", .plain), ("LONGBLOB", .plain), ("BYTES", .length),
    ("VARBIT", .length), ("UUID", .plain), ("DATE", .plain), ("DATE32", .plain),
    ("DATETIME", .length), ("TIMESTAMP", .zoned), ("TIMESTAMPTZ", .length),
    ("TIMESTAMP_NTZ", .plain), ("TIME", .zoned), ("TIMETZ", .length), ("JSON", .plain),
    ("JSONB", .plain), ("REGCLASS", .plain), ("STRING", .length), ("TEXT", .plain),
    ("TINYTEXT", .plain), ("MEDIUMTEXT", .plain), ("LONGTEXT", .plain), ("BYTEA", .plain),
    ("NUMERIC", .precisionScale), ("DECIMAL", .precisionScale), ("DEC", .precisionScale),
    ("BIGNUMERIC", .precisionScale), ("BIGDECIMAL", .precisionScale), ("ENUM", .options),
    ("SET", .options), ("TSVECTOR", .plain), ("TSQUERY", .plain), ("NULLABLE", .nested),
    ("LOWCARDINALITY", .nested)]

/-- Read an unsigned number. -/
def unsignedNumber : Parser String := do
  let lexeme ← next
  match lexeme with
  | some ⟨.number digits _, _, position⟩ =>
      let fault (reason : String) : Parser String :=
        refuse ("Could not parse '" ++ digits ++ "' as u64: " ++ reason) (some position)
      match digits.toList.all Char.isDigit, digits.toNat? with
      | true, some value =>
          if value < UInt64.size then return toString value
          else fault "number too large to fit in target type"
      | _, _ => fault "invalid digit found in string"
  | _ => expectedInsteadOf "literal int" lexeme

/-- Read a number in parentheses, if there is one. -/
def optionalLength : Parser String := do
  if ← takeSign "(" then
    let length ← unsignedNumber
    expectSign ")"
    return "(" ++ length ++ ")"
  else return ""

/-- Read a length of characters in parentheses, if there is one. -/
def optionalCharacters : Parser String := do
  if ← takeSign "(" then
    let length ← if ← takeKeyword "MAX" then pure "MAX" else unsignedNumber
    let unit ← takeOneOf ["CHARACTERS", "OCTETS"]
    expectSign ")"
    return "(" ++ length ++ ((unit.map (" " ++ ·)).getD "") ++ ")"
  else return ""

/-- Read a precision in parentheses, perhaps with a scale, if there is one. -/
def optionalPrecisionScale : Parser String := do
  if ← takeSign "(" then
    let precision ← unsignedNumber
    let scale ← if ← takeSign "," then (("," ++ ·) <$> unsignedNumber) else pure ""
    expectSign ")"
    return "(" ++ precision ++ scale ++ ")"
  else return ""

/-- Read whether a time knows its zone. -/
def optionalZone : Parser String := do
  if ← takeKeywords ["WITH", "TIME", "ZONE"] then return " WITH TIME ZONE"
  else if ← takeKeywords ["WITHOUT", "TIME", "ZONE"] then return " WITHOUT TIME ZONE"
  else return ""

/-- Read whether a number has a sign. -/
def optionalSign : Parser String := do
  match ← takeOneOf ["UNSIGNED", "SIGNED"] with
  | some keyword => return " " ++ keyword
  | none => return ""

/-- Read the modifiers of a user's type in parentheses, if there are any. -/
def typeModifiers : Parser (List String) := do
  if ← takeSign "(" then
    let modifiers ← many do
      let lexeme ← peek
      match lexeme with
      | some ⟨.word text _, _, _⟩ | some ⟨.number text _, _, _⟩
      | some ⟨.string .single text, _, _⟩ =>
          skip
          return some [text]
      | some ⟨.sign ",", _, _⟩ =>
          skip
          return some []
      | _ => return none
    unless ← takeSign ")" do expected "type modifiers"
    return modifiers.flatten
  else return []

/-- Read the strings of an enumeration in parentheses. -/
def optionStrings : Parser String := do
  expectSign "("
  let options ← items do
    let lexeme ← next
    match lexeme with
    | some ⟨.string .single content, _, _⟩ => return betweenMarks '\'' content
    | _ => expectedInsteadOf "a string" lexeme
  expectSign ")"
  return "(" ++ String.intercalate ", " options ++ ")"

/-- Read what follows the keyword of a type of the language. -/
def dataTypeRest (inner : Parser DataType) : DataTypeShape → Parser String
  | .plain => return ""
  | .length => optionalLength
  | .characters => optionalCharacters
  | .precisionScale => optionalPrecisionScale
  | .zoned => return (← optionalLength) ++ (← optionalZone)
  | .signed => return (← optionalLength) ++ (← optionalSign)
  | .options => optionStrings
  | .nested | .angled => do
      let element ← parenthesized inner
      return "(" ++ element.text ++ ")"

/-- Read the type of an array after its keyword. -/
def arrayType (inner : Parser DataType) : Parser String := do
  if ← dialectHas Dialect.hasBareArrayTypes then return "ARRAY"
  else if ← dialectHas Dialect.parenthesizesElementTypes then
    let element ← parenthesized inner
    return "Array(" ++ element.text ++ ")"
  else
    expectSign "<"
    let element ← inner
    expectSign ">"
    return "ARRAY<" ++ element.text ++ ">"

/-- Read a character type after its keyword. -/
def characterType (keyword : String) : Parser String := do
  if ← takeKeyword "VARYING" then return keyword ++ " VARYING" ++ (← optionalCharacters)
  else if ← takeKeywords ["LARGE", "OBJECT"] then
    return keyword ++ " LARGE OBJECT" ++ (← optionalLength)
  else return keyword ++ (← optionalCharacters)

/-- Read a data type without brackets after it. -/
def simpleType (inner : Parser DataType) : Parser DataType := do
  let builtIn (text : Parser String) : Parser DataType := return ⟨.builtIn, ← text⟩
  let lexeme ← peek
  match lexeme with
  | some ⟨.word _ _, keyword, _⟩ =>
      match keyword, dataTypeShapes.lookup keyword with
      | "INTERVAL", _ =>
          skip
          return ⟨.interval, "INTERVAL"⟩
      | "DOUBLE", _ =>
          skip
          builtIn do
            if ← takeKeyword "PRECISION" then return "DOUBLE PRECISION"
            else return "DOUBLE" ++ (← optionalPrecisionScale)
      | "CHARACTER", _ | "CHAR", _ =>
          skip
          builtIn (characterType keyword)
      | "BIT", _ =>
          skip
          builtIn do
            if ← takeKeyword "VARYING" then return "BIT VARYING" ++ (← optionalLength)
            else return "BIT" ++ (← optionalLength)
      | "SIGNED", _ | "UNSIGNED", _ =>
          skip
          builtIn do
            if ← takeKeyword "INTEGER" then return keyword ++ " INTEGER" else return keyword
      | "ARRAY", _ =>
          skip
          builtIn (arrayType inner)
      | _, some shape =>
          skip
          builtIn (return keyword ++ (← dataTypeRest inner shape))
      | _, none =>
          let name ← objectName
          let modifiers ← typeModifiers
          let suffix :=
            if modifiers.isEmpty then "" else "(" ++ String.intercalate ", " modifiers ++ ")"
          return ⟨.custom, nameToSql name ++ suffix⟩
  | _ => expected "a data type name"

/-- Read the brackets after a data type. -/
def bracketsAfter (element : DataType) : Parser DataType :=
  iterate
    (fun element => do
      if ← takeSign "[" then
        let size ← attempt unsignedNumber
        expectSign "]"
        return some ⟨.builtIn, element.text ++ "[" ++ size.getD "" ++ "]"⟩
      else return none)
    element

/-- Read a data type whose elements nest at most `fuel` deep. -/
def dataTypeWithin : Nat → Parser DataType
  | 0 => expected "a data type name"
  | fuel + 1 => do
      let element ← simpleType (dataTypeWithin fuel)
      if ← dialectHas Dialect.hasBracketTypes then bracketsAfter element else return element

/-- Read a data type.  Every element of a type is one lexeme shorter. -/
def dataType : Parser DataType := do
  dataTypeWithin ((← get).length + 1)

end SqlScenarios.Sql.Parser
