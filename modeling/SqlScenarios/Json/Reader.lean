import SqlScenarios.Json

/-!
# Reading JSON

A reader takes a value from the front of a list of characters and gives the rest.  Strings
may hold any character from the blank on, and the escapes of the format; a character beyond
the sixteen-bit range is escaped by a pair of surrogates.
-/

namespace SqlScenarios.Json

/-- Whether a character may stand between the parts of a value. -/
def isSpace (c : Char) : Bool := c == ' ' || c == '\n' || c == '\r' || c == '\t'

/-- The characters from the first one that is no space. -/
def skipSpace (chars : List Char) : List Char := chars.dropWhile isSpace

/-! ## Strings -/

/-- The value of a hexadecimal digit. -/
def hexValue? (c : Char) : Option Nat :=
  if '0' ≤ c ∧ c ≤ '9' then some (c.toNat - '0'.toNat)
  else if 'a' ≤ c ∧ c ≤ 'f' then some (c.toNat - 'a'.toNat + 10)
  else if 'A' ≤ c ∧ c ≤ 'F' then some (c.toNat - 'A'.toNat + 10)
  else none

/-- The value of four hexadecimal digits. -/
def hexUnit? (a b c d : Char) : Option Nat := do
  return (((← hexValue? a) * 16 + (← hexValue? b)) * 16 + (← hexValue? c)) * 16 + (← hexValue? d)

/-- The character that an escape of one letter stands for. -/
def unescaped? : Char → Option Char
  | '"' => some '"'
  | '\\' => some '\\'
  | '/' => some '/'
  | 'b' => some (Char.ofNat 8)
  | 'f' => some (Char.ofNat 12)
  | 'n' => some '\n'
  | 'r' => some '\r'
  | 't' => some '\t'
  | _ => none

/-- Whether a unit is the first of a pair of surrogates. -/
def isHighSurrogate (unit : Nat) : Bool := 0xD800 ≤ unit && unit ≤ 0xDBFF

/-- Whether a unit is the second of a pair of surrogates. -/
def isLowSurrogate (unit : Nat) : Bool := 0xDC00 ≤ unit && unit ≤ 0xDFFF

/-- Read a string after its opening mark, the closing one included. -/
def readText : List Char → Option (List Char × List Char)
  | [] => none
  | c :: rest =>
      if c = '"' then some ([], rest)
      else if c = '\\' then
        match rest with
        | 'u' :: d₁ :: d₂ :: d₃ :: d₄ :: rest =>
            match hexUnit? d₁ d₂ d₃ d₄ with
            | none => none
            | some unit =>
                if isHighSurrogate unit then
                  match rest with
                  | '\\' :: 'u' :: e₁ :: e₂ :: e₃ :: e₄ :: rest =>
                      match hexUnit? e₁ e₂ e₃ e₄ with
                      | none => none
                      | some low =>
                          if isLowSurrogate low then
                            let code := 0x10000 + (unit - 0xD800) * 0x400 + (low - 0xDC00)
                            (readText rest).map fun (text, rest) => (Char.ofNat code :: text, rest)
                          else none
                  | _ => none
                else if isLowSurrogate unit then none
                else (readText rest).map fun (text, rest) => (Char.ofNat unit :: text, rest)
        | letter :: rest =>
            match unescaped? letter with
            | none => none
            | some plain => (readText rest).map fun (text, rest) => (plain :: text, rest)
        | [] => none
      else if c.toNat < 32 then none
      else (readText rest).map fun (text, rest) => (c :: text, rest)

/-! ## Numbers -/

/-- The value of decimal digits. -/
def digitsValue (digits : List Char) : Nat :=
  digits.foldl (fun value c => value * 10 + (c.toNat - '0'.toNat)) 0

/-- Read an exponent after its letter. -/
def readExponent (chars : List Char) : Option (Int × List Char) :=
  let (negative, chars) : Bool × List Char :=
    match chars with
    | '-' :: rest => (true, rest)
    | '+' :: rest => (false, rest)
    | _ => (false, chars)
  let digits := chars.takeWhile Char.isDigit
  let value : Int := digitsValue digits
  if digits.isEmpty then none
  else some (if negative then -value else value, chars.drop digits.length)

/-- Read the part of a number that makes it a decimal, if it has one: the digits after the
point and the exponent. -/
def readFraction (chars : List Char) : Option (Option (List Char × Int) × List Char) := do
  let (fraction, chars) ←
    match chars with
    | '.' :: rest =>
        let digits := rest.takeWhile Char.isDigit
        if digits.isEmpty then none else some (some digits, rest.drop digits.length)
    | _ => some (none, chars)
  match chars with
  | 'e' :: rest | 'E' :: rest =>
      let (exponent, rest) ← readExponent rest
      return (some (fraction.getD [], exponent), rest)
  | _ => return (fraction.map fun digits => (digits, 0), chars)

/-- The number with the given parts. -/
def number (negative : Bool) (digits : List Char) : Option (List Char × Int) → Json
  | none =>
      let magnitude := digitsValue digits
      if negative then
        if magnitude = 0 ∨ UInt64.size / 2 < magnitude then decimal ⟨true, magnitude, 0⟩
        else integer (-magnitude)
      else if magnitude < UInt64.size then integer magnitude
      else decimal ⟨false, magnitude, 0⟩
  | some (fraction, exponent) =>
      decimal ⟨negative, digitsValue (digits ++ fraction), exponent - fraction.length⟩

/-- Read a number. -/
def readNumber (chars : List Char) : Option (Json × List Char) := do
  let (negative, chars) : Bool × List Char :=
    match chars with
    | '-' :: rest => (true, rest)
    | _ => (false, chars)
  let digits := chars.takeWhile Char.isDigit
  if digits.isEmpty || (digits.head? == some '0' && 1 < digits.length) then none
  else
    let (fraction, rest) ← readFraction (chars.drop digits.length)
    return (number negative digits fraction, rest)

/-! ## Values -/

mutual

/-- Read a value that takes at most `fuel` steps. -/
def readValue : Nat → List Char → Option (Json × List Char)
  | 0, _ => none
  | fuel + 1, chars =>
      match skipSpace chars with
      | 'n' :: 'u' :: 'l' :: 'l' :: rest => some (null, rest)
      | 't' :: 'r' :: 'u' :: 'e' :: rest => some (boolean true, rest)
      | 'f' :: 'a' :: 'l' :: 's' :: 'e' :: rest => some (boolean false, rest)
      | '"' :: rest => (readText rest).map fun (text, rest) => (string (String.ofList text), rest)
      | '[' :: rest =>
          match skipSpace rest with
          | ']' :: rest => some (array [], rest)
          | rest => (readItems fuel rest).map fun (items, rest) => (array items, rest)
      | '\x7b' :: rest =>
          match skipSpace rest with
          | '\x7d' :: rest => some (object [], rest)
          | rest => (readMembers fuel rest).map fun (members, rest) => (object members, rest)
      | rest => readNumber rest

/-- Read one or more items of an array, the closing bracket included. -/
def readItems : Nat → List Char → Option (List Json × List Char)
  | 0, _ => none
  | fuel + 1, chars =>
      match readValue fuel chars with
      | none => none
      | some (item, rest) =>
          match skipSpace rest with
          | ',' :: rest => (readItems fuel rest).map fun (items, rest) => (item :: items, rest)
          | ']' :: rest => some ([item], rest)
          | _ => none

/-- Read one or more members of an object, the closing brace included. -/
def readMembers : Nat → List Char → Option (List (String × Json) × List Char)
  | 0, _ => none
  | fuel + 1, chars =>
      match skipSpace chars with
      | '"' :: rest =>
          match readText rest with
          | none => none
          | some (name, rest) =>
              match skipSpace rest with
              | ':' :: rest =>
                  match readValue fuel rest with
                  | none => none
                  | some (value, rest) =>
                      let member := (String.ofList name, value)
                      match skipSpace rest with
                      | ',' :: rest =>
                          (readMembers fuel rest).map fun (members, rest) =>
                            (member :: members, rest)
                      | '\x7d' :: rest => some ([member], rest)
                      | _ => none
              | _ => none
      | _ => none

end

/-- The value that a text is.  A step that takes no character is followed by one that does, so
that twice as many steps as characters are enough. -/
def parse? (text : String) : Option Json :=
  let chars := text.toList
  match readValue (2 * chars.length + 2) chars with
  | some (value, rest) => if (skipSpace rest).isEmpty then some value else none
  | none => none

end SqlScenarios.Json
