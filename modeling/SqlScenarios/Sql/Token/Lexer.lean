import SqlScenarios.Sql.Dialect
import SqlScenarios.Sql.Token

/-!
# From characters to tokens

`Lexer.tokens` splits a text into lexemes.  A `Cursor` holds the characters that are still
to be read together with the place of the first of them; every reader below takes a cursor
and returns what it read with the cursor after it.  Reading stops at the first fault, which
carries its place.
-/

namespace SqlScenarios.Sql

/-- Why a text cannot be split into tokens. -/
inductive LexicalFault where
  | unterminatedString
  | unterminatedEscapeString
  | unterminatedCodePointString
  | unterminatedDollarString
  | unterminatedTaggedString
  | unterminatedName (closing : Char)
  | unterminatedComment
  | misplacedUnderscore
  deriving DecidableEq, Repr

/-- The wording of a lexical fault. -/
def LexicalFault.message : LexicalFault → String
  | unterminatedString => "Unterminated string literal"
  | unterminatedEscapeString => "Unterminated encoded string literal"
  | unterminatedCodePointString => "Unterminated unicode encoded string literal"
  | unterminatedDollarString => "Unterminated dollar-quoted string"
  | unterminatedTaggedString => "Unterminated dollar-quoted, expected $"
  | unterminatedName closing =>
      "Expected close delimiter '" ++ String.singleton closing ++ "' before EOF."
  | unterminatedComment => "Unexpected EOF while in a multi-line comment"
  | misplacedUnderscore => "Unexpected character '_'"

/-- A lexical fault and its place. -/
structure LexicalError where
  fault : LexicalFault
  position : Position
  deriving DecidableEq, Repr

/-- The characters still to be read and the place of the first of them. -/
structure Cursor where
  chars : List Char
  position : Position

namespace Cursor

/-- The cursor at the start of a text. -/
def ofString (text : String) : Cursor := ⟨text.toList, .start⟩

/-- The first character still to be read. -/
def peek? (cursor : Cursor) : Option Char := cursor.chars.head?

/-- Whether the characters to be read start with the given one. -/
def startsWith (cursor : Cursor) (c : Char) : Bool := cursor.chars.head? == some c

/-- The cursor after the first character. -/
def next (cursor : Cursor) : Cursor :=
  match cursor.chars with
  | [] => cursor
  | c :: rest => ⟨rest, cursor.position.after c⟩

/-- The cursor after the first `count` characters. -/
def skip : Nat → Cursor → Cursor
  | 0, cursor => cursor
  | count + 1, cursor => skip count cursor.next

/-- The longest run of characters with a property, and the cursor after it. -/
def takeWhile (property : Char → Bool) (cursor : Cursor) : List Char × Cursor :=
  go cursor.chars cursor.position []
where
  /-- Collect the run in reverse. -/
  go : List Char → Position → List Char → List Char × Cursor
    | [], position, taken => (taken.reverse, ⟨[], position⟩)
    | c :: rest, position, taken =>
        if property c then go rest (position.after c) (c :: taken)
        else (taken.reverse, ⟨c :: rest, position⟩)

end Cursor

namespace Lexer

/-- The outcome of reading one item. -/
abbrev Reading (α : Type) := Except LexicalError (α × Cursor)

/-! ## Strings -/

/-- The character that a backslash and the given character stand for. -/
def backslashImage : Char → Char
  | '0' => '\x00'
  | 'a' => '\x07'
  | 'b' => '\x08'
  | 'f' => '\x0c'
  | 'n' => '\n'
  | 'r' => '\r'
  | 't' => '\t'
  | 'Z' => '\x1a'
  | c => c

/-- The content of a string up to its closing mark, which is doubled where it belongs to
the content, and the cursor after the mark. -/
def quotedContent (mark : Char) (escapes : Bool) :
    List Char → Position → List Char → Option (List Char × Cursor)
  | [], _, _ => none
  | [c], position, taken =>
      if c = mark then some (taken.reverse, ⟨[], position.after c⟩) else none
  | c :: d :: rest, position, taken =>
      let after := position.after c
      if c = mark then
        if d = mark then quotedContent mark escapes rest (after.after d) (mark :: taken)
        else some (taken.reverse, ⟨d :: rest, after⟩)
      else if escapes && c == '\\' then
        quotedContent mark escapes rest (after.after d) (backslashImage d :: taken)
      else quotedContent mark escapes (d :: rest) after (c :: taken)

/-- Read a string whose opening mark comes next. -/
def quoted (mark : Char) (escapes : Bool) (cursor : Cursor) : Reading String :=
  let body := cursor.next
  match quotedContent mark escapes body.chars body.position [] with
  | some (content, rest) => .ok (String.ofList content, rest)
  | none => .error ⟨.unterminatedString, cursor.position⟩

/-- The content of a string up to three closing marks in a row. -/
def tripleContent (mark : Char) (escapes : Bool) :
    List Char → Position → List Char → Option (List Char × Cursor)
  | [], _, _ => none
  | c :: rest, position, taken =>
      let after := position.after c
      match rest with
      | d :: e :: tail =>
          if c == mark && d == mark && e == mark then
            some (taken.reverse, ⟨tail, (after.after d).after e⟩)
          else if escapes && c == '\\' then
            tripleContent mark escapes (e :: tail) (after.after d) (backslashImage d :: taken)
          else tripleContent mark escapes (d :: e :: tail) after (c :: taken)
      | _ => none

/-- Read a string whose opening mark comes next and which may open with three marks. -/
def maybeTriple (mark : Char) (escapes triples : Bool) (one three : Quotation)
    (cursor : Cursor) : Reading Token :=
  match triples, cursor.chars with
  | true, a :: b :: c :: _ =>
      if a == mark && b == mark && c == mark then
        let body := cursor.skip 3
        match tripleContent mark escapes body.chars body.position [] with
        | some (content, rest) => .ok (.string three (String.ofList content), rest)
        | none => .error ⟨.unterminatedString, cursor.position⟩
      else (quoted mark escapes cursor).map fun (content, rest) => (.string one content, rest)
  | _, _ => (quoted mark escapes cursor).map fun (content, rest) => (.string one content, rest)

/-- The value of a hexadecimal digit. -/
def hexValue? (c : Char) : Option Nat :=
  if c.isDigit then some (c.toNat - 48)
  else if 'a' ≤ c && c ≤ 'f' then some (c.toNat - 87)
  else if 'A' ≤ c && c ≤ 'F' then some (c.toNat - 55)
  else none

/-- Whether a character is a hexadecimal digit. -/
def isHexDigit (c : Char) : Bool := (hexValue? c).isSome

/-- The value of a row of hexadecimal digits. -/
def hexNumber? (digits : List Char) : Option Nat :=
  digits.foldl
    (fun value c => do
      let high ← value
      let low ← hexValue? c
      return high * 16 + low)
    (some 0)

/-- The character with a code point, if there is one. -/
def charOfCode? (code : Nat) : Option Char :=
  if code < 0xD800 || (0xDFFF < code && code < 0x110000) then some (Char.ofNat code) else none

/-- The character named by exactly `count` hexadecimal digits, and the characters after
them. -/
def namedChar? (count : Nat) (chars : List Char) : Option (Char × List Char) := do
  let digits := chars.take count
  guard (digits.length = count)
  let code ← hexNumber? digits
  let c ← charOfCode? code
  return (c, chars.drop count)

/-- The character that a backslash in an escape string stands for, given the characters
after the backslash. -/
def escapeImage? : List Char → Option (Char × List Char)
  | [] => none
  | 'b' :: rest => some ('\x08', rest)
  | 'f' :: rest => some ('\x0c', rest)
  | 'n' :: rest => some ('\n', rest)
  | 'r' :: rest => some ('\r', rest)
  | 't' :: rest => some ('\t', rest)
  | 'u' :: rest => namedChar? 4 rest
  | 'U' :: rest => namedChar? 8 rest
  | 'x' :: rest =>
      let digits := (rest.take 2).takeWhile isHexDigit
      if digits.isEmpty then some ('x', rest)
      else do
        let code ← hexNumber? digits
        guard (code < 128)
        return (Char.ofNat code, rest.drop digits.length)
  | c :: rest =>
      if '0' ≤ c && c ≤ '7' then
        let digits := c :: (rest.take 2).takeWhile fun d => '0' ≤ d && d ≤ '7'
        let code := digits.foldl (fun value d => value * 8 + (d.toNat - 48)) 0 % 256
        if code < 128 then some (Char.ofNat code, rest.drop (digits.length - 1)) else none
      else some (c, rest)

/-- The content of an escape string up to its closing mark, given the number of characters
that may be read at most. -/
def escapedContent : Nat → List Char → List Char → Option (List Char × List Char)
  | 0, _, _ => none
  | fuel + 1, chars, taken =>
      match chars with
      | [] => none
      | '\'' :: '\'' :: rest => escapedContent fuel rest ('\'' :: taken)
      | '\'' :: rest => some (taken.reverse, rest)
      | '\\' :: rest =>
          match escapeImage? rest with
          | some (c, tail) => if c = '\x00' then none else escapedContent fuel tail (c :: taken)
          | none => none
      | c :: rest => escapedContent fuel rest (c :: taken)

/-- Read an escape string whose opening mark comes next; faults stand at its prefix. -/
def escapeString (start : Position) (cursor : Cursor) : Reading Token :=
  let body := cursor.next
  match escapedContent (body.chars.length + 1) body.chars [] with
  | some (content, rest) =>
      .ok (.string .escaped (String.ofList content),
        body.skip (body.chars.length - rest.length))
  | none => .error ⟨.unterminatedEscapeString, start⟩

/-- The content of a string of code points up to its closing mark, given the number of
characters that may be read at most. -/
def codePointContent : Nat → List Char → List Char → Option (List Char × List Char)
  | 0, _, _ => none
  | fuel + 1, chars, taken =>
      match chars with
      | [] => none
      | '\'' :: '\'' :: rest => codePointContent fuel rest ('\'' :: taken)
      | '\'' :: rest => some (taken.reverse, rest)
      | '\\' :: '\\' :: rest => codePointContent fuel rest ('\\' :: taken)
      | '\\' :: '+' :: rest =>
          match namedChar? 6 rest with
          | some (c, tail) => codePointContent fuel tail (c :: taken)
          | none => none
      | '\\' :: rest =>
          match namedChar? 4 rest with
          | some (c, tail) => codePointContent fuel tail (c :: taken)
          | none => none
      | c :: rest => codePointContent fuel rest (c :: taken)

/-- Read a string of code points whose opening mark comes next. -/
def codePointString (cursor : Cursor) : Reading Token :=
  let body := cursor.next
  match codePointContent (body.chars.length + 1) body.chars [] with
  | some (content, rest) =>
      .ok (.string .codePoints (String.ofList content),
        body.skip (body.chars.length - rest.length))
  | none => .error ⟨.unterminatedCodePointString, cursor.position⟩

/-- The content of a string between doubled dollar signs.  A dollar sign inside it keeps
the character after it. -/
def dollarContent :
    Option Char → List Char → Position → List Char → Except Position (List Char × Cursor)
  | _, [], position, _ => .error position
  | previous, c :: rest, position, taken =>
      let after := position.after c
      if previous == some '$' then
        if c = '$' then .ok (taken.reverse, ⟨rest, after⟩)
        else dollarContent (some c) rest after (c :: '$' :: taken)
      else if c = '$' then dollarContent (some c) rest after taken
      else dollarContent (some c) rest after (c :: taken)

/-- The content of a string up to a closing tag. -/
def taggedContent (tag : List Char) :
    List Char → Position → List Char → Except Position (List Char × Cursor)
  | [], position, _ => .error position
  | c :: rest, position, taken =>
      let after := position.after c
      let read := c :: taken
      if tag.reverse.isPrefixOf read then
        .ok ((read.drop tag.length).reverse, ⟨rest, after⟩)
      else taggedContent tag rest after read

/-- Read a placeholder or a string that starts with a dollar sign. -/
def dollar (dialect : Dialect) (cursor : Cursor) : Reading Token :=
  let body := cursor.next
  let inPlaceholders := dialect.dollarInPlaceholders
  if body.startsWith '$' && !inPlaceholders then
    let content := body.next
    match dollarContent none content.chars content.position [] with
    | .ok (text, rest) => .ok (.string (.dollar "") (String.ofList text), rest)
    | .error position => .error ⟨.unterminatedDollarString, position⟩
  else
    let (name, rest) := body.takeWhile fun c =>
      Text.isAlphabetic c || Text.isNumber c || c == '_' || (c == '$' && inPlaceholders)
    if rest.startsWith '$' && !inPlaceholders then
      let content := rest.next
      match taggedContent ('$' :: name ++ ['$']) content.chars content.position [] with
      | .ok (text, tail) =>
          .ok (.string (.dollar (String.ofList name)) (String.ofList text), tail)
      | .error position => .error ⟨.unterminatedTaggedString, position⟩
    else .ok (.placeholder (String.ofList ('$' :: name)), rest)

/-! ## Names and numbers -/

/-- Read a plain name that starts with characters already read. -/
def name (dialect : Dialect) (start : List Char) (cursor : Cursor) : Reading Token :=
  let (tail, rest) := cursor.takeWhile dialect.continuesName
  let chars := start ++ tail
  if chars.all fun c => c.isDigit || c == '.' then
    let (more, rest) := rest.takeWhile fun c => c.isDigit || c == '.'
    .ok (.number (String.ofList (chars ++ more)) false, rest)
  else .ok (.word (String.ofList chars) none, rest)

/-- Read a plain name, which is never taken for a number. -/
def plainWord (dialect : Dialect) (start : List Char) (cursor : Cursor) : Reading Token :=
  let (tail, rest) := cursor.takeWhile dialect.continuesName
  .ok (.word (String.ofList (start ++ tail)) none, rest)

/-- The text of a delimited name up to its closing mark, which is doubled inside it. -/
def delimitedText (closing : Char) :
    List Char → Position → List Char → Option (List Char × Cursor)
  | [], _, _ => none
  | [c], position, taken =>
      if c = closing then some (taken.reverse, ⟨[], position.after c⟩) else none
  | c :: d :: rest, position, taken =>
      let after := position.after c
      if c = closing then
        if d = closing then delimitedText closing rest (after.after d) (closing :: taken)
        else some (taken.reverse, ⟨d :: rest, after⟩)
      else delimitedText closing (d :: rest) after (c :: taken)

/-- Read a delimited name whose opening mark comes next. -/
def delimitedName (opening : Char) (cursor : Cursor) : Reading Token :=
  let body := cursor.next
  match delimitedText (closingDelimiter opening) body.chars body.position [] with
  | some (text, rest) => .ok (.word (String.ofList text) (some opening), rest)
  | none => .error ⟨.unterminatedName (closingDelimiter opening), cursor.position⟩

/-- The digits at the start, with single underscores between them where they may stand. -/
def digits (dialect : Dialect) (isDigit : Char → Bool) (cursor : Cursor) :
    List Char × Cursor :=
  go cursor.chars cursor.position []
where
  /-- Collect the digits in reverse. -/
  go : List Char → Position → List Char → List Char × Cursor
    | [], position, taken => (taken.reverse, ⟨[], position⟩)
    | c :: rest, position, taken =>
        let separates := dialect.underscoresInNumbers && c == '_' &&
          (rest.head?.map isHexDigit).getD false
        if isDigit c || separates then go rest (position.after c) (c :: taken)
        else (taken.reverse, ⟨c :: rest, position⟩)

/-- The exponent at the start, if it has at least one digit. -/
def exponent (cursor : Cursor) : List Char × Cursor :=
  match cursor.chars with
  | e :: rest =>
      if e == 'e' || e == 'E' then
        let signLength :=
          match rest with
          | '+' :: _ | '-' :: _ => 1
          | _ => 0
        let digits := (rest.drop signLength).takeWhile Char.isDigit
        if digits.isEmpty then ([], cursor)
        else
          (e :: rest.take signLength ++ digits, cursor.skip (1 + signLength + digits.length))
      else ([], cursor)
  | [] => ([], cursor)

/-- Read a number, or a period that belongs to none. -/
def numberOrPeriod (dialect : Dialect) (previous : Option Token) (cursor : Cursor) :
    Reading Token :=
  let afterWord :=
    match previous with
    | some (.word _ _) => true
    | _ => false
  match cursor.chars with
  | '.' :: '_' :: _ =>
      if afterWord then .ok (.sign ".", cursor.next)
      else .error ⟨.misplacedUnderscore, cursor.position⟩
  | _ =>
      let (whole, rest) := digits dialect Char.isDigit cursor
      if whole == ['0'] && rest.startsWith 'x' then
        let (hex, tail) := digits dialect isHexDigit rest.next
        .ok (.string .hexadecimal (String.ofList hex), tail)
      else
        let (point, rest) := if rest.startsWith '.' then (['.'], rest.next) else ([], rest)
        if whole.isEmpty && afterWord && dialect.namesStartWithDigits then
          .ok (.sign ".", rest)
        else
          let (fraction, rest) := digits dialect Char.isDigit rest
          let mantissa := whole ++ point ++ fraction
          if mantissa == ['.'] then .ok (.sign ".", rest)
          else
            let (power, rest) := exponent rest
            let number := mantissa ++ power
            let (tail, afterName) := rest.takeWhile dialect.continuesName
            if dialect.namesStartWithDigits && power.isEmpty && !tail.isEmpty then
              .ok (.word (String.ofList (number ++ tail)) none, afterName)
            else if dialect.namesStartWithDigits && !power.isEmpty &&
                previous == some (.sign ".") then
              .ok (.word (String.ofList number) none, rest)
            else if rest.startsWith 'L' then
              .ok (.number (String.ofList number) true, rest.next)
            else .ok (.number (String.ofList number) false, rest)

/-! ## Comments -/

/-- The cursor after a comment that ends with its line. -/
def lineComment (cursor : Cursor) : Cursor :=
  (cursor.takeWhile fun c => c != '\n').2.next

/-- The cursor after a comment between slashes and stars, given how deep the comment is
nested; the place of the end of the text if the comment does not end. -/
def blockComment (nests : Bool) : Nat → List Char → Position → Except Position Cursor
  | _, [], position => .error position
  | _, [c], position => .error (position.after c)
  | depth, c :: d :: rest, position =>
      let after := position.after c
      if c == '/' && d == '*' && nests then
        blockComment nests (depth + 1) rest (after.after d)
      else if c == '*' && d == '/' then
        match depth with
        | 0 => .ok ⟨rest, after.after d⟩
        | outer + 1 => blockComment nests outer rest (after.after d)
      else blockComment nests depth (d :: rest) after

/-! ## Signs -/

/-- The signs, longest first among those with a common start. -/
def signs : List String :=
  ["->>", "->", "-", "//", "/", "+", "*", "%", "||/", "||", "|/", "|", "=>", "==", "=",
    "!=", "!!", "!~~*", "!~~", "!~*", "!~", "!", "<=>", "<=", "<>", "<<", "<@", "<", ">=",
    ">>", ">", "::", ":=", ":", ";", "\\", "[", "]", "&&", "&", "^@", "^", "\x7b", "\x7d",
    "~~*", "~~", "~*", "~", "(", ")", ",", "#>>", "#>", "#-", "#", "@>", "@?", "@@", "@"]

/-- The signs that other operator characters can extend. -/
def extensibleSigns : List String :=
  ["->>", "->", "-", "%", "||/", "||", "|/", "|", "<=>", "<=", "<>", "<<", "<@", "<", ">=",
    ">>", ">", "&&", "&", "~~*", "~~", "~*", "~", "#>>", "#>", "#-", "#"]

/-- Whether a character can stand in an operator of the user's own. -/
def isOperatorChar (c : Char) : Bool :=
  "+-*/<>=~!@#%^&|`?".toList.contains c

/-- Read a sign.  Both spellings of inequality are one sign. -/
def sign? (dialect : Dialect) (cursor : Cursor) : Option (Token × Cursor) := do
  let spelling ← signs.find? fun sign =>
    sign.toList.isPrefixOf cursor.chars && (sign != "//" || dialect.dividesWithSlashes)
  let rest := cursor.skip spelling.length
  let (more, afterMore) := rest.takeWhile isOperatorChar
  if dialect.hasCustomOperators && extensibleSigns.contains spelling && !more.isEmpty then
    return (.operator (spelling ++ String.ofList more), afterMore)
  else
    return (.sign (if spelling == "!=" then "<>" else spelling), rest)

/-- Read what starts with a number sign or an at sign: a name, if the sign may start one and
no other sign or quotation mark follows. -/
def signOrName (dialect : Dialect) (lead : Char) (cursor : Cursor) : Option (Reading Token) :=
  if !dialect.startsName lead then none
  else
    match lead, cursor.next.chars with
    | _, [] => none
    | '#', c :: _ =>
        if c == '-' || c == '>' || c == ' ' then none
        else some (name dialect [lead, c] (cursor.skip 2))
    | _, '@' :: ' ' :: _ => none
    | _, ['@'] => none
    | _, '@' :: c :: _ => some (name dialect [lead, '@', c] (cursor.skip 3))
    | _, c :: _ =>
        if [' ', '\'', '"', '`', '>', '?'].contains c then none
        else some (name dialect [lead, c] (cursor.skip 2))

/-! ## Single tokens -/

/-- Read a string after a prefix letter if a quotation mark follows it, or else a word that
starts with the letter. -/
def prefixed (dialect : Dialect) (letter : Char) (cursor : Cursor)
    (single double : Option (Cursor → Reading Token)) : Reading Token :=
  let rest := cursor.next
  match rest.peek?, single, double with
  | some '\'', some read, _ => read rest
  | some '"', _, some read => read rest
  | _, _, _ => plainWord dialect [letter] rest

/-- Read one token, or nothing where a blank or a comment stands. -/
def token (dialect : Dialect) (previous : Option Token) (c : Char) (cursor : Cursor) :
    Reading (Option Token) :=
  let triples := dialect.hasTripleQuotes
  let escapes := dialect.escapesWithBackslash
  let some' (reading : Reading Token) : Reading (Option Token) :=
    reading.map fun (token, rest) => (some token, rest)
  let signOr (otherwise : Unit → Reading (Option Token)) : Reading (Option Token) :=
    match sign? dialect cursor with
    | some (token, rest) => .ok (some token, rest)
    | none => otherwise ()
  let other : Unit → Reading (Option Token) := fun _ =>
    if Text.isBlank c then .ok (none, cursor.next) else .ok (some (.other c), cursor.next)
  let comment (length : Nat) : Reading (Option Token) :=
    .ok (none, lineComment (cursor.skip length))
  if c == ' ' || c == '\t' || c == '\n' || c == '\r' then .ok (none, cursor.next)
  else if (c == 'B' || c == 'b') && dialect.hasByteStrings then
    some' (prefixed dialect c cursor
      (some (maybeTriple '\'' false triples .bytesSingle .bytesTripleSingle))
      (some (maybeTriple '"' false triples .bytesDouble .bytesTripleDouble)))
  else if (c == 'R' || c == 'r') && dialect.hasRawStrings then
    some' (prefixed dialect c cursor
      (some (maybeTriple '\'' false true .rawSingle .rawTripleSingle))
      (some (maybeTriple '"' false true .rawDouble .rawTripleDouble)))
  else if c == 'N' || c == 'n' then
    some' (prefixed dialect c cursor
      (some (maybeTriple '\'' escapes false .national .national)) none)
  else if (c == 'E' || c == 'e') && dialect.hasEscapeStrings then
    some' (prefixed dialect c cursor (some (escapeString cursor.position)) none)
  else if (c == 'U' || c == 'u') && dialect.hasCodePointStrings &&
      ['&', '\''].isPrefixOf cursor.next.chars then
    some' (codePointString (cursor.skip 2))
  else if c == 'X' || c == 'x' then
    some' (prefixed dialect c cursor
      (some (maybeTriple '\'' true false .hexadecimal .hexadecimal)) none)
  else if c == '\'' then
    some' (maybeTriple '\'' escapes triples .single .tripleSingle cursor)
  else if c == '"' && !dialect.opensDelimitedName c && !dialect.startsName c then
    some' (maybeTriple '"' escapes triples .double .tripleDouble cursor)
  else if dialect.opensDelimitedName c then some' (delimitedName c cursor)
  else if c.isDigit || c == '.' then some' (numberOrPeriod dialect previous cursor)
  else if c == '-' && cursor.next.startsWith '-' &&
      (!dialect.commentNeedsSpace || cursor.next.next.startsWith ' ') then
    comment 2
  else if c == '/' && cursor.next.startsWith '*' then
    let body := cursor.skip 2
    match blockComment dialect.nestsComments 0 body.chars body.position with
    | .ok rest => .ok (none, rest)
    | .error position => .error ⟨.unterminatedComment, position⟩
  else if c == '/' && cursor.next.startsWith '/' && dialect.commentsWithSlashes then comment 2
  else if c == '#' && dialect.commentsWithNumberSign then comment 1
  else if c == '#' || c == '@' then
    match signOrName dialect c cursor with
    | some reading => some' reading
    | none => signOr other
  else if c == '?' then
    if dialect.questionMarkIsOperator then
      match cursor.next.peek? with
      | some '|' => .ok (some (.sign "?|"), cursor.skip 2)
      | some '&' => .ok (some (.sign "?&"), cursor.skip 2)
      | _ => .ok (some (.sign "?"), cursor.next)
    else
      let (digits, rest) := cursor.next.takeWhile Text.isNumber
      .ok (some (.placeholder (String.ofList ('?' :: digits))), rest)
  else
    signOr fun _ =>
      if dialect.startsName c then some' (name dialect [c] cursor.next)
      else if c == '$' then some' (dollar dialect cursor)
      else other ()

/-- Read tokens up to the end of the text, at most `fuel` of them; `previous` is the token
just before the cursor, if no blank or comment stands between. -/
def tokensFrom (dialect : Dialect) :
    Nat → Option Token → Cursor → Except LexicalError (List Lexeme)
  | 0, _, _ => .ok []
  | fuel + 1, previous, cursor =>
      match cursor.chars with
      | [] => .ok []
      | c :: _ =>
          match token dialect previous c cursor with
          | .error fault => .error fault
          | .ok (none, rest) => tokensFrom dialect fuel none rest
          | .ok (some found, rest) =>
              (tokensFrom dialect fuel (some found) rest).map
                (⟨found, found.keyword, cursor.position⟩ :: ·)

/-- The tokens of a text.  Every token takes at least one character, so there are no more
of them than characters. -/
def tokens (dialect : Dialect) (text : String) : Except LexicalError (List Lexeme) :=
  tokensFrom dialect (text.length + 1) none (.ofString text)

end Lexer

end SqlScenarios.Sql
