import SqlScenarios.Json.Printer
import SqlScenarios.Json.Reader
import SqlScenarios.Proofs.Numbering

/-!
# Reading printed JSON

Reading the text of a value gives the value back, whatever its strings hold.  Only an integer
that does not fit into 64 bits is read as a decimal, with the same digits.
-/

namespace SqlScenarios.Json

variable {rest : List Char}

/-! ## Strings -/

theorem hexUnit?_hexDigit {code : Nat} (control : code < 32) :
    hexUnit? '0' '0' (hexDigit (code / 16)) (hexDigit code) = some code := by
  revert code
  decide

theorem readText_plain {c : Char} (noQuote : c ≠ '"') (noEscape : c ≠ '\\')
    (visible : ¬ c.toNat < 32) (rest : List Char) :
    readText (c :: rest) = (readText rest).map fun (text, rest) => (c :: text, rest) := by
  rw [readText.eq_def]
  simp only [if_neg noQuote, if_neg noEscape, if_neg visible]

/-- What a character inside a string is written as is read as this character. -/
theorem readText_escapedChar (c : Char) (rest : List Char) :
    readText (escapedChar c ++ rest) =
      (readText rest).map fun (text, rest) => (c :: text, rest) := by
  unfold escapedChar
  split
  next quote => subst quote; rfl
  split
  next escape => subst escape; rfl
  split
  next feed => subst feed; rfl
  split
  next back => subst back; rfl
  split
  next tab => subst tab; rfl
  split
  next backspace =>
    rw [← Char.ofNat_toNat c, backspace]
    rfl
  split
  next formFeed =>
    rw [← Char.ofNat_toNat c, formFeed]
    rfl
  split
  next control =>
    have unit := hexUnit?_hexDigit control
    have high : isHighSurrogate c.toNat = false := by simp [isHighSurrogate]; omega
    have low : isLowSurrogate c.toNat = false := by simp [isLowSurrogate]; omega
    simp [readText, unit, high, low, Char.ofNat_toNat]
  next noQuote noEscape _ _ _ _ _ visible => exact readText_plain noQuote noEscape visible rest

/-- A text is read back from between its quotation marks. -/
theorem readText_escaped (text rest : List Char) :
    readText (text.flatMap escapedChar ++ '"' :: rest) = some (text, rest) := by
  induction text with
  | nil =>
      rw [List.flatMap_nil, List.nil_append, readText.eq_def]
      rfl
  | cons c text ih =>
      rw [List.flatMap_cons, List.append_assoc, readText_escapedChar, ih]
      rfl

/-! ## Numbers -/

/-- The digits of a number. -/
abbrev decimalDigits (number : Nat) : List Char := Nat.toDigits 10 number

theorem isDigit_of_mem {number : Nat} {c : Char} (member : c ∈ decimalDigits number) :
    c.isDigit = true :=
  Nat.isDigit_of_mem_toDigits (by decide) (by decide) member

theorem digitsValue_decimalDigits (number : Nat) : digitsValue (decimalDigits number) = number := by
  have same : digitsValue (decimalDigits number) =
      Nat.ofDigitChars 10 (decimalDigits number) 0 := by
    simp only [digitsValue, Nat.ofDigitChars, Nat.mul_comm]
  rw [same, Nat.ofDigitChars_ten_toDigits]

/-- Only the digits of zero begin with a zero. -/
theorem head?_decimalDigits {number : Nat} (positive : 0 < number) :
    (decimalDigits number).head? ≠ some '0' := by
  induction number using Nat.strongRecOn with
  | ind number ih =>
      rw [decimalDigits, Nat.toDigits_eq_if (by decide)]
      split
      next => simp [Nat.ne_of_gt positive]
      next large =>
        have quotient : 0 < number / 10 := Nat.div_pos (Nat.le_of_not_lt large) (by decide)
        rw [List.head?_append_of_ne_nil _ Nat.toDigits_ne_nil]
        exact ih (number / 10) (Nat.div_lt_self positive (by decide)) quotient

/-- Whether a text does not go on with a digit. -/
def EndsDigits (rest : List Char) : Prop := ∀ c ∈ rest.head?, c.isDigit = false

theorem takeWhile_decimalDigits (number : Nat) (ends : EndsDigits rest) :
    (decimalDigits number ++ rest).takeWhile Char.isDigit = decimalDigits number := by
  rw [List.takeWhile_append_of_pos fun c => isDigit_of_mem]
  cases rest with
  | nil => simp
  | cons c rest => rw [List.takeWhile_cons_of_neg (by simp [ends c rfl]), List.append_nil]

theorem exists_cons_decimalDigits (number : Nat) :
    ∃ c digits, decimalDigits number = c :: digits ∧ c.isDigit = true := by
  cases split : decimalDigits number with
  | nil => exact absurd split Nat.toDigits_ne_nil
  | cons c digits =>
      have member : c ∈ decimalDigits number := by
        rw [split]
        exact List.mem_cons_self
      exact ⟨c, digits, rfl, isDigit_of_mem member⟩

/-- The sign of a number. -/
def sign (negative : Bool) : List Char := if negative then ['-'] else []

/-- The characters of a whole number are its sign and its digits. -/
theorem toList_toString_int (value : Int) :
    (toString value).toList = sign (decide (value < 0)) ++ decimalDigits value.natAbs := by
  rw [Int.toString_eq_repr, Int.repr_eq_if]
  by_cases negative : value < 0
  · rw [if_neg (by omega), String.toList_append, Nat.toList_repr,
      show (-value).toNat = value.natAbs by omega, decide_eq_true negative]
    rfl
  · rw [if_pos (by omega), Nat.toList_repr, show value.toNat = value.natAbs by omega,
      decide_eq_false negative]
    rfl

/-- An exponent is read back. -/
theorem readExponent_toString (exponent : Int) (ends : EndsDigits rest) :
    readExponent ((toString exponent).toList ++ rest) = some (exponent, rest) := by
  obtain ⟨c, tail, split, digit⟩ := exists_cons_decimalDigits exponent.natAbs
  have noMinus : c ≠ '-' := by rintro rfl; cases digit
  have noPlus : c ≠ '+' := by rintro rfl; cases digit
  have digits := takeWhile_decimalDigits exponent.natAbs ends
  have value := digitsValue_decimalDigits exponent.natAbs
  rw [toList_toString_int]
  rw [split] at digits value ⊢
  rw [List.cons_append] at digits
  by_cases negative : exponent < 0
  · have magnitude : -(exponent.natAbs : Int) = exponent := by omega
    rw [decide_eq_true negative, ← magnitude]
    simp [sign, readExponent, digits, value]
  · have magnitude : (exponent.natAbs : Int) = exponent := by omega
    rw [decide_eq_false negative, ← magnitude]
    simp [sign, readExponent, noMinus, noPlus, digits, value]

/-- Whether what follows a value ends it: nothing, a comma or a new line. -/
def EndsValue (rest : List Char) : Prop := ∀ c ∈ rest.head?, c = ',' ∨ c = '\n'

theorem EndsValue.endsDigits (ends : EndsValue rest) : EndsDigits rest := by
  intro c head
  rcases ends c head with rfl | rfl <;> rfl

theorem readFraction_of_endsValue (ends : EndsValue rest) :
    readFraction rest = some (none, rest) := by
  cases rest with
  | nil => rfl
  | cons c rest => rcases ends c rfl with rfl | rfl <;> rfl

theorem readFraction_exponent (exponent : Int) (ends : EndsValue rest) :
    readFraction ('e' :: (toString exponent).toList ++ rest) =
      some (some ([], exponent), rest) := by
  have read := readExponent_toString exponent ends.endsDigits
  rw [Int.toString_eq_repr] at read ⊢
  simp [readFraction, read]

/-- A number is read from its sign, its digits and what makes it a decimal. -/
theorem readNumber_append (negative : Bool) (magnitude : Nat) {tail : List Char}
    {fraction : Option (List Char × Int)} (ends : EndsDigits tail)
    (read : readFraction tail = some (fraction, rest)) :
    readNumber (sign negative ++ decimalDigits magnitude ++ tail) =
      some (number negative (decimalDigits magnitude) fraction, rest) := by
  obtain ⟨c, others, split, digit⟩ := exists_cons_decimalDigits magnitude
  have noMinus : c ≠ '-' := by rintro rfl; cases digit
  have digits := takeWhile_decimalDigits magnitude ends
  have noZero : ¬ (c = '0' ∧ 0 < others.length) := by
    rintro ⟨rfl, more⟩
    cases Nat.eq_zero_or_pos magnitude with
    | inl zero =>
        subst zero
        cases split
        cases more
    | inr positive => exact head?_decimalDigits positive (by rw [split]; rfl)
  rw [split] at digits ⊢
  rw [List.cons_append] at digits
  cases negative with
  | false => simp [sign, readNumber, noMinus, digits, noZero, read]
  | true => simp [sign, readNumber, digits, noZero, read]

/-- The number that the text of a whole number is read as. -/
def ofInt (value : Int) : Json :=
  if -(UInt64.size / 2 : Nat) ≤ value ∧ value < UInt64.size then integer value
  else decimal ⟨decide (value < 0), value.natAbs, 0⟩

theorem number_eq_ofInt (value : Int) :
    number (decide (value < 0)) (decimalDigits value.natAbs) none = ofInt value := by
  simp only [number, digitsValue_decimalDigits, ofInt, UInt64.size]
  by_cases negative : value < 0
  · have magnitude : -(value.natAbs : Int) = value := by omega
    rw [decide_eq_true negative, if_pos rfl, magnitude]
    by_cases fits : -9223372036854775808 ≤ value
    · rw [if_neg (by omega), if_pos (by omega)]
    · rw [if_pos (by omega), if_neg (by omega)]
  · have magnitude : (value.natAbs : Int) = value := by omega
    rw [decide_eq_false negative, if_neg (by decide), magnitude]
    by_cases fits : value < 18446744073709551616
    · rw [if_pos (by omega), if_pos (by omega)]
    · rw [if_neg (by omega), if_neg (by omega)]

theorem readNumber_integer (value : Int) (ends : EndsValue rest) :
    readNumber ((toString value).toList ++ rest) = some (ofInt value, rest) := by
  rw [toList_toString_int, readNumber_append _ _ ends.endsDigits (readFraction_of_endsValue ends),
    number_eq_ofInt]

theorem toList_decimalText (value : Decimal) :
    (decimalText value).toList =
      sign value.negative ++ decimalDigits value.digits ++
        'e' :: (toString value.exponent).toList := by
  obtain ⟨negative, digits, exponent⟩ := value
  cases negative <;> simp [decimalText, sign]

theorem readNumber_decimal (value : Decimal) (ends : EndsValue rest) :
    readNumber ((decimalText value).toList ++ rest) = some (decimal value, rest) := by
  have letter : EndsDigits ('e' :: (toString value.exponent).toList ++ rest) := by
    intro c head
    cases head
    rfl
  rw [toList_decimalText, List.append_assoc,
    readNumber_append _ _ letter (readFraction_exponent value.exponent ends)]
  simp [number, digitsValue_decimalDigits]

/-! ## Spaces and first characters -/

theorem skipSpace_cons {c : Char} (noSpace : isSpace c = false) (rest : List Char) :
    skipSpace (c :: rest) = c :: rest := by
  rw [skipSpace, List.dropWhile_cons_of_neg (by simp [noSpace])]

theorem skipSpace_newLine (level : Nat) (rest : List Char) :
    skipSpace ((newLine level).toList ++ rest) = skipSpace rest := by
  have blank : ∀ c ∈ (newLine level).toList, isSpace c = true := by
    intro c member
    rw [newLine, String.toList_ofList, List.mem_cons, List.mem_replicate] at member
    rcases member with rfl | ⟨-, rfl⟩ <;> rfl
  rw [skipSpace, skipSpace, List.dropWhile_append_of_pos blank]

/-- Space in front of a value is passed over. -/
theorem readValue_skipSpace (fuel : Nat) {chars other : List Char}
    (same : skipSpace chars = skipSpace other) : readValue fuel chars = readValue fuel other := by
  cases fuel with
  | zero => rfl
  | succ fuel => rw [readValue, readValue, same]

/-- Whether a character can be the first one of a number. -/
def StartsNumber (c : Char) : Prop := c.isDigit = true ∨ c = '-'

theorem StartsNumber.ne {c : Char} (starts : StartsNumber c) (other : Char)
    (different : other.isDigit = false ∧ other ≠ '-') : c ≠ other := by
  rintro rfl
  rcases starts with digit | minus
  · rw [different.1] at digit
    cases digit
  · exact different.2 minus

theorem StartsNumber.isSpace_eq {c : Char} (starts : StartsNumber c) : isSpace c = false := by
  simp [isSpace, starts.ne ' ' (by decide), starts.ne '\n' (by decide),
    starts.ne '\r' (by decide), starts.ne '\t' (by decide)]

theorem readValue_number {c : Char} (starts : StartsNumber c) (fuel : Nat) (rest : List Char) :
    readValue (fuel + 1) (c :: rest) = readNumber (c :: rest) := by
  rw [readValue, skipSpace_cons starts.isSpace_eq]
  simp [starts.ne 'n' (by decide), starts.ne 't' (by decide),
    starts.ne 'f' (by decide), starts.ne '"' (by decide),
    starts.ne '[' (by decide), starts.ne '\x7b' (by decide)]

theorem exists_cons_number (negative : Bool) (magnitude : Nat) (tail : List Char) :
    ∃ c text, sign negative ++ decimalDigits magnitude ++ tail = c :: text ∧ StartsNumber c := by
  obtain ⟨c, digits, split, digit⟩ := exists_cons_decimalDigits magnitude
  rw [split]
  cases negative with
  | true => exact ⟨_, _, rfl, .inr rfl⟩
  | false => exact ⟨_, _, rfl, .inl digit⟩

/-! ## Values -/

mutual

/-- The value that the text of a value is read as. -/
def asRead : Json → Json
  | null => null
  | boolean value => boolean value
  | integer value => ofInt value
  | decimal value => decimal value
  | string text => string text
  | array items => array (itemsAsRead items)
  | object members => object (membersAsRead members)

/-- The items that the texts of items are read as. -/
def itemsAsRead : List Json → List Json
  | [] => []
  | item :: items => item.asRead :: itemsAsRead items

/-- The members that the texts of members are read as. -/
def membersAsRead : List (String × Json) → List (String × Json)
  | [] => []
  | (name, value) :: members => (name, value.asRead) :: membersAsRead members

end

theorem itemsAsRead_eq (items : List Json) : itemsAsRead items = items.map asRead := by
  induction items with
  | nil => rfl
  | cons item items ih => rw [itemsAsRead, ih, List.map_cons]

theorem membersAsRead_eq (members : List (String × Json)) :
    membersAsRead members = members.map fun member => (member.1, member.2.asRead) := by
  induction members with
  | nil => rfl
  | cons member members ih => rw [membersAsRead, ih, List.map_cons]

/-- The text of a value begins with no space and with no closing bracket. -/
theorem exists_cons_prettyAt (value : Json) (level : Nat) :
    ∃ c text, (value.prettyAt level).toList = c :: text ∧ isSpace c = false ∧ c ≠ ']' := by
  have ofNumber : ∀ negative magnitude tail, ∃ c text,
      sign negative ++ decimalDigits magnitude ++ tail = c :: text ∧ isSpace c = false ∧
        c ≠ ']' := by
    intro negative magnitude tail
    obtain ⟨c, text, split, starts⟩ := exists_cons_number negative magnitude tail
    exact ⟨c, text, split, starts.isSpace_eq, starts.ne ']' (by decide)⟩
  cases value with
  | null =>
      rw [prettyAt]
      exact ⟨'n', _, rfl, rfl, by decide⟩
  | boolean value =>
      cases value with
      | true =>
          rw [prettyAt]
          exact ⟨'t', _, rfl, rfl, by decide⟩
      | false =>
          rw [prettyAt]
          exact ⟨'f', _, rfl, rfl, by decide⟩
  | integer value =>
      rw [prettyAt, toList_toString_int]
      simpa using ofNumber (decide (value < 0)) value.natAbs []
  | decimal value =>
      rw [prettyAt, toList_decimalText]
      exact ofNumber _ _ _
  | string text =>
      rw [prettyAt, quoted, String.toList_ofList]
      exact ⟨'"', _, rfl, rfl, by decide⟩
  | array items =>
      cases items with
      | nil =>
          rw [prettyAt]
          exact ⟨'[', _, rfl, rfl, by decide⟩
      | cons item items =>
          simp only [prettyAt, String.toList_append]
          exact ⟨'[', _, rfl, rfl, by decide⟩
  | object members =>
      cases members with
      | nil =>
          rw [prettyAt]
          exact ⟨'\x7b', _, rfl, rfl, by decide⟩
      | cons member members =>
          simp only [prettyAt, String.toList_append]
          exact ⟨'\x7b', _, rfl, rfl, by decide⟩

/-- What follows an item of an array that ends on a level: the items after it, and the end. -/
def itemsTail (level : Nat) (items : List Json) (rest : List Char) : List Char :=
  (prettyItems (level + 1) items).toList ++ (newLine level).toList ++ ']' :: rest

/-- What follows a member of an object that ends on a level. -/
def membersTail (level : Nat) (members : List (String × Json)) (rest : List Char) : List Char :=
  (prettyMembers (level + 1) members).toList ++ (newLine level).toList ++ '\x7d' :: rest

theorem itemsTail_nil (level : Nat) (rest : List Char) :
    itemsTail level [] rest = (newLine level).toList ++ ']' :: rest := by
  rw [itemsTail, prettyItems]
  rfl

theorem itemsTail_cons (level : Nat) (item : Json) (items : List Json) (rest : List Char) :
    itemsTail level (item :: items) rest = ',' :: ((newLine (level + 1)).toList ++
      ((item.prettyAt (level + 1)).toList ++ itemsTail level items rest)) := by
  simp [itemsTail, prettyItems]

theorem toList_prettyAt_array (level : Nat) (item : Json) (items : List Json) :
    ((array (item :: items)).prettyAt level).toList ++ rest =
      '[' :: ((newLine (level + 1)).toList ++
        ((item.prettyAt (level + 1)).toList ++ itemsTail level items rest)) := by
  simp [itemsTail, prettyAt]

theorem membersTail_nil (level : Nat) (rest : List Char) :
    membersTail level [] rest = (newLine level).toList ++ '\x7d' :: rest := by
  rw [membersTail, prettyMembers]
  rfl

/-- The characters of a member, and what follows it. -/
def memberText (level : Nat) (name : String) (value : Json) (tail : List Char) : List Char :=
  '"' :: (name.toList.flatMap escapedChar ++ '"' :: ':' :: ' ' ::
    ((value.prettyAt level).toList ++ tail))

theorem membersTail_cons (level : Nat) (name : String) (value : Json)
    (members : List (String × Json)) (rest : List Char) :
    membersTail level ((name, value) :: members) rest = ',' :: ((newLine (level + 1)).toList ++
      memberText (level + 1) name value (membersTail level members rest)) := by
  simp [membersTail, memberText, prettyMembers, quoted]

theorem toList_prettyAt_object (level : Nat) (name : String) (value : Json)
    (members : List (String × Json)) :
    ((object ((name, value) :: members)).prettyAt level).toList ++ rest =
      '\x7b' :: ((newLine (level + 1)).toList ++
        memberText (level + 1) name value (membersTail level members rest)) := by
  simp [membersTail, memberText, prettyAt, quoted]

theorem endsValue_newLine (level : Nat) (rest : List Char) :
    EndsValue ((newLine level).toList ++ rest) := by
  rw [newLine, String.toList_ofList]
  rintro c ⟨⟩
  exact .inr rfl

theorem endsValue_itemsTail (level : Nat) (items : List Json) (rest : List Char) :
    EndsValue (itemsTail level items rest) := by
  cases items with
  | nil =>
      rw [itemsTail_nil]
      exact endsValue_newLine level _
  | cons item items =>
      rw [itemsTail_cons]
      rintro c ⟨⟩
      exact .inl rfl

theorem endsValue_membersTail (level : Nat) (members : List (String × Json))
    (rest : List Char) : EndsValue (membersTail level members rest) := by
  cases members with
  | nil =>
      rw [membersTail_nil]
      exact endsValue_newLine level _
  | cons member members =>
      rw [membersTail_cons]
      rintro c ⟨⟩
      exact .inl rfl

/-- Whether a value is read back from its text on any level, with a step for every character. -/
def ReadsBack (value : Json) : Prop :=
  ∀ (level fuel : Nat) (rest : List Char), (value.prettyAt level).toList.length ≤ fuel →
    EndsValue rest →
    readValue fuel ((value.prettyAt level).toList ++ rest) = some (value.asRead, rest)

/-- What holds of a value if it holds of its parts holds of every value. -/
@[elab_as_elim]
theorem induction {motive : Json → Prop} (null : motive null)
    (boolean : ∀ value, motive (boolean value)) (integer : ∀ value, motive (integer value))
    (decimal : ∀ value, motive (decimal value)) (string : ∀ text, motive (string text))
    (array : ∀ items, (∀ item ∈ items, motive item) → motive (array items))
    (object : ∀ members, (∀ member ∈ members, motive member.2) → motive (object members))
    (value : Json) : motive value :=
  Json.rec (motive_1 := motive) (motive_2 := fun items => ∀ item ∈ items, motive item)
    (motive_3 := fun members => ∀ member ∈ members, motive member.2)
    (motive_4 := fun member => motive member.2)
    null boolean integer decimal string array object
    (List.forall_mem_nil _) (fun _ _ first rest => List.forall_mem_cons.mpr ⟨first, rest⟩)
    (List.forall_mem_nil _) (fun _ _ first rest => List.forall_mem_cons.mpr ⟨first, rest⟩)
    (fun _ _ holds => holds) value

theorem readItems_skipSpace (fuel : Nat) {chars other : List Char}
    (same : skipSpace chars = skipSpace other) : readItems fuel chars = readItems fuel other := by
  cases fuel with
  | zero => rfl
  | succ fuel => rw [readItems, readItems, readValue_skipSpace fuel same]

/-- Items are read back if each of them is. -/
theorem readItems_of_forall {level : Nat} {item : Json} {items : List Json}
    (each : ∀ other ∈ item :: items, ReadsBack other) {fuel : Nat}
    (enough : (item.prettyAt (level + 1)).toList.length +
      (prettyItems (level + 1) items).toList.length < fuel) (rest : List Char) :
    readItems fuel ((item.prettyAt (level + 1)).toList ++ itemsTail level items rest) =
      some (itemsAsRead (item :: items), rest) := by
  induction items generalizing item fuel with
  | nil =>
      obtain ⟨fuel, rfl⟩ := Nat.exists_eq_add_one_of_ne_zero (Nat.ne_zero_of_lt enough)
      have first := each item List.mem_cons_self (level + 1) fuel (itemsTail level [] rest)
        (by omega) (endsValue_itemsTail level [] rest)
      rw [readItems, first, itemsTail_nil]
      simp only [skipSpace_newLine]
      rfl
  | cons next items ih =>
      obtain ⟨fuel, rfl⟩ := Nat.exists_eq_add_one_of_ne_zero (Nat.ne_zero_of_lt enough)
      have first := each item List.mem_cons_self (level + 1) fuel
        (itemsTail level (next :: items) rest) (by omega)
        (endsValue_itemsTail level (next :: items) rest)
      have others : ∀ other ∈ next :: items, ReadsBack other :=
        fun other member => each other (List.mem_cons_of_mem _ member)
      have fewer : (next.prettyAt (level + 1)).toList.length +
          (prettyItems (level + 1) items).toList.length < fuel := by
        have comma : ",".toList.length = 1 := rfl
        simp only [prettyItems, String.toList_append, List.length_append] at enough
        omega
      have tail := ih others fewer
      rw [readItems, first, itemsTail_cons]
      simp only [skipSpace_cons (c := ',') rfl]
      rw [readItems_skipSpace fuel (skipSpace_newLine (level + 1) _), tail]
      rfl

theorem skipSpace_memberText (level : Nat) (name : String) (value : Json) (tail : List Char) :
    skipSpace ((newLine level).toList ++ memberText level name value tail) =
      memberText level name value tail := by
  rw [skipSpace_newLine, memberText, skipSpace_cons rfl]

theorem readMembers_skipSpace (fuel : Nat) {chars other : List Char}
    (same : skipSpace chars = skipSpace other) :
    readMembers fuel chars = readMembers fuel other := by
  cases fuel with
  | zero => rfl
  | succ fuel => rw [readMembers, readMembers, same]

/-- Read what follows the value of a member: the members after it, or the end of the object. -/
def readAfterMember (fuel : Nat) (member : String × Json) (chars : List Char) :
    Option (List (String × Json) × List Char) :=
  match skipSpace chars with
  | ',' :: rest => (readMembers fuel rest).map fun (members, rest) => (member :: members, rest)
  | '\x7d' :: rest => some ([member], rest)
  | _ => none

/-- A member is read up to what follows its value. -/
theorem readMembers_memberText {fuel level : Nat} {value : Json} {tail : List Char}
    (first : readValue fuel ((value.prettyAt level).toList ++ tail) = some (value.asRead, tail))
    (name : String) :
    readMembers (fuel + 1) (memberText level name value tail) =
      readAfterMember fuel (name, value.asRead) tail := by
  -- The printer puts a blank in front of the value, which the reader of values passes over.
  have blank : readValue fuel (' ' :: ((value.prettyAt level).toList ++ tail)) =
      some (value.asRead, tail) := by
    rw [← first]
    exact readValue_skipSpace fuel rfl
  rw [memberText, readMembers, skipSpace_cons rfl]
  simp only [readText_escaped, skipSpace_cons (c := ':') rfl, blank, String.ofList_toList]
  rfl

/-- Members are read back if the value of each of them is. -/
theorem readMembers_of_forall {level : Nat} {name : String} {value : Json}
    {members : List (String × Json)}
    (each : ∀ other ∈ (name, value) :: members, ReadsBack other.2) {fuel : Nat}
    (enough : (value.prettyAt (level + 1)).toList.length +
      (prettyMembers (level + 1) members).toList.length < fuel) (rest : List Char) :
    readMembers fuel (memberText (level + 1) name value (membersTail level members rest)) =
      some (membersAsRead ((name, value) :: members), rest) := by
  have valueReads : ReadsBack value := each (name, value) List.mem_cons_self
  induction members generalizing name value fuel with
  | nil =>
      obtain ⟨fuel, rfl⟩ := Nat.exists_eq_add_one_of_ne_zero (Nat.ne_zero_of_lt enough)
      have first := valueReads (level + 1) fuel (membersTail level [] rest) (by omega)
        (endsValue_membersTail level [] rest)
      rw [readMembers_memberText first, readAfterMember, membersTail_nil]
      simp only [skipSpace_newLine]
      rfl
  | cons next members ih =>
      obtain ⟨fuel, rfl⟩ := Nat.exists_eq_add_one_of_ne_zero (Nat.ne_zero_of_lt enough)
      obtain ⟨nextName, next⟩ := next
      have first := valueReads (level + 1) fuel
        (membersTail level ((nextName, next) :: members) rest) (by omega)
        (endsValue_membersTail level ((nextName, next) :: members) rest)
      have others : ∀ other ∈ (nextName, next) :: members, ReadsBack other.2 :=
        fun other member => each other (List.mem_cons_of_mem _ member)
      have fewer : (next.prettyAt (level + 1)).toList.length +
          (prettyMembers (level + 1) members).toList.length < fuel := by
        have comma : ",".toList.length = 1 := rfl
        simp only [prettyMembers, String.toList_append, List.length_append] at enough
        omega
      have tail := ih others fewer (others (nextName, next) List.mem_cons_self)
      rw [readMembers_memberText first, readAfterMember, membersTail_cons]
      simp only [skipSpace_cons (c := ',') rfl]
      have skipped := readMembers_skipSpace fuel (skipSpace_newLine (level + 1)
        (memberText (level + 1) nextName next (membersTail level members rest)))
      rw [skipped, tail]
      rfl

/-- A value is read as a number if its text is the one of a number. -/
theorem readValue_numberText {negative : Bool} {magnitude fuel : Nat} {text tail : List Char}
    (number : text = sign negative ++ decimalDigits magnitude ++ tail)
    (enough : text.length ≤ fuel) (rest : List Char) :
    readValue fuel (text ++ rest) = readNumber (text ++ rest) := by
  obtain ⟨c, others, split, starts⟩ := exists_cons_number negative magnitude tail
  rw [number, split] at enough ⊢
  obtain ⟨fuel, rfl⟩ := Nat.exists_eq_add_one_of_ne_zero (Nat.ne_zero_of_lt enough)
  exact readValue_number starts fuel (others ++ rest)

theorem readsBack_integer (value : Int) : ReadsBack (integer value) := by
  intro level fuel rest enough ends
  rw [prettyAt] at enough ⊢
  have number : (toString value).toList =
      sign (decide (value < 0)) ++ decimalDigits value.natAbs ++ [] := by
    rw [toList_toString_int, List.append_nil]
  rw [readValue_numberText number enough, readNumber_integer value ends, asRead]

theorem readsBack_decimal (value : Decimal) : ReadsBack (decimal value) := by
  intro level fuel rest enough ends
  rw [prettyAt] at enough ⊢
  rw [readValue_numberText (toList_decimalText value) enough, readNumber_decimal value ends,
    asRead]

theorem readsBack_string (text : String) : ReadsBack (string text) := by
  intro level fuel rest enough ends
  rw [prettyAt, quoted, String.toList_ofList] at enough ⊢
  obtain ⟨fuel, rfl⟩ := Nat.exists_eq_add_one_of_ne_zero (Nat.ne_zero_of_lt enough)
  have quotedText : '"' :: text.toList.flatMap escapedChar ++ ['"'] ++ rest =
      '"' :: (text.toList.flatMap escapedChar ++ '"' :: rest) := by simp
  rw [quotedText, readValue, skipSpace_cons rfl]
  simp only [readText_escaped, Option.map_some, String.ofList_toList, asRead]

theorem readsBack_array {items : List Json} (each : ∀ item ∈ items, ReadsBack item) :
    ReadsBack (array items) := by
  intro level fuel rest enough ends
  cases items with
  | nil =>
      rw [prettyAt] at enough ⊢
      obtain ⟨fuel, rfl⟩ := Nat.exists_eq_add_one_of_ne_zero (Nat.ne_zero_of_lt enough)
      rfl
  | cons item items =>
      have bound : (item.prettyAt (level + 1)).toList.length +
          (prettyItems (level + 1) items).toList.length + 1 < fuel := by
        have opening : "[".toList.length = 1 := rfl
        have closing : "]".toList.length = 1 := rfl
        simp only [prettyAt, String.toList_append, List.length_append] at enough
        omega
      obtain ⟨fuel, rfl⟩ := Nat.exists_eq_add_one_of_ne_zero (Nat.ne_zero_of_lt bound)
      have read := readItems_of_forall each (Nat.lt_of_succ_lt_succ bound) rest
      -- The reader looks at the first character of an item to tell whether the array is empty.
      obtain ⟨c, text, split, noSpace, noBracket⟩ := exists_cons_prettyAt item (level + 1)
      rw [split, List.cons_append] at read
      rw [toList_prettyAt_array, split, readValue, skipSpace_cons rfl, List.cons_append]
      simp [skipSpace_newLine, skipSpace_cons noSpace, noBracket, read, asRead]

theorem readsBack_object {members : List (String × Json)}
    (each : ∀ member ∈ members, ReadsBack member.2) : ReadsBack (object members) := by
  intro level fuel rest enough ends
  cases members with
  | nil =>
      rw [prettyAt] at enough ⊢
      obtain ⟨fuel, rfl⟩ := Nat.exists_eq_add_one_of_ne_zero (Nat.ne_zero_of_lt enough)
      rfl
  | cons member members =>
      obtain ⟨name, value⟩ := member
      have bound : (value.prettyAt (level + 1)).toList.length +
          (prettyMembers (level + 1) members).toList.length + 1 < fuel := by
        have opening : "\x7b".toList.length = 1 := rfl
        have closing : "\x7d".toList.length = 1 := rfl
        simp only [prettyAt, String.toList_append, List.length_append] at enough
        omega
      obtain ⟨fuel, rfl⟩ := Nat.exists_eq_add_one_of_ne_zero (Nat.ne_zero_of_lt bound)
      have read := readMembers_of_forall each (Nat.lt_of_succ_lt_succ bound) rest
      rw [toList_prettyAt_object, readValue, skipSpace_cons rfl]
      simp only [skipSpace_memberText]
      rw [memberText] at read ⊢
      simp [read, asRead]

/-- Every value is read back from its text. -/
theorem readsBack (value : Json) : ReadsBack value := by
  induction value using Json.induction with
  | null =>
      intro level fuel rest enough ends
      rw [prettyAt] at enough ⊢
      obtain ⟨fuel, rfl⟩ := Nat.exists_eq_add_one_of_ne_zero (Nat.ne_zero_of_lt enough)
      rfl
  | boolean value =>
      intro level fuel rest enough ends
      cases value <;>
      · rw [prettyAt] at enough ⊢
        obtain ⟨fuel, rfl⟩ := Nat.exists_eq_add_one_of_ne_zero (Nat.ne_zero_of_lt enough)
        rfl
  | integer value => exact readsBack_integer value
  | decimal value => exact readsBack_decimal value
  | string text => exact readsBack_string text
  | array items each => exact readsBack_array each
  | object members each => exact readsBack_object each

/-- The text of a value is read as this value. -/
theorem parse?_pretty (value : Json) : parse? value.pretty = some value.asRead := by
  have enough : (value.prettyAt 0).toList.length ≤ 2 * (value.prettyAt 0).toList.length + 2 := by
    omega
  have read := readsBack value 0 _ [] enough (by rintro c ⟨⟩)
  rw [List.append_nil] at read
  rw [parse?, pretty]
  simp only [read]
  rfl

end SqlScenarios.Json
