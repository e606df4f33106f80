import SqlScenarios.Json
import SqlScenarios.Text.Quoted

/-!
# Decoding records

A record is written as an object with a member for each field, or as an array of the fields
in their order.  Members that are no fields are passed over.  The members of an object are
looked at in the order of their names, and the first one that does not fit is reported; only
then is a field reported that has no member.

`Fields` describes the fields of a record once, for both ways of writing it.
-/

namespace SqlScenarios

/-! ## Faults -/

/-- Why a JSON value is not a record. -/
inductive DecodeFault where
  | wrongType (found : Json) (wanted : String)
  | missingField (name : String)
  | unknownVariant (found : String) (variants : List String)
  | notSingleKey
  | wrongLength (found : Nat) (wanted : String)

namespace DecodeFault

/-- The digits of a decimal number.  Up to sixteen digits stand before the point, and up to
four zeros between the point and the first digit; other numbers are written with one digit
before the point and a power of ten. -/
def decimalText (value : Decimal) : String :=
  let all := Nat.toDigits 10 value.digits
  let digits := (all.reverse.dropWhile (· == '0')).reverse
  let count := digits.length
  let point : Int := all.length + value.exponent
  let magnitude : List Char :=
    if value.digits = 0 then ['0', '.', '0']
    else if count ≤ point ∧ point ≤ 16 then
      digits ++ List.replicate (point.toNat - count) '0' ++ ['.', '0']
    else if 0 < point ∧ point ≤ 16 then
      digits.take point.toNat ++ '.' :: digits.drop point.toNat
    else if -5 < point ∧ point ≤ 0 then
      '0' :: '.' :: List.replicate (-point).toNat '0' ++ digits
    else
      digits.take 1 ++ (if count = 1 then [] else '.' :: digits.drop 1) ++
        'e' :: (toString (point - 1)).toList
  String.ofList ((if value.negative then ['-'] else []) ++ magnitude)

/-- The description of a value of a wrong type. -/
def describe : Json → String
  | .null => "null"
  | .boolean true => "boolean `true`"
  | .boolean false => "boolean `false`"
  | .integer value => "integer `" ++ toString value ++ "`"
  | .decimal value => "floating point `" ++ decimalText value ++ "`"
  | .string text => "string " ++ Text.quoted text
  | .array _ => "sequence"
  | .object _ => "map"

/-- The wording of a choice of variants. -/
def choice (variants : List String) : String :=
  match variants.map fun variant => "`" ++ variant ++ "`" with
  | [first, second] => first ++ " or " ++ second
  | all => "one of " ++ String.intercalate ", " all

/-- The wording of a fault. -/
def message : DecodeFault → String
  | wrongType found wanted => "invalid type: " ++ describe found ++ ", expected " ++ wanted
  | missingField name => "missing field `" ++ name ++ "`"
  | unknownVariant found variants =>
      "unknown variant `" ++ found ++ "`, expected " ++ choice variants
  | notSingleKey => "invalid value: map, expected map with a single key"
  | wrongLength found wanted => s!"invalid length {found}, expected " ++ wanted

end DecodeFault

/-- A reading of JSON values. -/
abbrev Decoder (α : Type) := Json → Except DecodeFault α

namespace Decoder

variable {α β : Type}

/-! ## Simple values -/

/-- Decode a text. -/
def text : Decoder String
  | .string text => .ok text
  | value => .error (.wrongType value "a string")

/-- Decode a list. -/
def list (item : Decoder α) : Decoder (List α)
  | .array items => items.mapM item
  | value => .error (.wrongType value "a sequence")

/-- The variant with a name. -/
def variantNamed (variants : List (String × α)) (name : String) : Except DecodeFault α :=
  match variants.lookup name with
  | some value => .ok value
  | none => .error (.unknownVariant name (variants.map Prod.fst))

/-- The names of the members of an object, each once. -/
def memberNames (members : List (String × Json)) : List String :=
  (members.map Prod.fst).eraseDups

/-- Decode a variant: its name, or an object that has its name for the only key and holds
nothing. -/
def variant (variants : List (String × α)) : Decoder α
  | .string name => variantNamed variants name
  | .object members =>
      match memberNames members with
      | [name] => do
          let value ← variantNamed variants name
          match Json.lookup? members name with
          | none | some .null => .ok value
          | some content => .error (.wrongType content "unit")
      | _ => .error .notSingleKey
  | value => .error (.wrongType value "string or map")

end Decoder

/-! ## Records -/

/-- The fields of a record: the name of each field with a test of its value, and how the
record is built from a source of values, which is asked for fields by place and name. -/
structure Fields (α : Type) where
  tests : List (String × (Json → Except DecodeFault Unit))
  build : (Nat → String → Except DecodeFault Json) → Nat → Except DecodeFault α

namespace Fields

variable {α β : Type}

/-- A record without fields. -/
protected def pure (value : α) : Fields α := ⟨[], fun _ _ => .ok value⟩

/-- A record with one more field. -/
def field (fields : Fields (α → β)) (name : String) (decode : Decoder α) : Fields β where
  tests := fields.tests ++ [(name, fun value => discard (decode value))]
  build source place := do
    let make ← fields.build source place
    let value ← source (place + fields.tests.length) name
    return make (← decode value)

/-- Report the first member that does not fit, in the order of names. -/
def testMembers (fields : Fields α) (members : List (String × Json)) :
    Except DecodeFault Unit :=
  (fields.tests.mergeSort fun left right => decide (left.1 ≤ right.1)).forM fun (name, test) =>
    match Json.lookup? members name with
    | some value => test value
    | none => .ok ()

/-- Decode a record of a named type. -/
def decode (fields : Fields α) (type : String) : Decoder α
  | .object members => do
      fields.testMembers members
      fields.build
        (fun _ name =>
          match Json.lookup? members name with
          | some value => .ok value
          | none => .error (.missingField name))
        0
  | .array items => do
      let count := fields.tests.length
      let record ← fields.build
        (fun place _ =>
          match items[place]? with
          | some value => .ok value
          | none =>
              .error (.wrongLength items.length s!"struct {type} with {count} elements"))
        0
      if count < items.length then
        .error (.wrongLength items.length "fewer elements in array")
      else .ok record
  | value => .error (.wrongType value ("struct " ++ type))

end Fields

end SqlScenarios
