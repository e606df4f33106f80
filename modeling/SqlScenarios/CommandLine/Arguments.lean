import SqlScenarios.Completion
import SqlScenarios.FileSystem.Path
import SqlScenarios.Strategy
import SqlScenarios.Sql.Dialect

/-!
# Arguments of the command line

An argument starts with two dashes and names a parameter, or else it is a value: of the
parameter before it if that one still lacks its value, and the input otherwise.  A value may
also follow the name of its parameter after an equals sign.  After two dashes alone every
argument is the input.

A value is looked at when the next parameter or input comes, so that an unknown parameter
after it is reported first.  Only the values of paths need not be texts.
-/

namespace SqlScenarios

/-! ## Parameters -/

/-- What can be given on the command line. -/
inductive Parameter where
  | input
  | sql
  | dialect
  | strategy
  | outputDirectory
  | stdout
  | withCompletion
  | endpoint
  | model
  | timeout
  | verbose
  deriving DecidableEq, Repr

namespace Parameter

/-- The parameters that are given by name, with their names. -/
def named : List (String × Parameter) :=
  [("sql", sql), ("dialect", dialect), ("strategy", strategy), ("output-dir", outputDirectory),
    ("stdout", stdout), ("with-ai", withCompletion), ("ollama-url", endpoint),
    ("ollama-model", model), ("ollama-timeout-secs", timeout), ("verbose", verbose)]

/-- Whether a parameter has a value. -/
def hasValue : Parameter → Bool
  | stdout | withCompletion | verbose => false
  | _ => true

/-- How a parameter is shown in messages. -/
def usage : Parameter → String
  | input => "[INPUT]"
  | sql => "--sql <SQL>"
  | dialect => "--dialect <DIALECT>"
  | strategy => "--strategy <STRATEGY>"
  | outputDirectory => "--output-dir <OUTPUT_DIR>"
  | stdout => "--stdout"
  | withCompletion => "--with-ai"
  | endpoint => "--ollama-url <OLLAMA_URL>"
  | model => "--ollama-model <OLLAMA_MODEL>"
  | timeout => "--ollama-timeout-secs <OLLAMA_TIMEOUT_SECS>"
  | verbose => "--verbose"

end Parameter

/-! ## Faults -/

/-- Why arguments are refused. -/
inductive UsageFault where
  | unexpectedArgument (argument : String)
  | missingValue (parameter : Parameter)
  | superfluousValue (value : String) (parameter : Parameter)
  | invalidValue (value : String) (parameter : Parameter) (reason : String)
  | repeated (parameter : Parameter)
  | conflict (first second : Parameter)
  | missingInput
  | invalidText
  deriving DecidableEq, Repr

/-- The first line of the wording of a fault. -/
def UsageFault.message : UsageFault → String
  | unexpectedArgument argument => "unexpected argument '" ++ argument ++ "' found"
  | missingValue parameter =>
      "a value is required for '" ++ parameter.usage ++ "' but none was supplied"
  | superfluousValue value parameter =>
      "unexpected value '" ++ value ++ "' for '" ++ parameter.usage ++
        "' found; no more were expected"
  | invalidValue value parameter reason =>
      "invalid value '" ++ value ++ "' for '" ++ parameter.usage ++ "': " ++ reason
  | repeated parameter =>
      "the argument '" ++ parameter.usage ++ "' cannot be used multiple times"
  | conflict first second =>
      "the argument '" ++ first.usage ++ "' cannot be used with '" ++ second.usage ++ "'"
  | missingInput => "the following required arguments were not provided:"
  | invalidText => "invalid UTF-8 was detected in one or more arguments"

/-! ## Values -/

/-- The number of seconds that a text gives, or what is wrong with it. -/
def secondsOf (text : String) : Except String Nat :=
  let digits :=
    match text.toList with
    | '+' :: rest => rest
    | chars => chars
  if text.isEmpty then .error "cannot parse integer from empty string"
  else if digits.isEmpty || !digits.all Char.isDigit then
    .error "invalid digit found in string"
  else
    let value := digits.foldl (fun value c => value * 10 + (c.toNat - '0'.toNat)) 0
    if value < UInt64.size then .ok value else .error "number too large to fit in target type"

/-- Report a value that a parameter does not take. -/
def Parameter.checkValue (parameter : Parameter) (value : SystemText) : Except UsageFault Unit :=
  match parameter, value with
  | .input, _ | .outputDirectory, _ =>
      if value.isEmpty then .error (.missingValue parameter) else .ok ()
  | _, .raw .. => .error .invalidText
  | .strategy, .utf8 text =>
      match Strategy.ofName? text with
      | some _ => .ok ()
      | none => .error (.invalidValue text parameter (Strategy.unknownMessage text))
  | .timeout, .utf8 text =>
      match secondsOf text with
      | .ok _ => .ok ()
      | .error reason => .error (.invalidValue text parameter reason)
  | _, .utf8 _ => .ok ()

/-! ## Forms of arguments -/

/-- How an argument starts: with two dashes before a name, which may have a value attached, with one
dash before anything else, or without a dash. -/
inductive ArgumentForm where
  | named (name : SystemText) (value : Option SystemText)
  | dashed (rest : SystemText)
  | plain
  deriving DecidableEq, Repr

/-- The form of an argument of some units. -/
def ArgumentForm.ofUnits {α : Type} [DecidableEq α] (dash equals : α)
    (make : List α → SystemText) : List α → ArgumentForm
  | first :: second :: rest =>
      if first ≠ dash then plain
      else if second ≠ dash then dashed (make (second :: rest))
      else named (make (rest.takeWhile (· != equals)))
        ((rest.dropWhile (· != equals)).tail?.map make)
  | _ => plain

/-- The form of an argument. -/
def ArgumentForm.of : SystemText → ArgumentForm
  | .utf8 text => ofUnits '-' '=' SystemText.ofChars text.toList
  | .raw bytes _ => ofUnits 0x2D 0x3D SystemText.ofBytes bytes

/-! ## Reading arguments -/

/-- The parameters that have been given, and the one whose value is not looked at yet. -/
structure Arguments where
  given : List (Parameter × SystemText)
  pending : Option (Parameter × Option SystemText)
  inputTaken : Bool
  deriving Repr

namespace Arguments

/-- No arguments. -/
def none : Arguments := ⟨[], .none, false⟩

/-- The value that was given for a parameter. -/
def value? (arguments : Arguments) (parameter : Parameter) : Option SystemText :=
  arguments.given.lookup parameter

/-- The text that was given for a parameter. -/
def text? (arguments : Arguments) (parameter : Parameter) : Option String :=
  (arguments.value? parameter).bind SystemText.text?

/-- Whether a parameter was given. -/
def has (arguments : Arguments) (parameter : Parameter) : Bool :=
  (arguments.value? parameter).isSome

/-- Add a parameter, which must not have been given before. -/
def give (arguments : Arguments) (parameter : Parameter) (value : SystemText) :
    Except UsageFault Arguments := do
  if arguments.has parameter then .error (.repeated parameter)
  else
    if parameter.hasValue then parameter.checkValue value
    .ok { arguments with given := arguments.given ++ [(parameter, value)] }

/-- Look at the value that is pending. -/
def settle (arguments : Arguments) : Except UsageFault Arguments :=
  match arguments.pending with
  | .none => .ok arguments
  | some (parameter, .none) => .error (.missingValue parameter)
  | some (parameter, some value) => { arguments with pending := .none }.give parameter value

/-- Read an argument that names a parameter, and may have a value attached. -/
def readNamed (arguments : Arguments) (name : SystemText) (attached : Option SystemText) :
    Except UsageFault Arguments :=
  match name.text?.bind fun text => Parameter.named.lookup text, attached with
  | .none, _ => .error (.unexpectedArgument ("--" ++ name.shown))
  | some parameter, some value =>
      if parameter.hasValue then do
        let arguments ← arguments.settle
        arguments.give parameter value
      else .error (.superfluousValue value.shown parameter)
  | some parameter, .none => do
      let arguments ← arguments.settle
      if parameter.hasValue then .ok { arguments with pending := some (parameter, .none) }
      else arguments.give parameter ""

/-- Read an argument that is the input. -/
def readInput (arguments : Arguments) (text : SystemText) : Except UsageFault Arguments :=
  if arguments.inputTaken then .error (.unexpectedArgument text.shown)
  else do
    let arguments ← arguments.settle
    .ok { arguments with pending := some (.input, some text), inputTaken := true }

/-- Read an argument before two dashes alone. -/
def readArgument (arguments : Arguments) (text : SystemText) : Except UsageFault Arguments :=
  match ArgumentForm.of text with
  | .named name value => arguments.readNamed name value
  | .dashed rest => .error (.unexpectedArgument ("-" ++ rest.firstShown))
  | .plain =>
      match arguments.pending with
      | some (parameter, .none) =>
          .ok { arguments with pending := some (parameter, some text) }
      | _ => arguments.readInput text

/-- Read all arguments. -/
def read (arguments : Arguments) : List SystemText → Except UsageFault Arguments
  | [] => arguments.settle
  | .utf8 "--" :: rest => do
      let arguments ← rest.foldlM readInput arguments
      arguments.settle
  | text :: rest => do
      let arguments ← arguments.readArgument text
      arguments.read rest

end Arguments

/-! ## Options -/

/-- Where the query comes from. -/
inductive QuerySource where
  | file (path : SystemText)
  | text (sql : String)
  deriving DecidableEq, Repr

/-- What a run is asked to do. -/
structure Options where
  source : QuerySource
  dialect : String
  strategy : Strategy
  outputDirectory : SystemText
  stdout : Bool
  completion : Option CompletionSettings
  deriving DecidableEq, Repr

/-- The query source that arguments name. -/
def Arguments.source (arguments : Arguments) : Except UsageFault QuerySource :=
  match arguments.text? .sql, arguments.value? .input with
  | some sql, .none => .ok (.text sql)
  | .none, some path => .ok (.file path)
  | .none, .none => .error .missingInput
  | some _, some _ =>
      match (arguments.given.map Prod.fst).filter fun parameter =>
          parameter == .sql || parameter == .input with
      | first :: second :: _ => .error (.conflict first second)
      | _ => .error .missingInput

/-- The options that arguments stand for. -/
def Arguments.options (arguments : Arguments) : Except UsageFault Options := do
  let source ← arguments.source
  let settings : CompletionSettings := {}
  let completion : CompletionSettings := {
    endpoint := (arguments.text? .endpoint).getD settings.endpoint
    model := (arguments.text? .model).getD settings.model
    timeoutSeconds :=
      ((arguments.text? .timeout).bind fun text => (secondsOf text).toOption).getD
        settings.timeoutSeconds }
  return {
    source
    dialect := (arguments.text? .dialect).getD Sql.Dialect.defaultName
    strategy := ((arguments.text? .strategy).bind Strategy.ofName?).getD .standard
    outputDirectory := (arguments.value? .outputDirectory).getD "sql2tests-output"
    stdout := arguments.has .stdout
    completion := if arguments.has .withCompletion then some completion else .none }

/-- The options of a command line. -/
def parseArguments (arguments : List SystemText) : Except UsageFault Options := do
  let arguments ← Arguments.none.read arguments
  arguments.options

end SqlScenarios
