/-!
# Completion services

A completion service answers a prompt with free text.  The prompt for a query asks for test
scenarios in plain words and ends with the query.
-/

namespace SqlScenarios

/-- Why a completion service gave no text. -/
inductive CompletionFault where
  | request (detail : String)
  | decoding (detail : String)
  deriving DecidableEq, Repr

/-- The wording of a fault of a completion service. -/
def CompletionFault.message : CompletionFault → String
  | request detail => "Completion request failed: " ++ detail
  | decoding detail => "Completion response could not be decoded: " ++ detail

/-- A completion service, which takes a prompt. -/
abbrev CompletionService (m : Type → Type) := String → m (Except CompletionFault String)

/-- The prompt for a query. -/
def prompt (sql : String) : String :=
  "You are a professional QA engineer.\n\n" ++
    "Generate structured SQL test scenarios for the following query.\n\n" ++
    "Include:\n- Positive cases\n- Negative cases\n- Boundary cases\n- Edge cases\n\n" ++
    "SQL Query:\n" ++ sql

/-- Ask a service for scenarios for a query. -/
def supplementFor {m : Type → Type} (service : CompletionService m) (sql : String) :
    m (Except CompletionFault String) := service (prompt sql)

/-- How a completion service is reached. -/
structure CompletionSettings where
  endpoint : String := "http://localhost:11434/api/generate"
  model : String := "llama3"
  timeoutSeconds : Nat := 60
  deriving DecidableEq, Repr

/-- The characters that may stand in the scheme of an address. -/
def isSchemeChar (c : Char) : Bool :=
  c.isAlpha || c.isDigit || c == '+' || c == '-' || c == '.'

/-- Whether an endpoint is an address with a scheme and something after it. -/
def isAddress (endpoint : String) : Bool :=
  let chars := endpoint.toList
  let scheme := chars.takeWhile isSchemeChar
  match scheme, chars.drop scheme.length with
  | first :: _, ':' :: '/' :: '/' :: _ :: _ => first.isAlpha
  | _, _ => false

/-- What is known of a request without a connection: an endpoint that is no address is
refused, and no other one is reached. -/
def CompletionSettings.unreachable (settings : CompletionSettings) : CompletionFault :=
  if isAddress settings.endpoint then
    .request ("error sending request for url (" ++ settings.endpoint ++ ")")
  else .request "builder error"

end SqlScenarios
