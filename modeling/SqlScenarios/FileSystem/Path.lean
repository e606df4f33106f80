import SqlScenarios.FileSystem.SystemText

/-!
# Paths

A path is a sequence of steps from the root or from the working directory: to the same
place, up, or into an entry with a name.  The names are texts of the operating system.
-/

namespace SqlScenarios

/-- A step of a path. -/
inductive PathStep where
  | stay
  | up
  | into (name : SystemText)
  deriving DecidableEq, Repr

/-- A path, which starts at the root if it is absolute. -/
structure Path where
  absolute : Bool
  steps : List PathStep
  deriving DecidableEq, Repr

/-- The text of a step, if it has one. -/
def PathStep.text? : PathStep → Option String
  | stay => some "."
  | up => some ".."
  | into name => name.text?

/-! ## Reading paths -/

-- A path is read from characters if it is a text and from bytes if it is none.
section Units

variable {α : Type} [DecidableEq α]

/-- The parts of a list between separators. -/
def partsBetween (separator : α) : List α → List (List α)
  | [] => [[]]
  | unit :: rest =>
      if unit = separator then [] :: partsBetween separator rest
      else
        match partsBetween separator rest with
        | [] => [[unit]]
        | part :: parts => (unit :: part) :: parts

/-- The step that a part of a path is; empty parts are none. -/
def PathStep.ofPart? (period : α) (name : List α → SystemText) (part : List α) :
    Option PathStep :=
  if part = [] then none
  else if part = [period] then some stay
  else if part = [period, period] then some up
  else some (into (name part))

/-- The path with the given text.  A slash at the end asks for a directory, just as a step to
the same place does. -/
def Path.ofUnits (slash period : α) (name : List α → SystemText) (units : List α) : Path :=
  let parts := partsBetween slash units
  let asksForDirectory := 1 < parts.length && parts.getLast? == some []
  { absolute := units.head? == some slash
    steps := parts.filterMap (PathStep.ofPart? period name) ++
      if asksForDirectory then [.stay] else [] }

/-- A file name without its extension.  A period at the start begins no extension. -/
def stemUnits (period : α) (name : List α) : List α :=
  match name.reverse.dropWhile (· != period) with
  | [] | [_] => name
  | _ :: stem => stem.reverse

end Units

/-- A file name without its extension. -/
def SystemText.stem : SystemText → SystemText
  | utf8 text => ofChars (stemUnits '.' text.toList)
  | raw bytes _ => ofBytes (stemUnits 0x2E bytes)

namespace Path

/-- The path with the given text. -/
def ofString (text : String) : Path := ofUnits '/' '.' SystemText.ofChars text.toList

/-- The path that a text of the operating system is. -/
def ofSystemText : SystemText → Path
  | .utf8 text => ofString text
  | .raw bytes _ => ofUnits 0x2F 0x2E SystemText.ofBytes bytes

/-- The text of a path, if it has one. -/
def text? (path : Path) : Option String := do
  let steps ← path.steps.mapM PathStep.text?
  return (if path.absolute then "/" else "") ++ String.intercalate "/" steps

/-- A path that continues another one, unless it starts at the root. -/
def join (base path : Path) : Path :=
  if path.absolute then path else ⟨base.absolute, base.steps ++ path.steps⟩

/-- The name of the entry that a path leads into, if its last step does. -/
def fileName? (path : Path) : Option SystemText :=
  match (path.steps.filter (· != .stay)).getLast? with
  | some (.into name) => some name
  | _ => none

/-- The name of the entry that a path leads into, without its extension. -/
def stem? (path : Path) : Option SystemText := path.fileName?.map SystemText.stem

end Path

end SqlScenarios
