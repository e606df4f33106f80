import SqlScenarios.Proofs.OperatorTexts
import SqlScenarios.Proofs.OutputFiles

/-!
# Names of outputs

A name is refused before anything is asked of the file system exactly if it is blank, holds a slash
or a backslash, or is `..`.  Under any other name the directory is asked for and then the files of
the output, each of which is an entry of the directory: its path has the components of the
directory and one more, which is a name.  This holds for every file system, however it answers.
-/

namespace SqlScenarios

/-! ## Refused names -/

/-- Names that lead out of a directory, or are blank. -/
inductive UnsafeName (name : String) : Prop where
  | blank : (∀ c ∈ name.toList, Text.isBlank c = true) → UnsafeName name
  | slash : '/' ∈ name.toList → UnsafeName name
  | backslash : '\\' ∈ name.toList → UnsafeName name
  | up : name = ".." → UnsafeName name

theorem Text.trimChars_eq_nil_iff {chars : List Char} :
    trimChars chars = [] ↔ ∀ c ∈ chars, isBlank c = true := by
  rw [trimChars_eq, List.rdropWhile_eq_nil_iff]
  constructor
  · intro blank
    cases rest : chars.dropWhile isBlank with
    | nil => exact List.dropWhile_eq_nil_iff.mp rest
    | cons c others =>
        have solid := List.head?_dropWhile_not isBlank chars
        have first := blank c (by simp [rest])
        rw [rest] at solid
        cases solid.symm.trans first
  · intro blank
    rw [List.dropWhile_eq_nil_iff.mpr blank]
    exact List.forall_mem_nil _

theorem Text.isEmpty_trim_iff {text : String} :
    (trim text).isEmpty = true ↔ ∀ c ∈ text.toList, isBlank c = true := by
  rw [String.isEmpty_iff, ← String.toList_eq_nil_iff, trim, String.toList_ofList,
    trimChars_eq_nil_iff]

theorem PathStep.ofPart?_eq_up_iff {α : Type} [DecidableEq α] {period : α}
    {make : List α → SystemText} {part : List α} :
    ofPart? period make part = some .up ↔ part = [period, period] := by
  constructor
  · intro found
    unfold ofPart? at found
    split at found
    next => cases found
    next =>
      split at found
      next => cases found
      next =>
        split at found
        next dots => exact dots
        next => cases found
  · intro dots
    rw [ofPart?, dots, if_neg (List.cons_ne_nil _ _), if_neg (by simp), if_pos rfl]

/-- Of the names without a slash, only `..` is a step up. -/
theorem Path.up_mem_steps_iff {name : String} (noSlash : '/' ∉ name.toList) :
    .up ∈ (Path.ofString name).steps ↔ name = ".." := by
  rw [Path.ofString_of_notMem noSlash, Option.mem_toList, PathStep.ofPart?_eq_up_iff,
    ← String.toList_inj]
  rfl

theorem isUnsafeName_iff {name : String} : isUnsafeName name = true ↔ UnsafeName name := by
  unfold isUnsafeName
  simp only [Bool.or_eq_true, List.contains_iff_mem, Text.isEmpty_trim_iff]
  by_cases slash : '/' ∈ name.toList
  · exact iff_of_true (.inl (.inr slash)) (.slash slash)
  · have relative : (Path.ofString name).absolute = false := by
      rw [Path.ofString_of_notMem slash]
    rw [Path.up_mem_steps_iff slash, relative]
    constructor
    · intro refused
      rcases refused with (((blank | absolute) | up) | slash) | backslash
      · exact .blank blank
      · cases absolute
      · exact .up up
      · exact .slash slash
      · exact .backslash backslash
    · intro unsafeName
      cases unsafeName with
      | blank blank => exact .inl (.inl (.inl (.inl blank)))
      | slash slash => exact .inl (.inr slash)
      | backslash backslash => exact .inr backslash
      | up up => exact .inl (.inl (.inr up))

/-! ## Components of paths -/

/-- A component of a path. -/
inductive PathComponent where
  | root
  | current
  | up
  | normal (name : SystemText)
  deriving DecidableEq, Repr

/-- The component that a step is, unless it leads to the same place. -/
def PathStep.component? : PathStep → Option PathComponent
  | stay => none
  | up => some .up
  | into name => some (.normal name)

namespace Path

/-- The component that a path starts with in front of its steps: the root, or the working
directory if the path names it. -/
def start (path : Path) : List PathComponent :=
  if path.absolute then [.root]
  else if path.steps.head? = some .stay then [.current]
  else []

/-- The components of a path.  Paths with the same components are the same to their users. -/
def components (path : Path) : List PathComponent :=
  path.start ++ path.steps.filterMap PathStep.component?

/-- The components of a path without the last one, which neither the root nor the empty path
has. -/
def parent? (path : Path) : Option (List PathComponent) :=
  match path.components.getLast? with
  | none | some .root => none
  | some _ => some path.components.dropLast

/-- A path leads to an entry of a directory: the name of the entry is a path of one component, which
is neither the same place nor a step up, and the path has this component behind those of the
directory. -/
structure IsEntryOf (path directory : Path) (name : String) : Prop where
  isName : (Path.ofString name).components = [.normal name]
  joined : path = directory.join (Path.ofString name)
  components : path.components = directory.components ++ [.normal name]
  parent : path.parent? = some directory.components

theorem components_join_into (directory : Path) (name : SystemText) :
    (directory.join ⟨false, [.into name]⟩).components =
      directory.components ++ [.normal name] := by
  have start : (directory.join ⟨false, [.into name]⟩).start = directory.start := by
    rcases directory with ⟨absolute, steps⟩
    cases steps <;> rfl
  rw [components, start, components, List.append_assoc]
  apply congrArg
  change (directory.steps ++ [PathStep.into name]).filterMap PathStep.component? = _
  rw [List.filterMap_append]
  rfl

-- Empty parts and inner dots are no components, and a step up is not resolved.
example : ((Path.ofString "./a//b/./..").join (Path.ofString "c")).components =
    [.current, .normal "a", .normal "b", .up, .normal "c"] := by
  decide +kernel

theorem parent?_of_components {path : Path} {components : List PathComponent} {name : SystemText}
    (ends : path.components = components ++ [.normal name]) : path.parent? = some components := by
  rw [parent?, ends, List.getLast?_concat, List.dropLast_concat]

/-- A name that is a path of one step leads to an entry. -/
theorem isEntryOf_join (directory : Path) {name : String}
    (isStep : Path.ofString name = ⟨false, [.into name]⟩) :
    (directory.join (Path.ofString name)).IsEntryOf directory name := by
  have ends := directory.components_join_into name
  rw [isStep]
  exact ⟨by rw [isStep]; rfl, by rw [isStep], ends, parent?_of_components ends⟩

end Path

/-- Each file of an output is an entry of the directory, unless the name is unsafe. -/
theorem isEntryOf_filePath {name suffix : String} (safe : ¬ UnsafeName name) (directory : Path)
    (member : suffix ∈ fileSuffixes) :
    (filePath directory name suffix).IsEntryOf directory (name ++ suffix) := by
  apply Path.isEntryOf_join
  apply Path.ofString_file _ member
  intro slash
  exact safe (.slash slash)

/-! ## Calls of a file system -/

/-- A call of an operation of a file system. -/
inductive FileCall where
  | readFile (path : Path)
  | createDirectories (path : Path)
  | writeFile (path : Path) (content : String)
  deriving DecidableEq, Repr

/-- A call stays in a directory if it makes the directory or writes to an entry of it, whose name is
the given one with the suffix of a file. -/
inductive FileCall.StaysIn (directory : Path) (name : String) : FileCall → Prop where
  | making : StaysIn directory name (.createDirectories directory)
  | writing {path : Path} {suffix content : String} : suffix ∈ fileSuffixes →
      path.IsEntryOf directory (name ++ suffix) → StaysIn directory name (.writeFile path content)

/-- How an attempt at some calls ends: well after all of them, or with the fault of the last call
that was made. -/
inductive Attempt (intended : List FileCall) : Except Error Unit → List FileCall → Prop where
  | finished : Attempt intended (.ok ()) intended
  | stopped {made rest : List FileCall} {fault : FileFault} :
      intended = made ++ rest → made ≠ [] → Attempt intended (.error (.file fault)) made

namespace Attempt

variable {intended made : List FileCall} {outcome : Except Error Unit}

/-- An attempt goes on after a call that has succeeded. -/
theorem cons (call : FileCall) (attempt : Attempt intended outcome made) :
    Attempt (call :: intended) outcome (call :: made) := by
  cases attempt with
  | finished => exact .finished
  | stopped split _ =>
      apply stopped
      · rw [split, List.cons_append]
      · exact List.cons_ne_nil _ _

/-- An attempt ends with a call that has failed. -/
theorem first (call : FileCall) (fault : FileFault) :
    Attempt (call :: intended) (.error (.file fault)) [call] :=
  stopped List.singleton_append.symm (List.cons_ne_nil _ _)

/-- Only intended calls are made. -/
theorem subset (attempt : Attempt intended outcome made) : made ⊆ intended := by
  cases attempt with
  | finished => exact List.Subset.refl intended
  | stopped split _ =>
      rw [split]
      exact List.subset_append_left _ _

/-- No attempt ends because of a name. -/
theorem ne_invalidOutputName (attempt : Attempt intended outcome made) (name : String) :
    outcome ≠ .error (.invalidOutputName name) := by
  cases attempt with
  | finished => exact nofun
  | stopped _ _ => exact nofun

end Attempt

section

variable {σ : Type}

/-- An operation whose call is put at the end of a list of calls. -/
def keepCall {α : Type} (call : FileCall) (operation : StateM σ α) :
    StateM (σ × List FileCall) α :=
  fun (state, calls) =>
    let (result, after) := operation.run state
    (result, after, calls ++ [call])

theorem run_keepCall {α : Type} {operation : StateM σ α} {state after : σ} {result : α}
    (ran : operation.run state = (result, after)) (call : FileCall) (calls : List FileCall) :
    (keepCall call operation).run (state, calls) = (result, after, calls ++ [call]) := by
  change keepCall call operation (state, calls) = _
  rw [keepCall, ran]

/-- A file system that keeps a list of the calls of its operations. -/
def FileSystem.recorded (system : FileSystem (StateM σ)) :
    FileSystem (StateM (σ × List FileCall)) where
  readFile path := keepCall (.readFile path) (system.readFile path)
  createDirectories path := keepCall (.createDirectories path) (system.createDirectories path)
  writeFile path content := keepCall (.writeFile path content) (system.writeFile path content)

/-- The call that writes a file of an output. -/
def fileCall (directory : Path) (name : String) (file : String × String) : FileCall :=
  .writeFile (filePath directory name file.1) file.2

namespace Output

variable (system : FileSystem (StateM σ)) (directory : Path) {name : String}

/-- Writing files attempts the calls that write them, and ends as it does without a record of its
calls. -/
theorem exists_attempt_writeFiles (files : List (String × String)) (state : σ)
    (calls : List FileCall) :
    ∃ outcome after made,
      (writeFiles system directory name files).run state = (outcome, after) ∧
      (writeFiles system.recorded directory name files).run (state, calls) =
        (outcome, after, calls ++ made) ∧
      Attempt (files.map (fileCall directory name)) outcome made := by
  induction files generalizing state calls with
  | nil =>
      refine ⟨.ok (), state, [], rfl, ?_, .finished⟩
      rw [List.append_nil]
      rfl
  | cons file files ih =>
      rcases file with ⟨suffix, content⟩
      let call := fileCall directory name (suffix, content)
      rcases wrote : (system.writeFile (filePath directory name suffix) content).run state with
        ⟨answer, reached⟩
      have recorded := run_keepCall wrote call calls
      rw [writeFiles, writeFiles, List.map_cons]
      cases answer with
      | error fault =>
          refine ⟨.error (.file fault), reached, [call], ?_, ?_, .first call fault⟩
          · exact run_bind_of_run wrote
          · exact run_bind_of_run recorded
      | ok =>
          rcases ih reached (calls ++ [call]) with ⟨outcome, after, made, ran, ranRecorded, attempt⟩
          refine ⟨outcome, after, call :: made, ?_, ?_, attempt.cons call⟩
          · exact (run_bind_of_run wrote).trans ran
          · rw [List.append_cons]
            exact (run_bind_of_run recorded).trans ranRecorded

/-- The calls by which an output is written: one for the directory, and one for each of the files,
of which there are three if there is a supplement and else two. -/
def intendedCalls (directory : Path) (name : String) (output : Output) : List FileCall :=
  [.createDirectories directory,
    .writeFile (filePath directory name "_scenarios.json") output.json,
    .writeFile (filePath directory name "_report.md") output.report] ++
  (output.supplement.map fun text => .writeFile (filePath directory name "_ai.txt") text).toList

theorem intendedCalls_eq (output : Output) : output.intendedCalls directory name =
    .createDirectories directory :: output.files.map (fileCall directory name) := by
  rw [intendedCalls, files]
  cases output.supplement with
  | none => simp [fileCall]
  | some text => simp [fileCall]

/-- Under a safe name, all calls stay in the directory. -/
theorem staysIn_of_mem_intendedCalls (output : Output) (safe : ¬ UnsafeName name)
    {call : FileCall} (member : call ∈ output.intendedCalls directory name) :
    call.StaysIn directory name := by
  rw [intendedCalls_eq, List.mem_cons, List.mem_map] at member
  rcases member with rfl | ⟨file, written, rfl⟩
  · exact .making
  · have known := output.files_known file written
    exact .writing known (isEntryOf_filePath safe directory known)

theorem write_of_unsafe (output : Output) (unsafeName : UnsafeName name) :
    output.write system directory name = pure (.error (.invalidOutputName name)) := by
  rw [write, if_pos (isUnsafeName_iff.mpr unsafeName)]

/-- Under a safe name, writing an output attempts its calls, and ends as it does without a record
of its calls. -/
theorem exists_attempt_write (output : Output) (safe : ¬ UnsafeName name) (state : σ) :
    ∃ outcome after made,
      (output.write system directory name).run state = (outcome, after) ∧
      (output.write system.recorded directory name).run (state, []) = (outcome, after, made) ∧
      Attempt (output.intendedCalls directory name) outcome made := by
  have isSafe : ¬ isUnsafeName name = true := fun refused => safe (isUnsafeName_iff.mp refused)
  let call := FileCall.createDirectories directory
  rcases made : (system.createDirectories directory).run state with ⟨answer, reached⟩
  have recorded := run_keepCall made call []
  rw [write, write, if_neg isSafe, if_neg isSafe, intendedCalls_eq]
  cases answer with
  | error fault =>
      refine ⟨.error (.file fault), reached, [call], ?_, ?_, .first call fault⟩
      · exact run_bind_of_run made
      · exact run_bind_of_run recorded
  | ok =>
      rcases exists_attempt_writeFiles system directory output.files reached [call] with
        ⟨outcome, after, written, ran, ranRecorded, attempt⟩
      refine ⟨outcome, after, call :: written, ?_, ?_, attempt.cons call⟩
      · exact (run_bind_of_run made).trans ran
      · exact (run_bind_of_run recorded).trans ranRecorded

end Output

/-- An output is refused because of its name exactly if the name is unsafe, and then no call has
been made and nothing has changed.  Under any other name the calls for the directory and for its two
or three files are made until one has a fault, and every path that is written to is that of an entry
of the directory.  Keeping the calls makes no difference. -/
theorem write_stays_in_directory (system : FileSystem (StateM σ)) (state : σ) (directory : Path)
    (name : String) (output : Output) :
    ∃ outcome after calls,
      (output.write system directory name).run state = (outcome, after) ∧
      (output.write system.recorded directory name).run (state, []) = (outcome, after, calls) ∧
      ((∃ refused, outcome = .error (.invalidOutputName refused)) ↔ UnsafeName name) ∧
      (UnsafeName name →
        outcome = .error (.invalidOutputName name) ∧ after = state ∧ calls = []) ∧
      (¬ UnsafeName name →
        Attempt (output.intendedCalls directory name) outcome calls ∧
        (∀ call ∈ calls, call.StaysIn directory name) ∧
        ∀ call ∈ output.intendedCalls directory name, call.StaysIn directory name) := by
  by_cases unsafeName : UnsafeName name
  · refine ⟨.error (.invalidOutputName name), state, [], ?_, ?_, ?_, ?_, ?_⟩
    · rw [output.write_of_unsafe system directory unsafeName]
      rfl
    · rw [output.write_of_unsafe system.recorded directory unsafeName]
      rfl
    · exact iff_of_true ⟨name, rfl⟩ unsafeName
    · exact fun _ => ⟨rfl, rfl, rfl⟩
    · exact fun safe => absurd unsafeName safe
  · rcases output.exists_attempt_write system directory unsafeName state with
      ⟨outcome, after, calls, plain, recorded, attempt⟩
    refine ⟨outcome, after, calls, plain, recorded, ?_, ?_, ?_⟩
    · refine iff_of_false ?_ unsafeName
      intro refused
      rcases refused with ⟨other, refused⟩
      exact attempt.ne_invalidOutputName other refused
    · exact fun refused => absurd refused unsafeName
    · intro safe
      refine ⟨attempt, ?_, ?_⟩
      · intro call made
        exact output.staysIn_of_mem_intendedCalls directory safe (attempt.subset made)
      · intro call intended
        exact output.staysIn_of_mem_intendedCalls directory safe intended

end

/-- The name `..` is refused, and the name `.` is not: its files are hidden entries of the
directory.  A directory is in the place of the second one. -/
theorem write_stays_in_directory_dots :
    let tree : FileTree := ⟨[(["out"], .directory), (["out", "._report.md"], .directory)]⟩
    let directory := Path.ofString "out"
    let output := Output.of {} [] (some "more cases")
    UnsafeName ".." ∧
    (output.write FileTree.fileSystem.recorded directory "..").run (tree, []) =
      (.error (.invalidOutputName ".."), tree, []) ∧
    ¬ UnsafeName "." ∧
    (∃ outcome after calls,
      (output.write FileTree.fileSystem.recorded directory ".").run (tree, []) =
        (outcome, after, calls) ∧
      Attempt (output.intendedCalls directory ".") outcome calls ∧
      ∀ call ∈ calls, call.StaysIn directory ".") ∧
    FileCall.writeFile ⟨false, [.into "out", .into "._ai.txt"]⟩ "more cases" ∈
      output.intendedCalls directory "." ∧
    FileCall.StaysIn directory "."
      (.writeFile ⟨false, [.into "out", .into "._ai.txt"]⟩ "more cases") := by
  intro tree directory output
  have refused : UnsafeName ".." := .up rfl
  have safe : ¬ UnsafeName "." := by
    rw [← isUnsafeName_iff]
    decide +kernel
  have intended : FileCall.writeFile ⟨false, [.into "out", .into "._ai.txt"]⟩ "more cases" ∈
      output.intendedCalls directory "." := by
    have path : filePath directory "." "_ai.txt" = ⟨false, [.into "out", .into "._ai.txt"]⟩ := by
      decide +kernel
    rw [← path]
    exact List.mem_append_right _ List.mem_cons_self
  rcases write_stays_in_directory FileTree.fileSystem tree directory ".." output with
    ⟨outcome, after, calls, -, ran, -, untouched, -⟩
  rcases untouched refused with ⟨rfl, rfl, rfl⟩
  rcases write_stays_in_directory FileTree.fileSystem tree directory "." output with
    ⟨outcome, after, calls, -, ranHidden, -, -, inside⟩
  rcases inside safe with ⟨attempt, madeStay, intendedStay⟩
  exact ⟨refused, ran, safe, ⟨outcome, after, calls, ranHidden, attempt, madeStay⟩, intended,
    intendedStay _ intended⟩

end SqlScenarios
