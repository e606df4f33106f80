import Mathlib.Data.List.Basic
import SqlScenarios.Proofs.OutputFiles

/-!
# Failed writes

Writing an output can fail because of the name that it is written under or because of the
directory, and then no file has been touched: a name that is possible for the first file is
possible for the others.  It can also fail because a directory is in the place of a file, and
this is the only way to fail after a file has been written.
-/

namespace SqlScenarios

namespace FileTree

variable {tree made : FileTree} {directory : Path} {place : Place} {name : String} {error : Error}

/-- No directory is in the place of a file if none is found next to the files, where their names
would be. -/
theorem Opens.unblocked (opens : made.Opens directory place) (noSlash : '/' ∉ name.toList)
    (reached : tree.withDirectories directory = .ok made) {suffixes : List String}
    (known : ∀ suffix ∈ suffixes, suffix ∈ fileSuffixes)
    (unoccupied : ∀ suffix ∈ suffixes,
      made.entryAt? (place ++ [.utf8 (name ++ suffix)]) ≠ some .directory) :
    tree.Unblocked directory name suffixes := by
  intro other reachedOther suffix member target found
  cases reached.symm.trans reachedOther
  have located := resolve_join_name opens.resolved opens.found
    (Path.ofString_file noSlash (known suffix member))
  rw [← filePath, found.resolved] at located
  split at located
  next => cases located
  next =>
    split at located
    next => cases located
    next =>
      cases located
      exact unoccupied suffix member found.found

/-- Why an output cannot be written under a name into a directory, whatever is in the place of its
files: the name is not safe, the directory cannot be made, or no file can have such a name. -/
inductive WriteFault (tree : FileTree) (directory : Path) (name : String) : Error → Prop where
  | unsafeName : isUnsafeName name = true → WriteFault tree directory name (.invalidOutputName name)
  | noDirectory {fault : FileFault} : tree.withDirectories directory = .error fault →
      WriteFault tree directory name (.file fault)
  | nulInName : Char.ofNat 0 ∈ name.toList → WriteFault tree directory name (.file .nulInName)
  | nameTooLong : maximalNameSize < (name ++ "_scenarios.json").utf8ByteSize →
      WriteFault tree directory name (.file .nameTooLong)

/-- A fault of the names of the files is a reason not to write them. -/
theorem WriteFault.of_nameFault {fault : FileFault} (unfit : nameFault? name = some fault) :
    tree.WriteFault directory name (.file fault) := by
  unfold nameFault? at unfit
  split at unfit
  next nul =>
    cases unfit
    exact .nulInName nul
  next =>
    split at unfit
    next long =>
      cases unfit
      exact .nameTooLong long
    next => cases unfit

/-- There is no reason not to write files with possible names into a directory that can be made. -/
theorem WriteFault.false_of_fits (fault : tree.WriteFault directory name error)
    (safe : isUnsafeName name = false) (reached : tree.withDirectories directory = .ok made)
    (fits : FittingName name) : False := by
  cases fault with
  | unsafeName unsafeName => exact absurd (safe.symm.trans unsafeName) Bool.false_ne_true
  | noDirectory refused => cases reached.symm.trans refused
  | nulInName nul => exact fits.noNul nul
  | nameTooLong long => exact absurd long (Nat.not_lt.mpr fits.short)

end FileTree

/-- A failed write has either a fault that it stops at before the first file, or a directory in the
place of a file. -/
theorem Output.writeFault_or_blocked {tree after : FileTree} {directory : Path} {name : String}
    {error : Error} (output : Output)
    (failed : (output.write FileTree.fileSystem directory name).run tree = (.error error, after)) :
    (tree.WriteFault directory name error ∧ tree.AddsDirectories after) ∨
      (¬ tree.WriteFault directory name error ∧
        ¬ tree.Unblocked directory name output.suffixes) := by
  cases safe : isUnsafeName name with
  | true =>
      rw [output.run_write_of_unsafe safe] at failed
      cases failed
      exact .inl ⟨.unsafeName safe, .refl tree⟩
  | false =>
      cases reached : tree.withDirectories directory with
      | error fault =>
          rw [output.run_write_of_no_directory safe reached] at failed
          cases failed
          exact .inl ⟨.noDirectory reached, .refl tree⟩
      | ok made =>
          cases unfit : nameFault? name with
          | some fault =>
              rw [output.run_write_of_nameFault safe reached unfit] at failed
              cases failed
              exact .inl ⟨.of_nameFault unfit, (FileTree.withDirectories_eq_ok reached).1⟩
          | none =>
              have fits := nameFault?_eq_none_iff.mp unfit
              right
              constructor
              · intro fault
                exact fault.false_of_fits safe reached fits
              · -- Nothing is left that could have stopped the write.
                intro unblocked
                obtain ⟨written, succeeded, -⟩ :=
                  output.write_of_writable ⟨safe, fits, ⟨made, reached⟩, unblocked⟩
                cases succeeded.symm.trans failed

/-- A write that fails because of the name or the directory leaves all files as they are, and makes
nothing but directories.  Unless a directory is in the place of one of the files, there is no other
way to fail. -/
theorem failed_write_leaves_files (tree : FileTree) (directory : Path) (name : String)
    (output : Output) (error : Error) (after : FileTree)
    (failed : (output.write FileTree.fileSystem directory name).run tree = (.error error, after)) :
    (tree.WriteFault directory name error → tree.AddsDirectories after) ∧
      (tree.Unblocked directory name output.suffixes →
        tree.WriteFault directory name error ∧ tree.AddsDirectories after) := by
  have either := output.writeFault_or_blocked failed
  constructor
  · intro fault
    rcases either with untouched | ⟨noFault, -⟩
    · exact untouched.2
    · exact absurd fault noFault
  · intro unblocked
    rcases either with untouched | ⟨-, blocked⟩
    · exact untouched
    · exact absurd unblocked blocked

/-- The name is too long for the first file by one byte, and short enough for the others. -/
theorem failed_write_leaves_files_long_name :
    let tree : FileTree := ⟨[(["out"], .directory), (["out", "notes.txt"], .file "notes")]⟩
    let directory := Path.ofString "out/new"
    let name := String.ofList (List.replicate 120 'é' ++ ['a'])
    let output := Output.of {} [] (some "more cases")
    let after := tree.set ["out", "new"] .directory
    (name ++ "_report.md").utf8ByteSize ≤ FileTree.maximalNameSize ∧
      (output.write FileTree.fileSystem directory name).run tree =
        (.error (.file .nameTooLong), after) ∧
      tree.Unblocked directory name output.suffixes ∧
      tree.AddsDirectories after := by
  intro tree directory name output after
  have chars : name.toList = List.replicate 120 'é' ++ ['a'] := String.toList_ofList
  have safe : isUnsafeName name = false := by
    unfold isUnsafeName Path.ofString Text.trim
    rw [chars]
    decide +kernel
  have unfit : nameFault? name = some .nameTooLong := by
    unfold nameFault?
    rw [chars, String.utf8ByteSize_append, if_neg (by decide +kernel), if_pos (by decide +kernel)]
  have reached : tree.withDirectories directory = .ok after := by decide +kernel
  have opens : after.Opens directory ["out", "new"] := ⟨by decide +kernel, by decide +kernel⟩
  have unblocked : tree.Unblocked directory name output.suffixes := by
    apply opens.unblocked (noSlash_of_safe safe) reached
    · intro suffix member
      exact output.suffixes_known member
    · intro suffix _
      simp [after, tree, FileTree.entryAt?, FileTree.set, FileTree.put, List.lookup_cons]
  have failed := output.run_write_of_nameFault safe reached unfit
  refine ⟨?_, failed, unblocked, ?_⟩
  · rw [String.utf8ByteSize_append]
    decide +kernel
  · exact ((failed_write_leaves_files tree directory name output _ after failed).2 unblocked).2

end SqlScenarios
