import SqlScenarios.Output.Files
import SqlScenarios.Proofs.FileTrees

/-!
# Writing the files of an output

The files of an output are written one after the other, and no file that has been written is
taken back.  If one of them cannot be written because of its name, then the first cannot, which
has the longest name.  So unless a directory is in the place of a file, either all files are
written or none is.
-/

namespace SqlScenarios

/-! ## Names of files -/

/-- The ends of the names of the files of an output, the longest first. -/
def fileSuffixes : List String := ["_scenarios.json", "_report.md", "_ai.txt"]

/-- The path of a file of an output. -/
def filePath (directory : Path) (name suffix : String) : Path :=
  directory.join (Path.ofString (name ++ suffix))

/-- Whether the names of all files that start with a name are possible. -/
structure FittingName (name : String) : Prop where
  noNul : Char.ofNat 0 ∉ name.toList
  short : (name ++ "_scenarios.json").utf8ByteSize ≤ FileTree.maximalNameSize

/-- Why no file can have a name that starts with the given one, if so. -/
def nameFault? (name : String) : Option FileFault :=
  if Char.ofNat 0 ∈ name.toList then some .nulInName
  else if FileTree.maximalNameSize < (name ++ "_scenarios.json").utf8ByteSize then
    some .nameTooLong
  else none

theorem nameFault?_eq_none_iff {name : String} : nameFault? name = none ↔ FittingName name := by
  unfold nameFault?
  split
  next nul => exact ⟨nofun, fun fits => absurd nul fits.noNul⟩
  next noNul =>
    split
    next long => exact ⟨nofun, fun fits => absurd long (Nat.not_lt.mpr fits.short)⟩
    next short => exact ⟨fun _ => ⟨noNul, Nat.le_of_not_lt short⟩, fun _ => rfl⟩

theorem noSlash_of_safe {name : String} (safe : isUnsafeName name = false) :
    '/' ∉ name.toList := by
  intro member
  simp [isUnsafeName, member] at safe

theorem suffix_properties {suffix : String} (member : suffix ∈ fileSuffixes) :
    '/' ∉ suffix.toList ∧ Char.ofNat 0 ∉ suffix.toList ∧ 2 < suffix.toList.length ∧
      suffix.utf8ByteSize ≤ "_scenarios.json".utf8ByteSize := by
  revert suffix
  decide

/-- A file of an output is a path of one step. -/
theorem Path.ofString_file {name suffix : String} (noSlash : '/' ∉ name.toList)
    (member : suffix ∈ fileSuffixes) :
    Path.ofString (name ++ suffix) = ⟨false, [.into (name ++ suffix)]⟩ := by
  obtain ⟨suffixNoSlash, -, long, -⟩ := suffix_properties member
  have chars : (name ++ suffix).toList = name.toList ++ suffix.toList := String.toList_append
  have step : PathStep.ofPart? '.' SystemText.ofChars (name ++ suffix).toList =
      some (.into (name ++ suffix)) := by
    have ofLength : ∀ short : List Char, short.length ≤ 2 → (name ++ suffix).toList ≠ short := by
      intro short few same
      rw [← same, chars, List.length_append] at few
      omega
    rw [PathStep.ofPart?, if_neg (ofLength [] (by decide)), if_neg (ofLength ['.'] (by decide)),
      if_neg (ofLength ['.', '.'] (by decide)), SystemText.ofChars, String.ofList_toList]
  rw [Path.ofString_of_notMem, step]
  · rfl
  · rw [chars, List.mem_append]
    exact not_or.mpr ⟨noSlash, suffixNoSlash⟩

namespace FileTree

variable {tree before after : FileTree} {place : Place} {directory : Path} {name suffix : String}
variable {files : List (String × String)}

/-- Whether a path leads to a directory at a place. -/
structure Opens (tree : FileTree) (path : Path) (place : Place) : Prop where
  resolved : tree.resolve path = .ok place
  found : tree.entryAt? place = some .directory

theorem Opens.of_kept (opens : before.Opens directory place)
    (kept : KeepsDirectories before after) : after.Opens directory place :=
  ⟨resolve_of_kept kept opens.resolved, kept place opens.found⟩

/-- Where a file of an output is. -/
theorem Opens.resolve_filePath (opens : tree.Opens directory place)
    (noSlash : '/' ∉ name.toList) (fits : FittingName name) (member : suffix ∈ fileSuffixes) :
    tree.resolve (filePath directory name suffix) = .ok (place ++ [.utf8 (name ++ suffix)]) := by
  obtain ⟨-, suffixNoNul, -, size⟩ := suffix_properties member
  have noNul : Char.ofNat 0 ∉ (name ++ suffix).toList := by
    rw [String.toList_append, List.mem_append]
    exact not_or.mpr ⟨fits.noNul, suffixNoNul⟩
  have short : ¬ maximalNameSize < (name ++ suffix).utf8ByteSize := by
    have limit := fits.short
    rw [String.utf8ByteSize_append] at limit ⊢
    omega
  rw [filePath, resolve_join_name opens.resolved opens.found (Path.ofString_file noSlash member),
    if_neg noNul, if_neg short]

/-- A name that is not possible shows at the first file. -/
theorem Opens.resolve_first_of_fault (opens : tree.Opens directory place)
    (noSlash : '/' ∉ name.toList) {fault : FileFault} (unfit : nameFault? name = some fault) :
    tree.resolve (filePath directory name "_scenarios.json") = .error fault := by
  have suffixNoNul : Char.ofNat 0 ∉ "_scenarios.json".toList := by decide
  have nulIff : Char.ofNat 0 ∈ (name ++ "_scenarios.json").toList ↔ Char.ofNat 0 ∈ name.toList := by
    rw [String.toList_append, List.mem_append, or_iff_left suffixNoNul]
  rw [filePath, resolve_join_name opens.resolved opens.found
    (Path.ofString_file noSlash (by decide))]
  unfold nameFault? at unfit
  split at unfit
  next nul =>
    cases unfit
    rw [if_pos (nulIff.mpr nul)]
  next noNul =>
    rw [if_neg fun nul => noNul (nulIff.mp nul)]
    split at unfit
    next long =>
      cases unfit
      rw [if_pos long]
    next => cases unfit

/-! ## Writing one file -/

theorem withFile_of_free (opens : tree.Opens directory place) {path : Path} {file : SystemText}
    (resolved : tree.resolve path = .ok (place ++ [file]))
    (free : tree.entryAt? (place ++ [file]) ≠ some .directory) (content : String) :
    tree.withFile path content = .ok (tree.set (place ++ [file]) (.file content)) := by
  simp only [withFile, resolved, bind, Except.bind, List.dropLast_concat, opens.found]

theorem read_of_file {path : Path} {content : String} (resolved : tree.resolve path = .ok place)
    (found : tree.entryAt? place = some (.file content)) : tree.read path = .ok content := by
  simp only [read, resolved, bind, Except.bind, found]

theorem withFile_of_resolve_error {path : Path} {fault : FileFault}
    (refused : tree.resolve path = .error fault) (content : String) :
    tree.withFile path content = .error fault := by
  rw [withFile, refused]
  rfl

/-! ## Writing all files -/

/-- The tree with files in a directory, which are given by their suffixes and contents. -/
def putFiles (tree : FileTree) (place : Place) (name : String) (files : List (String × String)) :
    FileTree :=
  files.foldl (fun tree file => tree.set (place ++ [.utf8 (name ++ file.1)]) (.file file.2)) tree

theorem putFiles_cons (tree : FileTree) (place : Place) (name : String) (file : String × String)
    (files : List (String × String)) :
    tree.putFiles place name (file :: files) =
      (tree.set (place ++ [.utf8 (name ++ file.1)]) (.file file.2)).putFiles place name files := rfl

/-- Whether none of the files would be written over a directory. -/
def Free (tree : FileTree) (place : Place) (name : String) (files : List (String × String)) :
    Prop :=
  ∀ file ∈ files, tree.entryAt? (place ++ [.utf8 (name ++ file.1)]) ≠ some .directory

theorem Free.of_kept (free : after.Free place name files)
    (kept : KeepsDirectories before after) : before.Free place name files :=
  fun file member found => free file member (kept _ found)

theorem Free.set {file : String × String} (free : tree.Free place name (file :: files)) :
    (tree.set (place ++ [.utf8 (name ++ file.1)]) (.file file.2)).Free place name files := by
  intro other member
  by_cases same : place ++ [.utf8 (name ++ other.1)] = place ++ [.utf8 (name ++ file.1)]
  · rw [same, entryAt?_set_self (by simp)]
    simp
  · rw [entryAt?_set_of_ne same]
    exact free other (List.mem_cons_of_mem _ member)

theorem keepsDirectories_putFiles (free : tree.Free place name files) :
    KeepsDirectories tree (tree.putFiles place name files) := by
  induction files generalizing tree with
  | nil => exact fun _ => id
  | cons file files ih =>
      have first := keepsDirectories_set (free file List.mem_cons_self) (.file file.2)
      exact fun other found => ih free.set other (first other found)

/-- Files put into a directory make no directory. -/
theorem putFiles_keepsDirectories (tree : FileTree) (place : Place) (name : String)
    (files : List (String × String)) : KeepsDirectories (tree.putFiles place name files) tree := by
  induction files generalizing tree with
  | nil => exact fun _ => id
  | cons file files ih =>
      intro other found
      have earlier := ih _ other found
      by_cases same : other = place ++ [.utf8 (name ++ file.1)]
      · rw [same, entryAt?_set_self (by simp)] at earlier
        cases earlier
      · rw [entryAt?_set_of_ne same] at earlier
        exact earlier

theorem entryAt?_putFiles_of_ne {other : Place}
    (different : ∀ file ∈ files, other ≠ place ++ [.utf8 (name ++ file.1)]) :
    (tree.putFiles place name files).entryAt? other = tree.entryAt? other := by
  induction files generalizing tree with
  | nil => rfl
  | cons file files ih =>
      rw [List.forall_mem_cons] at different
      rw [putFiles_cons, ih different.2, entryAt?_set_of_ne different.1]

theorem entryAt?_putFiles {file : String × String} (distinct : (files.map Prod.fst).Nodup)
    (member : file ∈ files) :
    (tree.putFiles place name files).entryAt? (place ++ [.utf8 (name ++ file.1)]) =
      some (.file file.2) := by
  induction files generalizing tree with
  | nil => cases member
  | cons first files ih =>
      rw [List.map_cons, List.nodup_cons] at distinct
      rw [putFiles_cons]
      rcases List.mem_cons.mp member with rfl | later
      · rw [entryAt?_putFiles_of_ne, entryAt?_set_self (by simp)]
        intro other otherMember same
        apply distinct.1
        have names := List.append_cancel_left same
        have texts := congrArg String.toList (SystemText.utf8.inj (List.singleton_inj.mp names))
        rw [String.toList_append, String.toList_append] at texts
        rw [String.toList_injective (List.append_cancel_left texts)]
        exact List.mem_map_of_mem otherMember
      · exact ih distinct.2 later

theorem writeFiles_cons_of_ok (file : String × String)
    (written : tree.withFile (filePath directory name file.1) file.2 = .ok after) :
    (Output.writeFiles fileSystem directory name (file :: files)).run tree =
      (Output.writeFiles fileSystem directory name files).run after := by
  rw [Output.writeFiles]
  exact run_bind_of_run (run_updateTree_of_ok written)

theorem writeFiles_cons_of_error (file : String × String) {fault : FileFault}
    (refused : tree.withFile (filePath directory name file.1) file.2 = .error fault) :
    (Output.writeFiles fileSystem directory name (file :: files)).run tree =
      (.error (.file fault), tree) := by
  rw [Output.writeFiles]
  exact run_bind_of_run (run_updateTree_of_error refused)

/-- Files with possible names that would not be written over directories are all written. -/
theorem writeFiles_of_free (opens : tree.Opens directory place) (noSlash : '/' ∉ name.toList)
    (fits : FittingName name) (known : ∀ file ∈ files, file.1 ∈ fileSuffixes)
    (free : tree.Free place name files) :
    (Output.writeFiles fileSystem directory name files).run tree =
      (.ok (), tree.putFiles place name files) := by
  induction files generalizing tree with
  | nil => rfl
  | cons file files ih =>
      rw [List.forall_mem_cons] at known
      have unoccupied := free file List.mem_cons_self
      have written := withFile_of_free opens
        (opens.resolve_filePath noSlash fits known.1) unoccupied file.2
      have stillOpens := opens.of_kept (keepsDirectories_set unoccupied (.file file.2))
      rw [writeFiles_cons_of_ok file written, ih stillOpens known.2 free.set, putFiles_cons]

/-- Whether none of the files with some suffixes would be written over a directory, once the
directory for them is there. -/
def Unblocked (tree : FileTree) (directory : Path) (name : String) (suffixes : List String) :
    Prop :=
  ∀ made, tree.withDirectories directory = .ok made →
    ∀ suffix ∈ suffixes, ∀ place, ¬ made.Opens (filePath directory name suffix) place

/-- Nothing is in the place of a file if there is no entry at all. -/
theorem unblocked_of_absent {made : FileTree} {suffixes : List String}
    (reached : tree.withDirectories directory = .ok made)
    (absent : ∀ suffix ∈ suffixes,
      (made.resolve (filePath directory name suffix)).toOption.bind made.entryAt? = none) :
    tree.Unblocked directory name suffixes := by
  intro other reachedOther suffix member place opens
  cases reached.symm.trans reachedOther
  have unoccupied := absent suffix member
  rw [opens.resolved] at unoccupied
  cases opens.found.symm.trans unoccupied

/-- Whether the files with some suffixes can be written into a directory under a name. -/
structure Writable (tree : FileTree) (directory : Path) (name : String) (suffixes : List String) :
    Prop where
  safe : isUnsafeName name = false
  fits : FittingName name
  reachable : ∃ made, tree.withDirectories directory = .ok made
  unblocked : tree.Unblocked directory name suffixes

/-- Directories in the place of files are found by the paths of the files. -/
theorem free_iff (opens : tree.Opens directory place) (noSlash : '/' ∉ name.toList)
    (fits : FittingName name) (known : ∀ file ∈ files, file.1 ∈ fileSuffixes) :
    tree.Free place name files ↔
      ∀ suffix ∈ files.map Prod.fst, ∀ other,
        ¬ tree.Opens (filePath directory name suffix) other := by
  rw [List.forall_mem_map]
  constructor
  · intro free file member other found
    have resolved := opens.resolve_filePath noSlash fits (known file member)
    cases resolved.symm.trans found.resolved
    exact free file member found.found
  · intro unblocked file member found
    exact unblocked file member _
      ⟨opens.resolve_filePath noSlash fits (known file member), found⟩

end FileTree

/-! ## Writing an output -/

namespace Output

variable {tree made : FileTree} {directory : Path} {name : String}

/-- The suffixes of the files of an output: that of the supplement only if there is one. -/
def suffixes (output : Output) : List String :=
  if output.supplement.isSome then fileSuffixes else ["_scenarios.json", "_report.md"]

theorem map_fst_files (output : Output) : output.files.map Prod.fst = output.suffixes := by
  rw [files, suffixes]
  cases output.supplement with
  | none => rfl
  | some text => rfl

theorem files_known (output : Output) : ∀ file ∈ output.files, file.1 ∈ fileSuffixes := by
  cases supplement : output.supplement <;> simp [files, supplement, fileSuffixes]

theorem suffixes_known (output : Output) {suffix : String} (member : suffix ∈ output.suffixes) :
    suffix ∈ fileSuffixes := by
  rw [← map_fst_files] at member
  obtain ⟨file, fileMember, rfl⟩ := List.mem_map.mp member
  exact output.files_known file fileMember

/-- The file with the longest name comes first. -/
theorem files_eq_cons (output : Output) :
    ∃ rest, output.files = ("_scenarios.json", output.json) :: rest := by
  rw [files]
  exact ⟨_, List.cons_append⟩

theorem json_mem_files (output : Output) : ("_scenarios.json", output.json) ∈ output.files :=
  List.mem_append_left _ List.mem_cons_self

theorem report_mem_files (output : Output) : ("_report.md", output.report) ∈ output.files :=
  List.mem_append_left _ (List.mem_cons_of_mem _ List.mem_cons_self)

theorem supplement_mem_files (output : Output) {text : String}
    (supplement : output.supplement = some text) : ("_ai.txt", text) ∈ output.files := by
  rw [files, supplement]
  exact List.mem_append_right _ List.mem_cons_self

theorem suffixes_nodup (output : Output) : output.suffixes.Nodup := by
  rw [suffixes]
  split <;> decide

/-- Directories in the place of the files of an output are found by the paths of the files. -/
theorem free_files_iff (output : Output) {place : Place} (opens : tree.Opens directory place)
    (noSlash : '/' ∉ name.toList) (fits : FittingName name) :
    tree.Free place name output.files ↔
      ∀ suffix ∈ output.suffixes, ∀ other,
        ¬ tree.Opens (filePath directory name suffix) other := by
  rw [← map_fst_files]
  exact FileTree.free_iff opens noSlash fits output.files_known

theorem entryAt?_putFiles_files (output : Output) {place : Place} {suffix content : String}
    (member : (suffix, content) ∈ output.files) :
    (tree.putFiles place name output.files).entryAt? (place ++ [.utf8 (name ++ suffix)]) =
      some (.file content) := by
  have distinct := output.suffixes_nodup
  rw [← map_fst_files] at distinct
  exact FileTree.entryAt?_putFiles distinct member

theorem run_write_of_unsafe (output : Output) (unsafeName : isUnsafeName name = true) :
    (output.write FileTree.fileSystem directory name).run tree =
      (.error (.invalidOutputName name), tree) := by
  rw [write, if_pos unsafeName]
  rfl

theorem run_write_of_no_directory (output : Output) (safe : isUnsafeName name = false)
    {fault : FileFault} (refused : tree.withDirectories directory = .error fault) :
    (output.write FileTree.fileSystem directory name).run tree = (.error (.file fault), tree) := by
  rw [write, if_neg (by simp [safe])]
  exact run_bind_of_run (FileTree.run_updateTree_of_error refused)

theorem run_write_of_directory (output : Output) (safe : isUnsafeName name = false)
    (reached : tree.withDirectories directory = .ok made) :
    (output.write FileTree.fileSystem directory name).run tree =
      (writeFiles FileTree.fileSystem directory name output.files).run made := by
  rw [write, if_neg (by simp [safe])]
  exact run_bind_of_run (FileTree.run_updateTree_of_ok reached)

/-- If no file can have the name, then the first file is refused, and the directory has been
made. -/
theorem run_write_of_nameFault (output : Output) (safe : isUnsafeName name = false)
    (reached : tree.withDirectories directory = .ok made) {fault : FileFault}
    (unfit : nameFault? name = some fault) :
    (output.write FileTree.fileSystem directory name).run tree = (.error (.file fault), made) := by
  obtain ⟨-, place, resolved, found⟩ := FileTree.withDirectories_eq_ok reached
  have opens : made.Opens directory place := ⟨resolved, found⟩
  have refused := opens.resolve_first_of_fault (noSlash_of_safe safe) unfit
  obtain ⟨rest, files⟩ := output.files_eq_cons
  rw [output.run_write_of_directory safe reached, files]
  exact FileTree.writeFiles_cons_of_error ("_scenarios.json", output.json)
    (FileTree.withFile_of_resolve_error refused output.json)

/-- An output that can be written is written, and its files hold their contents. -/
theorem write_of_writable (output : Output)
    (writable : tree.Writable directory name output.suffixes) :
    ∃ after, (output.write FileTree.fileSystem directory name).run tree = (.ok (), after) ∧
      after.read (filePath directory name "_scenarios.json") = .ok output.json ∧
      after.read (filePath directory name "_report.md") = .ok output.report ∧
      ∀ text, output.supplement = some text →
        after.read (filePath directory name "_ai.txt") = .ok text := by
  obtain ⟨safe, fits, ⟨made, reached⟩, unblocked⟩ := writable
  have noSlash := noSlash_of_safe safe
  obtain ⟨-, place, resolved, found⟩ := FileTree.withDirectories_eq_ok reached
  have opens : made.Opens directory place := ⟨resolved, found⟩
  have free : made.Free place name output.files :=
    (output.free_files_iff opens noSlash fits).mpr (unblocked made reached)
  have stillOpens := opens.of_kept (FileTree.keepsDirectories_putFiles free)
  have holds : ∀ suffix content, (suffix, content) ∈ output.files →
      (made.putFiles place name output.files).read (filePath directory name suffix) =
        .ok content := by
    intro suffix content member
    exact FileTree.read_of_file
      (stillOpens.resolve_filePath noSlash fits (output.files_known _ member))
      (output.entryAt?_putFiles_files member)
  refine ⟨made.putFiles place name output.files, ?_, ?_, ?_, ?_⟩
  · rw [run_write_of_directory output safe reached,
      FileTree.writeFiles_of_free opens noSlash fits output.files_known free]
  · exact holds _ _ output.json_mem_files
  · exact holds _ _ output.report_mem_files
  · intro text supplement
    exact holds _ _ (output.supplement_mem_files supplement)

end Output

end SqlScenarios
