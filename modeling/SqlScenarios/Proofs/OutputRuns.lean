import Mathlib.Data.List.Basic
import SqlScenarios.Proofs.OutputFiles

/-!
# Writing outputs one after the other

What comes of writing an output is a matter of its name and of the directory.  Outputs that are
written one after the other meet in files of the same name only, so each file holds what the last
output under its name has put there.
-/

namespace SqlScenarios

/-! ## Calls -/

/-- An output with the name that it is written under. -/
structure OutputCall where
  name : String
  output : Output

/-- Write outputs into a directory one after the other, whatever comes of each. -/
def writeAll {m : Type → Type} [Monad m] (system : FileSystem m) (directory : Path)
    (calls : List OutputCall) : m (List (Except Error Unit)) :=
  calls.mapM fun call => call.output.write system directory call.name

/-- What comes of writing an output under a name into a directory, if no directory is in the place
of a file. -/
def FileTree.outcome (tree : FileTree) (directory : Path) (name : String) : Except Error Unit :=
  if isUnsafeName name then .error (.invalidOutputName name)
  else
    match tree.withDirectories directory with
    | .error fault => .error (.file fault)
    | .ok _ =>
        match nameFault? name with
        | some fault => .error (.file fault)
        | none => .ok ()

namespace OutputCall

/-- Whether a call succeeds, if no directory is in the place of a file. -/
def Succeeds (tree : FileTree) (directory : Path) (call : OutputCall) : Prop :=
  tree.outcome directory call.name = .ok ()

/-- Whether a call writes the file at a place. -/
def Writes (tree : FileTree) (directory : Path) (call : OutputCall) (place : Place) : Prop :=
  call.Succeeds tree directory ∧ ∃ made, tree.withDirectories directory = .ok made ∧
    ∃ suffix ∈ call.output.suffixes,
      made.resolve (filePath directory call.name suffix) = .ok place

end OutputCall

/-! ## Names of files -/

/-- The suffixes differ in the last character. -/
theorem suffix_eq_of_getLast? {suffix other : String} (member : suffix ∈ fileSuffixes)
    (otherMember : other ∈ fileSuffixes)
    (same : suffix.toList.getLast? = other.toList.getLast?) : suffix = other := by
  have all : ∀ first ∈ fileSuffixes, ∀ second ∈ fileSuffixes,
      first.toList.getLast? = second.toList.getLast? → first = second := by decide
  exact all suffix member other otherMember same

/-- A name and a suffix can be told from the name of the file. -/
theorem name_suffix_inj {name other suffix otherSuffix : String} (member : suffix ∈ fileSuffixes)
    (otherMember : otherSuffix ∈ fileSuffixes) (same : name ++ suffix = other ++ otherSuffix) :
    name = other ∧ suffix = otherSuffix := by
  obtain ⟨-, -, long, -⟩ := suffix_properties member
  obtain ⟨-, -, otherLong, -⟩ := suffix_properties otherMember
  have nonempty : suffix.toList ≠ [] := List.ne_nil_of_length_pos (by omega)
  have otherNonempty : otherSuffix.toList ≠ [] := List.ne_nil_of_length_pos (by omega)
  have chars := congrArg String.toList same
  rw [String.toList_append, String.toList_append] at chars
  have lastChars := congrArg List.getLast? chars
  rw [List.getLast?_append_of_ne_nil _ nonempty, List.getLast?_append_of_ne_nil _ otherNonempty]
    at lastChars
  obtain rfl := suffix_eq_of_getLast? member otherMember lastChars
  exact ⟨String.toList_injective (List.append_cancel_right chars), rfl⟩

namespace FileTree

variable {tree made after : FileTree} {directory : Path} {place : Place}
variable {call : OutputCall} {calls : List OutputCall}

/-! ## One call -/

/-- The tree after a call into the directory at a place. -/
def putCall (place : Place) (tree : FileTree) (call : OutputCall) : FileTree :=
  if isUnsafeName call.name = false ∧ nameFault? call.name = none then
    tree.putFiles place call.name call.output.files
  else tree

/-- Whether the directories of a path are made, and where the path then leads. -/
structure Makes (tree : FileTree) (directory : Path) (made : FileTree) (place : Place) : Prop where
  reached : tree.withDirectories directory = .ok made
  opens : made.Opens directory place

/-- A call with a safe name makes the directory, and writes its files if there can be such
names. -/
theorem Makes.run_safe (makes : tree.Makes directory made place)
    (safe : isUnsafeName call.name = false)
    (free : nameFault? call.name = none → made.Free place call.name call.output.files) :
    (call.output.write fileSystem directory call.name).run tree =
      (tree.outcome directory call.name, putCall place made call) := by
  rw [outcome, makes.reached, putCall, if_neg (by simp [safe])]
  cases fault : nameFault? call.name with
  | none =>
      have written := writeFiles_of_free makes.opens (noSlash_of_safe safe)
        (nameFault?_eq_none_iff.mp fault) call.output.files_known (free fault)
      rw [call.output.run_write_of_directory safe makes.reached, written, if_pos ⟨safe, rfl⟩]
  | some fault =>
      rw [call.output.run_write_of_nameFault safe makes.reached fault]
      simp

/-- A directory that has been made is not made again. -/
theorem Makes.again (makes : tree.Makes directory made place) (kept : KeepsDirectories made after) :
    after.Makes directory after place :=
  ⟨withDirectories_of_kept makes.reached kept, makes.opens.of_kept kept⟩

theorem Makes.outcome_eq (makes : tree.Makes directory made place)
    (again : after.Makes directory after place) (name : String) :
    after.outcome directory name = tree.outcome directory name := by
  simp only [outcome, makes.reached, again.reached]

/-! ## Many calls -/

/-- The tree after calls into the directory at a place. -/
def putCalls (place : Place) (tree : FileTree) (calls : List OutputCall) : FileTree :=
  calls.foldl (putCall place) tree

theorem putCalls_cons (place : Place) (tree : FileTree) (call : OutputCall)
    (calls : List OutputCall) :
    putCalls place tree (call :: calls) = putCalls place (putCall place tree call) calls := by
  rw [putCalls, List.foldl_cons, putCalls]

theorem putCalls_append (place : Place) (tree : FileTree) (before later : List OutputCall) :
    putCalls place tree (before ++ later) = putCalls place (putCalls place tree before) later := by
  rw [putCalls, List.foldl_append, ← putCalls, ← putCalls]

/-- Whether two trees have the same directories. -/
structure SameDirectories (before after : FileTree) : Prop where
  kept : KeepsDirectories before after
  reflected : KeepsDirectories after before

/-- Whether no call that succeeds would write over a directory. -/
def FreeFor (made : FileTree) (place : Place) (calls : List OutputCall) : Prop :=
  ∀ call ∈ calls, isUnsafeName call.name = false → nameFault? call.name = none →
    made.Free place call.name call.output.files

theorem FreeFor.tail (free : made.FreeFor place (call :: calls)) : made.FreeFor place calls :=
  fun other member => free other (List.mem_cons_of_mem _ member)

theorem FreeFor.of_kept (free : after.FreeFor place calls) (kept : KeepsDirectories tree after) :
    tree.FreeFor place calls :=
  fun call member safe fits => (free call member safe fits).of_kept kept

theorem SameDirectories.refl (tree : FileTree) : SameDirectories tree tree :=
  ⟨fun _ => id, fun _ => id⟩

theorem SameDirectories.trans (first : SameDirectories tree made)
    (rest : SameDirectories made after) : SameDirectories tree after :=
  ⟨fun place found => rest.kept place (first.kept place found),
    fun place found => first.reflected place (rest.reflected place found)⟩

theorem sameDirectories_putCall (free : tree.FreeFor place (call :: calls)) :
    SameDirectories tree (putCall place tree call) := by
  unfold putCall
  split
  next passes =>
    have unoccupied := free call List.mem_cons_self passes.1 passes.2
    exact ⟨keepsDirectories_putFiles unoccupied, putFiles_keepsDirectories _ _ _ _⟩
  next => exact .refl tree

theorem sameDirectories_putCalls (free : tree.FreeFor place calls) :
    SameDirectories tree (putCalls place tree calls) := by
  induction calls generalizing tree with
  | nil => exact .refl tree
  | cons call calls ih =>
      have first := sameDirectories_putCall free
      rw [putCalls_cons]
      exact first.trans (ih (free.tail.of_kept first.reflected))

/-- What comes of a call when the directory is there. -/
theorem Makes.run_again (makes : tree.Makes directory made place)
    (same : SameDirectories made after) (free : made.FreeFor place (call :: calls)) :
    (call.output.write fileSystem directory call.name).run after =
      (tree.outcome directory call.name, putCall place after call) := by
  have again := makes.again same.kept
  cases safe : isUnsafeName call.name with
  | true =>
      rw [call.output.run_write_of_unsafe safe, outcome, if_pos safe, putCall,
        if_neg (by simp [safe])]
  | false =>
      rw [again.run_safe safe, makes.outcome_eq again]
      intro fits
      exact (free call List.mem_cons_self safe fits).of_kept same.reflected

theorem run_writeAll_cons {middle : FileTree} {first : Except Error Unit}
    {others : List (Except Error Unit)}
    (ranFirst : (call.output.write fileSystem directory call.name).run tree = (first, middle))
    (ranOthers : (writeAll fileSystem directory calls).run middle = (others, after)) :
    (writeAll fileSystem directory (call :: calls)).run tree = (first :: others, after) := by
  rw [writeAll, List.mapM_cons, run_bind_of_run ranFirst]
  exact run_bind_of_run ranOthers

/-- What comes of calls when the directory is there. -/
theorem Makes.run_writeAll_again (makes : tree.Makes directory made place)
    (same : SameDirectories made after) (free : made.FreeFor place calls) :
    (writeAll fileSystem directory calls).run after =
      (calls.map fun call => tree.outcome directory call.name, putCalls place after calls) := by
  induction calls generalizing after with
  | nil => rfl
  | cons call calls ih =>
      have first := makes.run_again same free
      have next := same.trans (sameDirectories_putCall (free.of_kept same.reflected))
      rw [List.map_cons, putCalls_cons]
      exact run_writeAll_cons first (ih next free.tail)

/-- What comes of calls, the first of which with a safe name makes the directory. -/
theorem Makes.run_writeAll (makes : tree.Makes directory made place)
    (free : made.FreeFor place calls) :
    ∃ after, (writeAll fileSystem directory calls).run tree =
        (calls.map fun call => tree.outcome directory call.name, after) ∧
      (after = tree ∧ (∀ call ∈ calls, isUnsafeName call.name = true) ∨
        after = putCalls place made calls) := by
  induction calls with
  | nil => exact ⟨tree, rfl, .inl ⟨rfl, List.forall_mem_nil _⟩⟩
  | cons call calls ih =>
      cases safe : isUnsafeName call.name with
      | true =>
          -- A name is tested before the directory is made, so the tree is still the first one.
          rw [List.map_cons]
          obtain ⟨after, ranOthers, ended⟩ := ih free.tail
          have skipped : putCall place made call = made := by
            rw [putCall, if_neg (by simp [safe])]
          have first : (call.output.write fileSystem directory call.name).run tree =
              (tree.outcome directory call.name, tree) := by
            rw [call.output.run_write_of_unsafe safe, outcome, if_pos safe]
          refine ⟨after, run_writeAll_cons first ranOthers, ?_⟩
          rcases ended with ⟨unchanged, allUnsafe⟩ | put
          · exact .inl ⟨unchanged, List.forall_mem_cons.mpr ⟨safe, allUnsafe⟩⟩
          · exact .inr (by rw [putCalls_cons, skipped, put])
      | false =>
          have first := makes.run_safe safe (free call List.mem_cons_self safe)
          have others := makes.run_writeAll_again (sameDirectories_putCall free) free.tail
          rw [List.map_cons, putCalls_cons]
          exact ⟨_, run_writeAll_cons first others, .inr rfl⟩

/-- Nothing comes of calls if the directory cannot be made. -/
theorem run_writeAll_of_no_directory {fault : FileFault}
    (refused : tree.withDirectories directory = .error fault) (calls : List OutputCall) :
    (writeAll fileSystem directory calls).run tree =
      (calls.map fun call => tree.outcome directory call.name, tree) := by
  induction calls with
  | nil => rfl
  | cons call calls ih =>
      have first : (call.output.write fileSystem directory call.name).run tree =
          (tree.outcome directory call.name, tree) := by
        cases safe : isUnsafeName call.name with
        | true => rw [call.output.run_write_of_unsafe safe, outcome, if_pos safe]
        | false =>
            rw [call.output.run_write_of_no_directory safe refused, outcome,
              if_neg (by simp [safe]), refused]
      rw [List.map_cons]
      exact run_writeAll_cons first ih

/-! ## Files after many calls -/

theorem Makes.succeeds_iff (makes : tree.Makes directory made place) :
    call.Succeeds tree directory ↔
      isUnsafeName call.name = false ∧ nameFault? call.name = none := by
  rw [OutputCall.Succeeds, outcome, makes.reached]
  cases isUnsafeName call.name <;> cases nameFault? call.name <;> simp

theorem Makes.resolve_filePath (makes : tree.Makes directory made place)
    (succeeds : call.Succeeds tree directory) {suffix : String} (member : suffix ∈ fileSuffixes) :
    made.resolve (filePath directory call.name suffix) =
      .ok (place ++ [.utf8 (call.name ++ suffix)]) := by
  obtain ⟨safe, fits⟩ := makes.succeeds_iff.mp succeeds
  exact makes.opens.resolve_filePath (noSlash_of_safe safe) (nameFault?_eq_none_iff.mp fits) member

/-- The files that a call writes. -/
theorem Makes.writes_iff (makes : tree.Makes directory made place) {target : Place} :
    call.Writes tree directory target ↔ call.Succeeds tree directory ∧
      ∃ suffix ∈ call.output.suffixes, target = place ++ [.utf8 (call.name ++ suffix)] := by
  constructor
  · rintro ⟨succeeds, other, reached, suffix, member, resolved⟩
    cases makes.reached.symm.trans reached
    have located := makes.resolve_filePath succeeds (call.output.suffixes_known member)
    exact ⟨succeeds, suffix, member, Except.ok.inj (resolved.symm.trans located)⟩
  · rintro ⟨succeeds, suffix, member, rfl⟩
    have located := makes.resolve_filePath succeeds (call.output.suffixes_known member)
    exact ⟨succeeds, made, makes.reached, suffix, member, located⟩

/-- A file belongs to one name. -/
theorem Makes.name_eq_of_writes (makes : tree.Makes directory made place) {other : OutputCall}
    {suffix : String} (member : suffix ∈ fileSuffixes)
    (writes : other.Writes tree directory (place ++ [.utf8 (call.name ++ suffix)])) :
    call.name = other.name ∧ suffix ∈ other.output.suffixes := by
  obtain ⟨-, otherSuffix, otherMember, same⟩ := makes.writes_iff.mp writes
  have names := List.singleton_inj.mp (List.append_cancel_left same)
  obtain ⟨sameName, rfl⟩ := name_suffix_inj member (other.output.suffixes_known otherMember)
    (SystemText.utf8.inj names)
  exact ⟨sameName, otherMember⟩

/-- A file stays as it is while no call writes it. -/
theorem Makes.entryAt?_putCalls_of_unwritten (makes : tree.Makes directory made place)
    {target : Place} (unwritten : ∀ call ∈ calls, ¬ call.Writes tree directory target)
    (start : FileTree) : (putCalls place start calls).entryAt? target = start.entryAt? target := by
  induction calls generalizing start with
  | nil => rfl
  | cons call calls ih =>
      rw [List.forall_mem_cons] at unwritten
      rw [putCalls_cons, ih unwritten.2, putCall]
      split
      next passes =>
        apply entryAt?_putFiles_of_ne
        rintro file member rfl
        have suffixMember : file.1 ∈ call.output.suffixes := by
          rw [← call.output.map_fst_files]
          exact List.mem_map_of_mem member
        exact unwritten.1
          (makes.writes_iff.mpr ⟨makes.succeeds_iff.mpr passes, file.1, suffixMember, rfl⟩)
      next => rfl

/-- A file holds what the last call that writes it puts there. -/
theorem Makes.entryAt?_putCalls_of_last (makes : tree.Makes directory made place)
    (succeeds : call.Succeeds tree directory) {suffix content : String}
    (member : (suffix, content) ∈ call.output.files) (before later : List OutputCall)
    (last : ∀ other ∈ later, other.Succeeds tree directory → call.name = other.name →
      suffix ∉ other.output.suffixes) (start : FileTree) :
    (putCalls place start (before ++ call :: later)).entryAt?
      (place ++ [.utf8 (call.name ++ suffix)]) = some (.file content) := by
  have known := call.output.files_known _ member
  have unwritten : ∀ other ∈ later,
      ¬ other.Writes tree directory (place ++ [.utf8 (call.name ++ suffix)]) := by
    intro other otherMember writes
    obtain ⟨sameName, suffixMember⟩ := makes.name_eq_of_writes known writes
    exact last other otherMember writes.1 sameName suffixMember
  rw [putCalls_append, putCalls_cons, makes.entryAt?_putCalls_of_unwritten unwritten, putCall,
    if_pos (makes.succeeds_iff.mp succeeds)]
  exact call.output.entryAt?_putFiles_files member

/-- The content of a file can be read after the last call that writes it. -/
theorem Makes.read_putCalls_of_last (makes : tree.Makes directory made place)
    (free : made.FreeFor place calls) (succeeds : call.Succeeds tree directory)
    {suffix content : String} (member : (suffix, content) ∈ call.output.files)
    {before later : List OutputCall} (split : calls = before ++ call :: later)
    (last : ∀ other ∈ later, other.Succeeds tree directory → call.name = other.name →
      suffix ∉ other.output.suffixes) :
    (putCalls place made calls).read (filePath directory call.name suffix) = .ok content := by
  have kept := (sameDirectories_putCalls free).kept
  have located := makes.resolve_filePath succeeds (call.output.files_known _ member)
  apply read_of_file (resolve_of_kept kept located)
  rw [split]
  exact makes.entryAt?_putCalls_of_last succeeds member before later last made

/-- What comes of calls, and which files are there afterwards. -/
theorem run_writeAll_of_unblocked
    (unblocked : ∀ call ∈ calls, call.Succeeds tree directory →
      tree.Unblocked directory call.name call.output.suffixes) :
    ∃ after, (writeAll fileSystem directory calls).run tree =
        (calls.map fun call => tree.outcome directory call.name, after) ∧
      (after = tree ∧ (∀ call ∈ calls, ¬ call.Succeeds tree directory) ∨
        ∃ made place, tree.Makes directory made place ∧ made.FreeFor place calls ∧
          after = putCalls place made calls) := by
  cases reached : tree.withDirectories directory with
  | error fault =>
      refine ⟨tree, run_writeAll_of_no_directory reached calls, .inl ⟨rfl, ?_⟩⟩
      intro call _ succeeds
      rw [OutputCall.Succeeds, outcome, reached] at succeeds
      split at succeeds <;> cases succeeds
  | ok made =>
      obtain ⟨-, place, resolved, found⟩ := withDirectories_eq_ok reached
      have makes : tree.Makes directory made place := ⟨reached, ⟨resolved, found⟩⟩
      have free : made.FreeFor place calls := by
        intro call member safe fits
        have succeeds := makes.succeeds_iff.mpr ⟨safe, fits⟩
        rw [call.output.free_files_iff makes.opens (noSlash_of_safe safe)
          (nameFault?_eq_none_iff.mp fits)]
        exact unblocked call member succeeds made reached
      obtain ⟨after, ran, ended⟩ := makes.run_writeAll free
      refine ⟨after, ran, ?_⟩
      rcases ended with ⟨unchanged, allUnsafe⟩ | put
      · refine .inl ⟨unchanged, fun call member succeeds => ?_⟩
        have safe := (makes.succeeds_iff.mp succeeds).1
        rw [allUnsafe call member] at safe
        cases safe
      · exact .inr ⟨made, place, makes, free, put⟩

end FileTree

/-! ## The last call under a name -/

/-- Whether a call is the last one of a kind. -/
def IsLast (kind : OutputCall → Prop) (calls : List OutputCall) (call : OutputCall) : Prop :=
  kind call ∧ ∃ before later, calls = before ++ call :: later ∧ ∀ other ∈ later, ¬ kind other

theorem IsLast.mem {kind : OutputCall → Prop} {calls : List OutputCall} {call : OutputCall}
    (last : IsLast kind calls call) : call ∈ calls := by
  obtain ⟨-, before, later, rfl, -⟩ := last
  exact List.mem_append_right before List.mem_cons_self

/-- Only outputs with a supplement have a file for it. -/
theorem Output.isSome_of_mem_suffixes {output : Output} (member : "_ai.txt" ∈ output.suffixes) :
    output.supplement.isSome = true := by
  cases supplement : output.supplement with
  | none => simp [suffixes, supplement] at member
  | some text => rfl

/-- After any calls into a directory, each file holds what the last successful call under its name
has put there, and all other files are as before.  What comes of a call is decided by its name and
the directory alone, and calls under different names write no file in common. -/
theorem writeAll_leaves_last_outputs (tree : FileTree) (directory : Path)
    (calls : List OutputCall)
    (unblocked : ∀ call ∈ calls, call.Succeeds tree directory →
      tree.Unblocked directory call.name call.output.suffixes) :
    ∃ after, (writeAll FileTree.fileSystem directory calls).run tree =
        (calls.map fun call => tree.outcome directory call.name, after) ∧
      (∀ name call,
        IsLast (fun other => other.name = name ∧ other.Succeeds tree directory) calls call →
        after.read (filePath directory name "_scenarios.json") = .ok call.output.json ∧
          after.read (filePath directory name "_report.md") = .ok call.output.report) ∧
      (∀ name call text,
        IsLast (fun other => other.name = name ∧ other.Succeeds tree directory ∧
          other.output.supplement.isSome = true) calls call →
        call.output.supplement = some text →
        after.read (filePath directory name "_ai.txt") = .ok text) ∧
      (∀ place entry, entry ≠ .directory →
        (∀ call ∈ calls, ¬ call.Writes tree directory place) →
        (after.entryAt? place = some entry ↔ tree.entryAt? place = some entry)) ∧
      (∀ (call other : OutputCall) (place : Place), call.Writes tree directory place →
        other.Writes tree directory place → call.name = other.name) := by
  obtain ⟨after, ran, ended⟩ := FileTree.run_writeAll_of_unblocked unblocked
  refine ⟨after, ran, ?_, ?_, ?_, ?_⟩
  · rintro name call last
    rcases ended with ⟨-, failed⟩ | ⟨made, place, makes, free, rfl⟩
    · exact absurd last.1.2 (failed call last.mem)
    · obtain ⟨⟨rfl, succeeds⟩, before, later, split, none⟩ := last
      have holds : ∀ suffix content, (suffix, content) ∈ call.output.files →
          (FileTree.putCalls place made calls).read (filePath directory call.name suffix) =
            .ok content := by
        intro suffix content member
        apply makes.read_putCalls_of_last free succeeds member split
        intro other otherMember otherSucceeds sameName
        exact absurd ⟨sameName.symm, otherSucceeds⟩ (none other otherMember)
      exact ⟨holds _ _ call.output.json_mem_files, holds _ _ call.output.report_mem_files⟩
  · rintro name call text last supplement
    rcases ended with ⟨-, failed⟩ | ⟨made, place, makes, free, rfl⟩
    · exact absurd last.1.2.1 (failed call last.mem)
    · obtain ⟨⟨rfl, succeeds, -⟩, before, later, split, none⟩ := last
      apply makes.read_putCalls_of_last free succeeds
        (call.output.supplement_mem_files supplement) split
      intro other otherMember otherSucceeds sameName hasFile
      exact none other otherMember
        ⟨sameName.symm, otherSucceeds, Output.isSome_of_mem_suffixes hasFile⟩
  · intro place entry noDirectory unwritten
    rcases ended with ⟨rfl, -⟩ | ⟨made, here, makes, -, rfl⟩
    · exact Iff.rfl
    · rw [makes.entryAt?_putCalls_of_unwritten unwritten]
      obtain ⟨adds, -⟩ := FileTree.withDirectories_eq_ok makes.reached
      exact adds.sameFiles place entry noDirectory
  · intro call other place writes otherWrites
    obtain ⟨made, reached, -⟩ := writes.2
    obtain ⟨-, here, resolved, found⟩ := FileTree.withDirectories_eq_ok reached
    have makes : tree.Makes directory made here := ⟨reached, ⟨resolved, found⟩⟩
    obtain ⟨-, suffix, member, rfl⟩ := makes.writes_iff.mp writes
    exact (makes.name_eq_of_writes (call.output.suffixes_known member) otherWrites).1

/-- A refused call and a call under the name of another one's report come between two calls under
one name, of which only the first has a supplement. -/
theorem writeAll_leaves_last_outputs_twice :
    let tree : FileTree := ⟨[(["out"], .directory), (["out", "notes.txt"], .file "notes")]⟩
    let directory := Path.ofString "out"
    let helped := Output.of { caseConditions := [⟨"a > 1", "x"⟩] } [] (some "more cases")
    let plain := Output.of { joins := [⟨"a.id", "b.id"⟩] } [] none
    let calls : List OutputCall :=
      [⟨"a", helped⟩, ⟨"../a", plain⟩, ⟨"a_report.md", plain⟩, ⟨"a", plain⟩]
    (∀ call ∈ calls, call.Succeeds tree directory →
      tree.Unblocked directory call.name call.output.suffixes) ∧
    ∃ after, (writeAll FileTree.fileSystem directory calls).run tree =
        ([.ok (), .error (.invalidOutputName "../a"), .ok (), .ok ()], after) ∧
      after.read (filePath directory "a" "_report.md") = .ok plain.report ∧
      after.read (filePath directory "a" "_ai.txt") = .ok "more cases" ∧
      after.entryAt? ["out", "notes.txt"] = some (.file "notes") := by
  intro tree directory helped plain calls
  have reached : tree.withDirectories directory = .ok tree := by decide +kernel
  have makes : tree.Makes directory tree ["out"] := ⟨reached, by decide +kernel, by decide +kernel⟩
  have unblocked : ∀ call ∈ calls, call.Succeeds tree directory →
      tree.Unblocked directory call.name call.output.suffixes := by
    have absent : ∀ call ∈ calls, ∀ suffix ∈ call.output.suffixes,
        (tree.resolve (filePath directory call.name suffix)).toOption.bind tree.entryAt? =
          none := by decide +kernel
    exact fun call member _ => FileTree.unblocked_of_absent reached (absent call member)
  have succeeds : ∀ output, OutputCall.Succeeds tree directory ⟨"a", output⟩ := by
    have safe : isUnsafeName "a" = false := by decide +kernel
    have fits : nameFault? "a" = none := by decide +kernel
    exact fun output => makes.succeeds_iff.mpr ⟨safe, fits⟩
  have reportName : OutputCall.Succeeds tree directory ⟨"a_report.md", plain⟩ :=
    makes.succeeds_iff.mpr ⟨by decide +kernel, by decide +kernel⟩
  refine ⟨unblocked, ?_⟩
  obtain ⟨after, ran, last, lastSupplement, others, -⟩ :=
    writeAll_leaves_last_outputs tree directory calls unblocked
  refine ⟨after, ?_, ?_, ?_, ?_⟩
  · rw [ran]
    have refused : tree.outcome directory "../a" = .error (.invalidOutputName "../a") := by
      rw [FileTree.outcome, if_pos (by decide +kernel)]
    rw [OutputCall.Succeeds] at reportName
    simp only [calls, List.map_cons, List.map_nil, refused, reportName,
      show tree.outcome directory "a" = .ok () from succeeds plain]
  · exact (last "a" ⟨"a", plain⟩ ⟨⟨rfl, succeeds plain⟩, calls.take 3, [], rfl, by simp⟩).2
  · apply lastSupplement "a" ⟨"a", helped⟩ "more cases" _ rfl
    refine ⟨⟨rfl, succeeds helped, rfl⟩, [], calls.drop 1, rfl, ?_⟩
    have plainOnly : ∀ other ∈ calls.drop 1, other.output.supplement.isSome = false := by
      decide +kernel
    intro other member kind
    rw [plainOnly other member] at kind
    cases kind.2.2
  · apply (others ["out", "notes.txt"] (.file "notes") (by decide) _).mpr rfl
    have elsewhere : ∀ call ∈ calls, ∀ suffix ∈ call.output.suffixes,
        call.name ++ suffix ≠ "notes.txt" := by decide +kernel
    intro call member writes
    obtain ⟨-, suffix, suffixMember, same⟩ := makes.writes_iff.mp writes
    have names := SystemText.utf8.inj (List.singleton_inj.mp (List.cons.inj same).2)
    exact elsewhere call member suffix suffixMember names.symm

end SqlScenarios
