import SqlScenarios.FileSystem
import SqlScenarios.Proofs.Outcomes

/-!
# Laws of file trees

Where a path leads depends on the directories of a tree alone.  So a path keeps its place while
directories are added and files are written, and after the directories of a path have been made,
the path leads to a directory.
-/

namespace SqlScenarios

/-! ## Names as paths -/

theorem partsBetween_of_notMem {α : Type} [DecidableEq α] {separator : α} {units : List α}
    (none : separator ∉ units) : partsBetween separator units = [units] := by
  induction units with
  | nil => rfl
  | cons unit rest ih =>
      have different : unit ≠ separator := fun same => none (by simp [same])
      rw [partsBetween, if_neg different, ih fun member => none (by simp [member])]

/-- A text without slashes is a path of one step. -/
theorem Path.ofString_of_notMem {name : String} (noSlash : '/' ∉ name.toList) :
    Path.ofString name = ⟨false, (PathStep.ofPart? '.' SystemText.ofChars name.toList).toList⟩ := by
  have relative : (name.toList.head? == some '/') = false := by
    rw [beq_eq_false_iff_ne]
    intro first
    exact noSlash (List.mem_of_mem_head? first)
  rw [Path.ofString, Path.ofUnits, partsBetween_of_notMem noSlash, relative]
  cases step : PathStep.ofPart? '.' SystemText.ofChars name.toList <;> simp [step]

namespace FileTree

variable {tree before middle after : FileTree} {place next last : Place}

/-! ## Entries -/

theorem lookup_put (place other : Place) (entry : FileEntry) (entries : List (Place × FileEntry)) :
    (put place entry entries).lookup other =
      if other = place then some entry else entries.lookup other := by
  induction entries with
  | nil =>
      by_cases same : other = place
      · simp [put, same]
      · simp [put, List.lookup_cons, beq_false_of_ne same, same]
  | cons first rest ih =>
      obtain ⟨name, old⟩ := first
      by_cases replaced : name = place
      · subst replaced
        by_cases same : other = name
        · simp [put, same]
        · simp [put, List.lookup_cons, beq_false_of_ne same, same]
      · by_cases found : other = name
        · subst found
          simp [put, replaced]
        · simp [put, replaced, List.lookup_cons, beq_false_of_ne found, ih]

theorem entryAt?_set_self (nonempty : place ≠ []) (entry : FileEntry) :
    (tree.set place entry).entryAt? place = some entry := by
  rw [entryAt?, if_neg nonempty, set, lookup_put, if_pos rfl]

theorem entryAt?_set_of_ne {other : Place} (different : other ≠ place) (entry : FileEntry) :
    (tree.set place entry).entryAt? other = tree.entryAt? other := by
  simp only [entryAt?, set, lookup_put, if_neg different]

/-- The top of a tree is always there. -/
theorem ne_nil_of_absent (absent : tree.entryAt? place = none) : place ≠ [] := by
  rintro rfl
  cases absent

/-! ## Trees that differ in directories or files -/

/-- Whether every directory of a tree is one of another tree, too. -/
def KeepsDirectories (before after : FileTree) : Prop :=
  ∀ place, before.entryAt? place = some .directory → after.entryAt? place = some .directory

/-- Whether two trees have the same files with the same contents. -/
def SameFiles (before after : FileTree) : Prop :=
  ∀ place entry, entry ≠ .directory →
    (after.entryAt? place = some entry ↔ before.entryAt? place = some entry)

/-- Whether a tree is another one with further directories. -/
structure AddsDirectories (before after : FileTree) : Prop where
  kept : ∀ place entry, before.entryAt? place = some entry → after.entryAt? place = some entry
  added : ∀ place entry, after.entryAt? place = some entry →
    before.entryAt? place = some entry ∨ entry = .directory

theorem SameFiles.refl (tree : FileTree) : SameFiles tree tree := fun _ _ _ => Iff.rfl

namespace AddsDirectories

theorem refl (tree : FileTree) : AddsDirectories tree tree :=
  ⟨fun _ _ => id, fun _ _ => Or.inl⟩

theorem trans (first : AddsDirectories before middle) (rest : AddsDirectories middle after) :
    AddsDirectories before after := by
  constructor
  · intro place entry found
    exact rest.kept place entry (first.kept place entry found)
  · intro place entry found
    rcases rest.added place entry found with earlier | directory
    · exact first.added place entry earlier
    · exact .inr directory

theorem set (absent : tree.entryAt? place = none) :
    AddsDirectories tree (tree.set place .directory) := by
  have nonempty := ne_nil_of_absent absent
  constructor
  · intro other entry found
    rw [entryAt?_set_of_ne _ FileEntry.directory]
    · exact found
    · rintro rfl
      cases absent.symm.trans found
  · intro other entry found
    by_cases same : other = place
    · subst same
      rw [entryAt?_set_self nonempty] at found
      exact .inr (Option.some.inj found).symm
    · rw [entryAt?_set_of_ne same] at found
      exact .inl found

theorem keepsDirectories (adds : AddsDirectories before after) : KeepsDirectories before after :=
  fun place => adds.kept place .directory

theorem sameFiles (adds : AddsDirectories before after) : SameFiles before after := by
  intro place entry noDirectory
  constructor
  · intro found
    exact (adds.added place entry found).resolve_right noDirectory
  · exact adds.kept place entry

end AddsDirectories

/-- Writing a file where no directory is keeps all directories. -/
theorem keepsDirectories_set (free : tree.entryAt? place ≠ some .directory) (entry : FileEntry) :
    KeepsDirectories tree (tree.set place entry) := by
  intro other found
  rw [entryAt?_set_of_ne _ entry]
  · exact found
  · rintro rfl
    exact free found

/-! ## Following paths -/

theorem follow_of_kept (kept : KeepsDirectories before after) {step : PathStep}
    (followed : before.follow place step = .ok next) : after.follow place step = .ok next := by
  unfold follow at followed ⊢
  cases found : before.entryAt? place with
  | none => simp [found] at followed
  | some entry =>
      rw [found] at followed
      cases entry with
      | file content => cases followed
      | binary bytes noText => cases followed
      | directory =>
          rw [kept place found]
          exact followed

/-- Only a directory can be left by a step. -/
theorem directory_of_follow {step : PathStep} (followed : tree.follow place step = .ok next) :
    tree.entryAt? place = some .directory := by
  unfold follow at followed
  cases found : tree.entryAt? place with
  | none => simp [found] at followed
  | some entry =>
      rw [found] at followed
      cases entry with
      | file content => cases followed
      | binary bytes noText => cases followed
      | directory => rfl

theorem foldlM_follow_of_kept (kept : KeepsDirectories before after) {steps : List PathStep}
    (followed : steps.foldlM before.follow place = .ok last) :
    steps.foldlM after.follow place = .ok last := by
  induction steps generalizing place with
  | nil => exact followed
  | cons step steps ih =>
      rw [List.foldlM_cons, bind_eq_ok_iff] at followed ⊢
      obtain ⟨next, first, rest⟩ := followed
      exact ⟨next, follow_of_kept kept first, ih rest⟩

/-- A path keeps its place as long as the directories are kept. -/
theorem resolve_of_kept (kept : KeepsDirectories before after) {path : Path}
    (resolved : before.resolve path = .ok place) : after.resolve path = .ok place := by
  rw [resolve] at resolved ⊢
  by_cases nul : holdsNul path = true
  · rw [if_pos nul] at resolved
    cases resolved
  · rw [if_neg nul] at resolved ⊢
    exact foldlM_follow_of_kept kept resolved

/-! ## Making directories -/

theorem enter_eq_ok {step : PathStep} (entered : enter (before, place) step = .ok (after, next)) :
    AddsDirectories before after ∧ before.follow place step = .ok next ∧
      after.entryAt? next ≠ none := by
  rw [enter, bind_eq_ok_iff] at entered
  obtain ⟨reached, followed, entered⟩ := entered
  cases found : before.entryAt? reached with
  | none =>
      rw [found] at entered
      cases entered
      exact ⟨.set found, followed, by simp [entryAt?_set_self (ne_nil_of_absent found)]⟩
  | some entry =>
      rw [found] at entered
      cases entered
      exact ⟨.refl _, followed, by simp [found]⟩

/-- After a path has been entered step by step, it can be followed. -/
theorem foldlM_enter_eq_ok {steps : List PathStep} (start : before.entryAt? place ≠ none)
    (entered : steps.foldlM enter (before, place) = .ok (after, last)) :
    AddsDirectories before after ∧ steps.foldlM after.follow place = .ok last ∧
      after.entryAt? last ≠ none := by
  induction steps generalizing before place with
  | nil =>
      cases entered
      exact ⟨.refl _, rfl, start⟩
  | cons step steps ih =>
      rw [List.foldlM_cons, bind_eq_ok_iff] at entered
      obtain ⟨⟨middle, next⟩, first, rest⟩ := entered
      obtain ⟨addsFirst, followed, present⟩ := enter_eq_ok first
      obtain ⟨addsRest, followedRest, presentLast⟩ := ih present rest
      have adds := addsFirst.trans addsRest
      refine ⟨adds, ?_, presentLast⟩
      rw [List.foldlM_cons, bind_eq_ok_iff]
      exact ⟨next, follow_of_kept adds.keepsDirectories followed, followedRest⟩

/-- Making the directories of a path adds directories only, and the path leads to one. -/
theorem withDirectories_eq_ok {path : Path} (made : before.withDirectories path = .ok after) :
    AddsDirectories before after ∧
      ∃ place, after.resolve path = .ok place ∧ after.entryAt? place = some .directory := by
  unfold withDirectories at made
  split at made
  next => cases made
  next noNul =>
    obtain ⟨⟨grown, place⟩, entered, made⟩ := bind_eq_ok_iff.mp made
    obtain ⟨adds, followed, present⟩ := foldlM_enter_eq_ok (by simp [entryAt?]) entered
    cases found : grown.entryAt? place with
    | none => exact absurd found present
    | some entry =>
        simp only [found] at made
        cases entry with
        | file content => cases made
        | binary bytes noText => cases made
        | directory =>
            cases made
            exact ⟨adds, place, by rw [resolve, if_neg noNul]; exact followed, found⟩

/-- A path that has been entered step by step is entered again without a change, as long as the
directories are kept. -/
theorem foldlM_enter_of_kept {later : FileTree} {steps : List PathStep}
    (start : before.entryAt? place ≠ none)
    (entered : steps.foldlM enter (before, place) = .ok (after, last))
    (ends : after.entryAt? last = some .directory) (kept : KeepsDirectories after later) :
    steps.foldlM enter (later, place) = .ok (later, last) ∧
      later.entryAt? place = some .directory := by
  induction steps generalizing before place with
  | nil =>
      cases entered
      exact ⟨rfl, kept _ ends⟩
  | cons step steps ih =>
      obtain ⟨adds, -, -⟩ := foldlM_enter_eq_ok start entered
      rw [List.foldlM_cons, bind_eq_ok_iff] at entered
      obtain ⟨⟨middle, next⟩, first, rest⟩ := entered
      obtain ⟨-, followed, present⟩ := enter_eq_ok first
      -- A place that is left by a step or that ends the path is a directory, which has been kept.
      obtain ⟨enteredAgain, found⟩ := ih present rest
      have keptBefore : KeepsDirectories before later :=
        fun other directory => kept other (adds.keepsDirectories other directory)
      have again : enter (later, place) step = .ok (later, next) := by
        simp only [enter, follow_of_kept keptBefore followed, bind, Except.bind, found]
      refine ⟨?_, keptBefore place (directory_of_follow followed)⟩
      rw [List.foldlM_cons, again]
      exact enteredAgain

/-- The directories of a path are made once, as long as they are kept. -/
theorem withDirectories_of_kept {later : FileTree} {path : Path}
    (made : before.withDirectories path = .ok after) (kept : KeepsDirectories after later) :
    later.withDirectories path = .ok later := by
  unfold withDirectories at made ⊢
  split at made
  next => cases made
  next noNul =>
    obtain ⟨⟨grown, place⟩, entered, made⟩ := bind_eq_ok_iff.mp made
    have present : before.entryAt? [] ≠ none := by simp [entryAt?]
    cases found : grown.entryAt? place with
    | none =>
        obtain ⟨-, -, absent⟩ := foldlM_enter_eq_ok present entered
        exact absurd found absent
    | some entry =>
        simp only [found] at made
        cases entry with
        | file content => cases made
        | binary bytes noText => cases made
        | directory =>
            cases made
            obtain ⟨again, -⟩ := foldlM_enter_of_kept present entered found kept
            simp only [if_neg noNul, again, bind, Except.bind, kept place found]

/-! ## Operations of the file system -/

theorem run_updateTree_of_ok {step : FileTree → Except FileFault FileTree}
    (done : step tree = .ok after) : (updateTree step).run tree = (.ok (), after) := by
  change updateTree step tree = _
  rw [updateTree, done]

theorem run_updateTree_of_error {step : FileTree → Except FileFault FileTree} {fault : FileFault}
    (refused : step tree = .error fault) : (updateTree step).run tree = (.error fault, tree) := by
  change updateTree step tree = _
  rw [updateTree, refused]

/-! ## Files in a directory -/

/-- Where a name in a directory leads. -/
theorem resolve_join_name {directory : Path} {name : String}
    (resolved : tree.resolve directory = .ok place) (found : tree.entryAt? place = some .directory)
    (named : Path.ofString name = ⟨false, [.into name]⟩) :
    tree.resolve (directory.join (Path.ofString name)) =
      if Char.ofNat 0 ∈ name.toList then .error .nulInName
      else if maximalNameSize < name.utf8ByteSize then .error .nameTooLong
      else .ok (place ++ [.utf8 name]) := by
  unfold resolve at resolved
  split at resolved
  next => cases resolved
  next noNul =>
    have nul : holdsNul (directory.join (Path.ofString name)) = true ↔
        Char.ofNat 0 ∈ name.toList := by
      rw [named]
      change (directory.steps ++ [PathStep.into name]).any _ = true ↔ _
      rw [List.any_append]
      change (holdsNul directory || (name.toList.contains (Char.ofNat 0) || false)) = true ↔ _
      simp [noNul]
    rw [resolve]
    by_cases held : Char.ofNat 0 ∈ name.toList
    · rw [if_pos (nul.mpr held), if_pos held]
    · rw [if_neg fun holds => held (nul.mp holds), if_neg held]
      simp only [named, Path.join, Bool.false_eq_true, if_false, List.foldlM_append, resolved]
      change (tree.follow place (.into name) >>= pure) = _
      simp only [follow, found, bind_pure]
      rfl

end FileTree

end SqlScenarios
