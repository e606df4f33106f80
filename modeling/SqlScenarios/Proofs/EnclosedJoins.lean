import Mathlib.Data.List.Perm.Basic
import SqlScenarios.Extraction

/-!
# Joins in parentheses

Tables can be joined in parentheses before other tables are joined to them.  The join
conditions of a block are read from the joins outside of all parentheses; the conditions of
the joins inside are not among them.  So parentheses lose join conditions, and the ones they
lose are exactly those that stand inside.
-/

namespace SqlScenarios

namespace Sql

/-! ## Written joins -/

mutual

/-- The joins written in a table with its joins, at any depth of parentheses, in the order of
their conditions. -/
def Source.writtenJoins : Source → List Join
  | ⟨relation, joins⟩ => relation.enclosedJoins ++ Join.listWritten joins

/-- The joins written in some joins, and these joins. -/
def Join.listWritten : List Join → List Join
  | [] => []
  | ⟨spread, kind, relation, matching, constraint⟩ :: joins =>
      relation.enclosedJoins ++
        ⟨spread, kind, relation, matching, constraint⟩ :: Join.listWritten joins

/-- The joins written in the parentheses that a table is. -/
def Relation.enclosedJoins : Relation → List Join
  | .derived _ _ _ => []
  | .nested source _ => source.writtenJoins
  | .other _ _ _ => []

end

/-- The joins in the parentheses of a table with its joins. -/
def Source.enclosedJoins (source : Source) : List Join :=
  source.relation.enclosedJoins ++ source.joins.flatMap fun join => join.relation.enclosedJoins

namespace Block

/-- The joins among the tables of a block, those in parentheses too. -/
def writtenJoins (block : Block) : List Join := block.sources.flatMap Source.writtenJoins

/-- The joins in parentheses among the tables of a block. -/
def enclosedJoins (block : Block) : List Join := block.sources.flatMap Source.enclosedJoins

/-- The joins outside of all parentheses among the tables of a block. -/
def outerJoins (block : Block) : List Join := block.sources.flatMap Source.joins

theorem joinConditions_eq (block : Block) :
    block.joinConditions = block.outerJoins.filterMap Join.condition? := by
  rw [joinConditions, outerJoins, List.filterMap_flatMap]

end Block

/-! ## Inside and outside of parentheses -/

theorem Join.listWritten_cons (join : Join) (joins : List Join) :
    Join.listWritten (join :: joins) =
      join.relation.enclosedJoins ++ join :: Join.listWritten joins := by
  cases join
  rw [Join.listWritten]

theorem Join.sublist_listWritten (joins : List Join) :
    joins.Sublist (Join.listWritten joins) := by
  induction joins with
  | nil => exact .slnil
  | cons join joins ih =>
      rw [Join.listWritten_cons]
      exact (ih.cons_cons join).trans (List.sublist_append_right _ _)

theorem Join.listWritten_perm (joins : List Join) :
    (Join.listWritten joins).Perm
      (joins ++ joins.flatMap fun join => join.relation.enclosedJoins) := by
  induction joins with
  | nil => exact .nil
  | cons join joins ih =>
      rw [Join.listWritten_cons, List.flatMap_cons, List.cons_append]
      apply List.perm_middle.trans
      apply List.Perm.cons
      apply (ih.append_left _).trans
      rw [← List.append_assoc, ← List.append_assoc]
      exact List.perm_append_comm.append_right _

theorem Source.writtenJoins_eq (source : Source) :
    source.writtenJoins = source.relation.enclosedJoins ++ Join.listWritten source.joins := by
  cases source
  rw [Source.writtenJoins]

theorem Source.writtenJoins_perm (source : Source) :
    source.writtenJoins.Perm (source.joins ++ source.enclosedJoins) := by
  rw [writtenJoins_eq, enclosedJoins, ← List.append_assoc]
  apply ((Join.listWritten_perm source.joins).append_left _).trans
  rw [← List.append_assoc]
  exact List.perm_append_comm.append_right _

namespace Block

theorem outerJoins_sublist (block : Block) : block.outerJoins.Sublist block.writtenJoins := by
  rw [outerJoins, writtenJoins]
  induction block.sources with
  | nil => exact .slnil
  | cons source sources ih =>
      rw [List.flatMap_cons, List.flatMap_cons, Source.writtenJoins_eq]
      exact ((Join.sublist_listWritten source.joins).trans
        (List.sublist_append_right _ _)).append ih

/-- The joins of a block are those outside of all parentheses and those inside. -/
theorem writtenJoins_perm (block : Block) :
    block.writtenJoins.Perm (block.outerJoins ++ block.enclosedJoins) := by
  have split : block.writtenJoins.Perm
      (block.sources.flatMap fun source => source.joins ++ source.enclosedJoins) :=
    List.Perm.flatMap_left _ fun source _ => source.writtenJoins_perm
  exact split.trans (List.flatMap_append_perm _ _ _).symm

end Block

end Sql

open Sql

/-- The join conditions of a block are those of its joins outside of all parentheses, in their
order.  Together with those inside they are the conditions of all written joins, so none is
lost exactly if no join in parentheses has one. -/
theorem joinConditions_complete_iff (block : Block) :
    block.joinConditions.Sublist (block.writtenJoins.filterMap Join.condition?) ∧
    (block.writtenJoins.filterMap Join.condition?).Perm
      (block.joinConditions ++ block.enclosedJoins.filterMap Join.condition?) ∧
    (block.joinConditions = block.writtenJoins.filterMap Join.condition? ↔
      ∀ join ∈ block.enclosedJoins, join.condition? = none) := by
  have recorded : block.joinConditions.Sublist
      (block.writtenJoins.filterMap Join.condition?) := by
    rw [Block.joinConditions_eq]
    exact block.outerJoins_sublist.filterMap _
  have partition : (block.writtenJoins.filterMap Join.condition?).Perm
      (block.joinConditions ++ block.enclosedJoins.filterMap Join.condition?) := by
    rw [Block.joinConditions_eq, ← List.filterMap_append]
    exact block.writtenJoins_perm.filterMap _
  refine ⟨recorded, partition, ?_⟩
  have lengths := partition.length_eq
  rw [List.length_append] at lengths
  rw [← List.filterMap_eq_nil_iff, ← List.length_eq_zero_iff]
  constructor
  · intro complete
    rw [← complete] at lengths
    omega
  · intro none_lost
    exact recorded.eq_of_length (by omega)

/-- The table with a name. -/
def namedTable (name : String) : Relation := .other [.text name] none []

/-- A join of a table on the equality of two columns. -/
def equalityJoin (table : Relation) (left right : String) : Join :=
  ⟨false, .join, table, [],
    .on (.binary (.name [⟨left, none⟩]) .equal (.name [⟨right, none⟩]))⟩

/-- The block `SELECT ... FROM ...` of values and one table with its joins. -/
def selectFrom (items : List Item) (source : Source) : Block where
  form := .selectFirst
  head := []
  projection := items
  target := []
  sources := [source]
  preFilter := []
  filter := none
  grouping := []
  having := none
  tail := []

/-- The tables `(a JOIN b ON x = y) JOIN c ON x = z` lose a condition that the tables
`a JOIN b ON x = y JOIN c ON x = z` have. -/
theorem enclosed_join_lost :
    let first := equalityJoin (namedTable "b") "x" "y"
    let second := equalityJoin (namedTable "c") "x" "z"
    let enclosed := selectFrom [] ⟨.nested ⟨namedTable "a", [first]⟩ none, [second]⟩
    let bare := selectFrom [] ⟨namedTable "a", [first, second]⟩
    QueryModel.ofStatement (.query ⟨false, [], .block enclosed, []⟩) =
      .ok { joins := [⟨"x", "z"⟩] } ∧
    QueryModel.ofStatement (.query ⟨false, [], .block bare, []⟩) =
      .ok { joins := [⟨"x", "y"⟩, ⟨"x", "z"⟩] } :=
  ⟨rfl, rfl⟩

end SqlScenarios
