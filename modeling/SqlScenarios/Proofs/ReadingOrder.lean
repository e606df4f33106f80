import Mathlib.Data.List.Perm.Basic
import SqlScenarios.Proofs.EnclosedJoins
import SqlScenarios.Proofs.Leaves
import SqlScenarios.Proofs.Visits

/-!
# Reading order

A query is read from left to right: its common tables before its body, the values of a block
before its tables, each joined table before the condition that it is joined on, and then the
filter and the condition on groups.  A query that stands for a table is read where it stands.
Extraction visits it before the block around it, so the lists of a model can differ from what
is read: filters and conditions on groups never do, since no table comes after them, while
joins and aggregates do if one of them is read before a table that has some of its own.
-/

namespace SqlScenarios

open Sql

/-! ## Contents -/

/-- A condition that is met while a query is read. -/
inductive Mention where
  | aggregate (condition : AggregateCondition)
  | join (condition : JoinCondition)
  | filter (condition : FilterCondition)
  | having (condition : HavingCondition)
  deriving DecidableEq, Repr

namespace Mention

/-- The aggregate that is met, if it is one. -/
def aggregate? : Mention → Option AggregateCondition
  | aggregate condition => some condition
  | _ => none

/-- The join condition that is met, if it is one. -/
def join? : Mention → Option JoinCondition
  | join condition => some condition
  | _ => none

/-- The filter that is met, if it is one. -/
def filter? : Mention → Option FilterCondition
  | filter condition => some condition
  | _ => none

/-- The condition on groups that is met, if it is one. -/
def having? : Mention → Option HavingCondition
  | having condition => some condition
  | _ => none

end Mention

/-- What a part of a query consists of: conditions that it states itself, and parts below
it. -/
inductive Content where
  | own (mention : Mention)
  | below (part : QueryPart)

namespace Content

/-- The condition that a content is, if it is one. -/
def mention? : Content → Option Mention
  | own mention => some mention
  | below _ => none

/-- The part that a content is, if it is one. -/
def part? : Content → Option QueryPart
  | own _ => none
  | below part => some part

@[simp] theorem mention?_own (mention : Mention) : (own mention).mention? = some mention := rfl

@[simp] theorem mention?_below (part : QueryPart) : (below part).mention? = none := rfl

@[simp] theorem part?_own (mention : Mention) : (own mention).part? = none := rfl

@[simp] theorem part?_below (part : QueryPart) : (below part).part? = some part := rfl

/-- Conditions that a part states itself. -/
def ofMentions (mentions : List Mention) : List Content := mentions.map own

/-- Queries that stand for tables. -/
def ofTables (queries : List Query) : List Content := queries.map (below ∘ .query)

@[simp] theorem filterMap_mention?_ofMentions (mentions : List Mention) :
    (ofMentions mentions).filterMap mention? = mentions := by
  simp [ofMentions, List.filterMap_map, Function.comp_def]

@[simp] theorem filterMap_part?_ofMentions (mentions : List Mention) :
    (ofMentions mentions).filterMap part? = [] := by
  simp [ofMentions, List.filterMap_map, Function.comp_def]

@[simp] theorem filterMap_mention?_ofTables (queries : List Query) :
    (ofTables queries).filterMap mention? = [] := by
  simp [ofTables, List.filterMap_map, Function.comp_def]

@[simp] theorem filterMap_part?_ofTables (queries : List Query) :
    (ofTables queries).filterMap part? = queries.map .query := by
  simp [ofTables, List.filterMap_map, Function.comp_def]

end Content

namespace Sql

/-- What a join consists of: the joined table and then the condition. -/
def Join.contents (join : Join) : List Content :=
  Content.ofTables join.relation.derivedTables ++
    Content.ofMentions (join.condition?.toList.map .join)

/-- What a table with its joins consists of. -/
def Source.contents (source : Source) : List Content :=
  Content.ofTables source.relation.derivedTables ++ source.joins.flatMap Join.contents

namespace Block

/-- The values and the tables of a block, in the order in which it is written. -/
def headContents (block : Block) : List Content :=
  let values := Content.ofMentions (block.aggregates.map .aggregate)
  let tables := block.sources.flatMap Source.contents
  match block.form with
  | .selectFirst => values ++ tables
  | .fromFirst | .fromOnly => tables ++ values

/-- The filter of a block and its condition on groups. -/
def tailContents (block : Block) : List Content :=
  Content.ofMentions ((block.filterLeaves.filterMap Expr.filter?).map .filter) ++
    Content.ofMentions ((block.havingLeaves.filterMap Expr.having?).map .having)

/-- What a block consists of, from left to right. -/
def contents (block : Block) : List Content := block.headContents ++ block.tailContents

/-- The conditions that a block states itself. -/
def mentions (block : Block) : List Mention := block.contents.filterMap Content.mention?

end Block

/-! ## Tables and conditions of a block -/

theorem Join.listDerivedTables_eq (joins : List Join) :
    Join.listDerivedTables joins = joins.flatMap fun join => join.relation.derivedTables := by
  induction joins with
  | nil => rfl
  | cons join joins ih =>
      cases join
      rw [Join.listDerivedTables, List.flatMap_cons, ih]

theorem Source.derivedTables_eq (source : Source) :
    source.derivedTables =
      source.relation.derivedTables ++
        source.joins.flatMap fun join => join.relation.derivedTables := by
  cases source
  rw [Source.derivedTables, Join.listDerivedTables_eq]

namespace Block

/-- The tables among the contents of a block are those that are visited before it. -/
theorem filterMap_part?_contents (block : Block) :
    block.contents.filterMap Content.part? = block.derivedTables.map .query := by
  have tables : (block.sources.flatMap Source.contents).filterMap Content.part? =
      block.derivedTables.map .query := by
    simp [Block.derivedTables, Source.contents, Source.derivedTables_eq, Join.contents,
      List.filterMap_flatMap, List.map_flatMap]
  rw [contents, List.filterMap_append, headContents, tailContents]
  cases block.form <;> simp [tables]

theorem filterMap_mention?_sources (block : Block) :
    (block.sources.flatMap Source.contents).filterMap Content.mention? =
      block.joinConditions.map .join := by
  have recorded (joins : List Join) :
      (joins.filterMap Join.condition?).map Mention.join =
        joins.flatMap fun join => join.condition?.toList.map .join := by
    rw [List.filterMap_eq_flatMap_toList, List.map_flatMap]
  simp [Block.joinConditions, Source.contents, Join.contents, List.filterMap_flatMap,
    List.map_flatMap, recorded]

/-- A block states its aggregates, joins, filters and conditions on groups, each kind in the
order of its list. -/
theorem mentions_by_kind (block : Block) :
    block.mentions.filterMap Mention.aggregate? = block.aggregates ∧
    block.mentions.filterMap Mention.join? = block.joinConditions ∧
    block.mentions.filterMap Mention.filter? = block.filterLeaves.filterMap Expr.filter? ∧
    block.mentions.filterMap Mention.having? = block.havingLeaves.filterMap Expr.having? := by
  rw [mentions, contents, headContents, tailContents]
  cases block.form <;>
    simp [filterMap_mention?_sources, List.filterMap_map, Function.comp_def,
      Mention.aggregate?, Mention.join?, Mention.filter?, Mention.having?]

end Block

/-! ## Reading -/

namespace QueryPart

/-- What a part consists of, from left to right. -/
def contents : QueryPart → List Content
  | body (.block block) => block.contents
  | part => part.parts.map .below

/-- The conditions that a part states itself. -/
def mentions (part : QueryPart) : List Mention := part.contents.filterMap Content.mention?

theorem filterMap_part?_contents (part : QueryPart) :
    part.contents.filterMap Content.part? = part.parts := by
  have below (parts : List QueryPart) :
      (parts.map Content.below).filterMap Content.part? = parts := by
    simp [List.filterMap_map, Function.comp_def]
  match part with
  | body (.block block) => exact block.filterMap_part?_contents
  | query _ | body (.paren _) | body (.setOperation _ _ _) | body (.other _) => exact below _

theorem mem_parts_of_mem_contents {part inner : QueryPart}
    (member : .below inner ∈ part.contents) : inner ∈ part.parts := by
  rw [← filterMap_part?_contents, List.mem_filterMap]
  exact ⟨_, member, rfl⟩

/-- The conditions that are met when a part is read from left to right. -/
def reading (part : QueryPart) : List Mention :=
  part.contents.attach.flatMap fun
    | ⟨.own mention, _⟩ => [mention]
    | ⟨.below inner, _⟩ => inner.reading
termination_by sizeOf part
decreasing_by exact sizeOf_lt_of_mem_parts (mem_parts_of_mem_contents ‹_›)

end QueryPart

end Sql

/-- The conditions that are met when a content is read. -/
def Content.reading : Content → List Mention
  | own mention => [mention]
  | below part => part.reading

@[simp] theorem Content.reading_own (mention : Mention) : (own mention).reading = [mention] := rfl

@[simp] theorem Content.reading_below (part : QueryPart) : (below part).reading = part.reading :=
  rfl

theorem Sql.QueryPart.reading_eq (part : QueryPart) :
    part.reading = part.contents.flatMap Content.reading := by
  rw [reading]
  conv_rhs => rw [← List.attach_map_subtype_val part.contents, List.flatMap_map]
  congr 1
  funext content
  match content with
  | ⟨.own _, _⟩ | ⟨.below _, _⟩ => rfl

/-- The conditions that are met when a query is read from left to right. -/
def Sql.Query.reading (query : Query) : List Mention := (QueryPart.query query).reading

/-- Reading a query that is a block is reading the contents of the block. -/
theorem Sql.Query.reading_block (recursive : Bool) (block : Block) (tail : List Fragment) :
    Query.reading ⟨recursive, [], .block block, tail⟩ =
      block.contents.flatMap Content.reading := by
  have inner : (QueryPart.body (.block block)).reading = block.contents.flatMap Content.reading :=
    QueryPart.reading_eq _
  rw [Query.reading, QueryPart.reading_eq, ← inner]
  simp [QueryPart.contents, QueryPart.parts]

/-! ## Reading and visiting -/

section Kind

variable {α : Type} (kind : Mention → Option α)

/-- A condition of a kind does not come before a part that has conditions of that kind. -/
def Content.Ordered : Content → Content → Prop
  | own mention, below part => kind mention = none ∨ part.reading.filterMap kind = []
  | _, _ => True

/-- The contents of a part are in order if the conditions of the kind come last. -/
theorem Content.pairwise_ordered_append {first rest : List Content}
    (otherKind : ∀ mention, .own mention ∈ first → kind mention = none)
    (noParts : ∀ part, .below part ∉ rest) :
    (first ++ rest).Pairwise (Ordered kind) := by
  have allowed {left right : Content}
      (fits : (∀ mention, left = .own mention → kind mention = none) ∨
        ∀ part, right ≠ .below part) : left.Ordered kind right := by
    match left, right with
    | .own mention, .below part =>
        rcases fits with other | noPart
        · exact .inl (other mention rfl)
        · exact absurd rfl (noPart part)
    | .own _, .own _ | .below _, _ => trivial
  apply List.pairwise_append.2
  refine ⟨?_, ?_, ?_⟩
  · apply List.pairwise_of_forall_mem_list
    rintro left leftMember right _
    exact allowed (.inl fun mention same => otherKind mention (same ▸ leftMember))
  · apply List.pairwise_of_forall_mem_list
    rintro left _ right rightMember
    exact allowed (.inr fun part same => noParts part (same ▸ rightMember))
  · rintro left _ right rightMember
    exact allowed (.inr fun part same => noParts part (same ▸ rightMember))

/-- Contents in order are read as they are visited: the parts first. -/
theorem Content.filterMap_reading_of_ordered {contents : List Content}
    (ordered : contents.Pairwise (Ordered kind)) :
    (contents.flatMap reading).filterMap kind =
      ((contents.filterMap part?).flatMap fun part => part.reading.filterMap kind) ++
        (contents.filterMap mention?).filterMap kind := by
  induction contents with
  | nil => rfl
  | cons content contents ih =>
      rw [List.pairwise_cons] at ordered
      obtain ⟨before, ordered⟩ := ordered
      rw [List.flatMap_cons, List.filterMap_append, ih ordered]
      cases content with
      | below part => simp [List.filterMap_cons]
      | own mention =>
          cases found : kind mention with
          | none => simp [List.filterMap_cons, found]
          | some condition =>
              -- The condition is read first but visited last, so no part may come between.
              have nothing : ((contents.filterMap part?).flatMap fun part =>
                  part.reading.filterMap kind) = [] := by
                rw [List.flatMap_eq_nil_iff]
                intro part member
                rw [List.mem_filterMap] at member
                obtain ⟨content, member, isPart⟩ := member
                cases content with
                | own other => cases isPart
                | below other =>
                    cases isPart
                    have apart := before _ member
                    simpa only [Ordered, found, reduceCtorEq, false_or] using apart
              rw [List.filterMap_cons_none (part?_own mention), nothing]
              simp [found]

/-- Reading and visiting meet the same conditions. -/
theorem Content.reading_perm (contents : List Content) :
    (contents.flatMap reading).Perm
      ((contents.filterMap part?).flatMap QueryPart.reading ++ contents.filterMap mention?) := by
  induction contents with
  | nil => exact .nil
  | cons content contents ih =>
      cases content with
      | below part => simpa [List.filterMap_cons] using ih.append_left part.reading
      | own mention =>
          simpa [List.filterMap_cons] using (ih.cons mention).trans List.perm_middle.symm

namespace Sql.QueryPart

/-- Only blocks state conditions themselves. -/
theorem mentions_eq (part : QueryPart) :
    part.mentions = part.block?.toList.flatMap Block.mentions := by
  have stateless (parts : List QueryPart) :
      (parts.map Content.below).filterMap Content.mention? = [] := by
    simp [List.filterMap_map, Function.comp_def]
  match part with
  | body (.block block) =>
      change block.mentions = [block].flatMap Block.mentions
      rw [List.flatMap_singleton]
  | query _ | body (.paren _) | body (.setOperation _ _ _) | body (.other _) =>
      exact stateless _

/-- Reading a part meets the conditions of the blocks that are visited. -/
theorem reading_perm (part : QueryPart) :
    part.reading.Perm (part.visitedBlocks.flatMap Block.mentions) := by
  induction part using QueryPart.induction with
  | step part ih =>
      rw [reading_eq, visitedBlocks_eq, List.flatMap_append, List.flatMap_assoc, ← mentions_eq]
      apply (Content.reading_perm part.contents).trans
      rw [filterMap_part?_contents]
      exact (List.Perm.flatMap_left _ ih).append_right _

/-- Parts that are no blocks consist of parts, so that nothing can be out of order in them. -/
theorem contents_ordered {part : QueryPart}
    (ordered : ∀ block, part.block? = some block →
      block.contents.Pairwise (Content.Ordered kind)) :
    part.contents.Pairwise (Content.Ordered kind) := by
  have partsOnly (parts : List QueryPart) :
      (parts.map Content.below).Pairwise (Content.Ordered kind) := by
    rw [← List.append_nil (parts.map Content.below)]
    apply Content.pairwise_ordered_append <;> simp
  match part with
  | body (.block block) => exact ordered block rfl
  | query _ | body (.paren _) | body (.setOperation _ _ _) | body (.other _) =>
      exact partsOnly _

/-- Reading a part meets the conditions of a kind in the order of the visits, if the contents of
all visited blocks are in order. -/
theorem filterMap_reading_of_ordered (part : QueryPart)
    (ordered : ∀ block ∈ part.visitedBlocks, block.contents.Pairwise (Content.Ordered kind)) :
    part.reading.filterMap kind =
      (part.visitedBlocks.flatMap Block.mentions).filterMap kind := by
  induction part using QueryPart.induction with
  | step part ih =>
      rw [visitedBlocks_eq] at ordered
      have own : part.contents.Pairwise (Content.Ordered kind) :=
        contents_ordered kind fun block found => ordered block (by simp [found])
      have below : ∀ inner ∈ part.parts, inner.reading.filterMap kind =
          (inner.visitedBlocks.flatMap Block.mentions).filterMap kind := by
        intro inner member
        apply ih inner member
        intro block visited
        exact ordered block
          (List.mem_append_left _ (List.mem_flatMap.2 ⟨inner, member, visited⟩))
      rw [reading_eq, Content.filterMap_reading_of_ordered kind own, filterMap_part?_contents,
        List.flatMap_congr below, visitedBlocks_eq, List.flatMap_append, List.filterMap_append,
        ← mentions_eq, List.flatMap_assoc, List.filterMap_flatMap]
      rfl

end Sql.QueryPart

end Kind

/-! ## The lists of a model -/

/-- No table comes after the filter or the condition on groups, so that conditions of other kinds
than joins and aggregates are in order in every block. -/
theorem Sql.Block.contents_ordered {α : Type} {kind : Mention → Option α}
    (notAggregate : ∀ condition, kind (.aggregate condition) = none)
    (notJoin : ∀ condition, kind (.join condition) = none) (block : Block) :
    block.contents.Pairwise (Content.Ordered kind) := by
  apply Content.pairwise_ordered_append
  · intro mention member
    have stated : mention ∈ block.headContents.filterMap Content.mention? :=
      List.mem_filterMap.2 ⟨_, member, rfl⟩
    rw [headContents] at stated
    cases form : block.form <;>
      simp only [form, List.filterMap_append, Content.filterMap_mention?_ofMentions,
        filterMap_mention?_sources, List.mem_append, List.mem_map] at stated <;>
      rcases stated with ⟨condition, _, rfl⟩ | ⟨condition, _, rfl⟩ <;>
      simp only [notAggregate, notJoin]
  · intro part
    simp [tailContents, Content.ofMentions]

/-- The lists of a model are the conditions that the visited blocks state. -/
theorem QueryModel.lists_of_ofQuery {query : Query} {model : QueryModel}
    (extracted : QueryModel.ofQuery query = .ok model) :
    let mentions := (QueryPart.query query).visitedBlocks.flatMap Block.mentions
    model.aggregates = mentions.filterMap Mention.aggregate? ∧
    model.joins = mentions.filterMap Mention.join? ∧
    model.filters = mentions.filterMap Mention.filter? ∧
    model.havingConditions = mentions.filterMap Mention.having? := by
  rw [QueryModel.ofQuery_eq] at extracted
  cases refused : (QueryPart.query query).visits.findSome? QueryPart.refusal? with
  | some fault =>
      rw [refused] at extracted
      cases extracted
  | none =>
      rw [refused] at extracted
      change QueryModel.ofBlocks _ = _ at extracted
      rw [QueryModel.ofBlocks_eq] at extracted
      split at extracted
      next => cases extracted
      next =>
          cases extracted
          simp [List.filterMap_flatMap, Block.mentions_by_kind]

/-- Nowhere in a query is a condition of a kind read before a table that has conditions of that
kind. -/
def Sql.Query.ReadsInOrder {α : Type} (kind : Mention → Option α) (query : Query) : Prop :=
  ∀ block, query.Reaches (.block block) → block.contents.Pairwise (Content.Ordered kind)

theorem Sql.Query.ReadsInOrder.filterMap_reading {α : Type} {kind : Mention → Option α}
    {query : Query} (ordered : query.ReadsInOrder kind) :
    query.reading.filterMap kind =
      ((QueryPart.query query).visitedBlocks.flatMap Block.mentions).filterMap kind := by
  apply QueryPart.filterMap_reading_of_ordered
  intro block visited
  exact ordered block (QueryPart.mem_visitedBlocks_iff.1 visited)

/-- The filters of a model and its conditions on groups are in the order in which the query is
read.  Its joins and its aggregates are those that are read, and they are in the same order if
none of them is read before a table that has some of its own. -/
theorem lists_in_reading_order (query : Query) (model : QueryModel)
    (extracted : QueryModel.ofQuery query = .ok model) :
    model.filters = query.reading.filterMap Mention.filter? ∧
    model.havingConditions = query.reading.filterMap Mention.having? ∧
    model.joins.Perm (query.reading.filterMap Mention.join?) ∧
    model.aggregates.Perm (query.reading.filterMap Mention.aggregate?) ∧
    (query.ReadsInOrder Mention.join? → model.joins = query.reading.filterMap Mention.join?) ∧
    (query.ReadsInOrder Mention.aggregate? →
      model.aggregates = query.reading.filterMap Mention.aggregate?) := by
  obtain ⟨aggregates, joins, filters, havings⟩ := QueryModel.lists_of_ofQuery extracted
  have same : query.reading.Perm _ := (QueryPart.query query).reading_perm
  refine ⟨?_, ?_, ?_, ?_, ?_, ?_⟩
  · have ordered : query.ReadsInOrder Mention.filter? := fun block _ =>
      block.contents_ordered (fun _ => rfl) (fun _ => rfl)
    rw [filters, ordered.filterMap_reading]
  · have ordered : query.ReadsInOrder Mention.having? := fun block _ =>
      block.contents_ordered (fun _ => rfl) (fun _ => rfl)
    rw [havings, ordered.filterMap_reading]
  · rw [joins]
    exact (same.filterMap _).symm
  · rw [aggregates]
    exact (same.filterMap _).symm
  · intro ordered
    rw [joins, ordered.filterMap_reading]
  · intro ordered
    rw [aggregates, ordered.filterMap_reading]

/-- A call of a function among the values of a block. -/
def callItem (function argument : String) : Item :=
  .value (.call [⟨function, none⟩] []
    (.list "" [.value [] (.name [⟨argument, none⟩])] []) []) none

/-- The block `SELECT COUNT(m) FROM c JOIN d ON p = q`. -/
def innerBlock : Block :=
  selectFrom [callItem "COUNT" "m"]
    ⟨namedTable "c", [equalityJoin (namedTable "d") "p" "q"]⟩

theorem reading_innerBlock : Query.reading ⟨false, [], .block innerBlock, []⟩ =
    [.aggregate ⟨"COUNT", "m"⟩, .join ⟨"p", "q"⟩] := by
  rw [Query.reading_block]
  rfl

/-- The block `SELECT * FROM (...) JOIN b ON x = y`, in which the inner block stands for the
first table. -/
def earlyTableBlock : Block :=
  selectFrom [.other [.text "*"]]
    ⟨.derived false ⟨false, [], .block innerBlock, []⟩ none,
      [equalityJoin (namedTable "b") "x" "y"]⟩

theorem lists_in_reading_order_early_table :
    let query : Query := ⟨false, [], .block earlyTableBlock, []⟩
    let model : QueryModel :=
      { joins := [⟨"p", "q"⟩, ⟨"x", "y"⟩], aggregates := [⟨"COUNT", "m"⟩] }
    QueryModel.ofQuery query = .ok model ∧ query.ReadsInOrder Mention.join? ∧
      query.ReadsInOrder Mention.aggregate? ∧
      model.joins = query.reading.filterMap Mention.join? ∧
      model.aggregates = query.reading.filterMap Mention.aggregate? := by
  intro query model
  have extracted : QueryModel.ofQuery query = .ok model := by rfl
  have inner : innerBlock.contents =
      [.own (.aggregate ⟨"COUNT", "m"⟩), .own (.join ⟨"p", "q"⟩)] := rfl
  have outer : earlyTableBlock.contents =
      [.below (.query ⟨false, [], .block innerBlock, []⟩), .own (.join ⟨"x", "y"⟩)] := rfl
  have visited : (QueryPart.query query).visitedBlocks = [innerBlock, earlyTableBlock] := by
    have innerTables : innerBlock.derivedTables = [] := rfl
    have outerTables : earlyTableBlock.derivedTables =
      [⟨false, [], .block innerBlock, []⟩] := rfl
    simp [query, QueryPart.visitedBlocks_eq, QueryPart.parts, QueryPart.block?, innerTables,
      outerTables]
  have ordered {α : Type} (kind : Mention → Option α) : query.ReadsInOrder kind := by
    intro block reached
    rw [Query.Reaches, ← QueryPart.mem_visitedBlocks_iff, visited] at reached
    simp only [List.mem_cons, List.not_mem_nil, or_false] at reached
    rcases reached with rfl | rfl
    · simp [inner, Content.Ordered]
    · simp [outer, Content.Ordered]
  have lists := lists_in_reading_order query model extracted
  exact ⟨extracted, ordered _, ordered _, lists.2.2.2.2.1 (ordered _),
    lists.2.2.2.2.2 (ordered _)⟩

/-- The block `SELECT SUM(n) FROM a JOIN b ON x = y JOIN (...) ON x = z`, in which the inner
block stands for the last table. -/
def outerBlock : Block :=
  selectFrom [callItem "SUM" "n"]
    ⟨namedTable "a",
      [equalityJoin (namedTable "b") "x" "y",
        equalityJoin (.derived false ⟨false, [], .block innerBlock, []⟩ none) "x" "z"]⟩

theorem reading_outerBlock :
    Query.reading ⟨false, [], .block outerBlock, []⟩ =
      [.aggregate ⟨"SUM", "n"⟩, .join ⟨"x", "y"⟩, .aggregate ⟨"COUNT", "m"⟩, .join ⟨"p", "q"⟩,
        .join ⟨"x", "z"⟩] := by
  have outer : outerBlock.contents =
      [.own (.aggregate ⟨"SUM", "n"⟩), .own (.join ⟨"x", "y"⟩),
        .below (.query ⟨false, [], .block innerBlock, []⟩), .own (.join ⟨"x", "z"⟩)] := rfl
  have inner := reading_innerBlock
  rw [Query.reading] at inner
  simp [Query.reading_block, outer, inner]

/-- A table that is read after a join and an aggregate is visited before them, so that neither
list is in the order in which the query is read. -/
theorem late_table_out_of_order :
    QueryModel.ofStatement (.query ⟨false, [], .block outerBlock, []⟩) =
      .ok { joins := [⟨"p", "q"⟩, ⟨"x", "y"⟩, ⟨"x", "z"⟩],
            aggregates := [⟨"COUNT", "m"⟩, ⟨"SUM", "n"⟩] } ∧
    (Query.reading ⟨false, [], .block outerBlock, []⟩).filterMap Mention.join? =
      [⟨"x", "y"⟩, ⟨"p", "q"⟩, ⟨"x", "z"⟩] ∧
    (Query.reading ⟨false, [], .block outerBlock, []⟩).filterMap Mention.aggregate? =
      [⟨"SUM", "n"⟩, ⟨"COUNT", "m"⟩] := by
  rw [reading_outerBlock]
  exact ⟨rfl, rfl, rfl⟩

end SqlScenarios
