import Mathlib.Data.List.Nodup
import SqlScenarios.Extraction.Blocks
import SqlScenarios.Proofs.Outcomes

/-!
# The tree of the parts of a query

A query is a tree: below it are its common tables and its body, below a body are the queries
and bodies that its rows come from.  Tables in parentheses and joins are looked through, so
that the parts below a block are exactly the queries that stand for tables in it.  The
blocks of a query are those of its parts, one part after the other, and then the block itself;
every argument about extraction that is not about a single block is an induction over this
tree.
-/

namespace SqlScenarios.Sql

/-! ## Queries that stand for tables -/

mutual

/-- The queries that stand for tables in a table and in the tables joined to it. -/
def Source.derivedTables : Source → List Query
  | ⟨relation, joins⟩ => relation.derivedTables ++ Join.listDerivedTables joins

/-- The queries that stand for tables in joined tables. -/
def Join.listDerivedTables : List Join → List Query
  | [] => []
  | ⟨_, _, relation, _, _⟩ :: joins => relation.derivedTables ++ Join.listDerivedTables joins

/-- The queries that stand for tables in a single table. -/
def Relation.derivedTables : Relation → List Query
  | .derived _ query _ => [query]
  | .nested source _ => source.derivedTables
  | .other _ _ _ => []

end

/-- The queries that stand for tables in a block. -/
def Block.derivedTables (block : Block) : List Query :=
  block.sources.flatMap Source.derivedTables

mutual

theorem Source.sizeOf_lt_of_mem {query : Query} :
    (source : Source) → query ∈ source.derivedTables → sizeOf query < sizeOf source
  | ⟨relation, joins⟩, member => by
      rw [Source.derivedTables, List.mem_append] at member
      rw [Source.mk.sizeOf_spec]
      rcases member with inRelation | inJoins
      · have smaller := relation.sizeOf_lt_of_mem inRelation
        omega
      · have smaller := Join.sizeOf_lt_of_mem joins inJoins
        omega

theorem Join.sizeOf_lt_of_mem {query : Query} :
    (joins : List Join) → query ∈ Join.listDerivedTables joins → sizeOf query < sizeOf joins
  | [], member => by simp [Join.listDerivedTables] at member
  | ⟨_, _, relation, _, _⟩ :: joins, member => by
      rw [Join.listDerivedTables, List.mem_append] at member
      rw [List.cons.sizeOf_spec, Join.mk.sizeOf_spec]
      rcases member with inRelation | inJoins
      · have smaller := relation.sizeOf_lt_of_mem inRelation
        omega
      · have smaller := Join.sizeOf_lt_of_mem joins inJoins
        omega

theorem Relation.sizeOf_lt_of_mem {query : Query} :
    (relation : Relation) → query ∈ relation.derivedTables →
      sizeOf query < sizeOf relation
  | .derived _ inner _, member => by
      simp only [Relation.derivedTables, List.mem_singleton] at member
      subst inner
      rw [Relation.derived.sizeOf_spec]
      omega
  | .nested source _, member => by
      rw [Relation.derivedTables] at member
      have smaller := source.sizeOf_lt_of_mem member
      rw [Relation.nested.sizeOf_spec]
      omega
  | .other _ _ _, member => by simp [Relation.derivedTables] at member

end

theorem Block.sizeOf_lt_of_mem {query : Query} (block : Block)
    (member : query ∈ block.derivedTables) : sizeOf query < sizeOf block := by
  rw [Block.derivedTables, List.mem_flatMap] at member
  obtain ⟨source, sourceMember, inSource⟩ := member
  have inSources := List.sizeOf_lt_of_mem sourceMember
  have smaller := source.sizeOf_lt_of_mem inSource
  cases block with
  | mk form head projection target sources preFilter filter grouping having tail =>
      rw [Block.mk.sizeOf_spec]
      dsimp only at inSources
      omega

/-! ## Parts -/

/-- A place of a query that blocks are read from. -/
inductive QueryPart where
  | query (query : Query)
  | body (body : Body)

namespace QueryPart

/-- The parts directly below a part, in the order in which they are visited. -/
def parts : QueryPart → List QueryPart
  | query ⟨_, commonTables, inner, _⟩ =>
      commonTables.map (fun table => query table.query) ++ [body inner]
  | body (.block block) => block.derivedTables.map query
  | body (.paren inner) => [query inner]
  | body (.setOperation left _ right) => [body left, body right]
  | body (.other _) => []

/-- A part below another one is smaller. -/
theorem sizeOf_lt_of_mem_parts {inner part : QueryPart} (member : inner ∈ part.parts) :
    sizeOf inner < sizeOf part := by
  match part with
  | query ⟨_, commonTables, _, _⟩ =>
      simp only [parts, List.mem_append, List.mem_map, List.mem_singleton] at member
      rcases member with ⟨table, tableMember, rfl⟩ | rfl
      · have inTables := List.sizeOf_lt_of_mem tableMember
        have inTable : sizeOf table.query < sizeOf table := by
          cases table with
          | mk head inner tail =>
              rw [CommonTable.mk.sizeOf_spec]
              dsimp only
              omega
        rw [query.sizeOf_spec, query.sizeOf_spec, Query.mk.sizeOf_spec]
        omega
      · rw [query.sizeOf_spec, body.sizeOf_spec, Query.mk.sizeOf_spec]
        omega
  | body (.block block) =>
      simp only [parts, List.mem_map] at member
      obtain ⟨derived, derivedMember, rfl⟩ := member
      have inBlock := block.sizeOf_lt_of_mem derivedMember
      rw [query.sizeOf_spec, body.sizeOf_spec, Body.block.sizeOf_spec]
      omega
  | body (.paren _) =>
      simp only [parts, List.mem_singleton] at member
      subst inner
      rw [query.sizeOf_spec, body.sizeOf_spec, Body.paren.sizeOf_spec]
      omega
  | body (.setOperation _ _ _) =>
      simp only [parts, List.mem_cons, List.not_mem_nil, or_false] at member
      rcases member with rfl | rfl <;>
        rw [body.sizeOf_spec, body.sizeOf_spec, Body.setOperation.sizeOf_spec] <;> omega
  | body (.other _) => simp [parts] at member

/-- What holds of a part whenever it holds of the parts below it holds of every part. -/
@[elab_as_elim]
theorem induction {motive : QueryPart → Prop}
    (step : ∀ part, (∀ inner ∈ part.parts, motive inner) → motive part)
    (part : QueryPart) : motive part :=
  step part fun inner _member => induction step inner
termination_by sizeOf part
decreasing_by exact sizeOf_lt_of_mem_parts _member

/-- The blocks that a part reads its rows from. -/
def blocks : QueryPart → Except ShapeFault (List Block)
  | query inner => inner.blocks
  | body inner => inner.blocks

/-- The block that a part is itself; a body that lists its rows is refused. -/
def ownBlocks : QueryPart → Except ShapeFault (List Block)
  | body (.block block) => return [block]
  | body (.other fragments) => throw (.bodyNotSelect (Fragment.listToSql fragments))
  | _ => return []

end QueryPart

/-! ## Blocks of a part -/

/-- The blocks of several queries, one after the other. -/
def Query.listBlocks (queries : List Query) : Except ShapeFault (List Block) :=
  List.flatten <$> queries.mapM Query.blocks

theorem Query.listBlocks_append (first rest : List Query) :
    Query.listBlocks (first ++ rest) = do
      let firstBlocks ← Query.listBlocks first
      let restBlocks ← Query.listBlocks rest
      return firstBlocks ++ restBlocks := by
  simp [Query.listBlocks, List.mapM_append]

/-- The blocks of common tables are those of their queries. -/
theorem CommonTable.listBlocks_eq (commonTables : List CommonTable) :
    CommonTable.listBlocks commonTables =
      Query.listBlocks (commonTables.map CommonTable.query) := by
  induction commonTables with
  | nil => rfl
  | cons table commonTables ih =>
      cases table with
      | mk head query tail =>
          rw [CommonTable.listBlocks, ih]
          simp [Query.listBlocks]

mutual

/-- The blocks of a table are those of the queries that stand for tables in it. -/
theorem Source.blocks_eq : (source : Source) →
    source.blocks = Query.listBlocks source.derivedTables
  | ⟨relation, joins⟩ => by
      rw [Source.blocks, Source.derivedTables, Query.listBlocks_append, relation.blocks_eq,
        Join.listBlocks_eq joins]

theorem Join.listBlocks_eq : (joins : List Join) →
    Join.listBlocks joins = Query.listBlocks (Join.listDerivedTables joins)
  | [] => rfl
  | ⟨_, _, relation, _, _⟩ :: joins => by
      rw [Join.listBlocks, Join.listDerivedTables, Query.listBlocks_append, relation.blocks_eq,
        Join.listBlocks_eq joins]

theorem Relation.blocks_eq : (relation : Relation) →
    relation.blocks = Query.listBlocks relation.derivedTables
  | .derived _ query _ => by
      rw [Relation.blocks, Relation.derivedTables]
      simp [Query.listBlocks]
  | .nested source _ => by
      rw [Relation.blocks, Relation.derivedTables, source.blocks_eq]
  | .other _ _ _ => by
      rw [Relation.blocks, Relation.derivedTables]
      rfl

end

theorem Source.listBlocks_eq (sources : List Source) :
    Source.listBlocks sources = Query.listBlocks (sources.flatMap Source.derivedTables) := by
  induction sources with
  | nil => rfl
  | cons source sources ih =>
      rw [Source.listBlocks, List.flatMap_cons, Query.listBlocks_append, source.blocks_eq, ih]

namespace QueryPart

theorem mapM_blocks_queries (queries : List Query) :
    (queries.map query).mapM blocks = queries.mapM Query.blocks := by
  rw [List.mapM_map]
  rfl

/-- The blocks of a part are those of the parts below it, and then the block that it is. -/
theorem blocks_eq (part : QueryPart) :
    part.blocks = do
      let inner ← part.parts.mapM blocks
      let own ← part.ownBlocks
      return inner.flatten ++ own := by
  match part with
  | query ⟨_, commonTables, inner, _⟩ =>
      have tables : commonTables.map (fun table => query table.query) =
          (commonTables.map CommonTable.query).map query := by simp
      simp only [parts, tables, List.mapM_append, mapM_blocks_queries]
      simp [blocks, ownBlocks, Query.blocks, CommonTable.listBlocks_eq, Query.listBlocks]
  | body (.block ⟨_, _, _, _, sources, _, _, _, _, _⟩) =>
      simp only [parts, mapM_blocks_queries]
      simp [blocks, ownBlocks, Body.blocks, Block.blocks, Source.listBlocks_eq,
        Query.listBlocks, Block.derivedTables]
  | body (.paren inner) => simp [parts, blocks, ownBlocks, Body.blocks]
  | body (.setOperation left _ right) => simp [parts, blocks, ownBlocks, Body.blocks]
  | body (.other fragments) => rfl

/-! ## Places -/

/-- The block that a part is itself. -/
def block? : QueryPart → Option Block
  | body (.block block) => some block
  | _ => none

theorem eq_block?_of_ownBlocks {part : QueryPart} {own : List Block}
    (succeeded : part.ownBlocks = .ok own) : own = part.block?.toList := by
  match part with
  | query _ | body (.block _) | body (.paren _) | body (.setOperation _ _ _) =>
      cases succeeded
      rfl
  | body (.other _) => cases succeeded

/-- The block at a place below a part.  A place is the list of the positions of the parts to go
down to, and the block has to be the part that they lead to. -/
def blockAt? (part : QueryPart) : List Nat → Option Block
  | [] => part.block?
  | position :: place =>
      match part.parts[position]? with
      | some inner => inner.blockAt? place
      | none => none

/-- The block at a place below one of some parts, the position of which comes first. -/
def blockBelow? (parts : List QueryPart) : List Nat → Option Block
  | [] => none
  | position :: place =>
      match parts[position]? with
      | some inner => inner.blockAt? place
      | none => none

/-- A list of blocks with their places holds the block at each place once. -/
structure Enumerates (find : List Nat → Option Block)
    (entries : List (List Nat × Block)) : Prop where
  distinct : (entries.map Prod.fst).Nodup
  complete : ∀ place block, (place, block) ∈ entries ↔ find place = some block

/-- The same place below parts that another part has been put in front of. -/
def shifted : List Nat → List Nat
  | [] => []
  | position :: place => (position + 1) :: place

theorem shifted_injective : Function.Injective shifted := by
  intro left right same
  cases left <;> cases right <;> simp_all [shifted]

/-- Entries with their blocks at other places. -/
def moved (move : List Nat → List Nat) (entries : List (List Nat × Block)) :
    List (List Nat × Block) :=
  entries.map fun entry => (move entry.1, entry.2)

section Moved

variable {move : List Nat → List Nat} {entries : List (List Nat × Block)}

theorem map_snd_moved : (moved move entries).map Prod.snd = entries.map Prod.snd := by
  simp [moved]

theorem nodup_moved (injective : Function.Injective move)
    (distinct : (entries.map Prod.fst).Nodup) : ((moved move entries).map Prod.fst).Nodup := by
  have places : (moved move entries).map Prod.fst = (entries.map Prod.fst).map move := by
    simp [moved]
  rw [places]
  exact distinct.map injective

theorem mem_moved {place : List Nat} {block : Block} :
    (place, block) ∈ moved move entries ↔
      ∃ origin, (origin, block) ∈ entries ∧ move origin = place := by
  simp [moved]

end Moved

/-- The place that goes nowhere is not below any part. -/
theorem Enumerates.nil_notMem {parts : List QueryPart} {entries : List (List Nat × Block)}
    (listed : Enumerates (blockBelow? parts) entries) (block : Block) :
    ([], block) ∉ entries := by
  rw [listed.complete]
  simp [blockBelow?]

/-- Entries for a part and for the parts after it make up entries for all of them. -/
theorem Enumerates.cons {inner : QueryPart} {parts : List QueryPart}
    {first rest : List (List Nat × Block)} (firstListed : Enumerates inner.blockAt? first)
    (restListed : Enumerates (blockBelow? parts) rest) :
    Enumerates (blockBelow? (inner :: parts)) (moved (0 :: ·) first ++ moved shifted rest) := by
  constructor
  · rw [List.map_append]
    apply (nodup_moved List.cons_injective firstListed.distinct).append
      (nodup_moved shifted_injective restListed.distinct)
    intro place inFirst inRest
    simp only [List.mem_map, Prod.exists, exists_and_right, exists_eq_right, mem_moved]
      at inFirst inRest
    obtain ⟨_, _, _, rfl⟩ := inFirst
    obtain ⟨_, origin, _, same⟩ := inRest
    cases origin <;> simp [shifted] at same
  · intro place block
    rw [List.mem_append, mem_moved, mem_moved]
    match place with
    | [] =>
        constructor
        · rintro (⟨_, _, same⟩ | ⟨origin, member, same⟩)
          · cases same
          · cases origin with
            | nil => exact absurd member (restListed.nil_notMem block)
            | cons position place => cases same
        · intro found
          cases found
    | 0 :: place =>
        constructor
        · rintro (⟨origin, member, same⟩ | ⟨origin, _, same⟩)
          · cases same
            exact (firstListed.complete place block).1 member
          · cases origin <;> simp [shifted] at same
        · intro found
          exact .inl ⟨place, (firstListed.complete place block).2 found, rfl⟩
    | (position + 1) :: place =>
        constructor
        · rintro (⟨_, _, same⟩ | ⟨origin, member, same⟩)
          · simp at same
          · have unshifted : origin = position :: place :=
              shifted_injective (same.trans rfl)
            rw [unshifted] at member
            exact (restListed.complete (position :: place) block).1 member
        · intro found
          exact .inr ⟨position :: place,
            (restListed.complete (position :: place) block).2 found, rfl⟩

/-- Entries for the parts below a part, and one for the part if it is a block, make up entries
for it. -/
theorem Enumerates.withOwn {part : QueryPart} {entries : List (List Nat × Block)}
    (listed : Enumerates (blockBelow? part.parts) entries) :
    Enumerates part.blockAt? (entries ++ part.block?.toList.map fun block => ([], block)) := by
  constructor
  · cases part.block? with
    | none => simpa using listed.distinct
    | some own =>
        have elsewhere : ∀ place block, (place, block) ∈ entries → place ≠ [] := by
          rintro place block member rfl
          exact listed.nil_notMem block member
        simpa [List.nodup_append] using ⟨listed.distinct, elsewhere⟩
  · intro place block
    rw [List.mem_append, listed.complete]
    cases place with
    | nil => simp [blockBelow?, blockAt?]
    | cons position place => simp [blockBelow?, blockAt?]

/-- The blocks of parts are the blocks at the places below them, each of them once. -/
theorem exists_enumeration_below {parts : List QueryPart}
    (each : ∀ inner ∈ parts, ∀ {found : List Block}, inner.blocks = .ok found →
      ∃ entries, Enumerates inner.blockAt? entries ∧ entries.map Prod.snd = found)
    {found : List (List Block)} (succeeded : parts.mapM blocks = .ok found) :
    ∃ entries, Enumerates (blockBelow? parts) entries ∧
      entries.map Prod.snd = found.flatten := by
  induction parts generalizing found with
  | nil =>
      cases succeeded
      refine ⟨[], ⟨List.nodup_nil, ?_⟩, rfl⟩
      intro place block
      cases place <;> simp [blockBelow?]
  | cons inner parts ih =>
      rw [List.mapM_cons, bind_eq_ok_iff] at succeeded
      obtain ⟨innerFound, innerSucceeded, succeeded⟩ := succeeded
      obtain ⟨restFound, restSucceeded, succeeded⟩ := bind_eq_ok_iff.1 succeeded
      cases succeeded
      obtain ⟨first, firstListed, rfl⟩ := each inner (by simp) innerSucceeded
      obtain ⟨rest, restListed, restBlocks⟩ :=
        ih (fun part member => each part (by simp [member])) restSucceeded
      refine ⟨_, firstListed.cons restListed, ?_⟩
      rw [List.map_append, map_snd_moved, map_snd_moved, restBlocks, List.flatten_cons]

/-- The blocks of a part are the blocks at its places, each of them once. -/
theorem exists_enumeration (part : QueryPart) :
    ∀ {found : List Block}, part.blocks = .ok found →
      ∃ entries, Enumerates part.blockAt? entries ∧ entries.map Prod.snd = found := by
  induction part using QueryPart.induction with
  | step part ih =>
      intro found succeeded
      rw [blocks_eq, bind_eq_ok_iff] at succeeded
      obtain ⟨inner, innerSucceeded, succeeded⟩ := succeeded
      obtain ⟨own, ownSucceeded, succeeded⟩ := bind_eq_ok_iff.1 succeeded
      cases succeeded
      obtain ⟨entries, listed, entryBlocks⟩ := exists_enumeration_below ih innerSucceeded
      refine ⟨_, listed.withOwn, ?_⟩
      rw [List.map_append, entryBlocks, eq_block?_of_ownBlocks ownSucceeded]
      cases part.block? <;> rfl

end QueryPart

end SqlScenarios.Sql
