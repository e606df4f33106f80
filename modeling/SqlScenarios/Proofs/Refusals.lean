import SqlScenarios.Proofs.Leaves
import SqlScenarios.Proofs.Visits

/-!
# Refused statements

There are three reasons for which a statement has no model, and no others: it is no query, a
body that it reaches lists its rows, or a filter that it reaches asks for membership in an
empty list.  The reasons are looked for in this order over the whole statement, so that a
body that comes last is still reported before an empty list that comes first; among faults
of one kind the first visited one is reported.
-/

namespace SqlScenarios

open Sql

/-! ## First words -/

/-- A word is the first one of a text if nothing but blanks comes before it, and a blank or
the end of the text comes after it. -/
def Text.IsFirstWord (word text : String) : Prop :=
  ∃ blanks rest, text.toList = blanks ++ (word.toList ++ rest) ∧
    (∀ c ∈ blanks, isBlank c) ∧ word ≠ "" ∧ (∀ c ∈ word.toList, !isBlank c) ∧
    ∀ c ∈ rest.head?, isBlank c

theorem Text.firstWord?_eq_some {word text : String} (first : IsFirstWord word text) :
    firstWord? text = some word := by
  obtain ⟨blanks, rest, split, blank, nonempty, solid, ends⟩ := first
  have dropped : text.toList.dropWhile isBlank = word.toList ++ rest := by
    rw [split, List.dropWhile_append_of_pos blank]
    cases letters : word.toList with
    | nil => exact absurd (String.toList_eq_nil_iff.1 letters) nonempty
    | cons c letters' =>
        have solidHead : isBlank c = false := by simpa using solid c (by simp [letters])
        rw [List.cons_append, List.dropWhile_cons_of_neg (by simp [solidHead])]
  have taken : (word.toList ++ rest).takeWhile (fun c => !isBlank c) = word.toList := by
    rw [List.takeWhile_append_of_pos solid]
    cases rest with
    | nil => simp
    | cons c rest => simp [ends c rfl]
  unfold firstWord?
  rw [dropped]
  split
  next none => simp_all
  next => rw [taken, String.ofList_toList]

/-! ## Empty lists -/

/-- Whether a leaf asks for membership in a list without any items. -/
def Sql.Expr.IsEmptyList (leaf : Expr) : Prop :=
  ∃ subject, leaf.unwrapped = .inList subject false []

theorem Sql.Expr.emptyList?_eq_some_iff {leaf : Expr} {fault : ShapeFault} :
    leaf.emptyList? = some fault ↔
      ∃ subject, leaf.unwrapped = .inList subject false [] ∧
        fault = .emptyList subject.toSql := by
  unfold emptyList?
  split
  next subject found => simp [found, eq_comm]
  next other => simpa using fun subject found => absurd found (other subject)

theorem Sql.Expr.emptyList?_eq_none_iff {leaf : Expr} :
    leaf.emptyList? = none ↔ ¬ leaf.IsEmptyList := by
  rw [Option.eq_none_iff_forall_ne_some, IsEmptyList]
  constructor
  · rintro none_found ⟨subject, found⟩
    exact none_found _ (emptyList?_eq_some_iff.2 ⟨subject, found, rfl⟩)
  · intro not_empty fault refused
    obtain ⟨subject, found, _⟩ := emptyList?_eq_some_iff.1 refused
    exact not_empty ⟨subject, found⟩

/-- The first empty list among some leaves is their fault. -/
theorem Sql.Expr.findSome?_of_first_emptyList {before after : List Expr} {leaf subject : Expr}
    (first : ∀ other ∈ before, ¬ other.IsEmptyList)
    (empty : leaf.unwrapped = .inList subject false []) :
    (before ++ leaf :: after).findSome? emptyList? = some (.emptyList subject.toSql) := by
  apply List.findSome?_eq_some_iff.mpr
  refine ⟨before, leaf, after, rfl, ?_, ?_⟩
  · exact emptyList?_eq_some_iff.mpr ⟨subject, empty, rfl⟩
  · intro other member
    exact emptyList?_eq_none_iff.mpr (first other member)

/-! ## Faults of queries -/

/-- The leaves of the filters of the blocks that a query reaches, in the order of the
visits. -/
def Sql.Query.filterLeaves (query : Query) : List Expr :=
  (QueryPart.query query).visitedBlocks.flatMap Block.filterLeaves

/-- The first fault of a query: a body that is no block, or else an empty list. -/
def Sql.Query.fault? (query : Query) : Option ShapeFault :=
  (QueryPart.query query).visits.findSome? QueryPart.refusal? <|>
    query.filterLeaves.findSome? Expr.emptyList?

/-- A query without a fault has a model, and its fault is reported otherwise. -/
theorem QueryModel.ofQuery_eq_error_iff {query : Query} {fault : ShapeFault} :
    QueryModel.ofQuery query = .error fault ↔ query.fault? = some fault := by
  rw [QueryModel.ofQuery_eq, Query.fault?, Query.filterLeaves]
  cases (QueryPart.query query).visits.findSome? QueryPart.refusal? with
  | some first => simp
  | none =>
      change QueryModel.ofBlocks _ = _ ↔ _
      rw [QueryModel.ofBlocks_eq]
      cases ((QueryPart.query query).visitedBlocks.flatMap Block.filterLeaves).findSome?
        Expr.emptyList? <;> simp

theorem Sql.QueryPart.refusal?_eq_some_iff {part : QueryPart} {fault : ShapeFault} :
    part.refusal? = some fault ↔
      ∃ fragments, part = .body (.other fragments) ∧
        fault = .bodyNotSelect (Body.other fragments).toSql := by
  match part with
  | .query _ | .body (.block _) | .body (.paren _) | .body (.setOperation _ _ _) =>
      simp [QueryPart.refusal?]
  | .body (.other fragments) => simp [QueryPart.refusal?, eq_comm]

theorem Sql.Query.findSome?_refusal?_eq_none_iff {query : Query} :
    (QueryPart.query query).visits.findSome? QueryPart.refusal? = none ↔
      ∀ fragments, ¬ query.Reaches (.other fragments) := by
  simp only [List.findSome?_eq_none_iff, Query.Reaches, ← QueryPart.mem_visits_iff]
  constructor
  · intro none_refused fragments visited
    cases none_refused _ visited
  · intro none_reached part visited
    rw [Option.eq_none_iff_forall_ne_some]
    intro fault refused
    obtain ⟨fragments, rfl, _⟩ := QueryPart.refusal?_eq_some_iff.1 refused
    exact none_reached fragments visited

theorem Sql.Query.mem_filterLeaves_iff {query : Query} {leaf : Expr} :
    leaf ∈ query.filterLeaves ↔
      ∃ block condition, query.Reaches (.block block) ∧ block.filter = some condition ∧
        leaf ∈ condition.leaves := by
  simp only [Query.filterLeaves, List.mem_flatMap, QueryPart.mem_visitedBlocks_iff,
    Block.filterLeaves, Option.mem_toList]
  constructor
  · rintro ⟨block, reached, condition, filter, member⟩
    exact ⟨block, condition, reached, filter, member⟩
  · rintro ⟨block, condition, reached, filter, member⟩
    exact ⟨block, reached, condition, filter, member⟩

/-- Whether a query has a fault depends on the bodies and filters that it reaches. -/
theorem Sql.Query.exists_fault?_iff {query : Query} :
    (∃ fault, query.fault? = some fault) ↔
      (∃ fragments, query.Reaches (.other fragments)) ∨
      ∃ block condition leaf, query.Reaches (.block block) ∧ block.filter = some condition ∧
        leaf ∈ condition.leaves ∧ leaf.IsEmptyList := by
  have bodies : ((QueryPart.query query).visits.findSome? QueryPart.refusal?).isSome ↔
      ∃ fragments, query.Reaches (.other fragments) := by
    rw [Option.isSome_iff_ne_none, Ne, findSome?_refusal?_eq_none_iff, not_forall_not]
  have lists : (query.filterLeaves.findSome? Expr.emptyList?).isSome ↔
      ∃ leaf ∈ query.filterLeaves, leaf.IsEmptyList := by
    simp [Option.isSome_iff_ne_none, Expr.emptyList?_eq_none_iff]
  rw [← Option.isSome_iff_exists, Query.fault?, Option.orElse_eq_orElse, Option.orElse_eq_or,
    Option.isSome_or, Bool.or_eq_true, bodies, lists]
  simp only [mem_filterLeaves_iff]
  constructor
  · rintro (listed | ⟨leaf, ⟨block, condition, reached, filter, member⟩, empty⟩)
    · exact .inl listed
    · exact .inr ⟨block, condition, leaf, reached, filter, member, empty⟩
  · rintro (listed | ⟨block, condition, leaf, reached, filter, member, empty⟩)
    · exact .inl listed
    · exact .inr ⟨leaf, ⟨block, condition, reached, filter, member⟩, empty⟩

/-- The first visited body that is no block is the fault, wherever it stands. -/
theorem Sql.Query.fault?_of_first_refused {query : Query} {before after : List QueryPart}
    {fragments : List Fragment}
    (visits : (QueryPart.query query).visits = before ++ .body (.other fragments) :: after)
    (first : ∀ other, QueryPart.body (.other other) ∉ before) :
    query.fault? = some (.bodyNotSelect (Body.other fragments).toSql) := by
  have refused : (QueryPart.query query).visits.findSome? QueryPart.refusal? =
      some (.bodyNotSelect (Body.other fragments).toSql) := by
    refine List.findSome?_eq_some_iff.2 ⟨before, _, after, visits, rfl, ?_⟩
    intro part member
    rw [Option.eq_none_iff_forall_ne_some]
    intro fault found
    obtain ⟨other, rfl, _⟩ := QueryPart.refusal?_eq_some_iff.1 found
    exact first other member
  rw [Query.fault?, refused]
  rfl

/-- Where all bodies are made of blocks, the first empty list is the fault. -/
theorem Sql.Query.fault?_of_first_emptyList {query : Query} {before after : List Expr}
    {leaf subject : Expr} (blocksOnly : ∀ fragments, ¬ query.Reaches (.other fragments))
    (leaves : query.filterLeaves = before ++ leaf :: after)
    (first : ∀ other ∈ before, ¬ other.IsEmptyList)
    (empty : leaf.unwrapped = .inList subject false []) :
    query.fault? = some (.emptyList subject.toSql) := by
  rw [Query.fault?, findSome?_refusal?_eq_none_iff.2 blocksOnly, leaves,
    Expr.findSome?_of_first_emptyList first empty]
  rfl

/-! ## Faults of statements -/

/-- Extraction fails exactly if the statement is no query, or reaches a body that is no block,
or reaches a filter with an empty list.  The first word of a command is reported; for a query,
the first visited body that is no block, wherever there is one, and otherwise the first empty
list.  Without these faults there is a model, whatever the expressions are. -/
theorem extraction_faults :
    (∀ statement : Statement,
      (∃ fault, QueryModel.ofStatement statement = .error fault) ↔
        (∃ fragments, statement = .command fragments) ∨
        ∃ query, statement = .query query ∧
          ((∃ fragments, query.Reaches (.other fragments)) ∨
            ∃ block condition leaf, query.Reaches (.block block) ∧
              block.filter = some condition ∧ leaf ∈ condition.leaves ∧ leaf.IsEmptyList)) ∧
    (∀ fragments word, Text.IsFirstWord word (Statement.command fragments).toSql →
      QueryModel.ofStatement (.command fragments) = .error (.notQuery (Text.uppercase word))) ∧
    (∀ (query : Query) before fragments after,
      (QueryPart.query query).visits = before ++ .body (.other fragments) :: after →
      (∀ other, QueryPart.body (.other other) ∉ before) →
      QueryModel.ofStatement (.query query) =
        .error (.bodyNotSelect (Body.other fragments).toSql)) ∧
    (∀ (query : Query) before leaf subject after,
      (∀ fragments, ¬ query.Reaches (.other fragments)) →
      query.filterLeaves = before ++ leaf :: after →
      (∀ other ∈ before, ¬ other.IsEmptyList) →
      leaf.unwrapped = .inList subject false [] →
      QueryModel.ofStatement (.query query) = .error (.emptyList subject.toSql)) ∧
    (∀ query : Query,
      (∀ fragments, ¬ query.Reaches (.other fragments)) →
      (∀ leaf ∈ query.filterLeaves, ¬ leaf.IsEmptyList) →
      ∃ model, QueryModel.ofStatement (.query query) = .ok model) := by
  refine ⟨?_, ?_, ?_, ?_, ?_⟩
  · intro statement
    cases statement with
    | command fragments =>
        constructor
        · intro _
          exact .inl ⟨fragments, rfl⟩
        · intro _
          exact ⟨_, rfl⟩
    | query query =>
        simp [QueryModel.ofStatement, QueryModel.ofQuery_eq_error_iff,
          Query.exists_fault?_iff]
  · intro fragments word first
    rw [QueryModel.ofStatement, Statement.keyword, Text.firstWord?_eq_some first]
    rfl
  · intro query before fragments after visits first
    exact QueryModel.ofQuery_eq_error_iff.2 (Query.fault?_of_first_refused visits first)
  · intro query before leaf subject after blocksOnly leaves first empty
    exact QueryModel.ofQuery_eq_error_iff.2
      (Query.fault?_of_first_emptyList blocksOnly leaves first empty)
  · intro query blocksOnly allowed
    cases extracted : QueryModel.ofQuery query with
    | ok model => exact ⟨model, extracted⟩
    | error fault =>
        have faulty := Query.exists_fault?_iff.1
          ⟨fault, QueryModel.ofQuery_eq_error_iff.1 extracted⟩
        rcases faulty with ⟨fragments, reached⟩ |
          ⟨block, condition, leaf, reached, filter, member, empty⟩
        · exact absurd reached (blocksOnly fragments)
        · exact absurd empty (allowed leaf
            (Query.mem_filterLeaves_iff.2 ⟨block, condition, reached, filter, member⟩))

/-- The block `SELECT WHERE column IN ()` that reads its rows from tables. -/
def emptyListBlock (sources : List Source) (column : String) : Block where
  form := .selectFirst
  head := []
  projection := []
  target := []
  sources
  preFilter := []
  filter := some (.inList (.name [⟨column, none⟩]) false [])
  grouping := []
  having := none
  tail := []

/-- The query `SELECT WHERE a IN () UNION VALUES (1)`. -/
def listedRowsQuery : Query :=
  ⟨false, [], .setOperation (.block (emptyListBlock [] "a")) "UNION"
    (.other [.text "VALUES (1)"]), []⟩

/-- The query `SELECT WHERE b IN ()`. -/
def emptyListQuery : Query := ⟨false, [], .block (emptyListBlock [] "b"), []⟩

/-- The query `SELECT FROM (SELECT WHERE b IN ()) WHERE a IN ()`. -/
def emptyListsQuery : Query :=
  ⟨false, [], .block (emptyListBlock [⟨.derived false emptyListQuery none, []⟩] "a"), []⟩

/-- The query `SELECT`. -/
def bareQuery : Query := ⟨false, [], .block { emptyListBlock [] "a" with filter := none }, []⟩

theorem extraction_faults_ordered :
    QueryModel.ofStatement (.command [.text "Drop", .text " TABLE t"]) =
      .error (.notQuery "DROP") ∧
    QueryModel.ofStatement (.query listedRowsQuery) = .error (.bodyNotSelect "VALUES (1)") ∧
    QueryModel.ofStatement (.query emptyListsQuery) = .error (.emptyList "b") ∧
    ∃ model, QueryModel.ofStatement (.query bareQuery) = .ok model := by
  refine ⟨?_, ?_, ?_, ?_⟩
  · have first : Text.IsFirstWord "Drop"
        (Statement.command [.text "Drop", .text " TABLE t"]).toSql :=
      ⟨[], " TABLE t".toList, by decide, List.forall_mem_nil _, by decide,
        List.all_eq_true.mp (by decide), by rintro _ ⟨⟩; rfl⟩
    exact extraction_faults.2.1 _ _ first
  · have visits : (QueryPart.query listedRowsQuery).visits =
        [.body (.block (emptyListBlock [] "a"))] ++ .body (.other [.text "VALUES (1)"]) ::
          [.body listedRowsQuery.body, .query listedRowsQuery] := by
      simp [listedRowsQuery, emptyListBlock, QueryPart.visits_eq, QueryPart.parts,
        Block.derivedTables]
    exact extraction_faults.2.2.1 listedRowsQuery _ _ _ visits (by simp)
  · have visits : (QueryPart.query emptyListsQuery).visits =
        [.body emptyListQuery.body, .query emptyListQuery, .body emptyListsQuery.body,
          .query emptyListsQuery] := by
      simp [emptyListsQuery, emptyListQuery, emptyListBlock, QueryPart.visits_eq,
        QueryPart.parts, Block.derivedTables, Source.derivedTables, Join.listDerivedTables,
        Relation.derivedTables]
    have blocksOnly (fragments : List Fragment) : ¬ emptyListsQuery.Reaches (.other fragments) := by
      rw [Query.Reaches, ← QueryPart.mem_visits_iff, visits]
      simp [emptyListsQuery, emptyListQuery]
    have leaves : emptyListsQuery.filterLeaves =
        [] ++ .inList (.name [⟨"b", none⟩]) false [] ::
          [.inList (.name [⟨"a", none⟩]) false []] := by
      rw [Query.filterLeaves, QueryPart.visitedBlocks, visits]
      rfl
    exact extraction_faults.2.2.2.1 emptyListsQuery _ _ _ _ blocksOnly leaves (by simp) rfl
  · have visits : (QueryPart.query bareQuery).visits =
        [.body bareQuery.body, .query bareQuery] := by
      simp [bareQuery, emptyListBlock, QueryPart.visits_eq, QueryPart.parts,
        Block.derivedTables]
    have blocksOnly (fragments : List Fragment) : ¬ bareQuery.Reaches (.other fragments) := by
      rw [Query.Reaches, ← QueryPart.mem_visits_iff, visits]
      simp [bareQuery]
    have leaves : bareQuery.filterLeaves = [] := by
      rw [Query.filterLeaves, QueryPart.visitedBlocks, visits]
      rfl
    exact extraction_faults.2.2.2.2 bareQuery blocksOnly (by simp [leaves])

end SqlScenarios
