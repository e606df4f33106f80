import Mathlib.Logic.Relation
import SqlScenarios.Extraction
import SqlScenarios.Proofs.QueryTree

/-!
# The order of visits

A part of a query is visited after the parts below it, which are visited one after the
other.  The visits of a query say everything about the blocks that are found in it: the first
visited body that is no block is the fault, and without one the blocks are found in the order
of the visits.
-/

namespace SqlScenarios.Sql.QueryPart

/-! ## Visits -/

/-- A part and the parts below it, each after the parts below itself. -/
def visits (part : QueryPart) : List QueryPart :=
  (part.parts.attach.flatMap fun inner => inner.1.visits) ++ [part]
termination_by sizeOf part
decreasing_by exact sizeOf_lt_of_mem_parts inner.2

theorem visits_eq (part : QueryPart) : part.visits = part.parts.flatMap visits ++ [part] := by
  rw [visits]
  simp

/-- A part is reached from another one by going down from part to part. -/
def Reaches : QueryPart → QueryPart → Prop :=
  Relation.ReflTransGen fun outer inner => inner ∈ outer.parts

/-- The parts that are visited are the parts that are reached. -/
theorem mem_visits_iff {part inner : QueryPart} : inner ∈ part.visits ↔ part.Reaches inner := by
  induction part using QueryPart.induction with
  | step part ih =>
      rw [visits_eq, List.mem_append, List.mem_flatMap, List.mem_singleton]
      constructor
      · rintro (⟨below, member, visited⟩ | rfl)
        · exact .head member ((ih below member).1 visited)
        · exact .refl
      · intro reached
        cases reached.cases_head with
        | inl same => exact .inr same.symm
        | inr step =>
            obtain ⟨below, member, rest⟩ := step
            exact .inl ⟨below, member, (ih below member).2 rest⟩

/-! ## What visits find -/

/-- The fault of a body that lists its rows without a block. -/
def refusal? : QueryPart → Option ShapeFault
  | body (.other fragments) => some (.bodyNotSelect (Body.other fragments).toSql)
  | _ => none

/-- The blocks among the parts that are visited, in the order of the visits. -/
def visitedBlocks (part : QueryPart) : List Block := part.visits.filterMap block?

theorem visitedBlocks_eq (part : QueryPart) :
    part.visitedBlocks = part.parts.flatMap visitedBlocks ++ part.block?.toList := by
  have own : [part].filterMap block? = part.block?.toList := by
    cases found : part.block? <;> simp [found]
  rw [visitedBlocks, visits_eq, List.filterMap_append, List.filterMap_flatMap, own]
  rfl

theorem mem_visitedBlocks_iff {part : QueryPart} {block : Block} :
    block ∈ part.visitedBlocks ↔ part.Reaches (.body (.block block)) := by
  rw [visitedBlocks, List.mem_filterMap, ← mem_visits_iff]
  constructor
  · rintro ⟨inner, member, found⟩
    match inner, found with
    | .body (.block _), rfl => exact member
  · intro member
    exact ⟨_, member, rfl⟩

theorem ownBlocks_eq (part : QueryPart) :
    part.ownBlocks =
      match part.refusal? with
      | some fault => .error fault
      | none => .ok part.block?.toList := by
  match part with
  | query _ | body (.block _) | body (.paren _) | body (.setOperation _ _ _)
  | body (.other _) => rfl

/-- The blocks of parts are found one part after the other, until a fault. -/
theorem mapM_blocks_eq {parts : List QueryPart}
    (each : ∀ part ∈ parts, part.blocks =
      match part.visits.findSome? refusal? with
      | some fault => .error fault
      | none => .ok part.visitedBlocks) :
    parts.mapM blocks =
      match (parts.flatMap visits).findSome? refusal? with
      | some fault => .error fault
      | none => .ok (parts.map visitedBlocks) := by
  induction parts with
  | nil => rfl
  | cons part parts ih =>
      rw [List.mapM_cons, each part (by simp), ih fun other member => each other (by simp [member]),
        List.flatMap_cons, List.findSome?_append]
      cases part.visits.findSome? refusal? with
      | some fault => rfl
      | none => cases (parts.flatMap visits).findSome? refusal? <;> rfl

/-- The first fault of a visit is the fault of the part, and without one the blocks are those
that are visited. -/
theorem blocks_eq_visitedBlocks (part : QueryPart) :
    part.blocks =
      match part.visits.findSome? refusal? with
      | some fault => .error fault
      | none => .ok part.visitedBlocks := by
  induction part using QueryPart.induction with
  | step part ih =>
      rw [blocks_eq, mapM_blocks_eq ih, ownBlocks_eq, visits_eq, List.findSome?_append,
        List.findSome?_singleton, visitedBlocks_eq]
      cases (part.parts.flatMap visits).findSome? refusal? with
      | some fault => rfl
      | none =>
          cases part.refusal? with
          | some fault => rfl
          | none =>
              rw [List.flatMap_def]
              rfl

end SqlScenarios.Sql.QueryPart

namespace SqlScenarios

open Sql

/-- A query reaches a body if rows of the body are read for it. -/
def Sql.Query.Reaches (query : Query) (body : Body) : Prop :=
  (QueryPart.query query).Reaches (.body body)

/-- The model of a query is that of the blocks that are visited, unless a visit finds a
fault. -/
theorem QueryModel.ofQuery_eq (query : Query) :
    QueryModel.ofQuery query =
      match (QueryPart.query query).visits.findSome? QueryPart.refusal? with
      | some fault => .error fault
      | none => QueryModel.ofBlocks (QueryPart.query query).visitedBlocks := by
  have found : query.blocks = _ := (QueryPart.query query).blocks_eq_visitedBlocks
  rw [ofQuery, found]
  cases (QueryPart.query query).visits.findSome? QueryPart.refusal? <;> rfl

end SqlScenarios
