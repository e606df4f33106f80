import SqlScenarios.Proofs.OperatorScenarios
import SqlScenarios.Scenario.Session

/-!
# Sources of numbers

What a source hands out in the course of a session depends on the number that it starts with
and on what is done with it, and not on what is done with other sources: it hands out one number
after the other, without a gap, until another source is put under its name.
-/

namespace SqlScenarios

namespace ScenarioIds

/-- The texts of the numbers that a source hands out next. -/
def upcoming (ids : ScenarioIds) (count : Nat) : List String :=
  (List.range' ids.next count).map idText

@[simp] theorem length_upcoming (ids : ScenarioIds) (count : Nat) :
    (ids.upcoming count).length = count := by
  simp [upcoming]

theorem upcoming_succ (ids : ScenarioIds) (count : Nat) :
    ids.upcoming (count + 1) = ids.take.1 :: ids.take.2.upcoming count := rfl

theorem upcoming_append (ids : ScenarioIds) (first rest : Nat) :
    ids.upcoming first ++ (⟨ids.next + first⟩ : ScenarioIds).upcoming rest =
      ids.upcoming (first + rest) := by
  rw [upcoming, upcoming, ← List.map_append, List.range'_append_1]
  rfl

theorem upcoming_nodup (ids : ScenarioIds) (count : Nat) : (ids.upcoming count).Nodup :=
  (List.nodup_range' 1).map idText_injective

/-- Hand out several numbers. -/
def takeEach (ids : ScenarioIds) : Nat → List String × ScenarioIds
  | 0 => ([], ids)
  | count + 1 =>
      let (id, rest) := ids.take
      let (others, last) := rest.takeEach count
      (id :: others, last)

theorem takeEach_eq (ids : ScenarioIds) (count : Nat) :
    ids.takeEach count = (ids.upcoming count, ⟨ids.next + count⟩) := by
  induction count generalizing ids with
  | zero => rfl
  | succ count ih =>
      rw [takeEach, upcoming_succ]
      simp only [ih, take]
      rw [Nat.add_assoc, Nat.add_comm 1]

/-- Handing out several numbers of which only the last is wanted uses up as many. -/
theorem takeMany_eq (ids : ScenarioIds) (last : Option String) (count : Nat) :
    ids.takeMany last count =
      ((ids.takeEach count).1.getLast?.or last, (ids.takeEach count).2) := by
  induction count generalizing ids last with
  | zero => rfl
  | succ count ih =>
      rw [takeMany, takeEach]
      simp only [ih, List.getLast?_cons]
      cases (ids.take.2.takeEach count).1.getLast? <;> rfl

end ScenarioIds

/-! ## Counters of a limited size -/

/-- A source whose counter has 64 bits, and starts over after the greatest number. -/
structure WordIds where
  next : UInt64

namespace WordIds

/-- The source that starts at the first number. -/
def fresh : WordIds := ⟨1⟩

/-- Hand out a number. -/
def take (ids : WordIds) : String × WordIds :=
  (ScenarioIds.idText ids.next.toNat, ⟨ids.next + 1⟩)

/-- Hand out several numbers. -/
def takeEach (ids : WordIds) : Nat → List String
  | 0 => []
  | count + 1 => ids.take.1 :: ids.take.2.takeEach count

/-- A counter of 64 bits makes no difference as long as it does not start over. -/
theorem takeEach_eq_upcoming (ids : WordIds) {count : Nat}
    (fits : ids.next.toNat + count ≤ UInt64.size) :
    ids.takeEach count = (⟨ids.next.toNat⟩ : ScenarioIds).upcoming count := by
  induction count generalizing ids with
  | zero => rfl
  | succ count ih =>
      rw [takeEach, ScenarioIds.upcoming_succ]
      refine congrArg _ ?_
      -- The last number may be the greatest one, after which nothing is handed out.
      cases count with
      | zero => rfl
      | succ count =>
          have next : (ids.next + 1).toNat = ids.next.toNat + 1 := by
            rw [UInt64.toNat_add, UInt64.toNat_one]
            exact Nat.mod_eq_of_lt (by simp only [UInt64.size] at fits; omega)
          rw [ih]
          · simp only [take, next, ScenarioIds.take]
          · simp only [take, next]
            omega

end WordIds

/-! ## Steps of a session -/

/-- The numbers that a result shows. -/
def SessionResult.ids : SessionResult → List String
  | id text => [text]
  | scenarios labelled => labelled.map Scenario.id
  | done | lastId _ | refused _ => []

/-- How many numbers an action takes from its source. -/
def SessionAction.draws : SessionAction → Nat
  | restart | copyTo _ => 0
  | take => 1
  | takeMany count => count
  | expand filter => if filter.check = .ok () then filter.operatorDrafts.length else 0

/-- A step of a session: the name of a source and what is done with it. -/
abbrev SessionStep := String × SessionAction

/-- Whether a step puts another source under a name. -/
def SessionStep.replaces (name : String) : SessionStep → Bool
  | (other, .restart) => other == name
  | (_, .copyTo target) => target == name
  | _ => false

namespace Session

variable {session other : Session} {name : String} {step : SessionStep}

/-- The session after a step. -/
def after (session : Session) (step : SessionStep) : Session :=
  (session.perform step.1 step.2).2

/-- The numbers that a step hands out, those of `takeMany` included, of which it shows the last
one only. -/
def handsOut (session : Session) (step : SessionStep) : List String :=
  match step.2 with
  | .takeMany count => ((session.source step.1).takeEach count).1
  | action => (session.perform step.1 action).1.ids

/-- The session after several steps. -/
def run (session : Session) (steps : List SessionStep) : Session := steps.foldl after session

/-- The numbers that the source with a name hands out in the course of several steps. -/
def handedOut (session : Session) (name : String) : List SessionStep → List String
  | [] => []
  | step :: steps =>
      (if step.1 = name then session.handsOut step else []) ++
        (session.after step).handedOut name steps

theorem source_put (session : Session) (name other : String) (ids : ScenarioIds) :
    (session.put name ids).source other = if other = name then ids else session.source other := by
  by_cases same : other = name
  · simp [source, put, same]
  · have kept : (session.sources.filter (·.1 != name)).lookup other =
        session.sources.lookup other := by
      induction session.sources with
      | nil => rfl
      | cons first rest ih =>
          obtain ⟨key, value⟩ := first
          by_cases found : other = key
          · subst found
            simp [same]
          · by_cases dropped : key = name
            · simp [dropped, List.lookup_cons, beq_false_of_ne same, ih]
            · simp [dropped, List.lookup_cons, beq_false_of_ne found, ih]
    simp [source, put, List.lookup_cons, beq_false_of_ne same, same, kept]

theorem source_put_self (session : Session) (name : String) (ids : ScenarioIds) :
    (session.put name ids).source name = ids := by
  rw [source_put, if_pos rfl]

theorem perform_expand_of_error {filter : FilterCondition} {fault : MalformedCondition}
    (refused : filter.check = .error fault) :
    session.perform name (.expand filter) = (.refused fault, session) := by
  rw [perform, FilterCondition.expand, refused]
  rfl

theorem perform_expand_of_check {filter : FilterCondition} (checked : filter.check = .ok ()) :
    session.perform name (.expand filter) =
      (.scenarios ((session.source name).label filter.operatorDrafts).1,
        session.put name ((session.source name).label filter.operatorDrafts).2) := by
  rw [perform, FilterCondition.expand_of_check checked]

/-- A step leaves every source as it is that it does nothing with and that it does not
replace. -/
theorem source_after_of_ne (different : step.1 ≠ name) (kept : step.replaces name = false) :
    (session.after step).source name = session.source name := by
  obtain ⟨used, action⟩ := step
  have others (ids : ScenarioIds) : (session.put used ids).source name = session.source name := by
    rw [source_put, if_neg (Ne.symm different)]
  cases action with
  | restart => exact others _
  | copyTo target =>
      simp only [SessionStep.replaces, beq_eq_false_iff_ne] at kept
      simp only [after, perform, source_put, if_neg (Ne.symm kept)]
  | take => exact others _
  | takeMany count => exact others _
  | expand filter =>
      cases checked : filter.check with
      | error fault => rw [after, perform_expand_of_error checked]
      | ok =>
          rw [after, perform_expand_of_check checked]
          exact others _

/-- A step hands out as many of the numbers that are upcoming in its source as its action
draws. -/
theorem handsOut_eq (session : Session) (step : SessionStep) :
    session.handsOut step = (session.source step.1).upcoming step.2.draws := by
  obtain ⟨name, action⟩ := step
  cases action with
  | restart | copyTo target | take => rfl
  | takeMany count =>
      change ((session.source name).takeEach count).1 = _
      rw [ScenarioIds.takeEach_eq]
      rfl
  | expand filter =>
      change (session.perform name (.expand filter)).1.ids = _
      cases checked : filter.check with
      | error fault =>
          rw [perform_expand_of_error checked, SessionAction.draws, if_neg (by simp [checked])]
          rfl
      | ok =>
          rw [perform_expand_of_check checked, SessionAction.draws, if_pos checked]
          exact ScenarioIds.map_id_label _ _

/-- A step that does not replace its source leaves it after the numbers that its action draws. -/
theorem source_after_self (kept : step.replaces step.1 = false) :
    (session.after step).source step.1 =
      ⟨(session.source step.1).next + step.2.draws⟩ := by
  obtain ⟨name, action⟩ := step
  cases action with
  | restart => simp [SessionStep.replaces] at kept
  | copyTo target =>
      simp only [SessionStep.replaces, beq_eq_false_iff_ne] at kept
      simp only [after, perform, source_put, if_neg (Ne.symm kept)]
      rfl
  | take =>
      simp only [after, perform, source_put_self]
      rfl
  | takeMany count =>
      simp only [after, perform, source_put_self, ScenarioIds.takeMany_eq, ScenarioIds.takeEach_eq]
      rfl
  | expand filter =>
      cases checked : filter.check with
      | error fault =>
          rw [after, perform_expand_of_error checked, SessionAction.draws,
            if_neg (by simp [checked])]
          rfl
      | ok =>
          rw [after, perform_expand_of_check checked, SessionAction.draws, if_pos checked]
          simp only [source_put_self, ScenarioIds.label_next]

/-! ## Many steps -/

variable {steps : List SessionStep}

/-- How many numbers steps take from the source with a name. -/
def drawn (name : String) (steps : List SessionStep) : Nat :=
  ((steps.filter (·.1 = name)).map (·.2.draws)).sum

/-- As long as no other source is put under a name, the source there hands out all that is
upcoming, as far as the steps with it draw it, and goes on after that. -/
theorem handedOut_eq (session : Session) (kept : ∀ step ∈ steps, step.replaces name = false) :
    session.handedOut name steps = (session.source name).upcoming (drawn name steps) ∧
      (session.run steps).source name = ⟨(session.source name).next + drawn name steps⟩ := by
  induction steps generalizing session with
  | nil => exact ⟨rfl, rfl⟩
  | cons step steps ih =>
      rw [List.forall_mem_cons] at kept
      obtain ⟨ids, rest⟩ := ih (session.after step) kept.2
      change _ ∧ ((session.after step).run steps).source name = _
      rw [handedOut, ids, rest]
      by_cases used : step.1 = name
      · subst used
        have all : drawn step.1 (step :: steps) = step.2.draws + drawn step.1 steps := by
          simp [drawn]
        rw [if_pos rfl, handsOut_eq, source_after_self kept.1, all,
          ScenarioIds.upcoming_append, Nat.add_assoc]
        exact ⟨rfl, rfl⟩
      · have all : drawn name (step :: steps) = drawn name steps := by simp [drawn, used]
        rw [if_neg used, source_after_of_ne used kept.1, all]
        exact ⟨rfl, rfl⟩

theorem drawn_filter (name : String) (steps : List SessionStep) :
    drawn name (steps.filter (·.1 = name)) = drawn name steps := by
  rw [drawn, List.filter_filter]
  simp [drawn]

end Session

/-- What a source hands out does not depend on what is done with other sources.

A step changes no source but the one that it is about, and a copy leaves the original as it is
and goes on with the same number.  From any session on, and for as long as no other source is
put under a name, the source there hands out one number after the other, none of them twice,
and just what it would hand out without the steps with other sources; a source that has been
started afresh hands out the first number first, and a counter of 64 bits is enough for fewer
than `2 ^ 64` numbers.  An expansion takes as many numbers as it gives scenarios, in the order
of the rows, and none if the filter is refused or its operator has no table. -/
theorem sources_hand_out_in_turn :
    (∀ (session : Session) (step : SessionStep) (name : String),
      step.1 ≠ name → step.replaces name = false →
      (session.after step).source name = session.source name) ∧
    (∀ (session : Session) (name target : String),
      ((session.after (name, .copyTo target)).source target = session.source name ∧
        (session.after (name, .copyTo target)).source name = session.source name) ∧
      (session.after (name, .restart)).source name = .fresh) ∧
    (∀ (session : Session) (name : String) (steps : List SessionStep),
      (∀ step ∈ steps, step.replaces name = false) →
      let ids := session.handedOut name steps
      ids = (session.source name).upcoming ids.length ∧ ids.Nodup ∧
        (session.run steps).source name = ⟨(session.source name).next + ids.length⟩ ∧
        session.handedOut name (steps.filter (·.1 = name)) = ids ∧
        (session.source name = .fresh →
          (∀ k, k < ids.length → ids[k]? = some ("TC_" ++ toString (k + 1))) ∧
          (ids.length < UInt64.size → WordIds.fresh.takeEach ids.length = ids))) ∧
    (∀ (session : Session) (name : String) (filter : FilterCondition),
      (∀ fault, filter.check = .error fault →
        session.perform name (.expand filter) = (.refused fault, session)) ∧
      (filter.check = .ok () → ∃ scenarios rest,
        session.perform name (.expand filter) = (.scenarios scenarios, rest) ∧
          scenarios.map Scenario.draft = filter.operatorDrafts ∧
          scenarios.map Scenario.id = (session.source name).upcoming scenarios.length ∧
          rest.source name = ⟨(session.source name).next + scenarios.length⟩ ∧
          (filter.operator.isTabled = false → scenarios = []))) := by
  refine ⟨?_, ?_, ?_, ?_⟩
  · intro session step name different kept
    exact Session.source_after_of_ne different kept
  · intro session name target
    refine ⟨⟨session.source_put_self target _, ?_⟩, session.source_put_self name _⟩
    change (session.put target (session.source name)).source name = _
    rw [Session.source_put]
    split <;> rfl
  · intro session name steps kept ids
    obtain ⟨handed, rest⟩ := session.handedOut_eq kept
    have count : ids.length = Session.drawn name steps := by
      rw [show ids = _ from handed, ScenarioIds.length_upcoming]
    have inTurn : ids = (session.source name).upcoming ids.length := by rw [count]; exact handed
    refine ⟨inTurn, ?_, ?_, ?_, ?_⟩
    · rw [inTurn]
      exact ScenarioIds.upcoming_nodup _ _
    · rw [rest, count]
    · have keptOwn : ∀ step ∈ steps.filter (·.1 = name), step.replaces name = false :=
        fun step member => kept step (List.mem_of_mem_filter member)
      rw [(session.handedOut_eq keptOwn).1, Session.drawn_filter]
      exact handed.symm
    · intro fresh
      rw [fresh] at inTurn
      constructor
      · intro k few
        rw [inTurn, ScenarioIds.upcoming, List.getElem?_map, List.getElem?_range' few]
        simp [ScenarioIds.fresh, ScenarioIds.idText, Nat.add_comm]
      · intro few
        rw [WordIds.takeEach_eq_upcoming]
        · exact inTurn.symm
        · change 1 + ids.length ≤ UInt64.size
          omega
  · intro session name filter
    constructor
    · intro fault refused
      exact Session.perform_expand_of_error refused
    · intro checked
      refine ⟨_, _, Session.perform_expand_of_check checked, ?_, ?_, ?_, ?_⟩
      · exact ScenarioIds.map_draft_label _ _
      · rw [ScenarioIds.length_label]
        exact ScenarioIds.map_id_label _ _
      · rw [Session.source_put_self, ScenarioIds.label_next, ScenarioIds.length_label]
      · intro untabled
        rw [FilterCondition.operatorDrafts_of_not_tabled untabled]
        rfl

theorem sources_hand_out_in_turn_mixed :
    let malformed : FilterCondition := ⟨"y", .between, ["1"]⟩
    let untabled : FilterCondition := ⟨"y", .inQuery, ["SELECT 1"]⟩
    let session := Session.empty.after ("b", .takeMany 4)
    let steps : List SessionStep :=
      [("a", .take), ("b", .expand ⟨"x", .equal, ["1"]⟩), ("a", .expand malformed),
        ("a", .expand ⟨"y", .isIn, ["1", "2"]⟩), ("a", .copyTo "c"), ("c", .take),
        ("a", .expand untabled), ("b", .restart), ("a", .takeMany 2)]
    let ids := session.handedOut "a" steps
    ((∀ step ∈ steps, step.replaces "a" = false) ∧ session.source "a" = .fresh ∧
      ids = ["TC_1", "TC_2", "TC_3", "TC_4", "TC_5", "TC_6"] ∧ ids.Nodup ∧
      (session.run steps).source "a" = ⟨7⟩ ∧
      session.handedOut "a" (steps.filter (·.1 = "a")) = ids ∧
      (∀ k, k < ids.length → ids[k]? = some ("TC_" ++ toString (k + 1))) ∧
      WordIds.fresh.takeEach 6 = ids) ∧
    ("b" ≠ "a" ∧ SessionStep.replaces "a" ("b", .takeMany 4) = false ∧
      session.source "a" = Session.empty.source "a") ∧
    ((∃ fault, malformed.check = .error fault ∧
        session.perform "b" (.expand malformed) = (.refused fault, session)) ∧
      untabled.check = .ok () ∧
      ∃ rest, session.perform "b" (.expand untabled) = (.scenarios [], rest) ∧
        rest.source "b" = ⟨5⟩) := by
  intro malformed untabled session steps ids
  have kept : ∀ step ∈ steps, step.replaces "a" = false := by decide
  have handed : ids = ["TC_1", "TC_2", "TC_3", "TC_4", "TC_5", "TC_6"] := by decide +kernel
  obtain ⟨-, distinct, rest, alone, fresh⟩ := sources_hand_out_in_turn.2.2.1 session "a" steps kept
  obtain ⟨counted, enough⟩ := fresh rfl
  have count : (session.handedOut "a" steps).length = 6 := congrArg List.length handed
  refine ⟨⟨kept, rfl, handed, distinct, ?_, alone, counted, ?_⟩, ⟨by decide, rfl, ?_⟩, ?_⟩
  · rw [rest, count]
    rfl
  · have sixth := enough (by rw [count]; decide)
    rwa [count] at sixth
  · exact sources_hand_out_in_turn.1 Session.empty ("b", .takeMany 4) "a" (by decide) rfl
  · have expansion := sources_hand_out_in_turn.2.2.2 session "b"
    refine ⟨⟨_, rfl, (expansion malformed).1 _ rfl⟩, rfl, ?_⟩
    obtain ⟨scenarios, rest, performed, -, -, source, none⟩ := (expansion untabled).2 rfl
    cases none rfl
    exact ⟨rest, performed, source⟩

end SqlScenarios
