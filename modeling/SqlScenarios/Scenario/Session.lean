import SqlScenarios.Strategy.OperatorTable

/-!
# Sessions

A session keeps several sources of numbers under names.  A name that has not been used
stands for a source that starts at the first number.
-/

namespace SqlScenarios

/-- The sources of numbers that are kept, the latest first. -/
structure Session where
  sources : List (String × ScenarioIds)
  deriving DecidableEq, Repr

/-- What is done with a source. -/
inductive SessionAction where
  | restart
  | copyTo (target : String)
  | take
  | takeMany (count : Nat)
  | expand (filter : FilterCondition)
  deriving DecidableEq, Repr

/-- What an action gives. -/
inductive SessionResult where
  | done
  | id (text : String)
  | lastId (text : Option String)
  | scenarios (scenarios : List Scenario)
  | refused (fault : MalformedCondition)
  deriving DecidableEq, Repr

namespace Session

/-- The session without any source. -/
def empty : Session := ⟨[]⟩

/-- The source with a name. -/
def source (session : Session) (name : String) : ScenarioIds :=
  (session.sources.lookup name).getD .fresh

/-- Keep a source under a name. -/
def put (session : Session) (name : String) (ids : ScenarioIds) : Session :=
  ⟨(name, ids) :: session.sources.filter (·.1 != name)⟩

/-- Do something with the source that has a name. -/
def perform (session : Session) (name : String) : SessionAction → SessionResult × Session
  | .restart => (.done, session.put name .fresh)
  | .copyTo target => (.done, session.put target (session.source name))
  | .take =>
      let (id, rest) := (session.source name).take
      (.id id, session.put name rest)
  | .takeMany count =>
      let (last, rest) := (session.source name).takeMany none count
      (.lastId last, session.put name rest)
  | .expand filter =>
      match filter.expand (session.source name) with
      | .ok (scenarios, rest) => (.scenarios scenarios, session.put name rest)
      | .error fault => (.refused fault, session)

end Session

end SqlScenarios
