import ResourceQuery.Request

/-!
Pipelines. The stages that select documents come first: the condition, stages of
the configuration, the projection and the filters on lengths. A page is then cut
out and everything counted in one stage; an export only sorts.
-/

namespace ResourceQuery

def bothOf (query condition : Entries Value) : Entries Value :=
  if condition.isEmpty then query
  else if query.isEmpty then condition
  else if (Entries.keys query).any (Entries.has condition) then
    [("$and", .list [.map query, .map condition])]
  else query ++ condition

inductive Forced
  | always (condition : Entries Value)
  | byContext (make : Value → Option (Entries Value))

inductive Stages
  | always (stages : List Value)
  | computed (make : Entries Value → Value → Request → List Value)

structure Pipeline where
  resource : Resource
  softDelete : Bool := false
  forced : Option Forced := none
  transform : Option (Entries Value → Value → Request → Entries Value) := none
  stages : Option Stages := none

namespace Pipeline

def deletionField : String := "deletedAt"

def hideDeleted (query : Entries Value) : Entries Value :=
  if Entries.has query deletionField then query
  else query ++ [(deletionField, .entry "$exists" (.bool false))]

def forcedCondition (context : Value) : Forced → Entries Value
  | .always c => c
  | .byContext make => (make context).getD []

section

variable [Platform]

/-- The condition on documents; the transformation has the last word on it. -/
def condition (p : Pipeline) (request : Request) (context : Value) :
    Except QueryError (Entries Value) :=
  (p.resource.condition request).map fun query =>
    let query := if p.softDelete then hideDeleted query else query
    let query :=
      match p.forced with
      | none => query
      | some f => bothOf query (forcedCondition context f)
    match p.transform with
    | none => query
    | some f => f query context request

end

def ownStages (p : Pipeline) (query : Entries Value) (context : Value) (request : Request) :
    List Value :=
  match p.stages with
  | none => []
  | some (.always stages) => stages
  | some (.computed make) => make query context request

section

variable [Platform]

/-- The stages that select documents; `custom` stands in for the configured stages. -/
def selection (p : Pipeline) (request : Request) (context : Value) (custom : Option (List Value)) :
    Except QueryError (List Value) :=
  (p.condition request context).map fun query =>
    let first := if p.resource.skips "query" then [] else [Value.entry "$match" (.map query)]
    let own := custom.getD (p.ownStages query context request)
    let projection :=
      match Resource.projectionOf request with
      | some marks => [Value.entry "$project" (.map marks)]
      | none => []
    first ++ own ++ projection ++ request.lengths.stages

end

def sortStage (request : Request) : Value := .entry "$sort" (.map request.sort)

def pageStage (request : Request) : Value :=
  .entry "$facet" (.map
    [("data", .list
      [sortStage request, .entry "$skip" (.int request.skip),
        .entry "$limit" (.int request.limit)]),
      ("totalCount", .list [.entry "$count" (.text "total")])])

variable [Platform]

def build (p : Pipeline) (request : Request) (context : Value) (custom : Option (List Value)) :
    Except QueryError (List Value) :=
  (p.selection request context custom).map (· ++ [pageStage request])

def buildExport (p : Pipeline) (request : Request) (context : Value)
    (custom : Option (List Value)) (sorted : Bool) : Except QueryError (List Value) :=
  (p.selection request context custom).map (· ++ if sorted then [sortStage request] else [])

end Pipeline
end ResourceQuery
