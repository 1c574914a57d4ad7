import ResourceQuery.Operator

/-!
Search in several fields at once. A search term is a pattern that any of the
fields may match; a request can narrow the configured fields, not extend them.
-/

namespace ResourceQuery

structure SearchRules where
  fields : List String
  deriving DecidableEq, Repr

def listOf (v : Value) : Option (List String) :=
  match v with
  | .text s => if s = "" then none else some ((Text.commaList s.toList).map String.ofList)
  | _ => none

namespace SearchRules

def make (fields : Option (List String)) : SearchRules := ⟨fields.getD ["name"]⟩

/-- The search term: the value of the first key that is given. It has to have a length; whether
it is a pattern is seen when the condition is made. -/
def readTerm (query : Entries Value) : Except QueryError (Option Value) :=
  let term (key : String) : Option Value :=
    (Entries.get? query key).bind fun v => if v.isGiven then some v else none
  match (term "search").or (term "q") with
  | none => .ok none
  | some v =>
    match v.length? with
    | none => .error (.unmeasurable v.kind)
    | some length =>
      if Inference.maxLength < length then .error (.valueTooLong length Inference.maxLength)
      else .ok (some v)

def readFields (rules : SearchRules) (query : Entries Value) : Option (List String) :=
  match listOf ((Entries.get? query "searchFields").getD .null) with
  | none => none
  | some fields =>
    let fields := if rules.fields.isEmpty then fields else fields.filter rules.fields.contains
    if fields.isEmpty then none else some fields

def condition [Platform] (rules : SearchRules) (term : Option Value)
    (fields : Option (List String)) : Except QueryError (Option (Entries Value)) :=
  let fields :=
    match fields with
    | some (f :: fs) => f :: fs
    | _ => rules.fields
  match term with
  | none => .ok none
  | some v =>
    if v.isGiven = false ∨ fields.isEmpty then .ok none
    else ((Operator.patternText v).bind Operator.patternCondition).map fun c =>
      some [("$or", .list (fields.map fun f => .entry f (.map c)))]

end SearchRules
end ResourceQuery
