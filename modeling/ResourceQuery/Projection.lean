import ResourceQuery.Search

/-!
Fields that a document is cut down to. Included fields bring the identifier with
them; an exclusion wins over an inclusion. Lookups name related collections and
are only handed on.
-/

namespace ResourceQuery

structure ProjectionRules where
  fields : List String
  deriving DecidableEq, Repr

namespace ProjectionRules

def make (fields : Option (List String)) : ProjectionRules := ⟨fields.getD []⟩

def identifier : String := "_id"

def named (query : Entries Value) (key : String) : Option (List String) :=
  listOf ((Entries.get? query key).getD .null)

def readIncluded (rules : ProjectionRules) (query : Entries Value) : Option (List String) :=
  (named query "include").map fun fields =>
    if rules.fields.isEmpty then fields else fields.filter rules.fields.contains

def readExcluded (query : Entries Value) : Option (List String) := named query "exclude"

def readLookups (query : Entries Value) : Option (List String) := named query "lookup"

def mark (marks : Entries Value) (fields : List String) (n : Int) : Entries Value :=
  fields.foldl (fun ms f => Entries.put ms f (.int n)) marks

/-- One for the fields that are kept, zero for those that are dropped; none without any. -/
def compile (included excluded : Option (List String)) : Option (Entries Value) :=
  let kept :=
    match included with
    | some (f :: fs) => Entries.put (mark [] (f :: fs) 1) identifier (.int 1)
    | _ => []
  let marks := mark kept (excluded.getD []) 0
  if marks.isEmpty then none else some marks

end ProjectionRules
end ResourceQuery
