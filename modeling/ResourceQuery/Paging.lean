import ResourceQuery.Operator

/-!
Pages. Page and limit are positive whole numbers, fractions cut off; anything
else falls back to the first page and the default limit. No limit exceeds the
configured one.
-/

namespace ResourceQuery

structure PagingRules where
  maxLimit : Int
  defaultLimit : Int
  deriving DecidableEq, Repr

namespace PagingRules

def make (maxLimit defaultLimit : Option Int) : Except ConfigError PagingRules :=
  let maxLimit := Operators.orDefault maxLimit 100
  let defaultLimit := min (Operators.orDefault defaultLimit 10) maxLimit
  if 0 < maxLimit ∧ 0 < defaultLimit then .ok ⟨maxLimit, defaultLimit⟩ else .error .pageCap

/-- The whole part of the number that a value writes, when it is positive. -/
def positive? (v : Value) : Except QueryError (Option Int) :=
  (Inference.numeral? v).map fun n =>
    n.bind fun n => if 0 < n.floor then some n.floor else none

def readPage (v : Value) : Except QueryError Int :=
  (positive? v).map fun n => n.getD 1

def readLimit (rules : PagingRules) (v : Value) : Except QueryError Int :=
  (positive? v).map fun n => min (n.getD rules.defaultLimit) rules.maxLimit

def read (rules : PagingRules) (query : Entries Value) : Except QueryError (Int × Int) := do
  let page ← readPage ((Entries.get? query "page").getD .null)
  let limit ← rules.readLimit ((Entries.get? query "limit").getD .null)
  return (page, limit)

end PagingRules
end ResourceQuery
