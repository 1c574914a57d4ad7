import ResourceQuery.Operator
import ResourceQuery.Text.Key
import ResourceQuery.Warning

/-!
Filters on the length of a list. A length is first computed into a field of its
own, a missing list counting as an empty one, and then compared there; both
stages are built from the same operations.
-/

namespace ResourceQuery

/-- The computed lengths and the conditions on them, by the names of the derived fields. -/
structure LengthFilter where
  lengths : Entries Value := []
  conditions : Entries Value := []
  deriving Repr, Inhabited

namespace LengthFilter

def countField (field : String) : String := field ++ "Count"

def lengthOf (field : String) : Value :=
  .entry "$size" (.entry "$ifNull" (.list [.text ("$" ++ field), .list []]))

/-- One bound or two. A blank lower bound is zero, a blank upper bound the next number
after the lower one. The texts of both are converted before either is refused. -/
def betweenCondition (s : List Char) : Except QueryError (Entries Value) :=
  let range (low high : List Char) : Except QueryError (Entries Value) := do
    let l ← Number.numeral? (if low = [] then ['0'] else low)
    let h ← if high = [] then .ok (l.map (·.addOne)) else Number.numeral? high
    match l, h with
    | some l, some h => return [("$gte", .ofNumeral l), ("$lte", .ofNumeral h)]
    | _, _ => .error (.malformedOperand .numericBounds)
  match Text.trimmedPieces s with
  | [low] => range low []
  | [low, high] => range low high
  | _ => .error (.malformedOperand .lengthBounds)

def comparison : LengthOperator → Number.Numeral → Entries Value
  | .gt, n => [("$gt", .ofNumeral n)]
  | .gte, n => [("$gte", .ofNumeral n)]
  | .lt, n => [("$lt", .ofNumeral n)]
  | .lte, n => [("$lte", .ofNumeral n)]
  | .eq, n => [("$eq", .ofNumeral n)]
  | .ne, n => [("$ne", .ofNumeral n)]
  | .between, n => [("$gte", .ofNumeral n), ("$lte", .ofNumeral n.addOne)]

/-- The condition of a length operator given by name. The operand is converted before the
name is looked up. -/
def condition (name : String) (operand : Value) : Except QueryError (Entries Value) :=
  if name = LengthOperator.between.name then
    (Operator.divisibleText operand).bind fun s => betweenCondition s.toList
  else do
    match ← Inference.numeral? operand with
    | none => .error (.malformedOperand (.numeric name))
    | some n =>
      match LengthOperator.ofName? name with
      | some op => return comparison op n
      | none => .error (.unknownLengthOperator name)

def operation? (allows : String → Bool) (key : String) (operand : Value) :
    Logged (Option (String × Entries Value)) :=
  match Text.operatorKey? key.toList with
  | none => pure none
  | some (field, op) =>
    let field := String.ofList field
    let op := String.ofList op
    if (LengthOperator.ofName? op).isNone then pure none
    else if !allows field then do
      Logged.warn (.lengthFilterNotAllowed key)
      pure none
    else do
      let c ← Logged.lift (condition op operand)
      return some (field, c)

def add (f : LengthFilter) (field : String) (c : Entries Value) : LengthFilter :=
  let key := countField field
  let old := ((Entries.get? f.conditions key).bind Value.entries?).getD []
  { lengths := Entries.put f.lengths key (lengthOf field)
    conditions := Entries.put f.conditions key (.map (Entries.putAll old c)) }

def ofQuery (allows : String → Bool) (query : Entries Value) : Logged LengthFilter :=
  query.foldlM (fun f (key, operand) => do
    match ← operation? allows key operand with
    | some (field, c) => return f.add field c
    | none => return f) {}

def isNeeded (f : LengthFilter) : Bool := !f.conditions.isEmpty

def stages (f : LengthFilter) : List Value :=
  if f.isNeeded then
    [.entry "$addFields" (.map f.lengths), .entry "$match" (.map f.conditions)]
  else []

def same (a b : LengthFilter) : Comparison :=
  .all [(Value.map a.lengths).same (.map b.lengths),
    (Value.map a.conditions).same (.map b.conditions)]

end LengthFilter
end ResourceQuery
