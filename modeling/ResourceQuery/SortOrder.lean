import ResourceQuery.Filter

/-!
The order of the results. A request gives it as a list of fields with optional
directions, or as one field and its direction in two keys; only allowed fields
count, and without any the default order holds. Only the exact word `desc` is
descending.
-/

namespace ResourceQuery

namespace SortOrder

def baseFields : List String := ["createdAt", "updatedAt"]

def defaultOrder : Entries Value := [("createdAt", .int (-1))]

def ascending : Value := .int 1

def descending : Value := .int (-1)

def direction (s : List Char) : Value :=
  if Text.trim s = "desc".toList then descending else ascending

/-- Directions are the numbers one and minus one, whichever way they are written. -/
def isDirection (v : Value) : Bool :=
  match v.numeral? with
  | some n => n.same (.int 1) || n.same (.int (-1))
  | none => false

end SortOrder

structure SortRules where
  fields : List String
  default : Entries Value
  deriving Repr

namespace SortRules

def make (fields : Option (List String)) (default : Option (Entries Value)) :
    Except ConfigError SortRules :=
  let order :=
    match default with
    | some (e :: es) => Entries.ofPairs (e :: es)
    | _ => SortOrder.defaultOrder
  if order.all fun e => SortOrder.isDirection e.2 then
    .ok ⟨distinct (fields.getD [] ++ SortOrder.baseFields), order⟩
  else .error .sortDirection

def allows (rules : SortRules) (field : String) : Bool :=
  rules.fields.isEmpty || rules.fields.contains field

def orDefault (rules : SortRules) (order : Entries Value) : Entries Value :=
  if order.isEmpty then rules.default else order

def addPair (rules : SortRules) (order : Entries Value) (pair : List Char) : Entries Value :=
  let (name, direction) := Text.cutAt ':' pair
  let field := String.ofList (Text.trim name)
  if field ≠ "" ∧ rules.allows field then
    Entries.put order field (SortOrder.direction direction)
  else order

def readList (rules : SortRules) (s : String) : Entries Value :=
  rules.orDefault ((Text.pieces ',' s.toList).foldl rules.addPair [])

def readField (rules : SortRules) (field direction : String) : Entries Value :=
  let field := String.ofList (Text.trim field.toList)
  if rules.allows field then [(field, SortOrder.direction direction.toList)] else rules.default

def valueOf (query : Entries Value) (key : String) : Value :=
  (Entries.get? query key).getD .null

def read (rules : SortRules) (query : Entries Value) : Entries Value :=
  let sort := valueOf query "sort"
  if sort.isGiven then
    match sort with
    | .text s => rules.readList s
    | _ => rules.default
  else
    match valueOf query "order[field]", valueOf query "order[direction]" with
    | .text field, .text direction =>
      if field ≠ "" ∧ direction ≠ "" then rules.readField field direction else rules.default
    | _, _ => rules.default

end SortRules
end ResourceQuery
