import ResourceQuery.Document.Value
import ResourceQuery.Number.Shortest

/-!
How messages speak of values: the name of a value's kind, and the text of a value
that holds no others.
-/

namespace ResourceQuery

namespace Date.Moment

def offsetText (offset : Int) : String :=
  let n := offset.natAbs
  (if offset < 0 then "-" else "+") ++ padded 2 (n / 3600) ++ ":" ++ padded 2 (n / 60 % 60) ++
    (if n % 60 = 0 then "" else ":" ++ padded 2 (n % 60))

def spelled (m : Moment) : String :=
  m.dateText ++ " " ++ m.clockText ++ (m.offset.map offsetText).getD ""

end Date.Moment

namespace Value

def kind : Value → String
  | .null => "NoneType"
  | .bool _ => "bool"
  | .int _ => "int"
  | .float _ => "float"
  | .text _ => "str"
  | .moment _ => "datetime.datetime"
  | .objectId _ => "ObjectId"
  | .list _ => "list"
  | .map _ => "dict"

/-- A list or a map has no text, nor has a moment whose zone is too far away. -/
def spelled : Value → Except QueryError String
  | .null => .ok "None"
  | .bool b => .ok (if b then "True" else "False")
  | .int n => .ok (toString n)
  | .float x => .ok x.text
  | .text s => .ok s
  | .moment m => if m.isPlaced then .ok m.spelled else .error .zoneTooFar
  | .objectId digits => .ok digits
  | v => .error (.unhashable v.kind)

end Value
end ResourceQuery
