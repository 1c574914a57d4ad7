import ResourceQuery.Date.Moment
import ResourceQuery.Document.Entries
import ResourceQuery.Number.Literal

/-!
Values of the document store. Filters, stages and documents are made of them; a
map keeps its entries in order, and an object identifier is kept as the
hexadecimal digits of its bytes, in lower case.
-/

namespace ResourceQuery

inductive Value
  | null
  | bool (b : Bool)
  | int (n : Int)
  | float (x : Number.Binary64)
  | text (s : String)
  | moment (m : Date.Moment)
  | objectId (digits : String)
  | list (items : List Value)
  | map (entries : List (String × Value))
  deriving Repr, Inhabited

namespace Value

def ofNumeral : Number.Numeral → Value
  | .int n => .int n
  | .float x => .float x

def entry (key : String) (value : Value) : Value := .map [(key, value)]

/-- Does the value count as given? Zeros and empty texts, lists and maps do not. -/
def isGiven : Value → Bool
  | .null => false
  | .bool b => b
  | .int n => n ≠ 0
  | .float x => !x.isZero
  | .text s => s ≠ ""
  | .moment _ | .objectId _ => true
  | .list items => !items.isEmpty
  | .map entries => !entries.isEmpty

def isScalar : Value → Bool
  | .list _ | .map _ => false
  | _ => true

def text? : Value → Option String
  | .text s => some s
  | _ => none

def length? : Value → Option Nat
  | .text s => some s.length
  | .list items => some items.length
  | .map entries => some entries.length
  | _ => none

def entries? : Value → Option (Entries Value)
  | .map entries => some entries
  | _ => none

def numeral? : Value → Option Number.Numeral
  | .bool b => some (.int (if b then 1 else 0))
  | .int n => some (.int n)
  | .float x => some (.float x)
  | _ => none

end Value

def Number.Numeral.same : Number.Numeral → Number.Numeral → Bool
  | .int m, .int n => m = n
  | .int m, .float y => y.equalsInt m
  | .float x, .int n => x.equalsInt n
  | .float x, .float y => x.sameValue y

abbrev Comparison := Except QueryError Bool

namespace Comparison

/-- Do all hold? The first that does not hold, or that has no answer, decides. -/
def all : List Comparison → Comparison
  | [] => .ok true
  | .ok true :: rest => all rest
  | c :: _ => c

@[simp] theorem all_eq_ok_true_iff (cs : List Comparison) :
    all cs = .ok true ↔ ∀ c ∈ cs, c = .ok true := by
  fun_induction all cs with
  | case1 => simp
  | case2 rest ih => simp [ih]
  | case3 c rest h => simpa using fun hc => absurd hc h

end Comparison

namespace Date.Moment

def same (a b : Moment) : Comparison :=
  match a.same? b with
  | some r => .ok r
  | none => .error .zoneTooFar

end Date.Moment

mutual

/-- Equality of values: numbers by value, moments as moments, lists item by item, and maps
without regard to order. The entries of the first map are gone through and looked up in the
other. -/
def Value.same : Value → Value → Comparison
  | .null, .null => .ok true
  | .text s, .text t => .ok (s = t)
  | .moment a, .moment b => a.same b
  | .objectId a, .objectId b => .ok (a = b)
  | .list xs, .list ys =>
    if xs.length = ys.length then .all (Value.sameItems xs ys) else .ok false
  | .map es, .map fs =>
    if es.length = fs.length then .all (Value.sameEntries es fs) else .ok false
  | a, b =>
    match a.numeral?, b.numeral? with
    | some m, some n => .ok (m.same n)
    | _, _ => .ok false

def Value.sameItems : List Value → List Value → List Comparison
  | x :: xs, y :: ys => Value.same x y :: Value.sameItems xs ys
  | _, _ => []

def Value.sameEntries : List (String × Value) → List (String × Value) → List Comparison
  | [], _ => []
  | (key, v) :: es, fs =>
    (match Entries.get? fs key with
      | some w => Value.same v w
      | none => .ok false) :: Value.sameEntries es fs

end

def Entries.sameInOrder (es fs : Entries Value) : Comparison :=
  .all [(Value.map es).same (.map fs), .ok (Entries.keys es = Entries.keys fs)]

end ResourceQuery
