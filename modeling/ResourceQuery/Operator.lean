import ResourceQuery.Document.Spelling
import ResourceQuery.Inference
import ResourceQuery.Pattern.Fallback
import ResourceQuery.Text.Pieces

/-!
Operators of filter keys. An operator turns the field and the raw operand into a
comparison; a configuration may add operators of its own, but not replace the
known ones. Operators on the length of a list are known by name only: their
comparisons are made elsewhere.
-/

namespace ResourceQuery

inductive Operator
  | gt
  | gte
  | lt
  | lte
  | ne
  | isIn
  | notIn
  | regex
  | exists
  | between
  deriving DecidableEq, Repr

inductive LengthOperator
  | gt
  | gte
  | lt
  | lte
  | eq
  | ne
  | between
  deriving DecidableEq, Repr

inductive ConfigError
  | listCap
  | lengthOperatorTaken
  | sortDirection
  | pageCap
  | unknownSettings (names : List String)
  deriving DecidableEq, Repr

def ConfigError.message : ConfigError → String
  | .listCap => ""
  | .lengthOperatorTaken => "Array size operators can not be overridden"
  | .sortDirection => "Sort direction can be either +1 or -1"
  | .pageCap => ""
  | .unknownSettings names => "Invalid settings: " ++ String.intercalate "," names

namespace Operator

def name : Operator → String
  | .gt => "gt"
  | .gte => "gte"
  | .lt => "lt"
  | .lte => "lte"
  | .ne => "ne"
  | .isIn => "in"
  | .notIn => "nin"
  | .regex => "regex"
  | .exists => "exists"
  | .between => "between"

def all : List Operator :=
  [.gt, .gte, .lt, .lte, .ne, .isIn, .notIn, .regex, .exists, .between]

def ofName? (s : String) : Option Operator := all.find? (·.name = s)

@[simp] theorem ofName?_name (op : Operator) : ofName? op.name = some op := by
  cases op <;> decide

section

variable [Platform]

def patternCondition (s : String) : Except QueryError (Entries Value) :=
  if Inference.maxLength < s.length then .error (.valueTooLong s.length Inference.maxLength)
  else (Pattern.portable s.toList).map fun p =>
    [("$regex", .text (String.ofList p)), ("$options", .text "i")]

def typedItems (field : String) (items : List (List Char)) : Except QueryError (List Value) :=
  items.mapM fun item => Inference.typedText field (String.ofList item)

def itemList (cap : Int) (field : String) (s : String) : Except QueryError Value :=
  (typedItems field (Text.commaList s.toList)).bind fun values =>
    if cap < values.length then .error (.listTooLong values.length cap) else .ok (.list values)

def betweenCondition (field : String) (s : String) : Except QueryError (Entries Value) :=
  match Text.trimmedPieces s.toList with
  | [low, high] => do
    let low ← Inference.typedText field (String.ofList low)
    let high ← Inference.typedText field (String.ofList high)
    return [("$gte", low), ("$lte", high)]
  | _ => .error (.malformedOperand .twoBounds)

end

def divisibleText : Value → Except QueryError String
  | .text s => .ok s
  | v => .error (.indivisible v.kind)

/-- The text of a pattern. A list or a map has a length, which is checked first. -/
def patternText (v : Value) : Except QueryError String :=
  match v, v.length? with
  | .text s, _ => .ok s
  | v, some length =>
    if Inference.maxLength < length then .error (.valueTooLong length Inference.maxLength)
    else .error (.unhashable v.kind)
  | v, none => .error (.unmeasurable v.kind)

variable [Platform]

def apply (cap : Int) (op : Operator) (field : String) (operand : Value) :
    Except QueryError (Entries Value) :=
  let single (key : String) := (Inference.typed field operand).map fun v => [(key, v)]
  match op with
  | .gt => single "$gt"
  | .gte => single "$gte"
  | .lt => single "$lt"
  | .lte => single "$lte"
  | .ne => single "$ne"
  | .isIn => do
    let s ← divisibleText operand
    return [("$in", ← itemList cap field s)]
  | .notIn => do
    let s ← divisibleText operand
    return [("$nin", ← itemList cap field s)]
  | .regex => (patternText operand).bind patternCondition
  | .exists => .ok [("$exists", .bool (operand.text? = some "true"))]
  | .between => (divisibleText operand).bind (betweenCondition field)

end Operator

namespace LengthOperator

def name : LengthOperator → String
  | .gt => "size_gt"
  | .gte => "size_gte"
  | .lt => "size_lt"
  | .lte => "size_lte"
  | .eq => "size_eq"
  | .ne => "size_ne"
  | .between => "size_between"

def all : List LengthOperator := [.gt, .gte, .lt, .lte, .eq, .ne, .between]

def ofName? (s : String) : Option LengthOperator := all.find? (·.name = s)

@[simp] theorem ofName?_name (op : LengthOperator) : ofName? op.name = some op := by
  cases op <;> decide

end LengthOperator

/-- An operator of the configuration: from the bound on lists, the field and the raw operand. -/
abbrev CustomOperator := Int → String → Value → Except QueryError Value

structure Operators where
  cap : Int
  custom : Entries CustomOperator

namespace Operators

def defaultCap : Int := 1000

/-- A bound that is not given, or zero, is the default. -/
def orDefault (n : Option Int) (default : Int) : Int :=
  match n with
  | some n => if n = 0 then default else n
  | none => default

def make (cap : Option Int) (custom : Entries CustomOperator) : Except ConfigError Operators :=
  let cap := orDefault cap defaultCap
  if cap ≤ 0 then .error .listCap
  else if custom.any fun c => (LengthOperator.ofName? c.1).isSome then .error .lengthOperatorTaken
  else .ok ⟨cap, custom⟩

def knows (ops : Operators) (name : String) : Bool :=
  (Operator.ofName? name).isSome || Entries.has ops.custom name ||
    (LengthOperator.ofName? name).isSome

/-- The comparison of a named operator. A known operator is never replaced. -/
def apply [Platform] (ops : Operators) (name field : String) (operand : Value) :
    Except QueryError Value :=
  if (LengthOperator.ofName? name).isSome then .error (.lengthOperator name)
  else match Operator.ofName? name with
    | some op => (op.apply ops.cap field operand).map .map
    | none =>
      match Entries.get? ops.custom name with
      | some f => f ops.cap field operand
      | none => .error (.unsupportedOperator name)

end Operators
end ResourceQuery
