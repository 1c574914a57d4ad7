import ResourceQuery.Document.Spelling
import ResourceQuery.Request

/-!
Running a pipeline for a page. It runs when documents or their number are asked
for, and not again once there are documents. The number of pages is the quotient
of total and limit as a double, rounded up.
-/

namespace ResourceQuery

abbrev Source (ε : Type) := Nat → Except ε (List Value)

structure Found where
  documents : Value
  total : Value
  deriving Repr

/-- A pipeline with the number of its runs so far, and the documents and their number that are
kept of a run. Both are null before a run has succeeded. -/
structure Counting where
  runs : Nat := 0
  documents : Value := .null
  number : Value := .null
  deriving Repr

inductive ResultFault
  | noDocument (kind : String)
  | noList (kind : String)
  | noFirstItem
  deriving DecidableEq, Repr

def ResultFault.message : ResultFault → String
  | .noDocument kind => "'" ++ kind ++ "' object has no attribute 'get'"
  | .noList kind => "'" ++ kind ++ "' object is not subscriptable"
  | .noFirstItem => "0"

inductive PageError
  | noLimit (exact : Bool)
  | totalTooLarge
  | limitTooLarge
  | pagesInfinite
  | pagesUndefined
  | totalNotNumber (kind : String)
  deriving DecidableEq, Repr

def PageError.message : PageError → String
  | .noLimit exact => if exact then "division by zero" else "float division by zero"
  | .totalTooLarge => "integer division result too large for a float"
  | .limitTooLarge => "int too large to convert to float"
  | .pagesInfinite => "cannot convert float infinity to integer"
  | .pagesUndefined => "cannot convert float NaN to integer"
  | .totalNotNumber kind => "unsupported operand type(s) for /: '" ++ kind ++ "' and 'int'"

inductive Failure (ε : Type)
  | run (error : ε)
  | result (fault : ResultFault)
  | page (error : PageError)
  deriving Repr

namespace Found

def given (document : Entries Value) (key : String) : Option Value :=
  (Entries.get? document key).bind fun v => if v.isGiven then some v else none

def document : Value → Except ResultFault (Entries Value)
  | .map entries => .ok entries
  | v => .error (.noDocument v.kind)

def firstCount : Option Value → Except ResultFault (Entries Value)
  | none => .ok []
  | some (.list (v :: _)) => document v
  | some (.text s) => .error (.noDocument (Value.text s).kind)
  | some (.map _) => .error .noFirstItem
  | some v => .error (.noList v.kind)

def ofResults (results : List Value) : Except ResultFault Found := do
  let d ← document (results.head?.getD (.map []))
  let count ← firstCount (given d "totalCount")
  return {
    documents := (given d "data").getD (.list [])
    total := (Entries.get? count "total").getD (.int 0) }

end Found

namespace Counting

variable {ε : Type}

/-- Runs the pipeline, unless there are documents already: an empty list of them is enough. -/
def execute (source : Source ε) (c : Counting) : Except (Failure ε) Unit × Counting :=
  match c.documents with
  | .null =>
    match source c.runs with
    | .error e => (.error (.run e), { c with runs := c.runs + 1 })
    | .ok results =>
      match Found.ofResults results with
      | .error e => (.error (.result e), { c with runs := c.runs + 1 })
      | .ok f => (.ok (), ⟨c.runs + 1, f.documents, f.total⟩)
  | _ => (.ok (), c)

theorem execute_of_documents (source : Source ε) {c : Counting} (h : c.documents ≠ .null) :
    execute source c = (.ok (), c) := by
  unfold execute
  split
  · rename_i hnull
    exact absurd hnull h
  · rfl

def data (source : Source ε) (c : Counting) : Except (Failure ε) Value × Counting :=
  let (r, c) := execute source c
  (r.map fun _ => c.documents, c)

def total (source : Source ε) (c : Counting) : Except (Failure ε) Value × Counting :=
  let (r, c) := execute source c
  (r.map fun _ => c.number, c)

def ceiling (x : Number.Binary64) : Except PageError Int :=
  if x.isFinite then .ok x.ceil
  else if x.isInfinite then .error .pagesInfinite
  else .error .pagesUndefined

/-- The number of pages: the double nearest to the quotient, rounded up. For a total that is a
double, the limit is made one first. -/
def pageCount (total : Number.Numeral) (limit : Int) : Except PageError Int :=
  match total with
  | .int n =>
    if limit = 0 then .error (.noLimit true)
    else match Number.Binary64.ofQuotient? n limit with
      | some x => .ok x.ceil
      | none => .error .totalTooLarge
  | .float x =>
    match Number.Binary64.ofQuotient? limit 1 with
    | none => .error .limitTooLarge
    | some y =>
      if y.isZero then .error (.noLimit false)
      else if x.isFinite then ceiling (x.divide y)
      else ceiling x

def pagesOf (total : Value) (limit : Int) : Except PageError Int :=
  match total.numeral? with
  | some n => pageCount n limit
  | none => .error (.totalNotNumber total.kind)

def describe (documents total : Value) (request : Request) (pages : Int) : Entries Value :=
  [("data", documents), ("total", total), ("page", .int request.page),
    ("limit", .int request.limit), ("totalPages", .int pages),
    ("hasNext", .bool (decide (request.page < pages))),
    ("hasPrev", .bool (decide (1 < request.page)))]

/-- The total is asked for first, and the documents only when the pages are known. -/
def page (source : Source ε) (c : Counting) (request : Request) :
    Except (Failure ε) (Entries Value) × Counting :=
  match total source c with
  | (.error e, c) => (.error e, c)
  | (.ok total, c) =>
    match pagesOf total request.limit with
    | .error e => (.error (.page e), c)
    | .ok pages =>
      let (r, c) := data source c
      (r.map fun documents => describe documents total request pages, c)

def callOptions : Value → Entries Value
  | .null => []
  | session => [("session", session)]

end Counting
end ResourceQuery
