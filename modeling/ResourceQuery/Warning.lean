import ResourceQuery.QueryError

/-!
Warnings about parts of a request that are left out. They are collected in order
while the request is read, and those before a failure are kept.
-/

namespace ResourceQuery

inductive Warning
  | lengthFilterNotAllowed (key : String)
  | filterNotAllowed (key : String)
  | unknownOperator (operator key : String)
  | bracketFilterFailed (key : String) (error : QueryError)
  | directFilterFailed (field : String) (error : QueryError)
  | operatorFilterFailed (key : String) (error : QueryError)
  | unknownFormat (format : String)
  deriving DecidableEq, Repr

def Warning.message : Warning → String
  | .lengthFilterNotAllowed key => "Array size filter on a field that is not allowed: " ++ key
  | .filterNotAllowed key => "Filter on a field that is not allowed: " ++ key
  | .unknownOperator operator key =>
    "Unsupported filter operator \"" ++ operator ++ "\" in " ++ key
  | .bracketFilterFailed key error =>
    "Bracket filter parsing error for " ++ key ++ ": " ++ error.message
  | .directFilterFailed field error =>
    "Direct filter parsing error for " ++ field ++ ": " ++ error.message
  | .operatorFilterFailed key error =>
    "Operator filter parsing error for " ++ key ++ ": " ++ error.message
  | .unknownFormat format => "Unsupported export format: " ++ format

abbrev Logged := ExceptT QueryError (StateM (List Warning))

namespace Logged

def lift {α : Type} (r : Except QueryError α) : Logged α :=
  match r with
  | .ok a => pure a
  | .error e => throw e

def warn (w : Warning) : Logged Unit := modify (· ++ [w])

/-- A failure of one key only is turned into a warning, and `kept` is kept. -/
def attempt {α : Type} (kept : α) (warning : QueryError → Warning) (r : Except QueryError α) :
    Logged α :=
  match r with
  | .ok a => pure a
  | .error e => if e.isKeyLevel then do warn (warning e); pure kept else throw e

def outcome {α : Type} (r : Logged α) : Except QueryError α := (r.run.run []).1

def warnings {α : Type} (r : Logged α) : List Warning := (r.run.run []).2

end Logged
end ResourceQuery
