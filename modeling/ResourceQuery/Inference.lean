import ResourceQuery.Document.Value
import ResourceQuery.Platform

/-!
The typed value that a text stands for. The rules are tried in order: an
existence check, a date in a field whose name speaks of dates, an object
identifier, a truth value, a number; any other text stays a text.
-/

namespace ResourceQuery.Inference

def maxLength : Nat := 10000

def maxTimestamp : Nat := 4102444800000

def existenceMark : List Char := "$exist:".toList

def dateMarkers : List (List Char) :=
  ["date".toList, "time".toList, "createdat".toList, "updatedat".toList]

def isDateField (field : String) : Bool :=
  dateMarkers.any fun marker => Text.occursIn marker (Text.lower field.toList)

/-- Thirteen digits count milliseconds, ten digits count seconds. -/
def timestamp? (s : List Char) : Option Date.Moment :=
  match Text.asciiNumeral? s with
  | none => none
  | some n =>
    if s.length = 13 ∧ n ≤ maxTimestamp then some (.ofMilliseconds n)
    else if s.length = 10 ∧ n * 1000 ≤ maxTimestamp then some (.ofMilliseconds (n * 1000))
    else none

section

variable [Platform]

def moment (s : String) : Except QueryError Value :=
  match timestamp? s.toList with
  | some m => .ok (.moment m)
  | none =>
    match Platform.readDate s.toList with
    | .ok m => .ok (.moment m)
    | .error .unreadable => .ok (.text s)
    | .error .undivided => .error .undividedPart

def isObjectId (s : List Char) : Bool := (Platform.identifiers.decode s).isSome

def isIdentifying (field : String) (s : String) : Bool :=
  field ≠ "" && s ≠ "" && (['I', 'd'].isSuffixOf field.toList || isObjectId s.toList)

def objectId (s : String) : Value :=
  match Platform.identifiers.decode s.toList with
  | some bytes => .objectId (String.ofList (Text.hexText bytes))
  | none => .text s

def isWord (word : String) (s : List Char) : Bool := Text.lower s = word.toList

def typedText (field : String) (s : String) : Except QueryError Value :=
  if maxLength < s.length then .error (.valueTooLong s.length maxLength)
  else match Text.behind? existenceMark s.toList with
    | some wanted => .ok (.entry "$exists" (.bool (isWord "true" wanted)))
    | none =>
      if isDateField field then moment s
      else if isIdentifying field s then .ok (objectId s)
      else if isWord "true" s.toList then .ok (.bool true)
      else if isWord "false" s.toList then .ok (.bool false)
      else (Number.numeral? s.toList).map fun n => (n.map Value.ofNumeral).getD (.text s)

/-- Only texts are typed: any other value has its type already. -/
def typed (field : String) : Value → Except QueryError Value
  | .text s => typedText field s
  | v => .ok v

end

def numeral? : Value → Except QueryError (Option Number.Numeral)
  | .text s => Number.numeral? s.toList
  | _ => .ok none

end ResourceQuery.Inference
