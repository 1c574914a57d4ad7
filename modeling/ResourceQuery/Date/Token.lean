import ResourceQuery.Text.Blank
import ResourceQuery.Text.Digit
import ResourceQuery.Text.Letter

/-!
Tokens of a date text: runs of letters, runs of digits, and single characters,
every blank being one space. A point continues a run, a comma continues a number
of two digits or more; a run that mixes letters with points, or holds more than
one point, or ends in a separator, is cut again at each separator.
-/

namespace ResourceQuery.Date

abbrev Word := List Char

inductive RunKind
  | letters
  | digits
  | dottedLetters
  | dottedDigits
  deriving DecidableEq, Repr

/-- A run that may still grow: its characters, latest first, and whether it was
continued, or closed by a further character, while it was a run of letters. -/
structure Run where
  kind : RunKind
  chars : List Char
  seenLetters : Bool
  deriving Repr

namespace Run

def look (r : Run) : Run :=
  match r.kind with
  | .letters | .dottedLetters => { r with seenLetters := true }
  | .digits | .dottedDigits => r

def extend? (r : Run) (c : Char) : Option Run :=
  let grown := { r with chars := c :: r.chars }
  let afterPoint := r.chars.head? = some '.'
  match r.kind with
  | .letters =>
    if Text.isLetter c then some grown
    else if c = '.' then some { grown with kind := .dottedLetters }
    else none
  | .digits =>
    if Text.isDigit c then some grown
    else if c = '.' ∨ (c = ',' ∧ 2 ≤ r.chars.length) then some { grown with kind := .dottedDigits }
    else none
  | .dottedLetters =>
    if c = '.' ∨ Text.isLetter c then some grown
    else if Text.isDigit c ∧ afterPoint then some { grown with kind := .dottedDigits }
    else none
  | .dottedDigits =>
    if c = '.' ∨ Text.isDigit c then some grown
    else if Text.isLetter c ∧ afterPoint then some { grown with kind := .dottedLetters }
    else none

def cutSeparators : List Char → List Word
  | [] => []
  | c :: cs =>
    if c = '.' ∨ c = ',' then [c] :: cutSeparators cs
    else match cs, cutSeparators cs with
      | d :: _, w :: ws => if d = '.' ∨ d = ',' then [c] :: w :: ws else (c :: w) :: ws
      | _, ws => [c] :: ws

def words (r : Run) : List Word :=
  let text := r.chars.reverse
  let dotted := r.kind = .dottedLetters ∨ r.kind = .dottedDigits
  let atEnd := r.chars.head? = some '.' ∨ r.chars.head? = some ','
  if dotted ∧ (r.seenLetters ∨ 1 < text.count '.' ∨ atEnd) then cutSeparators text
  else if r.kind = .dottedDigits ∧ '.' ∉ text then
    [text.map fun c => if c = ',' then '.' else c]
  else [text]

end Run

def startRun (c : Char) : List Word × Option Run :=
  if Text.isLetter c then ([], some ⟨.letters, [c], false⟩)
  else if Text.isDigit c then ([], some ⟨.digits, [c], false⟩)
  else if Text.isBlank c then ([[' ']], none)
  else ([[c]], none)

def wordsAfter : Option Run → List Char → List Word
  | none, [] => []
  | some r, [] => r.words
  | run, c :: cs =>
    if c.toNat = 0 then wordsAfter run cs
    else match run with
      | none => (startRun c).1 ++ wordsAfter (startRun c).2 cs
      | some r =>
        match r.look.extend? c with
        | some r => wordsAfter (some r) cs
        | none => r.look.words ++ (startRun c).1 ++ wordsAfter (startRun c).2 cs

def words (s : List Char) : List Word := wordsAfter none s

end ResourceQuery.Date
