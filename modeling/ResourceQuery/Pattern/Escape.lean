import ResourceQuery.Pattern.Token
import ResourceQuery.Pattern.Tree
import ResourceQuery.Text.CharacterName

/-!
Escapes. A backslash before a letter or a digit has a meaning or is a mistake;
before any other character it makes that character plain. `Meaning` is what an
escape stands for outside a class, where digits may also refer back to a group.
-/

namespace ResourceQuery.Pattern

/-- Why a pattern cannot be used. Only an invalid pattern may be taken literally instead. -/
inductive Fault
  | invalid
  | repeatTooLarge
  | numeralTooLong (digits : Nat)
  | incompatibleFlags
  | codeTooLarge
  | lookTooFar
  | nestedTooDeep
  deriving DecidableEq, Repr

inductive Meaning
  | code (n : Nat)
  | category (letter : Char)
  | anchor
  | reference (group : Nat)
  deriving DecidableEq, Repr

def isOctalDigit (c : Char) : Bool := '0' ≤ c && c ≤ '7'

def octalValue (cs : List Char) : Nat := cs.foldl (fun n c => n * 8 + (c.toNat - 0x30)) 0

def controlCode? : Char → Option Nat
  | 'a' => some 7
  | 'b' => some 8
  | 't' => some 9
  | 'n' => some 10
  | 'v' => some 11
  | 'f' => some 12
  | 'r' => some 13
  | _ => none

def isCategory (c : Char) : Bool := ['d', 'D', 's', 'S', 'w', 'W'].contains c

def isAnchorLetter (c : Char) : Bool := ['A', 'b', 'B', 'Z'].contains c

def readHex (n : Nat) (ts : List Token) : Except Fault (Nat × Rest ts) :=
  let (cs, r) := takePlain Text.isHexDigit n ts
  if cs.length = n then
    match Text.ofHexDigits? cs with
    | some v => .ok (v, r)
    | none => .error .invalid
  else .error .invalid

def readNamed : (ts : List Token) → Except Fault (Nat × Rest ts)
  | .plain '{' :: ts =>
    match takeUntil '}' ts with
    | some (name, r) =>
      match Text.characterNamed? name with
      | some n => .ok (n, r.tail)
      | none => .error .invalid
    | none => .error .invalid
  | _ => .error .invalid

def maxMachineInt : Nat := 0x7FFFFFFF

/-- A character in eight hexadecimal digits. A backslash that ends the pattern is found before
the number is looked at. -/
def readCode (ts : List Token) : Except Fault (Nat × Rest ts) :=
  (readHex 8 ts).bind fun p =>
    if p.1 ≤ 0x10FFFF then .ok p
    else if p.1 ≤ maxMachineInt ∨ p.2.1 = [.dangling] then .error .invalid
    else .error .codeTooLarge

def readNumbered? (c : Char) (ts : List Token) : Option (Except Fault (Nat × Rest ts)) :=
  match c with
  | 'x' => some (readHex 2 ts)
  | 'u' => some (readHex 4 ts)
  | 'U' => some (readCode ts)
  | 'N' => some (readNamed ts)
  | _ => none

def isAsciiLetter (c : Char) : Bool := c.isAlpha

def readOctal (c : Char) (ts : List Token) : Except Fault (Nat × Rest ts) :=
  let (cs, r) := takePlain isOctalDigit 2 ts
  let n := octalValue (c :: cs)
  if n ≤ 0o377 then .ok (n, r) else .error .invalid

/-- Digits that start with none of zero: a byte in three octal digits, or a group of one or
two decimal digits. -/
def readDigits (c : Char) : (ts : List Token) → Except Fault (Meaning × Rest ts)
  | .plain d :: .plain e :: ts =>
    if d.isDigit then
      if isOctalDigit c ∧ isOctalDigit d ∧ isOctalDigit e then
        if octalValue [c, d, e] ≤ 0o377 then
          .ok (.code (octalValue [c, d, e]), (Rest.all ts).tail.tail)
        else .error .invalid
      else .ok (.reference ((c.toNat - 0x30) * 10 + (d.toNat - 0x30)), (Rest.all _).tail)
    else .ok (.reference (c.toNat - 0x30), Rest.all _)
  | .plain d :: ts =>
    if d.isDigit then
      .ok (.reference ((c.toNat - 0x30) * 10 + (d.toNat - 0x30)), (Rest.all ts).tail)
    else .ok (.reference (c.toNat - 0x30), Rest.all _)
  | ts => .ok (.reference (c.toNat - 0x30), Rest.all ts)

def readEscape (c : Char) (ts : List Token) : Except Fault (Meaning × Rest ts) :=
  if isCategory c then .ok (.category c, Rest.all ts)
  else if isAnchorLetter c then .ok (.anchor, Rest.all ts)
  else match controlCode? c with
    | some n => .ok (.code n, Rest.all ts)
    | none =>
      match readNumbered? c ts with
      | some p => p.map fun (n, r) => (.code n, r)
      | none =>
        if c = '0' then (readOctal c ts).map fun (n, r) => (.code n, r)
        else if c.isDigit then readDigits c ts
        else if isAsciiLetter c then .error .invalid
        else .ok (.code c.toNat, Rest.all ts)

def readClassEscape (c : Char) (ts : List Token) : Except Fault (ClassItem × Rest ts) :=
  if isCategory c then .ok (.category c, Rest.all ts)
  else match controlCode? c with
    | some n => .ok (.code n, Rest.all ts)
    | none =>
      match readNumbered? c ts with
      | some p => p.map fun (n, r) => (.code n, r)
      | none =>
        if isOctalDigit c then (readOctal c ts).map fun (n, r) => (.code n, r)
        else if c.isDigit ∨ isAsciiLetter c then .error .invalid
        else .ok (.code c.toNat, Rest.all ts)

end ResourceQuery.Pattern
