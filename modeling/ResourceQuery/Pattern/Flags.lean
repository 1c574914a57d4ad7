import ResourceQuery.Pattern.Escape

/-!
Flags in parentheses: set for the whole pattern, or switched on and off for one
group. The locale flag is for patterns of bytes; a pattern of characters cannot
have it, nor be of two character sets within one list of flags.
-/

namespace ResourceQuery.Pattern

inductive FlagGroup
  | forPattern (on : List Char)
  | forGroup (on off : List Char)
  deriving DecidableEq, Repr

def isFlag (c : Char) : Bool := ['i', 'L', 'm', 's', 'x', 'a', 't', 'u'].contains c

def isSetFlag (c : Char) : Bool := ['L', 'a', 'u'].contains c

def readOn (on : List Char) (c : Char) : (ts : List Token) →
    Except Fault (List Char × Char × Rest ts)
  | [] => .error .invalid
  | t :: ts =>
    let on := c :: on
    if c = 'L' ∨ ('a' ∈ on ∧ 'u' ∈ on) then .error .invalid
    else match t with
      | .plain d =>
        if d = ')' ∨ d = '-' ∨ d = ':' then .ok (on, d, (Rest.all ts).tail)
        else if isFlag d then (readOn on d ts).map fun (on, e, r) => (on, e, r.tail)
        else .error .invalid
      | _ => .error .invalid

def readOff (off : List Char) : (ts : List Token) → Except Fault (List Char × Rest ts)
  | .plain ':' :: ts => if off = [] then .error .invalid else .ok (off, (Rest.all ts).tail)
  | .plain c :: ts =>
    if isFlag c ∧ !isSetFlag c then (readOff (c :: off) ts).map fun (off, r) => (off, r.tail)
    else .error .invalid
  | _ => .error .invalid

/-- The template flag only goes with a whole pattern, and no flag is both on and off. -/
def forGroup (on off : List Char) : Except Fault FlagGroup :=
  if 't' ∈ on ∨ 't' ∈ off ∨ on.any off.contains then .error .invalid else .ok (.forGroup on off)

def readFlags (c : Char) (ts : List Token) : Except Fault (FlagGroup × Rest ts) :=
  if c = '-' then do
    let (off, r) ← readOff [] ts
    return (← forGroup [] off, r)
  else do
    let (on, stop, r) ← readOn [] c ts
    if stop = ')' then return (.forPattern on, r)
    else if stop = ':' then return (← forGroup on [], r)
    else if 't' ∈ on then .error .invalid
    else do
      let (off, q) ← readOff [] r.1
      return (← forGroup on off, r.trans q)

end ResourceQuery.Pattern
