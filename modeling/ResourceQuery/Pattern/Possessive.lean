/-!
Possessive repeats and atomic groups, found in the text of a pattern without
reading it into a tree: a plus sign right behind a quantifier, or the opening of
an atomic group, outside classes and escapes.
-/

namespace ResourceQuery.Pattern

/-- Does a closing brace end a count? `before` is the text in front of it, latest first:
digits with at most one comma behind an opening brace that is not escaped. -/
def closesCount (before : List Char) : Bool :=
  let inside := before.takeWhile fun c => c.isDigit || c = ','
  match before.drop inside.length with
  | '{' :: '\\' :: _ => false
  | '{' :: _ => inside.count ',' ≤ 1 && inside.any Char.isDigit
  | _ => false

def isQuantifier (before : List Char) (c : Char) : Bool :=
  c = '*' || c = '+' || c = '?' || (c = '}' && closesCount before)

def classLead : List Char → Nat
  | '^' :: ']' :: _ => 2
  | '^' :: _ => 1
  | ']' :: _ => 1
  | _ => 0

def scanPossessive (inClass afterQuantifier : Bool) (before : List Char) : List Char → Bool
  | [] => false
  | c :: cs =>
    if c = '\\' then
      match cs with
      | [] => false
      | d :: ds => scanPossessive inClass false (d :: c :: before) ds
    else if inClass then scanPossessive (c ≠ ']') false (c :: before) cs
    else if c = '[' then
      scanPossessive true false ((cs.take (classLead cs)).reverse ++ c :: before)
        (cs.drop (classLead cs))
    else if c = '+' ∧ afterQuantifier then true
    else if c = '(' ∧ ['?', '>'].isPrefixOf cs then true
    else scanPossessive false (isQuantifier before c) (c :: before) cs
termination_by cs => cs.length
decreasing_by all_goals simp only [List.length_cons, List.length_drop]; omega

def hasPossessiveSyntax (s : List Char) : Bool := scanPossessive false false [] s

end ResourceQuery.Pattern
