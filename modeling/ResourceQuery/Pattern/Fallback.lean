import ResourceQuery.Pattern.Possessive
import ResourceQuery.Pattern.Reader
import ResourceQuery.QueryError

/-!
The pattern that a search text stands for: the text itself when it is a valid
pattern that every matcher understands, else the text with its special
characters escaped. A backslash is no special character here.
-/

namespace ResourceQuery.Pattern

def isSpecial (c : Char) : Bool := ".*+?^$\x7b\x7d()|[]".toList.contains c

def escape (s : List Char) : List Char := s.flatMap fun c => if isSpecial c then ['\\', c] else [c]

theorem escape_eq_self {s : List Char} (h : ∀ c ∈ s, isSpecial c = false) : escape s = s := by
  induction s with
  | nil => rfl
  | cons c cs ih =>
    have hc : isSpecial c = false := h c (by simp)
    have := ih fun d hd => h d (by simp [hd])
    simp only [escape, List.flatMap_cons] at this ⊢
    simp [hc, this]

theorem length_escape_le (s : List Char) : (escape s).length ≤ 2 * s.length := by
  induction s with
  | nil => exact Nat.le_refl 0
  | cons c s ih =>
    rw [escape, List.flatMap_cons, List.length_append, List.length_cons]
    have escaped : (if isSpecial c then ['\\', c] else [c]).length ≤ 2 := by
      split <;> simp
    have rest : (s.flatMap fun c => if isSpecial c then ['\\', c] else [c]).length ≤
        2 * s.length := ih
    omega

variable [Platform]

/-- Can the text be handed to a matcher as it is? Faults other than an invalid pattern are
no reason to take the text literally. -/
def isPortable (s : List Char) : Except QueryError Bool :=
  match read s with
  | .ok _ => .ok (!hasPossessiveSyntax s)
  | .error .invalid => .ok false
  | .error .repeatTooLarge => .error .repeatTooLarge
  | .error (.numeralTooLong n) => .error (.numeralTooLong n)
  | .error .incompatibleFlags => .error .incompatibleFlags
  | .error .codeTooLarge => .error .codeTooLarge
  | .error .lookTooFar => .error .lookTooFar
  | .error .nestedTooDeep => .error .nestedTooDeep

def portable (s : List Char) : Except QueryError (List Char) :=
  (isPortable s).map fun ok => if ok then s else escape s

end ResourceQuery.Pattern
