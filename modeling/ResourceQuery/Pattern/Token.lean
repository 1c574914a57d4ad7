/-!
Tokens of a pattern: plain characters, and characters behind a backslash. A
backslash at the very end escapes nothing.
-/

namespace ResourceQuery.Pattern

inductive Token
  | plain (c : Char)
  | escaped (c : Char)
  | dangling
  deriving DecidableEq, Repr

def tokens : List Char → List Token
  | [] => []
  | '\\' :: c :: cs => .escaped c :: tokens cs
  | '\\' :: [] => [.dangling]
  | c :: cs => .plain c :: tokens cs

theorem tokens_cons_of_ne {c : Char} (h : c ≠ '\\') (s : List Char) :
    tokens (c :: s) = .plain c :: tokens s := by
  rw [tokens]
  · rintro _ _ rfl
    exact absurd rfl h
  · rintro rfl
    exact absurd rfl h

def Token.chars : Token → List Char
  | .plain c => [c]
  | .escaped c => ['\\', c]
  | .dangling => ['\\']

@[simp] theorem flatMap_chars_tokens (s : List Char) : (tokens s).flatMap Token.chars = s := by
  fun_induction tokens s <;> simp_all [Token.chars]

/-- What is left of a list of tokens after some of them have been read. -/
abbrev Rest (ts : List Token) := { rest : List Token // rest.length ≤ ts.length }

namespace Rest

def all (ts : List Token) : Rest ts := ⟨ts, Nat.le_refl _⟩

def tail {t : Token} {ts : List Token} (r : Rest ts) : Rest (t :: ts) :=
  ⟨r.1, Nat.le_succ_of_le r.2⟩

def trans {ts : List Token} (r : Rest ts) (q : Rest r.1) : Rest ts := ⟨q.1, Nat.le_trans q.2 r.2⟩

end Rest

def takePlain (p : Char → Bool) : Nat → (ts : List Token) → List Char × Rest ts
  | n + 1, .plain c :: ts =>
    if p c then
      let (cs, r) := takePlain p n ts
      (c :: cs, r.tail)
    else ([], Rest.all _)
  | _, ts => ([], Rest.all ts)

def skipPast (stop : Char) : (ts : List Token) → Option (Rest ts)
  | [] => none
  | t :: ts => if t = .plain stop then some (Rest.all ts).tail else (skipPast stop ts).map Rest.tail

def takeUntil (stop : Char) : (ts : List Token) → Option (List Char × Rest ts)
  | [] => none
  | t :: ts =>
    if t = .plain stop then some ([], (Rest.all ts).tail)
    else (takeUntil stop ts).map fun (cs, r) => (t.chars ++ cs, r.tail)

end ResourceQuery.Pattern
