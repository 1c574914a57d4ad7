import ResourceQuery.Pattern.Reader

/-!
The way of the reader through a pattern, step by step: where it comes, reading goes on from there.
Groups that stand in each other take up its room, and end it when there is none left.
-/

namespace ResourceQuery.Pattern

open State

theorem tokens_replicate_append {c : Char} (h : c ≠ '\\') (n : Nat) (s : List Char) :
    tokens (List.replicate n c ++ s) = List.replicate n (Token.plain c) ++ tokens s := by
  induction n with
  | zero => rfl
  | succ n ih =>
    rw [List.replicate_succ, List.cons_append, tokens_cons_of_ne h, ih]
    rfl

def nested (n : Nat) : List Char := List.replicate n '(' ++ List.replicate n ')'

@[simp] theorem length_nested (n : Nat) : (nested n).length = 2 * n := by
  rw [nested, List.length_append, List.length_replicate, List.length_replicate, Nat.two_mul]

theorem readItem_opening {st : State} {ts : List Token} (plain : st.frame.verbose = false)
    (other : ts.head? ≠ some (.plain '?')) :
    readItem st (.plain '(') ts =
      .ok ({ st with groups := st.groups ++ [none] }.enter (.capture (st.groups.length + 1)) false,
        Rest.all ts) := by
  have group : readGroup st ts = (st.enterCapture none).map (·, Rest.all ts) := by
    unfold readGroup
    split
    · exact absurd rfl other
    · rfl
  simp only [readItem, plain, Bool.false_eq_true, false_and, if_false, group]
  rw [enterCapture, plain]
  rfl

variable [Platform]

def step (st : State) (t : Token) (ts : List Token) : Except Fault (State × Rest ts) :=
  if t = .plain '|' then st.branch.map (·, Rest.all ts)
  else if t = .plain ')' then
    match st.outer with
    | [] => .error (unopened st)
    | around :: outer => .ok (st.close around outer, Rest.all ts)
  else
    (readItem st t ts).bind fun p =>
      if Platform.room < p.1.depth then .error .nestedTooDeep else .ok p

theorem readFrom_cons (st : State) (t : Token) (ts : List Token) :
    readFrom st (t :: ts) = (step st t ts).bind fun p => readFrom p.1 p.2.1 := by
  rw [readFrom, step]
  split
  · cases st.branch <;> rfl
  split
  · cases st.outer <;> rfl
  · cases readItem st t ts with
    | error e => rfl
    | ok p =>
      obtain ⟨st', r⟩ := p
      simp only [Except.bind]
      split <;> rfl

/-- The reader comes, from some tokens, to others. -/
inductive Reaches : State → List Token → State → List Token → Prop
  | start (st : State) (ts : List Token) : Reaches st ts st ts
  | step {st st' last : State} {t : Token} {ts rest : List Token} {r : Rest ts}
      (taken : step st t ts = .ok (st', r)) (later : Reaches st' r.1 last rest) :
      Reaches st (t :: ts) last rest

theorem Reaches.forall_nil {P : State → List Token → Prop} {st : State} (here : P st []) :
    ∀ last rest, Reaches st [] last rest → P last rest := by
  rintro _ _ ⟨⟩
  exact here

theorem Reaches.forall_cons {P : State → List Token → Prop} {st st' : State} {t : Token}
    {ts : List Token} {r : Rest ts} (here : P st (t :: ts))
    (taken : Pattern.step st t ts = .ok (st', r))
    (later : ∀ last rest, Reaches st' r.1 last rest → P last rest) :
    ∀ last rest, Reaches st (t :: ts) last rest → P last rest := by
  intro last rest h
  cases h with
  | start => exact here
  | step taken' h =>
    cases taken.symm.trans taken'
    exact later _ _ h

theorem Reaches.readFrom_eq {st last : State} {ts rest : List Token}
    (h : Reaches st ts last rest) : readFrom st ts = readFrom last rest := by
  induction h with
  | start => rfl
  | step taken _ ih =>
    rw [readFrom_cons, taken]
    exact ih

theorem read_of_reaches {s : List Char} {ts : List Token} {last : State} {r : Except Fault Tree}
    (text : tokens s = ts) (h : Reaches {} ts last []) (outer : last.outer = [])
    (complete : last.complete = r) : read s = r := by
  rw [read, text, h.readFrom_eq, readFrom, outer]
  exact complete

theorem readFrom_nested {st : State} {ts : List Token} {n : Nat} (plain : st.frame.verbose = false)
    (other : ts.head? ≠ some (.plain '?')) (fits : st.depth ≤ Platform.room)
    (deep : Platform.room < 2 * n + st.depth) :
    readFrom st (List.replicate n (Token.plain '(') ++ ts) = .error .nestedTooDeep := by
  induction n generalizing st with
  | zero => omega
  | succ n ih =>
    have next : (List.replicate n (Token.plain '(') ++ ts).head? ≠ some (.plain '?') := by
      cases n with
      | zero => exact other
      | succ n => simp [List.replicate_succ]
    rw [List.replicate_succ, List.cons_append, readFrom, if_neg (by decide), if_neg (by decide),
      readItem_opening plain next]
    dsimp only
    have inside (inner : State) (entered : inner.depth = 2 + st.depth)
        (same : inner.frame.verbose = false) :
        (if Platform.room < inner.depth then .error .nestedTooDeep
          else readFrom inner (List.replicate n (Token.plain '(') ++ ts)) =
          (.error .nestedTooDeep : Except Fault Tree) := by
      split
      · rfl
      · exact ih same (by omega) (by omega)
    exact inside _ rfl rfl

theorem read_nested {n : Nat} (deep : Platform.room < 2 * n) :
    read (nested n) = .error .nestedTooDeep := by
  have closed : (tokens (List.replicate n ')')).head? ≠ some (.plain '?') := by
    cases n with
    | zero => nofun
    | succ n => simp [List.replicate_succ, tokens]
  rw [read, nested, tokens_replicate_append (by decide)]
  exact readFrom_nested rfl closed (Nat.zero_le _) deep

end ResourceQuery.Pattern
