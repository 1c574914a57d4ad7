import ResourceQuery.Proofs.PlainPattern

/-!
The search for possessive syntax, token by token. A place tells the class that the scanner is in
and whether it stands right behind a quantifier; only a closing brace needs the text that has
been passed.
-/

namespace ResourceQuery.Pattern

/-- Where the scanner stands in a pattern. -/
inductive Place
  | outside (afterQuantifier : Bool)
  | opened
  | negated
  | inside
  deriving DecidableEq, Repr

def opensAtomic (ts : List Token) : Bool := ts.take 2 = [.plain '?', .plain '>']

namespace Place

def finds : Place → Token → List Token → Bool
  | .outside afterQuantifier, t, ts =>
    t = .plain '+' && afterQuantifier || t = .plain '(' && opensAtomic ts
  | _, _, _ => false

def next (before : List Char) : Place → Token → Place
  | .outside _, .plain c => if c = '[' then .opened else .outside (isQuantifier before c)
  | .outside _, _ => .outside false
  | .opened, t => if t = .plain '^' then .negated else .inside
  | .negated, _ => .inside
  | .inside, t => if t = .plain ']' then .outside false else .inside

end Place

def search : Place → List Char → List Token → Bool
  | _, _, [] => false
  | p, before, t :: ts =>
    p.finds t ts || search (p.next before t) (t.chars.reverse ++ before) ts

theorem search_outside {q : Bool} {c : Char} {before : List Char} {ts : List Token}
    (bracket : c ≠ '[') (unfound : (Place.outside q).finds (.plain c) ts = false) :
    search (.outside q) before (.plain c :: ts) =
      search (.outside (isQuantifier before c)) (c :: before) ts := by
  rw [search, unfound, Place.next, if_neg bracket]
  rfl

theorem search_opened {ts : List Token} (caret : ts.head? ≠ some (.plain '^'))
    (bracket : ts.head? ≠ some (.plain ']')) (before : List Char) :
    search .opened before ts = search .inside before ts := by
  cases ts with
  | nil => rfl
  | cons t ts =>
    have h : t ≠ .plain '^' := fun h => caret (congrArg some h)
    have h' : t ≠ .plain ']' := fun h => bracket (congrArg some h)
    simp only [search, Place.finds, Place.next, if_neg h, if_neg h']

theorem search_negated {ts : List Token} (bracket : ts.head? ≠ some (.plain ']'))
    (before : List Char) : search .negated before ts = search .inside before ts := by
  cases ts with
  | nil => rfl
  | cons t ts =>
    have h : t ≠ .plain ']' := fun h => bracket (congrArg some h)
    simp only [search, Place.finds, Place.next, if_neg h]

theorem head?_tokens_ne {c : Char} {s : List Char} (h : s.head? ≠ some c) :
    (tokens s).head? ≠ some (.plain c) := by
  unfold tokens
  split <;> simp_all

theorem search_classLead (before s : List Char) :
    search .opened before (tokens s) =
      search .inside ((s.take (classLead s)).reverse ++ before)
        (tokens (s.drop (classLead s))) := by
  unfold classLead
  split
  · rfl
  · rename_i s h
    have bracket : (tokens s).head? ≠ some (.plain ']') := by
      refine head?_tokens_ne fun hs => ?_
      obtain ⟨s', rfl⟩ := List.head?_eq_some_iff.1 hs
      exact h s' rfl
    exact search_negated bracket ('^' :: before)
  · rfl
  · rename_i caret bracket
    refine search_opened (head?_tokens_ne fun hs => ?_) (head?_tokens_ne fun hs => ?_) before
    · obtain ⟨s', rfl⟩ := List.head?_eq_some_iff.1 hs
      exact caret s' rfl
    · obtain ⟨s', rfl⟩ := List.head?_eq_some_iff.1 hs
      exact bracket s' rfl

theorem opensAtomic_tokens (s : List Char) :
    opensAtomic (tokens s) = ['?', '>'].isPrefixOf s := by
  rw [Bool.eq_iff_iff, List.isPrefixOf_iff_prefix]
  constructor
  · intro h
    have text := flatMap_chars_tokens s
    rw [← List.take_append_drop 2 (tokens s), of_decide_eq_true h] at text
    exact ⟨((tokens s).drop 2).flatMap Token.chars, text⟩
  · rintro ⟨s, rfl⟩
    rfl

theorem scanPossessive_eq_search (inClass afterQuantifier : Bool) (before s : List Char) :
    scanPossessive inClass afterQuantifier before s =
      search (if inClass then .inside else .outside afterQuantifier) before (tokens s) := by
  -- the scanner takes the lead of a class at once, the search token by token
  fun_induction scanPossessive inClass afterQuantifier before s with
  | case1 => rfl
  | case2 inClass => cases inClass <;> rfl
  | case3 inClass _ _ _ _ ih => cases inClass <;> exact ih
  | case4 _ _ c s backslash ih =>
    rw [tokens_cons_of_ne backslash, ih]
    by_cases bracket : c = ']'
    · rw [bracket]
      rfl
    · simp [search, Place.finds, Place.next, Token.chars, bracket]
  | case5 inClass _ before s outside _ ih =>
    rw [ih, if_neg outside, tokens_cons_of_ne (by decide)]
    exact (search_classLead ('[' :: before) s).symm
  | case6 _ _ _ c s backslash outside _ found =>
    rw [if_neg outside, tokens_cons_of_ne backslash]
    simp [search, Place.finds, found]
  | case7 _ _ _ c s backslash outside _ _ found =>
    rw [if_neg outside, tokens_cons_of_ne backslash]
    simp [search, Place.finds, found, opensAtomic_tokens]
  | case8 _ afterQuantifier _ c s backslash outside bracket plus atomic ih =>
    have unfound : (Place.outside afterQuantifier).finds (.plain c) (tokens s) = false := by
      rw [Place.finds, opensAtomic_tokens, Bool.or_eq_false_iff]
      exact ⟨by simpa using plus, by simpa [-List.isPrefixOf_iff_prefix] using atomic⟩
    rw [if_neg outside, tokens_cons_of_ne backslash, ih]
    exact (search_outside bracket unfound).symm

theorem hasPossessiveSyntax_eq_search (s : List Char) :
    hasPossessiveSyntax s = search (.outside false) [] (tokens s) :=
  scanPossessive_eq_search false false [] s

/-! ### Counts -/

def isCountPart (c : Char) : Bool := c.isDigit || c = ','

def opensCount : List Char → Bool
  | '\x7b' :: '\\' :: _ => false
  | '\x7b' :: _ => true
  | _ => false

theorem opensCount_brace_iff {before : List Char} :
    opensCount ('\x7b' :: before) = true ↔ before.head? ≠ some '\\' := by
  cases before with
  | nil => simp [opensCount]
  | cons c before =>
    by_cases backslash : c = '\\'
    · simp [opensCount, backslash]
    · simp [opensCount, backslash]

theorem closesCount_append {d : List Char} (hd : ∀ c ∈ d, isCountPart c = true)
    {before : List Char} (hb : ∀ c ∈ before.head?, isCountPart c = false) :
    closesCount (d ++ before) =
      (opensCount before && d.count ',' ≤ 1 && d.any Char.isDigit) := by
  have inside : (d ++ before).takeWhile isCountPart = d := by
    rw [List.takeWhile_append_of_pos hd]
    cases before with
    | nil => rw [List.takeWhile_nil, List.append_nil]
    | cons c before =>
      rw [List.takeWhile_cons_of_neg (by simp [hb c rfl]), List.append_nil]
  change (match (d ++ before).drop ((d ++ before).takeWhile isCountPart).length with
    | '\x7b' :: '\\' :: _ => false
    | '\x7b' :: _ => ((d ++ before).takeWhile isCountPart).count ',' ≤ 1 &&
        ((d ++ before).takeWhile isCountPart).any Char.isDigit
    | _ => false) = _
  rw [inside, List.drop_left, opensCount.eq_def]
  split <;> rfl

theorem closesCount_reverse {d : List Char} (hd : ∀ c ∈ d, isCountPart c = true)
    {before : List Char} (hb : ∀ c ∈ before.head?, isCountPart c = false) :
    closesCount (d.reverse ++ before) =
      (opensCount before && d.count ',' ≤ 1 && d.any Char.isDigit) := by
  rw [closesCount_append (fun c hc => hd c (List.mem_reverse.1 hc)) hb, List.count_reverse,
    List.any_reverse]

def NoCount (before : List Char) : Prop :=
  ∀ d : List Char, (∀ c ∈ d, isCountPart c = true) → closesCount (d ++ before) = false

theorem NoCount.reverse {before d : List Char} (h : NoCount before)
    (hd : ∀ c ∈ d, isCountPart c = true) : closesCount (d.reverse ++ before) = false :=
  h _ fun c hc => hd c (List.mem_reverse.1 hc)

@[simp] theorem noCount_nil : NoCount [] := by
  intro d hd
  rw [closesCount_append hd (by simp)]
  rfl

theorem noCount_of_break {c : Char} (hc : isCountPart c = false) (brace : c ≠ '\x7b')
    (before : List Char) : NoCount (c :: before) := by
  intro d hd
  have opens : opensCount (c :: before) = false := by simp [opensCount, brace]
  rw [closesCount_append hd (by simpa using hc), opens]
  rfl

theorem NoCount.cons {c : Char} (brace : c ≠ '\x7b') {before : List Char} (h : NoCount before) :
    NoCount (c :: before) := by
  intro d hd
  cases hc : isCountPart c with
  | false => exact noCount_of_break hc brace before d hd
  | true =>
    have := h (d ++ [c]) (List.forall_mem_append.2 ⟨hd, by simpa using hc⟩)
    rwa [List.append_assoc] at this

theorem noCount_escaped (c : Char) (before : List Char) : NoCount (c :: '\\' :: before) := by
  by_cases brace : c = '\x7b'
  · intro d hd
    rw [brace, closesCount_append hd (by simp [isCountPart])]
    rfl
  · exact .cons brace (noCount_of_break (by decide) (by decide) before)

def CountsAlike (a b : List Char) : Prop :=
  (a.head? = some '\\' ↔ b.head? = some '\\') ∧
    ∀ d : List Char, (∀ c ∈ d, isCountPart c = true) → closesCount (d ++ a) = closesCount (d ++ b)

theorem NoCount.countsAlike {a b : List Char} (ha : NoCount a) (hb : NoCount b)
    (head : a.head? = some '\\' ↔ b.head? = some '\\') : CountsAlike a b :=
  ⟨head, fun d hd => (ha d hd).trans (hb d hd).symm⟩

theorem CountsAlike.cons {a b : List Char} (h : CountsAlike a b) (c : Char) :
    CountsAlike (c :: a) (c :: b) := by
  refine ⟨Iff.rfl, fun d hd => ?_⟩
  cases hc : isCountPart c with
  | true =>
    have := h.2 (d ++ [c]) (List.forall_mem_append.2 ⟨hd, by simpa using hc⟩)
    rwa [List.append_assoc, List.append_assoc] at this
  | false =>
    have opens : opensCount (c :: a) = opensCount (c :: b) := by
      by_cases brace : c = '\x7b'
      · rw [brace, Bool.eq_iff_iff, opensCount_brace_iff, opensCount_brace_iff, Ne, h.1]
      · simp [opensCount, brace]
    rw [closesCount_append hd (by simpa using hc), closesCount_append hd (by simpa using hc), opens]

theorem CountsAlike.append {a b : List Char} (h : CountsAlike a b) (d : List Char) :
    CountsAlike (d ++ a) (d ++ b) := by
  induction d with
  | nil => exact h
  | cons c d ih => exact ih.cons c

theorem CountsAlike.next_eq {a b : List Char} (h : CountsAlike a b) (p : Place) (t : Token) :
    p.next a t = p.next b t := by
  have close : closesCount a = closesCount b := h.2 [] nofun
  cases p <;> cases t <;> simp only [Place.next, isQuantifier, close]

theorem search_congr {a b : List Char} (h : CountsAlike a b) (p : Place) (ts : List Token) :
    search p a ts = search p b ts := by
  induction ts generalizing p a b with
  | nil => rfl
  | cons t ts ih => rw [search, search, h.next_eq p t, ih (h.append _)]

end ResourceQuery.Pattern
