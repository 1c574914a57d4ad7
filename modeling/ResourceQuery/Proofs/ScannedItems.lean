import ResourceQuery.Proofs.GroupOpenings
import ResourceQuery.Proofs.PossessiveScan

/-!
The items of a pattern as the scanner passes them. Behind an escape, a class or the opening of
a group it stands where it would stand at the start: behind no quantifier, with no count open
and nothing escaped.
-/

namespace ResourceQuery.Pattern

variable {before : List Char}

theorem search_escaped (q : Bool) (before : List Char) (c : Char) (rest : List Token) :
    search (.outside q) before (.escaped c :: rest) =
      search (.outside false) (c :: '\\' :: before) rest := rfl

theorem search_calm {c : Char} (hc : isCalm c = true) (q : Bool) (before : List Char)
    (rest : List Token) :
    search (.outside q) before (.plain c :: rest) = search (.outside false) (c :: before) rest := by
  have star : c ≠ '*' := ne_of_isCalm hc (by decide)
  have plus : c ≠ '+' := ne_of_isCalm hc (by decide)
  have mark : c ≠ '?' := ne_of_isCalm hc (by decide)
  have brace : c ≠ '\x7d' := ne_of_isCalm hc (by decide)
  have parenthesis : c ≠ '(' := ne_of_isCalm hc (by decide)
  have quantifier : isQuantifier before c = false := by simp [isQuantifier, *]
  rw [search_outside (ne_of_isCalm hc (by decide)) (by simp [Place.finds, *]), quantifier]

theorem search_calm_run {cs : List Char} (h : ∀ c ∈ cs, isCalm c = true) (before : List Char)
    (rest : List Token) :
    search (.outside false) before (cs.map .plain ++ rest) =
      search (.outside false) (cs.reverse ++ before) rest := by
  induction cs generalizing before with
  | nil => rfl
  | cons c cs ih =>
    obtain ⟨hc, hcs⟩ := List.forall_mem_cons.1 h
    rw [List.map_cons, List.cons_append, search_calm hc, ih hcs, List.reverse_cons,
      List.append_assoc]
    rfl

/-- A text behind which no count is open and nothing is escaped. -/
structure Settled (before : List Char) : Prop where
  noCount : NoCount before
  head : before.head? ≠ some '\\'

theorem Settled.calm {c : Char} (hc : isCalm c = true) (h : Settled before) :
    Settled (c :: before) :=
  ⟨h.noCount.cons (ne_of_isCalm hc (by decide)),
    fun head => ne_of_isCalm hc (by decide) (Option.some.inj head)⟩

theorem Settled.calm_run {cs : List Char} (hcs : ∀ c ∈ cs, isCalm c = true) (h : Settled before) :
    Settled (cs.reverse ++ before) := by
  induction cs generalizing before with
  | nil => exact h
  | cons c cs ih =>
    obtain ⟨hc, hcs⟩ := List.forall_mem_cons.1 hcs
    rw [List.reverse_cons, List.append_assoc]
    exact ih hcs (h.calm hc)

theorem settled_of_break {c : Char} (hc : isCountPart c = false ∧ c ≠ '\x7b' ∧ c ≠ '\\')
    (before : List Char) : Settled (c :: before) :=
  ⟨noCount_of_break hc.1 hc.2.1 before, fun head => hc.2.2 (Option.some.inj head)⟩

theorem search_inside {body : List Token} (h : .plain ']' ∉ body) (before : List Char)
    (rest : List Token) :
    ∃ before', search .inside before (body ++ .plain ']' :: rest) =
      search (.outside false) (']' :: before') rest := by
  induction body generalizing before with
  | nil => exact ⟨before, rfl⟩
  | cons t body ih =>
    obtain ⟨ht, hbody⟩ := not_or.1 (mt List.mem_cons.2 h)
    obtain ⟨before', hsearch⟩ := ih hbody (t.chars.reverse ++ before)
    refine ⟨before', hsearch ▸ ?_⟩
    rw [List.cons_append, search, Place.next, if_neg (Ne.symm ht)]
    rfl

theorem opensAtomic_append {c : Char} (mark : c ≠ '?') (angle : c ≠ '>') (ts rest : List Token) :
    opensAtomic (ts ++ .plain c :: rest) = opensAtomic ts := by
  match ts with
  | [] => simp [opensAtomic, mark]
  | [t] => cases t <;> simp [opensAtomic, angle]
  | t :: u :: ts => rfl

theorem search_comment {body : List Token} (h : .plain '[' ∉ body) {stop : Char}
    (hstop : isCalm stop = true) (angle : stop ≠ '>') (q : Bool) (before : List Char)
    (rest : List Token) :
    ∃ before', search (.outside q) before (body ++ .plain stop :: rest) =
      (search (.outside q) before body || search (.outside false) (stop :: before') rest) := by
  induction body generalizing q before with
  | nil => exact ⟨before, search_calm hstop q before rest⟩
  | cons t body ih =>
    obtain ⟨ht, hbody⟩ := not_or.1 (mt List.mem_cons.2 h)
    have opens := opensAtomic_append (ne_of_isCalm hstop (by decide)) angle body rest
    obtain ⟨q', hq⟩ : ∃ q', (Place.outside q).next before t = .outside q' := by
      cases t with
      | plain c => exact ⟨_, if_neg fun hc => ht (by rw [hc])⟩
      | _ => exact ⟨_, rfl⟩
    obtain ⟨before', hsearch⟩ := ih hbody q' (t.chars.reverse ++ before)
    refine ⟨before', ?_⟩
    simp only [List.cons_append, search, hq, hsearch, Place.finds, opens, Bool.or_assoc]

def GoesOn (q : Bool) (before : List Char) (ts rest : List Token) : Prop :=
  ∃ before', Settled before' ∧
    search (.outside q) before ts = search (.outside false) before' rest

def Passes (ts rest : List Token) : Prop := ∀ q before, GoesOn q before ts rest

theorem goesOn_of_calmRun {ts rest : List Token} (run : CalmRun ts rest) {before : List Char}
    (settled : Settled before) : GoesOn false before ts rest := by
  obtain ⟨cs, rfl, hcs⟩ := run
  exact ⟨_, settled.calm_run hcs, search_calm_run hcs before rest⟩

theorem isCountPart_of_isAlpha {c : Char} (h : c.isAlpha = true) : isCountPart c = false := by
  have comma : c ≠ ',' := by
    rintro rfl
    exact absurd h (by decide)
  have digit : c.isDigit = false := by
    refine Bool.eq_false_iff.2 fun digit => ?_
    have high : c.val ≤ 57 := of_decide_eq_true (Bool.and_eq_true_iff.1 digit).2
    rcases Bool.or_eq_true_iff.1 h with upper | lower
    · have low : 65 ≤ c.val := (of_decide_eq_true upper).1
      exact absurd (UInt32.le_trans low high) (by decide)
    · have low : 97 ≤ c.val := of_decide_eq_true (Bool.and_eq_true_iff.1 lower).1
      exact absurd (UInt32.le_trans low high) (by decide)
  simp [isCountPart, comma, digit]

theorem noCount_of_isSpelled {name : List Char} (h : Text.isSpelled name = true)
    (before : List Char) : NoCount (name.reverse ++ before) := by
  obtain ⟨letter, mem, alpha⟩ := List.any_eq_true.1 (Bool.and_eq_true_iff.1 h).2
  have calm := isCalm_of_isSpelled h
  have hletter : isCalm letter = true := calm letter mem
  obtain ⟨a, b, rfl⟩ := List.append_of_mem mem
  have settled : Settled (letter :: (a.reverse ++ before)) :=
    settled_of_break ⟨isCountPart_of_isAlpha alpha, ne_of_isCalm hletter (by decide),
      ne_of_isCalm hletter (by decide)⟩ _
  have later : ∀ c ∈ b, isCalm c = true := fun c hc => calm c (by simp [hc])
  simpa using (settled.calm_run later).noCount

theorem passes_escape {c : Char} (hc : c ≠ '\\') {ts rest : List Token}
    (run : EscapeRun ts rest) : Passes (.escaped c :: ts) rest := by
  intro q before
  have settled : Settled (c :: '\\' :: before) :=
    ⟨noCount_escaped c before, fun head => hc (Option.some.inj head)⟩
  rw [GoesOn, search_escaped]
  obtain run | ⟨name, spelled, rfl⟩ := run
  · exact goesOn_of_calmRun run settled
  · have closes : isQuantifier (name.reverse ++ '\x7b' :: c :: '\\' :: before) '\x7d' = false :=
      noCount_of_isSpelled spelled _ [] nofun
    have settled : Settled ('\x7d' :: (name.reverse ++ '\x7b' :: c :: '\\' :: before)) :=
      settled_of_break (by decide) _
    refine ⟨_, settled, ?_⟩
    rw [search_outside (by decide) rfl]
    change search (.outside false) _ _ = _
    rw [search_calm_run (isCalm_of_isSpelled spelled), search_outside (by decide) rfl, closes]

theorem passes_class {ts rest : List Token} (run : ClassRun ts rest) :
    Passes (.plain '[' :: ts) rest := by
  intro q before
  have settled (before : List Char) : Settled (']' :: before) :=
    settled_of_break (by decide) before
  cases run with
  | @negated first mid _ run =>
    obtain ⟨body, rfl, closed⟩ := run
    obtain ⟨before', hsearch⟩ :=
      search_inside closed (first.chars.reverse ++ '^' :: '[' :: before) rest
    exact ⟨_, settled before', hsearch⟩
  | @unnegated first caret mid _ run =>
    obtain ⟨body, rfl, closed⟩ := run
    obtain ⟨before', hsearch⟩ := search_inside closed (first.chars.reverse ++ '[' :: before) rest
    refine ⟨_, settled before', ?_⟩
    rw [← hsearch]
    change search (if first = .plain '^' then .negated else .inside) _ _ = _
    rw [if_neg caret]
    rfl

theorem settled_parenthesis (before : List Char) : Settled ('(' :: before) :=
  settled_of_break (by decide) before

theorem search_parenthesis {ts : List Token} (h : opensAtomic ts = false) (q : Bool)
    (before : List Char) :
    search (.outside q) before (.plain '(' :: ts) = search (.outside false) ('(' :: before) ts := by
  have unfound : (Place.outside q).finds (.plain '(') ts = false := by
    rw [Place.finds, h, Bool.and_false, Bool.or_false]
    rfl
  exact search_outside (by decide) unfound

theorem opensAtomic_of_head? {ts : List Token} (h : ts.head? ≠ some (.plain '?')) :
    opensAtomic ts = false := by
  cases ts with
  | nil => rfl
  | cons t ts =>
    have mark : t ≠ .plain '?' := fun ht => h (congrArg some ht)
    simp [opensAtomic, mark]

theorem CalmRun.opensAtomic_eq {ts rest : List Token} (run : CalmRun ts rest)
    (h : rest.head? ≠ some (.plain '?')) : opensAtomic ts = false := by
  obtain ⟨cs, rfl, hcs⟩ := run
  refine opensAtomic_of_head? ?_
  cases cs with
  | nil => exact h
  | cons c cs =>
    have mark : c ≠ '?' := ne_of_isCalm (hcs c (by simp)) (by decide)
    simpa using mark

theorem passes_capture {ts : List Token} (h : ts.head? ≠ some (.plain '?')) :
    Passes (.plain '(' :: ts) ts := fun q before =>
  ⟨_, settled_parenthesis before, search_parenthesis (opensAtomic_of_head? h) q before⟩

theorem goesOn_of_calm {c : Char} (hc : isCalm c = true) {ts rest : List Token}
    (run : CalmRun ts rest) (q : Bool) {before : List Char} (settled : Settled before) :
    GoesOn q before (.plain c :: ts) rest := by
  rw [GoesOn, search_calm hc]
  exact goesOn_of_calmRun run (settled.calm hc)

theorem passes_extension {ts rest : List Token} (run : ExtensionRun ts rest) :
    Passes (.plain '(' :: .plain '?' :: ts) rest := by
  intro q before
  have atomic : opensAtomic (.plain '?' :: ts) = false := by
    cases run with
    | calm hc angle run => simp [opensAtomic, angle]
    | choice hc run => rfl
    | signedChoice hc before run => rfl
  have settled : Settled ('?' :: '(' :: before) := settled_of_break (by decide) _
  have question : search (.outside q) before (.plain '(' :: .plain '?' :: ts) =
      search (.outside true) ('?' :: '(' :: before) ts := by
    rw [search_parenthesis atomic, search_outside (by decide) rfl]
    rfl
  rw [GoesOn, question]
  cases run with
  | calm hc _ run => exact goesOn_of_calm hc run true settled
  | @choice c hc ts _ run =>
    have mark : c ≠ '?' := ne_of_isCalm hc (by decide)
    rw [search_parenthesis (opensAtomic_of_head? (by simpa using mark))]
    exact goesOn_of_calm hc run false (settled_parenthesis _)
  | signedChoice hc blanks run =>
    rw [search_parenthesis (blanks.opensAtomic_eq (by simp))]
    -- the sign stands behind no quantifier, and the digit behind it makes up for it
    obtain ⟨before', -, sign⟩ :=
      goesOn_of_calmRun blanks (settled_parenthesis ('?' :: '(' :: before))
    rw [sign, search_outside (by decide) rfl]
    exact goesOn_of_calm hc run _ (settled_of_break (by decide) before')

/-! ### Counts -/

theorem isCountPart_of_isDigit {c : Char} (h : c.isDigit = true) : isCountPart c = true := by
  rw [isCountPart, h, Bool.true_or]

theorem count_comma_of_digits {cs : List Char} (h : ∀ c ∈ cs, c.isDigit = true) :
    cs.count ',' = 0 :=
  List.count_eq_zero.2 fun comma => absurd (h _ comma) (by decide)

theorem any_of_digits {cs : List Char} (h : ∀ c ∈ cs, c.isDigit = true) (hne : cs ≠ []) :
    cs.any Char.isDigit = true := by
  cases cs with
  | nil => exact absurd rfl hne
  | cons c cs => rw [List.any_cons, h c (by simp), Bool.true_or]

structure IsBounds (d : List Char) : Prop where
  parts : ∀ c ∈ d, isCountPart c = true
  comma : d.count ',' ≤ 1
  digit : d.any Char.isDigit = true ∨ d = [',']

theorem isBounds_of_digits {d : List Char} (h : ∀ c ∈ d, c.isDigit = true) (hne : d ≠ []) :
    IsBounds d where
  parts c hc := isCountPart_of_isDigit (h c hc)
  comma := by
    rw [count_comma_of_digits h]
    decide
  digit := .inl (any_of_digits h hne)

theorem isBounds_of_comma {low high : List Char} (hlow : ∀ c ∈ low, c.isDigit = true)
    (hhigh : ∀ c ∈ high, c.isDigit = true) : IsBounds (low ++ ',' :: high) where
  parts := by
    have high_parts := fun c hc => isCountPart_of_isDigit (hhigh c hc)
    exact List.forall_mem_append.2 ⟨fun c hc => isCountPart_of_isDigit (hlow c hc),
      List.forall_mem_cons.2 ⟨by decide, high_parts⟩⟩
  comma := by
    rw [List.count_append, List.count_cons_self, count_comma_of_digits hlow,
      count_comma_of_digits hhigh]
  digit := by
    rw [List.any_append, List.any_cons]
    by_cases low_empty : low = []
    · by_cases high_empty : high = []
      · exact .inr (by rw [low_empty, high_empty]; rfl)
      · exact .inl (by rw [any_of_digits hhigh high_empty, Bool.or_true, Bool.or_true])
    · exact .inl (by rw [any_of_digits hlow low_empty, Bool.true_or])

theorem readBounds?_eq_some {ts : List Token} {low high : List Char} {r : Rest ts}
    (h : readBounds? ts = some (low, high, r)) :
    ∃ d : List Char, ts = d.map .plain ++ .plain '\x7d' :: r.1 ∧ IsBounds d := by
  unfold readBounds? at h
  split at h
  · cases h
  rename_i brace
  have low_eq := takePlain_eq Char.isDigit ts.length ts
  have low_digits := takePlain_all Char.isDigit ts.length ts
  dsimp only at h
  split at h
  · rename_i rest _ low_rest
    have high_eq := takePlain_eq Char.isDigit rest.length rest
    have high_digits := takePlain_all Char.isDigit rest.length rest
    split at h
    · rename_i rest' _ high_rest
      cases h
      generalize (takePlain Char.isDigit ts.length ts).1 = low at *
      generalize (takePlain Char.isDigit rest.length rest).1 = high at *
      rw [low_rest] at low_eq
      rw [high_rest] at high_eq
      have text : ts =
          low.map .plain ++ .plain ',' :: (high.map .plain ++ .plain '\x7d' :: rest') :=
        low_eq.trans (congrArg (low.map .plain ++ .plain ',' :: ·) high_eq)
      exact ⟨low ++ ',' :: high, by simpa using text, isBounds_of_comma low_digits high_digits⟩
    · cases h
  · rename_i rest _ low_rest
    cases h
    generalize (takePlain Char.isDigit ts.length ts).1 = low at *
    rw [low_rest] at low_eq
    refine ⟨low, low_eq, isBounds_of_digits low_digits fun empty => brace ?_⟩
    rw [low_eq, empty]
    rfl
  · cases h

theorem digits_of_countParts {d : List Char} (hd : ∀ c ∈ d, isCountPart c = true)
    (comma : ',' ∉ d) : ∀ c ∈ d, c.isDigit = true := by
  intro c hc
  have part := hd c hc
  rw [isCountPart, Bool.or_eq_true, decide_eq_true_eq] at part
  exact part.resolve_right fun h => comma (h ▸ hc)

theorem readBounds?_ne_none {d : List Char} (hd : ∀ c ∈ d, isCountPart c = true)
    (comma : d.count ',' ≤ 1) (digit : d.any Char.isDigit = true) {ts rest : List Token}
    (hts : ts = d.map .plain ++ .plain '\x7d' :: rest) : readBounds? ts ≠ none := by
  have brace : ts.head? ≠ some (.plain '\x7d') := by
    cases d with
    | nil => cases digit
    | cons c d =>
      intro brace
      rw [hts] at brace
      cases brace
      exact absurd (hd '\x7d' (by simp)) (by decide)
  rw [readBounds?, if_neg brace]
  by_cases hcomma : ',' ∈ d
  · obtain ⟨low, high, rfl, hlow⟩ := List.eq_append_cons_of_mem hcomma
    obtain ⟨low_parts, high_parts⟩ := List.forall_mem_append.1 hd
    have hhigh : ',' ∉ high := by
      rw [List.count_append, List.count_cons_self] at comma
      exact List.count_eq_zero.1 (by omega)
    obtain ⟨behind, hbehind, split_at⟩ : ∃ behind : List Token,
        behind = high.map .plain ++ .plain '\x7d' :: rest ∧
          ts = low.map .plain ++ .plain ',' :: behind := ⟨_, rfl, by simp [hts]⟩
    have low_length : low.length ≤ ts.length := by
      rw [split_at]
      simp
    obtain ⟨_, first⟩ :=
      takePlain_run (digits_of_countParts low_parts hlow) (by decide) split_at low_length
    have high_digits :=
      digits_of_countParts (fun c hc => high_parts c (List.mem_cons_of_mem _ hc)) hhigh
    have high_length : high.length ≤ behind.length := by
      rw [hbehind]
      simp
    obtain ⟨_, second⟩ := takePlain_run high_digits (by decide) hbehind high_length
    rw [first]
    intro unbounded
    dsimp only at unbounded
    split at unbounded
    · rename_i same
      cases same
      rw [second] at unbounded
      cases unbounded
    · cases unbounded
    · rename_i other _
      exact other _ _ rfl
  · have length : d.length ≤ ts.length := by
      rw [hts]
      simp
    obtain ⟨_, first⟩ :=
      takePlain_run (digits_of_countParts hd hcomma) (by decide) hts length
    rw [first]
    nofun

end ResourceQuery.Pattern
