import ResourceQuery.Proofs.ScannedItems

/-!
The scanner and the reader side by side. Each item of a pattern takes both to the same place, and
neither sees anything possessive there unless the other does; but for counts and comments that the
scanner takes for something else.
-/

namespace ResourceQuery.Pattern

open Outcome State

def CountsPossessively (ts : List Token) : Prop :=
  ∃ inner low high, ∃ r : Rest inner, ts = .plain '\x7b' :: inner ∧
    readBounds? inner = some (low, high, r) ∧ r.1.head? = some (.plain '+')

def IsMisleading (body : List Token) : Prop :=
  .plain '[' ∈ body ∨ search (.outside false) [] body = true

/-- The tokens begin with what the reader and the scanner take differently. -/
inductive IsMisread (st : State) : List Token → Prop
  | unnumbered (rest : List Token) :
      IsMisread st (.plain '\x7b' :: .plain ',' :: .plain '\x7d' :: .plain '+' :: rest)
  | backslash {t : Token} (ht : t.chars.getLast? = some '\\') {ts : List Token}
      (count : CountsPossessively ts) : IsMisread st (t :: ts)
  | comment {body : List Token} (misleading : IsMisleading body) (passed : .plain ')' ∉ body)
      (rest : List Token) :
      IsMisread st (.plain '(' :: .plain '?' :: .plain '#' :: (body ++ .plain ')' :: rest))
  | lineComment (verbose : st.frame.verbose = true) {body : List Token}
      (misleading : IsMisleading body) (passed : .plain '\n' ∉ body) {rest : List Token}
      (ends : rest = [] ∨ rest.head? = some (.plain '\n')) :
      IsMisread st (.plain '#' :: (body ++ rest))

/-- How the reader and the scanner can stand together in front of some tokens. -/
structure Fits (st : State) (q : Bool) (before : List Char) (ts : List Token) : Prop where
  quantified : q = true → st.EndsInRepeat
  uncounted : ∀ (d : List Char) (rest : List Token), (∀ c ∈ d, isCountPart c = true) →
    ts = d.map .plain ++ .plain '\x7d' :: rest → closesCount (d.reverse ++ before) = false
  unescaped : before.head? = some '\\' → ¬CountsPossessively ts
  named : st.IsNamed

variable {st st' : State} {q : Bool} {before : List Char} {ts rest : List Token}

theorem Settled.fits (settled : Settled before) (quantified : q = true → st.EndsInRepeat)
    (named : st.IsNamed) : Fits st q before ts where
  quantified := quantified
  uncounted _ _ hd _ := settled.noCount.reverse hd
  unescaped head := absurd head settled.head
  named := named

/-- The reader has taken a step and the scanner goes on behind it: what the scanner finds and
what the reader has read are together as possessive as before. -/
def Advances (st st' : State) (q : Bool) (before : List Char) (ts rest : List Token) : Prop :=
  ∃ q' before', Fits st' q' before' rest ∧
    (search (.outside q) before ts || st.isPossessive) =
      (search (.outside q') before' rest || st'.isPossessive)

theorem advances_of_passes (h : Passes ts rest) (keeps : st.Keeps st') (named : st.IsNamed) :
    Advances st st' q before ts rest := by
  obtain ⟨before', settled, hsearch⟩ := h q before
  exact ⟨false, before', settled.fits nofun (keeps.isNamed named),
    by rw [hsearch, keeps.isPossessive_eq]⟩

theorem settled_nil : Settled [] := ⟨noCount_nil, nofun⟩

theorem advances_of_found (found : search (.outside q) before ts = true)
    (possessive : st'.isPossessive = true) (named : st'.IsNamed) :
    Advances st st' q before ts rest :=
  ⟨false, [], settled_nil.fits nofun named, by rw [found, possessive, Bool.or_true, Bool.true_or]⟩

/-! ### Items -/

theorem Fits.uncounted_cons {c : Char} (fits : Fits st q before (.plain c :: ts))
    (brace : c ≠ '\x7b') (d : List Char) (rest : List Token)
    (hd : ∀ c ∈ d, isCountPart c = true) (hts : ts = d.map .plain ++ .plain '\x7d' :: rest) :
    closesCount (d.reverse ++ c :: before) = false := by
  cases part : isCountPart c with
  | true =>
    have longer := fits.uncounted (c :: d) rest (List.forall_mem_cons.2 ⟨part, hd⟩) (by simp [hts])
    simpa using longer
  | false => exact (noCount_of_break part brace before).reverse hd

theorem advances_plain {c : Char} (hc : c ∉ ['[', '(', '*', '+', '?', '\x7b'])
    (fits : Fits st q before (.plain c :: ts)) (clear : ¬IsMisread st (.plain c :: ts))
    (keeps : st.Keeps st') : Advances st st' q before (.plain c :: ts) ts := by
  simp only [List.mem_cons, List.not_mem_nil, or_false, not_or] at hc
  obtain ⟨bracket, parenthesis, star, plus, mark, brace⟩ := hc
  have quantifier : isQuantifier before c = false := by
    by_cases close : c = '\x7d'
    · have closes : closesCount before = false :=
        fits.uncounted [] ts (List.forall_mem_nil _) (by rw [close]; rfl)
      simp [isQuantifier, star, plus, mark, closes]
    · simp [isQuantifier, star, plus, mark, close]
  have unfound : (Place.outside q).finds (.plain c) ts = false := by
    simp [Place.finds, plus, parenthesis]
  refine ⟨false, c :: before, ⟨fun quantified => absurd quantified Bool.false_ne_true,
    fits.uncounted_cons brace, fun head count => ?_, keeps.isNamed fits.named⟩, ?_⟩
  · exact clear (.backslash (t := .plain c) head count)
  · rw [search_outside bracket unfound, quantifier, keeps.isPossessive_eq]

theorem advances_brace (fits : Fits st q before (.plain '\x7b' :: ts))
    (unbounded : readBounds? ts = none) (keeps : st.Keeps st') :
    Advances st st' q before (.plain '\x7b' :: ts) ts := by
  refine ⟨false, '\x7b' :: before, ⟨nofun, fun d rest hd hts => ?_, nofun,
    keeps.isNamed fits.named⟩, ?_⟩
  · rw [closesCount_reverse hd (by simp [isCountPart])]
    by_contra closes
    rw [Bool.not_eq_false, Bool.and_eq_true, Bool.and_eq_true, decide_eq_true_eq] at closes
    exact readBounds?_ne_none hd closes.1.2 closes.2 hts unbounded
  · rw [search_outside (by decide) rfl, keeps.isPossessive_eq]
    rfl

theorem advances_quantified (h : Quantified st st' ts rest) (ends : st'.EndsInRepeat)
    (settled : Settled before) (named : st.IsNamed)
    (noticed : ts.head? = some (.plain '+') → q = true) : Advances st st' q before ts rest := by
  cases h with
  | possessive found names rest =>
    obtain rfl := noticed rfl
    exact advances_of_found rfl found (names named)
  | lazy keeps rest =>
    have settled : Settled ('?' :: before) := settled_of_break (by decide) before
    refine ⟨true, _, settled.fits (fun _ => ends) (keeps.isNamed named), ?_⟩
    rw [keeps.isPossessive_eq, search_outside (by decide) rfl]
    rfl
  | greedy keeps rest =>
    refine ⟨q, before, settled.fits (fun _ => ends) (keeps.isNamed named), ?_⟩
    rw [keeps.isPossessive_eq]

theorem advances_quantifier {c : Char} (hc : c ∈ ['*', '+', '?']) {least : Nat}
    {most : Option Nat} {r : Rest ts} (h : st.quantify least most ts = .ok (st', r))
    (fits : Fits st q before (.plain c :: ts)) :
    Advances st st' q before (.plain c :: ts) r.1 := by
  obtain ⟨unrepeated, ends, quantified⟩ := quantify_eq_ok h
  have unquantified : q = false := Bool.eq_false_iff.2 (mt fits.quantified unrepeated)
  have settled : Settled (c :: before) := by
    simp only [List.mem_cons, List.not_mem_nil, or_false] at hc
    rcases hc with rfl | rfl | rfl
    all_goals exact settled_of_break (by decide) before
  have passed : search (.outside q) before (.plain c :: ts) =
      search (.outside true) (c :: before) ts := by
    rw [unquantified]
    simp only [List.mem_cons, List.not_mem_nil, or_false] at hc
    rcases hc with rfl | rfl | rfl
    all_goals exact search_outside (by decide) rfl
  rw [Advances, passed]
  exact advances_quantified quantified ends settled fits.named fun _ => rfl

theorem isCalm_of_isCountPart {c : Char} (h : isCountPart c = true) : isCalm c = true :=
  isCalm_of_class (p := isCountPart) (by decide) h

theorem search_count {d : List Char} (parts : ∀ c ∈ d, isCountPart c = true) (q : Bool)
    (before : List Char) (rest : List Token) :
    search (.outside q) before (.plain '\x7b' :: (d.map .plain ++ .plain '\x7d' :: rest)) =
      search (.outside (closesCount (d.reverse ++ '\x7b' :: before)))
        ('\x7d' :: (d.reverse ++ '\x7b' :: before)) rest := by
  have calm := fun c hc => isCalm_of_isCountPart (parts c hc)
  rw [search_outside (by decide) rfl]
  change search (.outside false) _ _ = _
  rw [search_calm_run calm, search_outside (by decide) rfl]
  rfl

theorem advances_count {d : List Char} (bounds : IsBounds d) {inner : List Token}
    (quantified : Quantified st st' inner rest) (ends : st'.EndsInRepeat)
    (fits : Fits st q before (.plain '\x7b' :: (d.map .plain ++ .plain '\x7d' :: inner)))
    (clear : ¬IsMisread st (.plain '\x7b' :: (d.map .plain ++ .plain '\x7d' :: inner)))
    (count : inner.head? = some (.plain '+') →
      CountsPossessively (.plain '\x7b' :: (d.map .plain ++ .plain '\x7d' :: inner))) :
    Advances st st' q before (.plain '\x7b' :: (d.map .plain ++ .plain '\x7d' :: inner)) rest := by
  have settled : Settled ('\x7d' :: (d.reverse ++ '\x7b' :: before)) :=
    settled_of_break (by decide) _
  rw [Advances, search_count bounds.parts]
  refine advances_quantified quantified ends settled fits.named fun plus => ?_
  have opens : opensCount ('\x7b' :: before) = true :=
    opensCount_brace_iff.2 fun head => fits.unescaped head (count plus)
  have number : d.any Char.isDigit = true := by
    refine bounds.digit.resolve_right fun alone => ?_
    obtain ⟨inner, rfl⟩ := List.head?_eq_some_iff.1 plus
    subst alone
    exact clear (.unnumbered inner)
  rw [closesCount_reverse bounds.parts (by simp [isCountPart]), opens,
    decide_eq_true bounds.comma, number]
  rfl

theorem readBraces_eq_ok {r : Rest ts} (h : readBraces st ts = .ok (st', r)) :
    readBounds? ts = none ∧ r.1 = ts ∧ st.Keeps st' ∨
      ∃ low high, ∃ inner : Rest ts, readBounds? ts = some (low, high, inner) ∧
        st'.EndsInRepeat ∧ Quantified st st' inner.1 r.1 := by
  unfold readBraces at h
  split at h
  · cases h
    exact .inl ⟨‹_›, rfl, keeps_push rfl⟩
  · rename_i low high inner bounds
    have taken {least : Nat} {most : Option Nat}
        (h : (st.quantify least most inner.1 >>= fun p => pure (p.1, inner.trans p.2)) =
          .ok (st', r)) : st'.EndsInRepeat ∧ Quantified st st' inner.1 r.1 := by
      obtain ⟨⟨st'', q⟩, quantify, h⟩ := bind_eq_ok_iff.1 h
      cases h
      exact (quantify_eq_ok quantify).2
    refine .inr ⟨low, high, inner, bounds, ?_⟩
    split at h
    · cases h
    dsimp only at h
    -- the lower bound and the upper one may each be left out
    split at h
    all_goals
      obtain ⟨least, -, h⟩ := bind_eq_ok_iff.1 h
      split at h
      all_goals
        obtain ⟨most, -, h⟩ := bind_eq_ok_iff.1 h
        split at h
        · split at h
          · cases h
          · exact taken h
        · exact taken h

theorem advances_braces (fits : Fits st q before (.plain '\x7b' :: ts))
    (clear : ¬IsMisread st (.plain '\x7b' :: ts)) {r : Rest ts}
    (h : readBraces st ts = .ok (st', r)) :
    Advances st st' q before (.plain '\x7b' :: ts) r.1 := by
  obtain ⟨unbounded, rest, keeps⟩ | ⟨low, high, inner, bounds, ends, quantified⟩ :=
    readBraces_eq_ok h
  · rw [rest]
    exact advances_brace fits unbounded keeps
  · obtain ⟨d, hts, within⟩ := readBounds?_eq_some bounds
    have count (plus : inner.1.head? = some (.plain '+')) :
        CountsPossessively (.plain '\x7b' :: ts) := ⟨ts, low, high, inner, rfl, bounds, plus⟩
    generalize r.1 = rest at *
    generalize inner.1 = behind at *
    subst hts
    exact advances_count within quantified ends fits clear count

theorem advances_escape {c : Char} {m : Meaning} {r : Rest ts} (h : readEscape c ts = .ok (m, r))
    (fits : Fits st q before (.escaped c :: ts)) (clear : ¬IsMisread st (.escaped c :: ts))
    (keeps : st.Keeps st') : Advances st st' q before (.escaped c :: ts) r.1 := by
  by_cases backslash : c = '\\'
  · subst backslash
    cases h
    refine ⟨false, '\\' :: '\\' :: before, ⟨nofun, fun d _ hd _ => ?_, fun _ count => ?_,
      keeps.isNamed fits.named⟩, ?_⟩
    · exact (noCount_escaped '\\' before).reverse hd
    · exact clear (.backslash (t := .escaped '\\') rfl count)
    · rw [search_escaped, keeps.isPossessive_eq]
      rfl
  · exact advances_of_passes (passes_escape backslash (escapeRun_readEscape h)) keeps fits.named

theorem search_comment_of_clear {body : List Token} (h : ¬IsMisleading body) (before : List Char) :
    search (.outside false) ('#' :: before) body = false := by
  have settled : Settled ('#' :: before) := settled_of_break (by decide) before
  have alike : CountsAlike ('#' :: before) [] :=
    settled.noCount.countsAlike noCount_nil (by simp)
  rw [search_congr alike]
  exact Bool.eq_false_iff.2 fun found => h (.inr found)

theorem search_behind_comment {body : List Token} (h : ¬IsMisleading body) {stop : Char}
    (hstop : isCalm stop = true) (angle : stop ≠ '>') (before : List Char) (rest : List Token) :
    ∃ before', search (.outside false) ('#' :: before) (body ++ .plain stop :: rest) =
      search (.outside false) (stop :: before') rest := by
  obtain ⟨before', hsearch⟩ :=
    search_comment (fun bracket => h (.inl bracket)) hstop angle false ('#' :: before) rest
  exact ⟨before', by rw [hsearch, search_comment_of_clear h, Bool.false_or]⟩

theorem passes_comment {body : List Token} (h : ¬IsMisleading body) (rest : List Token) :
    Passes (.plain '(' :: .plain '?' :: .plain '#' :: (body ++ .plain ')' :: rest)) rest := by
  intro q before
  have calm : isCalm ')' = true := by decide
  obtain ⟨before', hsearch⟩ :=
    search_behind_comment h calm (by decide) ('?' :: '(' :: before) rest
  have settled : Settled (')' :: before') := settled_of_break (by decide) before'
  refine ⟨_, settled, ?_⟩
  rw [← hsearch, search_parenthesis rfl, search_outside (by decide) rfl, search_calm (by decide)]

theorem passes_lineComment {body : List Token} (h : ¬IsMisleading body) (rest : List Token) :
    Passes (.plain '#' :: (body ++ .plain '\n' :: rest)) rest := by
  intro q before
  have calm : isCalm '\n' = true := by decide
  obtain ⟨before', hsearch⟩ := search_behind_comment h calm (by decide) before rest
  have settled : Settled ('\n' :: before') := settled_of_break (by decide) before'
  refine ⟨_, settled, ?_⟩
  rw [← hsearch, search_calm (by decide)]

theorem passes_lastComment {body : List Token} (h : ¬IsMisleading body) :
    Passes (.plain '#' :: body) [] := by
  intro q before
  refine ⟨[], settled_nil, ?_⟩
  rw [search_calm (by decide), search_comment_of_clear h]
  rfl

theorem advances_lineComment (verbose : st.frame.verbose = true) {r : Rest ts}
    (h : (match skipPast '\n' ts with
      | some r => .ok (st, r)
      | none => if .dangling ∈ ts then .error .invalid else .ok (st, ⟨[], Nat.zero_le _⟩) :
        Except Fault (State × Rest ts)) = .ok (st', r))
    (fits : Fits st q before (.plain '#' :: ts)) (clear : ¬IsMisread st (.plain '#' :: ts)) :
    Advances st st' q before (.plain '#' :: ts) r.1 := by
  split at h
  · rename_i skipped
    cases h
    obtain ⟨body, hbody, passed⟩ := skipPast_eq_some skipped
    generalize r.1 = rest at *
    subst hbody
    have harmless := fun misleading => clear (.lineComment verbose misleading passed (.inr rfl))
    exact advances_of_passes (passes_lineComment harmless rest) (.refl st) fits.named
  · rename_i unended
    split at h
    · cases h
    · cases h
      have passed := skipPast_eq_none unended
      have harmless (misleading : IsMisleading ts) : False := by
        have misread := IsMisread.lineComment verbose misleading passed (.inl rfl)
        rw [List.append_nil] at misread
        exact clear misread
      exact advances_of_passes (passes_lastComment harmless) (.refl st) fits.named

theorem advances_group {r : Rest ts} (h : readGroup st ts = .ok (st', r))
    (fits : Fits st q before (.plain '(' :: ts)) (clear : ¬IsMisread st (.plain '(' :: ts)) :
    Advances st st' q before (.plain '(' :: ts) r.1 := by
  have opens := opens_readGroup fits.named h
  generalize r.1 = rest at opens
  cases opens with
  | capture mark keeps => exact advances_of_passes (passes_capture mark) keeps fits.named
  | extension run keeps => exact advances_of_passes (passes_extension run) keeps fits.named
  | atomic possessive named =>
    refine advances_of_found ?_ possessive named
    simp [search, Place.finds, opensAtomic]
  | comment hts passed same =>
    subst same hts
    have harmless := fun misleading => clear (.comment misleading passed rest)
    exact advances_of_passes (passes_comment harmless rest) (.refl _) fits.named

theorem not_mem_of_isCalm {c : Char} (hc : isCalm c = true) :
    c ∉ ['[', '(', '*', '+', '?', '\x7b'] := by
  have marked : ['[', '(', '*', '+', '?', '\x7b'].any isCalm = false := by decide
  exact fun mem => Bool.false_ne_true (marked.symm.trans (List.any_eq_true.2 ⟨c, mem, hc⟩))

theorem advances_readItem {t : Token} {r : Rest ts} (h : readItem st t ts = .ok (st', r))
    (fits : Fits st q before (t :: ts)) (clear : ¬IsMisread st (t :: ts)) :
    Advances st st' q before (t :: ts) r.1 := by
  unfold readItem at h
  split at h
  · cases h
  · split at h
    · cases h
    · rename_i escape
      obtain ⟨st'', meant, same⟩ := map_eq_ok_iff.1 h
      cases same
      exact advances_escape escape fits clear (keeps_pushMeaning meant)
  · rename_i c
    split at h
    · rename_i layout
      cases h
      have calm : isCalm c = true := isCalm_of_class (p := isLayout) (by decide) layout.2
      exact advances_plain (not_mem_of_isCalm calm) fits clear (.refl st)
    split at h
    · rename_i verbose
      obtain ⟨verbose, rfl⟩ := verbose
      exact advances_lineComment verbose h fits clear
    split at h
    · obtain ⟨⟨t, r'⟩, hclass, same⟩ := map_eq_ok_iff.1 h
      cases same
      obtain ⟨⟨negated, items, rfl⟩, run⟩ := classRun_readClass hclass
      exact advances_of_passes (passes_class run) (keeps_push rfl) fits.named
    · exact advances_group h fits clear
    · exact advances_quantifier (by decide) h fits
    · exact advances_quantifier (by decide) h fits
    · exact advances_quantifier (by decide) h fits
    · exact advances_braces fits clear h
    · cases h
      exact advances_plain (by decide) fits clear (keeps_push rfl)
    · cases h
      exact advances_plain (by decide) fits clear (keeps_push rfl)
    · cases h
      exact advances_plain (by decide) fits clear (keeps_push rfl)
    · rename_i bracket parenthesis star plus mark brace _ _ _
      cases h
      refine advances_plain ?_ fits clear (keeps_push rfl)
      simpa using ⟨bracket, parenthesis, star, plus, mark, brace⟩

end ResourceQuery.Pattern
