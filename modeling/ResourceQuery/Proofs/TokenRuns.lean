import ResourceQuery.Pattern.Reader
import ResourceQuery.Proofs.Outcome

/-!
The tokens that the parts of the reader take. Most of them are plain characters without a
meaning of their own; what else there is stands at a known place.
-/

namespace ResourceQuery.Pattern

open Outcome

def marks : List Char := "[(*+?\x7b\x7d]\\".toList

def isCalm (c : Char) : Bool := !marks.contains c

theorem ne_of_isCalm {c d : Char} (hc : isCalm c = true) (hd : isCalm d = false) : c ≠ d := by
  rintro rfl
  exact Bool.false_ne_true (hd.symm.trans hc)

theorem isCalm_of_class {p : Char → Bool} (h : marks.any p = false) {c : Char}
    (hc : p c = true) : isCalm c = true := by
  cases calm : isCalm c with
  | true => rfl
  | false =>
    rw [isCalm, Bool.not_eq_false'] at calm
    have mark : marks.any p = true := List.any_eq_true.2 ⟨c, List.contains_iff_mem.1 calm, hc⟩
    exact absurd (h.symm.trans mark) Bool.false_ne_true

def CalmRun (ts rest : List Token) : Prop :=
  ∃ cs : List Char, ts = cs.map .plain ++ rest ∧ ∀ c ∈ cs, isCalm c = true

theorem CalmRun.refl (ts : List Token) : CalmRun ts ts := ⟨[], rfl, nofun⟩

theorem CalmRun.cons {c : Char} (hc : isCalm c = true) {ts rest : List Token}
    (h : CalmRun ts rest) : CalmRun (.plain c :: ts) rest := by
  obtain ⟨cs, rfl, hcs⟩ := h
  exact ⟨c :: cs, rfl, List.forall_mem_cons.2 ⟨hc, hcs⟩⟩

theorem CalmRun.exists_cons {c : Char} (hc : isCalm c = true) {ts rest : List Token}
    (h : CalmRun ts (.plain c :: rest)) :
    ∃ d mid, isCalm d = true ∧ ts = .plain d :: mid ∧ CalmRun mid rest := by
  obtain ⟨cs, rfl, hcs⟩ := h
  cases cs with
  | nil => exact ⟨c, rest, hc, rfl, .refl rest⟩
  | cons d cs =>
    obtain ⟨hd, hcs⟩ := List.forall_mem_cons.1 hcs
    exact ⟨d, cs.map .plain ++ .plain c :: rest, hd, rfl,
      ⟨cs ++ [c], by simp, List.forall_mem_append.2 ⟨hcs, by simpa using hc⟩⟩⟩

theorem CalmRun.trans {ts mid rest : List Token} (h : CalmRun ts mid) (h' : CalmRun mid rest) :
    CalmRun ts rest := by
  obtain ⟨cs, rfl, hcs⟩ := h
  obtain ⟨ds, rfl, hds⟩ := h'
  exact ⟨cs ++ ds, by simp, List.forall_mem_append.2 ⟨hcs, hds⟩⟩

theorem takePlain_eq (p : Char → Bool) (n : Nat) (ts : List Token) :
    ts = (takePlain p n ts).1.map .plain ++ (takePlain p n ts).2.1 := by
  fun_induction takePlain p n ts <;> simp_all [Rest.tail, Rest.all]

theorem takePlain_all (p : Char → Bool) (n : Nat) (ts : List Token) :
    ∀ c ∈ (takePlain p n ts).1, p c = true := by
  fun_induction takePlain p n ts <;> simp_all

theorem takePlain_run {p : Char → Bool} {cs : List Char} (hcs : ∀ c ∈ cs, p c = true) {c : Char}
    (hc : p c = false) {ts rest : List Token} (hts : ts = cs.map .plain ++ .plain c :: rest)
    {n : Nat} (hn : cs.length ≤ n) : ∃ h, takePlain p n ts = (cs, ⟨.plain c :: rest, h⟩) := by
  induction cs generalizing ts n with
  | nil =>
    subst hts
    refine ⟨Nat.le_refl _, ?_⟩
    cases n with
    | zero => rfl
    | succ n =>
      change takePlain p (n + 1) (.plain c :: rest) = _
      rw [takePlain, if_neg (by simp [hc])]
      rfl
  | cons d cs ih =>
    obtain ⟨hd, hcs⟩ := List.forall_mem_cons.1 hcs
    obtain ⟨m, rfl⟩ : ∃ m, n = m + 1 := ⟨n - 1, by rw [List.length_cons] at hn; omega⟩
    obtain ⟨_, taken⟩ := ih hcs rfl (Nat.le_of_succ_le_succ hn)
    subst hts
    rw [List.map_cons, List.cons_append, takePlain, if_pos hd, taken]
    exact ⟨_, rfl⟩

theorem takeUntil_eq_some {stop : Char} {ts : List Token} {name : List Char} {r : Rest ts}
    (h : takeUntil stop ts = some (name, r)) :
    ∃ body, ts = body ++ .plain stop :: r.1 ∧ body.flatMap Token.chars = name := by
  induction ts generalizing name with
  | nil => cases h
  | cons t ts ih =>
    rw [takeUntil] at h
    split at h
    · rename_i ht
      cases h
      exact ⟨[], by rw [ht]; rfl, rfl⟩
    · obtain ⟨⟨name, r⟩, hr, h⟩ := Option.map_eq_some_iff.1 h
      cases h
      obtain ⟨body, hbody, rfl⟩ := ih hr
      exact ⟨t :: body, congrArg (t :: ·) hbody, rfl⟩

theorem skipPast_eq_some {stop : Char} {ts : List Token} {r : Rest ts}
    (h : skipPast stop ts = some r) :
    ∃ body, ts = body ++ .plain stop :: r.1 ∧ .plain stop ∉ body := by
  induction ts with
  | nil => cases h
  | cons t ts ih =>
    rw [skipPast] at h
    split at h
    · rename_i ht
      cases h
      exact ⟨[], by rw [ht]; rfl, nofun⟩
    · rename_i ht
      obtain ⟨r, hr, h⟩ := Option.map_eq_some_iff.1 h
      cases h
      obtain ⟨body, hbody, passed⟩ := ih hr
      exact ⟨t :: body, congrArg (t :: ·) hbody,
        fun mem => (List.mem_cons.1 mem).elim (fun h => ht h.symm) passed⟩

theorem skipPast_eq_none {stop : Char} {ts : List Token} (h : skipPast stop ts = none) :
    .plain stop ∉ ts := by
  induction ts with
  | nil => exact nofun
  | cons t ts ih =>
    rw [skipPast] at h
    split at h
    · cases h
    · rename_i ht
      have passed := ih (Option.map_eq_none_iff.1 h)
      exact fun mem => (List.mem_cons.1 mem).elim (fun h => ht h.symm) passed

theorem map_plain_of_flatMap_chars {body : List Token} (h : '\\' ∉ body.flatMap Token.chars) :
    (body.flatMap Token.chars).map .plain = body := by
  induction body with
  | nil => rfl
  | cons t body ih =>
    rw [List.flatMap_cons] at h ⊢
    obtain ⟨ht, hbody⟩ := not_or.1 (mt List.mem_append.2 h)
    cases t with
    | plain c => exact congrArg (Token.plain c :: ·) (ih hbody)
    | escaped c => exact absurd List.mem_cons_self ht
    | dangling => exact absurd List.mem_cons_self ht

theorem takeUntil_plain {stop : Char} {ts : List Token} {name : List Char} {r : Rest ts}
    (h : takeUntil stop ts = some (name, r)) (backslash : '\\' ∉ name) :
    ts = name.map .plain ++ .plain stop :: r.1 := by
  obtain ⟨body, hts, rfl⟩ := takeUntil_eq_some h
  rw [map_plain_of_flatMap_chars backslash]
  exact hts

theorem backslash_not_mem {cs : List Char} (h : ∀ c ∈ cs, isCalm c = true) : '\\' ∉ cs :=
  fun backslash => ne_of_isCalm (h _ backslash) (by decide) rfl

theorem takeUntil_calm {stop : Char} {ts : List Token} {name : List Char} {r : Rest ts}
    (h : takeUntil stop ts = some (name, r)) (calm : ∀ c ∈ name, isCalm c = true) :
    CalmRun ts (.plain stop :: r.1) :=
  ⟨name, takeUntil_plain h (backslash_not_mem calm), calm⟩

/-! ### Escapes -/

theorem calmRun_takePlain {p : Char → Bool} (h : marks.any p = false) (n : Nat)
    (ts : List Token) : CalmRun ts (takePlain p n ts).2.1 :=
  ⟨_, takePlain_eq p n ts, fun c hc => isCalm_of_class h (takePlain_all p n ts c hc)⟩

theorem calmRun_readHex {n v : Nat} {ts : List Token} {r : Rest ts}
    (h : readHex n ts = .ok (v, r)) : CalmRun ts r.1 := by
  have run := calmRun_takePlain (p := Text.isHexDigit) (by decide) n ts
  unfold readHex at h
  split at h
  rename_i cs r' taken
  rw [taken] at run
  split at h
  · split at h <;> cases h
    exact run
  · cases h

theorem calmRun_readOctal {c : Char} {v : Nat} {ts : List Token} {r : Rest ts}
    (h : readOctal c ts = .ok (v, r)) : CalmRun ts r.1 := by
  have run := calmRun_takePlain (p := isOctalDigit) (by decide) 2 ts
  unfold readOctal at h
  split at h
  rename_i cs r' taken
  rw [taken] at run
  dsimp only at h
  split at h <;> cases h
  exact run

/-- What is left behind an escape: a run of calm characters has been taken, or a name in
braces with a letter in it. -/
def EscapeRun (ts rest : List Token) : Prop :=
  CalmRun ts rest ∨ ∃ name, Text.isSpelled name = true ∧
    ts = .plain '\x7b' :: (name.map .plain ++ .plain '\x7d' :: rest)

theorem isCalm_of_isSpelled {name : List Char} (h : Text.isSpelled name = true) :
    ∀ c ∈ name, isCalm c = true := by
  intro c hc
  have spelled := List.all_eq_true.1 (Bool.and_eq_true_iff.1 h).1 c hc
  exact isCalm_of_class (p := fun c => c.isAlphanum || c = ' ' || c = '-') (by decide) spelled

theorem escapeRun_readNamed {n : Nat} {ts : List Token} {r : Rest ts}
    (h : readNamed ts = .ok (n, r)) : EscapeRun ts r.1 := by
  unfold readNamed at h
  split at h
  · split at h
    · rename_i name r' taken
      split at h
      · rename_i named
        cases h
        have spelled := Text.isSpelled_of_characterNamed? named
        have calm := isCalm_of_isSpelled spelled
        exact .inr ⟨name, spelled,
          congrArg (_ :: ·) (takeUntil_plain taken (backslash_not_mem calm))⟩
      · cases h
    · cases h
  · cases h

theorem calmRun_readCode {n : Nat} {ts : List Token} {r : Rest ts}
    (h : readCode ts = .ok (n, r)) : CalmRun ts r.1 := by
  obtain ⟨p, hp, h⟩ := bind_eq_ok_iff.1 h
  split at h
  · cases h
    exact calmRun_readHex hp
  · split at h <;> cases h

theorem escapeRun_readNumbered? {c : Char} {n : Nat} {ts : List Token} {r : Rest ts}
    (h : readNumbered? c ts = some (.ok (n, r))) : EscapeRun ts r.1 := by
  unfold readNumbered? at h
  split at h
  · exact .inl (calmRun_readHex (Option.some.inj h))
  · exact .inl (calmRun_readHex (Option.some.inj h))
  · exact .inl (calmRun_readCode (Option.some.inj h))
  · exact escapeRun_readNamed (Option.some.inj h)
  · cases h

theorem isCalm_of_isDigit {c : Char} (h : c.isDigit = true) : isCalm c = true :=
  isCalm_of_class (p := Char.isDigit) (by decide) h

theorem calmRun_readDigits {c : Char} {m : Meaning} {ts : List Token} {r : Rest ts}
    (h : readDigits c ts = .ok (m, r)) : CalmRun ts r.1 := by
  unfold readDigits at h
  split at h
  · split at h
    · rename_i digit
      split at h
      · rename_i octal
        split at h <;> cases h
        have octal : isCalm _ = true := isCalm_of_class (p := isOctalDigit) (by decide) octal.2.2
        exact .cons (isCalm_of_isDigit digit) (.cons octal (.refl _))
      · cases h
        exact .cons (isCalm_of_isDigit digit) (.refl _)
    · cases h
      exact .refl _
  · split at h
    · rename_i digit
      cases h
      exact .cons (isCalm_of_isDigit digit) (.refl _)
    · cases h
      exact .refl _
  · cases h
    exact .refl _

theorem escapeRun_readEscape {c : Char} {m : Meaning} {ts : List Token} {r : Rest ts}
    (h : readEscape c ts = .ok (m, r)) : EscapeRun ts r.1 := by
  unfold readEscape at h
  split at h
  · cases h
    exact .inl (.refl ts)
  split at h
  · cases h
    exact .inl (.refl ts)
  split at h
  · cases h
    exact .inl (.refl ts)
  split at h
  · rename_i p numbered
    obtain ⟨⟨n, r'⟩, rfl, same⟩ := map_eq_ok_iff.1 h
    cases same
    exact escapeRun_readNumbered? numbered
  split at h
  · obtain ⟨⟨n, r'⟩, octal, same⟩ := map_eq_ok_iff.1 h
    cases same
    exact .inl (calmRun_readOctal octal)
  split at h
  · exact .inl (calmRun_readDigits h)
  split at h
  · cases h
  · cases h
    exact .inl (.refl ts)

theorem escapeRun_readClassEscape {c : Char} {item : ClassItem} {ts : List Token} {r : Rest ts}
    (h : readClassEscape c ts = .ok (item, r)) : EscapeRun ts r.1 := by
  unfold readClassEscape at h
  split at h
  · cases h
    exact .inl (.refl ts)
  split at h
  · cases h
    exact .inl (.refl ts)
  split at h
  · rename_i p numbered
    obtain ⟨⟨n, r'⟩, rfl, same⟩ := map_eq_ok_iff.1 h
    cases same
    exact escapeRun_readNumbered? numbered
  split at h
  · obtain ⟨⟨n, r'⟩, octal, same⟩ := map_eq_ok_iff.1 h
    cases same
    exact .inl (calmRun_readOctal octal)
  split at h
  · cases h
  · cases h
    exact .inl (.refl ts)

/-! ### Classes -/

def MemberRun (ts rest : List Token) : Prop := ∃ body, ts = body ++ rest ∧ .plain ']' ∉ body

theorem MemberRun.refl (ts : List Token) : MemberRun ts ts := ⟨[], rfl, nofun⟩

theorem MemberRun.cons {t : Token} (ht : t ≠ .plain ']') {ts rest : List Token}
    (h : MemberRun ts rest) : MemberRun (t :: ts) rest := by
  obtain ⟨body, rfl, hbody⟩ := h
  exact ⟨t :: body, rfl, fun mem => (List.mem_cons.1 mem).elim (fun h => ht h.symm) hbody⟩

theorem MemberRun.trans {ts mid rest : List Token} (h : MemberRun ts mid)
    (h' : MemberRun mid rest) : MemberRun ts rest := by
  obtain ⟨body, rfl, hbody⟩ := h
  obtain ⟨body', rfl, hbody'⟩ := h'
  exact ⟨body ++ body', (List.append_assoc ..).symm,
    fun mem => (List.mem_append.1 mem).elim hbody hbody'⟩

theorem CalmRun.memberRun {ts rest : List Token} (h : CalmRun ts rest) : MemberRun ts rest := by
  obtain ⟨cs, rfl, hcs⟩ := h
  refine ⟨_, rfl, fun mem => ?_⟩
  obtain ⟨c, hc, bracket⟩ := List.mem_map.1 mem
  exact ne_of_isCalm (hcs c hc) (by decide) (Token.plain.inj bracket)

theorem EscapeRun.memberRun {ts rest : List Token} (h : EscapeRun ts rest) :
    MemberRun ts rest := by
  obtain run | ⟨name, spelled, rfl⟩ := h
  · exact run.memberRun
  · have letters : CalmRun (name.map .plain ++ .plain '\x7d' :: rest) (.plain '\x7d' :: rest) :=
      ⟨name, rfl, isCalm_of_isSpelled spelled⟩
    exact .cons (by decide) (letters.memberRun.trans (.cons (by decide) (.refl rest)))

theorem memberRun_readMember {t : Token} {item : ClassItem} {ts : List Token} {r : Rest ts}
    (h : readMember t ts = .ok (item, r)) : MemberRun ts r.1 := by
  cases t with
  | plain c =>
    cases h
    exact .refl ts
  | escaped c => exact (escapeRun_readClassEscape h).memberRun
  | dangling => cases h

theorem memberRun_rangeEnd? {t : Token} {ts : List Token} {r : Rest ts}
    (h : rangeEnd? ts = some (t, r)) : MemberRun ts (t :: r.1) ∧ t ≠ .plain ']' := by
  unfold rangeEnd? at h
  split at h
  · cases h
  · rename_i other
    cases h
    exact ⟨.cons (by decide) (.refl _), fun bracket => other bracket⟩
  · cases h

theorem memberRun_readClassItem {t : Token} {item : ClassItem} {ts : List Token} {r : Rest ts}
    (h : readClassItem t ts = .ok (item, r)) : MemberRun ts r.1 := by
  obtain ⟨⟨low, q⟩, hlow, h⟩ := bind_eq_ok_iff.1 h
  have first := memberRun_readMember hlow
  dsimp only at h
  split at h
  · cases h
    exact first
  · rename_i t' q' hend
    obtain ⟨⟨high, p⟩, hhigh, h⟩ := bind_eq_ok_iff.1 h
    obtain ⟨_, _, h⟩ := bind_eq_ok_iff.1 h
    cases h
    obtain ⟨hyphen, bracket⟩ := memberRun_rangeEnd? hend
    exact first.trans (hyphen.trans (.cons bracket (memberRun_readMember hhigh)))

theorem memberRun_readMembers {items out : List ClassItem} (hne : items ≠ []) {ts : List Token}
    {r : Rest ts} (h : readMembers items ts = .ok (out, r)) :
    MemberRun ts (.plain ']' :: r.1) := by
  induction items, ts using readMembers.induct with
  | case1 =>
    rw [readMembers] at h
    cases h
  | case2 items t ts closed =>
    rw [readMembers, if_pos closed] at h
    cases h
    rw [closed.1]
    exact .refl _
  | case3 items t ts open_ e failed =>
    rw [readMembers, if_neg open_, failed] at h
    cases h
  | case4 items t ts open_ item q member ih =>
    rw [readMembers, if_neg open_, member] at h
    obtain ⟨⟨out, p⟩, hrest, h⟩ := map_eq_ok_iff.1 h
    cases h
    have bracket : t ≠ .plain ']' := fun h => open_ ⟨h, hne⟩
    exact .cons bracket ((memberRun_readClassItem member).trans (ih (by simp) hrest))

theorem memberRun_readMembers_nil {out : List ClassItem} {ts : List Token} {r : Rest ts}
    (h : readMembers [] ts = .ok (out, r)) :
    ∃ t mid, ts = t :: mid ∧ MemberRun mid (.plain ']' :: r.1) := by
  unfold readMembers at h
  split at h
  · cases h
  · rename_i t mid
    rw [if_neg fun h => h.2 rfl] at h
    split at h
    · cases h
    · rename_i item q hitem
      obtain ⟨⟨out, p⟩, hrest, h⟩ := map_eq_ok_iff.1 h
      cases h
      exact ⟨t, mid, rfl,
        (memberRun_readClassItem hitem).trans (memberRun_readMembers (by simp) hrest)⟩

inductive ClassRun : List Token → List Token → Prop
  | negated {first : Token} {mid rest : List Token} (run : MemberRun mid (.plain ']' :: rest)) :
      ClassRun (.plain '^' :: first :: mid) rest
  | unnegated {first : Token} (caret : first ≠ .plain '^') {mid rest : List Token}
      (run : MemberRun mid (.plain ']' :: rest)) : ClassRun (first :: mid) rest

theorem classRun_readClass {ts : List Token} {t : Tree} {r : Rest ts}
    (h : readClass ts = .ok (t, r)) :
    (∃ negated items, t = .oneOf negated items) ∧ ClassRun ts r.1 := by
  unfold readClass at h
  split at h
  · obtain ⟨⟨items, q⟩, hitems, h⟩ := map_eq_ok_iff.1 h
    cases h
    obtain ⟨first, mid, rfl, run⟩ := memberRun_readMembers_nil hitems
    exact ⟨⟨_, _, rfl⟩, .negated run⟩
  · rename_i caret
    obtain ⟨⟨items, q⟩, hitems, h⟩ := map_eq_ok_iff.1 h
    cases h
    obtain ⟨first, mid, rfl, run⟩ := memberRun_readMembers_nil hitems
    exact ⟨⟨_, _, rfl⟩, .unnegated (fun h => caret mid (by rw [h])) run⟩

end ResourceQuery.Pattern
