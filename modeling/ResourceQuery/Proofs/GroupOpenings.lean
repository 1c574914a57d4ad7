import ResourceQuery.Proofs.Numerals
import ResourceQuery.Proofs.OpenGroups
import ResourceQuery.Proofs.TokenRuns

/-!
The openings of groups. Flags, names and numbers are runs of calm characters, but for the sign
that a number may have; what an opening takes says which group it opens.
-/

namespace ResourceQuery.Pattern

open Outcome State

/-! ### Flags -/

theorem isCalm_of_isFlag {c : Char} (h : isFlag c = true) : isCalm c = true :=
  isCalm_of_class (p := isFlag) (by decide) h

theorem calmRun_readOn {on out : List Char} {c stop : Char} {ts : List Token} {r : Rest ts}
    (h : readOn on c ts = .ok (out, stop, r)) : CalmRun ts r.1 := by
  induction ts generalizing on c with
  | nil => cases h
  | cons t ts ih =>
    cases t with
    | plain d =>
      rw [readOn] at h
      split at h
      · cases h
      split at h
      · rename_i ends
        cases h
        refine .cons ?_ (.refl ts)
        rcases ends with rfl | rfl | rfl <;> decide
      split at h
      · rename_i flag
        obtain ⟨⟨out, stop, q⟩, hq, h⟩ := map_eq_ok_iff.1 h
        cases h
        exact .cons (isCalm_of_isFlag flag) (ih hq)
      · cases h
    | escaped d =>
      rw [readOn] at h
      · split at h <;> cases h
      · exact nofun
    | dangling =>
      rw [readOn] at h
      · split at h <;> cases h
      · exact nofun

theorem calmRun_readOff {off out : List Char} {ts : List Token} {r : Rest ts}
    (h : readOff off ts = .ok (out, r)) : CalmRun ts r.1 := by
  induction off, ts using readOff.induct with
  | case1 => cases h
  | case2 off ts some =>
    rw [readOff, if_neg some] at h
    cases h
    exact .cons (by decide) (.refl _)
  | case3 off c ts colon flag ih =>
    rw [readOff, if_pos flag] at h
    · obtain ⟨⟨out, q⟩, hq, h⟩ := map_eq_ok_iff.1 h
      cases h
      exact .cons (isCalm_of_isFlag flag.1) (ih hq)
    · exact colon
  | case4 off c ts colon flag =>
    rw [readOff, if_neg flag] at h
    · cases h
    · exact colon
  | case5 off ts colon other =>
    rw [readOff] at h
    · cases h
    · exact colon
    · exact other

theorem calmRun_readFlags {c : Char} {f : FlagGroup} {ts : List Token} {r : Rest ts}
    (h : readFlags c ts = .ok (f, r)) : CalmRun ts r.1 := by
  unfold readFlags at h
  split at h
  · obtain ⟨⟨off, q⟩, hoff, h⟩ := bind_eq_ok_iff.1 h
    obtain ⟨_, _, h⟩ := bind_eq_ok_iff.1 h
    cases h
    exact calmRun_readOff hoff
  · obtain ⟨⟨on, stop, q⟩, hon, h⟩ := bind_eq_ok_iff.1 h
    dsimp only at h
    split at h
    · cases h
      exact calmRun_readOn hon
    split at h
    · obtain ⟨_, _, h⟩ := bind_eq_ok_iff.1 h
      cases h
      exact calmRun_readOn hon
    split at h
    · cases h
    · obtain ⟨⟨off, p⟩, hoff, h⟩ := bind_eq_ok_iff.1 h
      obtain ⟨_, _, h⟩ := bind_eq_ok_iff.1 h
      cases h
      exact (calmRun_readOn hon).trans (calmRun_readOff hoff)

/-! ### Names and numbers of groups -/

theorem isCalm_of_isIdentifier {name : List Char} (h : Text.isIdentifier name = true) :
    ∀ c ∈ name, isCalm c = true := by
  have start {c : Char} (h : Text.isNameStart c = true) : Text.isNameContinue c = true := by
    simp [Text.isNameContinue, h]
  have calm {c : Char} (h : Text.isNameContinue c = true) : isCalm c = true :=
    isCalm_of_class (p := Text.isNameContinue) (by decide +kernel) h
  cases name with
  | nil => exact nofun
  | cons c cs =>
    obtain ⟨hc, hcs⟩ := Bool.and_eq_true_iff.1 h
    exact List.forall_mem_cons.2
      ⟨calm (start hc), fun d hd => calm (List.all_eq_true.1 hcs d hd)⟩

theorem isCalm_of_isNumberBlank {c : Char} (h : isNumberBlank c = true) : isCalm c = true :=
  isCalm_of_class (p := isNumberBlank) (by decide) h

theorem isCalm_of_groupDigits? {name : List Char} {ds : List Nat}
    (h : groupDigits? name = some ds) : ∀ c ∈ name, isCalm c = true := by
  have digit {c : Char} {n : Nat} (h : Text.decimalValue? c = some n) : isCalm c = true :=
    isCalm_of_class (p := fun c => (Text.decimalValue? c).isSome) (by decide) (by simp [h])
  induction name using groupDigits?.induct generalizing ds with
  | case1 => exact nofun
  | case2 c =>
    obtain ⟨n, hn, _⟩ := Option.map_eq_some_iff.1 h
    exact List.forall_mem_singleton.2 (digit hn)
  | case3 c cs ih =>
    obtain ⟨n, hn, h⟩ := Option.bind_eq_some_iff.1 h
    obtain ⟨ns, hns, _⟩ := Option.bind_eq_some_iff.1 h
    exact List.forall_mem_cons.2 ⟨digit hn, List.forall_mem_cons.2 ⟨by decide, ih hns⟩⟩
  | case4 c cs single underscore ih =>
    rw [groupDigits?] at h
    · obtain ⟨n, hn, h⟩ := Option.bind_eq_some_iff.1 h
      obtain ⟨ns, hns, _⟩ := Option.bind_eq_some_iff.1 h
      exact List.forall_mem_cons.2 ⟨digit hn, ih hns⟩
    · exact single
    · exact underscore

theorem groupNumber?_eq_some {name : List Char} {n : Nat} (h : groupNumber? name = some n) :
    (∀ c ∈ name, isCalm c = true) ∨ ∃ a b : List Char, name = a ++ '+' :: b ∧
      (∀ c ∈ a, isCalm c = true) ∧ ∀ c ∈ b, isCalm c = true := by
  obtain ⟨ds, hds, -⟩ := Option.bind_eq_some_iff.1 h
  obtain ⟨a, b, hname, ha, hb⟩ := Text.exists_dropEnds isNumberBlank name
  have ha := fun c hc => isCalm_of_isNumberBlank (ha c hc)
  have hb := fun c hc => isCalm_of_isNumberBlank (hb c hc)
  rw [hname]
  split at hds
  · rename_i digits trimmed
    refine .inr ⟨a, digits ++ b, by rw [trimmed]; simp, ha, ?_⟩
    exact List.forall_mem_append.2 ⟨isCalm_of_groupDigits? hds, hb⟩
  · refine .inl (List.forall_mem_append.2 ⟨List.forall_mem_append.2 ⟨ha, ?_⟩, hb⟩)
    exact isCalm_of_groupDigits? hds

/-! ### Openings -/

variable {st st' : State} {ts : List Token}

/-- What stands between the question mark of a group and its first item. A choice by number
may have a plus sign there. -/
inductive ExtensionRun : List Token → List Token → Prop
  | calm {c : Char} (hc : isCalm c = true) (angle : c ≠ '>') {ts rest : List Token}
      (run : CalmRun ts rest) : ExtensionRun (.plain c :: ts) rest
  | choice {c : Char} (hc : isCalm c = true) {ts rest : List Token} (run : CalmRun ts rest) :
      ExtensionRun (.plain '(' :: .plain c :: ts) rest
  | signedChoice {c : Char} (hc : isCalm c = true) {ts mid rest : List Token}
      (before : CalmRun ts (.plain '+' :: .plain c :: mid)) (run : CalmRun mid rest) :
      ExtensionRun (.plain '(' :: ts) rest

theorem extensionRun_of_calmRun {c : Char} (hc : isCalm c = true) {ts rest : List Token}
    (h : CalmRun ts (.plain c :: rest)) : ExtensionRun (.plain '(' :: ts) rest := by
  obtain ⟨d, mid, hd, rfl, run⟩ := h.exists_cons hc
  exact .choice hd run

theorem extensionRun_readCondition {r : Rest ts} (h : readCondition st ts = .ok (st', r)) :
    ExtensionRun (.plain '(' :: ts) r.1 ∧ st.Keeps st' := by
  unfold readCondition at h
  split at h
  · cases h
  · rename_i name r' taken
    dsimp only at h
    split at h
    · cases h
    · rename_i n numbered found
      split at h
      · cases h
        refine ⟨?_, keeps_enter GroupKind.noConfusion _⟩
        split at found
        · rename_i identifier
          exact extensionRun_of_calmRun (by decide)
            (takeUntil_calm taken (isCalm_of_isIdentifier identifier))
        · obtain ⟨n', number, _⟩ := Option.map_eq_some_iff.1 found
          obtain calm | ⟨a, b, rfl, ha, hb⟩ := groupNumber?_eq_some number
          · exact extensionRun_of_calmRun (by decide) (takeUntil_calm taken calm)
          · have backslash : '\\' ∉ a ++ '+' :: b := by
              simpa using ⟨backslash_not_mem ha, backslash_not_mem hb⟩
            have signed := takeUntil_plain taken backslash
            have number : CalmRun (b.map .plain ++ .plain ')' :: r.1) (.plain ')' :: r.1) :=
              ⟨b, rfl, hb⟩
            obtain ⟨d, mid, hd, unsigned, run⟩ := number.exists_cons (by decide)
            refine .signedChoice hd ⟨a, ?_, ha⟩ run
            rw [← unsigned]
            simpa using signed
      · cases h

theorem calmRun_readNameGroup (named : st.IsNamed) {r : Rest ts}
    (h : readNameGroup st ts = .ok (st', r)) : CalmRun ts r.1 ∧ st.Keeps st' := by
  unfold readNameGroup at h
  split at h
  · split at h
    · rename_i name r' taken
      split at h
      · rename_i identifier
        obtain ⟨st'', hst, h⟩ := map_eq_ok_iff.1 h
        cases h
        have run := takeUntil_calm taken (isCalm_of_isIdentifier identifier)
        refine ⟨.cons (by decide) (run.trans (.cons (by decide) (.refl _))), ?_⟩
        exact keeps_enterCapture (by simpa using identifier) hst
      · cases h
    · cases h
  · split at h
    · rename_i name r' taken
      split at h
      · rename_i n known
        obtain ⟨st'', hst, h⟩ := map_eq_ok_iff.1 h
        cases h
        obtain ⟨before, after, hnames, _⟩ := List.lookup_eq_some_iff.1 known
        have identifier : Text.isIdentifier name = true :=
          named (name, n) (by rw [hnames]; simp)
        have run := takeUntil_calm taken (isCalm_of_isIdentifier identifier)
        exact ⟨.cons (by decide) (run.trans (.cons (by decide) (.refl _))), keeps_refer hst⟩
      · cases h
    · cases h
  · cases h

inductive Opens (st st' : State) : List Token → List Token → Prop
  | capture {ts : List Token} (mark : ts.head? ≠ some (.plain '?')) (keeps : st.Keeps st') :
      Opens st st' ts ts
  | extension {ts rest : List Token} (run : ExtensionRun ts rest) (keeps : st.Keeps st') :
      Opens st st' (.plain '?' :: ts) rest
  | atomic {rest : List Token} (possessive : st'.isPossessive = true) (named : st'.IsNamed) :
      Opens st st' (.plain '?' :: .plain '>' :: rest) rest
  | comment {ts body rest : List Token} (hts : ts = body ++ .plain ')' :: rest)
      (passed : .plain ')' ∉ body) (same : st' = st) :
      Opens st st' (.plain '?' :: .plain '#' :: ts) rest

theorem opens_readExtension (named : st.IsNamed) {r : Rest ts}
    (h : readExtension st ts = .ok (st', r)) : Opens st st' (.plain '?' :: ts) r.1 := by
  have look {behind : Bool} {rest : List Token} {c : Char} (hc : isCalm c = true) (angle : c ≠ '>')
      {ts : List Token} (run : CalmRun ts rest) :
      Opens st (st.enterLook behind) (.plain '?' :: .plain c :: ts) rest :=
    .extension (.calm hc angle run) (keeps_enterLook behind)
  unfold readExtension at h
  split at h
  · obtain ⟨⟨st'', q⟩, hq, h⟩ := map_eq_ok_iff.1 h
    cases h
    obtain ⟨run, keeps⟩ := calmRun_readNameGroup named hq
    exact .extension (.calm (by decide) (by decide) run) keeps
  · cases h
    exact .extension (.calm (by decide) (by decide) (.refl _)) (keeps_enter GroupKind.noConfusion _)
  · cases h
    exact .atomic (isPossessive_enter ..) named
  · cases h
    exact look (by decide) (by decide) (.refl _)
  · cases h
    exact look (by decide) (by decide) (.refl _)
  · cases h
    exact look (by decide) (by decide) (.cons (by decide) (.refl _))
  · cases h
    exact look (by decide) (by decide) (.cons (by decide) (.refl _))
  · split at h
    · rename_i q skipped
      cases h
      obtain ⟨body, hbody, passed⟩ := skipPast_eq_some skipped
      exact .comment hbody passed rfl
    · cases h
  · obtain ⟨⟨st'', q⟩, hq, h⟩ := map_eq_ok_iff.1 h
    cases h
    obtain ⟨run, keeps⟩ := extensionRun_readCondition hq
    exact .extension run keeps
  · rename_i c _ _ _ _ _ _ _ _ _ _
    split at h
    · rename_i flag
      have hc : isCalm c = true := flag.elim isCalm_of_isFlag (by rintro rfl; decide)
      have angle : c ≠ '>' := by
        rintro rfl
        exact absurd flag (by decide)
      split at h
      · cases h
      · rename_i on q flags
        obtain ⟨st'', hst, h⟩ := map_eq_ok_iff.1 h
        cases h
        exact .extension (.calm hc angle (calmRun_readFlags flags)) (keeps_setFlags hst)
      · rename_i on off q flags
        cases h
        exact .extension (.calm hc angle (calmRun_readFlags flags))
          (keeps_enter GroupKind.noConfusion _)
    · cases h
  · cases h

theorem opens_readGroup (named : st.IsNamed) {r : Rest ts}
    (h : readGroup st ts = .ok (st', r)) : Opens st st' ts r.1 := by
  unfold readGroup at h
  split at h
  · obtain ⟨⟨st'', q⟩, hq, h⟩ := map_eq_ok_iff.1 h
    cases h
    exact opens_readExtension named hq
  · rename_i other
    obtain ⟨st'', hst, h⟩ := map_eq_ok_iff.1 h
    cases h
    refine .capture (fun mark => ?_) (keeps_enterCapture (by simp) hst)
    obtain ⟨ts', rfl⟩ := List.head?_eq_some_iff.1 mark
    exact other ts' rfl

end ResourceQuery.Pattern
