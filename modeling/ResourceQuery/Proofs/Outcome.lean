import Mathlib.Data.List.Forall2
import ResourceQuery.Warning

/-!
Outcomes of steps that may fail, and of readings that also warn. A chain succeeds
when each of its links does, and a run of steps that each ask for at most one thing
is the run of the things asked for. Warnings never decide an outcome: a reading gives
the same whatever was warned before, so a chain of readings gives the chain of what
its links give; and it meets, as failures and in warnings, what its links meet.
-/

namespace ResourceQuery.Outcome

variable {ε α β σ : Type}

theorem bind_eq_ok_iff {x : Except ε α} {f : α → Except ε β} {b : β} :
    (x >>= f) = .ok b ↔ ∃ a, x = .ok a ∧ f a = .ok b := by
  cases x <;> simp [bind, Except.bind]

theorem map_eq_ok_iff {x : Except ε α} {f : α → β} {b : β} :
    x.map f = .ok b ↔ ∃ a, x = .ok a ∧ f a = b := by
  cases x <;> simp [Except.map]

@[simp] theorem map_map {γ : Type} (x : Except ε α) (f : α → β) (g : β → γ) :
    (x.map f).map g = x.map fun a => g (f a) := by
  cases x <;> rfl

@[simp] theorem map_bind {γ : Type} (x : Except ε α) (f : α → β) (g : β → Except ε γ) :
    (x.map f >>= g) = x >>= fun a => g (f a) := by
  cases x <;> rfl

theorem guarded_eq_ok_some_iff {p : Prop} [Decidable p] {r : Except ε (Option α)} {a : α} :
    (if p then r else .ok none) = .ok (some a) ↔ p ∧ r = .ok (some a) := by
  by_cases h : p <;> simp [h]

theorem unless_eq_ok_some_iff {p : Prop} [Decidable p] {r : Except ε (Option α)} {a : α} :
    (if p then .ok none else r) = .ok (some a) ↔ ¬p ∧ r = .ok (some a) := by
  by_cases h : p <;> simp [h]

theorem foldlM_eq_map_filterMapM (ask : α → Except ε (Option β)) (take : σ → β → σ)
    (l : List α) (s : σ) :
    l.foldlM (fun s a => (ask a).map fun asked => asked.elim s (take s)) s =
      (l.filterMapM ask).map fun bs => bs.foldl take s := by
  induction l generalizing s with
  | nil => rfl
  | cons a l ih =>
    rw [List.foldlM_cons, List.filterMapM_cons]
    cases ask a with
    | error e => rfl
    | ok asked =>
      cases asked with
      | none => exact ih s
      | some b =>
        refine (ih (take s b)).trans ?_
        cases l.filterMapM ask <;> rfl

theorem forall₂_of_mapM {f : α → Except ε β} {l : List α} {bs : List β}
    (h : l.mapM f = .ok bs) : List.Forall₂ (fun a b => f a = .ok b) l bs := by
  induction l generalizing bs with
  | nil =>
    cases h
    exact .nil
  | cons a l ih =>
    rw [List.mapM_cons] at h
    obtain ⟨b, hb, h⟩ := bind_eq_ok_iff.1 h
    obtain ⟨rest, hrest, h⟩ := bind_eq_ok_iff.1 h
    cases h
    exact .cons hb (ih hrest)

theorem exists_mapM {f : α → Except ε β} {l : List α} (h : ∀ a ∈ l, ∃ b, f a = .ok b) :
    ∃ bs, l.mapM f = .ok bs := by
  induction l with
  | nil => exact ⟨[], rfl⟩
  | cons a l ih =>
    rw [List.forall_mem_cons] at h
    obtain ⟨b, hb⟩ := h.1
    obtain ⟨bs, hbs⟩ := ih h.2
    exact ⟨b :: bs, by rw [List.mapM_cons, hb, hbs]; rfl⟩

theorem map_filter_mapM {f : α → Except ε β} {keep : α → Bool} {kept : β → Bool} {l : List α}
    (hk : ∀ a ∈ l, ∀ b, f a = .ok b → kept b = keep a)
    (hf : ∀ a ∈ l, keep a = false → ∃ b, f a = .ok b) :
    (l.mapM f).map (List.filter kept) = (l.filter keep).mapM f := by
  induction l with
  | nil => rfl
  | cons a l ih =>
    rw [List.forall_mem_cons] at hk hf
    have rest := ih hk.2 hf.2
    cases ha : keep a with
    | true =>
      rw [List.filter_cons_of_pos ha, List.mapM_cons, List.mapM_cons, ← rest]
      cases hb : f a with
      | error e => rfl
      | ok b =>
        have pos : kept b = true := (hk.1 b hb).trans ha
        cases l.mapM f with
        | error e => rfl
        | ok bs => exact congrArg Except.ok (List.filter_cons_of_pos pos)
    | false =>
      obtain ⟨b, hb⟩ := hf.1 ha
      have neg : ¬kept b = true := by rw [hk.1 b hb, ha]; exact Bool.false_ne_true
      rw [List.filter_cons_of_neg (by simp [ha]), List.mapM_cons, ← rest, hb]
      cases l.mapM f with
      | error e => rfl
      | ok bs => exact congrArg Except.ok (List.filter_cons_of_neg neg)

theorem filterMapM_cons_eq_ok {ask : α → Except ε (Option β)} {a : α} {l : List α} {bs : List β}
    (h : (a :: l).filterMapM ask = .ok bs) :
    ∃ asked rest, ask a = .ok asked ∧ l.filterMapM ask = .ok rest ∧
      bs = asked.toList ++ rest := by
  rw [List.filterMapM_cons, bind_eq_ok_iff] at h
  obtain ⟨asked, ha, h⟩ := h
  cases asked with
  | none => exact ⟨none, bs, ha, h, rfl⟩
  | some b =>
    obtain ⟨rest, hr, h⟩ := bind_eq_ok_iff.1 h
    cases h
    exact ⟨some b, rest, ha, hr, rfl⟩

theorem filterMapM_append_eq_ok {ask : α → Except ε (Option β)} {l m : List α} {bs : List β}
    (h : (l ++ m).filterMapM ask = .ok bs) :
    ∃ front back, l.filterMapM ask = .ok front ∧ m.filterMapM ask = .ok back ∧
      bs = front ++ back := by
  induction l generalizing bs with
  | nil => exact ⟨[], bs, rfl, h, rfl⟩
  | cons a l ih =>
    obtain ⟨asked, rest, ha, hr, rfl⟩ := filterMapM_cons_eq_ok h
    obtain ⟨front, back, hf, hb, rfl⟩ := ih hr
    refine ⟨asked.toList ++ front, back, ?_, hb, (List.append_assoc ..).symm⟩
    rw [List.filterMapM_cons, ha, hf]
    cases asked <;> rfl

theorem mem_filterMapM {ask : α → Except ε (Option β)} {l : List α} {bs : List β}
    (h : l.filterMapM ask = .ok bs) {b : β} : b ∈ bs ↔ ∃ a ∈ l, ask a = .ok (some b) := by
  induction l generalizing bs with
  | nil => cases h; simp
  | cons a l ih =>
    obtain ⟨asked, rest, ha, hr, rfl⟩ := filterMapM_cons_eq_ok h
    simp only [List.mem_append, Option.mem_toList, ih hr, List.mem_cons,
      exists_eq_or_imp, ha, Except.ok.injEq]

theorem ok_of_filterMapM {ask : α → Except ε (Option β)} {l : List α} {bs : List β}
    (h : l.filterMapM ask = .ok bs) {a : α} (ha : a ∈ l) : ∃ asked, ask a = .ok asked := by
  induction l generalizing bs with
  | nil => simp at ha
  | cons c l ih =>
    obtain ⟨asked, rest, hc, hr, rfl⟩ := filterMapM_cons_eq_ok h
    rcases List.mem_cons.1 ha with rfl | ha
    · exact ⟨asked, hc⟩
    · exact ih hr ha

theorem length_filterMapM_add_le {γ : Type} {ask : α → Except ε (Option β)}
    {other : α → Except ε (Option γ)} {l : List α} {bs : List β} {cs : List γ}
    (hb : l.filterMapM ask = .ok bs) (hc : l.filterMapM other = .ok cs)
    (h : ∀ a b c, ask a = .ok (some b) → other a ≠ .ok (some c)) :
    bs.length + cs.length ≤ l.length := by
  induction l generalizing bs cs with
  | nil =>
    cases hb
    cases hc
    exact Nat.le_refl 0
  | cons a l ih =>
    obtain ⟨asked, bs, ha, hbs, rfl⟩ := filterMapM_cons_eq_ok hb
    obtain ⟨asked', cs, ha', hcs, rfl⟩ := filterMapM_cons_eq_ok hc
    have rest := ih hbs hcs
    have one : asked.toList.length + asked'.toList.length ≤ 1 := by
      cases asked with
      | none => cases asked' <;> simp
      | some b =>
        cases asked' with
        | none => exact Nat.le_refl 1
        | some c => exact absurd ha' (h a b c ha)
    simp only [List.length_append, List.length_cons]
    omega

theorem filterMapM_congr {ask ask' : α → Except ε (Option β)} {l : List α}
    (h : ∀ a ∈ l, ask a = ask' a) : l.filterMapM ask = l.filterMapM ask' := by
  induction l with
  | nil => rfl
  | cons a l ih =>
    rw [List.forall_mem_cons] at h
    rw [List.filterMapM_cons, List.filterMapM_cons, h.1, ih h.2]

theorem filterMapM_filter {ask : α → Except ε (Option β)} {keep : α → Bool} {l : List α}
    (h : ∀ a ∈ l, keep a = false → ask a = .ok none) :
    (l.filter keep).filterMapM ask = l.filterMapM ask := by
  induction l with
  | nil => rfl
  | cons a l ih =>
    rw [List.forall_mem_cons] at h
    have rest := ih h.2
    cases hk : keep a with
    | true => rw [List.filter_cons_of_pos hk, List.filterMapM_cons, List.filterMapM_cons, rest]
    | false =>
      rw [List.filter_cons_of_neg (by simp [hk]), List.filterMapM_cons, h.1 hk, rest]
      rfl

theorem filterMapM_split {ask : α → Except ε (Option β)} {before after : List α} {a : α}
    {bs : List β} {b : β} (h : (before ++ a :: after).filterMapM ask = .ok bs)
    (ha : ask a = .ok (some b)) :
    ∃ front back, after.filterMapM ask = .ok back ∧ bs = front ++ b :: back := by
  obtain ⟨front, rest, _, hrest, rfl⟩ := filterMapM_append_eq_ok h
  obtain ⟨asked, back, hb, hback, rfl⟩ := filterMapM_cons_eq_ok hrest
  cases ha.symm.trans hb
  exact ⟨front, back, hback, rfl⟩

theorem pairwise_filterMapM {ask : α → Except ε (Option β)} {l : List α} {bs : List β}
    (h : l.filterMapM ask = .ok bs) {R : α → α → Prop} {S : β → β → Prop}
    (hl : l.Pairwise R) (hs : ∀ a a' b b', R a a' → ask a = .ok (some b) →
      ask a' = .ok (some b') → S b b') : bs.Pairwise S := by
  induction l generalizing bs with
  | nil =>
    cases h
    exact .nil
  | cons a l ih =>
    obtain ⟨asked, rest, ha, hr, rfl⟩ := filterMapM_cons_eq_ok h
    rw [List.pairwise_cons] at hl
    cases asked with
    | none => exact ih hr hl.2
    | some b =>
      refine List.pairwise_cons.2 ⟨fun b' hb' => ?_, ih hr hl.2⟩
      obtain ⟨a', ha', hb'⟩ := (mem_filterMapM hr).1 hb'
      exact hs a a' b b' (hl.1 a' ha') ha hb'

/-- A step that fails for one of some causes, if it fails. -/
def FailsBy (P : ε → Prop) (x : Except ε α) : Prop := ∀ e, x = .error e → P e

section FailsBy

variable {P Q : ε → Prop} {x : Except ε α}

theorem failsBy_ok (a : α) : FailsBy P (.ok a : Except ε α) := nofun

theorem failsBy_error {e : ε} (h : P e) : FailsBy P (.error e : Except ε α) := by
  intro e' he
  cases he
  exact h

theorem failsBy_any (x : Except ε α) : FailsBy (fun _ => True) x := fun _ _ => trivial

theorem FailsBy.mono (h : FailsBy P x) (hpq : ∀ e, P e → Q e) : FailsBy Q x :=
  fun e he => hpq e (h e he)

theorem FailsBy.bind {f : α → Except ε β} (hx : FailsBy P x)
    (hf : ∀ a, x = .ok a → FailsBy P (f a)) : FailsBy P (x >>= f) := by
  cases x with
  | error e => exact failsBy_error (hx e rfl)
  | ok a => exact hf a rfl

theorem FailsBy.map (f : α → β) (hx : FailsBy P x) : FailsBy P (x.map f) := by
  cases x with
  | error e => exact failsBy_error (hx e rfl)
  | ok a => exact failsBy_ok (f a)

theorem failsBy_mapM {f : α → Except ε β} {l : List α} (h : ∀ a ∈ l, FailsBy P (f a)) :
    FailsBy P (l.mapM f) := by
  induction l with
  | nil => exact failsBy_ok []
  | cons a l ih =>
    rw [List.forall_mem_cons] at h
    rw [List.mapM_cons]
    exact h.1.bind fun b _ => (ih h.2).bind fun bs _ => failsBy_ok (b :: bs)

end FailsBy

end ResourceQuery.Outcome

namespace ResourceQuery

def Warning.error? : Warning → Option QueryError
  | .bracketFilterFailed _ e | .directFilterFailed _ e | .operatorFilterFailed _ e => some e
  | .lengthFilterNotAllowed _ | .filterNotAllowed _ | .unknownOperator .. | .unknownFormat _ => none

end ResourceQuery

namespace ResourceQuery.Logged

open Outcome

variable {α β σ : Type}

def Meets (x : Logged α) (e : QueryError) : Prop :=
  x.outcome = .error e ∨ ∃ w ∈ x.warnings, w.error? = some e

/-- The reading has this outcome, whatever was warned before, and adds only failures of one kind
to that. -/
structure Gives (P : QueryError → Prop) (x : Logged α) (r : Except QueryError α) : Prop where
  failsBy : FailsBy P r
  outcome : ∀ log, (x.run.run log).1 = r
  warns : ∀ log, ∀ w ∈ (x.run.run log).2, w ∈ log ∨ ∀ e, w.error? = some e → P e

section Gives

variable {P : QueryError → Prop}

theorem Gives.outcome_eq {x : Logged α} {r : Except QueryError α} (h : Gives P x r) :
    x.outcome = r := h.outcome []

theorem Gives.of_meets {x : Logged α} {r : Except QueryError α} {e : QueryError}
    (h : Gives P x r) (met : x.Meets e) : P e := by
  rcases met with he | ⟨w, hw, he⟩
  · exact h.failsBy e (h.outcome_eq.symm.trans he)
  · exact (h.warns [] w hw).elim nofun fun about => about e he

theorem Gives.congr {x : Logged α} {r s : Except QueryError α} (h : Gives P x r) (hr : r = s) :
    Gives P x s := hr ▸ h

theorem gives_pure (a : α) : Gives P (pure a) (.ok a) :=
  ⟨failsBy_ok a, fun _ => rfl, fun _ _ => .inl⟩

theorem gives_lift {r : Except QueryError α} (h : FailsBy P r) : Gives P (lift r) r := by
  cases r <;> exact ⟨h, fun _ => rfl, fun _ _ => .inl⟩

theorem run_bind (x : Logged α) (f : α → Logged β) (log : List Warning) :
    (x >>= f).run.run log =
      match x.run.run log with
      | (.ok a, later) => (f a).run.run later
      | (.error e, later) => (.error e, later) := by
  rw [ExceptT.run_bind, StateT.run_bind]
  change (match x.run.run log with | (r, later) => _) = _
  rcases x.run.run log with ⟨r, later⟩
  cases r <;> rfl

theorem Gives.bind {x : Logged α} {r : Except QueryError α} {f : α → Logged β}
    {g : α → Except QueryError β} (hx : Gives P x r) (hf : ∀ a, Gives P (f a) (g a)) :
    Gives P (x >>= f) (r >>= g) := by
  refine ⟨hx.failsBy.bind fun a _ => (hf a).failsBy, fun log => ?_, fun log w hw => ?_⟩
  · rw [run_bind, ← hx.outcome log]
    rcases x.run.run log with ⟨r, later⟩
    cases r with
    | error e => rfl
    | ok a => exact (hf a).outcome later
  · have first := hx.warns log
    revert first hw
    rw [run_bind]
    rcases x.run.run log with ⟨r, later⟩
    intro hw first
    cases r with
    | error e => exact first w hw
    | ok a => exact ((hf a).warns later w hw).elim (first w) .inr

theorem Gives.bind_ok {x : Logged α} {r : Except QueryError α} {f : α → Logged β} {g : α → β}
    (hx : Gives P x r) (hf : ∀ a, Gives P (f a) (.ok (g a))) : Gives P (x >>= f) (r.map g) := by
  have h := hx.bind hf
  cases r <;> exact h

theorem gives_warn_bind {w : Warning} (about : ∀ e, w.error? = some e → P e) {x : Logged α}
    {r : Except QueryError α} (hx : Gives P x r) : Gives P (warn w >>= fun _ => x) r := by
  have warned : Gives P (warn w) (.ok ()) := by
    refine ⟨failsBy_ok (), fun _ => rfl, fun log v hv => ?_⟩
    rcases List.mem_append.1 (show v ∈ log ++ [w] from hv) with old | new
    · exact .inl old
    · exact .inr (List.mem_singleton.1 new ▸ about)
  exact warned.bind fun _ => hx

theorem gives_note {w : Warning} (silent : w.error? = none) (a : α) :
    Gives P (warn w >>= fun _ => pure a) (.ok a) := by
  refine gives_warn_bind (fun e about => ?_) (gives_pure a)
  rw [silent] at about
  cases about

theorem Gives.foldlM {step : σ → α → Logged σ} {next : σ → α → Except QueryError σ} {l : List α}
    (h : ∀ a ∈ l, ∀ s, Gives P (step s a) (next s a)) (s : σ) :
    Gives P (l.foldlM step s) (l.foldlM next s) := by
  induction l generalizing s with
  | nil => exact gives_pure s
  | cons a l ih =>
    rw [List.forall_mem_cons] at h
    rw [List.foldlM_cons, List.foldlM_cons]
    exact (h.1 s).bind fun s' => ih h.2 s'

end Gives

def tolerated (r : Except QueryError α) : Except QueryError (Option α) :=
  match r with
  | .ok a => .ok (some a)
  | .error e => if e.isKeyLevel then .ok none else .error e

theorem tolerated_eq_ok_some_iff {r : Except QueryError α} {a : α} :
    tolerated r = .ok (some a) ↔ r = .ok a := by
  cases r with
  | ok b => simp [tolerated]
  | error e => cases h : e.isKeyLevel <;> simp [tolerated, h]

theorem tolerated_map (r : Except QueryError α) (f : α → β) :
    tolerated (r.map f) = (tolerated r).map (Option.map f) := by
  cases r with
  | ok a => rfl
  | error e => cases h : e.isKeyLevel <;> simp [tolerated, h, Except.map]

theorem gives_attempt {P : QueryError → Prop} (kept : α) {warning : QueryError → Warning}
    {r : Except QueryError α} (about : ∀ e, (warning e).error? = some e) (h : FailsBy P r) :
    Gives P (attempt kept warning r) ((tolerated r).map fun a => a.getD kept) := by
  cases r with
  | ok a => exact gives_pure a
  | error e =>
    have blamed : P e := h e rfl
    change Gives P (if e.isKeyLevel then (warn (warning e) >>= fun _ => pure kept) else throw e)
      (Except.map _ (if e.isKeyLevel then .ok none else .error e))
    split
    · refine gives_warn_bind (fun e' he => ?_) (gives_pure kept)
      exact Option.some.inj ((about e).symm.trans he) ▸ blamed
    · exact gives_lift (failsBy_error blamed)

end ResourceQuery.Logged
