import ResourceQuery.Pattern.Reader
import ResourceQuery.Proofs.Outcome

/-!
Possessive repeats and atomic groups while a pattern is read. What has been read of it is
possessive when a finished item is, or when an atomic group is still open; only such a repeat
or such a group makes a difference.
-/

namespace ResourceQuery.Pattern

open Outcome

namespace Tree

@[simp] theorem isPossessive_ofList (ts : List Tree) :
    (ofList ts).isPossessive = ts.any isPossessive := by
  induction ts with
  | nil => rfl
  | cons t ts ih => exact congrArg (t.isPossessive || ·) ih

@[simp] theorem isPossessive_ofBranches (ts : List Tree) :
    (ofBranches ts).isPossessive = ts.any isPossessive := by
  induction ts using ofBranches.induct with
  | case1 => rfl
  | case2 t => exact (Bool.or_false _).symm
  | case3 t ts more ih =>
    rw [ofBranches, isPossessive, ih]
    · rfl
    · exact more

end Tree

def Frame.isPossessive (frame : Frame) : Bool :=
  frame.branches.any Tree.isPossessive || frame.items.any Tree.isPossessive

/-- The outermost frame is the pattern, whatever kind it is said to have. -/
def possessiveWithin : Frame → List Frame → Bool
  | frame, [] => frame.isPossessive
  | frame, around :: outer =>
    frame.kind = .atomic || frame.isPossessive || possessiveWithin around outer

namespace State

def isPossessive (st : State) : Bool := possessiveWithin st.frame st.outer

def IsNamed (st : State) : Prop := ∀ p ∈ st.names, Text.isIdentifier p.1 = true

structure Keeps (st st' : State) : Prop where
  isPossessive_eq : st'.isPossessive = st.isPossessive
  isNamed : st.IsNamed → st'.IsNamed

variable {st st' : State}

theorem Keeps.refl (st : State) : Keeps st st := ⟨rfl, id⟩

theorem keeps_of_frame (kind : st'.frame.kind = st.frame.kind)
    (holds : st'.frame.isPossessive = st.frame.isPossessive) (outer : st'.outer = st.outer)
    (names : st'.names = st.names) : Keeps st st' := by
  refine ⟨?_, fun named => by rwa [IsNamed, names]⟩
  rw [isPossessive, isPossessive, outer]
  cases st.outer with
  | nil => exact holds
  | cons around outer => rw [possessiveWithin, possessiveWithin, kind, holds]

theorem isPossessive_of_frame (h : st.frame.isPossessive = true) : st.isPossessive = true := by
  rw [isPossessive]
  cases st.outer with
  | nil => exact h
  | cons around outer => rw [possessiveWithin, h, Bool.or_true, Bool.true_or]

@[simp] theorem isPossessive_push (st : State) (t : Tree) :
    (st.push t).isPossessive = (t.isPossessive || st.isPossessive) := by
  have frame : (st.push t).frame.isPossessive = (t.isPossessive || st.frame.isPossessive) :=
    Bool.or_left_comm ..
  rw [isPossessive, isPossessive]
  change possessiveWithin (st.push t).frame st.outer = _
  cases st.outer with
  | nil => exact frame
  | cons around outer =>
    rw [possessiveWithin, possessiveWithin, frame]
    change (decide (st.frame.kind = .atomic) || _ || _) = _
    simp only [Bool.or_assoc, Bool.or_left_comm]

theorem keeps_push {t : Tree} (h : t.isPossessive = false) : Keeps st (st.push t) :=
  ⟨by rw [isPossessive_push, h, Bool.false_or], id⟩

theorem keeps_branch (h : st.branch = .ok st') : Keeps st st' := by
  have finished : (Frame.mk st.frame.kind st.frame.verbose
      (.ofList st.frame.items.reverse :: st.frame.branches) []).isPossessive =
        st.frame.isPossessive := by
    simp [Frame.isPossessive, Bool.or_comm]
  unfold branch at h
  dsimp only at h
  split at h
  · cases h
  · cases h
    exact keeps_of_frame rfl finished rfl rfl

@[simp] theorem any_body (frame : Frame) :
    (body frame).any Tree.isPossessive = frame.isPossessive := by
  simp [body, Frame.isPossessive, Bool.or_comm]

theorem close_eq_push (st : State) (around : Frame) (outer : List Frame) :
    ∃ (back : State) (t : Tree), st.close around outer = back.push t ∧ back.frame = around ∧
      back.outer = outer ∧ back.names = st.names ∧
      t.isPossessive = (st.frame.kind = .atomic || st.frame.isPossessive) := by
  have tree : (Tree.ofBranches (body st.frame)).isPossessive = st.frame.isPossessive := by
    rw [Tree.isPossessive_ofBranches, any_body]
  unfold close
  cases kind : st.frame.kind with
  | pattern => exact ⟨_, _, rfl, rfl, rfl, rfl, tree⟩
  | scope => exact ⟨_, _, rfl, rfl, rfl, rfl, tree⟩
  | capture n => exact ⟨_, _, rfl, rfl, rfl, rfl, tree⟩
  | atomic => exact ⟨_, _, rfl, rfl, rfl, rfl, rfl⟩
  | look behind outer => exact ⟨_, _, rfl, rfl, rfl, rfl, tree⟩
  | choice n numbered =>
    have both := any_body st.frame
    dsimp only
    split
    · rename_i yes no two
      refine ⟨_, _, rfl, rfl, rfl, rfl, ?_⟩
      rw [two] at both
      simpa [Tree.isPossessive] using both
    · exact ⟨_, _, rfl, rfl, rfl, rfl, (Bool.or_false _).trans tree⟩

theorem keeps_close {around : Frame} {outer : List Frame} (h : st.outer = around :: outer) :
    Keeps st (st.close around outer) := by
  obtain ⟨back, t, close, frame, outside, names, possessive⟩ := close_eq_push st around outer
  rw [close]
  refine ⟨?_, fun named => by rwa [IsNamed, push, names]⟩
  rw [isPossessive_push, possessive, isPossessive, isPossessive, h, frame, outside]
  rfl

@[simp] theorem isPossessive_enter (st : State) (kind : GroupKind) (verbose : Bool) :
    (st.enter kind verbose).isPossessive = (kind = .atomic || st.isPossessive) := by
  change (decide (kind = .atomic) || false || st.isPossessive) = _
  rw [Bool.or_false]

theorem keeps_enter {kind : GroupKind} (h : kind ≠ .atomic) (verbose : Bool) :
    Keeps st (st.enter kind verbose) := by
  refine ⟨?_, id⟩
  rw [isPossessive_enter, decide_eq_false h, Bool.false_or]

theorem keeps_enterCapture {name : Option (List Char)}
    (identifier : ∀ s ∈ name, Text.isIdentifier s = true) (h : st.enterCapture name = .ok st') :
    Keeps st st' := by
  unfold enterCapture at h
  dsimp only at h
  split at h
  · cases h
    exact ⟨isPossessive_enter _ _ _, id⟩
  · split at h
    · cases h
    · cases h
      refine ⟨isPossessive_enter _ _ _, fun named => ?_⟩
      exact List.forall_mem_cons.2 ⟨identifier _ rfl, named⟩

theorem keeps_enterLook (behind : Bool) : Keeps st (st.enterLook behind) :=
  ⟨isPossessive_enter _ _ _, id⟩

theorem keeps_refer {n : Nat} (h : st.refer n = .ok st') : Keeps st st' := by
  unfold refer at h
  split at h <;> cases h
  exact keeps_push rfl

theorem keeps_setFlags {on : List Char} (h : setFlags st on = .ok st') : Keeps st st' := by
  unfold setFlags at h
  split at h <;> cases h
  exact keeps_of_frame rfl rfl rfl rfl

theorem keeps_pushMeaning {m : Meaning} (h : pushMeaning st m = .ok st') : Keeps st st' := by
  cases m with
  | reference n => exact keeps_refer h
  | code n =>
    cases h
    exact keeps_push rfl
  | category c =>
    cases h
    exact keeps_push rfl
  | anchor =>
    cases h
    exact keeps_push rfl

def EndsInRepeat (st : State) : Prop :=
  ∃ least most greed body items, st.frame.items = .repetition least most greed body :: items

inductive Quantified (st st' : State) : List Token → List Token → Prop
  | possessive (found : st'.isPossessive = true) (named : st.IsNamed → st'.IsNamed)
      (rest : List Token) : Quantified st st' (.plain '+' :: rest) rest
  | lazy (keeps : st.Keeps st') (rest : List Token) : Quantified st st' (.plain '?' :: rest) rest
  | greedy (keeps : st.Keeps st') (rest : List Token) : Quantified st st' rest rest

theorem quantify_eq_ok {least : Nat} {most : Option Nat} {ts : List Token} {r : Rest ts}
    (h : st.quantify least most ts = .ok (st', r)) :
    ¬st.EndsInRepeat ∧ st'.EndsInRepeat ∧ Quantified st st' ts r.1 := by
  unfold quantify at h
  split at h
  · cases h
  · cases h
  · cases h
  · rename_i t items _ repeated same
    have unrepeated : ¬st.EndsInRepeat := by
      rintro ⟨least, most, greed, body, _, h⟩
      rw [same] at h
      exact repeated least most greed body (List.cons.inj h).1
    have keeps (greed : Greed) (hg : greed ≠ .possessive) : Keeps st
        { st with
          frame := { st.frame with items := .repetition least most greed t :: items } } := by
      refine keeps_of_frame rfl ?_ rfl rfl
      simp [Frame.isPossessive, same, Tree.isPossessive, hg]
    dsimp only at h
    split at h
    · cases h
      refine ⟨unrepeated, ⟨_, _, _, _, _, rfl⟩, ?_⟩
      exact .lazy (keeps .lazy nofun) _
    · cases h
      refine ⟨unrepeated, ⟨_, _, _, _, _, rfl⟩, ?_⟩
      refine .possessive (isPossessive_of_frame ?_) ?_ _
      · simp [Frame.isPossessive, Tree.isPossessive]
      · exact id
    · cases h
      refine ⟨unrepeated, ⟨_, _, _, _, _, rfl⟩, ?_⟩
      exact .greedy (keeps .greedy nofun) _

end State
end ResourceQuery.Pattern
