import ResourceQuery.Platform.Standard
import ResourceQuery.Proofs.Escaping
import ResourceQuery.Proofs.ReaderSteps
import ResourceQuery.Proofs.SideBySide

/-!
Possessive patterns. In a pattern that can be read, the scanner finds something exactly when the
tree is possessive, unless the reader comes to an item that the scanner takes for another.
-/

namespace ResourceQuery.Pattern

open Outcome State

section

variable [Platform] {st st' : State} {q : Bool} {before : List Char} {ts : List Token}

theorem advances_step {t : Token} {r : Rest ts} (h : step st t ts = .ok (st', r))
    (fits : Fits st q before (t :: ts)) (clear : ¬IsMisread st (t :: ts)) :
    Advances st st' q before (t :: ts) r.1 := by
  unfold step at h
  split at h
  · rename_i bar
    subst bar
    obtain ⟨st'', hst, same⟩ := map_eq_ok_iff.1 h
    cases same
    exact advances_plain (by decide) fits clear (keeps_branch hst)
  split at h
  · rename_i parenthesis
    subst parenthesis
    split at h
    · cases h
    · rename_i around outer houter
      cases h
      exact advances_plain (by decide) fits clear (keeps_close houter)
  · obtain ⟨⟨st'', r'⟩, item, h⟩ := bind_eq_ok_iff.1 h
    split at h
    · cases h
    · cases h
      exact advances_readItem item fits clear

theorem isPossessive_complete {t : Tree} (outer : st.outer = []) (h : st.complete = .ok t) :
    t.isPossessive = st.isPossessive := by
  have tree : (Tree.ofBranches (body st.frame)).isPossessive = st.isPossessive := by
    rw [Tree.isPossessive_ofBranches, any_body, State.isPossessive, outer]
    rfl
  unfold complete at h
  dsimp only at h
  split at h
  · cases h
  split at h
  · cases h
  split at h
  · cases h
  · cases h
    exact tree

theorem isPossessive_readFrom {t : Tree} (h : readFrom st ts = .ok t)
    (fits : Fits st q before ts)
    (clear : ∀ st' rest, Reaches st ts st' rest → ¬IsMisread st' rest) :
    t.isPossessive = (search (.outside q) before ts || st.isPossessive) := by
  induction hn : ts.length using Nat.strong_induction_on generalizing st q before ts with
  | _ n ih =>
    cases ts with
    | nil =>
      rw [readFrom] at h
      split at h
      · rename_i outer
        rw [isPossessive_complete (List.isEmpty_iff.1 outer) h]
        rfl
      · cases h
    | cons first ts =>
      rw [readFrom_cons] at h
      obtain ⟨⟨st', r⟩, taken, h⟩ := bind_eq_ok_iff.1 h
      obtain ⟨q', before', fits', same⟩ := advances_step taken fits (clear _ _ (.start ..))
      have shorter : r.1.length < n := hn ▸ Nat.lt_succ_of_le r.2
      rw [same]
      exact ih _ shorter h fits' (fun _ _ later => clear _ _ (.step taken later)) rfl

/-- Where the reader comes to nothing that the scanner takes for something else, possessive
syntax is found exactly in the patterns that have it, and only these are escaped. -/
theorem possessive_exact {s : String} {t : Tree} (h : read s.toList = .ok t)
    (clear : ∀ st rest, Reaches {} (tokens s.toList) st rest → ¬IsMisread st rest) :
    (hasPossessiveSyntax s.toList = true ↔ t.isPossessive = true) ∧
      (s.length ≤ Inference.maxLength → Operator.patternCondition s = .ok
        [("$regex", .text (if t.isPossessive then String.ofList (escape s.toList) else s)),
          ("$options", .text "i")]) := by
  have start : Fits {} false [] (tokens s.toList) := settled_nil.fits nofun nofun
  have found : hasPossessiveSyntax s.toList = t.isPossessive := by
    rw [hasPossessiveSyntax_eq_search, isPossessive_readFrom h start clear]
    exact (Bool.or_false _).symm
  refine ⟨by rw [found], fun short => ?_⟩
  rw [Operator.patternCondition_eq_ok_iff]
  refine ⟨short, _, portable_of_read h, ?_⟩
  rw [found]
  cases t.isPossessive <;> simp

end

theorem possessive_exact_count :
    (∃ t, read "a\x7b2\x7d+".toList = .ok t ∧ t.isPossessive = true) ∧
      (∀ st rest, Reaches {} (tokens "a\x7b2\x7d+".toList) st rest → ¬IsMisread st rest) ∧
      hasPossessiveSyntax "a\x7b2\x7d+".toList = true ∧
      Operator.patternCondition "a\x7b2\x7d+" =
        .ok [("$regex", .text "a\\\x7b2\\\x7d\\+"), ("$options", .text "i")] := by
  have text : tokens "a\x7b2\x7d+".toList =
      [.plain 'a', .plain '\x7b', .plain '2', .plain '\x7d', .plain '+'] := rfl
  have tree : read "a\x7b2\x7d+".toList =
      .ok (.seq (.repetition 2 (some 2) .possessive (.literal 97)) .empty) :=
    read_of_reaches text (.step rfl (.step rfl (.start ..))) rfl rfl
  have clear : ∀ st rest,
      Reaches {} (tokens "a\x7b2\x7d+".toList) st rest → ¬IsMisread st rest := by
    rw [text]
    refine Reaches.forall_cons ?_ rfl (Reaches.forall_cons ?_ rfl (Reaches.forall_nil ?_))
    · rintro (_ | escapes)
      cases escapes
    · rintro (_ | escapes)
      cases escapes
    · rintro ⟨⟩
  obtain ⟨found, condition⟩ := possessive_exact tree clear
  exact ⟨⟨_, tree, rfl⟩, clear, found.2 rfl, condition (by decide)⟩

/-- A count without a number and a count behind an escaped backslash are missed, and comments
are searched, too. -/
theorem possessive_syntax_misread :
    (∃ t, read "a\x7b,\x7d+".toList = .ok t ∧ t.isPossessive = true ∧
      hasPossessiveSyntax "a\x7b,\x7d+".toList = false) ∧
    (∃ t, read "a\\\\\x7b2\x7d+".toList = .ok t ∧ t.isPossessive = true ∧
      hasPossessiveSyntax "a\\\\\x7b2\x7d+".toList = false) ∧
    (∃ t, read "(?#c++)a".toList = .ok t ∧ t.isPossessive = false ∧
      hasPossessiveSyntax "(?#c++)a".toList = true) ∧
    ∃ t, read "(?x)a # c++".toList = .ok t ∧ t.isPossessive = false ∧
      hasPossessiveSyntax "(?x)a # c++".toList = true := by
  have unnumbered : read "a\x7b,\x7d+".toList =
      .ok (.seq (.repetition 0 none .possessive (.literal 97)) .empty) :=
    read_of_reaches rfl (.step rfl (.step rfl (.start ..))) rfl rfl
  have backslash : read "a\\\\\x7b2\x7d+".toList =
      .ok (.seq (.literal 97) (.seq (.repetition 2 (some 2) .possessive (.literal 92)) .empty)) :=
    read_of_reaches rfl (.step rfl (.step rfl (.step rfl (.start ..)))) rfl rfl
  have comment : read "(?#c++)a".toList = .ok (.seq (.literal 97) .empty) :=
    read_of_reaches rfl (.step rfl (.step rfl (.start ..))) rfl rfl
  have lineComment : read "(?x)a # c++".toList = .ok (.seq (.literal 97) .empty) :=
    read_of_reaches rfl (.step rfl (.step rfl (.step rfl (.step rfl (.start ..))))) rfl rfl
  simp only [hasPossessiveSyntax_eq_search]
  exact ⟨⟨_, unnumbered, rfl, rfl⟩, ⟨_, backslash, rfl, rfl⟩, ⟨_, comment, rfl, rfl⟩,
    ⟨_, lineComment, rfl, rfl⟩⟩

end ResourceQuery.Pattern
