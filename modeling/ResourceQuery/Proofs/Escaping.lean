import ResourceQuery.Platform.Standard
import ResourceQuery.Proofs.Outcome
import ResourceQuery.Proofs.PossessiveScan

/-!
What a text becomes that cannot be used as a pattern. Its special characters are escaped; the
text can be told from the result, and the result is a pattern that means the text.
-/

namespace ResourceQuery

namespace Pattern

/-- The text without each backslash that stands right before a special character. -/
def unescape : List Char → List Char
  | [] => []
  | c :: cs => if c = '\\' ∧ cs.head?.any isSpecial then unescape cs else c :: unescape cs

def IsEscaped (s : List Char) : Prop :=
  ∀ (before after : List Char) (c : Char),
    s = before ++ c :: after → isSpecial c = true → before.getLast? = some '\\'

theorem unescape_of_no_backslash {s : List Char} (h : '\\' ∉ s) : unescape s = s := by
  induction s with
  | nil => rfl
  | cons c s ih =>
    obtain ⟨hc, hs⟩ := not_or.1 (mt List.mem_cons.2 h)
    rw [unescape, if_neg fun h => hc h.1.symm, ih hs]

theorem escape_cons (c : Char) (s : List Char) :
    escape (c :: s) = if isSpecial c then '\\' :: c :: escape s else c :: escape s := by
  rw [escape, List.flatMap_cons]
  split <;> rfl

theorem unescape_escape {s : List Char} (h : '\\' ∉ s) : unescape (escape s) = s := by
  induction s with
  | nil => rfl
  | cons c s ih =>
    obtain ⟨hc, hs⟩ := not_or.1 (mt List.mem_cons.2 h)
    have kept : unescape (c :: escape s) = c :: s := by
      rw [unescape, if_neg fun h => hc h.1.symm, ih hs]
    rw [escape_cons]
    by_cases special : isSpecial c = true
    · rw [if_pos special, unescape, if_pos ⟨rfl, special⟩, kept]
    · rw [if_neg special, kept]

theorem IsEscaped.cons {c : Char} {s : List Char} (hc : isSpecial c = false) (hs : IsEscaped s) :
    IsEscaped (c :: s) := by
  intro before after d split special
  cases before with
  | nil =>
    cases split
    exact absurd special (Bool.eq_false_iff.1 hc)
  | cons b before =>
    have last := hs before after d (List.cons.inj split).2 special
    rw [List.getLast?_cons, last]
    rfl

theorem IsEscaped.backslash_cons (c : Char) {s : List Char} (hs : IsEscaped s) :
    IsEscaped ('\\' :: c :: s) := by
  intro before after d split special
  match before with
  | [] =>
    cases split
    exact absurd special (by decide)
  | [b] =>
    cases split
    rfl
  | a :: b :: before =>
    have last := hs before after d (List.cons.inj (List.cons.inj split).2).2 special
    rw [List.getLast?_cons_cons, List.getLast?_cons, last]
    rfl

theorem isEscaped_escape (s : List Char) : IsEscaped (escape s) := by
  induction s with
  | nil =>
    intro before after c split
    cases before <;> cases split
  | cons c s ih =>
    rw [escape_cons]
    split
    · exact ih.backslash_cons c
    · exact ih.cons (Bool.eq_false_iff.2 ‹_›)

theorem search_spelled (s : List Char) (q : Bool) (before : List Char) :
    search (.outside q) before (s.map spell) = false := by
  induction s generalizing q before with
  | nil => rfl
  | cons c s ih =>
    rw [List.map_cons, spell]
    split
    · exact ih false _
    · rename_i special
      have plain : isSpecial c = false := Bool.eq_false_iff.2 special
      have bracket : c ≠ '[' := ne_of_isSpecial plain (by decide)
      have plus : c ≠ '+' := ne_of_isSpecial plain (by decide)
      have parenthesis : c ≠ '(' := ne_of_isSpecial plain (by decide)
      have unfound : (Place.outside q).finds (.plain c) (s.map spell) = false := by
        simp [Place.finds, plus, parenthesis]
      rw [search_outside bracket unfound]
      exact ih _ _

theorem hasPossessiveSyntax_escape {s : List Char} (h : '\\' ∉ s) :
    hasPossessiveSyntax (escape s) = false := by
  rw [hasPossessiveSyntax_eq_search, tokens_escape h]
  exact search_spelled s false []

variable [Platform]

theorem portable_of_read {s : List Char} {t : Tree} (h : read s = .ok t) :
    portable s = .ok (if hasPossessiveSyntax s then escape s else s) := by
  rw [portable, isPortable, h]
  cases hasPossessiveSyntax s <;> rfl

theorem portable_eq_ok {s p : List Char} (h : portable s = .ok p) :
    (p = s ∧ (∃ t, read s = .ok t) ∧ hasPossessiveSyntax s = false) ∨ p = escape s := by
  cases hread : read s with
  | ok t =>
    have result := Except.ok.inj ((portable_of_read hread).symm.trans h)
    cases possessive : hasPossessiveSyntax s with
    | false => exact .inl ⟨by simpa [possessive] using result.symm, ⟨t, rfl⟩, rfl⟩
    | true => exact .inr (by simpa [possessive] using result.symm)
  | error fault =>
    rw [portable, isPortable, hread] at h
    cases fault <;> cases h
    exact .inr rfl

/-- No two texts without a backslash become one pattern: the text is what the pattern leaves
without the backslashes of the escapes. -/
theorem unescape_of_portable {s p : List Char} (backslash : '\\' ∉ s) (h : portable s = .ok p) :
    unescape p = s := by
  obtain ⟨rfl, -⟩ | rfl := portable_eq_ok h
  · exact unescape_of_no_backslash backslash
  · exact unescape_escape backslash

end Pattern

namespace Operator

open Pattern

theorem patternCondition_eq_ok_iff [Platform] {s : String} {c : Entries Value} :
    patternCondition s = .ok c ↔ s.length ≤ Inference.maxLength ∧ ∃ p, portable s.toList = .ok p ∧
      c = [("$regex", .text (String.ofList p)), ("$options", .text "i")] := by
  rw [patternCondition]
  split
  · rename_i long
    refine ⟨fun h => ?_, fun h => absurd h.1 (Nat.not_le.2 long)⟩
    cases h
  · rename_i short
    rw [Outcome.map_eq_ok_iff, and_iff_right (Nat.not_lt.1 short)]
    exact exists_congr fun p => and_congr_right fun _ => eq_comm

/-- A search text without a backslash is searched for as the pattern it is, or else literally;
no two such texts are searched for in the same way. -/
theorem patternCondition_verbatim [Platform] {s : String} {c : Entries Value}
    (backslash : '\\' ∉ s.toList) (h : patternCondition s = .ok c) :
    ((c = [("$regex", .text s), ("$options", .text "i")] ∧
        (∃ t, read s.toList = .ok t) ∧ hasPossessiveSyntax s.toList = false) ∨
      ∃ w : String, c = [("$regex", .text w), ("$options", .text "i")] ∧
        unescape w.toList = s.toList ∧ IsEscaped w.toList ∧
        hasPossessiveSyntax w.toList = false ∧
        read w.toList = .ok (.ofList (literals s.toList))) ∧
    ∀ u : String, '\\' ∉ u.toList → patternCondition u = .ok c → u = s := by
  obtain ⟨-, p, hp, rfl⟩ := patternCondition_eq_ok_iff.1 h
  constructor
  · obtain ⟨rfl, valid⟩ | rfl := portable_eq_ok hp
    · exact .inl ⟨by rw [String.ofList_toList], valid⟩
    · refine .inr ⟨_, rfl, ?_⟩
      rw [String.toList_ofList]
      exact ⟨unescape_escape backslash, isEscaped_escape _, hasPossessiveSyntax_escape backslash,
        read_escape backslash⟩
  · intro u hu same
    obtain ⟨-, q, hq, equal⟩ := patternCondition_eq_ok_iff.1 same
    have hpq : p = q := String.ofList_injective (by simpa using equal)
    have text : u.toList = s.toList := by
      rw [← unescape_of_portable hu hq, ← unescape_of_portable backslash hp, hpq]
    exact String.toList_inj.1 text

theorem patternCondition_verbatim_bracket :
    '\\' ∉ "[abc".toList ∧
      patternCondition "[abc" = .ok [("$regex", .text "\\[abc"), ("$options", .text "i")] ∧
      ∀ u : String, '\\' ∉ u.toList →
        patternCondition u = .ok [("$regex", .text "\\[abc"), ("$options", .text "i")] →
          u = "[abc" := by
  have invalid : read "[abc".toList = .error .invalid := by cbv
  have escaped : portable "[abc".toList = .ok "\\[abc".toList := by
    rw [portable, isPortable, invalid]
    rfl
  have condition := patternCondition_eq_ok_iff.2 ⟨by decide, _, escaped, rfl⟩
  exact ⟨by decide, condition, (patternCondition_verbatim (by decide) condition).2⟩

end Operator
end ResourceQuery
