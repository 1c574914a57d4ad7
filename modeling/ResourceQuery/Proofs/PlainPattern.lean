import ResourceQuery.Operator

/-!
Texts taken literally. A text with its special characters escaped is read as the sequence of
its characters, so a text without any is a pattern that every matcher understands, and it
stands for itself.
-/

namespace ResourceQuery

namespace Pattern

def IsPlain (s : List Char) : Prop := ∀ c ∈ s, isSpecial c = false ∧ c ≠ '\\'

instance (s : List Char) : Decidable (IsPlain s) := List.decidableBAll _ s

def literals (s : List Char) : List Tree := s.map fun c => .literal c.toNat

@[simp] theorem literals_append (s t : List Char) : literals (s ++ t) = literals s ++ literals t :=
  List.map_append

@[simp] theorem lookWidths_literals (groups : Nat → Width) (s : List Char) :
    (Tree.ofList (literals s)).lookWidths groups = [] := by
  induction s with
  | nil => rfl
  | cons c s ih =>
    change [] ++ (Tree.ofList (literals s)).lookWidths groups = []
    rw [ih]
    rfl

@[simp] theorem choicesExist_literals (count : Nat) (s : List Char) :
    (Tree.ofList (literals s)).choicesExist count = true := by
  induction s with
  | nil => rfl
  | cons c s ih =>
    change (true && (Tree.ofList (literals s)).choicesExist count) = true
    rw [ih]
    rfl

def spell (c : Char) : Token := if isSpecial c then .escaped c else .plain c

theorem tokens_escape {s : List Char} (h : '\\' ∉ s) : tokens (escape s) = s.map spell := by
  induction s with
  | nil => rfl
  | cons c s ih =>
    obtain ⟨hc, hs⟩ := not_or.1 (mt List.mem_cons.2 h)
    change tokens ((if isSpecial c then ['\\', c] else [c]) ++ escape s) = spell c :: s.map spell
    rw [spell]
    split
    · rw [← ih hs]
      exact tokens.eq_2 c (escape s)
    · rw [← ih hs]
      exact tokens_cons_of_ne (Ne.symm hc) (escape s)

/-- The reader with nothing open and no flags, behind some characters that it has read. -/
def State.behind (before : List Char) : State :=
  { frame := ⟨.pattern, false, [], (literals before).reverse⟩ }

theorem ne_of_isSpecial {c d : Char} (hc : isSpecial c = false) (hd : isSpecial d = true) :
    c ≠ d := by
  rintro rfl
  exact Bool.false_ne_true (hc.symm.trans hd)

theorem push_behind (before : List Char) (c : Char) :
    (State.behind before).push (.literal c.toNat) = .behind (before ++ [c]) := by
  rw [State.push, State.behind, State.behind, literals_append, List.reverse_append]
  rfl

theorem readEscape_of_isSpecial {c : Char} (h : isSpecial c = true) (ts : List Token) :
    readEscape c ts = .ok (.code c.toNat, Rest.all ts) := by
  have means : ".*+?^$\x7b\x7d()|[]".toList.all fun d =>
      isCategory d = false ∧ isAnchorLetter d = false ∧ controlCode? d = none ∧
        d ∉ ['x', 'u', 'U', 'N'] ∧ d ≠ '0' ∧ d.isDigit = false ∧ isAsciiLetter d = false := by
    decide
  obtain ⟨category, anchor, control, number, zero, digit, letter⟩ :=
    of_decide_eq_true (List.all_eq_true.1 means c (List.contains_iff_mem.1 h))
  have unnumbered : readNumbered? c ts = none := by
    rw [readNumbered?]
    all_goals rintro rfl; exact number (by decide)
  rw [readEscape, category, anchor, control, unnumbered]
  simp only [zero, digit, letter, Bool.false_eq_true, if_false]

theorem readItem_spell (c : Char) (before : List Char) (ts : List Token) :
    readItem (.behind before) (spell c) ts = .ok (.behind (before ++ [c]), Rest.all ts) := by
  rw [← push_behind, spell]
  by_cases h : isSpecial c = true
  · rw [if_pos h, readItem, readEscape_of_isSpecial h]
    rfl
  · rw [if_neg h, readItem]
    -- what is left are the characters that the reader treats on their own
    simp only [State.behind, Bool.false_eq_true, false_and, if_false]
    all_goals exact ne_of_isSpecial (Bool.eq_false_iff.2 h) (by decide)

theorem spell_ne {c d : Char} (hd : isSpecial d = true) : spell c ≠ .plain d := by
  rw [spell]
  split
  · exact fun h => Token.noConfusion h
  · exact fun h => ne_of_isSpecial (Bool.eq_false_iff.2 ‹_›) hd (Token.plain.inj h)

variable [Platform]

theorem complete_behind (s : List Char) :
    (State.behind s).complete = .ok (.ofList (literals s)) := by
  have tree : Tree.ofBranches (State.body (State.behind s).frame) = .ofList (literals s) := by
    rw [State.body, State.behind, List.reverse_reverse]
    rfl
  rw [State.complete]
  simp only [tree, lookWidths_literals, choicesExist_literals]
  rfl

theorem readFrom_spelled (s before : List Char) :
    readFrom (.behind before) (s.map spell) = .ok (.ofList (literals (before ++ s))) := by
  induction s generalizing before with
  | nil =>
    rw [List.map_nil, readFrom, List.append_nil]
    exact complete_behind before
  | cons c s ih =>
    have bar : spell c ≠ .plain '|' := spell_ne (by decide)
    have parenthesis : spell c ≠ .plain ')' := spell_ne (by decide)
    rw [List.map_cons, readFrom, if_neg bar, if_neg parenthesis, readItem_spell]
    have level : ¬Platform.room < (State.behind (before ++ [c])).depth := Nat.not_lt_zero _
    have rest := ih (before ++ [c])
    rw [List.append_assoc] at rest
    dsimp only
    rw [if_neg level]
    exact rest

theorem read_escape {s : List Char} (h : '\\' ∉ s) :
    read (escape s) = .ok (.ofList (literals s)) := by
  rw [read, tokens_escape h]
  exact readFrom_spelled s []

theorem portable_of_plain {s : List Char} (h : IsPlain s) : portable s = .ok s := by
  have escaped : escape s = s := escape_eq_self fun c hc => (h c hc).1
  have tree : read s = .ok (.ofList (literals s)) := by
    have := read_escape fun hc => (h _ hc).2 rfl
    rwa [escaped] at this
  rw [portable, isPortable, tree, escaped]
  exact congrArg Except.ok (ite_self s)

end Pattern

namespace Operator

theorem patternCondition_of_plain [Platform] {s : String} (hs : s.length ≤ Inference.maxLength)
    (h : Pattern.IsPlain s.toList) :
    patternCondition s = .ok [("$regex", .text s), ("$options", .text "i")] := by
  rw [patternCondition, if_neg (Nat.not_lt.2 hs), Pattern.portable_of_plain h]
  simp [Except.map]

end Operator
end ResourceQuery
