import ResourceQuery.Platform.Standard
import ResourceQuery.Proofs.Breakdown
import ResourceQuery.Proofs.Caps
import ResourceQuery.Proofs.ComparedValues
import ResourceQuery.Proofs.LengthBounds
import ResourceQuery.Proofs.LiteralValues
import ResourceQuery.Proofs.PageBounds

/-!
Exact numbers. Nothing above the last exact number is ever read as a number, and numbers of the
other sign are not bounded: whatever a literal below the first exact one is rounded to is read and
reaches the filters. Where no operand has such a literal in it, all numbers of a request are exact
as doubles.
-/

namespace ResourceQuery

namespace Number

open Text

/-- The text writes a number that is rounded below the first exact one. -/
def IsLow (s : List Char) : Prop := ∃ l, literal? (trim s) = some l ∧ l.value ≤ -exactTie

theorem isLow_iff {s : List Char} {l : Literal} (h : literal? (trim s) = some l) :
    IsLow s ↔ l.value ≤ -exactTie := by
  refine ⟨?_, fun low => ⟨l, h, low⟩⟩
  rintro ⟨m, hm, low⟩
  cases h.symm.trans hm
  exact low

theorem not_isLow_of_no_literal {s : List Char} (h : literal? (trim s) = none) : ¬IsLow s := by
  rintro ⟨l, hl, -⟩
  cases h.symm.trans hl

namespace Numeral

/-- The number is finite, within a bound, and that of a double. -/
structure IsExact (bound : Nat) (n : Numeral) : Prop where
  finite : n.IsFinite
  bounded : |n.value| ≤ bound
  double : ∃ x : Binary64, x.isFinite = true ∧ x.value = n.value

theorem isExact_of_bounded {n : Numeral} {bound : Nat} (finite : n.IsFinite)
    (bounded : |n.value| ≤ bound) (hb : bound ≤ 2 ^ 53) : n.IsExact bound := by
  refine ⟨finite, bounded, ?_⟩
  cases n with
  | float x => exact ⟨x, decide_eq_true finite, rfl⟩
  | int m =>
    have few : m.natAbs ≤ 2 ^ 53 := by
      rw [value, ← Int.cast_abs, ← Nat.cast_natAbs] at bounded
      exact (by exact_mod_cast bounded : m.natAbs ≤ bound).trans hb
    refine ⟨⟨decide (m < 0), Binary64.nearestCode m.natAbs 1⟩,
      decide_eq_true (Binary64.nearestCode_lt one_pos few), ?_⟩
    have magnitude := Binary64.value_nearestCode_one few
    by_cases negative : m < 0
    · rw [decide_eq_true negative, Binary64.value_negative, magnitude, Nat.cast_natAbs,
        abs_of_neg negative, Int.cast_neg, neg_neg, value]
    · rw [decide_eq_false negative, magnitude, Nat.cast_natAbs,
        abs_of_nonneg (Int.not_lt.1 negative), value]

theorem isExact_zero : (int 0).IsExact maxExact :=
  isExact_of_bounded trivial (by simp [value]) (by decide)

theorem isExact_of_numeral? {s : List Char} {n : Numeral} (h : numeral? s = .ok (some n))
    (hs : ¬IsLow s) : n.IsExact maxExact := by
  obtain ⟨l, hl⟩ := exists_literal_of_numeral? h
  rw [isLow_iff hl, not_le] at hs
  have low : -(maxExact : ℚ) ≤ n.value := (value_of_numeral? hl h).2.2 hs
  exact isExact_of_bounded (isFinite_of_numeral? h)
    (abs_le.2 ⟨low, value_le_of_numeral? h⟩) (by decide)

theorem IsExact.mono {n : Numeral} {bound larger : Nat} (h : n.IsExact bound)
    (hle : bound ≤ larger) : n.IsExact larger :=
  ⟨h.finite, h.bounded.trans (by exact_mod_cast hle), h.double⟩

theorem IsExact.addOne {n : Numeral} (h : n.IsExact maxExact) : n.addOne.IsExact (2 ^ 53) := by
  have bounded := h.bounded
  cases n with
  | int m =>
    refine isExact_of_bounded trivial ?_ le_rfl
    have next : |m + 1| ≤ (maxExact : Int) + 1 := by
      rw [value, ← Int.cast_abs] at bounded
      have small : |m| ≤ (maxExact : Int) := by exact_mod_cast bounded
      exact (abs_add_le m 1).trans (Int.add_le_add_right small 1)
    rw [Numeral.addOne, value, ← Int.cast_abs]
    exact_mod_cast next
  | float x =>
    have code := Binary64.nearestCode_lt x.denominator_pos (Binary64.natAbs_addOne_le bounded)
    have next : (2 * Binary64.binade : ℚ) = (2 ^ 53 : Nat) := by norm_num [Binary64.binade]
    exact isExact_of_bounded code (next ▸ Binary64.abs_value_addOne_le bounded) le_rfl

end Numeral
end Number

open Number Value

namespace Value

def ExactAt (bound : Nat) (_ : String) : Value → Prop
  | .int n => (Numeral.int n).IsExact bound
  | .float x => (Numeral.float x).IsExact bound
  | _ => True

variable {bound : Nat} {key : String}

theorem exactAt_ofNumeral {n : Numeral} : ExactAt bound key (.ofNumeral n) ↔ n.IsExact bound := by
  cases n <;> rfl

theorem exact_ofNumeral {n : Numeral} (h : n.IsExact bound) (key : String) :
    Throughout (ExactAt bound) key (.ofNumeral n) :=
  throughout_of_scalar (by cases n <;> rfl) (exactAt_ofNumeral.2 h)

end Value

namespace Inference

theorem exact_typedText [Platform] {field s : String} {v : Value} (h : typedText field s = .ok v)
    (hs : ¬IsLow s.toList) (key : String) : Throughout (ExactAt maxExact) key v := by
  cases (typedAs_of_typedText h).2 with
  | existence b =>
    exact throughout_map trivial (List.forall_mem_singleton.2 (throughout_of_scalar rfl trivial))
  | number read => exact exact_ofNumeral (Numeral.isExact_of_numeral? read hs) key
  | _ => exact throughout_of_scalar rfl trivial

end Inference

theorem Operator.isPart_of_mem_parts {op : Operator} {s part : String} (h : part ∈ op.parts s) :
    IsPart s.toList part.toList := by
  have piece {ps : List (List Char)} (sub : ps ⊆ Text.trimmedPieces s.toList)
      (h : part ∈ ps.map String.ofList) : IsPart s.toList part.toList := by
    obtain ⟨p, hp, rfl⟩ := List.mem_map.1 h
    rw [String.toList_ofList]
    exact .inr (sub hp)
  cases op with
  | isIn | notIn => exact piece (List.filter_subset_self _) h
  | between => exact piece (List.Subset.refl _) h
  | _ =>
    rw [List.mem_singleton.1 h]
    exact .inl rfl

namespace Operator

variable {cap : Int} {op : Operator} {field s : String} {c : Entries Value}

theorem exact_map {bound : Nat}
    (h : ∀ v ∈ comparedValues c, ∀ key, Throughout (ExactAt bound) key v) (key : String) :
    Throughout (ExactAt bound) key (.map c) := by
  refine throughout_map trivial fun e he => ?_
  have held (v : Value) (hv : v ∈ e.2.compared) := h v (List.mem_flatMap.2 ⟨e, he, hv⟩)
  cases hv : e.2 with
  | list items =>
    rw [hv] at held
    exact throughout_list trivial fun v mem => held v mem e.1
  | _ =>
    rw [hv] at held
    exact held _ (List.mem_singleton_self _) e.1

theorem exact_of_parts [Platform] {texts : List String} {values : List Value}
    (typed : List.Forall₂ (fun part v => Inference.typedText field part = .ok v) texts values)
    (hs : ∀ part ∈ texts, ¬IsLow part.toList) :
    ∀ v ∈ values, ∀ key, Throughout (ExactAt maxExact) key v := by
  induction typed with
  | nil => exact nofun
  | cons hv _ ih =>
    rw [List.forall_mem_cons] at hs ⊢
    exact ⟨Inference.exact_typedText hv hs.1, ih hs.2⟩

theorem exact_apply [Platform] (h : op.apply cap field (.text s) = .ok c)
    (hs : ∀ p, IsPart s.toList p → ¬IsLow p) (key : String) :
    Throughout (ExactAt maxExact) key (.map c) := by
  by_cases hop : op ∈ comparing
  · have parts : ∀ part ∈ op.parts s, ¬IsLow part.toList := fun part hp =>
      hs _ (isPart_of_mem_parts hp)
    exact exact_map (exact_of_parts (forall₂_parts hop h) parts) key
  -- patterns and existence checks compare with no numbers
  cases makes_of_apply h with
  | pattern _ _ =>
    refine throughout_map trivial ?_
    simpa using ⟨throughout_of_scalar rfl trivial, throughout_of_scalar rfl trivial⟩
  | existence b =>
    exact throughout_map trivial (List.forall_mem_singleton.2 (throughout_of_scalar rfl trivial))
  | compared hk _ =>
    have comparing : ∀ p ∈ [(gt, "$gt"), (gte, "$gte"), (lt, "$lt"), (lte, "$lte"), (ne, "$ne")],
        p.1 ∈ comparing := by decide
    exact absurd (comparing _ hk) hop
  | members hk _ _ =>
    have comparing : ∀ p ∈ [(isIn, "$in"), (notIn, "$nin")], p.1 ∈ comparing := by decide
    exact absurd (comparing _ hk) hop
  | bounds _ _ => exact absurd (by decide) hop

end Operator

namespace LengthFilter

variable {bound : Nat}

theorem isExact_boundOr {blank n : Numeral} {p : List Char}
    (h : boundOr (some blank) p = .ok (some n)) (hb : blank.IsExact bound) (hle : maxExact ≤ bound)
    (hp : ¬IsLow p) : n.IsExact bound := by
  rw [boundOr] at h
  split at h
  · cases h
    exact hb
  · exact (Numeral.isExact_of_numeral? h hp).mono hle

theorem exact_bounds {low high : Numeral} (hl : low.IsExact bound) (hh : high.IsExact bound) :
    ∀ e ∈ [("$gte", Value.ofNumeral low), ("$lte", .ofNumeral high)],
      Throughout (ExactAt bound) e.1 e.2 := by
  simpa using ⟨exact_ofNumeral hl _, exact_ofNumeral hh _⟩

theorem exact_betweenCondition {s : List Char} {c : Entries Value}
    (h : betweenCondition s = .ok c) (hs : ∀ p ∈ Text.trimmedPieces s, ¬IsLow p) :
    ∀ e ∈ c, Throughout (ExactAt (2 ^ 53)) e.1 e.2 := by
  have reads := reads_betweenCondition s
  have piece (i : Nat) : ¬IsLow ((Text.trimmedPieces s)[i]?.getD []) := by
    cases found : (Text.trimmedPieces s)[i]? with
    | none => exact not_isLow_of_no_literal rfl
    | some p => exact hs p (List.mem_of_getElem? found)
  rw [h] at reads
  cases reads with
  | range few hl hh =>
    have low := isExact_boundOr hl Numeral.isExact_zero le_rfl (piece 0)
    have high := isExact_boundOr hh low.addOne (by decide) (piece 1)
    exact exact_bounds (low.mono (by decide)) high

theorem exact_comparison (op : LengthOperator) {n : Numeral} (h : n.IsExact maxExact) :
    ∀ e ∈ comparison op n, Throughout (ExactAt (2 ^ 53)) e.1 e.2 := by
  have wider : n.IsExact (2 ^ 53) := h.mono (by decide)
  cases op with
  | between => exact exact_bounds wider h.addOne
  | _ => exact List.forall_mem_singleton.2 (exact_ofNumeral wider _)

theorem exact_condition {name s : String} {c : Entries Value}
    (h : condition name (.text s) = .ok c) (hs : ∀ p, IsPart s.toList p → ¬IsLow p) :
    ∀ e ∈ c, Throughout (ExactAt (2 ^ 53)) e.1 e.2 := by
  rw [condition] at h
  split at h
  · exact exact_betweenCondition h fun p hp => hs p (.inr hp)
  · obtain ⟨n, hn, h⟩ := Outcome.bind_eq_ok_iff.1 h
    cases n with
    | none => cases h
    | some n =>
      dsimp only at h
      split at h <;> cases h
      exact exact_comparison _ (Numeral.isExact_of_numeral? hn (hs _ (.inl rfl)))

section Throughout

variable {P : String → Value → Prop} {f : LengthFilter}

theorem throughout_add (maps : ∀ key c, P key (.map c))
    (hf : ∀ e ∈ f.conditions, Throughout P e.1 e.2) (field : String) {c : Entries Value}
    (hc : ∀ e ∈ c, Throughout P e.1 e.2) :
    ∀ e ∈ (f.add field c).conditions, Throughout P e.1 e.2 := by
  intro e he
  rcases Entries.mem_put he with rfl | he
  · refine throughout_map (maps _ _) fun x hx => (Entries.mem_putAll hx).elim (hc x) fun old => ?_
    cases found : Entries.get? f.conditions (countField field) with
    | none =>
      rw [found] at old
      cases old
    | some v =>
      rw [found] at old
      cases v with
      | map before => exact throughout_of_mem (hf _ (Entries.mem_of_get? found)) x old
      | _ => cases old
  · exact hf e he

theorem throughout_addAll (maps : ∀ key c, P key (.map c))
    (hf : ∀ e ∈ f.conditions, Throughout P e.1 e.2) {os : List (String × Entries Value)}
    (ho : ∀ o ∈ os, ∀ e ∈ o.2, Throughout P e.1 e.2) :
    ∀ e ∈ (addAll f os).conditions, Throughout P e.1 e.2 := by
  induction os generalizing f with
  | nil => exact hf
  | cons o os ih =>
    rw [List.forall_mem_cons] at ho
    exact ih (throughout_add maps hf o.1 ho.1) ho.2

end Throughout
end LengthFilter

/-- All operands are texts, and none has a part that writes a number so low. -/
def NoneLow (query : Entries Value) : Prop :=
  ∀ e ∈ query, ∃ s, e.2 = .text s ∧ ∀ p, IsPart s.toList p → ¬IsLow p

namespace NoneLow

variable {query : Entries Value}

theorem texts (h : NoneLow query) : ∀ e ∈ query, ∃ s, e.2 = .text s := fun e he =>
  let ⟨s, hs, _⟩ := h e he
  ⟨s, hs⟩

theorem parts (h : NoneLow query) {s : String} (hs : ∃ e ∈ query, e.2 = .text s) :
    ∀ p, IsPart s.toList p → ¬IsLow p := by
  obtain ⟨e, he, heq⟩ := hs
  obtain ⟨t, ht, parts⟩ := h e he
  rw [heq] at ht
  cases ht
  exact parts

end NoneLow

namespace Asked

variable [Platform] {rules : FilterRules} {query : Entries Value}

theorem exact_filters (asked : Asked rules query) (hc : rules.operators.custom = [])
    (hq : NoneLow query) (key : String) :
    Throughout (ExactAt maxExact) key (.map asked.filters) := by
  refine throughout_map trivial fun e he => asked.forall_filters
    (P := fun v => ∀ key, Throughout (ExactAt maxExact) key v)
    (fun _ _ => Filter.throughout_join fun _ _ => trivial) ?_ e he e.1
  exact forall_conditions_of_operands
    (fun _ _ _ hs typed => Inference.exact_typedText typed (hq.parts hs _ (.inl rfl)))
    (fun _ _ _ _ hs applied => Operator.exact_apply applied (hq.parts hs)) hc hq.texts

theorem exact_lengths (asked : Asked rules query) (hq : NoneLow query) (key : String) :
    Throughout (ExactAt (2 ^ 53)) key (.map asked.lengths.conditions) := by
  refine throughout_map trivial (LengthFilter.throughout_addAll (fun _ _ => trivial) nofun ?_)
  intro o ho
  obtain ⟨e, he, _, _, _, _, made⟩ := mem_operations.1 ho
  obtain ⟨s, hs⟩ := hq.texts e he
  rw [hs] at made
  exact LengthFilter.exact_condition made (hq.parts ⟨e, he, hs⟩)

end Asked

namespace Number

variable {s : List Char} {l : Literal}

theorem not_mem_of_literal? (h : literal? (Text.trim s) = some l) {c : Char}
    (ink : Text.isBlank c = false) (hc : ¬IsLiteralChar c) : c ∉ s := by
  obtain ⟨a, b, parts, ha, hb⟩ := Text.exists_trim s
  intro mem
  rw [parts, List.mem_append, List.mem_append] at mem
  rcases mem with (blank | inside) | blank
  · exact absurd (ha c blank) (by simp [ink])
  · exact hc ((chars_of_isLiteral (isLiteral_of_literal? h)).1 c inside)
  · exact absurd (hb c blank) (by simp [ink])

theorem exists_digit_of_literal? (h : literal? (Text.trim s) = some l) :
    ∃ c ∈ s, c.isDigit = true := by
  obtain ⟨a, b, parts, -, -⟩ := Text.exists_trim s
  obtain ⟨-, c, hc, digit⟩ := chars_of_isLiteral (isLiteral_of_literal? h)
  exact ⟨c, parts ▸ List.mem_append_left _ (List.mem_append_right _ hc), digit⟩

end Number

namespace Inference

theorem isWord_eq_false {word : String} {s : List Char} {c : Char} (hc : c ∈ s)
    (digit : c.isDigit = true) (letters : word.toList.all (!·.isDigit) = true) :
    isWord word s = false := by
  refine decide_eq_false fun same => ?_
  have last : c.toNat ≤ 57 := of_decide_eq_true (Bool.and_eq_true_iff.1 digit).2
  have kept : c.toLower = c := dif_neg fun upper => by
    have first : 65 ≤ c.toNat := upper.1
    omega
  have mem : c ∈ Text.lower s := List.mem_map.2 ⟨c, hc, kept⟩
  rw [same] at mem
  have letter := List.all_eq_true.1 letters c mem
  rw [digit] at letter
  cases letter

theorem typedText_ne_number [Platform] {field s : String} {n : Numeral}
    (unread : Number.numeral? s.toList = .ok none) : typedText field s ≠ .ok (.ofNumeral n) := by
  intro h
  have typed := (typedAs_of_typedText h).2
  generalize same : Value.ofNumeral n = v at typed
  cases typed with
  | number read => cases unread.symm.trans read
  | _ => cases n <;> cases same

theorem typedText_of_literal [Platform] {field s : String} {l : Literal}
    (hl : literal? (Text.trim s.toList) = some l) (unread : Number.numeral? s.toList = .ok none)
    (undated : isDateField field = false) (hex : isObjectId s.toList = false)
    (short : s.length ≤ maxLength) : typedText field s = .ok (.text s) := by
  have unmarked : Text.behind? existenceMark s.toList = none :=
    Text.behind?_eq_none (c := '$') (by decide) (not_mem_of_literal? hl (by decide) (by decide))
  obtain ⟨c, hc, digit⟩ := exists_digit_of_literal? hl
  have not_true : isWord "true" s.toList = false := isWord_eq_false hc digit (by decide)
  have not_false : isWord "false" s.toList = false := isWord_eq_false hc digit (by decide)
  have undecoded : Platform.identifiers.decode s.toList = none := by simpa [isObjectId] using hex
  rw [typedText, if_neg (Nat.not_lt.2 short), unmarked]
  simp only [undated, not_true, not_false, Bool.false_eq_true, if_false, objectId, undecoded,
    unread]
  split <;> rfl

end Inference

namespace LengthFilter

theorem condition_of_no_number (op : LengthOperator) (hop : op ≠ .between) {s : String}
    (h : Number.numeral? s.toList = .ok none) :
    condition op.name (.text s) = .error (.malformedOperand (.numeric op.name)) := by
  have other : op.name ≠ LengthOperator.between.name := fun he => hop (LengthOperator.name_inj he)
  rw [condition, if_neg other, Inference.numeral?, h]
  rfl

theorem betweenCondition_of_no_number {s p : List Char} (hp : p ∈ Text.trimmedPieces s)
    (given : p ≠ []) (h : numeral? p = .ok none) (c : Entries Value) :
    betweenCondition s ≠ .ok c := by
  intro made
  have reads := reads_betweenCondition s
  rw [made] at reads
  cases reads with
  | range few hl hh => exact Reads.numbers_of_range few hl hh p hp given h

end LengthFilter

namespace Resource

variable {s : Settings} {r : Resource} {query : Entries Value} {request : Request}

variable [Platform]

theorem paging_exact (h : ofSettings s = .ok r) (parts : r.Parts query request) :
    1 ≤ request.page ∧ request.page ≤ maxExact ∧ 1 ≤ request.limit ∧
      (request.limit ≤ maxExact ∨ request.limit = r.paging.defaultLimit) := by
  obtain ⟨-, hdefault, one_le_cap, one_le_default⟩ :=
    PagingRules.make_eq_ok (madeOf_of_ofSettings h).paging
  have default_le : r.paging.defaultLimit ≤ r.paging.maxLimit := hdefault ▸ min_le_right _ _
  obtain ⟨page, limit, read, page_eq, limit_eq⟩ := parts.paging
  obtain ⟨p, hp, read⟩ := Outcome.bind_eq_ok_iff.1 read
  obtain ⟨l, hl, read⟩ := Outcome.bind_eq_ok_iff.1 read
  cases read
  obtain ⟨n, hn, page_read⟩ := PagingRules.readPage_eq_ok hp
  obtain ⟨m, hm, limit_read⟩ := PagingRules.readLimit_eq_ok hl
  have page_bounds : 1 ≤ page ∧ page ≤ maxExact := by
    rw [page_read]
    exact ⟨one_le_wholeOr le_rfl n, wholeOr_le (by decide) (Inference.value_le_of_numeral? hn)⟩
  have limit_bounds : 1 ≤ limit ∧ (limit ≤ maxExact ∨ limit = r.paging.defaultLimit) := by
    rw [limit_read]
    refine ⟨le_min (one_le_wholeOr one_le_default m) one_le_cap, ?_⟩
    rcases wholeOr_le_or_eq r.paging.defaultLimit (Inference.value_le_of_numeral? hm) with
      small | fallback
    · exact .inl ((min_le_left _ _).trans small)
    · rw [fallback]
      exact .inr (min_eq_left default_le)
  rw [page_eq, limit_eq]
  refine ⟨?_, ?_, ?_, ?_⟩
  · split
    · exact le_rfl
    · exact page_bounds.1
  · split
    · decide
    · exact page_bounds.2
  · split
    · exact one_le_default
    · exact limit_bounds.1
  · split
    · exact .inr rfl
    · exact limit_bounds.2

/-- What is read as a number is finite and not above the last exact number, and below the first
one just when its text writes a number so low; where no operand does, all numbers of a request are
exact. A literal in between is read; one that is too high is kept as a text, and no length is
compared with it. -/
theorem exact_unless_low (h : ofSettings s = .ok r) (plain : s.customOperators = []) :
    (∀ t n, Inference.numeral? (.text t) = .ok (some n) →
      n.IsFinite ∧ n.value ≤ 2 ^ 53 - 1 ∧ (-(2 ^ 53 - 1) ≤ n.value ↔ ¬IsLow t.toList)) ∧
    (∀ t l, literal? (Text.trim t.toList) = some l → (l.whole = true → l.digits.length ≤ 4300) →
      (|l.value| < exactTie → ∃ n, Inference.numeral? (.text t) = .ok (some n)) ∧
      (exactTie ≤ l.value → Inference.numeral? (.text t) = .ok none ∧
        (∀ field n, Inference.typedText field t ≠ .ok (.ofNumeral n)) ∧
        (∀ field, Inference.isDateField field = false → Inference.isObjectId t.toList = false →
          t.length ≤ 10000 → Inference.typedText field t = .ok (.text t)) ∧
        (∀ op ≠ LengthOperator.between, LengthFilter.condition op.name (.text t) =
          .error (.malformedOperand (.numeric op.name))) ∧
        ∀ operand, t.toList ∈ Text.trimmedPieces operand.toList →
          ∀ c, LengthFilter.condition "size_between" (.text operand) ≠ .ok c)) ∧
    ∀ query request, NoneLow query → (r.read query).outcome = .ok request →
      (∀ key n, Holds "" (.map request.filters) key (.ofNumeral n) → n.IsExact (2 ^ 53 - 1)) ∧
      (∀ key n, Holds "" (.map request.lengths.conditions) key (.ofNumeral n) →
        n.IsExact (2 ^ 53)) ∧
      1 ≤ request.page ∧ request.page ≤ 2 ^ 53 - 1 ∧ 1 ≤ request.limit ∧
      (request.limit ≤ 2 ^ 53 - 1 ∨ request.limit = r.paging.defaultLimit) := by
  have last : ((maxExact : Nat) : ℚ) = 2 ^ 53 - 1 := by norm_num [maxExact]
  refine ⟨fun t n read => ?_, fun t l hl few => ⟨exists_numeral? hl few, fun high => ?_⟩,
    fun query request hq hr => ?_⟩
  · obtain ⟨l, hl⟩ := exists_literal_of_numeral? read
    rw [← last, isLow_iff hl, not_le]
    exact ⟨Numeral.isFinite_of_numeral? read, Numeral.value_le_of_numeral? read,
      (value_of_numeral? hl read).2⟩
  · have unread := numeral?_eq_none hl few high
    have given : t.toList ≠ [] := by
      obtain ⟨c, hc, -⟩ := exists_digit_of_literal? hl
      exact List.ne_nil_of_mem hc
    exact ⟨unread, fun _ _ => Inference.typedText_ne_number unread,
      fun _ undated hex short => Inference.typedText_of_literal hl unread undated hex short,
      fun op hop => LengthFilter.condition_of_no_number op hop unread,
      fun _ hp => LengthFilter.betweenCondition_of_no_number hp given unread⟩
  · have bounds := paging_exact h (parts_of_read hr)
    have custom : r.filter.operators.custom = [] :=
      (isSetUpBy_of_ofSettings h).customOperators.trans plain
    have exact_of {bound : Nat} {entries : Entries Value}
        (held : Throughout (ExactAt bound) "" (.map entries)) (key : String) (n : Numeral)
        (hn : Holds "" (.map entries) key (.ofNumeral n)) : n.IsExact bound :=
      exactAt_ofNumeral.1 (held key _ hn)
    rcases conditions_of_read hr with ⟨filters, lengths⟩ | ⟨asked, filters, lengths⟩
    · rw [filters, lengths]
      have nothing {bound : Nat} : Throughout (ExactAt bound) "" (.map []) :=
        throughout_map trivial (List.forall_mem_nil _)
      exact ⟨exact_of nothing, exact_of nothing, bounds⟩
    · rw [filters, lengths]
      exact ⟨exact_of (asked.exact_filters custom hq ""), exact_of (asked.exact_lengths hq ""),
        bounds⟩

end Resource

theorem Resource.exact_unless_low_edges :
    let settings : Settings := [("filter_fields", .data (.list [.text "age", .text "tags"]))]
    let query : Entries Value := [("age__gt", .text "-9007199254740991"),
      ("tags__size_between", .text "9007199254740991,")]
    Inference.typedText "age" "9007199254740991.5" = .ok (.text "9007199254740991.5") ∧
      ¬IsLow "-9007199254740991".toList ∧
      ∃ r, ofSettings settings = .ok r ∧ ∃ request, (r.read query).outcome = .ok request ∧
        request.filters = [("age", .entry "$gt" (.int (-9007199254740991)))] ∧
        request.lengths.conditions = [("tagsCount",
          .map [("$gte", .int 9007199254740991), ("$lte", .int 9007199254740992)])] ∧
        (Numeral.int (-9007199254740991)).IsExact (2 ^ 53 - 1) ∧
        (Numeral.int 9007199254740992).IsExact (2 ^ 53) := by
  intro settings query
  have made : ∃ r, ofSettings settings = .ok r ∧ ∃ request, (r.read query).outcome = .ok request ∧
      request.filters = [("age", .entry "$gt" (.int (-9007199254740991)))] ∧
      request.lengths.conditions = [("tagsCount",
        .map [("$gte", .int 9007199254740991), ("$lte", .int 9007199254740992)])] := by
    rw [ofSettings_of_known (by decide)]
    exact ⟨_, rfl, _, rfl, rfl, rfl⟩
  obtain ⟨r, h, request, hr, filters, lengths⟩ := made
  obtain ⟨read, above, requests⟩ := exact_unless_low h rfl
  have kept := (above "9007199254740991.5"
    ⟨false, [9, 0, 0, 7, 1, 9, 9, 2, 5, 4, 7, 4, 0, 9, 9, 1, 5], 1, 0, false⟩ rfl
    (absurd · Bool.false_ne_true)).2
    (by norm_num [exactTie, maxExact, Literal.value, Text.ofDigits])
  have tie : Inference.typedText "age" "9007199254740991.5" = .ok (.text "9007199254740991.5") :=
    kept.2.2.1 "age" (by decide) (by decide) (by decide)
  have least : ¬IsLow "-9007199254740991".toList :=
    (read "-9007199254740991" (.int (-9007199254740991)) (by decide +kernel)).2.2.1
      (by norm_num [Numeral.value])
  have last : ¬IsLow "9007199254740991".toList :=
    (read "9007199254740991" (.int 9007199254740991) (by decide +kernel)).2.2.1
      (by norm_num [Numeral.value])
  have one : Text.trimmedPieces "-9007199254740991".toList = ["-9007199254740991".toList] := by
    decide
  have two : Text.trimmedPieces "9007199254740991,".toList = ["9007199254740991".toList, []] := by
    decide
  have none_low : NoneLow query := by
    refine List.forall_mem_cons.2 ⟨⟨_, rfl, ?_⟩, List.forall_mem_singleton.2 ⟨_, rfl, ?_⟩⟩
    · rintro p (rfl | hp)
      · exact least
      · rw [one, List.mem_singleton] at hp
        exact hp ▸ least
    · rintro p (rfl | hp)
      · exact not_isLow_of_no_literal (by decide)
      · rw [two, List.mem_pair] at hp
        rcases hp with rfl | rfl
        · exact last
        · exact not_isLow_of_no_literal rfl
  obtain ⟨filtered, counted, -⟩ := requests query request none_low hr
  rw [filters] at filtered
  rw [lengths] at counted
  have low : Holds "" (.map [("age", .entry "$gt" (.int (-9007199254740991)))]) "$gt"
      (.ofNumeral (.int (-9007199254740991))) :=
    .entry List.mem_cons_self (.entry List.mem_cons_self (.self _ _))
  have high : Holds "" (.map [("tagsCount",
      .map [("$gte", .int 9007199254740991), ("$lte", .int 9007199254740992)])]) "$lte"
      (.ofNumeral (.int 9007199254740992)) :=
    .entry List.mem_cons_self
      (.entry (List.mem_cons_of_mem _ List.mem_cons_self) (.self _ _))
  exact ⟨tie, least, r, h, request, hr, filters, lengths, filtered _ _ low, counted _ _ high⟩

/-- A literal below the first exact number is read as it is, though no double has its value, and
one reaches a filter that does not even fit 64 bits. -/
theorem Resource.low_numbers_read :
    let settings : Settings := [("filter_fields", .data (.list [.text "age"]))]
    Inference.numeral? (.text "-9007199254740993") = .ok (some (.int (-9007199254740993))) ∧
      ¬-(2 ^ 53 - 1) ≤ (Numeral.int (-9007199254740993)).value ∧
      (∀ x : Binary64, x.value ≠ (Numeral.int (-9007199254740993)).value) ∧
      ∃ r, ofSettings settings = .ok r ∧ ∃ request,
        (r.read [("age__gt", .text "-9223372036854775809")]).outcome = .ok request ∧
        request.filters = [("age", .entry "$gt" (.int (-9223372036854775809)))] ∧
        ¬-(2 ^ 63) ≤ (Numeral.int (-9223372036854775809)).value := by
  intro settings
  refine ⟨by decide +kernel, by norm_num [Numeral.value], fun x same => ?_, ?_⟩
  · have odd := Binary64.abs_value_ne_of_odd (m := 9007199254740993) (by decide) (by decide) x
    exact odd (by rw [same]; norm_num [Numeral.value])
  · rw [ofSettings_of_known (by decide)]
    exact ⟨_, rfl, _, rfl, rfl, by norm_num [Numeral.value]⟩

end ResourceQuery
