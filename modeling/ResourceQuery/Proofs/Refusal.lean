import ResourceQuery.Platform.Standard
import ResourceQuery.Proofs.AllowList
import ResourceQuery.Proofs.Breakdown
import ResourceQuery.Proofs.Comparison
import ResourceQuery.Proofs.SearchFields

/-!
Whose fault a failure is. Whatever is wrong with a query of texts is reported as its own
fault, in whatever part of the request it stands, unless a conversion of one of the texts
breaks down there. What holds of single keys then holds of the whole request.
-/

namespace ResourceQuery

open Outcome QueryError

section

variable [Platform]

namespace FilterRules

open ResourceQuery.Filter

/-- What a filter key is for makes a conversion of its text break down. -/
inductive Breaks (rules : FilterRules) (key s : String) (e : QueryError) : Prop
  | value {field : String} {t : List Char} (hk : FilterKey.Names key field)
      (ha : rules.allows field = true) (ht : IsPart s.toList t)
      (h : Inference.Breaks field (String.ofList t) e)
  | pattern {field : String} (hk : FilterKey.operator? key = some (field, "regex"))
      (ha : rules.allows field = true) (h : Pattern.isPortable s.toList = .error e)
  | length {field op : String} (hk : FilterKey.operator? key = some (field, op))
      (ho : (LengthOperator.ofName? op).isSome) (ha : rules.allows field = true)
      (h : LengthFilter.Breaks s e)

variable {rules : FilterRules} {key s : String} {query : Entries Value}

theorem failsBy_typed {field : String} (hk : FilterKey.Names key field)
    (ha : rules.allows field = true) :
    FailsBy (InvalidOr (rules.Breaks key s)) (Inference.typed field (.text s)) := by
  refine (Inference.failsBy_typedText field s).mono fun _ => .imp fun e hb => ?_
  rw [← String.ofList_toList (s := s)] at hb
  exact .value hk ha (.inl rfl) hb

theorem failsBy_apply (hc : rules.operators.custom = []) {field op : String}
    (hk : FilterKey.operator? key = some (field, op)) (hl : LengthOperator.ofName? op = none)
    (ha : rules.allows field = true) :
    FailsBy (InvalidOr (rules.Breaks key s)) (rules.operators.apply op field (.text s)) := by
  unfold Operators.apply
  rw [if_neg (by simp [hl])]
  split
  · rename_i known ho
    refine ((known.failsBy_apply _ field s).map _).mono fun _ => .imp fun e hb => ?_
    rcases hb with ⟨t, ht, hb⟩ | ⟨rfl, hb⟩
    · exact .value (.inr (.inr ⟨op, hk⟩)) ha ht hb
    · have name : "regex" = op := Operator.name_of_ofName? ho
      exact .pattern (name ▸ hk) ha hb
  · rw [hc]
    exact failsBy_error (.inl rfl)

theorem failsAt_text (hc : rules.operators.custom = []) (key s : String) :
    rules.FailsAt (InvalidOr (rules.Breaks key s)) (key, .text s) where
  measured _ _ hk hl ha :=
    (LengthFilter.failsBy_condition hl s).mono fun _ => .imp fun _ => .length hk hl ha
  typed _ := failsBy_typed
  compared _ _ hk hl ha _ := failsBy_apply hc hk hl ha

omit [Platform] in
theorem failsBy_checkSize : FailsBy (fun e => e.isInvalidQuery = true) (rules.checkSize query) := by
  unfold checkSize
  split
  · exact failsBy_error rfl
  · exact failsBy_ok ()

end FilterRules

omit [Platform] in
theorem SearchRules.failsBy_readTerm {query : Entries Value}
    (ht : ∀ e ∈ query, ∃ s, e.2 = .text s) :
    FailsBy (fun e => e.isInvalidQuery = true) (readTerm query) := by
  rcases readTerm_cases query with h | ⟨key, v, -, hm, -, h⟩
  · rw [h]
    exact failsBy_ok none
  · obtain ⟨s, rfl⟩ := ht _ hm
    rw [h]
    dsimp only [Value.length?]
    split
    · exact failsBy_error rfl
    · exact failsBy_ok _

namespace Resource

inductive Breaks (r : Resource) (key s : String) (e : QueryError) : Prop
  | filter (h : r.filter.Breaks key s e)
  | page (hk : key = "page" ∨ key = "limit") (h : Number.Overlong s.toList e)
  | search (hk : key = "search" ∨ key = "q") (h : Pattern.isPortable s.toList = .error e)

def BreaksIn (r : Resource) (query : Entries Value) (e : QueryError) : Prop :=
  ∃ key s, (key, .text s) ∈ query ∧ r.Breaks key s e

variable {r : Resource} {query : Entries Value} {request : Request}

def compile (r : Resource) (query : Entries Value) :
    Except QueryError (Entries Value × Option (Entries Value)) := do
  let request ← (r.read query).outcome
  let condition ← r.condition request
  return (condition, projectionOf request)

theorem failsBy_positive? (ht : ∀ e ∈ query, ∃ s, e.2 = .text s) {key : String}
    (hk : key = "page" ∨ key = "limit") :
    FailsBy (InvalidOr (r.BreaksIn query))
      (PagingRules.positive? ((Entries.get? query key).getD .null)) := by
  cases hg : Entries.get? query key with
  | none => exact failsBy_ok none
  | some v =>
    have member := Entries.mem_of_get? hg
    obtain ⟨s, rfl⟩ := ht _ member
    refine ((Number.failsBy_numeral? s.toList).map _).mono fun e hb => .inr ?_
    exact ⟨key, s, member, .page hk hb⟩

theorem failsBy_pagingRead (ht : ∀ e ∈ query, ∃ s, e.2 = .text s) :
    FailsBy (InvalidOr (r.BreaksIn query)) (r.paging.read query) :=
  ((failsBy_positive? ht (.inl rfl)).map _).bind fun _ _ =>
    ((failsBy_positive? ht (.inr rfl)).map _).bind fun _ _ => failsBy_ok _

theorem failsAt_texts (hc : r.filter.operators.custom = [])
    (ht : ∀ e ∈ query, ∃ s, e.2 = .text s) :
    r.FailsAt query (InvalidOr (r.BreaksIn query)) where
  size := FilterRules.failsBy_checkSize.mono fun _ => .inl
  filters := by
    rintro ⟨key, v⟩ hm
    obtain ⟨s, rfl⟩ := ht _ hm
    exact (FilterRules.failsAt_text hc key s).mono fun _ => .imp fun _ hb =>
      ⟨key, s, hm, .filter hb⟩
  paging := failsBy_pagingRead ht
  search := by
    unfold readTerm
    split
    · exact failsBy_ok none
    · exact (SearchRules.failsBy_readTerm ht).mono fun _ => .inl
  format := by
    cases hg : Entries.get? query "format" with
    | none => exact failsBy_ok _
    | some v =>
      obtain ⟨s, rfl⟩ := ht _ (Entries.mem_of_get? hg)
      exact failsBy_ok _

theorem failsBy_condition (ht : ∀ e ∈ query, ∃ s, e.2 = .text s)
    (hr : (r.read query).outcome = .ok request) :
    FailsBy (InvalidOr (r.BreaksIn query)) (r.condition request) := by
  rw [condition_of_read hr]
  refine FailsBy.map _ ?_
  cases hv : request.search with
  | none => exact failsBy_ok none
  | some v =>
    have term := (parts_of_read hr).isTerm hv
    obtain ⟨key, hk, hm⟩ := term.stands
    obtain ⟨s, rfl, -⟩ := term.text ht
    rw [SearchRules.condition_some]
    split
    · exact failsBy_ok none
    · have pattern : FailsBy _ ((Operator.patternText (.text s)).bind Operator.patternCondition) :=
        Operator.failsBy_patternCondition s
      exact (pattern.map _).mono fun _ => .imp fun _ hb => ⟨key, s, hm, .search hk hb⟩

theorem compile_page {s : String} {e : QueryError} (h : Number.numeral? s.toList = .error e)
    (hs : r.filter.checkSize [("page", .text s)] = .ok ())
    (hf : (r.readConditions [("page", .text s)]).outcome = .ok ([], {})) :
    r.compile [("page", .text s)] = .error e := by
  rw [r.outcome_readConditions] at hf
  have page : PagingRules.readPage (.text s) = .error e := by
    simp [PagingRules.readPage, PagingRules.positive?, Inference.numeral?, h, Except.map]
  have paging : r.paging.read [("page", .text s)] = .error e := by
    simp only [PagingRules.read, Entries.get?, if_true, Option.getD_some, page]
    rfl
  rw [compile, r.outcome_read, reading, hs, hf, paging]
  rfl

theorem compile_search {term : String} {e : QueryError}
    (hr : (r.read query).outcome = .ok request) (ht : request.search = some (.text term))
    (hne : term ≠ "") (hf : r.search.chosen request.searchFields ≠ [])
    (h : Operator.patternCondition term = .error e) : r.compile query = .error e := by
  have condition : r.condition request = .error e := by
    rw [condition_of_read hr, ht, SearchRules.condition_text hne hf, h]
    rfl
  rw [compile, hr]
  change (r.condition request >>= _) = _
  rw [condition]
  rfl

/-- Whatever a query of texts does wrong is its own fault, unless one of its texts makes a
conversion break down. -/
theorem compile_fails_by (hc : r.filter.operators.custom = [])
    (ht : ∀ e ∈ query, ∃ s, e.2 = .text s) {e : QueryError} (h : r.compile query = .error e) :
    e.isInvalidQuery = true ∨ ∃ key s, (key, .text s) ∈ query ∧ r.Breaks key s e := by
  have read : FailsBy (InvalidOr (r.BreaksIn query)) (r.read query).outcome := by
    rw [r.outcome_read]
    exact (gives_read (failsAt_texts hc ht)).failsBy
  have whole : FailsBy (InvalidOr (r.BreaksIn query)) (r.compile query) :=
    read.bind fun request hr => (failsBy_condition ht hr).bind fun c _ => failsBy_ok _
  exact whole e h

end Resource

end

theorem Resource.compile_fails_by_between :
    let query : Entries Value := [("age__between", .text "18")]
    ∃ r, ofSettings [("filter_fields", .data (.list [.text "age"]))] = .ok r ∧
      r.filter.operators.custom = [] ∧ (∀ e ∈ query, ∃ s, e.2 = .text s) ∧
      ∃ e, r.compile query = .error e ∧
        (e.isInvalidQuery = true ∨ ∃ key s, (key, .text s) ∈ query ∧ r.Breaks key s e) := by
  intro query
  have ht : ∀ e ∈ query, ∃ s, e.2 = .text s := by simp [query]
  have hr : ∃ r, ofSettings [("filter_fields", .data (.list [.text "age"]))] = .ok r ∧
      r.filter.operators.custom = [] ∧
      r.compile query = .error (.malformedOperand .twoBounds) := by
    rw [ofSettings_of_known (by decide)]
    exact ⟨_, rfl, rfl, rfl⟩
  obtain ⟨r, hset, hc, h⟩ := hr
  exact ⟨r, hset, hc, ht, _, h, compile_fails_by hc ht h⟩

/-- Neither a page of too many digits nor a pattern that is repeated too often is reported as
the fault of the query. -/
theorem Resource.conversions_break_down :
    ∃ r, ofSettings [] = .ok r ∧ r.filter.operators.custom = [] ∧
      (∃ e, r.compile [("page", .text (String.ofList (List.replicate 4301 '1')))] = .error e ∧
        e.isInvalidQuery = false) ∧
      ∃ e, r.compile [("q", .text "a\x7b4294967295\x7d")] = .error e ∧
        e.isInvalidQuery = false := by
  have hr : ∃ r, ofSettings [] = .ok r ∧ r.filter.operators.custom = [] ∧
      (∀ s, r.filter.checkSize [("page", .text s)] = .ok () ∧
        (r.readConditions [("page", .text s)]).outcome = .ok ([], {})) ∧
      ∃ request, (r.read [("q", .text "a\x7b4294967295\x7d")]).outcome = .ok request ∧
        request.search = some (.text "a\x7b4294967295\x7d") ∧
        r.search.chosen request.searchFields = ["name"] := by
    rw [ofSettings_of_known (by decide)]
    exact ⟨_, rfl, rfl, fun s => ⟨rfl, rfl⟩, _, rfl, rfl, rfl⟩
  obtain ⟨r, hset, hc, hpage, request, hread, hterm, hchosen⟩ := hr
  have overlong : Number.numeral? (String.ofList (List.replicate 4301 '1')).toList =
      .error (.numeralTooLong 4301) := by
    rw [String.toList_ofList]
    exact Number.numeral?_eq_error_iff.2 (Number.overlong_ones (Nat.le_refl 4300))
  have tree : Pattern.read "a\x7b4294967295\x7d".toList = .error .repeatTooLarge := by
    unfold Pattern.read
    unfold Pattern.readFrom
    unfold Pattern.readFrom
    rfl
  have pattern : Operator.patternCondition "a\x7b4294967295\x7d" = .error .repeatTooLarge := by
    rw [Operator.patternCondition, if_neg (by decide), Pattern.portable, Pattern.isPortable, tree]
    rfl
  have page := compile_page overlong (hpage _).1 (hpage _).2
  have search := compile_search hread hterm (by decide) (by simp [hchosen]) pattern
  exact ⟨r, hset, hc, ⟨_, page, rfl⟩, _, search, rfl⟩

end ResourceQuery
