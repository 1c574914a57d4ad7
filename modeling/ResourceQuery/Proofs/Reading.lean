import ResourceQuery.Request
import ResourceQuery.Proofs.Asked

/-!
What a request is made of. A query that is read makes a request whose parts each come
of the query alone: filters and lengths are what it asks for, and a section that is
switched off leaves its part as it was.
-/

namespace ResourceQuery

namespace SearchRules

variable {query : Entries Value} {v : Value}

structure IsTerm (query : Entries Value) (v : Value) : Prop where
  stands : ∃ key, (key = "search" ∨ key = "q") ∧ (key, v) ∈ query
  given : v.isGiven = true
  short : ∃ length, v.length? = some length ∧ length ≤ Inference.maxLength

theorem given_of_lookup {key : String}
    (h : ((Entries.get? query key).bind fun v => if v.isGiven then some v else none) = some v) :
    (key, v) ∈ query ∧ v.isGiven = true := by
  obtain ⟨w, hw, hg⟩ := Option.bind_eq_some_iff.1 h
  split at hg
  · cases hg
    exact ⟨Entries.mem_of_get? hw, by assumption⟩
  · cases hg

theorem readTerm_cases (query : Entries Value) :
    readTerm query = .ok none ∨ ∃ key v, (key = "search" ∨ key = "q") ∧ (key, v) ∈ query ∧
      v.isGiven = true ∧ readTerm query =
        match v.length? with
        | none => .error (.unmeasurable v.kind)
        | some length =>
          if Inference.maxLength < length then .error (.valueTooLong length Inference.maxLength)
          else .ok (some v) := by
  unfold readTerm
  extract_lets term
  cases hs : term "search" with
  | some v =>
    obtain ⟨stands, given⟩ := given_of_lookup hs
    exact .inr ⟨"search", v, .inl rfl, stands, given, rfl⟩
  | none =>
    cases hq : term "q" with
    | some v =>
      obtain ⟨stands, given⟩ := given_of_lookup hq
      exact .inr ⟨"q", v, .inr rfl, stands, given, rfl⟩
    | none => exact .inl rfl

theorem isTerm_of_readTerm (h : readTerm query = .ok (some v)) : IsTerm query v := by
  rcases readTerm_cases query with read | ⟨key, w, hk, stands, given, read⟩
  · cases read.symm.trans h
  · rw [read] at h
    split at h
    · cases h
    · rename_i length measured
      split at h
      · cases h
      · rename_i short
        cases h
        exact ⟨⟨key, hk, stands⟩, given, length, measured, Nat.not_lt.1 short⟩

theorem IsTerm.text (h : IsTerm query v) (texts : ∀ e ∈ query, ∃ s, e.2 = .text s) :
    ∃ s, v = .text s ∧ s ≠ "" ∧ s.length ≤ Inference.maxLength := by
  obtain ⟨⟨key, -, stands⟩, given, length, measured, short⟩ := h
  obtain ⟨s, rfl⟩ := texts _ stands
  cases measured
  exact ⟨s, rfl, of_decide_eq_true given, short⟩

end SearchRules

namespace Resource

open Logged Outcome

def formatOf (v : Value) : Except QueryError (Option String) :=
  if v.isGiven then v.spelled.map fun s => if exportFormats.contains s then some s else none
  else .ok none

theorem gives_readFormat {P : QueryError → Prop} {v : Value} (h : FailsBy P v.spelled) :
    Gives P (readFormat v) (formatOf v) := by
  unfold readFormat formatOf
  cases v.isGiven with
  | false => exact gives_pure none
  | true =>
    refine (gives_lift h).bind_ok fun s => ?_
    cases exportFormats.contains s with
    | true => exact gives_pure (some s)
    | false => exact gives_note rfl none

variable [Platform] (r : Resource) (query : Entries Value)

def conditionsOf : Except QueryError (Entries Value × LengthFilter) :=
  if r.skips "filters" then .ok ([], {}) else r.filter.reading query

def exportOf : Except QueryError (Option String) :=
  if r.skips "format" then .ok none else formatOf ((Entries.get? query "format").getD .null)

def reading : Except QueryError Request := do
  r.filter.checkSize query
  let (filters, lengths) ← r.conditionsOf query
  let (page, limit) ← r.paging.read query
  let search ← r.readTerm query
  let format ← r.exportOf query
  return {
    filters, lengths, search, format
    page := if r.skips "page" then 1 else page
    limit := if r.skips "limit" then r.paging.defaultLimit else limit
    sort := if r.skips "sort" then r.sort.default else r.sort.read query
    searchFields := r.part "searchFields" (r.search.readFields query)
    included := r.part "include" (r.projection.readIncluded query)
    excluded := r.part "exclude" (ProjectionRules.readExcluded query)
    lookups := r.part "lookup" (ProjectionRules.readLookups query) }

structure FailsAt (P : QueryError → Prop) : Prop where
  size : FailsBy P (r.filter.checkSize query)
  filters : ∀ e ∈ query, r.filter.FailsAt P e
  paging : FailsBy P (r.paging.read query)
  search : FailsBy P (r.readTerm query)
  format : FailsBy P ((Entries.get? query "format").getD .null).spelled

variable {r query} {P : QueryError → Prop}

theorem gives_readConditions (h : r.FailsAt query P) :
    Gives P (r.readConditions query) (r.conditionsOf query) := by
  unfold readConditions conditionsOf
  split
  · exact gives_pure _
  · exact FilterRules.gives_read h.size h.filters

theorem gives_readExport (h : r.FailsAt query P) :
    Gives P (r.readExport query) (r.exportOf query) := by
  unfold readExport exportOf
  split
  · exact gives_pure none
  · exact gives_readFormat h.format

theorem gives_read (h : r.FailsAt query P) : Gives P (r.read query) (r.reading query) := by
  unfold read reading
  refine (gives_lift h.size).bind fun _ => (gives_readConditions h).bind ?_
  rintro ⟨filters, lengths⟩
  refine (gives_lift h.paging).bind ?_
  rintro ⟨page, limit⟩
  exact (gives_lift h.search).bind fun search => (gives_readExport h).bind fun format =>
    gives_pure _

variable (r query)

theorem failsAt_any : r.FailsAt query fun _ => True where
  size := failsBy_any _
  filters e _ := r.filter.failsAt_any e
  paging := failsBy_any _
  search := failsBy_any _
  format := failsBy_any _

theorem outcome_readConditions : (r.readConditions query).outcome = r.conditionsOf query :=
  (gives_readConditions (r.failsAt_any query)).outcome_eq

theorem outcome_read : (r.read query).outcome = r.reading query :=
  (gives_read (r.failsAt_any query)).outcome_eq

variable {r query} {request : Request}

/-- The parts of a request, each of which is read by itself or as it is by default. -/
structure Parts (r : Resource) (query : Entries Value) (request : Request) : Prop where
  size : r.filter.checkSize query = .ok ()
  conditions : r.conditionsOf query = .ok (request.filters, request.lengths)
  paging : ∃ page limit, r.paging.read query = .ok (page, limit) ∧
    request.page = (if r.skips "page" then 1 else page) ∧
    request.limit = if r.skips "limit" then r.paging.defaultLimit else limit
  search : r.readTerm query = .ok request.search
  format : r.exportOf query = .ok request.format
  sort : request.sort = if r.skips "sort" then r.sort.default else r.sort.read query
  searchFields : request.searchFields = r.part "searchFields" (r.search.readFields query)
  included : request.included = r.part "include" (r.projection.readIncluded query)
  excluded : request.excluded = r.part "exclude" (ProjectionRules.readExcluded query)
  lookups : request.lookups = r.part "lookup" (ProjectionRules.readLookups query)

theorem reading_eq_ok_iff : r.reading query = .ok request ↔ r.Parts query request := by
  constructor
  · intro h
    obtain ⟨_, size, h⟩ := bind_eq_ok_iff.1 h
    obtain ⟨_, conditions, h⟩ := bind_eq_ok_iff.1 h
    obtain ⟨⟨page, limit⟩, paging, h⟩ := bind_eq_ok_iff.1 h
    obtain ⟨_, search, h⟩ := bind_eq_ok_iff.1 h
    obtain ⟨_, format, h⟩ := bind_eq_ok_iff.1 h
    cases h
    exact ⟨size, conditions, ⟨page, limit, paging, rfl, rfl⟩, search, format, rfl, rfl, rfl, rfl,
      rfl⟩
  · intro parts
    cases request
    obtain ⟨size, conditions, ⟨page, limit, paging, rfl, rfl⟩, search, format, rfl, rfl, rfl, rfl,
      rfl⟩ := parts
    rw [reading, size, conditions, paging, search, format]
    rfl

theorem parts_of_read (h : (r.read query).outcome = .ok request) : r.Parts query request :=
  reading_eq_ok_iff.1 (r.outcome_read query ▸ h)

theorem Parts.isTerm (parts : r.Parts query request) {v : Value}
    (hv : request.search = some v) : SearchRules.IsTerm query v := by
  have term := parts.search
  rw [hv, readTerm] at term
  split at term
  · cases term
  · exact SearchRules.isTerm_of_readTerm term

theorem conditions_of_read (h : (r.read query).outcome = .ok request) :
    request.filters = [] ∧ request.lengths = {} ∨
      ∃ asked : Asked r.filter query,
        request.filters = asked.filters ∧ request.lengths = asked.lengths := by
  have conditions := (parts_of_read h).conditions
  rw [conditionsOf] at conditions
  split at conditions
  · obtain ⟨filters, lengths⟩ := Prod.mk.inj (Except.ok.inj conditions)
    exact .inl ⟨filters.symm, lengths.symm⟩
  · obtain ⟨asked, ha⟩ := Asked.exists_of_reading conditions
    exact .inr ⟨asked, congrArg Prod.fst ha, congrArg Prod.snd ha⟩

end Resource
end ResourceQuery
