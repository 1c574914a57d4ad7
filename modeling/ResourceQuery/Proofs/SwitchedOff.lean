import ResourceQuery.Platform.Standard
import ResourceQuery.Proofs.Reading
import ResourceQuery.Proofs.Setup

/-!
Sections that are switched off. Switching sections off changes no other setting, and a query
that can be read with all of its sections can be read with any of them switched off: the
request is the same but for their parts, which are as the settings have them by default.
-/

namespace ResourceQuery

namespace Settings

def flagged (s : Settings) (flags : Entries Value) : Settings :=
  Entries.put s skips (.data (.map flags))

@[simp] theorem flags_flagged (s : Settings) (flags : Entries Value) :
    (s.flagged flags).flags = flags := by
  rw [Settings.flags, given?, flagged, Entries.get?_put_self]
  rfl

@[simp] theorem arguments_flagged (s : Settings) (flags : Entries Value) (sec : Section) :
    arguments (s.flagged flags) sec = arguments s sec := by
  refine arguments_congr fun name owned => ?_
  have other : name ≠ skips := by
    rintro rfl
    revert owned
    cases sec <;> decide
  rw [given?, flagged, Entries.get?_put_of_ne _ _ other]
  rfl

def off (flags : Entries Value) (name : String) : Bool :=
  (Entries.get? flags name).any Value.isGiven

@[simp] theorem unknown_flagged (s : Settings) (flags : Entries Value) :
    unknown (s.flagged flags) knownNames = unknown s knownNames := by
  have known : ([skips].filter fun name => !knownNames.contains name) = [] := by decide
  rw [unknown, flagged, Entries.keys_put]
  split
  · rfl
  · rw [List.filter_append, known, List.append_nil]
    rfl

end Settings

namespace Resource

open Outcome Settings

theorem ofSettings_flagged (s : Settings) (flags : Entries Value) :
    ofSettings (s.flagged flags) = (ofSettings s).map fun r => { r with skipped := flags } := by
  simp only [ofSettings_eq, arguments_flagged, unknown_flagged, flags_flagged]
  cases filterRules (arguments s .filter) with
  | error e => rfl
  | ok filter =>
    cases pagingRules (arguments s .limit) with
    | error e => rfl
    | ok paging =>
      cases sortRules (arguments s .sort) with
      | error e => rfl
      | ok sort => cases unknown s knownNames <;> rfl

end Resource

namespace Request

def sections : List String :=
  ["filters", "page", "limit", "sort", "search", "searchFields", "include", "exclude", "lookup",
    "format"]

/-- The request with the parts of some sections as they are by default. -/
def without (request : Request) (s : Settings) (off : String → Bool) : Request where
  filters := if off "filters" then [] else request.filters
  lengths := if off "filters" then {} else request.lengths
  page := if off "page" then 1 else request.page
  limit := if off "limit" then s.pageSize else request.limit
  sort := if off "sort" then s.defaultSort else request.sort
  search := if off "search" then none else request.search
  searchFields := if off "searchFields" then none else request.searchFields
  included := if off "include" then none else request.included
  excluded := if off "exclude" then none else request.excluded
  lookups := if off "lookup" then none else request.lookups
  format := if off "format" then none else request.format

theorem without_congr (request : Request) (s : Settings) {off off' : String → Bool}
    (h : ∀ name ∈ sections, off name = off' name) :
    request.without s off = request.without s off' := by
  simp only [sections, List.forall_mem_cons] at h
  obtain ⟨filters, page, limit, sort, search, searchFields, included, excluded, lookups, format,
    -⟩ := h
  rw [without, filters, page, limit, sort, search, searchFields, included, excluded, lookups,
    format]
  rfl

end Request

namespace Resource

open Outcome

variable [Platform] {s : Settings} {r : Resource} {query : Entries Value} {request : Request}

theorem reading_without (h : ofSettings s = .ok r) (unskipped : ∀ name, r.skips name = false)
    (hr : r.reading query = .ok request) (flags : Entries Value) :
    ({ r with skipped := flags } : Resource).reading query =
      .ok (request.without s (Settings.off flags)) := by
  have off_eq (name : String) :
      ({ r with skipped := flags } : Resource).skips name = Settings.off flags name := by
    unfold skips Settings.off
    cases Entries.get? flags name <;> rfl
  cases request
  obtain ⟨size, conditions, ⟨page, limit, paging, rfl, rfl⟩, term, exported, rfl, rfl, rfl, rfl,
    rfl⟩ := reading_eq_ok_iff.1 hr
  simp only [conditionsOf, readTerm, exportOf, unskipped, Bool.false_eq_true,
    if_false] at conditions term exported
  simp only [reading, conditionsOf, readTerm, exportOf, part, off_eq, unskipped, size, conditions,
    paging, term, exported, Request.without, ← (isSetUpBy_of_ofSettings h).pageSize,
    ← (isSetUpBy_of_ofSettings h).defaultSort]
  -- only these three sections can fail
  cases Settings.off flags "filters" <;> cases Settings.off flags "search" <;>
    cases Settings.off flags "format" <;> rfl

/-- A query that can be read with all its sections can be read with any of them switched off,
and only their parts are set back. Other flags change nothing. -/
theorem read_switched_off (h : ofSettings s = .ok r) (unskipped : ∀ name, r.skips name = false)
    (hr : (r.read query).outcome = .ok request) (flags : Entries Value) :
    ∃ flagged, ofSettings (s.flagged flags) = .ok flagged ∧
      (flagged.read query).outcome = .ok (request.without s (Settings.off flags)) ∧
      ∀ name ∉ Request.sections, ∀ v, ∃ other,
        ofSettings (s.flagged (Entries.put flags name v)) = .ok other ∧
          (other.read query).outcome = (flagged.read query).outcome := by
  rw [r.outcome_read] at hr
  have made (flags : Entries Value) :
      ofSettings (s.flagged flags) = .ok { r with skipped := flags } := by
    rw [ofSettings_flagged, h]
    rfl
  have read (flags : Entries Value) :
      (({ r with skipped := flags } : Resource).read query).outcome =
        .ok (request.without s (Settings.off flags)) := by
    rw [outcome_read]
    exact reading_without h unskipped hr flags
  refine ⟨_, made flags, read flags, fun name unknown v => ⟨_, made _, ?_⟩⟩
  rw [read, read]
  refine congrArg Except.ok (request.without_congr s fun own known => ?_)
  have other : own ≠ name := fun heq => unknown (heq ▸ known)
  rw [Settings.off, Entries.get?_put_of_ne _ _ other]
  rfl

end Resource

theorem Resource.read_switched_off_limit :
    let s : Settings := [("max_limit", .data (.int 50)), ("default_limit", .data (.int 75)),
      ("default_sort", .data (.map [("rank", .int 1)])),
      ("filter_fields", .data (.list [.text "*"]))]
    let query : Entries Value := [("filters[role]", .text "admin"), ("page", .text "3"),
      ("limit", .text "20"), ("sort", .text "createdAt:desc"), ("format", .text "csv")]
    let flags : Entries Value := [("limit", .bool true), ("sort", .int 1), ("page", .bool false),
      ("filters", .bool true), ("query", .bool true)]
    ∃ r, ofSettings s = .ok r ∧ (∀ name, r.skips name = false) ∧
      ∃ request, (r.read query).outcome = .ok request ∧
      Entries.keys request.filters = ["role"] ∧
      ∃ flagged, ofSettings (s.flagged flags) = .ok flagged ∧ (flagged.read query).outcome =
        .ok { page := 3, limit := 50, sort := [("rank", .int 1)], format := some "csv" } := by
  intro s query flags
  have hs : ∃ r, ofSettings s = .ok r ∧ r.skipped = [] ∧ ∃ request,
      (r.read query).outcome = .ok request ∧ Entries.keys request.filters = ["role"] ∧
      request.without s (Settings.off flags) =
        { page := 3, limit := 50, sort := [("rank", .int 1)], format := some "csv" } := by
    rw [ofSettings_of_known (by decide)]
    exact ⟨_, rfl, rfl, _, rfl, rfl, rfl⟩
  obtain ⟨r, h, hskip, request, hr, filtered, rest⟩ := hs
  have unskipped (name : String) : r.skips name = false := by
    rw [skips, hskip]
    rfl
  obtain ⟨flagged, made, read, -⟩ := read_switched_off h unskipped hr flags
  exact ⟨r, h, unskipped, request, hr, filtered, flagged, made, rest ▸ read⟩

end ResourceQuery
