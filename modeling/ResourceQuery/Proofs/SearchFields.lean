import ResourceQuery.Platform.Standard
import ResourceQuery.Proofs.PlainPattern
import ResourceQuery.Proofs.Satisfaction

/-!
Fields that a search reaches. A request that names fields narrows the configured ones
down, in its own order and as often as it names them; it reaches further only where no
field is configured to be narrowed.
-/

namespace ResourceQuery

namespace SearchRules

open Outcome

def named (rules : SearchRules) (requested : List String) : List String :=
  if rules.fields.isEmpty then requested else requested.filter rules.fields.contains

/-- The configured fields, narrowed down to those that a request names, if it names any. -/
def narrowed (rules : SearchRules) (requested : List String) : List String :=
  if (rules.named requested).isEmpty then rules.fields else rules.named requested

@[simp] theorem narrowed_nil (rules : SearchRules) : rules.narrowed [] = rules.fields := by
  have nothing : rules.named [] = [] := ite_self []
  rw [narrowed, nothing]
  rfl

theorem narrowed_of_configured {rules : SearchRules} (h : rules.fields ≠ [])
    (requested : List String) :
    rules.narrowed requested = rules.fields ∨
      rules.narrowed requested = requested.filter rules.fields.contains := by
  have configured : rules.named requested = requested.filter rules.fields.contains :=
    if_neg fun he => h (List.isEmpty_iff.1 he)
  rw [narrowed, configured]
  split
  · exact .inl rfl
  · exact .inr rfl

theorem mem_fields_of_mem_narrowed {rules : SearchRules} (h : rules.fields ≠ [])
    {requested : List String} {field : String} (hf : field ∈ rules.narrowed requested) :
    field ∈ rules.fields := by
  rcases narrowed_of_configured h requested with hn | hn
  · rwa [hn] at hf
  · rw [hn] at hf
    exact List.contains_iff_mem.1 (List.mem_filter.1 hf).2

theorem length_narrowed_le {rules : SearchRules} (h : rules.fields ≠ []) {requested : List String}
    (hn : (requested.filter rules.fields.contains).Nodup) :
    (rules.narrowed requested).length ≤ rules.fields.length := by
  have sub : rules.narrowed requested ⊆ rules.fields := fun _ => mem_fields_of_mem_narrowed h
  rcases narrowed_of_configured h requested with he | he
  · exact Nat.le_of_eq (congrArg List.length he)
  · exact List.Nodup.length_le_of_subset (he ▸ hn) sub

def branch (pattern field : String) : Value :=
  .entry field (.map [("$regex", .text pattern), ("$options", .text "i")])

def chosen (rules : SearchRules) (fields : Option (List String)) : List String :=
  match fields with
  | some (f :: fs) => f :: fs
  | _ => rules.fields

theorem chosen_unless_empty (rules : SearchRules) (fields : List String) :
    rules.chosen (if fields.isEmpty then none else some fields) =
      if fields.isEmpty then rules.fields else fields := by
  cases fields <;> rfl

theorem chosen_readFields (rules : SearchRules) (query : Entries Value) :
    rules.chosen (rules.readFields query) =
      rules.narrowed ((listOf ((Entries.get? query "searchFields").getD .null)).getD []) := by
  unfold readFields
  cases listOf ((Entries.get? query "searchFields").getD .null) with
  | none => exact rules.narrowed_nil.symm
  | some fields => exact rules.chosen_unless_empty (rules.named fields)

variable [Platform]

theorem exists_pattern_of_patternCondition {s : String} {c : Entries Value}
    (h : Operator.patternCondition s = .ok c) :
    ∃ pattern, c = [("$regex", .text pattern), ("$options", .text "i")] := by
  unfold Operator.patternCondition at h
  split at h
  · cases h
  · obtain ⟨p, _, rfl⟩ := map_eq_ok_iff.1 h
    exact ⟨String.ofList p, rfl⟩

theorem condition_some (rules : SearchRules) (v : Value) (fields : Option (List String)) :
    rules.condition (some v) fields =
      if v.isGiven = false ∨ (rules.chosen fields).isEmpty then .ok none
      else ((Operator.patternText v).bind Operator.patternCondition).map fun p =>
        some [("$or", .list ((rules.chosen fields).map fun f => .entry f (.map p)))] := rfl

theorem condition_eq_ok_some {rules : SearchRules} {term : Option Value}
    {fields : Option (List String)} {c : Entries Value}
    (h : rules.condition term fields = .ok (some c)) :
    rules.chosen fields ≠ [] ∧
      ∃ pattern, c = [("$or", .list ((rules.chosen fields).map (branch pattern)))] := by
  cases term with
  | none => cases h
  | some v =>
    rw [condition_some] at h
    split at h
    · cases h
    · rename_i hs
      obtain ⟨p, hp, hc⟩ := map_eq_ok_iff.1 h
      obtain ⟨_, -, hp⟩ := bind_eq_ok_iff.1 hp
      obtain ⟨pattern, rfl⟩ := exists_pattern_of_patternCondition hp
      refine ⟨fun he => hs (.inr (List.isEmpty_iff.2 he)), pattern, ?_⟩
      exact (Option.some.inj hc).symm

theorem condition_text {rules : SearchRules} {s : String} (hne : s ≠ "")
    {fields : Option (List String)} (hf : rules.chosen fields ≠ []) :
    rules.condition (some (.text s)) fields = (Operator.patternCondition s).map fun p =>
      some [("$or", .list ((rules.chosen fields).map fun f => .entry f (.map p)))] := by
  have given : ¬((Value.text s).isGiven = false ∨ (rules.chosen fields).isEmpty) :=
    fun h => h.elim (by simpa [Value.isGiven] using hne) fun he => hf (List.isEmpty_iff.1 he)
  rw [condition_some, if_neg given]
  rfl

theorem condition_of_plain {rules : SearchRules} {s : String} (hne : s ≠ "")
    (hlen : s.length ≤ Inference.maxLength) (hplain : Pattern.IsPlain s.toList)
    {fields : Option (List String)} (hf : rules.chosen fields ≠ []) :
    rules.condition (some (.text s)) fields =
      .ok (some [("$or", .list ((rules.chosen fields).map (branch s)))]) := by
  rw [condition_text hne hf, Operator.patternCondition_of_plain hlen hplain]
  rfl

end SearchRules

namespace Resource

open Outcome

def requestedFields (r : Resource) (query : Entries Value) : List String :=
  if r.skips "searchFields" then []
  else (listOf ((Entries.get? query "searchFields").getD .null)).getD []

variable [Platform] {s : Settings} {r : Resource} {query : Entries Value} {request : Request}

theorem chosen_of_read (h : (r.read query).outcome = .ok request) :
    r.search.chosen request.searchFields = r.search.narrowed (r.requestedFields query) := by
  rw [(parts_of_read h).searchFields, part, requestedFields]
  split
  · exact r.search.narrowed_nil.symm
  · exact r.search.chosen_readFields query

theorem search_of_mem_condition (hr : (r.read query).outcome = .ok request) {c : Entries Value}
    (hc : r.condition request = .ok c) {branches : Value} (hb : ("$or", branches) ∈ c) :
    ∃ search, r.search.condition request.search request.searchFields = .ok (some search) ∧
      ("$or", branches) ∈ search := by
  rw [condition_of_read hr] at hc
  obtain ⟨search, hs, rfl⟩ := map_eq_ok_iff.1 hc
  rcases List.mem_append.1 hb with hb | hb
  · cases search with
    | none => cases hb
    | some search => exact ⟨search, hs, hb⟩
  · have plain := plain_of_mem_filters hr (Entries.mem_keys_of_mem hb)
    have marked : "$or".toList.head? = some '$' := by decide
    exact absurd marked plain

theorem mem_condition_of_plain (hr : (r.read query).outcome = .ok request) {term : String}
    (ht : request.search = some (.text term)) (hne : term ≠ "")
    (hlen : term.length ≤ Inference.maxLength)
    (hplain : Pattern.IsPlain term.toList) {fields : List String}
    (hf : r.search.chosen request.searchFields = fields) (hfields : fields ≠ []) :
    ∃ c, r.condition request = .ok c ∧
      ("$or", .list (fields.map (SearchRules.branch term))) ∈ c := by
  subst hf
  rw [condition_of_read hr, ht, SearchRules.condition_of_plain hne hlen hplain hfields]
  exact ⟨_, rfl, List.mem_append_left _ (List.mem_singleton_self _)⟩

/-- A search looks in the configured fields that the request names, in all of them when it
names none. It looks in no other field just when some field is configured, and then in no more
fields than are configured, unless the request names one of them again. -/
theorem search_branches (h : ofSettings s = .ok r) (hr : (r.read query).outcome = .ok request)
    {c : Entries Value} (hc : r.condition request = .ok c) {branches : Value}
    (hb : ("$or", branches) ∈ c) :
    ∃ pattern fields, branches = .list (fields.map (SearchRules.branch pattern)) ∧
      fields = r.search.narrowed (r.requestedFields query) ∧ fields ≠ [] ∧
      ((∀ field ∈ fields, field ∈ s.searchFields) ↔ s.searchFields ≠ []) ∧
      (s.searchFields ≠ [] → ((r.requestedFields query).filter s.searchFields.contains).Nodup →
        fields.length ≤ s.searchFields.length) := by
  obtain ⟨search, hs, hmem⟩ := search_of_mem_condition hr hc hb
  obtain ⟨hne, pattern, rfl⟩ := SearchRules.condition_eq_ok_some hs
  rw [chosen_of_read hr] at hne hmem
  have value : branches = .list ((r.search.narrowed (r.requestedFields query)).map
      (SearchRules.branch pattern)) := by
    simpa using hmem
  rw [← (isSetUpBy_of_ofSettings h).searchFields]
  refine ⟨pattern, _, value, rfl, hne, ⟨fun hall hempty => ?_, fun hconf field => ?_⟩, ?_⟩
  · -- a field that is searched would have to be among no fields
    obtain ⟨field, hf⟩ := List.exists_mem_of_ne_nil _ hne
    have hmem := hall field hf
    rw [hempty] at hmem
    cases hmem
  · exact SearchRules.mem_fields_of_mem_narrowed hconf
  · exact fun hconf hnodup => SearchRules.length_narrowed_le hconf hnodup

end Resource

theorem Resource.search_branches_email :
    let s : Settings := [("search_fields", .data (.list [.text "name", .text "email"]))]
    let query : Entries Value := [("q", .text "jo"), ("searchFields", .text "email, password")]
    ∃ r, ofSettings s = .ok r ∧ ∃ request, (r.read query).outcome = .ok request ∧
      ∃ c branches, r.condition request = .ok c ∧ ("$or", branches) ∈ c ∧
        ∃ pattern, branches = .list [SearchRules.branch pattern "email"] := by
  intro s query
  have hr : ∃ r, ofSettings s = .ok r ∧ r.search = .make (some ["name", "email"]) ∧
      r.requestedFields query = ["email", "password"] ∧ ∃ request,
        (r.read query).outcome = .ok request ∧ request.search = some (.text "jo") ∧
          r.search.chosen request.searchFields = ["email"] := by
    rw [ofSettings_of_known (by decide)]
    exact ⟨_, rfl, rfl, rfl, _, rfl, rfl, rfl⟩
  obtain ⟨r, h, hrules, hrequested, request, hread, hterm, hchosen⟩ := hr
  obtain ⟨c, hc, hb⟩ := mem_condition_of_plain hread hterm (by decide) (by decide) (by decide)
    hchosen (by decide)
  obtain ⟨pattern, fields, hv, hf, _⟩ := search_branches h hread hc hb
  rw [hrules, hrequested] at hf
  exact ⟨r, h, request, hread, c, _, hc, hb, pattern, hv.trans (by rw [hf]; rfl)⟩

/-- A request extends a search that is configured to look nowhere, and it makes a search of
one field look there twice. -/
theorem Resource.search_escapes_configuration :
    (let s : Settings := [("search_fields", .data (.list []))]
     let query : Entries Value := [("search", .text "x"), ("searchFields", .text "secret")]
     "secret" ∉ s.searchFields ∧
      ∃ r, ofSettings s = .ok r ∧ ∃ request, (r.read query).outcome = .ok request ∧
        ∃ c, r.condition request = .ok c ∧
          ("$or", .list [SearchRules.branch "x" "secret"]) ∈ c) ∧
    (let s : Settings := [("search_fields", .data (.list [.text "name"]))]
     let query : Entries Value := [("search", .text "x"), ("searchFields", .text "name,name")]
     s.searchFields.length = 1 ∧
      ∃ r, ofSettings s = .ok r ∧ ∃ request, (r.read query).outcome = .ok request ∧
        ∃ c, r.condition request = .ok c ∧
          ("$or", .list [SearchRules.branch "x" "name", SearchRules.branch "x" "name"]) ∈ c) := by
  constructor
  · intro s query
    have hr : ∃ r, ofSettings s = .ok r ∧ ∃ request, (r.read query).outcome = .ok request ∧
        request.search = some (.text "x") ∧ r.search.chosen request.searchFields = ["secret"] := by
      rw [ofSettings_of_known (by decide)]
      exact ⟨_, rfl, _, rfl, rfl, rfl⟩
    obtain ⟨r, h, request, hread, hterm, hchosen⟩ := hr
    exact ⟨by decide, r, h, request, hread, mem_condition_of_plain hread hterm (by decide)
      (by decide) (by decide) hchosen (by decide)⟩
  · intro s query
    have hr : ∃ r, ofSettings s = .ok r ∧ ∃ request, (r.read query).outcome = .ok request ∧
        request.search = some (.text "x") ∧
          r.search.chosen request.searchFields = ["name", "name"] := by
      rw [ofSettings_of_known (by decide)]
      exact ⟨_, rfl, _, rfl, rfl, rfl⟩
    obtain ⟨r, h, request, hread, hterm, hchosen⟩ := hr
    exact ⟨rfl, r, h, request, hread, mem_condition_of_plain hread hterm (by decide)
      (by decide) (by decide) hchosen (by decide)⟩

end ResourceQuery
