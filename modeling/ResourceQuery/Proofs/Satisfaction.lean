import ResourceQuery.Pipeline
import ResourceQuery.Platform.Standard
import ResourceQuery.Proofs.AllowList
import ResourceQuery.Proofs.PlainPattern

/-!
What a pipeline selects. Conditions are read by any relation to documents in which a
condition is met entry by entry and a conjunction part by part. Under each of them the
condition of a pipeline is the conjunction of all its sources: search, filters, the
hiding of deleted documents, and the forced condition.
-/

namespace ResourceQuery

universe u

/-- When documents meet conditions. Entries other than conjunctions are met by whatever
documents one likes. -/
structure Satisfaction (δ : Type u) where
  holds : Entries Value → δ → Prop
  holds_iff (c : Entries Value) (d : δ) : holds c d ↔ ∀ e ∈ c, holds [e] d
  holds_and (cs : List (Entries Value)) (d : δ) :
    holds [("$and", .list (cs.map Value.map))] d ↔ ∀ c ∈ cs, holds c d

namespace Satisfaction

variable {δ : Type u} (S : Satisfaction δ)

@[simp] theorem holds_nil (d : δ) : S.holds [] d := (S.holds_iff [] d).2 nofun

@[simp] theorem holds_append (a b : Entries Value) (d : δ) :
    S.holds (a ++ b) d ↔ S.holds a d ∧ S.holds b d := by
  rw [S.holds_iff, List.forall_mem_append, ← S.holds_iff, ← S.holds_iff]

theorem holds_bothOf (a b : Entries Value) (d : δ) :
    S.holds (bothOf a b) d ↔ S.holds a d ∧ S.holds b d := by
  unfold bothOf
  split
  · rename_i hb
    rw [List.isEmpty_iff.1 hb]
    simp
  split
  · rename_i ha
    rw [List.isEmpty_iff.1 ha]
    simp
  split
  · have h := S.holds_and [a, b] d
    simpa using h
  · exact S.holds_append a b d

theorem holds_hideDeleted (query : Entries Value) (d : δ) :
    S.holds (Pipeline.hideDeleted query) d ↔ S.holds query d ∧
      (Entries.has query "deletedAt" = false →
        S.holds [("deletedAt", .entry "$exists" (.bool false))] d) := by
  unfold Pipeline.hideDeleted Pipeline.deletionField
  cases Entries.has query "deletedAt" with
  | true => simp
  | false => simp

mutual

def meets (test : String → Value → Bool) : Value → Bool
  | .map es => meetsEntries test es
  | _ => false

def meetsEntries (test : String → Value → Bool) : List (String × Value) → Bool
  | [] => true
  | (key, .list cs) :: es =>
    (if key = "$and" then meetsEach test cs else test key (.list cs)) && meetsEntries test es
  | (key, v) :: es => test key v && meetsEntries test es

def meetsEach (test : String → Value → Bool) : List Value → Bool
  | [] => true
  | c :: cs => meets test c && meetsEach test cs

end

theorem meetsEntries_iff (test : String → Value → Bool) (es : Entries Value) :
    meetsEntries test es = true ↔ ∀ e ∈ es, meetsEntries test [e] = true := by
  induction es with
  | nil => simp [meetsEntries]
  | cons e es ih =>
    obtain ⟨key, v⟩ := e
    rw [List.forall_mem_cons, ← ih]
    cases v <;> simp [meetsEntries]

theorem meetsEach_iff (test : String → Value → Bool) (cs : List (Entries Value)) :
    meetsEach test (cs.map Value.map) = true ↔ ∀ c ∈ cs, meetsEntries test c = true := by
  induction cs with
  | nil => simp [meetsEach]
  | cons c cs ih => simp [meetsEach, meets, ih]

def ofTest {δ : Type u} (test : δ → String → Value → Bool) : Satisfaction δ where
  holds c d := meetsEntries (test d) c = true
  holds_iff c d := meetsEntries_iff (test d) c
  holds_and cs d := by
    rw [← meetsEach_iff]
    simp [meetsEntries]

end Satisfaction

namespace SearchRules

open Outcome

theorem keys_of_condition [Platform] {rules : SearchRules} {term : Option Value}
    {fields : Option (List String)} {c : Entries Value}
    (h : rules.condition term fields = .ok (some c)) : Entries.keys c = ["$or"] := by
  cases term with
  | none => cases h
  | some v =>
    have disjunction (searched : List String)
        (h : (if v.isGiven = false ∨ searched.isEmpty then .ok none
          else ((Operator.patternText v).bind Operator.patternCondition).map fun p =>
            some [("$or", .list (searched.map fun f => .entry f (.map p)))]) = .ok (some c)) :
        Entries.keys c = ["$or"] := by
      split at h
      · cases h
      · obtain ⟨p, _, hp⟩ := map_eq_ok_iff.1 h
        cases hp
        rfl
    exact disjunction _ h

end SearchRules

namespace Resource

variable [Platform] {r : Resource} {query : Entries Value} {request : Request}

theorem plain_of_mem_filters (h : (r.read query).outcome = .ok request) {field : String}
    (hf : field ∈ Entries.keys request.filters) : field.toList.head? ≠ some '$' := by
  rcases conditions_of_read h with ⟨hn, _⟩ | ⟨asked, ha, _⟩
  · rw [hn] at hf
    cases hf
  · rw [ha] at hf
    obtain ⟨c, hc, rfl⟩ := Asked.mem_keys_filters.1 hf
    exact (FilterRules.allows_iff.1 (Asked.allows_of_mem_conditions hc)).2.1

theorem nodup_filters (h : (r.read query).outcome = .ok request) :
    (Entries.keys request.filters).Nodup := by
  rcases conditions_of_read h with ⟨hn, _⟩ | ⟨asked, ha, _⟩
  · rw [hn]
    exact .nil
  · rw [ha]
    exact asked.nodup_keys_filters

theorem putAll_search (h : (r.read query).outcome = .ok request)
    {search : Option (Entries Value)}
    (hs : r.search.condition request.search request.searchFields = .ok search) :
    Entries.putAll (search.getD []) request.filters = search.getD [] ++ request.filters := by
  refine Entries.putAll_eq_append (nodup_filters h) fun field hf => ?_
  cases search with
  | none => exact List.not_mem_nil
  | some c =>
    intro hm
    rw [Option.getD_some, SearchRules.keys_of_condition hs, List.mem_singleton] at hm
    exact plain_of_mem_filters h hf (by rw [hm]; rfl)

theorem condition_of_read (h : (r.read query).outcome = .ok request) :
    r.condition request = (r.search.condition request.search request.searchFields).map
      fun search => search.getD [] ++ request.filters := by
  rw [condition]
  split
  · rename_i hskip
    have ht := (parts_of_read h).search
    rw [readTerm, if_pos hskip] at ht
    have hs : r.search.condition request.search request.searchFields = .ok none := by
      rw [← Except.ok.inj ht]
      rfl
    rw [hs]
    exact congrArg Except.ok (putAll_search h hs)
  · cases hs : r.search.condition request.search request.searchFields with
    | error e => rfl
    | ok search => exact congrArg Except.ok (putAll_search h hs)

end Resource

namespace Pipeline

variable {δ : Type u} (S : Satisfaction δ) {p : Pipeline} {query : Entries Value}
  {request : Request} {context : Value}

/-- What a pipeline asks of a document, source by source. -/
structure Selects (S : Satisfaction δ) (p : Pipeline) (request : Request) (context : Value)
    (search : Option (Entries Value)) (d : δ) : Prop where
  search : ∀ c ∈ search, S.holds c d
  filters : ∀ e ∈ request.filters, S.holds [e] d
  undeleted : p.softDelete = true → Entries.has request.filters "deletedAt" = false →
    S.holds [("deletedAt", .entry "$exists" (.bool false))] d
  forced : ∀ f ∈ p.forced, S.holds (forcedCondition context f) d

def restricted (p : Pipeline) (context : Value) (query : Entries Value) : Entries Value :=
  let query := if p.softDelete then hideDeleted query else query
  match p.forced with
  | none => query
  | some f => bothOf query (forcedCondition context f)

theorem holds_restricted (p : Pipeline) (context : Value) (query : Entries Value) (d : δ) :
    S.holds (p.restricted context query) d ↔ S.holds query d ∧
      (p.softDelete = true → Entries.has query "deletedAt" = false →
        S.holds [("deletedAt", .entry "$exists" (.bool false))] d) ∧
      ∀ f ∈ p.forced, S.holds (forcedCondition context f) d := by
  have visible : S.holds (if p.softDelete then hideDeleted query else query) d ↔
      S.holds query d ∧ (p.softDelete = true → Entries.has query "deletedAt" = false →
        S.holds [("deletedAt", .entry "$exists" (.bool false))] d) := by
    cases p.softDelete with
    | true => simpa using S.holds_hideDeleted query d
    | false => simp
  unfold restricted
  cases p.forced with
  | none => simpa using visible
  | some f => simpa [S.holds_bothOf, and_assoc] using and_congr_left' visible

variable [Platform]

theorem condition_eq_map (ht : p.transform = none) (request : Request) (context : Value) :
    p.condition request context =
      (p.resource.condition request).map (p.restricted context) := by
  rw [condition, ht]
  rfl

theorem holds_restricted_iff_selects {search : Option (Entries Value)}
    (hs : p.resource.search.condition request.search request.searchFields = .ok search)
    (d : δ) : S.holds (p.restricted context (search.getD [] ++ request.filters)) d ↔
      Selects S p request context search d := by
  have hsearch : S.holds (search.getD []) d ↔ ∀ c ∈ search, S.holds c d := by
    cases search <;> simp
  have hhas : Entries.has (search.getD [] ++ request.filters) "deletedAt" =
      Entries.has request.filters "deletedAt" := by
    have hn : "deletedAt" ∉ Entries.keys (search.getD []) := by
      cases search with
      | none => exact List.not_mem_nil
      | some c =>
        rw [Option.getD_some, SearchRules.keys_of_condition hs]
        decide
    rw [Bool.eq_iff_iff, Entries.has_iff, Entries.has_iff, Entries.keys_append,
      List.mem_append, or_iff_right hn]
  rw [holds_restricted, S.holds_append, hsearch, hhas, S.holds_iff request.filters]
  exact ⟨fun ⟨⟨hc, hf⟩, hu, hp⟩ => ⟨hc, hf, hu, hp⟩,
    fun h => ⟨⟨h.search, h.filters⟩, h.undeleted, h.forced⟩⟩

theorem selection_eq_ok {c : Entries Value} (hc : p.condition request context = .ok c)
    (hq : p.resource.skips "query" = false) (custom : Option (List Value)) :
    ∃ rest, p.selection request context custom = .ok (.entry "$match" (.map c) :: rest) := by
  rw [selection, hc]
  simp only [Except.map, hq]
  exact ⟨_, rfl⟩

/-- A pipeline selects by all that is asked for together: by the search, by every filter,
by deletion unless a filter speaks of it, and by the forced condition. It has no condition
only when the search has none to give, and the condition it has comes before all stages. -/
theorem condition_selects (ht : p.transform = none)
    (hr : (p.resource.read query).outcome = .ok request) (context : Value) :
    (∀ e, p.resource.search.condition request.search request.searchFields = .error e →
      p.condition request context = .error e) ∧
    ∀ search, p.resource.search.condition request.search request.searchFields = .ok search →
      ∃ c, p.condition request context = .ok c ∧
        (∀ d, S.holds c d ↔ Selects S p request context search d) ∧
        (p.resource.skips "query" = false → ∀ custom,
          (∃ rest, p.selection request context custom =
            .ok (.entry "$match" (.map c) :: rest)) ∧
          (∃ rest, p.build request context custom =
            .ok (.entry "$match" (.map c) :: rest)) ∧
          ∀ sorted, ∃ rest, p.buildExport request context custom sorted =
            .ok (.entry "$match" (.map c) :: rest)) := by
  have hcond := condition_eq_map ht request context
  rw [Resource.condition_of_read hr] at hcond
  refine ⟨fun e he => ?_, fun search hs => ?_⟩
  · rw [hcond, he]
    rfl
  · rw [hs] at hcond
    refine ⟨_, hcond, fun d => holds_restricted_iff_selects S hs d, fun hq custom => ?_⟩
    obtain ⟨rest, hsel⟩ := selection_eq_ok hcond hq custom
    refine ⟨⟨rest, hsel⟩, ?_, fun sorted => ?_⟩
    · rw [build, hsel]
      exact ⟨_, rfl⟩
    · rw [buildExport, hsel]
      exact ⟨_, rfl⟩

end Pipeline

theorem Pipeline.condition_selects_guest :
    let query : Entries Value := [("q", .text "a"), ("role", .text "admin")]
    let S : Satisfaction (Entries Value) := .ofTest fun d key v =>
      v.text?.isNone || ((Entries.get? d key).bind Value.text? == v.text?)
    ∃ r, Resource.ofSettings [("filter_fields", .data (.list [.text "role"]))] = .ok r ∧
      ∃ request, (r.read query).outcome = .ok request ∧
        let p : Pipeline :=
          { resource := r, softDelete := true, forced := some (.always [("role", .text "guest")]) }
        ∃ c, p.condition request .null = .ok c ∧ ∀ d, ¬S.holds c d := by
  intro query S
  have hr : ∃ r, Resource.ofSettings [("filter_fields", .data (.list [.text "role"]))] = .ok r ∧
      r.search = .make none ∧ ∃ request, (r.read query).outcome = .ok request ∧
        request.search = some (.text "a") ∧ request.searchFields = none ∧
        request.filters = [("role", .text "admin")] := by
    rw [Resource.ofSettings_of_known (by decide)]
    exact ⟨_, rfl, rfl, _, rfl, rfl, rfl, rfl⟩
  obtain ⟨r, hset, hrules, request, hread, hterm, hfields, hfilters⟩ := hr
  have hpattern : Operator.patternCondition "a" =
      .ok [("$regex", .text "a"), ("$options", .text "i")] :=
    Operator.patternCondition_of_plain (by decide) (by decide)
  have hsearch : r.search.condition request.search request.searchFields =
      .ok (some [("$or", .list [.entry "name"
        (.map [("$regex", .text "a"), ("$options", .text "i")])])]) := by
    rw [hrules, hterm, hfields]
    simp [SearchRules.condition, SearchRules.make, Value.isGiven, Operator.patternText,
      Except.bind, hpattern, Except.map]
  refine ⟨r, hset, request, hread, ?_⟩
  intro p
  obtain ⟨c, hc, hsel, _⟩ :=
    (condition_selects S (p := p) rfl hread .null).2 _ hsearch
  refine ⟨c, hc, fun d hd => ?_⟩
  have h := (hsel d).1 hd
  have admin : S.holds [("role", .text "admin")] d := h.filters _ (by simp [hfilters])
  have guest : S.holds [("role", .text "guest")] d := h.forced _ rfl
  simp only [S, Satisfaction.ofTest, Satisfaction.meetsEntries, Value.text?] at admin guest
  simp_all

end ResourceQuery
