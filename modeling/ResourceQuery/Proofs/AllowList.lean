import ResourceQuery.Platform.Standard
import ResourceQuery.Proofs.Reading
import ResourceQuery.Proofs.Setup

/-!
The allow-list of a resource, said on its settings. Whatever a query asks for, and in
whichever of its forms, the request filters by fields that the settings grant, and
derived fields count lists that the settings grant.
-/

namespace ResourceQuery

namespace Settings

/-- A field may be filtered by when it has a name that is no operator, and is listed, or
everything is, or starts as the settings say. -/
structure MayFilter (s : Settings) (field : String) : Prop where
  named : field ≠ ""
  plain : ¬['$'] <+: field.toList
  granted : field ∈ s.filterFields ++ Filter.baseFields ∨ Filter.wildcard ∈ s.filterFields ∨
    ∃ p, s.filterPrefix = some p ∧ p ≠ "" ∧ p.toList <+: field.toList

end Settings

namespace FilterRules

theorem allowsByPrefix_iff {rules : FilterRules} {field : String} :
    rules.allowsByPrefix field = true ↔
      ∃ p, rules.fieldPrefix = some p ∧ p ≠ "" ∧ p.toList <+: field.toList := by
  unfold allowsByPrefix
  cases rules.fieldPrefix <;> simp

theorem allows_iff {rules : FilterRules} {field : String} :
    rules.allows field = true ↔ field ≠ "" ∧ field.toList.head? ≠ some '$' ∧
      (field ∈ rules.fields ∨ Filter.wildcard ∈ rules.fields ∨
        ∃ p, rules.fieldPrefix = some p ∧ p ≠ "" ∧ p.toList <+: field.toList) := by
  rw [← allowsByPrefix_iff]
  simp [allows, and_assoc, or_assoc]

end FilterRules

namespace Resource

theorem mayFilter_of_allows {s : Settings} {r : Resource} (h : ofSettings s = .ok r)
    {field : String} (ha : r.filter.allows field = true) : s.MayFilter field := by
  have setup := isSetUpBy_of_ofSettings h
  obtain ⟨hn, hd, hg⟩ := FilterRules.allows_iff.1 ha
  rw [setup.filterFields, setup.filterPrefix, mem_distinct, mem_distinct] at hg
  refine ⟨hn, ?_, hg.imp_right (Or.imp_left fun hw => ?_)⟩
  · rintro ⟨rest, hrest⟩
    exact hd (by rw [← hrest]; rfl)
  · rcases List.mem_append.1 hw with hw | hw
    · exact hw
    · exact absurd hw (by decide)

end Resource

namespace Asked

variable [Platform] {rules : FilterRules} {query : Entries Value}

theorem names_of_mem_conditions {asked : Asked rules query} {c : String × Value}
    (h : c ∈ asked.conditions) : ∃ key ∈ Entries.keys query, FilterKey.Names key c.1 := by
  rcases mem_conditions.1 h with h | h | h
  · obtain ⟨e, he, hk, _⟩ := mem_brackets.1 h
    exact ⟨e.1, Entries.mem_keys_of_mem he, .inl hk⟩
  · obtain ⟨_, _, _, _, operand, ho, _⟩ := mem_directs.1 h
    have hk : c.1 ∈ Entries.keys query := (Entries.get?_isSome_iff ..).1 (by rw [ho]; rfl)
    exact ⟨c.1, hk, .inr (.inl rfl)⟩
  · obtain ⟨e, he, op, hk, _⟩ := mem_operators.1 h
    exact ⟨e.1, Entries.mem_keys_of_mem he, .inr (.inr ⟨op, hk⟩)⟩

theorem names_of_mem_operations {asked : Asked rules query} {o : String × Entries Value}
    (h : o ∈ asked.operations) : ∃ key ∈ Entries.keys query, FilterKey.Names key o.1 := by
  obtain ⟨e, he, op, hk, _⟩ := mem_operations.1 h
  exact ⟨e.1, Entries.mem_keys_of_mem he, .inr (.inr ⟨op, hk⟩)⟩

end Asked

def Settings.Grants (s : Settings) (query : Entries Value) (field : String) : Prop :=
  s.MayFilter field ∧ ∃ key ∈ Entries.keys query, FilterKey.Names key field

namespace Resource

variable {s : Settings} {r : Resource} {query : Entries Value} {request : Request}

/-- No query reaches a field that the settings do not grant: not by its filters, not by a
length that is computed, and not by a length that is compared. -/
theorem filtered_fields_granted [Platform] (h : ofSettings s = .ok r)
    (hr : (r.read query).outcome = .ok request) :
    (∀ field ∈ Entries.keys request.filters, s.Grants query field) ∧
      (∀ e ∈ request.lengths.lengths, ∃ list, s.Grants query list ∧
        e = (list ++ "Count",
          .entry "$size" (.entry "$ifNull" (.list [.text ("$" ++ list), .list []])))) ∧
      Entries.keys request.lengths.conditions = Entries.keys request.lengths.lengths ∧
      ∀ stage ∈ request.lengths.stages,
        stage = .entry "$addFields" (.map request.lengths.lengths) ∨
          stage = .entry "$match" (.map request.lengths.conditions) := by
  have hstages : ∀ stage ∈ request.lengths.stages,
      stage = .entry "$addFields" (.map request.lengths.lengths) ∨
        stage = .entry "$match" (.map request.lengths.conditions) := by
    intro stage hs
    unfold LengthFilter.stages at hs
    split at hs
    · simpa using hs
    · cases hs
  rcases conditions_of_read hr with ⟨hf, hl⟩ | ⟨asked, hf, hl⟩
  · rw [hf, hl]
    exact ⟨nofun, nofun, rfl, hl ▸ hstages⟩
  · have granted (o : String × Entries Value) (ho : o ∈ asked.operations) :
        s.Grants query o.1 :=
      ⟨mayFilter_of_allows h (Asked.allows_of_mem_operations ho),
        Asked.names_of_mem_operations ho⟩
    refine ⟨fun field hfield => ?_, fun e he => ?_, ?_, hstages⟩
    · rw [hf] at hfield
      obtain ⟨c, hc, rfl⟩ := Asked.mem_keys_filters.1 hfield
      exact ⟨mayFilter_of_allows h (Asked.allows_of_mem_conditions hc),
        Asked.names_of_mem_conditions hc⟩
    · rw [hl] at he
      obtain he | ⟨o, ho, rfl⟩ := LengthFilter.mem_lengths_addAll he
      · cases he
      · exact ⟨o.1, granted o ho, rfl⟩
    · rw [hl]
      exact LengthFilter.keys_conditions_addAll rfl _

end Resource

theorem Resource.filtered_fields_granted_meta :
    let s : Settings := [("filter_fields", .data (.list [.text "role", .text "$where"])),
      ("filter_prefix", .data (.text "meta."))]
    let query : Entries Value := [("filters[role]", .text "admin"), ("filters[$or]", .text "x"),
      ("$where", .text "1"), ("meta.tags__size_gt", .text "3"), ("meta.age__gte", .text "18")]
    ∃ r, ofSettings s = .ok r ∧ ∃ request, (r.read query).outcome = .ok request ∧
      Entries.keys request.filters = ["role", "meta.age"] ∧
      Entries.keys request.lengths.lengths = ["meta.tagsCount"] ∧
      s.Grants query "role" ∧ s.Grants query "meta.age" := by
  intro s query
  have hs : ∃ r, ofSettings s = .ok r ∧ ∃ request, (r.read query).outcome = .ok request ∧
      Entries.keys request.filters = ["role", "meta.age"] ∧
      Entries.keys request.lengths.lengths = ["meta.tagsCount"] := by
    rw [ofSettings_of_known (by decide)]
    exact ⟨_, rfl, _, rfl, rfl, rfl⟩
  obtain ⟨r, h, request, hr, hf, hl⟩ := hs
  have granted := (filtered_fields_granted h hr).1
  rw [hf] at granted
  exact ⟨r, h, request, hr, hf, hl, granted _ (by decide), granted _ (by decide)⟩

end ResourceQuery
