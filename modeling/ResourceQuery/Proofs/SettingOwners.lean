import Mathlib.Data.List.Sort
import Mathlib.Data.String.Basic
import ResourceQuery.Platform.Standard
import ResourceQuery.Proofs.Alike
import ResourceQuery.Proofs.Setup

/-!
Settings and the sections that own them. A section is set up with its share of the settings and
with nothing else, so settings of one section are felt in what that section reads only. Names
that no section declares are refused, null or not; apart from that a null setting is as good as
none.
-/

namespace ResourceQuery

namespace Section

def names (sec : Section) : List String := Entries.keys sec.parameters

theorem eq_of_mem_names {sec other : Section} {name : String} (h : name ∈ sec.names)
    (ho : name ∈ other.names) : sec = other := by
  revert name
  cases sec <;> cases other <;> decide

theorem skips_not_mem_names (sec : Section) : Settings.skips ∉ sec.names := by
  cases sec <;> decide

/-- Do two requests have the same of what a section reads? -/
def Agrees (a b : Request) : Section → Prop
  | .filter => a.filters = b.filters ∧ a.lengths = b.lengths
  | .limit => a.page = b.page ∧ a.limit = b.limit
  | .project => a.included = b.included ∧ a.excluded = b.excluded ∧ a.lookups = b.lookups
  | .search => a.search = b.search ∧ a.searchFields = b.searchFields
  | .sort => a.sort = b.sort

def SameRules (r r' : Resource) : Section → Prop
  | .filter => r.filter = r'.filter
  | .limit => r.paging = r'.paging
  | .project => r.projection = r'.projection
  | .search => r.search = r'.search
  | .sort => r.sort = r'.sort

end Section

namespace Settings

variable {s t : Settings}

theorem given?_congr {name : String} (h : Entries.get? s name = Entries.get? t name) :
    given? s name = given? t name := by
  rw [given?, given?, h]

theorem given?_eq_filter (s : Settings) (name : String) :
    given? s name = (Entries.get? s name).filter fun v => !v.isNull := by
  unfold given?
  cases Entries.get? s name with
  | none => rfl
  | some v => cases h : v.isNull <;> simp [Option.filter, h]

theorem given?_eq_some_iff {name : String} {v : Setting} :
    given? s name = some v ↔ Entries.get? s name = some v ∧ v.isNull = false := by
  rw [given?_eq_filter, Option.filter_eq_some_iff, Bool.not_eq_true']

def compact (s : Settings) : Settings := s.filter fun e => !e.2.isNull

theorem mem_compact_iff (hn : (Entries.keys s).Nodup) {e : String × Setting} :
    e ∈ s.compact ↔ given? s e.1 = some e.2 := by
  rw [compact, List.mem_filter, given?_eq_some_iff, Bool.not_eq_true']
  exact and_congr_left fun _ => ⟨Entries.get?_of_mem hn, Entries.mem_of_get?⟩

theorem nodup_keys_compact (hn : (Entries.keys s).Nodup) : (Entries.keys s.compact).Nodup :=
  hn.sublist (List.filter_sublist.map Prod.fst)

theorem mem_stored_iff {e : String × Setting} :
    e ∈ s.stored ↔ e.1 ∈ declared ∧ given? s e.1 = some e.2 := by
  simp only [stored, List.mem_filterMap, Option.map_eq_some_iff]
  constructor
  · rintro ⟨name, known, v, hv, rfl⟩
    exact ⟨known, hv⟩
  · rintro ⟨known, hv⟩
    exact ⟨e.1, known, e.2, hv, rfl⟩

theorem nodup_stored (s : Settings) : s.stored.Nodup := by
  refine List.Nodup.filterMap (fun name other e h h' => ?_) (by decide)
  obtain ⟨_, -, rfl⟩ := Option.map_eq_some_iff.1 h
  obtain ⟨_, -, same⟩ := Option.map_eq_some_iff.1 h'
  exact (Prod.mk.inj same).1.symm

theorem stored_perm_compact (hn : (Entries.keys s).Nodup)
    (known : ∀ name ∈ Entries.keys s, name ∈ declared) : s.stored.Perm s.compact := by
  refine (List.perm_ext_iff_of_nodup s.nodup_stored (nodup_keys_compact hn).of_map).2 fun e => ?_
  rw [mem_stored_iff, mem_compact_iff hn]
  refine and_iff_right_of_imp fun h => known e.1 ?_
  exact Entries.mem_keys_of_mem (Entries.mem_of_get? (given?_eq_some_iff.1 h).1)

theorem given?_compact (hn : (Entries.keys s).Nodup) (name : String) :
    given? s.compact name = given? s name := by
  ext v
  have stands : (name, v) ∈ s.compact ↔ given? s name = some v := mem_compact_iff hn
  rw [given?_eq_some_iff, ← stands]
  constructor
  · exact fun h => Entries.mem_of_get? h.1
  · intro h
    exact ⟨Entries.get?_of_mem (nodup_keys_compact hn) h, (given?_eq_some_iff.1 (stands.1 h)).2⟩

end Settings

namespace Resource

open Settings

variable {s t : Settings} {r r' : Resource}

theorem sameRules_of_arguments (h : ofSettings s = .ok r) (h' : ofSettings t = .ok r')
    {sec : Section} (share : arguments s sec = arguments t sec) : sec.SameRules r r' := by
  have made := madeOf_of_ofSettings h
  have made' := madeOf_of_ofSettings h'
  cases sec with
  | filter => exact Except.ok.inj (made.filter.symm.trans (share ▸ made'.filter))
  | limit => exact Except.ok.inj (made.paging.symm.trans (share ▸ made'.paging))
  | project => exact made.projection.symm.trans (share ▸ made'.projection)
  | search => exact made.search.symm.trans (share ▸ made'.search)
  | sort => exact Except.ok.inj (made.sort.symm.trans (share ▸ made'.sort))

structure Suits (s : Settings) : Prop where
  filter : ∃ rules, filterRules (arguments s .filter) = .ok rules
  paging : ∃ rules, pagingRules (arguments s .limit) = .ok rules
  sort : ∃ rules, sortRules (arguments s .sort) = .ok rules

theorem ofSettings_of_suits (suits : Suits s) :
    ∃ r, ofSettings s =
      if unknown s knownNames = [] then .ok r
      else .error (.unknownSettings (unknown s knownNames)) := by
  -- names are looked at when all sections are set up
  obtain ⟨⟨filter, hfilter⟩, ⟨paging, hpaging⟩, ⟨sort, hsort⟩⟩ := suits
  refine ⟨⟨filter, paging, projectionRules (arguments s .project),
    searchRules (arguments s .search), sort, s.flags⟩, ?_⟩
  rw [ofSettings_eq, hfilter, hpaging, hsort]
  cases unknown s knownNames <;> rfl

@[simp] theorem mem_unknown {name : String} :
    name ∈ unknown s knownNames ↔ name ∈ Entries.keys s ∧ name ∉ declared := by
  rw [unknown, List.mem_mergeSort, List.mem_filter, mem_declared_iff]
  simp

theorem pairwise_unknown (hn : (Entries.keys s).Nodup) :
    (unknown s knownNames).Pairwise (· < ·) := by
  have sorted : (unknown s knownNames).Pairwise (· ≤ ·) := List.pairwise_mergeSort' _ _
  have nodup : (unknown s knownNames).Nodup :=
    (List.mergeSort_perm _ _).nodup_iff.2 (hn.filter _)
  exact (sorted.and nodup).imp fun h => lt_of_le_of_ne h.1 h.2

theorem unknown_eq_nil_iff :
    unknown s knownNames = [] ↔ ∀ name ∈ Entries.keys s, name ∈ declared := by
  simp only [List.eq_nil_iff_forall_not_mem, mem_unknown, not_and, not_not]

theorem ofSettings_eq_unknown_iff (suits : Suits s) {names : List String} :
    ofSettings s = .error (.unknownSettings names) ↔
      names = unknown s knownNames ∧ names ≠ [] := by
  obtain ⟨r, made⟩ := ofSettings_of_suits suits
  rw [made]
  constructor
  · intro h
    split at h
    · cases h
    · rename_i some_unknown
      cases h
      exact ⟨rfl, some_unknown⟩
  · rintro ⟨rfl, some_unknown⟩
    exact if_neg some_unknown

theorem exists_unknown_iff (suits : Suits s) :
    (∃ names, ofSettings s = .error (.unknownSettings names)) ↔
      ∃ name ∈ Entries.keys s, name ∉ declared := by
  simp only [ofSettings_eq_unknown_iff suits, exists_eq_left, ne_eq, unknown_eq_nil_iff, not_forall,
    exists_prop]

theorem ofSettings_congr (known : ∀ name ∈ Entries.keys s, name ∈ knownNames)
    (known' : ∀ name ∈ Entries.keys t, name ∈ knownNames)
    (h : ∀ name, given? s name = given? t name) : ofSettings s = ofSettings t := by
  have share (sec : Section) : arguments s sec = arguments t sec :=
    arguments_congr fun name _ => h name
  rw [ofSettings_of_known known, ofSettings_of_known known', share, share, share, share, share,
    flags, flags, h]

theorem ofSettings_compact (hn : (Entries.keys s).Nodup)
    (known : ∀ name ∈ Entries.keys s, name ∈ declared) :
    ofSettings s.compact = ofSettings s ∧ ofSettings s.stored = ofSettings s := by
  have known : ∀ name ∈ Entries.keys s, name ∈ knownNames :=
    fun name h => (mem_declared_iff name).1 (known name h)
  have compactKnown : ∀ name ∈ Entries.keys s.compact, name ∈ knownNames :=
    fun name h => known name ((List.filter_sublist.map Prod.fst).subset h)
  have perm : s.compact.Perm s.stored :=
    (stored_perm_compact hn fun name h => (mem_declared_iff name).2 (known name h)).symm
  have storedKnown : ∀ name ∈ Entries.keys s.stored, name ∈ knownNames :=
    fun name h => compactKnown name ((perm.map Prod.fst).mem_iff.2 h)
  refine ⟨ofSettings_congr compactKnown known (given?_compact hn), ?_⟩
  refine ofSettings_congr storedKnown known fun name => ?_
  rw [← given?_compact hn, given?_congr (Entries.get?_perm (nodup_keys_compact hn) perm name)]

theorem skips_congr (h : r.skipped = r'.skipped) (name : String) :
    r.skips name = r'.skips name := by
  rw [skips, skips, h]

variable [Platform] {query : Entries Value} {a b : Request}

theorem Parts.agrees {sec : Section} (ha : r.Parts query a) (hb : r'.Parts query b)
    (same : sec.SameRules r r') (skipped : r.skipped = r'.skipped) : sec.Agrees a b := by
  have off (name : String) : r.skips name = r'.skips name := skips_congr skipped name
  have parts {α : Type} (name : String) (value : Option α) :
      r.part name value = r'.part name value := by
    rw [part, part, off]
  cases sec with
  | filter =>
    have rules : r.filter = r'.filter := same
    have conditions := hb.conditions
    rw [conditionsOf, ← off, ← rules] at conditions
    exact Prod.mk.inj (Except.ok.inj (ha.conditions.symm.trans conditions))
  | limit =>
    have rules : r.paging = r'.paging := same
    obtain ⟨page, limit, read, page_eq, limit_eq⟩ := ha.paging
    obtain ⟨page', limit', read', page_eq', limit_eq'⟩ := hb.paging
    rw [rules, read'] at read
    cases read
    exact ⟨page_eq.trans (off "page" ▸ page_eq'.symm),
      limit_eq.trans (rules ▸ off "limit" ▸ limit_eq'.symm)⟩
  | project =>
    have rules : r.projection = r'.projection := same
    rw [Section.Agrees, ha.included, hb.included, ha.excluded, hb.excluded, ha.lookups, hb.lookups,
      rules, parts, parts, parts]
    exact ⟨rfl, rfl, rfl⟩
  | search =>
    have rules : r.search = r'.search := same
    have term := hb.search
    rw [readTerm, ← off] at term
    refine ⟨Except.ok.inj (ha.search.symm.trans term), ?_⟩
    rw [ha.searchFields, hb.searchFields, rules, parts]
  | sort =>
    have rules : r.sort = r'.sort := same
    rw [Section.Agrees, ha.sort, hb.sort, off, rules]

theorem Parts.format_eq (ha : r.Parts query a) (hb : r'.Parts query b)
    (skipped : r.skipped = r'.skipped) : a.format = b.format := by
  have format := hb.format
  rw [exportOf, ← skips_congr skipped] at format
  exact Except.ok.inj (ha.format.symm.trans format)

theorem agrees_of_read (h : ofSettings s = .ok r) (h' : ofSettings t = .ok r') {sec : Section}
    (differ : ∀ name, name ∉ sec.names → Entries.get? t name = Entries.get? s name)
    (ha : (r.read query).outcome = .ok a) (hb : (r'.read query).outcome = .ok b) :
    a.format = b.format ∧ ∀ other, other ≠ sec → other.Agrees a b := by
  have skipped : r.skipped = r'.skipped := by
    rw [(isSetUpBy_of_ofSettings h).flags, (isSetUpBy_of_ofSettings h').flags, flags, flags,
      given?_congr (differ _ sec.skips_not_mem_names)]
  have parts := parts_of_read ha
  have parts' := parts_of_read hb
  refine ⟨parts.format_eq parts' skipped, fun other apart => parts.agrees parts' ?_ skipped⟩
  refine sameRules_of_arguments h h' (arguments_congr fun name hname => ?_)
  exact (given?_congr (differ name fun own => apart (Section.eq_of_mem_names hname own))).symm

/-- Settings that no section refuses are refused just for names that are not declared, and all of
these are named, in order. Otherwise the null ones can be left out, which leaves what is stored of
them. Each section is then made of its share, so that every setting is what its owner works with;
and settings of one section are felt in what that section reads of a query, not in what the other
ones read. -/
theorem settings_routed (hn : (Entries.keys s).Nodup) (suits : Suits s) :
    ((∃ names, ofSettings s = .error (.unknownSettings names)) ↔
      ∃ name ∈ Entries.keys s, name ∉ declared) ∧
    (∀ names, ofSettings s = .error (.unknownSettings names) → names.Pairwise (· < ·) ∧
      ∀ name, name ∈ names ↔ name ∈ Entries.keys s ∧ name ∉ declared) ∧
    ((∀ name ∈ Entries.keys s, name ∈ declared) → ∃ r, ofSettings s = .ok r ∧
      s.stored.Perm s.compact ∧ ofSettings s.compact = .ok r ∧ ofSettings s.stored = .ok r) ∧
    ∀ r, ofSettings s = .ok r → MadeOf s r ∧ r.IsSetUpBy s ∧
      ∀ (sec : Section) (t : Settings) r', ofSettings t = .ok r' →
        (∀ name, name ∉ sec.names → Entries.get? t name = Entries.get? s name) →
        ∀ query a b, (r.read query).outcome = .ok a → (r'.read query).outcome = .ok b →
          a.format = b.format ∧ ∀ other, other ≠ sec → other.Agrees a b := by
  refine ⟨exists_unknown_iff suits, fun names h => ?_, fun known => ?_, ?_⟩
  · obtain ⟨rfl, -⟩ := (ofSettings_eq_unknown_iff suits).1 h
    exact ⟨pairwise_unknown hn, fun _ => mem_unknown⟩
  · obtain ⟨r, made⟩ := ofSettings_of_suits suits
    have accepted : ofSettings s = .ok r := made.trans (if_pos (unknown_eq_nil_iff.2 known))
    obtain ⟨compact_eq, stored_eq⟩ := ofSettings_compact hn known
    exact ⟨r, accepted, stored_perm_compact hn known, compact_eq.trans accepted,
      stored_eq.trans accepted⟩
  · intro r h
    refine ⟨madeOf_of_ofSettings h, isSetUpBy_of_ofSettings h, ?_⟩
    intro sec t r' h' differ query a b ha hb
    exact agrees_of_read h h' differ ha hb

end Resource

theorem Resource.settings_routed_page :
    let misspelt : Settings := [("max_limits", .data .null)]
    let s : Settings := [("sort_fields", .data .null), ("max_limit", .data (.int 50)),
      ("filter_fields", .data (.list [.text "role"]))]
    let t : Settings := [("sort_fields", .data .null), ("default_limit", .data (.int 3)),
      ("max_limit", .data (.int 5)), ("filter_fields", .data (.list [.text "role"]))]
    let query : Entries Value := [("role", .text "admin"), ("limit", .text "20")]
    (∃ names, ofSettings misspelt = .error (.unknownSettings names)) ∧
      ∃ r r', ofSettings s = .ok r ∧ ofSettings s.compact = .ok r ∧ ofSettings t = .ok r' ∧
        ∃ a b, (r.read query).outcome = .ok a ∧ (r'.read query).outcome = .ok b ∧
          a.limit = 20 ∧ b.limit = 5 ∧ Entries.keys a.filters = ["role"] ∧
          a.filters = b.filters := by
  intro misspelt s t query
  have refused : ∃ names, ofSettings misspelt = .error (.unknownSettings names) :=
    (settings_routed (by decide) ⟨⟨_, rfl⟩, ⟨_, rfl⟩, ⟨_, rfl⟩⟩).1.2
      ⟨"max_limits", by decide, by decide⟩
  obtain ⟨-, -, accepted, owned⟩ :=
    settings_routed (s := s) (by decide) ⟨⟨_, rfl⟩, ⟨_, rfl⟩, ⟨_, rfl⟩⟩
  obtain ⟨r, h, -, compact, -⟩ := accepted (by decide)
  have read : ∃ r, ofSettings s = .ok r ∧ ∃ a, (r.read query).outcome = .ok a ∧
      a.limit = 20 ∧ Entries.keys a.filters = ["role"] := by
    rw [ofSettings_of_known (by decide)]
    exact ⟨_, rfl, _, rfl, rfl, rfl⟩
  have read' : ∃ r', ofSettings t = .ok r' ∧ ∃ b, (r'.read query).outcome = .ok b ∧
      b.limit = 5 := by
    rw [ofSettings_of_known (by decide)]
    exact ⟨_, rfl, _, rfl, rfl⟩
  obtain ⟨_, again, a, ha, limit, filtered⟩ := read
  cases again.symm.trans h
  obtain ⟨r', h', b, hb, limit'⟩ := read'
  have outside (u : Settings) (name : String) (out : name ∉ Section.limit.names) :
      Entries.get? (u.filter (·.1 ∉ Section.limit.names)) name = Entries.get? u name :=
    Entries.get?_filter fun e _ he => by simpa [he] using out
  have differ (name : String) (out : name ∉ Section.limit.names) :
      Entries.get? t name = Entries.get? s name := by
    rw [← outside t name out, ← outside s name out]
    rfl
  obtain ⟨-, -, apart⟩ := owned r h
  obtain ⟨-, others⟩ := apart .limit t r' h' differ query a b ha hb
  exact ⟨refused, r, r', h, compact, h', a, b, ha, hb, limit, limit', filtered,
    (others .filter (by decide)).1⟩

end ResourceQuery
