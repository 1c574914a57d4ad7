import ResourceQuery.Platform.Standard
import ResourceQuery.Proofs.AllowList
import ResourceQuery.Proofs.ConditionShape

/-!
Caps. A query of too many keys is refused before anything else is read, and what is read of
a query of texts is capped: the number of its filters by the number of keys, the lists among
them by the settings, and every text by a length, which is doubled for patterns since their
special characters may have to be escaped.
-/

namespace ResourceQuery

namespace Value

/-- What stands in a value that is the value of a key: itself, and what stands in its items
and entries. Items are values of the key that their list belongs to. -/
inductive Holds : String → Value → String → Value → Prop
  | self (key : String) (v : Value) : Holds key v key v
  | item {key : String} {items : List Value} {v : Value} (hv : v ∈ items) {k : String} {w : Value}
      (h : Holds key v k w) : Holds key (.list items) k w
  | entry {key : String} {entries : Entries Value} {e : String × Value} (he : e ∈ entries)
      {k : String} {w : Value} (h : Holds e.1 e.2 k w) : Holds key (.map entries) k w

def Throughout (P : String → Value → Prop) (key : String) (v : Value) : Prop :=
  ∀ k w, Holds key v k w → P k w

section Throughout

variable {P : String → Value → Prop} {key : String}

theorem throughout_of_scalar {v : Value} (hs : v.isScalar = true) (h : P key v) :
    Throughout P key v := by
  intro k w hw
  cases hw with
  | self => exact h
  | item => cases hs
  | entry => cases hs

theorem throughout_list {items : List Value} (hl : P key (.list items))
    (h : ∀ v ∈ items, Throughout P key v) : Throughout P key (.list items) := by
  intro k w hw
  cases hw with
  | self => exact hl
  | item hv hw => exact h _ hv k w hw

theorem throughout_map {entries : Entries Value} (hm : P key (.map entries))
    (h : ∀ e ∈ entries, Throughout P e.1 e.2) : Throughout P key (.map entries) := by
  intro k w hw
  cases hw with
  | self => exact hm
  | entry he hw => exact h _ he k w hw

theorem throughout_of_mem {entries : Entries Value} (h : Throughout P key (.map entries)) :
    ∀ e ∈ entries, Throughout P e.1 e.2 :=
  fun _ he k w hw => h k w (.entry he hw)

end Throughout

/-- A text is no longer than ten thousand characters, twice as many for a pattern, and a list
of members no longer than the cap. -/
structure Fits (cap : Int) (key : String) (v : Value) : Prop where
  text : ∀ s, v = .text s → s.length ≤ if key = "$regex" then 20000 else 10000
  members : ∀ items, v = .list items → key = "$in" ∨ key = "$nin" → items.length ≤ cap

def Capped (cap : Int) (key : String) (v : Value) : Prop :=
  ∀ k w, Holds key v k w → Fits cap k w

variable {cap : Int} {key : String}

theorem capped_text {s : String} (h : s.length ≤ if key = "$regex" then 20000 else 10000) :
    Capped cap key (.text s) := by
  refine throughout_of_scalar rfl ⟨fun t ht => ?_, nofun⟩
  cases ht
  exact h

theorem capped_list {items : List Value} (hn : key = "$in" ∨ key = "$nin" → items.length ≤ cap)
    (h : ∀ v ∈ items, Capped cap key v) : Capped cap key (.list items) := by
  refine throughout_list ⟨nofun, fun others ho => ?_⟩ h
  cases ho
  exact hn

theorem capped_map {entries : Entries Value} (h : ∀ e ∈ entries, Capped cap e.1 e.2) :
    Capped cap key (.map entries) :=
  throughout_map ⟨nofun, nofun⟩ h

theorem capped_of_scalar {v : Value} (hs : v.isScalar = true) (ht : v.text? = none) :
    Capped cap key v := by
  refine throughout_of_scalar hs ⟨fun s hv => ?_, fun items hv => ?_⟩
  · rw [hv] at ht
    cases ht
  · rw [hv] at hs
    cases hs

end Value

open Value

namespace Inference

theorem capped_typedText [Platform] {field s : String} {v : Value} (h : typedText field s = .ok v)
    (cap : Int) (key : String) : Capped cap key v := by
  obtain ⟨short, typed⟩ := typedAs_of_typedText h
  cases typed with
  | existence b => exact capped_map (by simpa using capped_of_scalar rfl rfl)
  | @number n _ => cases n <;> exact capped_of_scalar rfl rfl
  | text =>
    have bounded : s.length ≤ 10000 := short
    exact capped_text (by split <;> omega)
  | _ => exact capped_of_scalar rfl rfl

end Inference

theorem Pattern.length_portable_le [Platform] {s p : List Char} (h : portable s = .ok p) :
    p.length ≤ 2 * s.length := by
  obtain ⟨b, _, rfl⟩ := Outcome.map_eq_ok_iff.1 h
  split
  · exact Nat.le_mul_of_pos_left _ (by decide)
  · exact length_escape_le s

namespace Operator

theorem capped_apply [Platform] {cap : Int} {op : Operator} {field s : String} {c : Entries Value}
    (h : op.apply cap field (.text s) = .ok c) (key : String) : Capped cap key (.map c) := by
  refine capped_map ?_
  cases makes_of_apply h with
  | compared hk hv => simpa using Inference.capped_typedText hv cap _
  | members hk hv hn =>
    refine List.forall_mem_singleton.2 (capped_list (fun _ => hn) fun v mem => ?_)
    obtain ⟨t, ht⟩ := exists_of_mem_typedItems hv v mem
    exact Inference.capped_typedText ht cap _
  | @pattern t p hs hp =>
    have length : (String.ofList p).length ≤ 20000 := by
      have doubled := Pattern.length_portable_le hp
      rw [String.length_toList] at doubled
      rw [String.length_ofList]
      exact Nat.le_trans doubled (Nat.mul_le_mul_left 2 hs)
    simpa using ⟨capped_text length, capped_text (by decide)⟩
  | existence b => simpa using capped_of_scalar rfl rfl
  | bounds hl hh =>
    simpa using ⟨Inference.capped_typedText hl cap _, Inference.capped_typedText hh cap _⟩

end Operator

namespace Filter

variable {P : String → Value → Prop}

theorem throughout_comparisonOf {v : Value} (h : ∀ key, Throughout P key v) :
    ∀ e ∈ comparisonOf v, Throughout P e.1 e.2 := by
  cases v with
  | map c => exact throughout_of_mem (h "")
  | _ => exact List.forall_mem_singleton.2 (h "$eq")

theorem throughout_join (maps : ∀ key c, P key (.map c)) {existing : Option Value} {v : Value}
    (he : ∀ e ∈ existing, ∀ key, Throughout P key e) (hv : ∀ key, Throughout P key v)
    (key : String) : Throughout P key (join existing v) := by
  cases existing with
  | none => exact hv key
  | some e =>
    cases v with
    | map c =>
      refine throughout_map (maps key _) fun x hx => ?_
      exact (Entries.mem_putAll hx).elim (throughout_of_mem (hv key) x)
        (throughout_comparisonOf (he e rfl) x)
    | _ => exact he e rfl key

end Filter

namespace Asked

open Outcome

variable [Platform] {rules : FilterRules} {query : Entries Value}

theorem capped_filters (asked : Asked rules query) (hc : rules.operators.custom = [])
    (ht : ∀ e ∈ query, ∃ s, e.2 = .text s) (key : String) :
    Capped rules.operators.cap key (.map asked.filters) := by
  refine capped_map fun e he => asked.forall_filters
    (P := fun v => ∀ key, Capped rules.operators.cap key v)
    (fun _ _ => Filter.throughout_join fun _ _ => ⟨nofun, nofun⟩) ?_ e he e.1
  exact forall_conditions_of_texts
    (fun _ _ _ typed => Inference.capped_typedText typed rules.operators.cap)
    (fun _ _ _ _ => Operator.capped_apply) hc ht

theorem length_brackets_add_operators (asked : Asked rules query)
    (hc : rules.operators.custom = []) :
    asked.brackets.length + asked.operators.length ≤ query.length := by
  refine length_filterMapM_add_le asked.brackets_eq asked.operators_eq fun e b c hb ho => ?_
  obtain ⟨bracketed, -⟩ := rules.bracketCondition_eq_ok_some_iff.1 hb
  obtain ⟨name, cut, -, -, -, made⟩ := rules.operatorCondition_eq_ok_some_iff.1 ho
  obtain ⟨op, _, rfl, -⟩ := (Operators.apply_eq_ok_iff hc).1 made
  exact Operator.operator?_ne_of_bracket? bracketed c.1 op cut

theorem length_directs_le (asked : Asked rules query) : asked.directs.length ≤ query.length := by
  have nodup : (Entries.keys asked.directs).Nodup := by
    rw [Entries.keys, List.Nodup, List.pairwise_map]
    refine pairwise_filterMapM asked.directs_eq rules.fields_nodup fun f g b c hne hb hc => ?_
    obtain ⟨hf, -⟩ := rules.directCondition_eq_ok_some_iff.1 hb
    obtain ⟨hg, -⟩ := rules.directCondition_eq_ok_some_iff.1 hc
    rwa [hf, hg]
  have keys : Entries.keys asked.directs ⊆ Entries.keys query := by
    intro field hf
    obtain ⟨c, hc, rfl⟩ := List.mem_map.1 hf
    obtain ⟨-, -, -, -, operand, ho, -⟩ := mem_directs.1 hc
    exact (Entries.get?_isSome_iff ..).1 (by rw [ho]; rfl)
  simpa [Entries.keys] using nodup.length_le_of_subset keys

theorem length_filters_le (asked : Asked rules query) (hc : rules.operators.custom = []) :
    asked.filters.length ≤ 2 * query.length := by
  have fields : Entries.keys asked.filters ⊆ Entries.keys asked.conditions := fun field hf =>
    List.mem_map.2 (mem_keys_filters.1 hf)
  have one_each := asked.nodup_keys_filters.length_le_of_subset fields
  -- a key of either form may be a listed field as well
  have keyed := asked.length_brackets_add_operators hc
  have listed := asked.length_directs_le
  simp only [Entries.keys, List.length_map, conditions, List.length_append] at one_each
  omega

end Asked

namespace Resource

open Outcome

variable {s : Settings} {r : Resource} {query : Entries Value}

variable [Platform]

theorem outcome_of_too_many (h : r.filter.maxKeys < query.length) :
    (r.read query).outcome = .error (.tooManyFields query.length r.filter.maxKeys) := by
  rw [r.outcome_read, reading, FilterRules.checkSize, if_pos h]
  rfl

/-- Whatever texts a query is made of, it is refused for the number of its keys, or what is read
of it is capped: the number of fields, the lists of members, and all texts. -/
theorem read_capped (h : ofSettings s = .ok r) (plain : s.customOperators = [])
    (texts : ∀ e ∈ query, ∃ t, e.2 = .text t) :
    (s.maxKeys < query.length →
      (r.read query).outcome = .error (.tooManyFields query.length s.maxKeys)) ∧
      ∀ request, (r.read query).outcome = .ok request →
        request.filters.length ≤ 2 * query.length ∧
          (∀ key v, Holds "" (.map request.filters) key v → Fits s.maxItems key v) ∧
          ∀ v, request.search = some v → ∃ t, v = .text t ∧ t.length ≤ 10000 := by
  have setup := isSetUpBy_of_ofSettings h
  have custom : r.filter.operators.custom = [] := setup.customOperators.trans plain
  refine ⟨fun many => ?_, fun request hr => ?_⟩
  · rw [← setup.maxKeys] at many ⊢
    exact outcome_of_too_many many
  · have search (v : Value) (hv : request.search = some v) :
        ∃ t, v = .text t ∧ t.length ≤ 10000 := by
      obtain ⟨t, text, -, short⟩ := ((parts_of_read hr).isTerm hv).text texts
      exact ⟨t, text, short⟩
    rcases conditions_of_read hr with ⟨hf, -⟩ | ⟨asked, hf, -⟩
    · rw [hf]
      exact ⟨Nat.zero_le _, capped_map nofun, search⟩
    · rw [hf, ← setup.maxItems]
      exact ⟨asked.length_filters_le custom, asked.capped_filters custom texts "", search⟩

end Resource

theorem Resource.read_capped_names :
    let s : Settings := [("filter_fields", .data (.list [.text "name", .text "filters[name]"])),
      ("max_query_fields", .data (.int 3)), ("max_array_size", .data (.int 2))]
    let query : Entries Value := [("filters[name]", .text "a"), ("name__in", .text "b,,c"),
      ("q", .text "x+")]
    let many : Entries Value := [("name__between", .text "a"), ("x", .text ""), ("y", .text ""),
      ("z", .text "")]
    ∃ r, ofSettings s = .ok r ∧
      (∃ request, (r.read query).outcome = .ok request ∧
        Entries.keys request.filters = ["name", "filters[name]"] ∧
        request.filters.length ≤ 2 * query.length ∧
        ∀ key v, Holds "" (.map request.filters) key v → Fits 2 key v) ∧
      (r.read many).outcome = .error (.tooManyFields 4 3) := by
  intro s query many
  have hs : ∃ r, ofSettings s = .ok r ∧ ∃ request, (r.read query).outcome = .ok request ∧
      Entries.keys request.filters = ["name", "filters[name]"] := by
    rw [ofSettings_of_known (by decide)]
    exact ⟨_, rfl, _, rfl, rfl⟩
  obtain ⟨r, h, request, hr, fields⟩ := hs
  have texts : ∀ e ∈ query, ∃ t, e.2 = .text t := by simp [query]
  have manyTexts : ∀ e ∈ many, ∃ t, e.2 = .text t := by simp [many]
  obtain ⟨-, capped⟩ := read_capped h rfl texts
  obtain ⟨count, fits, -⟩ := capped request hr
  obtain ⟨refused, -⟩ := read_capped h rfl manyTexts
  exact ⟨r, h, ⟨request, hr, fields, count, fits⟩, refused (by decide)⟩

end ResourceQuery
