import ResourceQuery.Proofs.LengthStages
import ResourceQuery.Proofs.Retention
import ResourceQuery.Proofs.Sameness

/-!
Maps that are alike: they hold the same under each key, in whatever order. Updates that
write different keys commute as far as that goes, so comparisons joined in two orders are
alike, and so are the filters, the length filters and the requests that are made of them.
Where everything equals itself, what is alike is equal.
-/

namespace ResourceQuery

namespace Entries

variable {α : Type}

theorem nodup_keys_perm {es fs : Entries α} (hn : (keys es).Nodup) (h : es.Perm fs) :
    (keys fs).Nodup := (h.map Prod.fst).nodup_iff.1 hn

theorem get?_perm {es fs : Entries α} (hn : (keys es).Nodup) (h : es.Perm fs) (key : String) :
    get? es key = get? fs key := by
  cases hg : get? fs key with
  | none =>
    have absent := get?_eq_none_iff.1 hg
    exact get?_eq_none_iff.2 fun hk => absent ((h.map Prod.fst).mem_iff.1 hk)
  | some v => exact get?_of_mem hn (h.mem_iff.2 (mem_of_get? hg))

structure Alike (R : α → α → Prop) (es fs : Entries α) : Prop where
  nodup : (keys es).Nodup
  nodup_other : (keys fs).Nodup
  related : ∀ key, Option.Rel R (get? es key) (get? fs key)

namespace Alike

variable {R : α → α → Prop} {es fs : Entries α}

theorem exists_of_mem (h : Alike R es fs) {e : String × α} (he : e ∈ es) :
    ∃ w, get? fs e.1 = some w ∧ R e.2 w := by
  have related := h.related e.1
  rw [get?_of_mem h.nodup he] at related
  cases hf : get? fs e.1 with
  | none =>
    rw [hf] at related
    cases related
  | some w =>
    rw [hf] at related
    cases related with
    | some hw => exact ⟨w, rfl, hw⟩

theorem mem_keys (h : Alike R es fs) (key : String) : key ∈ keys es ↔ key ∈ keys fs := by
  rw [← get?_isSome_iff, ← get?_isSome_iff]
  have related := h.related key
  cases he : get? es key <;> cases hf : get? fs key <;> rw [he, hf] at related <;>
    first | rfl | cases related

theorem length_eq (h : Alike R es fs) : es.length = fs.length := by
  have perm : (keys es).Perm (keys fs) :=
    (List.perm_ext_iff_of_nodup h.nodup h.nodup_other).2 h.mem_keys
  simpa [keys] using perm.length_eq

end Alike

theorem foldl_putAll (updates : List (Entries α)) (es : Entries α) :
    updates.foldl putAll es = putAll es updates.flatten := by
  rw [putAll, List.foldl_flatten]
  rfl

theorem alike_foldl_putAll {base : Entries α} (hb : (keys base).Nodup)
    {cs ds : List (Entries α)} (h : cs.Perm ds) (hn : (keys cs.flatten).Nodup) :
    Alike Eq (cs.foldl putAll base) (ds.foldl putAll base) := by
  rw [foldl_putAll, foldl_putAll]
  refine ⟨nodup_keys_putAll hb _, nodup_keys_putAll hb _, fun key => ?_⟩
  have perm := h.flatten
  rw [get?_putAll hn, get?_putAll (nodup_keys_perm hn perm), get?_perm hn perm]
  cases (get? ds.flatten key).or (get? base key) with
  | none => exact .none
  | some v => exact .some rfl

end Entries

inductive Value.Alike : Value → Value → Prop
  | same (v : Value) : Alike v v
  | maps {c d : Entries Value} (h : Entries.Alike Eq c d) : Alike (.map c) (.map d)

namespace Value

theorem same_map_of_alike {R : Value → Value → Prop} {es fs : Entries Value}
    (h : Entries.Alike R es fs) (hs : ∀ e ∈ es, ∀ w, R e.2 w → e.2.same w = .ok true) :
    (map es).same (map fs) = .ok true := by
  refine same_map_iff.2 ⟨h.length_eq, fun e he => ?_⟩
  obtain ⟨w, hw, related⟩ := h.exists_of_mem he
  exact ⟨w, hw, hs e he w related⟩

theorem Alike.same_of_selfSame {v w : Value} (h : v.Alike w) (hv : v.SelfSame) :
    v.same w = .ok true := by
  cases h with
  | same => exact hv
  | maps h =>
    have operands := (selfSame_map_iff h.nodup).1 hv
    exact same_map_of_alike h fun e he w hw => hw ▸ operands e he

end Value

namespace Filter

open Entries

theorem joinAll_of_maps {vs : List Value} (hne : vs ≠ [])
    (hv : ∀ v ∈ vs, ∃ c, v = .map c ∧ (keys c).Nodup) (existing : Option Value) :
    joinAll existing vs = some (.map ((vs.map comparisonOf).foldl putAll
      ((existing.map comparisonOf).getD []))) := by
  cases vs with
  | nil => exact absurd rfl hne
  | cons v vs =>
    rw [List.forall_mem_cons] at hv
    obtain ⟨⟨c, rfl, hc⟩, rest⟩ := hv
    have maps : ∀ v ∈ vs, ∃ c, v = .map c := fun v hv => (rest v hv).imp fun _ h => h.1
    cases existing with
    | none =>
      have first : putAll [] c = c := putAll_eq_append hc nofun
      refine (joinAll_maps maps c).trans ?_
      rw [List.map_cons, List.foldl_cons, comparisonOf, Option.map_none, Option.getD_none, first]
    | some e => exact joinAll_maps maps (putAll (comparisonOf e) c)

theorem alike_joinAll {vs ws : List Value} (h : vs.Perm ws)
    (hv : ∀ v ∈ vs, ∃ c, v = .map c ∧ (keys c).Nodup)
    (hn : (keys (vs.map comparisonOf).flatten).Nodup) {existing : Option Value}
    (he : ∀ e ∈ existing, IsCondition e) :
    Option.Rel Value.Alike (joinAll existing vs) (joinAll existing ws) := by
  by_cases hne : vs = []
  · subst hne
    rw [← h.nil_eq]
    cases existing with
    | none => exact .none
    | some e => exact .some (Value.Alike.same e)
  · have base : (keys ((existing.map comparisonOf).getD [])).Nodup := by
      cases existing with
      | none => exact .nil
      | some e => exact (he e rfl).comparisonOf.nodup
    have hne' : ws ≠ [] := fun hw => hne (hw ▸ h).eq_nil
    rw [joinAll_of_maps hne hv, joinAll_of_maps hne' fun w hw => hv w (h.mem_iff.2 hw)]
    exact .some (.maps (alike_foldl_putAll base (h.map comparisonOf) hn))

end Filter

namespace LengthFilter

open Entries

theorem comparedWith_add (f : LengthFilter) (list other : String) (c : Entries Value) :
    (f.add list c).comparedWith other =
      if other = list then putAll (f.comparedWith list) c else f.comparedWith other := by
  rw [comparedWith, get?_conditions_add]
  split <;> rfl

theorem comparedWith_addAll (f : LengthFilter) (list : String)
    (os : List (String × Entries Value)) :
    (addAll f os).comparedWith list =
      (ByOperator.updates id list os).foldl putAll (f.comparedWith list) := by
  induction os generalizing f with
  | nil => rfl
  | cons o os ih =>
    rw [addAll_cons, ih, comparedWith_add, ByOperator.updates, ByOperator.updates,
      List.filter_cons]
    by_cases ho : o.1 = list
    · rw [if_pos ho.symm, if_pos (decide_eq_true ho), ho]
      rfl
    · rw [if_neg (Ne.symm ho), if_neg (by simpa using ho)]

structure Alike (f g : LengthFilter) : Prop where
  lengths : Entries.Alike Eq f.lengths g.lengths
  conditions : Entries.Alike Value.Alike f.conditions g.conditions

namespace Counts

variable {f g : LengthFilter} {lists : Set String}

theorem get?_conditions (h : f.Counts lists) {list : String} (hl : list ∈ lists) :
    get? f.conditions (countField list) = some (.map (f.comparedWith list)) := by
  obtain ⟨c, hc, _⟩ := h.compared list hl
  rw [comparedWith, hc]
  rfl

theorem alike_of_keys {R : Value → Value → Prop} {es fs : Entries Value}
    (hes : (keys es).Nodup) (hfs : (keys fs).Nodup)
    (kes : ∀ key, key ∈ keys es ↔ ∃ list ∈ lists, countField list = key)
    (kfs : ∀ key, key ∈ keys fs ↔ ∃ list ∈ lists, countField list = key)
    (h : ∀ list ∈ lists, Option.Rel R (get? es (countField list)) (get? fs (countField list))) :
    Entries.Alike R es fs := by
  refine ⟨hes, hfs, fun key => ?_⟩
  by_cases hk : ∃ list ∈ lists, countField list = key
  · obtain ⟨list, hl, rfl⟩ := hk
    exact h list hl
  · rw [get?_eq_none_iff.2 (mt (kes key).1 hk), get?_eq_none_iff.2 (mt (kfs key).1 hk)]
    exact .none

theorem alike (hf : f.Counts lists) (hg : g.Counts lists)
    (h : ∀ list ∈ lists, Entries.Alike Eq (f.comparedWith list) (g.comparedWith list)) :
    f.Alike g where
  lengths := by
    refine alike_of_keys hf.nodup hg.nodup hf.mem_keys hg.mem_keys fun list hl => ?_
    rw [hf.computed list hl, hg.computed list hl]
    exact .some rfl
  conditions := by
    refine alike_of_keys (hf.keys_eq ▸ hf.nodup) (hg.keys_eq ▸ hg.nodup)
      (hf.keys_eq ▸ hf.mem_keys) (hg.keys_eq ▸ hg.mem_keys) fun list hl => ?_
    rw [hf.get?_conditions hl, hg.get?_conditions hl]
    exact .some (.maps (h list hl))

end Counts

end LengthFilter

/-- Requests that differ in the order of the entries of filters and length filters at most:
the sort is in the same order, and everything else is equal. -/
structure Request.Alike (a b : Request) : Prop where
  rest : b = { a with filters := b.filters, lengths := b.lengths }
  filters : Entries.Alike Value.Alike a.filters b.filters
  lengths : a.lengths.Alike b.lengths

end ResourceQuery
