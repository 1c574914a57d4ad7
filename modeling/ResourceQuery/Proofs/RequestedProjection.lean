import Mathlib.Data.List.Nodup
import ResourceQuery.Platform.Standard
import ResourceQuery.Proofs.AllowList
import ResourceQuery.Proofs.KeptFields

/-!
The projection that a request asks for. Excluded fields are marked with zero; with one are marked
the other fields that it includes and may include, and the identifier with them. What else the
lists hold, and in which order and how often they name a field, makes no difference.
-/

namespace ResourceQuery

namespace Settings

/-- A field may be included when it is listed, or nothing is. -/
def MayInclude (s : Settings) (field : String) : Prop :=
  s.includeFields = [] ∨ field ∈ s.includeFields

instance (s : Settings) (field : String) : Decidable (s.MayInclude field) :=
  inferInstanceAs (Decidable (_ ∨ _))

end Settings

namespace ProjectionRules

section Marks

variable {included included' excluded excluded' : Option (List String)}

@[simp] theorem mem_namedOnes {name : String} :
    name ∈ namedOnes included ↔
      name ∈ included.getD [] ∨ name = identifier ∧ included.getD [] ≠ [] := by
  match included with
  | none => simp [namedOnes]
  | some [] => simp [namedOnes]
  | some (f :: fs) => simp [namedOnes, or_assoc]

theorem nodup_keys_marksOf : (Entries.keys (marksOf included excluded)).Nodup :=
  nodup_keys_mark (nodup_keys_mark (show (Entries.keys []).Nodup from .nil) _ _) _ _

theorem get?_marksOf_iff {name : String} {v : Value} :
    Entries.get? (marksOf included excluded) name = some v ↔
      name ∈ excluded.getD [] ∧ v = .int 0 ∨
        name ∉ excluded.getD [] ∧
          (name ∈ included.getD [] ∨ name = identifier ∧ included.getD [] ≠ []) ∧ v = .int 1 := by
  rw [← mem_namedOnes]
  refine Iff.trans ?_ (mem_marksOf (e := (name, v)))
  exact ⟨Entries.mem_of_get?, Entries.get?_of_mem nodup_keys_marksOf⟩

theorem marksOf_eq_nil_iff :
    marksOf included excluded = [] ↔ included.getD [] = [] ∧ excluded.getD [] = [] := by
  constructor
  · intro h
    have unmarked (name : String) : name ∉ excluded.getD [] ∧ name ∉ namedOnes included := by
      rw [← not_or, ← mem_keys_marksOf, h]
      exact List.not_mem_nil
    refine ⟨List.eq_nil_iff_forall_not_mem.2 fun name hn => (unmarked name).2 ?_,
      List.eq_nil_iff_forall_not_mem.2 fun name => (unmarked name).1⟩
    exact mem_namedOnes.2 (.inl hn)
  · rintro ⟨hi, hx⟩
    refine List.eq_nil_iff_forall_not_mem.2 fun e he => ?_
    simp [mem_marksOf, hi, hx] at he

theorem compile_eq_none_iff :
    compile included excluded = none ↔ included.getD [] = [] ∧ excluded.getD [] = [] := by
  rw [compile_eq, ← marksOf_eq_nil_iff]
  simp

theorem marksOf_perm (hi : ∀ name, name ∈ included.getD [] ↔ name ∈ included'.getD [])
    (hx : ∀ name, name ∈ excluded.getD [] ↔ name ∈ excluded'.getD []) :
    (marksOf included excluded).Perm (marksOf included' excluded') := by
  have empty : included.getD [] = [] ↔ included'.getD [] = [] := by
    simp only [List.eq_nil_iff_forall_not_mem, hi]
  have once : (marksOf included excluded).Nodup := List.Nodup.of_map _ nodup_keys_marksOf
  have once' : (marksOf included' excluded').Nodup := List.Nodup.of_map _ nodup_keys_marksOf
  refine (List.perm_ext_iff_of_nodup once once').2 fun e => ?_
  simp only [mem_marksOf, mem_namedOnes, hi, hx, ne_eq, empty]

theorem compile_rel (hi : ∀ name, name ∈ included.getD [] ↔ name ∈ included'.getD [])
    (hx : ∀ name, name ∈ excluded.getD [] ↔ name ∈ excluded'.getD []) :
    Option.Rel List.Perm (compile included excluded) (compile included' excluded') := by
  have perm := marksOf_perm hi hx
  rw [compile_eq, compile_eq, perm.isEmpty_eq]
  split
  · exact .none
  · exact .some perm

end Marks

def items (query : Entries Value) (key : String) : List String :=
  match Entries.get? query key with
  | some (.text s) => (Text.trimmedPieces s.toList).map String.ofList
  | _ => []

theorem getD_named (query : Entries Value) (key : String) :
    (named query key).getD [] = (items query key).filter (· ≠ "") := by
  unfold named items
  cases Entries.get? query key with
  | none => rfl
  | some v =>
    cases v with
    | text s =>
      rw [Option.getD_some, listOf]
      split
      · rename_i h
        rw [h]
        rfl
      · rw [List.filter_map, Option.getD_some, Text.commaList]
        simp [Function.comp_def, String.ofList_eq_empty_iff]
    | _ => rfl

theorem getD_readIncluded (rules : ProjectionRules) (query : Entries Value) :
    (rules.readIncluded query).getD [] =
      ((named query "include").getD []).filter fun f => rules.fields = [] ∨ f ∈ rules.fields := by
  rw [readIncluded]
  cases named query "include" with
  | none => rfl
  | some fields =>
    rw [Option.map_some, Option.getD_some, Option.getD_some]
    by_cases h : rules.fields = []
    · simp [h]
    · rw [if_neg (mt List.isEmpty_iff.1 h)]
      exact List.filter_congr fun f _ => by simp [h]

end ProjectionRules

namespace Resource

open ProjectionRules

def listed (r : Resource) (query : Entries Value) (key : String) : List String :=
  if r.skips key then [] else (items query key).filter (· ≠ "")

variable {s : Settings} {r : Resource} {query query' : Entries Value} {request request' : Request}

theorem getD_part (r : Resource) (key : String) (fields : Option (List String)) :
    (r.part key fields).getD [] = if r.skips key then [] else fields.getD [] := by
  rw [part]
  split <;> rfl

@[simp] theorem mem_listed {r : Resource} {key field : String} :
    field ∈ r.listed query key ↔ r.skips key = false ∧ field ∈ items query key ∧ field ≠ "" := by
  rw [listed]
  split <;> simp_all

theorem mem_included_of_added
    (kept : ∀ field ∈ r.listed query "include", field ∈ r.listed query' "include")
    (added : ∀ item ∈ items query' "include",
      item = "" ∨ item ∈ r.listed query "include" ∨ ¬s.MayInclude item) (field : String) :
    field ∈ (r.listed query "include").filter (s.MayInclude ·) ↔
      field ∈ (r.listed query' "include").filter (s.MayInclude ·) := by
  simp only [List.mem_filter, decide_eq_true_eq]
  refine and_congr_left fun allowed => ⟨kept field, fun h => ?_⟩
  -- an allowed item that is not blank is no addition
  obtain ⟨-, hitem, ne⟩ := mem_listed.1 h
  exact ((added field hitem).resolve_left ne).resolve_right (not_not_intro allowed)

variable [Platform]

theorem excluded_of_read (hr : (r.read query).outcome = .ok request) :
    request.excluded.getD [] = r.listed query "exclude" := by
  rw [(parts_of_read hr).excluded, getD_part, readExcluded, getD_named, listed]

theorem included_of_read (h : ofSettings s = .ok r) (hr : (r.read query).outcome = .ok request) :
    request.included.getD [] = (r.listed query "include").filter (s.MayInclude ·) := by
  rw [(parts_of_read hr).included, getD_part, getD_readIncluded, getD_named, listed,
    (isSetUpBy_of_ofSettings h).includeFields]
  split <;> rfl

/-- A projection marks just what a request asks for: the fields that it excludes with zero, and
those others with one that it includes and may include, and the identifier when there are any.
Listing more makes no difference when all of it is blank, repeated or not allowed. -/
theorem projection_as_requested (h : ofSettings s = .ok r)
    (hr : (r.read query).outcome = .ok request) :
    let included := (r.listed query "include").filter (s.MayInclude ·)
    let excluded := r.listed query "exclude"
    (projectionOf request = none ↔ included = [] ∧ excluded = []) ∧
    (∀ marks, projectionOf request = some marks →
      (Entries.keys marks).Nodup ∧
      (∀ field v, Entries.get? marks field = some v ↔
        field ∈ excluded ∧ v = .int 0 ∨
          field ∉ excluded ∧ (field ∈ included ∨ field = "_id" ∧ included ≠ []) ∧ v = .int 1) ∧
      ∀ field, Entries.get? marks field = some (.int 1) → s.MayInclude field ∨ field = "_id") ∧
    ∀ query' request', (r.read query').outcome = .ok request' →
      (∀ field, field ∈ excluded ↔ field ∈ r.listed query' "exclude") →
      (∀ field ∈ r.listed query "include", field ∈ r.listed query' "include") →
      (∀ item ∈ items query' "include",
        item = "" ∨ item ∈ r.listed query "include" ∨ ¬s.MayInclude item) →
      Option.Rel List.Perm (projectionOf request) (projectionOf request') := by
  intro included excluded
  have hi : request.included.getD [] = included := included_of_read h hr
  have hx : request.excluded.getD [] = excluded := excluded_of_read hr
  refine ⟨?_, fun marks hm => ?_, fun query' request' hr' same kept added => ?_⟩
  · rw [projectionOf, compile_eq_none_iff, hi, hx]
  · rw [projectionOf, compile_eq] at hm
    obtain rfl : marksOf request.included request.excluded = marks :=
      Option.some.inj (Option.ite_none_left_eq_some.1 hm).2
    have marked (field : String) (v : Value) :
        Entries.get? (marksOf request.included request.excluded) field = some v ↔
          field ∈ excluded ∧ v = .int 0 ∨
            field ∉ excluded ∧ (field ∈ included ∨ field = "_id" ∧ included ≠ []) ∧ v = .int 1 := by
      rw [get?_marksOf_iff, hi, hx, identifier]
    refine ⟨nodup_keys_marksOf, marked, fun field one => ?_⟩
    obtain ⟨-, zero⟩ | ⟨-, own | ⟨identifier, -⟩, -⟩ := (marked field (.int 1)).1 one
    · cases zero
    · exact .inl (of_decide_eq_true (List.mem_filter.1 own).2)
    · exact .inr identifier
  · refine compile_rel (fun name => ?_) fun name => ?_
    · rw [hi, included_of_read h hr']
      exact mem_included_of_added kept added name
    · rw [hx, excluded_of_read hr']
      exact same name

end Resource

theorem Resource.projection_as_requested_overlap :
    let s : Settings := [("include_fields", .data (.list [.text "name", .text "email"]))]
    let query : Entries Value :=
      [("include", .text "name, email,password"), ("exclude", .text "email,_id")]
    let query' : Entries Value := [("exclude", .text "_id,email "),
      ("include", .text "password,email, ,secret,name,name,password")]
    ∃ r, ofSettings s = .ok r ∧ ∃ request, (r.read query).outcome = .ok request ∧
      ∃ request', (r.read query').outcome = .ok request' ∧
        ∃ marks, projectionOf request = some marks ∧
          Entries.get? marks "name" = some (.int 1) ∧ Entries.get? marks "email" = some (.int 0) ∧
          Entries.get? marks "_id" = some (.int 0) ∧
          (∀ v, Entries.get? marks "password" ≠ some v) ∧
          Option.Rel List.Perm (some marks) (projectionOf request') := by
  intro s query query'
  have hs : ∃ r, ofSettings s = .ok r ∧
      r.listed query "include" = ["name", "email", "password"] ∧
      r.listed query "exclude" = ["email", "_id"] ∧
      r.listed query' "include" = ["password", "email", "secret", "name", "name", "password"] ∧
      r.listed query' "exclude" = ["_id", "email"] ∧
      ∃ request, (r.read query).outcome = .ok request ∧
        ∃ request', (r.read query').outcome = .ok request' ∧
          ∃ marks, projectionOf request = some marks := by
    rw [ofSettings_of_known (by decide)]
    exact ⟨_, rfl, rfl, rfl, rfl, rfl, _, rfl, _, rfl, _, rfl⟩
  obtain ⟨r, h, hi, hx, hi', hx', request, hr, request', hr', marks, hm⟩ := hs
  have allowed : ["name", "email", "password"].filter (s.MayInclude ·) = ["name", "email"] := by
    decide
  obtain ⟨-, marked, same⟩ := projection_as_requested h hr
  obtain ⟨-, marked, -⟩ := marked marks hm
  rw [hi, hx, allowed] at marked
  have same := same query' request' hr' (by simp [hx, hx', or_comm]) (by simp [hi, hi'])
    (by rw [hi]; decide)
  refine ⟨r, h, request, hr, request', hr', marks, hm, ?_, ?_, ?_, fun v hv => ?_, hm ▸ same⟩
  · exact (marked "name" _).2 (.inr ⟨by decide, .inl (by decide), rfl⟩)
  · exact (marked "email" _).2 (.inl ⟨by decide, rfl⟩)
  · exact (marked "_id" _).2 (.inl ⟨by decide, rfl⟩)
  · simpa using (marked "password" v).1 hv

end ResourceQuery
