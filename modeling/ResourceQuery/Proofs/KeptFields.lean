import ResourceQuery.Proofs.Entries
import ResourceQuery.Request

/-!
Fields that a projection keeps. A projection that marks a field with one keeps the fields
so marked and what lies under them; any other keeps all but its marks. The marks of a
request come down to what it includes and does not exclude.
-/

namespace ResourceQuery

def LiesIn (name field : String) : Prop :=
  field = name ∨ (name ++ ".").toList <+: field.toList

instance (name field : String) : Decidable (LiesIn name field) :=
  inferInstanceAs (Decidable (_ ∨ _))

def KeptBy (only dropped : List String) (field : String) : Prop :=
  if only = [] then ∀ name ∈ dropped, ¬LiesIn name field else ∃ name ∈ only, LiesIn name field

instance (only dropped : List String) (field : String) : Decidable (KeptBy only dropped field) :=
  inferInstanceAs (Decidable (ite _ _ _))

theorem keptBy_congr {only only' dropped dropped' : List String}
    (ho : ∀ name, name ∈ only ↔ name ∈ only')
    (hd : only' = [] → ∀ name, name ∈ dropped ↔ name ∈ dropped') (field : String) :
    KeptBy only dropped field ↔ KeptBy only' dropped' field := by
  have empty : only = [] ↔ only' = [] := by simp [List.eq_nil_iff_forall_not_mem, ho]
  unfold KeptBy
  by_cases h : only' = []
  · rw [if_pos (empty.2 h), if_pos h]
    simp only [hd h]
  · rw [if_neg fun he => h (empty.1 he), if_neg h]
    simp only [ho]

namespace ProjectionRules

def isOne (entry : String × Value) : Bool :=
  match entry.2 with
  | .int n => n = 1
  | _ => false

/-- What a projection keeps: only the fields that are marked with one, where there are any,
and otherwise all but the marked ones. -/
def Keeps (marks : Entries Value) (field : String) : Prop :=
  KeptBy (Entries.keys (marks.filter isOne)) (Entries.keys marks) field

instance (marks : Entries Value) (field : String) : Decidable (Keeps marks field) :=
  inferInstanceAs (Decidable (KeptBy _ _ _))

@[simp] theorem mark_cons (marks : Entries Value) (f : String) (fs : List String) (n : Int) :
    mark marks (f :: fs) n = mark (Entries.put marks f (.int n)) fs n := rfl

theorem nodup_keys_mark {marks : Entries Value} (h : (Entries.keys marks).Nodup)
    (fields : List String) (n : Int) : (Entries.keys (mark marks fields n)).Nodup := by
  induction fields generalizing marks with
  | nil => exact h
  | cons f fs ih =>
    rw [mark_cons]
    exact ih (Entries.nodup_keys_put h f _)

theorem mem_mark {marks : Entries Value} (h : (Entries.keys marks).Nodup) (fields : List String)
    (n : Int) {e : String × Value} :
    e ∈ mark marks fields n ↔ e.1 ∈ fields ∧ e.2 = .int n ∨ e.1 ∉ fields ∧ e ∈ marks := by
  induction fields generalizing marks with
  | nil => simp [mark]
  | cons f fs ih =>
    rw [mark_cons, ih (Entries.nodup_keys_put h f _), Entries.mem_put_iff h]
    have named : e = (f, .int n) ↔ e.1 = f ∧ e.2 = .int n := Prod.ext_iff
    by_cases hf : e.1 = f
    · by_cases hs : f ∈ fs <;> simp [hf, hs, named]
    · by_cases hs : e.1 ∈ fs <;> simp [hf, hs, named]

def namedOnes (included : Option (List String)) : List String :=
  match included with
  | some (f :: fs) => f :: fs ++ [identifier]
  | _ => []

def ones (included excluded : Option (List String)) : List String :=
  (namedOnes included).filter fun name => !(excluded.getD []).contains name

def marksOf (included excluded : Option (List String)) : Entries Value :=
  mark (mark [] (namedOnes included) 1) (excluded.getD []) 0

theorem compile_eq (included excluded : Option (List String)) :
    compile included excluded =
      if (marksOf included excluded).isEmpty then none else some (marksOf included excluded) := by
  match included with
  | none => rfl
  | some [] => rfl
  | some (f :: fs) =>
    -- the identifier is marked behind the fields that are named
    simp [compile, marksOf, namedOnes, mark, List.foldl_append]

theorem mem_marksOf {included excluded : Option (List String)} {e : String × Value} :
    e ∈ marksOf included excluded ↔ e.1 ∈ excluded.getD [] ∧ e.2 = .int 0 ∨
      e.1 ∉ excluded.getD [] ∧ e.1 ∈ namedOnes included ∧ e.2 = .int 1 := by
  have blank : (Entries.keys ([] : Entries Value)).Nodup := List.nodup_nil
  rw [marksOf, mem_mark (nodup_keys_mark blank _ _), mem_mark blank]
  simp

theorem mem_keys_marksOf {included excluded : Option (List String)} {name : String} :
    name ∈ Entries.keys (marksOf included excluded) ↔
      name ∈ excluded.getD [] ∨ name ∈ namedOnes included := by
  simp only [Entries.keys, List.mem_map, mem_marksOf]
  constructor
  · rintro ⟨e, ⟨h, _⟩ | ⟨_, h, _⟩, rfl⟩
    · exact .inl h
    · exact .inr h
  · intro h
    by_cases hx : name ∈ excluded.getD []
    · exact ⟨(name, .int 0), .inl ⟨hx, rfl⟩, rfl⟩
    · exact ⟨(name, .int 1), .inr ⟨hx, h.resolve_left hx, rfl⟩, rfl⟩

theorem mem_keys_filter_marksOf {included excluded : Option (List String)} {name : String} :
    name ∈ Entries.keys ((marksOf included excluded).filter isOne) ↔
      name ∈ ones included excluded := by
  simp only [Entries.keys, List.mem_map, List.mem_filter, mem_marksOf, ones]
  constructor
  · rintro ⟨e, ⟨⟨_, h⟩ | ⟨hx, hn, _⟩, ho⟩, rfl⟩
    · simp [isOne, h] at ho
    · exact ⟨hn, by simpa using hx⟩
  · rintro ⟨hn, hx⟩
    have hx : name ∉ excluded.getD [] := by simpa using hx
    exact ⟨(name, .int 1), ⟨.inr ⟨hx, hn, rfl⟩, rfl⟩, rfl⟩

theorem keeps_marksOf_iff (included excluded : Option (List String)) (field : String) :
    Keeps (marksOf included excluded) field ↔
      KeptBy (ones included excluded) (excluded.getD []) field := by
  refine keptBy_congr (fun name => mem_keys_filter_marksOf) (fun h name => ?_) field
  have covered : name ∈ namedOnes included → name ∈ excluded.getD [] := by
    simpa [ones] using List.filter_eq_nil_iff.1 h name
  rw [mem_keys_marksOf]
  exact ⟨fun hn => hn.elim id covered, .inl⟩

end ProjectionRules

namespace Request

def Keeps (request : Request) (field : String) : Prop :=
  KeptBy (ProjectionRules.ones request.included request.excluded) (request.excluded.getD []) field

instance (request : Request) (field : String) : Decidable (request.Keeps field) :=
  inferInstanceAs (Decidable (KeptBy _ _ _))

theorem keeps_of_no_projection {request : Request} (h : Resource.projectionOf request = none)
    (field : String) : request.Keeps field := by
  rw [Resource.projectionOf, ProjectionRules.compile_eq] at h
  have empty : ProjectionRules.marksOf request.included request.excluded = [] := by
    simpa using h
  rw [Keeps, ← ProjectionRules.keeps_marksOf_iff, empty]
  exact nofun

theorem keeps_iff_of_projection {request : Request} {marks : Entries Value}
    (h : Resource.projectionOf request = some marks) (field : String) :
    ProjectionRules.Keeps marks field ↔ request.Keeps field := by
  rw [Resource.projectionOf, ProjectionRules.compile_eq] at h
  split at h
  · cases h
  · cases h
    exact ProjectionRules.keeps_marksOf_iff ..

end Request
end ResourceQuery
