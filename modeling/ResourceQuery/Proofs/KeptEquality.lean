import ResourceQuery.Proofs.Retention

/-!
What merging never gives up. A field that is compared with a plain value for equality stays so
through any run of merges of which none on that field speaks of equality; every field keeps its
place, and a merge is felt in its own field only.
-/

namespace ResourceQuery.Filter

open Entries

theorem keys_merge (filters : Entries Value) (field : String) (value : Value) :
    keys (merge filters field value) =
      if field ∈ keys filters then keys filters else keys filters ++ [field] := by
  rw [merge_eq]
  split
  · rename_i present
    rw [if_pos ((get?_isSome_iff filters field).1 present.1)]
  · exact keys_put filters field _

theorem keys_prefix_merge (filters : Entries Value) (field : String) (value : Value) :
    keys filters <+: keys (merge filters field value) := by
  rw [keys_merge]
  split
  · exact List.prefix_rfl
  · exact List.prefix_append _ _

theorem keys_prefix_mergeAll (filters : Entries Value) (steps : List (String × Value)) :
    keys filters <+: keys (mergeAll filters steps) := by
  induction steps generalizing filters with
  | nil => exact List.prefix_rfl
  | cons step steps ih => exact (keys_prefix_merge filters step.1 step.2).trans (ih _)

theorem merge_of_plain {filters : Entries Value} {field : String} {value : Value}
    (present : field ∈ keys filters) (plain : value.entries? = none) :
    merge filters field value = filters := by
  rw [merge_eq, if_pos ⟨(get?_isSome_iff filters field).2 present, plain⟩]

section Runs

variable {filters : Entries Value} {field : String} {x : Value}

theorem holdsEquality_merge (plain : x.entries? = none) (h : HoldsEquality filters field x)
    {other : String} {value : Value}
    (silent : other = field → ∀ c, value = .map c → "$eq" ∉ keys c) :
    HoldsEquality (merge filters other value) field x := by
  obtain ⟨held, hheld, equal⟩ := h
  by_cases same : field = other
  · subst same
    refine ⟨join (some held) value, ?_, join_keeps plain equal (silent rfl)⟩
    rw [get?_merge_self, hheld]
  · exact ⟨held, (get?_merge_of_ne filters value same).trans hheld, equal⟩

theorem holdsEquality_mergeAll (plain : x.entries? = none) (h : HoldsEquality filters field x)
    {steps : List (String × Value)} (silent : ∀ c, (field, .map c) ∈ steps → "$eq" ∉ keys c) :
    HoldsEquality (mergeAll filters steps) field x := by
  induction steps generalizing filters with
  | nil => exact h
  | cons step steps ih =>
    refine ih (holdsEquality_merge plain h fun same c hc => silent c ?_) fun c hc =>
      silent c (List.mem_cons_of_mem step hc)
    rw [← same, ← hc]
    exact List.mem_cons_self

/-- A field that holds a plain value goes on to ask for equality with it, after each merge of a
run in which no comparison on the field speaks of equality, and the fields stay where they are.
A single merge changes what its own field holds and nothing else, and with a plain value not even
that where there is a condition already. -/
theorem equality_kept (held : get? filters field = some x) (plain : x.entries? = none)
    {steps : List (String × Value)} (silent : ∀ c, (field, .map c) ∈ steps → "$eq" ∉ keys c) :
    (∀ done, done <+: steps →
      (∃ now, get? (mergeAll filters done) field = some now ∧
        (now = x ∨ ∃ c, now = .map c ∧ get? c "$eq" = some x)) ∧
      keys filters <+: keys (mergeAll filters done)) ∧
    ∀ (filters : Entries Value) (field : String) (value : Value),
      keys filters <+: keys (merge filters field value) ∧
      (∀ other, other ≠ field →
        get? (merge filters field value) other = get? filters other) ∧
      (field ∈ keys filters → value.entries? = none → merge filters field value = filters) := by
  refine ⟨fun done hdone => ⟨?_, keys_prefix_mergeAll filters done⟩, fun filters field value =>
    ⟨keys_prefix_merge filters field value, fun _ => get?_merge_of_ne filters value,
      merge_of_plain⟩⟩
  exact holdsEquality_mergeAll plain ⟨x, held, .inl rfl⟩ fun c hc => silent c (hdone.subset hc)

theorem equality_kept_role :
    let filters : Entries Value := [("age", .map [("$gt", .int 18)]), ("role", .text "admin")]
    let steps : List (String × Value) := [("role", .text "guest"), ("tag", .int 1),
      ("role", .map [("$gt", .text "a")]), ("role", .map []), ("role", .map [("$lt", .text "z")])]
    get? filters "role" = some (.text "admin") ∧
      (∀ c, ("role", .map c) ∈ steps → "$eq" ∉ keys c) ∧
      keys filters <+: keys (mergeAll filters steps) ∧
      ∃ now, get? (mergeAll filters steps) "role" = some now ∧
        ∃ c, now = .map c ∧ get? c "$eq" = some (.text "admin") := by
  intro filters steps
  have held : get? filters "role" = some (.text "admin") := rfl
  have silent : ∀ c, ("role", .map c) ∈ steps → "$eq" ∉ keys c := by
    simp [steps, keys]
  obtain ⟨⟨now, hnow, equal⟩, places⟩ :=
    (equality_kept held rfl silent).1 steps List.prefix_rfl
  have compared : ∃ c, get? (mergeAll filters steps) "role" = some (.map c) := ⟨_, rfl⟩
  obtain ⟨c, hc⟩ := compared
  rw [hc] at hnow
  cases hnow
  rcases equal with same | equal
  · cases same
  · exact ⟨held, silent, places, .map c, hc, equal⟩

end Runs
end ResourceQuery.Filter
