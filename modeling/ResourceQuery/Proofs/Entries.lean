import ResourceQuery.Document.Entries

/-!
Entries as maps. A look-up finds the only entry of its key, putting keeps the
keys apart, and a whole update answers from the new entries first. An update
whose keys are new only appends.
-/

namespace ResourceQuery.Entries

variable {α : Type}

theorem get?_cons (e : String × α) (es : Entries α) (key : String) :
    get? (e :: es) key = if e.1 = key then some e.2 else get? es key := rfl

@[simp] theorem keys_cons (e : String × α) (es : Entries α) : keys (e :: es) = e.1 :: keys es := rfl

theorem mem_keys_of_mem {es : Entries α} {e : String × α} (h : e ∈ es) : e.1 ∈ keys es :=
  List.mem_map_of_mem h

theorem get?_eq_none_iff {es : Entries α} {key : String} :
    get? es key = none ↔ key ∉ keys es := by
  rw [← get?_isSome_iff, Bool.not_eq_true, Option.isSome_eq_false_iff, Option.isNone_iff_eq_none]

@[simp] theorem has_iff {es : Entries α} {key : String} : has es key = true ↔ key ∈ keys es :=
  get?_isSome_iff es key

theorem mem_of_get? {es : Entries α} {key : String} {v : α} (h : get? es key = some v) :
    (key, v) ∈ es := by
  induction es with
  | nil => simp at h
  | cons e es ih =>
    rw [get?_cons] at h
    split at h
    · rename_i hk
      have hv : e.2 = v := by simpa using h
      exact List.mem_cons.2 (.inl (by rw [← hk, ← hv]))
    · exact List.mem_cons_of_mem _ (ih h)

theorem get?_of_mem {es : Entries α} (hn : (keys es).Nodup) {e : String × α} (h : e ∈ es) :
    get? es e.1 = some e.2 := by
  induction es with
  | nil => simp at h
  | cons f es ih =>
    rw [keys_cons, List.nodup_cons] at hn
    rw [get?_cons]
    rcases List.mem_cons.1 h with rfl | h
    · rw [if_pos rfl]
    · rw [if_neg, ih hn.2 h]
      intro hk
      exact hn.1 (hk ▸ mem_keys_of_mem h)

theorem get?_filter {es : Entries α} {keep : String × α → Bool} {key : String}
    (h : ∀ e ∈ es, e.1 = key → keep e = true) : get? (es.filter keep) key = get? es key := by
  induction es with
  | nil => rfl
  | cons e es ih =>
    rw [List.forall_mem_cons] at h
    have rest := ih h.2
    cases hk : keep e with
    | true => rw [List.filter_cons_of_pos hk, get?_cons, get?_cons, rest]
    | false =>
      have hne : e.1 ≠ key := fun he => by simp [h.1 he] at hk
      rw [List.filter_cons_of_neg (by simp [hk]), get?_cons, if_neg hne, rest]

@[simp] theorem keys_append (es fs : Entries α) : keys (es ++ fs) = keys es ++ keys fs :=
  List.map_append

theorem put_of_not_mem {es : Entries α} {key : String} (value : α) (h : key ∉ keys es) :
    put es key value = es ++ [(key, value)] := by
  induction es with
  | nil => rfl
  | cons e es ih =>
    rw [keys_cons, List.mem_cons, not_or] at h
    rw [put, if_neg (Ne.symm h.1), ih h.2]
    rfl

@[simp] theorem mem_keys_put {es : Entries α} {key other : String} {value : α} :
    other ∈ keys (put es key value) ↔ other ∈ keys es ∨ other = key := by
  rw [keys_put]
  split
  · rename_i h
    exact ⟨.inl, fun ho => ho.elim id fun hk => hk ▸ h⟩
  · rw [List.mem_append, List.mem_singleton]

theorem nodup_keys_put {es : Entries α} (h : (keys es).Nodup) (key : String) (value : α) :
    (keys (put es key value)).Nodup := by
  rw [keys_put]
  split
  · exact h
  · rename_i hk
    refine List.nodup_append.2 ⟨h, by simp, fun a ha b hb hab => hk ?_⟩
    rw [← List.mem_singleton.1 hb, ← hab]
    exact ha

theorem mem_put {es : Entries α} {key : String} {value : α} {e : String × α}
    (h : e ∈ put es key value) : e = (key, value) ∨ e ∈ es := by
  induction es with
  | nil => exact .inl (List.mem_singleton.1 h)
  | cons f es ih =>
    rw [put] at h
    split at h
    · rename_i hk
      rcases List.mem_cons.1 h with rfl | h
      · exact .inl (by rw [hk])
      · exact .inr (List.mem_cons_of_mem _ h)
    · rcases List.mem_cons.1 h with rfl | h
      · exact .inr List.mem_cons_self
      · exact (ih h).imp id (List.mem_cons_of_mem _)

theorem mem_put_iff {es : Entries α} (h : (keys es).Nodup) {key : String} {value : α}
    {e : String × α} : e ∈ put es key value ↔ e = (key, value) ∨ e.1 ≠ key ∧ e ∈ es := by
  induction es with
  | nil => simp [put]
  | cons f es ih =>
    rw [keys_cons, List.nodup_cons] at h
    rw [put]
    split
    · rename_i hk
      have other : e ∈ es → e.1 ≠ key := fun he hke => h.1 (hk.trans hke.symm ▸ mem_keys_of_mem he)
      have first : e = f → e.1 = key := fun he => he ▸ hk
      rw [List.mem_cons, List.mem_cons, hk]
      exact or_congr_right ⟨fun he => ⟨other he, .inr he⟩,
        fun he => he.2.resolve_left fun hf => he.1 (first hf)⟩
    · rename_i hk
      have first : e = f → e.1 ≠ key := fun he => he ▸ hk
      rw [List.mem_cons, List.mem_cons, ih h.2]
      constructor
      · rintro (he | he | ⟨hne, he⟩)
        · exact .inr ⟨first he, .inl he⟩
        · exact .inl he
        · exact .inr ⟨hne, .inr he⟩
      · rintro (he | ⟨hne, he | he⟩)
        · exact .inr (.inl he)
        · exact .inl he
        · exact .inr (.inr ⟨hne, he⟩)

@[simp] theorem putAll_cons (es : Entries α) (f : String × α) (fs : Entries α) :
    putAll es (f :: fs) = putAll (put es f.1 f.2) fs := rfl

theorem nodup_keys_putAll {es : Entries α} (h : (keys es).Nodup) (fs : Entries α) :
    (keys (putAll es fs)).Nodup := by
  induction fs generalizing es with
  | nil => exact h
  | cons f fs ih => exact ih (nodup_keys_put h f.1 f.2)

theorem mem_putAll {es fs : Entries α} {e : String × α} (h : e ∈ putAll es fs) :
    e ∈ fs ∨ e ∈ es := by
  induction fs generalizing es with
  | nil => exact .inr h
  | cons f fs ih =>
    rcases ih h with h | h
    · exact .inl (List.mem_cons_of_mem _ h)
    · rcases mem_put h with rfl | h
      · exact .inl List.mem_cons_self
      · exact .inr h

@[simp] theorem mem_keys_putAll {es fs : Entries α} {key : String} :
    key ∈ keys (putAll es fs) ↔ key ∈ keys es ∨ key ∈ keys fs := by
  induction fs generalizing es with
  | nil => simp [putAll, keys]
  | cons f fs ih =>
    rw [putAll_cons, ih, mem_keys_put, keys_cons, List.mem_cons, or_assoc]

theorem get?_putAll {fs : Entries α} (hn : (keys fs).Nodup) (es : Entries α) (key : String) :
    get? (putAll es fs) key = (get? fs key).or (get? es key) := by
  induction fs generalizing es with
  | nil => rfl
  | cons f fs ih =>
    rw [keys_cons, List.nodup_cons] at hn
    rw [putAll_cons, ih hn.2, get?_cons]
    split
    · rename_i hk
      subst hk
      rw [get?_eq_none_iff.2 hn.1, get?_put_self]
      rfl
    · rename_i hk
      rw [get?_put_of_ne _ _ (Ne.symm hk)]

theorem putAll_eq_append {es fs : Entries α} (hn : (keys fs).Nodup)
    (hd : ∀ key ∈ keys fs, key ∉ keys es) : putAll es fs = es ++ fs := by
  induction fs generalizing es with
  | nil => exact (List.append_nil es).symm
  | cons f fs ih =>
    rw [keys_cons, List.nodup_cons] at hn
    have hf : f.1 ∉ keys es := hd f.1 List.mem_cons_self
    rw [putAll_cons, put_of_not_mem _ hf, ih hn.2, List.append_assoc]
    · rfl
    · intro key hk hm
      rw [keys_append, List.mem_append] at hm
      rcases hm with hm | hm
      · exact hd key (List.mem_cons_of_mem _ hk) hm
      · have hkey : key = f.1 := List.mem_singleton.1 hm
        exact hn.1 (hkey ▸ hk)

theorem get?_putAll_of_not_mem {fs : Entries α} {key : String} (h : key ∉ keys fs)
    (es : Entries α) : get? (putAll es fs) key = get? es key := by
  induction fs generalizing es with
  | nil => rfl
  | cons f fs ih =>
    rw [keys_cons, List.mem_cons, not_or] at h
    rw [putAll_cons, ih h.2, get?_put_of_ne _ _ h.1]

theorem get?_foldl_putAll_of_not_mem {updates : List (Entries α)} {key : String}
    (h : ∀ c ∈ updates, key ∉ keys c) (es : Entries α) :
    get? (updates.foldl putAll es) key = get? es key := by
  induction updates generalizing es with
  | nil => rfl
  | cons c cs ih =>
    rw [List.forall_mem_cons] at h
    rw [List.foldl_cons, ih h.2, get?_putAll_of_not_mem h.1]

/-- What a key has stays through updates just when none of them says otherwise, provided that
no two of them speak of the key. -/
theorem get?_foldl_putAll_iff {updates : List (Entries α)} {key : String}
    (hn : ∀ c ∈ updates, (keys c).Nodup)
    (hp : updates.Pairwise fun c d => key ∈ keys c → key ∉ keys d) {es : Entries α} {x : α}
    (hx : get? es key = some x) :
    get? (updates.foldl putAll es) key = some x ↔ ∀ c ∈ updates, ∀ y, (key, y) ∈ c → y = x := by
  induction updates generalizing es with
  | nil => simp [hx]
  | cons c cs ih =>
    rw [List.forall_mem_cons] at hn
    rw [List.pairwise_cons] at hp
    rw [List.foldl_cons, List.forall_mem_cons]
    by_cases hk : key ∈ keys c
    · -- no later update speaks of the key, so this one decides
      have silent : ∀ d ∈ cs, key ∉ keys d := fun d hd => hp.1 d hd hk
      obtain ⟨y, hy⟩ := Option.isSome_iff_exists.1 ((get?_isSome_iff c key).2 hk)
      rw [get?_foldl_putAll_of_not_mem silent, get?_putAll hn.1, hy, Option.some_or]
      constructor
      · intro hyx
        refine ⟨fun z hz => ?_, fun d hd z hz => absurd (mem_keys_of_mem hz) (silent d hd)⟩
        have hyz := get?_of_mem hn.1 hz
        rw [hy, hyx] at hyz
        exact (Option.some.inj hyz).symm
      · intro h
        rw [h.1 y (mem_of_get? hy)]
    · rw [ih hn.2 hp.2 ((get?_putAll_of_not_mem hk es).trans hx)]
      exact ⟨fun h => ⟨fun z hz => absurd (mem_keys_of_mem hz) hk, h⟩, fun h => h.2⟩

end ResourceQuery.Entries
