import Mathlib.Data.List.Induction
import ResourceQuery.Proofs.Doubles
import ResourceQuery.Proofs.Entries
import ResourceQuery.SortOrder

/-!
The order that a request asks for. A list of pairs is read as its allowed fields, each at the
place of its first pair with the direction of its last one; without any the configured order
holds. A single field in two keys is read just as a list of its one pair.
-/

namespace ResourceQuery

namespace Entries

variable {α : Type}

theorem nodup_keys_ofPairs (fs : Entries α) : (keys (ofPairs fs)).Nodup :=
  nodup_keys_putAll (show (keys ([] : Entries α)).Nodup from .nil) fs

theorem mem_ofPairs_iff {fs : Entries α} {e : String × α} :
    e ∈ ofPairs fs ↔ ∃ before after, fs = before ++ e :: after ∧ e.1 ∉ keys after := by
  induction fs using List.reverseRecOn with
  | nil => simp [ofPairs, putAll]
  | append_singleton fs f ih =>
    have last : ofPairs (fs ++ [f]) = put (ofPairs fs) f.1 f.2 := List.foldl_append
    rw [last, mem_put_iff (nodup_keys_ofPairs fs)]
    refine (or_congr_right (and_congr_right fun _ => ih)).trans ⟨?_, ?_⟩
    · rintro (rfl | ⟨other, before, after, rfl, hn⟩)
      · exact ⟨fs, [], rfl, List.not_mem_nil⟩
      · refine ⟨before, after ++ [f], by simp, ?_⟩
        rw [keys_append, List.mem_append, not_or]
        exact ⟨hn, fun h => other (List.mem_singleton.1 h)⟩
    · rintro ⟨before, after, h, hn⟩
      rcases List.eq_nil_or_concat' after with rfl | ⟨after, g, rfl⟩
      · exact .inl (List.cons.inj (List.append_inj' h rfl).2).1.symm
      · rw [← List.cons_append, ← List.append_assoc] at h
        obtain ⟨rfl, hg⟩ := List.append_inj' h rfl
        obtain rfl := (List.cons.inj hg).1
        rw [keys_append, List.mem_append, not_or] at hn
        exact .inr ⟨fun h => hn.2 (List.mem_singleton.2 h), before, after, rfl, hn.1⟩

theorem keys_put_eq_withNew (es : Entries α) (key : String) (value : α) :
    keys (put es key value) = withNew (keys es) key := by
  rw [keys_put, withNew]
  simp only [List.contains_iff_mem]

theorem keys_ofPairs (fs : Entries α) : keys (ofPairs fs) = distinct (keys fs) := by
  have run (es : Entries α) : keys (putAll es fs) = (keys fs).foldl withNew (keys es) := by
    induction fs generalizing es with
    | nil => rfl
    | cons f fs ih => rw [putAll_cons, ih, keys_put_eq_withNew, keys_cons, List.foldl_cons]
  exact run []

theorem ofPairs_ne_nil {fs : Entries α} (h : fs ≠ []) : ofPairs fs ≠ [] := by
  obtain ⟨e, he⟩ := List.exists_mem_of_ne_nil fs h
  intro nothing
  have key : e.1 ∈ keys (ofPairs fs) := by
    rw [keys_ofPairs, mem_distinct]
    exact mem_keys_of_mem he
  rw [nothing] at key
  cases key

end Entries

namespace Text

theorem cutAt_append {sep : Char} {front : List Char} (h : sep ∉ front) (rest : List Char) :
    cutAt sep (front ++ sep :: rest) = (front, rest) := by
  have inside : ∀ c ∈ front, decide (c ≠ sep) = true := fun c hc =>
    decide_eq_true fun hs => h (hs ▸ hc)
  rw [cutAt, List.takeWhile_append_of_pos inside, List.dropWhile_append_of_pos inside]
  simp

end Text

namespace Number.Numeral

theorem value_eq_of_same {n : Numeral} {k : Int} (h : n.same (.int k) = true) : n.value = k := by
  cases n with
  | int m =>
    have equal : m = k := of_decide_eq_true h
    rw [equal]
    rfl
  | float x =>
    obtain ⟨-, equal⟩ := Bool.and_eq_true_iff.1 h
    have pos : (0 : ℚ) < x.denominator := by exact_mod_cast x.denominator_pos
    have scaled : (k * x.denominator : ℚ) = x.numerator := by exact_mod_cast of_decide_eq_true equal
    exact (eq_div_of_mul_eq pos.ne' scaled).symm

end Number.Numeral

namespace SortOrder

def IsSign (v : Value) : Prop := ∃ n, v.numeral? = some n ∧ (n.value = 1 ∨ n.value = -1)

theorem isSign_of_isDirection {v : Value} (h : isDirection v = true) : IsSign v := by
  unfold isDirection at h
  split at h
  · rename_i n number
    rw [Bool.or_eq_true] at h
    refine ⟨n, number, h.imp (fun h => ?_) fun h => ?_⟩
    · exact_mod_cast Number.Numeral.value_eq_of_same h
    · exact_mod_cast Number.Numeral.value_eq_of_same h
  · cases h

theorem direction_eq (s : List Char) :
    direction s = .int (if Text.trim s = "desc".toList then -1 else 1) := by
  unfold direction
  split <;> rfl

theorem isDirection_direction (s : List Char) : isDirection (direction s) = true := by
  unfold direction
  split <;> rfl

def configured (default : Option (Entries Value)) : Entries Value :=
  match default with
  | some (e :: es) => Entries.ofPairs (e :: es)
  | _ => [("createdAt", .int (-1))]

theorem nodup_keys_configured (default : Option (Entries Value)) :
    (Entries.keys (configured default)).Nodup := by
  unfold configured
  split
  · exact Entries.nodup_keys_ofPairs _
  · decide

theorem configured_ne_nil (default : Option (Entries Value)) : configured default ≠ [] := by
  unfold configured
  split
  · exact Entries.ofPairs_ne_nil (List.cons_ne_nil _ _)
  · exact List.cons_ne_nil _ _

def named? (allows : String → Bool) (pair : List Char) : Option (String × List Char) :=
  let field := String.ofList (Text.trim (Text.cutAt ':' pair).1)
  if field ≠ "" ∧ allows field then some (field, (Text.cutAt ':' pair).2) else none

def askedIn (allows : String → Bool) (s : String) : Entries (List Char) :=
  (Text.pieces ',' s.toList).filterMap (named? allows)

theorem allows_of_mem_askedIn {allows : String → Bool} {s : String} {e : String × List Char}
    (h : e ∈ askedIn allows s) : allows e.1 = true := by
  obtain ⟨pair, -, named⟩ := List.mem_filterMap.1 h
  rw [named?] at named
  split at named
  · rename_i allowed
    cases named
    exact allowed.2
  · cases named

def directed (asked : Entries (List Char)) : Entries Value :=
  asked.map fun e => (e.1, direction e.2)

theorem keys_directed (asked : Entries (List Char)) :
    Entries.keys (directed asked) = Entries.keys asked := by
  rw [Entries.keys, directed, List.map_map]
  rfl

theorem mem_ofPairs_directed {asked : Entries (List Char)} {e : String × Value}
    (h : e ∈ Entries.ofPairs (directed asked)) :
    ∃ before text after, asked = before ++ (e.1, text) :: after ∧
      e.1 ∉ Entries.keys after ∧ e.2 = direction text := by
  obtain ⟨before, after, split, last⟩ := Entries.mem_ofPairs_iff.1 h
  obtain ⟨front, rest, rfl, -, hrest⟩ := List.map_eq_append_iff.1 split
  obtain ⟨⟨field, text⟩, back, rfl, rfl, rfl⟩ := List.map_eq_cons_iff.1 hrest
  rw [← directed, keys_directed] at last
  exact ⟨front, text, back, rfl, last, rfl⟩

end SortOrder

namespace SortRules

open SortOrder

variable {fields : Option (List String)} {default : Option (Entries Value)}

/-- Some fields can always be sorted by, so no empty list of fields ever stands for all. -/
theorem allows_distinct (fields : List String) (order : Entries Value) :
    (mk (distinct (fields ++ baseFields)) order).allows = (fields ++ baseFields).contains := by
  have listed : "createdAt" ∈ distinct (fields ++ baseFields) :=
    mem_distinct.2 (List.mem_append_right _ List.mem_cons_self)
  have some_listed : (distinct (fields ++ baseFields)).isEmpty = false :=
    List.isEmpty_eq_false_iff.2 (List.ne_nil_of_mem listed)
  funext field
  rw [allows, some_listed, Bool.false_or, Bool.eq_iff_iff, List.contains_iff_mem,
    List.contains_iff_mem, mem_distinct]

theorem eq_of_make {rules : SortRules} (made : make fields default = .ok rules) :
    rules = ⟨distinct (fields.getD [] ++ baseFields), configured default⟩ ∧
      ∀ e ∈ configured default, isDirection e.2 = true := by
  unfold make at made
  extract_lets order at made
  split at made
  · rename_i directions
    cases made
    exact ⟨rfl, List.all_eq_true.1 directions⟩
  · cases made

theorem make_eq_ok {rules : SortRules} (made : make fields default = .ok rules) :
    rules.default = configured default ∧ (∀ e ∈ rules.default, isDirection e.2 = true) ∧
      rules.allows = (fields.getD [] ++ baseFields).contains := by
  obtain ⟨rfl, directions⟩ := eq_of_make made
  exact ⟨rfl, directions, allows_distinct _ _⟩

variable (rules : SortRules)

theorem foldl_addPair (pairs : List (List Char)) (order : Entries Value) :
    pairs.foldl rules.addPair order =
      Entries.putAll order (directed (pairs.filterMap (named? rules.allows))) := by
  induction pairs generalizing order with
  | nil => rfl
  | cons pair pairs ih =>
    rw [List.foldl_cons, ih, addPair, List.filterMap_cons, named?]
    dsimp only
    split <;> rfl

theorem readList_eq (s : String) :
    rules.readList s = if askedIn rules.allows s = [] then rules.default
      else Entries.ofPairs (directed (askedIn rules.allows s)) := by
  have pairs : rules.readList s =
      rules.orDefault (Entries.ofPairs (directed (askedIn rules.allows s))) := by
    rw [readList, foldl_addPair]
    rfl
  rw [pairs, orDefault]
  by_cases asked : askedIn rules.allows s = []
  · rw [if_pos asked, asked]
    rfl
  · have some_order : Entries.ofPairs (directed (askedIn rules.allows s)) ≠ [] :=
      Entries.ofPairs_ne_nil fun h => asked (List.map_eq_nil_iff.1 h)
    rw [if_neg asked, if_neg fun h => some_order (List.isEmpty_iff.1 h)]

inductive Reads : Entries Value → Prop
  | default : Reads rules.default
  | asked {asked : Entries (List Char)} (h : asked ≠ [])
      (allowed : ∀ e ∈ asked, rules.allows e.1 = true) : Reads (Entries.ofPairs (directed asked))

theorem reads_readList (s : String) : rules.Reads (rules.readList s) := by
  rw [readList_eq]
  split
  · exact .default
  · rename_i asked
    exact .asked asked fun _ => allows_of_mem_askedIn

theorem reads_readField (field direction : String) :
    rules.Reads (rules.readField field direction) := by
  rw [readField]
  split
  · rename_i allowed
    exact @Reads.asked rules [(_, direction.toList)] (List.cons_ne_nil _ _)
      fun e he => List.mem_singleton.1 he ▸ allowed
  · exact .default

theorem reads_read (query : Entries Value) : rules.Reads (rules.read query) := by
  rw [read]
  split
  · split
    · exact rules.reads_readList _
    · exact .default
  · split
    · split
      · exact rules.reads_readField _ _
      · exact .default
    · exact .default

variable {rules}

namespace Reads

variable {order : Entries Value}

theorem ne_nil (h : rules.Reads order) (hd : rules.default ≠ []) : order ≠ [] := by
  cases h with
  | default => exact hd
  | asked h _ => exact Entries.ofPairs_ne_nil fun he => h (List.map_eq_nil_iff.1 he)

theorem field (h : rules.Reads order) {e : String × Value} (he : e ∈ order) :
    rules.allows e.1 = true ∨ e.1 ∈ Entries.keys rules.default := by
  cases h with
  | default => exact .inr (Entries.mem_keys_of_mem he)
  | asked _ allowed =>
    obtain ⟨before, text, after, rfl, -, -⟩ := mem_ofPairs_directed he
    exact .inl (allowed (e.1, text) (List.mem_append_right _ List.mem_cons_self))

theorem isDirection (h : rules.Reads order)
    (hd : ∀ e ∈ rules.default, isDirection e.2 = true) : ∀ e ∈ order, isDirection e.2 = true := by
  intro e he
  cases h with
  | default => exact hd e he
  | asked _ _ =>
    obtain ⟨-, text, -, -, -, direction_eq⟩ := mem_ofPairs_directed he
    exact direction_eq ▸ isDirection_direction text

end Reads

theorem read_of_list {query : Entries Value} {s : String}
    (h : Entries.get? query "sort" = some (.text s)) (hs : s ≠ "") :
    rules.read query = rules.readList s := by
  have value : valueOf query "sort" = .text s := by rw [valueOf, h]; rfl
  have given : (Value.text s).isGiven = true := decide_eq_true hs
  rw [read, value]
  simp only [given, if_true]

theorem read_of_field {query : Entries Value} {field direction : String}
    (unlisted : Entries.get? query "sort" = none)
    (hf : Entries.get? query "order[field]" = some (.text field))
    (hd : Entries.get? query "order[direction]" = some (.text direction))
    (field_given : field ≠ "") (given : direction ≠ "") :
    rules.read query = rules.readField field direction := by
  have no_list : valueOf query "sort" = .null := by rw [valueOf, unlisted]; rfl
  have first : valueOf query "order[field]" = .text field := by rw [valueOf, hf]; rfl
  have second : valueOf query "order[direction]" = .text direction := by rw [valueOf, hd]; rfl
  rw [read, no_list, first, second]
  have both : field ≠ "" ∧ direction ≠ "" := ⟨field_given, given⟩
  exact if_pos both

/-- The order of the results is what the settings leave of the request. Whatever is asked for,
it is by some field, and by allowed and configured fields alone. A list of pairs is read as the
allowed fields that it names, in the order in which they are first named, each with the direction
that it is last named with; when it names none, that is the configured order. -/
theorem sorted_as_asked (made : make fields default = .ok rules) (query : Entries Value) :
    let allowed := fields.getD [] ++ baseFields
    let order := rules.read query
    (order ≠ [] ∧ ∀ e ∈ order,
      (e.1 ∈ allowed ∨ e.1 ∈ Entries.keys (configured default)) ∧ IsSign e.2) ∧
    ∀ s, Entries.get? query "sort" = some (.text s) → s ≠ "" →
      (askedIn allowed.contains s = [] → order = configured default) ∧
      (askedIn allowed.contains s ≠ [] →
        Entries.keys order = distinct (Entries.keys (askedIn allowed.contains s)) ∧
        ∀ e ∈ order, ∃ before text after,
          askedIn allowed.contains s = before ++ (e.1, text) :: after ∧
          e.1 ∉ Entries.keys after ∧
          e.2 = .int (if Text.trim text = "desc".toList then -1 else 1)) := by
  intro allowed order
  obtain ⟨default_eq, directions, allows_eq⟩ := make_eq_ok made
  have read : rules.Reads order := rules.reads_read query
  have ne_nil : order ≠ [] := read.ne_nil (default_eq ▸ configured_ne_nil default)
  have field {e : String × Value} (he : e ∈ order) :
      e.1 ∈ allowed ∨ e.1 ∈ Entries.keys (configured default) := by
    rw [← List.contains_iff_mem, ← allows_eq, ← default_eq]
    exact read.field he
  have sign {e : String × Value} (he : e ∈ order) : IsSign e.2 :=
    isSign_of_isDirection (read.isDirection directions e he)
  refine ⟨⟨ne_nil, fun e he => ⟨field he, sign he⟩⟩, fun s hs given => ?_⟩
  have order_eq : order = _ := (read_of_list hs given).trans (rules.readList_eq s)
  rw [default_eq, allows_eq] at order_eq
  refine ⟨fun nothing => ?_, fun asked => ?_⟩
  · rw [order_eq, if_pos nothing]
  · rw [order_eq, if_neg asked, Entries.keys_ofPairs, keys_directed]
    refine ⟨rfl, fun e he => ?_⟩
    obtain ⟨before, text, after, split, last, hd⟩ := mem_ofPairs_directed he
    exact ⟨before, text, after, split, last, hd.trans (direction_eq text)⟩

theorem sorted_as_asked_names :
    let sort := "age:desc, name : desc ,secret:desc,:desc,age:desc:"
    let asked : Entries (List Char) :=
      [("age", "desc".toList), ("name", " desc ".toList), ("age", "desc:".toList)]
    let order : Entries Value := [("age", .int 1), ("name", .int (-1))]
    ∃ rules, make (some ["name", "age"]) (some [("name", .int 1)]) = .ok rules ∧
      rules.read [("sort", .text sort)] = order ∧ sort ≠ "" ∧
      askedIn (["name", "age"] ++ baseFields).contains sort = asked ∧ asked ≠ [] ∧
      order ≠ [] ∧ Entries.keys order = distinct (Entries.keys asked) := by
  intro sort asked order
  have made : make (some ["name", "age"]) (some [("name", .int 1)]) =
      .ok ⟨["name", "age", "createdAt", "updatedAt"], [("name", .int 1)]⟩ := rfl
  have given : sort ≠ "" := by decide
  have asked_eq : askedIn (["name", "age"] ++ baseFields).contains sort = asked := by decide +kernel
  have read_eq : read ⟨["name", "age", "createdAt", "updatedAt"], [("name", .int 1)]⟩
      [("sort", .text sort)] = order := by
    rw [read_of_list rfl given, readList_eq, (make_eq_ok made).2.2]
    simp only [Option.getD_some, asked_eq]
    rfl
  have sorted := sorted_as_asked made [("sort", .text sort)]
  simp only [Option.getD_some, read_eq] at sorted
  obtain ⟨⟨ne_nil, -⟩, listed⟩ := sorted
  have named := (listed sort rfl given).2 (asked_eq ▸ List.cons_ne_nil _ _)
  exact ⟨_, made, read_eq, given, asked_eq, List.cons_ne_nil _ _, ne_nil, asked_eq ▸ named.1⟩

theorem readList_pair (rules : SortRules) {field direction : String}
    (named : Text.trim field.toList ≠ []) (whole : ',' ∉ (field ++ ":" ++ direction).toList)
    (uncut : ':' ∉ field.toList) :
    rules.readList (field ++ ":" ++ direction) = rules.readField field direction := by
  have text : (field ++ ":" ++ direction).toList = field.toList ++ ':' :: direction.toList := by
    simp
  have name_ne : String.ofList (Text.trim field.toList) ≠ "" := fun h =>
    named (by simpa using congrArg String.toList h)
  rw [readList, Text.pieces_eq_singleton whole, text, List.foldl_cons, List.foldl_nil, addPair,
    Text.cutAt_append uncut, readField]
  dsimp only
  by_cases listed : rules.allows (String.ofList (Text.trim field.toList)) = true
  · rw [if_pos ⟨name_ne, listed⟩, if_pos listed]
    rfl
  · rw [if_neg fun h => listed h.2, if_neg listed]
    rfl

/-- The two ways to ask for one field agree, whatever stands behind its colon. -/
theorem list_agrees_with_field (rules : SortRules) {field direction : String}
    (named : Text.trim field.toList ≠ []) (uncut : ':' ∉ field.toList)
    (field_whole : ',' ∉ field.toList) (given : direction ≠ "")
    (direction_whole : ',' ∉ direction.toList) :
    rules.read [("sort", .text (field ++ ":" ++ direction))] =
      rules.read [("order[field]", .text field), ("order[direction]", .text direction)] := by
  have whole : ',' ∉ (field ++ ":" ++ direction).toList := by
    simp [field_whole, direction_whole]
  have list_given : field ++ ":" ++ direction ≠ "" := fun h => by
    simpa using congrArg String.toList h
  have field_given : field ≠ "" := fun h => named (by rw [h]; rfl)
  rw [read_of_list rfl list_given, readList_pair rules named whole uncut,
    read_of_field rfl rfl rfl field_given given]

theorem list_agrees_with_field_padded :
    ∃ rules, make (some ["name"]) none = .ok rules ∧ Text.trim " name ".toList ≠ [] ∧
      ':' ∉ " name ".toList ∧ ',' ∉ " name ".toList ∧ " desc " ≠ "" ∧ ',' ∉ " desc ".toList ∧
      rules.read [("sort", .text (" name " ++ ":" ++ " desc "))] =
        rules.read [("order[field]", .text " name "), ("order[direction]", .text " desc ")] ∧
      rules.read [("order[field]", .text " name "), ("order[direction]", .text " desc ")] =
        [("name", .int (-1))] := by
  let rules : SortRules := ⟨["name", "createdAt", "updatedAt"], [("createdAt", .int (-1))]⟩
  have named : Text.trim " name ".toList ≠ [] := by decide
  have uncut : ':' ∉ " name ".toList := by decide
  have field_whole : ',' ∉ " name ".toList := by decide
  have given : " desc " ≠ "" := by decide
  have direction_whole : ',' ∉ " desc ".toList := by decide
  have field_read : rules.readField " name " " desc " = [("name", .int (-1))] := rfl
  exact ⟨rules, rfl, named, uncut, field_whole, given, direction_whole,
    list_agrees_with_field rules named uncut field_whole given direction_whole,
    (read_of_field rfl rfl rfl (by decide) given).trans field_read⟩

end SortRules
end ResourceQuery
