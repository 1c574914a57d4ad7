import ResourceQuery.Proofs.Numerals
import ResourceQuery.Search

/-!
Lists written with commas. A text writes the items of a list between its commas, in order and each
with blanks around it, and blank pieces anywhere among them. There is one list only that it writes,
and it is read as that one: however a list is written, it is read back, and so is a list that was
read once it is written without blanks.
-/

namespace ResourceQuery

namespace Text

structure IsItem (x : List Char) : Prop extends IsTrimmed x where
  ne_nil : x ≠ []
  unseparated : ',' ∉ x

/-- The pieces between commas that write a list: its items in order, each with blanks around it,
and blank pieces wherever they may stand. -/
inductive Enumerates : List (List Char) → List (List Char) → Prop
  | nil : Enumerates [] []
  | blank {pieces items : List (List Char)} {b : List Char} (hb : ∀ c ∈ b, isBlank c = true)
      (h : Enumerates pieces items) : Enumerates (b :: pieces) items
  | item {pieces items : List (List Char)} {x before after : List Char}
      (hb : ∀ c ∈ before, isBlank c = true) (ha : ∀ c ∈ after, isBlank c = true)
      (h : Enumerates pieces items) : Enumerates ((before ++ x ++ after) :: pieces) (x :: items)

theorem unseparated_of_blank {b : List Char} (hb : ∀ c ∈ b, isBlank c = true) : ',' ∉ b :=
  fun comma => absurd (hb ',' comma) (by decide)

theorem isItem_trim {p : List Char} (hp : ',' ∉ p) (hne : trim p ≠ []) : IsItem (trim p) := by
  obtain ⟨a, b, whole, -, -⟩ := exists_trim p
  refine ⟨isTrimmed_trim p, hne, fun comma => hp ?_⟩
  rw [whole]
  exact List.mem_append_left b (List.mem_append_right a comma)

theorem isItem_of_mem_commaList {s x : List Char} (h : x ∈ commaList s) : IsItem x := by
  obtain ⟨hx, hne⟩ := List.mem_filter.1 h
  obtain ⟨p, hp, rfl⟩ := List.mem_map.1 hx
  exact isItem_trim (not_mem_of_mem_pieces hp) (of_decide_eq_true hne)

namespace Enumerates

variable {pieces items : List (List Char)}

theorem refl (items : List (List Char)) : Enumerates items items := by
  induction items with
  | nil => exact .nil
  | cons x items ih =>
    have bare := @item items items x [] [] nofun nofun ih
    rwa [List.nil_append, List.append_nil] at bare

theorem of_trim (pieces : List (List Char)) :
    Enumerates pieces ((pieces.map trim).filter (· ≠ [])) := by
  induction pieces with
  | nil => exact .nil
  | cons p pieces ih =>
    obtain ⟨before, after, whole, hb, ha⟩ := exists_trim p
    rw [List.map_cons, List.filter_cons]
    split
    · have written := @item pieces _ (trim p) before after hb ha ih
      rwa [← whole] at written
    · rename_i hp
      have nothing : trim p = [] := by simpa using hp
      rw [nothing, List.append_nil] at whole
      rw [whole]
      exact .blank (List.forall_mem_append.2 ⟨hb, ha⟩) ih

theorem ne_nil (h : Enumerates pieces items) (hi : items ≠ []) : pieces ≠ [] := by
  rintro rfl
  cases h
  exact hi rfl

theorem unseparated (h : Enumerates pieces items) (hi : ∀ x ∈ items, IsItem x) :
    ∀ p ∈ pieces, ',' ∉ p := by
  induction h with
  | nil => exact nofun
  | blank hb _ ih => exact List.forall_mem_cons.2 ⟨unseparated_of_blank hb, ih hi⟩
  | item hb ha _ ih =>
    rw [List.forall_mem_cons] at hi
    refine List.forall_mem_cons.2 ⟨?_, ih hi.2⟩
    simp only [List.mem_append, not_or]
    exact ⟨⟨unseparated_of_blank hb, hi.1.unseparated⟩, unseparated_of_blank ha⟩

theorem filter_trim (h : Enumerates pieces items) (hi : ∀ x ∈ items, IsItem x) :
    (pieces.map trim).filter (· ≠ []) = items := by
  induction h with
  | nil => rfl
  | blank hb _ ih =>
    rw [List.map_cons, trim_of_blank hb, List.filter_cons_of_neg (by simp), ih hi]
  | item hb ha _ ih =>
    rw [List.forall_mem_cons] at hi
    have given := hi.1.ne_nil
    rw [List.map_cons, trim_around hb hi.1.toIsTrimmed given ha,
      List.filter_cons_of_pos (by simpa using given), ih hi.2]

end Enumerates

theorem enumerates_commaList (s : List Char) : Enumerates (pieces ',' s) (commaList s) :=
  .of_trim (pieces ',' s)

theorem commaList_of_enumerates {ps items : List (List Char)} (h : Enumerates ps items)
    (hne : ps ≠ []) (hi : ∀ x ∈ items, IsItem x) :
    commaList (List.intercalate [','] ps) = items := by
  rw [commaList, trimmedPieces, pieces_intercalate hne (h.unseparated hi)]
  exact h.filter_trim hi

end Text

/-- The text writes the items as a list, with commas between the pieces. -/
def Lists (s : String) (items : List String) : Prop :=
  ∃ pieces, Text.Enumerates pieces (items.map String.toList) ∧ pieces ≠ [] ∧
    s.toList = List.intercalate [','] pieces

theorem lists_intercalate {items : List String} (hne : items ≠ []) :
    Lists (String.intercalate "," items) items :=
  ⟨items.map String.toList, .refl _, by simpa using hne, String.toList_intercalate⟩

theorem commaList_of_lists {s : String} {items : List String} (h : Lists s items)
    (hi : ∀ x ∈ items, Text.IsItem x.toList) :
    (Text.commaList s.toList).map String.ofList = items := by
  obtain ⟨pieces, written, hne, joined⟩ := h
  have chars : ∀ x ∈ items.map String.toList, Text.IsItem x := by simpa using hi
  rw [joined, Text.commaList_of_enumerates written hne chars]
  simp [Function.comp_def]

theorem lists_commaList (s : String) : Lists s ((Text.commaList s.toList).map String.ofList) := by
  refine ⟨Text.pieces ',' s.toList, ?_, Text.pieces_ne_nil ',' _,
    (Text.intercalate_pieces ',' _).symm⟩
  simpa [Function.comp_def] using Text.enumerates_commaList s.toList

theorem listOf_eq_some_iff {s : String} {items : List String} :
    listOf (.text s) = some items ↔
      s ≠ "" ∧ Lists s items ∧ ∀ x ∈ items, Text.IsItem x.toList := by
  rw [listOf, Option.ite_none_left_eq_some, Option.some_inj]
  refine and_congr_right fun _ => ⟨?_, fun h => commaList_of_lists h.1 h.2⟩
  rintro rfl
  refine ⟨lists_commaList s, fun x hx => ?_⟩
  obtain ⟨item, hitem, rfl⟩ := List.mem_map.1 hx
  rw [String.toList_ofList]
  exact Text.isItem_of_mem_commaList hitem

theorem ne_empty_of_lists {s : String} {items : List String} (h : Lists s items)
    (hi : ∀ x ∈ items, Text.IsItem x.toList) (hne : items ≠ []) : s ≠ "" := by
  rintro rfl
  exact hne (commaList_of_lists h hi).symm

/-- However a list is written, it is read back, every item in its place and as often as it is
there; and a list that is read is read again when its items are joined by commas. -/
theorem enumerations_round_trip :
    (∀ s items, items ≠ [] → (∀ x ∈ items, Text.IsItem x.toList) → Lists s items →
      listOf (.text s) = some items) ∧
    ∀ s items, listOf (.text s) = some items → items ≠ [] →
      listOf (.text (String.intercalate "," items)) = some items := by
  have back (s : String) (items : List String) (hne : items ≠ [])
      (hi : ∀ x ∈ items, Text.IsItem x.toList) (h : Lists s items) :
      listOf (.text s) = some items :=
    listOf_eq_some_iff.2 ⟨ne_empty_of_lists h hi hne, h, hi⟩
  refine ⟨back, fun s items read hne => ?_⟩
  obtain ⟨-, -, hi⟩ := listOf_eq_some_iff.1 read
  exact back _ items hne hi (lists_intercalate hne)

theorem enumerations_round_trip_padded :
    let s := " ,name ,\t e mail,,\u00a0name,"
    let items := ["name", "e mail", "name"]
    items ≠ [] ∧ (∀ x ∈ items, Text.IsItem x.toList) ∧ Lists s items ∧
      listOf (.text s) = some items ∧ listOf (.text "name,e mail,name") = some items := by
  intro s items
  have given : items ≠ [] := by decide
  have ends {x : List Char} {c d : Char} (hc : x.head? = some c) (hd : x.getLast? = some d)
      (ink : Text.isBlank c = false ∧ Text.isBlank d = false) : Text.IsTrimmed x :=
    ⟨fun a ha => Option.some.inj (hc.symm.trans ha) ▸ ink.1,
      fun a ha => Option.some.inj (hd.symm.trans ha) ▸ ink.2⟩
  have name : Text.IsItem "name".toList := ⟨ends rfl rfl ⟨rfl, rfl⟩, by decide, by decide⟩
  have mail : Text.IsItem "e mail".toList := ⟨ends rfl rfl ⟨rfl, rfl⟩, by decide, by decide⟩
  have each : ∀ x ∈ items, Text.IsItem x.toList := by
    simp only [items, List.forall_mem_cons]
    exact ⟨name, mail, name, nofun⟩
  have blank (b : List Char) (h : b.all Text.isBlank = true) : ∀ c ∈ b, Text.isBlank c = true :=
    List.all_eq_true.1 h
  have written : Lists s items := by
    have last := Text.Enumerates.blank (blank [] rfl) .nil
    have third := Text.Enumerates.item (x := "name".toList) (blank ['\u00a0'] rfl)
      (blank [] rfl) last
    have second := Text.Enumerates.item (x := "e mail".toList) (blank ['\t', ' '] rfl)
      (blank [] rfl) (.blank (blank [] rfl) third)
    have first := Text.Enumerates.item (x := "name".toList) (blank [] rfl)
      (blank [' '] rfl) second
    exact ⟨_, .blank (blank [' '] rfl) first, List.cons_ne_nil _ _, by decide⟩
  have read := enumerations_round_trip.1 s items given each written
  exact ⟨given, each, written, read, enumerations_round_trip.2 s items read given⟩

end ResourceQuery
