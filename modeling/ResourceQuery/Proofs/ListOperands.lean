import ResourceQuery.Platform.Standard
import ResourceQuery.Proofs.ConditionShape

/-!
Operands that are lists. A list is cut at its commas, and its items are the trimmed pieces that
are not blank: all of them are compared with, each as it is typed, unless there are more of them
than the cap. It makes no difference whether blank pieces are left out before they are typed or
afterwards, since a blank text is typed as itself and no other one as nothing.
-/

namespace ResourceQuery

def Value.isVoid : Value → Bool
  | .null => true
  | .text s => s = ""
  | _ => false

namespace Inference

variable [Platform]

theorem typedText_empty (field : String) : typedText field "" = .ok (.text "") := by
  have short : ¬maxLength < "".length := by decide
  have unmarked : Text.behind? existenceMark "".toList = none := by decide
  have no_moment : moment "" = .ok (.text "") := by
    have untimed : timestamp? "".toList = none := rfl
    rw [moment, untimed, String.toList_empty, Platform.readDate_nil]
  have no_identifier : isIdentifying field "" = false := by simp [isIdentifying]
  rw [typedText, if_neg short, unmarked]
  dsimp only
  split
  · exact no_moment
  · rw [no_identifier]
    rfl

theorem isVoid_typedText {field s : String} {v : Value} (h : typedText field s = .ok v) :
    v.isVoid = decide (s = "") := by
  by_cases blank : s = ""
  · subst blank
    rw [typedText_empty] at h
    cases h
    rfl
  · rw [decide_eq_false blank]
    cases (typedAs_of_typedText h).2 with
    | @number n _ => cases n <;> rfl
    | text => exact decide_eq_false blank
    | _ => rfl

end Inference

namespace Operator

open Inference

variable [Platform]

def listKey? : Operator → Option String
  | isIn => some "$in"
  | notIn => some "$nin"
  | _ => none

/-- The values of all pieces, the blank ones among them, and of these the ones that are left when
those that are nothing are dropped. -/
def keptValues (field : String) (s : List Char) : Except QueryError (List Value) :=
  (typedItems field (Text.trimmedPieces s)).map (List.filter fun v => !v.isVoid)

theorem keptValues_eq (field : String) (s : List Char) :
    keptValues field s = typedItems field (Text.commaList s) := by
  refine Outcome.map_filter_mapM (fun piece _ v typed => ?_) fun piece _ dropped => ?_
  · have blank_iff : String.ofList piece = "" ↔ piece = [] := by
      rw [← String.toList_inj, String.toList_ofList, String.toList_empty]
    simp [isVoid_typedText typed, blank_iff]
  · have blank : piece = [] := by simpa using dropped
    exact ⟨.text "", by rw [blank]; exact typedText_empty field⟩

theorem apply_of_listKey? {op : Operator} {key : String} (hop : op.listKey? = some key) (cap : Int)
    (field s : String) :
    op.apply cap field (.text s) = (itemList cap field s).map fun v => [(key, v)] := by
  have members (key : String) : (divisibleText (.text s) >>= fun s => itemList cap field s >>=
      fun v => pure [(key, v)]) = (itemList cap field s).map fun v => [(key, v)] := by
    change (itemList cap field s >>= fun v => pure [(key, v)]) = _
    cases itemList cap field s <;> rfl
  cases op with
  | isIn =>
    cases hop
    exact members "$in"
  | notIn =>
    cases hop
    exact members "$nin"
  | _ => cases hop

end Operator

namespace Operators

open Operator Inference

/-- A list is compared with by all of its items: each piece that is not blank is typed, in order,
and nothing else is. Only the number of the items can be too large. -/
theorem items_compared [Platform] (ops : Operators) {op : Operator} {key : String}
    (hop : op.listKey? = some key) {field s : String}
    (convertible : ∀ piece ∈ Text.trimmedPieces s.toList,
      ∃ v, typedText field (String.ofList piece) = .ok v) :
    let items := (Text.trimmedPieces s.toList).filter (· ≠ [])
    ∃ values,
      List.Forall₂ (fun item v => typedText field (String.ofList item) = .ok v) items values ∧
      keptValues field s.toList = .ok values ∧
      ops.apply op.name field (.text s) =
        if ops.cap < items.length then .error (.listTooLong items.length ops.cap)
        else .ok (.map [(key, .list values)]) := by
  intro items
  have kept : ∀ item ∈ items, ∃ v, typedText field (String.ofList item) = .ok v :=
    fun item h => convertible item (List.mem_filter.1 h).1
  obtain ⟨values, typed⟩ := Outcome.exists_mapM kept
  have each := Outcome.forall₂_of_mapM typed
  refine ⟨values, each, (keptValues_eq field s.toList).trans typed, ?_⟩
  have listed : itemList ops.cap field s =
      if ops.cap < values.length then .error (.listTooLong values.length ops.cap)
      else .ok (.list values) := by
    rw [itemList, typedItems, Text.commaList, typed]
    rfl
  rw [apply_name, apply_of_listKey? hop, listed, each.length_eq]
  split <;> rfl

theorem items_compared_createdAt :
    let s := " 1700000000,, 1700000000000 ,"
    let moment : Value := .moment (.ofMilliseconds 1700000000000)
    Operator.isIn.listKey? = some "$in" ∧ Operator.notIn.listKey? = some "$nin" ∧
      (∀ piece ∈ Text.trimmedPieces s.toList,
        ∃ v, typedText "createdAt" (String.ofList piece) = .ok v) ∧
      apply ⟨2, []⟩ "in" "createdAt" (.text s) = .ok (.map [("$in", .list [moment, moment])]) ∧
      apply ⟨1, []⟩ "nin" "createdAt" (.text s) = .error (.listTooLong 2 1) := by
  intro s moment
  have pieces : Text.trimmedPieces s.toList =
      ["1700000000".toList, [], "1700000000000".toList, []] := by decide
  have seconds : typedText "createdAt" "1700000000" = .ok moment := rfl
  have milliseconds : typedText "createdAt" "1700000000000" = .ok moment := rfl
  have convertible : ∀ piece ∈ Text.trimmedPieces s.toList,
      ∃ v, typedText "createdAt" (String.ofList piece) = .ok v := by
    simp only [pieces, List.forall_mem_cons]
    exact ⟨⟨_, seconds⟩, ⟨_, typedText_empty _⟩, ⟨_, milliseconds⟩, ⟨_, typedText_empty _⟩, nofun⟩
  have isIn_key : Operator.isIn.listKey? = some "$in" := rfl
  have notIn_key : Operator.notIn.listKey? = some "$nin" := rfl
  obtain ⟨values, each, -, within⟩ := items_compared ⟨2, []⟩ isIn_key convertible
  obtain ⟨_, -, -, beyond⟩ := items_compared ⟨1, []⟩ notIn_key convertible
  rw [pieces] at each within beyond
  have values_eq : values = [moment, moment] := by
    obtain _ | ⟨first, _ | ⟨second, _ | _⟩⟩ := each
    cases seconds.symm.trans first
    cases milliseconds.symm.trans second
    rfl
  rw [values_eq] at within
  exact ⟨isIn_key, notIn_key, convertible, within, beyond⟩

end Operators
end ResourceQuery
