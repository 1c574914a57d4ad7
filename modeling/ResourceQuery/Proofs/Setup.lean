import ResourceQuery.Proofs.Comparison
import ResourceQuery.Proofs.PageBounds
import ResourceQuery.Proofs.RequestedOrder

/-!
What a resource is set up with. The rules of a section are made of its share of the settings and of
nothing else, and each of the settings that are declared is felt in the section that owns it.
-/

namespace ResourceQuery

namespace Settings

def filterFields (s : Settings) : List String :=
  ((given? s "filter_fields").bind Setting.texts?).getD []

def filterPrefix (s : Settings) : Option String :=
  (given? s "filter_prefix").bind Setting.text?

def customOperators (s : Settings) : Entries CustomOperator :=
  ((given? s "filter_operators").map Setting.custom).getD []

def maxKeys (s : Settings) : Int :=
  Operators.orDefault ((given? s "max_query_fields").bind Setting.int?) 100

def maxItems (s : Settings) : Int :=
  Operators.orDefault ((given? s "max_array_size").bind Setting.int?) 1000

def maxPageSize (s : Settings) : Int :=
  Operators.orDefault ((given? s "max_limit").bind Setting.int?) 100

def pageSize (s : Settings) : Int :=
  min (Operators.orDefault ((given? s "default_limit").bind Setting.int?) 10)
    (Operators.orDefault ((given? s "max_limit").bind Setting.int?) 100)

def includeFields (s : Settings) : List String :=
  ((given? s "include_fields").bind Setting.texts?).getD []

def searchFields (s : Settings) : List String :=
  ((given? s "search_fields").bind Setting.texts?).getD ["name"]

def sortFields (s : Settings) : List String :=
  ((given? s "sort_fields").bind Setting.texts?).getD []

def defaultSort (s : Settings) : Entries Value :=
  match (given? s "default_sort").bind Setting.order? with
  | some (e :: es) => Entries.ofPairs (e :: es)
  | _ => [("createdAt", .int (-1))]

def flags (s : Settings) : Entries Value := ((given? s skips).bind Setting.order?).getD []

variable {s t : Settings}

theorem arguments_congr {sec : Section}
    (h : ∀ name ∈ Entries.keys sec.parameters, given? s name = given? t name) :
    arguments s sec = arguments t sec := by
  refine List.map_congr_left fun p hp => ?_
  rw [getD, getD, h p.1 (Entries.mem_keys_of_mem hp)]

end Settings

namespace Resource

open Outcome Settings

theorem argument_arguments (s : Settings) (sec : Section) {name : String} {default : Value}
    (declared : Entries.get? sec.parameters name = some default) :
    argument (arguments s sec) name = getD s name (.data default) := by
  have read (ps : Entries Value) : Entries.get? ps name = some default →
      Entries.get? (ps.map fun p => (p.1, getD s p.1 (.data p.2))) name =
        some (getD s name (.data default)) := by
    induction ps with
    | nil => exact nofun
    | cons p ps ih =>
      obtain ⟨key, v⟩ := p
      rw [List.map_cons, Entries.get?_cons, Entries.get?_cons]
      split
      · rename_i here
        rintro ⟨⟩
        rw [here]
      · exact ih
  rw [argument, arguments, read _ declared]
  rfl

theorem bind_given? {α : Type} {s : Settings} (sec : Section) {name : String}
    {f : Setting → Option α} (declared : Entries.get? sec.parameters name = some .null)
    (hf : f (.data .null) = none) :
    (given? s name).bind f = f (argument (arguments s sec) name) := by
  rw [argument_arguments s sec declared, getD]
  cases given? s name with
  | none => exact hf.symm
  | some v => rfl

theorem custom_given? {s : Settings} (sec : Section) {name : String}
    (declared : Entries.get? sec.parameters name = some .null) :
    ((given? s name).map Setting.custom).getD [] = (argument (arguments s sec) name).custom := by
  rw [argument_arguments s sec declared, getD]
  cases given? s name <;> rfl

theorem orDefault_given? {s : Settings} (sec : Section) {name : String} {n : Int}
    (declared : Entries.get? sec.parameters name = some (.int n)) :
    Operators.orDefault ((given? s name).bind Setting.int?) n =
      Operators.orDefault (argument (arguments s sec) name).int? n := by
  rw [argument_arguments s sec declared, getD]
  cases given? s name with
  | none =>
    change n = if n = 0 then n else n
    rw [ite_self]
  | some v => rfl

/-- Each section makes its rules of its share of the settings. -/
structure MadeOf (s : Settings) (r : Resource) : Prop where
  filter : filterRules (arguments s .filter) = .ok r.filter
  paging : pagingRules (arguments s .limit) = .ok r.paging
  projection : projectionRules (arguments s .project) = r.projection
  search : searchRules (arguments s .search) = r.search
  sort : sortRules (arguments s .sort) = .ok r.sort
  skipped : s.flags = r.skipped

theorem ofSettings_eq (s : Settings) : ofSettings s = (do
    let filter ← filterRules (arguments s .filter)
    let paging ← pagingRules (arguments s .limit)
    let sort ← sortRules (arguments s .sort)
    match unknown s knownNames with
    | [] =>
      return {
        filter, paging, sort
        projection := projectionRules (arguments s .project)
        search := searchRules (arguments s .search)
        skipped := s.flags }
    | names => .error (.unknownSettings names)) := rfl

theorem madeOf_of_ofSettings {s : Settings} {r : Resource} (h : ofSettings s = .ok r) :
    MadeOf s r := by
  rw [ofSettings_eq] at h
  obtain ⟨filter, hf, h⟩ := bind_eq_ok_iff.1 h
  obtain ⟨paging, hp, h⟩ := bind_eq_ok_iff.1 h
  obtain ⟨sort, hs, h⟩ := bind_eq_ok_iff.1 h
  split at h
  · cases h
    exact ⟨hf, hp, rfl, rfl, hs, rfl⟩
  · cases h

theorem ofSettings_of_known {s : Settings} (h : ∀ name ∈ Entries.keys s, name ∈ knownNames) :
    ofSettings s = do
      let filter ← filterRules (arguments s .filter)
      let paging ← pagingRules (arguments s .limit)
      let sort ← sortRules (arguments s .sort)
      return {
        filter, paging, sort
        projection := projectionRules (arguments s .project)
        search := searchRules (arguments s .search)
        skipped := s.flags } := by
  have none_unknown : unknown s knownNames = [] := by
    rw [unknown, List.filter_eq_nil_iff.2 (by simpa using h), List.mergeSort_nil]
  rw [ofSettings_eq, none_unknown]

/-- Each of the declared settings is felt in the section that owns it, and there as it is given. -/
structure IsSetUpBy (r : Resource) (s : Settings) : Prop where
  filterFields : r.filter.fields = distinct (s.filterFields ++ Filter.baseFields)
  filterPrefix : r.filter.fieldPrefix = s.filterPrefix
  customOperators : r.filter.operators.custom = s.customOperators
  maxKeys : r.filter.maxKeys = s.maxKeys
  maxItems : r.filter.operators.cap = s.maxItems
  maxPageSize : r.paging.maxLimit = s.maxPageSize
  pageSize : r.paging.defaultLimit = s.pageSize
  includeFields : r.projection.fields = s.includeFields
  searchFields : r.search.fields = s.searchFields
  sortFields : r.sort.fields = distinct (s.sortFields ++ SortOrder.baseFields)
  defaultSort : r.sort.default = s.defaultSort
  flags : r.skipped = s.flags

theorem isSetUpBy_of_ofSettings {s : Settings} {r : Resource} (h : ofSettings s = .ok r) :
    r.IsSetUpBy s := by
  have made := madeOf_of_ofSettings h
  obtain ⟨operators, accepted, filter⟩ := map_eq_ok_iff.1 made.filter
  obtain ⟨cap, custom, -⟩ := Operators.make_eq_ok accepted
  obtain ⟨maxLimit, defaultLimit, -⟩ := PagingRules.make_eq_ok made.paging
  obtain ⟨sort, -⟩ := SortRules.eq_of_make made.sort
  constructor
  case filterFields => rw [← filter, Settings.filterFields, bind_given? .filter rfl rfl]
  case filterPrefix => rw [← filter, Settings.filterPrefix, bind_given? .filter rfl rfl]
  case customOperators =>
    rw [← filter, custom, Settings.customOperators, custom_given? .filter rfl]
  case maxKeys =>
    rw [← filter, Settings.maxKeys, orDefault_given? .filter rfl]
    rfl
  case maxItems =>
    rw [← filter, cap, Settings.maxItems, orDefault_given? .filter rfl, Operators.defaultCap]
  case maxPageSize => rw [maxLimit, Settings.maxPageSize, orDefault_given? .limit rfl]
  case pageSize =>
    rw [defaultLimit, maxLimit, Settings.pageSize, orDefault_given? .limit rfl,
      orDefault_given? .limit rfl]
  case includeFields =>
    rw [← made.projection, Settings.includeFields, bind_given? .project rfl rfl]
    rfl
  case searchFields =>
    rw [← made.search, Settings.searchFields, bind_given? .search rfl rfl]
    rfl
  case sortFields => rw [sort, Settings.sortFields, bind_given? .sort rfl rfl]
  case defaultSort =>
    rw [sort, Settings.defaultSort, bind_given? .sort rfl rfl]
    rfl
  case flags => exact made.skipped.symm

end Resource
end ResourceQuery
