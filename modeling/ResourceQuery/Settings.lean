import ResourceQuery.Filter
import ResourceQuery.Paging
import ResourceQuery.Projection
import ResourceQuery.SortOrder

/-!
Settings of a resource: a flat map of names, each of which belongs to one
section of the query. A section takes the settings it knows and has defaults for
the rest; a null setting counts as not given, but its name has to be known.
-/

namespace ResourceQuery

inductive Setting
  | data (v : Value)
  | operators (ops : Entries CustomOperator)

inductive Section
  | filter
  | limit
  | project
  | search
  | sort
  deriving DecidableEq, Repr

namespace Section

def all : List Section := [.filter, .limit, .project, .search, .sort]

def parameters : Section → Entries Value
  | .filter =>
    [("filter_fields", .null), ("filter_prefix", .null), ("filter_operators", .null),
      ("max_query_fields", .int 100), ("max_array_size", .int 1000)]
  | .limit => [("max_limit", .int 100), ("default_limit", .int 10)]
  | .project => [("include_fields", .null)]
  | .search => [("search_fields", .null)]
  | .sort => [("sort_fields", .null), ("default_sort", .null)]

end Section

abbrev Settings := Entries Setting

namespace Setting

def isNull : Setting → Bool
  | .data .null => true
  | _ => false

/-- A text where a list is expected is the list of its characters, a map that of its keys. -/
def texts? : Setting → Option (List String)
  | .data (.list items) => some (items.filterMap Value.text?)
  | .data (.text s) => some (s.toList.map fun c => String.ofList [c])
  | .data (.map entries) => some (Entries.keys entries)
  | _ => none

def text? : Setting → Option String
  | .data (.text s) => some s
  | _ => none

def int? : Setting → Option Int
  | .data (.int n) => some n
  | _ => none

def custom : Setting → Entries CustomOperator
  | .operators ops => ops
  | .data _ => []

def pair? : Value → Option (String × Value)
  | .list [.text field, v] => some (field, v)
  | _ => none

def order? : Setting → Option (Entries Value)
  | .data (.map entries) => some entries
  | .data (.list items) => some (items.filterMap pair?)
  | _ => none

end Setting

namespace Settings

def given? (s : Settings) (name : String) : Option Setting :=
  match Entries.get? s name with
  | some v => if v.isNull then none else some v
  | none => none

def getD (s : Settings) (name : String) (default : Setting) : Setting :=
  (given? s name).getD default

def arguments (s : Settings) (sec : Section) : Entries Setting :=
  sec.parameters.map fun p => (p.1, getD s p.1 (.data p.2))

/-- The name of the setting that no section owns: sections of the query to be ignored. -/
def skips : String := "skip_query_parser"

def declared : List String :=
  ["search_fields", "filter_fields", "filter_prefix", "filter_operators", "max_query_fields",
    "max_array_size", "sort_fields", "default_sort", "include_fields", "max_limit",
    "default_limit", skips]

def stored (s : Settings) : Settings :=
  declared.filterMap fun name => (given? s name).map fun v => (name, v)

def unknown (s : Settings) (known : List String) : List String :=
  ((Entries.keys s).filter fun name => !known.contains name).mergeSort fun a b => decide (a ≤ b)

def knownNames : List String :=
  skips :: Section.all.flatMap fun sec => Entries.keys sec.parameters

theorem mem_declared_iff (name : String) : name ∈ declared ↔ name ∈ knownNames := by
  simp only [declared, knownNames, Section.all, Section.parameters, Entries.keys,
    List.flatMap_cons, List.flatMap_nil, List.map_cons, List.map_nil, List.cons_append,
    List.nil_append, List.mem_cons, List.not_mem_nil, or_false]
  constructor <;> (rintro (h | h | h | h | h | h | h | h | h | h | h | h) <;> simp [h])

end Settings

/-- Settings that are handed out section by section: a name is known once its section has
taken its share. -/
structure SettingsDesk where
  settings : Settings
  known : List String := [Settings.skips]

namespace SettingsDesk

def take (d : SettingsDesk) (sec : Section) : Entries Setting × SettingsDesk :=
  (Settings.arguments d.settings sec,
    { d with known := d.known ++ Entries.keys sec.parameters })

def unknown (d : SettingsDesk) : List String := Settings.unknown d.settings d.known

def complaint (names : List String) : String :=
  "Invalid settings were provided for None: " ++ String.intercalate "," names

end SettingsDesk
end ResourceQuery
