import ResourceQuery.Settings

/-!
Requests. A resource is configured once and reads any number of queries; each
gives a request of its own: filters, order, page, search, projection and export
format. Sections can be switched off, which leaves their part of the request at
its default.
-/

namespace ResourceQuery

structure Request where
  page : Int := 1
  limit : Int := 10
  sort : Entries Value := []
  search : Option Value := none
  searchFields : Option (List String) := none
  filters : Entries Value := []
  included : Option (List String) := none
  excluded : Option (List String) := none
  lookups : Option (List String) := none
  format : Option String := none
  lengths : LengthFilter := {}
  deriving Repr, Inhabited

namespace Request

def sameSearch : Option Value → Option Value → Comparison
  | some v, some w => v.same w
  | none, none => .ok true
  | _, _ => .ok false

def skip (r : Request) : Int := (r.page - 1) * r.limit

/-- Equality of requests, part by part: the order of the filters does not matter, that of the
sort does. -/
def same (a b : Request) : Comparison :=
  .all [.ok (a.page = b.page && a.limit = b.limit), Entries.sameInOrder a.sort b.sort,
    sameSearch a.search b.search, .ok (a.searchFields = b.searchFields),
    (Value.map a.filters).same (.map b.filters),
    .ok (a.included = b.included && a.excluded = b.excluded && a.lookups = b.lookups &&
      a.format = b.format),
    a.lengths.same b.lengths]

end Request

def exportFormats : List String := ["json", "csv", "xlsx"]

structure Resource where
  filter : FilterRules
  paging : PagingRules
  projection : ProjectionRules
  search : SearchRules
  sort : SortRules
  skipped : Entries Value

namespace Resource

def argument (given : Entries Setting) (name : String) : Setting :=
  (Entries.get? given name).getD (.data .null)

def filterRules (given : Entries Setting) : Except ConfigError FilterRules :=
  FilterRules.make (argument given "filter_fields").texts? (argument given "filter_prefix").text?
    (argument given "filter_operators").custom (argument given "max_query_fields").int?
    (argument given "max_array_size").int?

def pagingRules (given : Entries Setting) : Except ConfigError PagingRules :=
  PagingRules.make (argument given "max_limit").int? (argument given "default_limit").int?

def projectionRules (given : Entries Setting) : ProjectionRules :=
  .make (argument given "include_fields").texts?

def searchRules (given : Entries Setting) : SearchRules :=
  .make (argument given "search_fields").texts?

def sortRules (given : Entries Setting) : Except ConfigError SortRules :=
  SortRules.make (argument given "sort_fields").texts? (argument given "default_sort").order?

/-- The resource of a map of settings. Each section takes its share; names that none has taken
are complained about when all are set up. -/
def ofSettings (s : Settings) : Except ConfigError Resource := do
  let desk : SettingsDesk := { settings := s }
  let (given, desk) := desk.take .filter
  let filter ← filterRules given
  let (given, desk) := desk.take .limit
  let paging ← pagingRules given
  let (given, desk) := desk.take .project
  let projection := projectionRules given
  let (given, desk) := desk.take .search
  let search := searchRules given
  let (given, desk) := desk.take .sort
  let sort ← sortRules given
  match desk.unknown with
  | [] =>
    return {
      filter, paging, projection, search, sort
      skipped := ((Settings.given? s Settings.skips).bind Setting.order?).getD [] }
  | names => .error (.unknownSettings names)

def skips (r : Resource) (name : String) : Bool :=
  match Entries.get? r.skipped name with
  | some v => v.isGiven
  | none => false

def readFormat (v : Value) : Logged (Option String) :=
  if !v.isGiven then pure none
  else do
    let format ← Logged.lift v.spelled
    if exportFormats.contains format then pure (some format)
    else do
      Logged.warn (.unknownFormat format)
      pure none

def part {α : Type} (r : Resource) (name : String) (value : Option α) : Option α :=
  if r.skips name then none else value

def readTerm (r : Resource) (query : Entries Value) : Except QueryError (Option Value) :=
  if r.skips "search" then .ok none else SearchRules.readTerm query

def readExport (r : Resource) (query : Entries Value) : Logged (Option String) :=
  if r.skips "format" then pure none
  else readFormat ((Entries.get? query "format").getD .null)

variable [Platform]

def readConditions (r : Resource) (query : Entries Value) :
    Logged (Entries Value × LengthFilter) :=
  if r.skips "filters" then pure ([], {}) else r.filter.read query

/-- The request that a query makes. The size of the query is checked first, whatever is
switched off, and page and limit are read even then. -/
def read (r : Resource) (query : Entries Value) : Logged Request := do
  Logged.lift (r.filter.checkSize query)
  let (filters, lengths) ← r.readConditions query
  let (page, limit) ← Logged.lift (r.paging.read query)
  let search ← Logged.lift (r.readTerm query)
  let format ← r.readExport query
  return {
    filters, lengths, search, format
    page := if r.skips "page" then 1 else page
    limit := if r.skips "limit" then r.paging.defaultLimit else limit
    sort := if r.skips "sort" then r.sort.default else r.sort.read query
    searchFields := r.part "searchFields" (r.search.readFields query)
    included := r.part "include" (r.projection.readIncluded query)
    excluded := r.part "exclude" (ProjectionRules.readExcluded query)
    lookups := r.part "lookup" (ProjectionRules.readLookups query) }

def condition (r : Resource) (request : Request) : Except QueryError (Entries Value) := do
  let search ←
    if r.skips "search" then .ok none
    else r.search.condition request.search request.searchFields
  return Entries.putAll (search.getD []) request.filters

def projectionOf (request : Request) : Option (Entries Value) :=
  ProjectionRules.compile request.included request.excluded

end Resource
end ResourceQuery
