import ResourceQuery.LengthFilter

/-!
Filters of a query. A key in brackets and a key that is a listed field compare
for equality, an operator key compares as its operator says; conditions on one
field are put together. Only allowed fields are filtered, and a name that starts
with a dollar sign is never allowed.
-/

namespace ResourceQuery

namespace Filter

/-- One more condition on a field. A plain value never replaces what is there; a comparison
joins another one, or makes an equality of the plain value that is there. -/
def merge (filters : Entries Value) (field : String) (value : Value) : Entries Value :=
  match Entries.get? filters field with
  | none => Entries.put filters field value
  | some existing =>
    match value with
    | .map comparison =>
      let base :=
        match existing with
        | .map old => old
        | plain => [("$eq", plain)]
      Entries.put filters field (.map (Entries.putAll base comparison))
    | _ => filters

theorem get?_merge_of_ne (filters : Entries Value) {field other : String} (value : Value)
    (h : other ≠ field) : Entries.get? (merge filters field value) other =
      Entries.get? filters other := by
  unfold merge
  split
  · exact Entries.get?_put_of_ne _ _ h
  · split
    · exact Entries.get?_put_of_ne _ _ h
    · rfl

def baseFields : List String := ["createdAt", "updatedAt", "deletedAt"]

def wildcard : String := "*"

def defaultMaxKeys : Int := 100

end Filter

def withNew (seen : List String) (name : String) : List String :=
  if seen.contains name then seen else seen ++ [name]

def distinct (names : List String) : List String := names.foldl withNew []

theorem nodup_withNew {seen : List String} (h : seen.Nodup) (name : String) :
    (withNew seen name).Nodup := by
  unfold withNew
  split
  · exact h
  · rename_i hn
    refine List.nodup_append.2 ⟨h, by simp, fun a ha b hb hab => hn ?_⟩
    rw [List.contains_iff_mem, ← List.mem_singleton.1 hb, ← hab]
    exact ha

@[simp] theorem mem_withNew {seen : List String} {name other : String} :
    other ∈ withNew seen name ↔ other ∈ seen ∨ other = name := by
  unfold withNew
  split
  · rename_i h
    exact ⟨.inl, fun ho => ho.elim id fun hn => hn ▸ List.contains_iff_mem.1 h⟩
  · rw [List.mem_append, List.mem_singleton]

theorem nodup_distinct (names : List String) : (distinct names).Nodup := by
  have keep (seen : List String) (h : seen.Nodup) : (names.foldl withNew seen).Nodup := by
    induction names generalizing seen with
    | nil => exact h
    | cons n names ih => exact ih _ (nodup_withNew h n)
  exact keep [] .nil

@[simp] theorem mem_distinct {names : List String} {name : String} :
    name ∈ distinct names ↔ name ∈ names := by
  have keep (seen : List String) :
      name ∈ names.foldl withNew seen ↔ name ∈ seen ∨ name ∈ names := by
    induction names generalizing seen with
    | nil => simp
    | cons n names ih => rw [List.foldl_cons, ih, mem_withNew, List.mem_cons, or_assoc]
  rw [distinct, keep]
  simp

structure FilterRules where
  fields : List String
  fields_nodup : fields.Nodup
  fieldPrefix : Option String
  maxKeys : Int
  operators : Operators

namespace FilterRules

def make (fields : Option (List String)) (fieldPrefix : Option String)
    (custom : Entries CustomOperator) (maxKeys listCap : Option Int) :
    Except ConfigError FilterRules :=
  (Operators.make listCap custom).map fun operators =>
    { fields := distinct (fields.getD [] ++ Filter.baseFields)
      fields_nodup := nodup_distinct _
      fieldPrefix
      maxKeys := Operators.orDefault maxKeys Filter.defaultMaxKeys
      operators }

/-- Does the field start with the configured beginning? An empty one allows nothing. -/
def allowsByPrefix (rules : FilterRules) (field : String) : Bool :=
  match rules.fieldPrefix with
  | some p => p ≠ "" && p.toList.isPrefixOf field.toList
  | none => false

def allows (rules : FilterRules) (field : String) : Bool :=
  field ≠ "" && field.toList.head? ≠ some '$' &&
    (rules.fields.contains field || rules.fields.contains Filter.wildcard ||
      rules.allowsByPrefix field)

def checkSize (rules : FilterRules) (query : Entries Value) : Except QueryError Unit :=
  if rules.maxKeys < query.length then .error (.tooManyFields query.length rules.maxKeys)
  else .ok ()

variable [Platform]

def addBracket (rules : FilterRules) (filters : Entries Value) (key : String) (operand : Value) :
    Logged (Entries Value) :=
  match Text.bracketKey? key.toList with
  | none | some [] => pure filters
  | some field =>
    let field := String.ofList field
    if !rules.allows field then do
      Logged.warn (.filterNotAllowed key)
      pure filters
    else
      Logged.attempt filters (.bracketFilterFailed key)
        ((Inference.typed field operand).map (Filter.merge filters field))

def addDirect (rules : FilterRules) (query filters : Entries Value) (field : String) :
    Logged (Entries Value) :=
  match Entries.get? query field with
  | none => pure filters
  | some operand =>
    if field = Filter.wildcard ∨ Entries.has filters field then pure filters
    else if !rules.allows field then do
      Logged.warn (.filterNotAllowed field)
      pure filters
    else
      Logged.attempt filters (.directFilterFailed field)
        ((Inference.typed field operand).map (Filter.merge filters field))

def addOperator (rules : FilterRules) (filters : Entries Value) (key : String) (operand : Value) :
    Logged (Entries Value) :=
  match Text.operatorKey? key.toList with
  | none => pure filters
  | some (field, op) =>
    let field := String.ofList field
    let op := String.ofList op
    if (LengthOperator.ofName? op).isSome then pure filters
    else if !rules.allows field then do
      Logged.warn (.filterNotAllowed key)
      pure filters
    else if !rules.operators.knows op then do
      Logged.warn (.unknownOperator op key)
      pure filters
    else
      Logged.attempt filters (.operatorFilterFailed key)
        ((rules.operators.apply op field operand).map (Filter.merge filters field))

/-- The filters of a query. Brackets come before listed fields, and these before operators. -/
def read (rules : FilterRules) (query : Entries Value) : Logged (Entries Value × LengthFilter) := do
  Logged.lift (rules.checkSize query)
  let lengths ← LengthFilter.ofQuery rules.allows query
  let filters ← query.foldlM (fun fs (key, operand) => rules.addBracket fs key operand) []
  let filters ← rules.fields.foldlM (fun fs field => rules.addDirect query fs field) filters
  let filters ← query.foldlM (fun fs (key, operand) => rules.addOperator fs key operand) filters
  return (filters, lengths)

end FilterRules
end ResourceQuery
