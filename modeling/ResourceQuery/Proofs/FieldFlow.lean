import ResourceQuery.Pipeline
import ResourceQuery.Platform.Standard
import ResourceQuery.Proofs.AllowList
import ResourceQuery.Proofs.KeptFields

/-!
Fields that stages read. Behind a projection a stage finds only what that projection
keeps, so lists are counted and results are sorted by what the documents hold only where
the request keeps those lists and fields. The condition stands before the projection.
-/

namespace ResourceQuery

namespace LengthFilter

structure IsMade (f : LengthFilter) : Prop where
  computed : ∀ e ∈ f.lengths, ∃ list, e = (countField list, lengthOf list)
  compared : Entries.keys f.conditions = Entries.keys f.lengths

theorem isMade_of_read [Platform] {r : Resource} {query : Entries Value} {request : Request}
    (h : (r.read query).outcome = .ok request) : request.lengths.IsMade := by
  rcases Resource.conditions_of_read h with ⟨_, hl⟩ | ⟨asked, _, hl⟩
  · rw [hl]
    exact ⟨nofun, rfl⟩
  · rw [hl]
    refine ⟨fun e he => ?_, keys_conditions_addAll rfl _⟩
    rcases mem_lengths_addAll he with he | ⟨o, _, rfl⟩
    · cases he
    · exact ⟨o.1, rfl⟩

end LengthFilter

namespace Pipeline

def counted? : Value → Option String
  | .map [("$size", .map [("$ifNull", .list [.text path, .list []])])] =>
    match path.toList with
    | '$' :: field => some (String.ofList field)
    | _ => none
  | _ => none

theorem counted?_lengthOf (field : String) :
    counted? (LengthFilter.lengthOf field) = some field := by
  simp [LengthFilter.lengthOf, Value.entry, counted?]

def fieldsOf : Value → List String
  | .map [("$addFields", .map fields)] => fields.filterMap fun e => counted? e.2
  | .map [("$match", .map condition)] => Entries.keys condition
  | .map [("$sort", .map order)] => Entries.keys order
  | _ => []

def reads : Value → List String
  | .map [("$facet", .map branches)] => branches.flatMap fun b =>
    match b.2 with
    | .list stages => stages.flatMap fieldsOf
    | _ => []
  | stage => fieldsOf stage

def computes : Value → List String
  | .map [("$addFields", .map fields)] => Entries.keys fields
  | _ => []

/-- The fields that a run of stages reads of the documents that come to it: those that it has
not computed itself before. -/
def readsOf : List Value → List String
  | [] => []
  | stage :: later =>
    reads stage ++ (readsOf later).filter fun field => !(computes stage).contains field

/-- Whatever is read behind a projection is kept by it. -/
def ReadsKept (stages : List Value) : Prop :=
  ∀ before marks later, stages = before ++ .entry "$project" (.map marks) :: later →
    ∀ field ∈ readsOf later, ProjectionRules.Keeps marks field

abbrev Document := String → Option Value

section Runs

variable (length : Option Value → Value)

def after (d : Document) : Value → Document
  | .map [("$addFields", .map fields)] => fun field =>
    match Entries.get? fields field with
    | some e => (counted? e).map fun list => length (d list)
    | none => d field
  | _ => d

/-- Everything that a run of stages finds where it reads a document. -/
def found : Document → List Value → List (Option Value)
  | _, [] => []
  | d, stage :: later => (reads stage).map d ++ found (after length d stage) later

variable {length}

theorem after_of_not_computed (d : Document) {stage : Value} {field : String}
    (h : field ∉ computes stage) : after length d stage field = d field := by
  unfold after
  split
  · rename_i fields
    have absent : Entries.get? fields field = none := Entries.get?_eq_none_iff.2 h
    simp only [absent]
  · rfl

theorem after_congr {d d' : Document} {stage : Value}
    (h : ∀ field ∈ reads stage, d' field = d field) {field : String}
    (hf : field ∈ computes stage) : after length d' stage field = after length d stage field := by
  unfold computes at hf
  split at hf
  · rename_i fields
    obtain ⟨e, he⟩ := Option.isSome_iff_exists.1 ((Entries.get?_isSome_iff fields field).2 hf)
    simp only [after, he]
    cases hc : counted? e with
    | none => rfl
    | some list =>
      have read : list ∈ reads (.map [("$addFields", .map fields)]) :=
        List.mem_filterMap.2 ⟨_, Entries.mem_of_get? he, hc⟩
      simp only [Option.map_some, h list read]
  · cases hf

theorem found_congr {d d' : Document} {stages : List Value}
    (h : ∀ field ∈ readsOf stages, d' field = d field) :
    found length d' stages = found length d stages := by
  induction stages generalizing d d' with
  | nil => rfl
  | cons stage later ih =>
    simp only [readsOf, List.forall_mem_append] at h
    obtain ⟨here, behind⟩ := h
    have next : ∀ field ∈ readsOf later,
        after length d' stage field = after length d stage field := by
      intro field hf
      by_cases hc : field ∈ computes stage
      · exact after_congr here hc
      · have kept : field ∈ (readsOf later).filter fun field => !(computes stage).contains field :=
          List.mem_filter.2 ⟨hf, by simpa using hc⟩
        rw [after_of_not_computed d' hc, after_of_not_computed d hc, behind field kept]
    rw [found, found, ih next, List.map_congr_left here]

end Runs

theorem mem_fieldsOf_lengths {f : LengthFilter} (h : f.IsMade) {field : String} :
    field ∈ fieldsOf (.entry "$addFields" (.map f.lengths)) ↔
      LengthFilter.countField field ∈ Entries.keys f.lengths := by
  simp only [fieldsOf, Value.entry, List.mem_filterMap, Entries.keys, List.mem_map]
  constructor
  · rintro ⟨e, he, hc⟩
    obtain ⟨list, rfl⟩ := h.computed e he
    rw [counted?_lengthOf] at hc
    cases hc
    exact ⟨_, he, rfl⟩
  · rintro ⟨e, he, hk⟩
    obtain ⟨list, rfl⟩ := h.computed e he
    have same : list = field := LengthFilter.countField_inj.1 hk
    exact ⟨_, he, same ▸ counted?_lengthOf list⟩

theorem reads_pageStage (request : Request) :
    reads (pageStage request) = Entries.keys request.sort := by
  simp [reads, pageStage, sortStage, fieldsOf, Value.entry]

theorem mem_readsOf_behind {request : Request} (h : request.lengths.IsMade) {field : String} :
    field ∈ readsOf (request.lengths.stages ++ [pageStage request]) ↔
      LengthFilter.countField field ∈ Entries.keys request.lengths.lengths ∨
        field ∈ Entries.keys request.sort ∧ field ∉ Entries.keys request.lengths.lengths := by
  have counts : field ∈ reads (.entry "$addFields" (.map request.lengths.lengths)) ↔ _ :=
    mem_fieldsOf_lengths h
  have compared : reads (.entry "$match" (.map request.lengths.conditions)) =
      Entries.keys request.lengths.lengths := h.compared
  have computed : computes (.entry "$addFields" (.map request.lengths.lengths)) =
      Entries.keys request.lengths.lengths := rfl
  have uncomputed : computes (.entry "$match" (.map request.lengths.conditions)) = [] := rfl
  unfold LengthFilter.stages
  split
  · simp only [List.cons_append, List.nil_append, readsOf, List.mem_append, List.mem_filter,
      counts, compared, computed, uncomputed, reads_pageStage]
    by_cases hl : field ∈ Entries.keys request.lengths.lengths <;> simp [hl]
  · rename_i hn
    have empty : request.lengths.conditions = [] := by simpa [LengthFilter.isNeeded] using hn
    have keys := h.compared
    rw [empty] at keys
    have none : request.lengths.lengths = [] := List.map_eq_nil_iff.1 keys.symm
    simp [readsOf, reads_pageStage, none, Entries.keys]

def isProjection : Value → Bool
  | .map [("$project", _)] => true
  | _ => false

theorem eq_of_split {α : Type} {p : α → Prop} {front before behind later : List α} {x y : α}
    (h : front ++ x :: behind = before ++ y :: later) (hf : ∀ a ∈ front, ¬p a)
    (hb : ∀ a ∈ behind, ¬p a) (hy : p y) : front = before ∧ x = y ∧ behind = later := by
  induction front generalizing before with
  | nil =>
    cases before with
    | nil => simpa using h
    | cons b before =>
      obtain ⟨_, rfl⟩ := List.cons.inj h
      exact absurd hy (hb y (by simp))
  | cons a front ih =>
    rw [List.forall_mem_cons] at hf
    cases before with
    | nil =>
      obtain ⟨rfl, _⟩ := List.cons.inj h
      exact absurd hy hf.1
    | cons b before =>
      obtain ⟨rfl, hrest⟩ := List.cons.inj h
      obtain ⟨rfl, rest⟩ := ih hrest hf.2
      exact ⟨rfl, rest⟩

theorem readsKept_of_no_projection {stages : List Value}
    (h : ∀ stage ∈ stages, ¬isProjection stage) : ReadsKept stages := by
  intro before marks later hs
  have member : Value.entry "$project" (.map marks) ∈ stages := by simp [hs]
  exact absurd rfl (h _ member)

theorem readsKept_of_one_projection {front behind : List Value} (marks : Entries Value)
    (hf : ∀ stage ∈ front, ¬isProjection stage) (hb : ∀ stage ∈ behind, ¬isProjection stage) :
    ReadsKept (front ++ .entry "$project" (.map marks) :: behind) ↔
      ∀ field ∈ readsOf behind, ProjectionRules.Keeps marks field := by
  constructor
  · exact fun h => h front marks behind rfl
  · intro h before marks' later hs
    obtain ⟨_, same, rfl⟩ := eq_of_split hs hf hb rfl
    have equal : marks = marks' := by simpa [Value.entry] using same
    exact equal ▸ h

variable {p : Pipeline} {query : Entries Value} {request : Request} {context : Value}
  {custom : Option (List Value)} {stages : List Value}

theorem isProjection_behind {request : Request} :
    ∀ stage ∈ request.lengths.stages ++ [pageStage request], ¬isProjection stage := by
  unfold LengthFilter.stages
  split <;> simp [isProjection, pageStage, Value.entry]

variable [Platform]

theorem build_eq_ok (hown : p.stages = none) (hcustom : custom.getD [] = [])
    (hb : p.build request context custom = .ok stages) :
    ∃ front, (∀ stage ∈ front, ¬isProjection stage) ∧
      stages = front ++ ((Resource.projectionOf request).map fun marks =>
        Value.entry "$project" (.map marks)).toList ++
          (request.lengths.stages ++ [pageStage request]) := by
  obtain ⟨_, hs, rfl⟩ := Outcome.map_eq_ok_iff.1 hb
  obtain ⟨c, _, rfl⟩ := Outcome.map_eq_ok_iff.1 hs
  have own : custom.getD (p.ownStages c context request) = [] := by
    cases custom with
    | none => rw [Option.getD_none, ownStages, hown]
    | some stages => exact hcustom
  refine ⟨if p.resource.skips "query" then [] else [.entry "$match" (.map c)], ?_, ?_⟩
  · split <;> simp [isProjection, Value.entry]
  · rw [own]
    cases Resource.projectionOf request <;> simp

theorem readsKept_iff (hown : p.stages = none) (hcustom : custom.getD [] = [])
    (hb : p.build request context custom = .ok stages) :
    ReadsKept stages ↔ ∀ field ∈ readsOf (request.lengths.stages ++ [pageStage request]),
      request.Keeps field := by
  obtain ⟨front, hf, rfl⟩ := build_eq_ok hown hcustom hb
  have behind : ∀ stage ∈ request.lengths.stages ++ [pageStage request], ¬isProjection stage :=
    isProjection_behind
  cases hp : Resource.projectionOf request with
  | none =>
    have nowhere : ∀ stage ∈ front ++ (request.lengths.stages ++ [pageStage request]),
        ¬isProjection stage := List.forall_mem_append.2 ⟨hf, behind⟩
    simp only [Option.map_none, Option.toList_none, List.append_nil]
    exact iff_of_true (readsKept_of_no_projection nowhere)
      fun field _ => Request.keeps_of_no_projection hp field
  | some marks =>
    simp only [Option.map_some, Option.toList_some, List.append_assoc, List.singleton_append]
    rw [readsKept_of_one_projection marks hf behind]
    simp only [Request.keeps_iff_of_projection hp]

/-- The stages behind a projection read only what it keeps just when the request keeps every
list that is counted and every field that is sorted by, lengths aside. A document that still
holds all that is kept is then counted and sorted as if it were whole. -/
theorem stages_read_kept (hown : p.stages = none) (hcustom : custom.getD [] = [])
    (hr : (p.resource.read query).outcome = .ok request)
    (hb : p.build request context custom = .ok stages) :
    (ReadsKept stages ↔
      (∀ list, LengthFilter.countField list ∈ Entries.keys request.lengths.lengths →
        request.Keeps list) ∧
      ∀ field ∈ Entries.keys request.sort, field ∉ Entries.keys request.lengths.lengths →
        request.Keeps field) ∧
    (ReadsKept stages → ∀ before marks later,
      stages = before ++ .entry "$project" (.map marks) :: later →
      ∀ d d' : Document, (∀ field, ProjectionRules.Keeps marks field → d' field = d field) →
        ∀ length, found length d' later = found length d later) := by
  constructor
  · rw [readsKept_iff hown hcustom hb]
    simp only [mem_readsOf_behind (LengthFilter.isMade_of_read hr)]
    constructor
    · intro h
      exact ⟨fun list hl => h list (.inl hl), fun field hs hn => h field (.inr ⟨hs, hn⟩)⟩
    · rintro ⟨hl, hs⟩ field (h | ⟨h, hn⟩)
      · exact hl field h
      · exact hs field h hn
  · intro hk before marks later hs d d' hd length
    exact found_congr fun field hf => hd field (hk before marks later hs field hf)

end Pipeline

theorem Pipeline.stages_read_kept_tags :
    let query : Entries Value := [("include", .text "tags,createdAt"), ("tags__size_gt", .text "2")]
    ∃ r, Resource.ofSettings [("filter_fields", .data (.list [.text "tags"]))] = .ok r ∧
      ∃ request, (r.read query).outcome = .ok request ∧
        let p : Pipeline := { resource := r }
        ∃ stages, p.build request .null none = .ok stages ∧ ReadsKept stages := by
  intro query
  have hr : ∃ r, Resource.ofSettings [("filter_fields", .data (.list [.text "tags"]))] = .ok r ∧
      ∃ request, (r.read query).outcome = .ok request ∧
        Entries.keys request.lengths.lengths = ["tagsCount"] ∧
        Entries.keys request.sort = ["createdAt"] ∧
        request.Keeps "tags" ∧ request.Keeps "createdAt" ∧
        ∃ stages, { resource := r : Pipeline }.build request .null none = .ok stages := by
    rw [Resource.ofSettings_of_known (by decide)]
    exact ⟨_, rfl, _, rfl, rfl, rfl, by decide, by decide, _, rfl⟩
  obtain ⟨r, hset, request, hread, hlengths, hsort, tags, created, stages, hb⟩ := hr
  have kept := (stages_read_kept (p := { resource := r }) rfl rfl hread hb).1
  refine ⟨r, hset, request, hread, stages, hb, kept.2 ⟨fun list hl => ?_, fun field hf _ => ?_⟩⟩
  · rw [hlengths, List.mem_singleton] at hl
    have same : list = "tags" := LengthFilter.countField_inj.1 hl
    exact same ▸ tags
  · rw [hsort, List.mem_singleton] at hf
    exact hf ▸ created

/-- A list is counted that is cut off, and results are sorted by a date that is cut off. -/
theorem Pipeline.list_read_dropped :
    let query : Entries Value := [("include", .text "name"), ("tags__size_gt", .text "2")]
    ∃ r, Resource.ofSettings [("filter_fields", .data (.list [.text "tags"]))] = .ok r ∧
      ∃ request, (r.read query).outcome = .ok request ∧
        Resource.projectionOf request = some [("name", .int 1), ("_id", .int 1)] ∧
        let p : Pipeline := { resource := r }
        ∃ stages, p.build request .null none = .ok stages ∧ ¬ReadsKept stages := by
  intro query
  have hr : ∃ r, Resource.ofSettings [("filter_fields", .data (.list [.text "tags"]))] = .ok r ∧
      ∃ request, (r.read query).outcome = .ok request ∧
        Resource.projectionOf request = some [("name", .int 1), ("_id", .int 1)] ∧
        Entries.keys request.lengths.lengths = ["tagsCount"] ∧ ¬request.Keeps "tags" ∧
        ∃ stages, { resource := r : Pipeline }.build request .null none = .ok stages := by
    rw [Resource.ofSettings_of_known (by decide)]
    exact ⟨_, rfl, _, rfl, rfl, rfl, by decide, _, rfl⟩
  obtain ⟨r, hset, request, hread, hmarks, hlengths, dropped, stages, hb⟩ := hr
  refine ⟨r, hset, request, hread, hmarks, stages, hb, fun hk => dropped ?_⟩
  have counted : LengthFilter.countField "tags" ∈ Entries.keys request.lengths.lengths := by
    rw [hlengths]
    decide
  exact (readsKept_iff (p := { resource := r }) rfl rfl hb).1 hk "tags"
    ((mem_readsOf_behind (LengthFilter.isMade_of_read hread)).2 (.inl counted))

end ResourceQuery
