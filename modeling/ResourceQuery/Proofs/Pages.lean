import Mathlib.Algebra.Order.Floor.Div
import ResourceQuery.Pipeline
import ResourceQuery.Platform.Standard
import ResourceQuery.Proofs.AllowList

/-!
Pages of an export. Whatever the selecting stages and the order do to documents, the pages
of a request put one after another are its export, and every page tells the number of all
documents: the stages before the last one are the same for all pages and for the export.
-/

namespace ResourceQuery

universe u

/-- What stages do to documents: selecting stages all together, and an order by what it
orders by. -/
structure Engine (δ : Type u) where
  select : List Value → List δ → List δ
  sort : Value → List δ → List δ

inductive Flow (δ : Type u)
  | documents (ds : List δ)
  | count (name : String) (n : Nat)

namespace Engine

variable {δ : Type u} (E : Engine δ)

def step : Flow δ → Value → Option (Flow δ)
  | .documents ds, .map [("$sort", order)] => some (.documents (E.sort order ds))
  | .documents ds, .map [("$skip", .int n)] => some (.documents (ds.drop n.toNat))
  | .documents ds, .map [("$limit", .int n)] => some (.documents (ds.take n.toNat))
  | .documents ds, .map [("$count", .text name)] => some (.count name ds.length)
  | _, _ => none

def branch (name : String) (flow : Flow δ) : Value → Option (Flow δ)
  | .map [("$facet", .map branches)] =>
    match Entries.get? branches name with
    | some (.list stages) => stages.foldlM E.step flow
    | _ => none
  | _ => none

def found (stages : List Value) (docs : List δ) : List δ := E.select stages.dropLast docs

def onPage (name : String) (stages : List Value) (docs : List δ) : Option (Flow δ) :=
  stages.getLast?.bind (E.branch name (.documents (E.found stages docs)))

def exported (stages : List Value) (docs : List δ) : Option (Flow δ) :=
  stages.getLast?.bind (E.step (.documents (E.found stages docs)))

theorem found_concat (selection : List Value) (stage : Value) (docs : List δ) :
    E.found (selection ++ [stage]) docs = E.select selection docs := by
  rw [found, List.dropLast_concat]

theorem exported_sortStage (selection : List Value) (request : Request) (docs : List δ) :
    E.exported (selection ++ [Pipeline.sortStage request]) docs =
      some (.documents (E.sort (.map request.sort) (E.select selection docs))) := by
  rw [exported, List.getLast?_concat, found_concat]
  rfl

theorem onPage_data (selection : List Value) (request : Request) (docs : List δ) :
    E.onPage "data" (selection ++ [Pipeline.pageStage request]) docs =
      some (.documents (((E.sort (.map request.sort) (E.select selection docs)).drop
        request.skip.toNat).take request.limit.toNat)) := by
  rw [onPage, List.getLast?_concat, found_concat]
  rfl

theorem onPage_totalCount (selection : List Value) (request : Request) (docs : List δ) :
    E.onPage "totalCount" (selection ++ [Pipeline.pageStage request]) docs =
      some (.count "total" (E.select selection docs).length) := by
  rw [onPage, List.getLast?_concat, found_concat]
  rfl

end Engine

/-- Pages of so many items at most that make up a list: put one after another they are the
list, none follows them, and each place of the list is one place of one page. -/
structure IsPaged {δ : Type u} (limit : Nat) (result : List δ) (page : Nat → List δ) : Prop where
  joined : (List.range' 1 (result.length ⌈/⌉ limit)).flatMap page = result
  beyond : ∀ n, result.length ⌈/⌉ limit < n → page n = []
  once : ∀ i, (h : i < result.length) → ∃! place : Nat × Nat, 1 ≤ place.1 ∧
    (place.1 - 1) * limit + place.2 = i ∧ (page place.1)[place.2]? = some result[i]

namespace IsPaged

variable {δ : Type u} {limit : Nat} (result : List δ)

theorem flatMap_pages (limit count : Nat) (result : List δ) :
    (List.range' 1 count).flatMap (fun n => (result.drop ((n - 1) * limit)).take limit) =
      result.take (count * limit) := by
  induction count with
  | zero => simp
  | succ count ih =>
    have last : 1 + 1 * count - 1 = count := by omega
    have longer : (count + 1) * limit = count * limit + limit := Nat.succ_mul count limit
    rw [List.range'_concat, List.flatMap_append, ih, longer, List.take_add]
    simp only [List.flatMap_cons, List.flatMap_nil, List.append_nil, last]

theorem length_le (h : 0 < limit) : result.length ≤ result.length ⌈/⌉ limit * limit := by
  rw [Nat.mul_comm]
  exact (ceilDiv_le_iff_le_mul h).1 le_rfl

theorem getElem?_page (limit n j : Nat) :
    ((result.drop (n * limit)).take limit)[j]? =
      if j < limit then result[n * limit + j]? else none := by
  rw [List.getElem?_take, List.getElem?_drop]

theorem of_cuts (h : 0 < limit) :
    IsPaged limit result fun n => (result.drop ((n - 1) * limit)).take limit where
  joined := by
    rw [flatMap_pages]
    exact List.take_of_length_le (length_le result h)
  beyond n hn := by
    have before : result.length ⌈/⌉ limit ≤ n - 1 := by omega
    have behind : result.length ≤ (n - 1) * limit :=
      (length_le result h).trans (Nat.mul_le_mul_right limit before)
    rw [List.drop_eq_nil_of_le behind, List.take_nil]
  once i hi := by
    have whole : i / limit * limit + i % limit = i := by
      rw [Nat.mul_comm]
      exact Nat.div_add_mod i limit
    refine ⟨(i / limit + 1, i % limit), ⟨Nat.le_add_left 1 _, whole, ?_⟩, ?_⟩
    · simp only [Nat.add_sub_cancel]
      rw [getElem?_page, if_pos (Nat.mod_lt i h), whole, List.getElem?_eq_getElem hi]
    · rintro ⟨n, j⟩ ⟨hn, hij, hj⟩
      simp only at hn hij hj
      rw [getElem?_page] at hj
      have inside : j < limit := by
        by_contra hout
        rw [if_neg hout] at hj
        cases hj
      -- the page is the quotient and the place on it the remainder
      have quotient : i / limit = n - 1 := by
        rw [← hij, Nat.mul_comm, Nat.mul_add_div h, Nat.div_eq_of_lt inside, Nat.add_zero]
      have remainder : i % limit = j := by
        rw [← hij, Nat.mul_comm, Nat.mul_add_mod, Nat.mod_eq_of_lt inside]
      rw [quotient, remainder, Nat.sub_add_cancel hn]

end IsPaged

namespace Pipeline

variable {p : Pipeline} {request : Request} {context : Value} {custom : Option (List Value)}

theorem selection_page [Platform] (ht : p.transform = none)
    (hs : ∀ make, p.stages ≠ some (.computed make))
    (request : Request) (page : Int) (context : Value) (custom : Option (List Value)) :
    p.selection { request with page } context custom = p.selection request context custom := by
  have own (query : Entries Value) :
      p.ownStages query context { request with page } = p.ownStages query context request := by
    unfold ownStages
    split
    · rfl
    · rfl
    · rename_i make hmake
      exact absurd hmake (hs make)
  have condition : p.condition { request with page } context = p.condition request context := by
    unfold Pipeline.condition
    rw [ht]
    rfl
  unfold selection
  rw [condition]
  simp only [own]
  rfl

theorem skip_page (request : Request) {n : Nat} (hn : 1 ≤ n) (hl : 1 ≤ request.limit) :
    (Request.skip { request with page := (n : Int) }).toNat = (n - 1) * request.limit.toNat := by
  obtain ⟨limit, hlimit⟩ := Int.eq_ofNat_of_zero_le (show 0 ≤ request.limit by omega)
  rw [Request.skip, hlimit, ← Nat.cast_one, ← Nat.cast_sub hn, ← Nat.cast_mul]
  rfl

/-- The pages of a request are its export cut into pages, and each of them tells how many
documents there are, unless the order itself changes their number. A page fails only as the
export does. -/
theorem pages_of_export [Platform] {δ : Type u} (E : Engine δ) (docs : List δ)
    (ht : p.transform = none) (hs : ∀ make, p.stages ≠ some (.computed make))
    (hl : 1 ≤ request.limit) :
    (∀ e, p.buildExport request context custom true = .error e → ∀ page : Int,
      p.build { request with page } context custom = .error e) ∧
    ∀ stages, p.buildExport request context custom true = .ok stages →
      ∃ result page, E.exported stages docs = some (.documents result) ∧
        IsPaged request.limit.toNat result page ∧
        ∀ n : Nat, 1 ≤ n → ∃ onPage,
          p.build { request with page := (n : Int) } context custom = .ok onPage ∧
          E.onPage "data" onPage docs = some (.documents (page n)) ∧
          E.onPage "totalCount" onPage docs = some (.count "total" (E.found stages docs).length) ∧
          ((∀ order ds, (E.sort order ds).length = ds.length) →
            E.onPage "totalCount" onPage docs = some (.count "total" result.length)) := by
  have build (page : Int) : p.build { request with page } context custom =
      (p.selection request context custom).map (· ++ [pageStage { request with page }]) := by
    rw [Pipeline.build, selection_page ht hs]
  have whole : p.buildExport request context custom true =
      (p.selection request context custom).map (· ++ [sortStage request]) := rfl
  refine ⟨fun e he page => ?_, fun stages hok => ?_⟩
  · rw [whole] at he
    rw [build page]
    cases hsel : p.selection request context custom with
    | ok selection =>
      rw [hsel] at he
      cases he
    | error e' =>
      rw [hsel] at he
      cases he
      rfl
  · obtain ⟨selection, hsel, rfl⟩ := Outcome.map_eq_ok_iff.1 (whole ▸ hok)
    have positive : 0 < request.limit.toNat := by omega
    refine ⟨_, _, E.exported_sortStage selection request docs, .of_cuts _ positive,
      fun n hn => ?_⟩
    rw [build, hsel, E.found_concat]
    refine ⟨_, rfl, ?_, E.onPage_totalCount selection _ docs, fun kept => ?_⟩
    · rw [E.onPage_data, skip_page request hn hl]
    · rw [E.onPage_totalCount, kept]

end Pipeline

theorem Pipeline.pages_of_export_five :
    let E : Engine Nat :=
      { select := fun stages ds => ds.drop stages.length, sort := fun _ => .reverse }
    let docs := [0, 1, 2, 3, 4, 5]
    ∃ r request, Resource.ofSettings [] = .ok r ∧
      (r.read [("limit", .text "2")]).outcome = .ok request ∧
      let p : Pipeline := { resource := r, softDelete := true }
      p.transform = none ∧ (∀ make, p.stages ≠ some (.computed make)) ∧ 1 ≤ request.limit ∧
      ∃ stages page, p.buildExport request .null none true = .ok stages ∧
        E.exported stages docs = some (.documents [5, 4, 3, 2, 1]) ∧
        IsPaged 2 [5, 4, 3, 2, 1] page ∧
        ∃ onPage, p.build { request with page := 3 } .null none = .ok onPage ∧
          E.onPage "data" onPage docs = some (.documents (page 3)) ∧ page 3 = [1] ∧
          E.onPage "totalCount" onPage docs = some (.count "total" 5) := by
  intro E docs
  have hr : ∃ r request, Resource.ofSettings [] = .ok r ∧
      (r.read [("limit", .text "2")]).outcome = .ok request ∧ request.limit = 2 ∧
      let p : Pipeline := { resource := r, softDelete := true }
      ∃ stages onPage, p.buildExport request .null none true = .ok stages ∧
        E.exported stages docs = some (.documents [5, 4, 3, 2, 1]) ∧
        p.build { request with page := 3 } .null none = .ok onPage ∧
        E.onPage "data" onPage docs = some (.documents [1]) := by
    rw [Resource.ofSettings_of_known (by decide)]
    exact ⟨_, _, rfl, rfl, rfl, _, _, rfl, rfl, rfl, rfl⟩
  obtain ⟨r, request, hr, hread, hlimit, stages, onPage, hexport, hresult, hbuild, hdata⟩ := hr
  have stored (make) : (none : Option Stages) ≠ some (.computed make) := nofun
  have positive : 1 ≤ request.limit := by omega
  obtain ⟨result, page, hfound, hpaged, pages⟩ :=
    (pages_of_export E docs rfl stored positive).2 stages hexport
  obtain rfl : [5, 4, 3, 2, 1] = result := by
    rw [hresult] at hfound
    cases hfound
    rfl
  obtain ⟨third, hthird, data, _, total⟩ := pages 3 (by decide)
  have same : onPage = third := Except.ok.inj (hbuild.symm.trans hthird)
  rw [← same] at data total
  have last : page 3 = [1] := (Flow.documents.inj (Option.some.inj (hdata.symm.trans data))).symm
  rw [hlimit] at hpaged
  exact ⟨r, request, hr, hread, rfl, stored, positive, stages, page, hexport, hresult, hpaged,
    onPage, hbuild, data, last, total fun _ ds => List.length_reverse⟩

end ResourceQuery
