import ResourceQuery.Counting
import ResourceQuery.Proofs.Outcome
import ResourceQuery.Proofs.Quotients

/-!
The description of a page. The number of pages goes through a double, yet it is the least number
of pages that hold the total; so a next page is announced where documents lie beyond this page,
and a previous one where some are skipped.
-/

namespace ResourceQuery

namespace Found

theorem documents_ne_null {results : List Value} {f : Found}
    (h : ofResults results = .ok f) : f.documents ≠ .null := by
  obtain ⟨d, -, h⟩ := Outcome.bind_eq_ok_iff.1 h
  obtain ⟨count, -, h⟩ := Outcome.bind_eq_ok_iff.1 h
  cases h
  cases held : given d "data" with
  | none => exact nofun
  | some v =>
    obtain ⟨w, -, hw⟩ := Option.bind_eq_some_iff.1 held
    rintro rfl
    split at hw
    · cases hw
      contradiction
    · cases hw

end Found

namespace Request

variable {request : Request}

theorem lt_pages_iff {total pages : Int} (hl : 1 ≤ request.limit)
    (least : IsLeast {p | total ≤ p * request.limit} pages) :
    request.page < pages ↔ request.skip + request.limit < total := by
  have behind : request.skip + request.limit = request.page * request.limit := by
    rw [skip]
    ring
  rw [behind, ← not_le, ← not_le, not_iff_not]
  constructor
  · intro h
    have reached : total ≤ pages * request.limit := least.1
    exact reached.trans (Int.mul_le_mul_of_nonneg_right h (by omega))
  · intro h
    exact least.2 h

theorem one_lt_page_iff (hl : 1 ≤ request.limit) : 1 < request.page ↔ 0 < request.skip := by
  rw [skip, mul_pos_iff_of_pos_right (by omega), sub_pos]

end Request

namespace Counting

variable {ε : Type} {source : Source ε} {c : Counting}

theorem documents_ne_null {c' : Counting} (h : execute source c = (.ok (), c')) :
    c'.documents ≠ .null := by
  unfold execute at h
  split at h
  · split at h
    · cases h
    split at h
    · cases h
    · rename_i f found
      cases h
      exact Found.documents_ne_null found
  · cases h
    assumption

theorem page_of_total (request : Request) {total : Value}
    (h : (Counting.total source c).1 = .ok total) :
    (page source c request).1 =
      match pagesOf total request.limit with
      | .error e => .error (.page e)
      | .ok pages => .ok (describe (execute source c).2.documents total request pages) := by
  obtain ⟨answer, hr⟩ : ∃ r, execute source c = r := ⟨_, rfl⟩
  obtain ⟨r, c'⟩ := answer
  rw [Counting.total, hr] at h
  obtain ⟨⟨⟩, rfl, rfl⟩ := Outcome.map_eq_ok_iff.1 h
  have again : execute source c' = (.ok (), c') :=
    execute_of_documents source (documents_ne_null hr)
  rw [page, Counting.total, hr]
  dsimp only [Except.map]
  cases pagesOf c'.number request.limit with
  | error e => rfl
  | ok pages =>
    rw [data, again]
    rfl

theorem pageCount_int {total limit : Int} (h0 : 0 ≤ total) (h : total ≤ 2 ^ 53)
    (hl : 1 ≤ limit) (hl' : limit ≤ 2 ^ 53) :
    ∃ pages, pageCount (.int total) limit = .ok pages ∧
      IsLeast {p | total ≤ p * limit} pages := by
  obtain ⟨n, rfl⟩ := Int.eq_ofNat_of_zero_le h0
  obtain ⟨d, rfl⟩ := Int.eq_ofNat_of_zero_le (Int.le_of_lt hl)
  have quotient := Number.Binary64.ofQuotient?_natCast (n := n) (d := d) (by omega) (by omega)
  refine ⟨Number.Binary64.ceil ⟨false, Number.Binary64.nearestCode n d⟩, ?_, ?_⟩
  · rw [pageCount, if_neg (by omega), quotient]
  · exact Number.Binary64.isLeast_ceil_nearestCode (by omega) (by omega) (by omega)

/-- A page is described exactly, up to as many documents as doubles tell apart. -/
theorem page_exact (request : Request) {total : Int}
    (counted : (Counting.total source c).1 = .ok (.int total)) (h0 : 0 ≤ total)
    (h : total ≤ 2 ^ 53) (hl : 1 ≤ request.limit) (hl' : request.limit ≤ 2 ^ 53) :
    ∃ description pages, (page source c request).1 = .ok description ∧
      Entries.get? description "total" = some (.int total) ∧
      Entries.get? description "totalPages" = some (.int pages) ∧
      IsLeast {p | total ≤ p * request.limit} pages ∧
      Entries.get? description "hasNext" =
        some (.bool (decide (request.skip + request.limit < total))) ∧
      Entries.get? description "hasPrev" = some (.bool (decide (0 < request.skip))) := by
  obtain ⟨pages, hpages, least⟩ := pageCount_int h0 h hl hl'
  have described := page_of_total request counted
  have paged : pagesOf (.int total) request.limit = .ok pages := hpages
  rw [paged] at described
  refine ⟨_, pages, described, rfl, rfl, least, ?_, ?_⟩
  · rw [← decide_eq_decide.2 (Request.lt_pages_iff hl least)]
    rfl
  · rw [← decide_eq_decide.2 (Request.one_lt_page_iff hl)]
    rfl

theorem page_exact_last :
    let source : Source Unit := fun _ =>
      .ok [.map [("totalCount", .list [.map [("total", .int (2 ^ 53))]])]]
    let request : Request := { page := 3002399751580330, limit := 3 }
    (total source {}).1 = .ok (.int (2 ^ 53)) ∧ (0 : Int) ≤ 2 ^ 53 ∧ (2 : Int) ^ 53 ≤ 2 ^ 53 ∧
      1 ≤ request.limit ∧ request.limit ≤ 2 ^ 53 ∧
      ∃ description, (page source {} request).1 = .ok description ∧
        Entries.get? description "totalPages" = some (.int 3002399751580331) ∧
        Entries.get? description "hasNext" = some (.bool true) ∧
        Entries.get? description "hasPrev" = some (.bool true) := by
  intro source request
  have counted : (total source {}).1 = .ok (.int (2 ^ 53)) := rfl
  obtain ⟨description, pages, described, -, total_pages, least, next, previous⟩ :=
    page_exact request counted (by decide) (by decide) (by decide) (by decide)
  have known : IsLeast {p : Int | 2 ^ 53 ≤ p * request.limit} 3002399751580331 := by
    refine ⟨by decide, fun p hp => ?_⟩
    have reached : 2 ^ 53 ≤ p * 3 := hp
    omega
  rw [least.unique known] at total_pages
  exact ⟨counted, by decide, by decide, by decide, by decide, description, described, total_pages,
    next, previous⟩

end Counting
end ResourceQuery
