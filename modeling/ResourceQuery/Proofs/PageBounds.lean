import ResourceQuery.Proofs.Doubles
import ResourceQuery.Request

/-!
Bounds of a page. Whatever is given for page and limit, the page is a whole number from one
to the last exact one, and the limit one from one to the largest limit: each is the whole
part of the number that its text writes, if there is one and it is at least one.
-/

namespace ResourceQuery

def wholeOr (fallback : Int) : Option Number.Numeral → Int
  | some n => if 1 ≤ ⌊n.value⌋ then ⌊n.value⌋ else fallback
  | none => fallback

theorem one_le_wholeOr {fallback : Int} (h : 1 ≤ fallback) (n : Option Number.Numeral) :
    1 ≤ wholeOr fallback n := by
  cases n with
  | none => exact h
  | some n =>
    rw [wholeOr]
    split
    · assumption
    · exact h

theorem wholeOr_le_or_eq (fallback : Int) {bound : Int} {n : Option Number.Numeral}
    (hn : ∀ m ∈ n, m.value ≤ bound) :
    wholeOr fallback n ≤ bound ∨ wholeOr fallback n = fallback := by
  cases n with
  | none => exact .inr rfl
  | some m =>
    rw [wholeOr]
    split
    · have below : (⌊m.value⌋ : ℚ) ≤ bound := (Int.floor_le m.value).trans (hn m rfl)
      exact .inl (by exact_mod_cast below)
    · exact .inr rfl

theorem wholeOr_le {fallback bound : Int} (h : fallback ≤ bound) {n : Option Number.Numeral}
    (hn : ∀ m ∈ n, m.value ≤ bound) : wholeOr fallback n ≤ bound :=
  (wholeOr_le_or_eq fallback hn).elim id fun same => same.le.trans h

namespace Inference

theorem value_le_of_numeral? {v : Value} {n : Option Number.Numeral} (h : numeral? v = .ok n) :
    ∀ m ∈ n, m.value ≤ Number.maxExact := by
  rintro m rfl
  cases v with
  | text s => exact Number.Numeral.value_le_of_numeral? h
  | _ => cases h

end Inference

namespace PagingRules

variable {maxLimit defaultLimit : Option Int} {rules : PagingRules}

theorem make_eq_ok (made : make maxLimit defaultLimit = .ok rules) :
    rules.maxLimit = Operators.orDefault maxLimit 100 ∧
      rules.defaultLimit = min (Operators.orDefault defaultLimit 10) rules.maxLimit ∧
      1 ≤ rules.maxLimit ∧ 1 ≤ rules.defaultLimit := by
  simp only [make] at made
  split at made
  · rename_i positive
    cases made
    exact ⟨rfl, rfl, positive⟩
  · cases made

theorem getD_positive? {v : Value} {n : Option Int} (h : positive? v = .ok n) (fallback : Int) :
    ∃ m, Inference.numeral? v = .ok m ∧ n.getD fallback = wholeOr fallback m := by
  obtain ⟨m, hm, rfl⟩ := Outcome.map_eq_ok_iff.1 h
  refine ⟨m, hm, ?_⟩
  cases m with
  | none => rfl
  | some m =>
    simp only [Option.bind_some, wholeOr, m.floor_eq, Int.lt_iff_add_one_le, Int.zero_add]
    split <;> rfl

theorem readPage_eq_ok {v : Value} {page : Int} (h : readPage v = .ok page) :
    ∃ n, Inference.numeral? v = .ok n ∧ page = wholeOr 1 n := by
  obtain ⟨n, hn, rfl⟩ := Outcome.map_eq_ok_iff.1 h
  exact getD_positive? hn 1

theorem readLimit_eq_ok {v : Value} {limit : Int} (h : rules.readLimit v = .ok limit) :
    ∃ n, Inference.numeral? v = .ok n ∧
      limit = min (wholeOr rules.defaultLimit n) rules.maxLimit := by
  obtain ⟨n, hn, rfl⟩ := Outcome.map_eq_ok_iff.1 h
  obtain ⟨m, hm, heq⟩ := getD_positive? hn rules.defaultLimit
  exact ⟨m, hm, by rw [heq]⟩

theorem min_wholeOr_min (fallback cap : Int) (n : Option Number.Numeral) :
    min (wholeOr (min fallback cap) n) cap = min (wholeOr fallback n) cap := by
  cases n with
  | none => exact min_eq_left (min_le_right fallback cap)
  | some n =>
    rw [wholeOr, wholeOr]
    split
    · rfl
    · exact min_eq_left (min_le_right fallback cap)

end PagingRules

namespace Request

theorem skip_bounds {request : Request} {last cap : Int} (hp : 1 ≤ request.page)
    (hlast : request.page ≤ last) (hl : 1 ≤ request.limit) (hcap : request.limit ≤ cap) :
    0 ≤ request.skip ∧ request.skip ≤ (last - 1) * cap := by
  have before : 0 ≤ request.page - 1 := by omega
  exact ⟨mul_nonneg before (by omega),
    mul_le_mul (by omega) hcap (by omega) (by omega)⟩

end Request

namespace PagingRules

/-- Page and limit are whole numbers within their bounds, and so are the items before the page:
each number is the whole part of what its text writes, unless that is no number or below one. -/
theorem read_within_bounds {maxLimit defaultLimit : Option Int} {rules : PagingRules}
    (made : make maxLimit defaultLimit = .ok rules) {query : Entries Value} {request : Request}
    (h : rules.read query = .ok (request.page, request.limit)) :
    let cap := Operators.orDefault maxLimit 100
    let default := Operators.orDefault defaultLimit 10
    let value (key : String) := (Entries.get? query key).getD .null
    (∃ n, Inference.numeral? (value "page") = .ok n ∧ request.page = wholeOr 1 n) ∧
      (∃ n, Inference.numeral? (value "limit") = .ok n ∧
        request.limit = min (wholeOr default n) cap) ∧
      1 ≤ request.page ∧ request.page ≤ 2 ^ 53 - 1 ∧
      1 ≤ request.limit ∧ request.limit ≤ cap ∧
      request.skip = (request.page - 1) * request.limit ∧
      0 ≤ request.skip ∧ request.skip ≤ (2 ^ 53 - 2) * cap := by
  intro cap default value
  obtain ⟨hcap, hdefault, one_le_cap, one_le_default⟩ := make_eq_ok made
  obtain ⟨page, hp, h⟩ := Outcome.bind_eq_ok_iff.1 h
  obtain ⟨limit, hl, h⟩ := Outcome.bind_eq_ok_iff.1 h
  cases h
  obtain ⟨p, hp, page_eq⟩ := readPage_eq_ok hp
  obtain ⟨l, hl, limit_eq⟩ := readLimit_eq_ok hl
  have one_le_page : 1 ≤ request.page := page_eq ▸ one_le_wholeOr le_rfl p
  have page_le : request.page ≤ Number.maxExact :=
    page_eq ▸ wholeOr_le (by decide) (Inference.value_le_of_numeral? hp)
  have one_le_limit : 1 ≤ request.limit :=
    limit_eq ▸ le_min (one_le_wholeOr one_le_default l) one_le_cap
  have limit_le : request.limit ≤ rules.maxLimit := limit_eq ▸ min_le_right _ _
  obtain ⟨skip_nonneg, skip_le⟩ := Request.skip_bounds one_le_page page_le one_le_limit limit_le
  -- the default is capped with the rules, and once more with the limit
  rw [hdefault, min_wholeOr_min, hcap] at limit_eq
  rw [hcap] at limit_le skip_le
  exact ⟨⟨p, hp, page_eq⟩, ⟨l, hl, limit_eq⟩, one_le_page, page_le, one_le_limit, limit_le, rfl,
    skip_nonneg, skip_le⟩

theorem read_within_bounds_of_fraction :
    ∃ rules, make (some 50) (some 0) = .ok rules ∧
      rules.read [("page", .text "2.5"), ("limit", .text "1e3")] = .ok (2, 50) ∧
      1 ≤ (2 : Int) ∧ (2 : Int) ≤ 2 ^ 53 - 1 ∧ 1 ≤ (50 : Int) ∧
      ({ page := 2, limit := 50 } : Request).skip ≤ (2 ^ 53 - 2) * 50 := by
  have made : make (some 50) (some 0) = .ok ⟨50, 10⟩ := rfl
  have asked : read ⟨50, 10⟩ [("page", .text "2.5"), ("limit", .text "1e3")] = .ok (2, 50) := by
    decide +kernel
  obtain ⟨-, -, one_le_page, page_le, one_le_limit, -, -, -, skip_le⟩ :=
    @read_within_bounds _ _ _ made _ { page := 2, limit := 50 } asked
  exact ⟨_, made, asked, one_le_page, page_le, one_le_limit, skip_le⟩

end PagingRules
end ResourceQuery
