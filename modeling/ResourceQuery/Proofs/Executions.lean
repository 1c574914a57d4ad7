import Mathlib.Data.List.Induction
import ResourceQuery.Counting
import ResourceQuery.Proofs.Doubles

/-!
Runs of a pipeline for a page. Whoever asks for the documents, their number or a page makes
it run, until a run succeeds; then it never runs again, and every answer is taken from the
result of that run.
-/

namespace ResourceQuery

inductive Access
  | documents
  | total
  | page (request : Request)

inductive Answer
  | value (v : Value)
  | page (description : Entries Value)

namespace Found

def held (results : List Value) (key : String) : Value :=
  match results with
  | .map entries :: _ => (Entries.get? entries key).getD .null
  | _ => .null

def listed (results : List Value) : Value :=
  match held results "data" with
  | .list items => .list items
  | _ => .list []

def counted (results : List Value) : Value :=
  match held results "totalCount" with
  | .list (.map count :: _) => (Entries.get? count "total").getD (.int 0)
  | _ => .int 0

/-- Results of a run: without a document, or with one that may lack its documents or counts. -/
structure IsResult (results : List Value) : Prop where
  document : ∀ v ∈ results.head?, ∃ entries, v = .map entries
  data : held results "data" = .null ∨ ∃ items, held results "data" = .list items
  counts : held results "totalCount" = .null ∨ held results "totalCount" = .list [] ∨
    ∃ count rest, held results "totalCount" = .list (.map count :: rest)

theorem listed_ne_null (results : List Value) : listed results ≠ .null := by
  unfold listed
  split <;> exact nofun

@[simp] theorem held_cons (entries : Entries Value) (rest : List Value) (key : String) :
    held (.map entries :: rest) key = (Entries.get? entries key).getD .null := rfl

theorem given_eq (entries : Entries Value) (rest : List Value) (key : String) :
    given entries key =
      let v := held (.map entries :: rest) key
      if v.isGiven then some v else none := by
  rw [given, held_cons]
  cases Entries.get? entries key <;> rfl

theorem given_data {entries : Entries Value} {rest : List Value}
    (h : IsResult (.map entries :: rest)) :
    (given entries "data").getD (.list []) = listed (.map entries :: rest) := by
  rw [given_eq entries rest, listed]
  obtain data | ⟨items, data⟩ := h.data
  · rw [data]
    rfl
  · rw [data]
    cases items <;> rfl

theorem firstCount_given {entries : Entries Value} {rest : List Value}
    (h : IsResult (.map entries :: rest)) :
    ∃ count, firstCount (given entries "totalCount") = .ok count ∧
      (Entries.get? count "total").getD (.int 0) = counted (.map entries :: rest) := by
  rw [given_eq entries rest, counted]
  obtain counts | counts | ⟨count, others, counts⟩ := h.counts
  · rw [counts]
    exact ⟨[], rfl, rfl⟩
  · rw [counts]
    exact ⟨[], rfl, rfl⟩
  · rw [counts]
    exact ⟨count, rfl, rfl⟩

theorem ofResults_eq {results : List Value} (h : IsResult results) :
    ofResults results = .ok ⟨listed results, counted results⟩ := by
  cases results with
  | nil => rfl
  | cons v rest =>
    obtain ⟨entries, rfl⟩ := h.document v rfl
    obtain ⟨count, first, total⟩ := firstCount_given h
    have read : ofResults (.map entries :: rest) = (do
        let count ← firstCount (given entries "totalCount")
        return ⟨(given entries "data").getD (.list []),
          (Entries.get? count "total").getD (.int 0)⟩) := rfl
    rw [read, first, ← total, ← given_data h]
    rfl

end Found

namespace Counting

variable {ε : Type}

def ask (source : Source ε) (c : Counting) : Access → Except (Failure ε) Answer × Counting
  | .documents => ((data source c).1.map .value, (data source c).2)
  | .total => ((total source c).1.map .value, (total source c).2)
  | .page request => ((page source c request).1.map .page, (page source c request).2)

def after (source : Source ε) (history : List Access) : Counting :=
  history.foldl (fun c access => (ask source c access).2) {}

theorem after_concat (source : Source ε) (history : List Access) (access : Access) :
    after source (history ++ [access]) = (ask source (after source history) access).2 := by
  rw [after, List.foldl_concat]
  rfl

def settled (runs : Nat) (results : List Value) : Counting :=
  ⟨runs, Found.listed results, Found.counted results⟩

def IsPaged (total : Value) (limit : Int) : Prop :=
  limit ≠ 0 ∧ ∃ n : Int, total = .int n ∧ n.natAbs < 2 ^ 63

/-- The answers that results give: a page tells the very documents and number that are told by
themselves. -/
def Tells (results : List Value) : Access → Except (Failure ε) Answer → Prop
  | .documents, answer => answer = .ok (.value (Found.listed results))
  | .total, answer => answer = .ok (.value (Found.counted results))
  | .page request, answer =>
    (∃ description, answer = .ok (.page description) ∧
      Entries.get? description "data" = some (Found.listed results) ∧
      Entries.get? description "total" = some (Found.counted results)) ∨
    (∃ e, answer = .error (.page e)) ∧ ¬IsPaged (Found.counted results) request.limit

theorem pagesOf_ne_error {total : Value} {limit : Int} (h : IsPaged total limit) (e : PageError) :
    pagesOf total limit ≠ .error e := by
  obtain ⟨nonzero, n, rfl, small⟩ := h
  have quotient := Number.Binary64.ofQuotient?_ne_none small nonzero
  simp only [pagesOf, Value.numeral?, pageCount, if_neg nonzero]
  split
  · exact nofun
  · contradiction

variable {source : Source ε} {c : Counting}

theorem execute_error {e : ε} (fresh : c.documents = .null) (h : source c.runs = .error e) :
    execute source c = (.error (.run e), { c with runs := c.runs + 1 }) := by
  simp only [execute, fresh, h]

theorem execute_ok {results : List Value} (fresh : c.documents = .null)
    (h : source c.runs = .ok results) (wellFormed : Found.IsResult results) :
    execute source c = (.ok (), settled (c.runs + 1) results) := by
  simp only [execute, fresh, h, Found.ofResults_eq wellFormed, settled]

theorem execute_settled (source : Source ε) (runs : Nat) (results : List Value) :
    execute source (settled runs results) = (.ok (), settled runs results) :=
  execute_of_documents source (Found.listed_ne_null results)

theorem ask_error {e : ε} (fresh : c.documents = .null) (h : source c.runs = .error e)
    (access : Access) :
    ask source c access = (.error (.run e), { c with runs := c.runs + 1 }) := by
  have failed := execute_error fresh h
  cases access <;> simp only [ask, data, total, page, failed] <;> rfl

variable {runs : Nat} {results : List Value}

theorem data_eq (h : execute source c = (.ok (), settled runs results)) :
    data source c = (.ok (Found.listed results), settled runs results) := by
  rw [data, h]
  rfl

theorem total_eq (h : execute source c = (.ok (), settled runs results)) :
    total source c = (.ok (Found.counted results), settled runs results) := by
  rw [total, h]
  rfl

theorem page_eq (h : execute source c = (.ok (), settled runs results)) (request : Request) :
    page source c request =
      ((match pagesOf (Found.counted results) request.limit with
        | .error e => .error (.page e)
        | .ok pages =>
          .ok (describe (Found.listed results) (Found.counted results) request pages)),
        settled runs results) := by
  rw [page, total_eq h]
  dsimp only
  cases pagesOf (Found.counted results) request.limit with
  | error e => rfl
  | ok pages =>
    rw [data_eq (execute_settled source runs results)]
    rfl

theorem ask_ok (h : execute source c = (.ok (), settled runs results)) (access : Access) :
    (ask source c access).2 = settled runs results ∧
      Tells results access (ask source c access).1 := by
  cases access with
  | documents =>
    rw [ask, data_eq h]
    exact ⟨rfl, rfl⟩
  | total =>
    rw [ask, total_eq h]
    exact ⟨rfl, rfl⟩
  | page request =>
    rw [ask, page_eq h]
    refine ⟨rfl, ?_⟩
    cases hp : pagesOf (Found.counted results) request.limit with
    | error e => exact .inr ⟨⟨e, rfl⟩, fun paged => pagesOf_ne_error paged e hp⟩
    | ok pages => exact .inl ⟨_, rfl, rfl, rfl⟩

variable {n : Nat}

theorem after_failing (failing : ∀ k < n, ∃ e, source k = .error e) {history : List Access}
    (h : history.length ≤ n) : after source history = { runs := history.length } := by
  induction history using List.reverseRecOn with
  | nil => rfl
  | append_singleton history access ih =>
    rw [List.length_append, List.length_singleton] at h ⊢
    obtain ⟨e, he⟩ := failing history.length h
    rw [after_concat, ih (Nat.le_of_succ_le h), ask_error rfl he]

theorem execute_after (failing : ∀ k < n, ∃ e, source k = .error e)
    (succeeds : source n = .ok results) (wellFormed : Found.IsResult results)
    {history : List Access} (h : n ≤ history.length) :
    execute source (after source history) = (.ok (), settled (n + 1) results) := by
  -- from the last access: either it comes after the success, or all before it have failed
  induction history using List.reverseRecOn with
  | nil =>
    obtain rfl : n = 0 := Nat.le_zero.1 h
    exact execute_ok rfl succeeds wellFormed
  | append_singleton history access ih =>
    rcases h.lt_or_eq with h | rfl
    · rw [List.length_append, List.length_singleton] at h
      have settled_before := (ask_ok (ih (Nat.le_of_lt_succ h)) access).1
      rw [after_concat, settled_before]
      exact execute_settled source (n + 1) results
    · rw [after_failing failing le_rfl]
      exact execute_ok rfl succeeds wellFormed

theorem after_success (failing : ∀ k < n, ∃ e, source k = .error e)
    (succeeds : source n = .ok results) (wellFormed : Found.IsResult results)
    {history : List Access} (h : n < history.length) :
    after source history = settled (n + 1) results := by
  obtain rfl | ⟨earlier, last, rfl⟩ := history.eq_nil_or_concat'
  · cases h
  · rw [List.length_append, List.length_singleton] at h
    rw [after_concat]
    exact (ask_ok (execute_after failing succeeds wellFormed (Nat.le_of_lt_succ h)) last).1

/-- A pipeline runs once for every access until a run succeeds, and never again. An access fails
as its run does and leaves nothing behind; after the first success all of them tell the same. -/
theorem runs_until_success (failing : ∀ k < n, ∃ e, source k = .error e) :
    (∀ history : List Access, history.length < n → ∀ access,
      after source history = { runs := history.length } ∧
        ∃ e, source history.length = .error e ∧
          ask source (after source history) access =
            (.error (.run e), { runs := history.length + 1 })) ∧
      ∀ results, source n = .ok results → Found.IsResult results →
        ∀ history : List Access, n ≤ history.length → ∀ access,
          after source history =
              (if history.length = n then { runs := n } else settled (n + 1) results) ∧
            (ask source (after source history) access).2 = settled (n + 1) results ∧
            Tells results access (ask source (after source history) access).1 := by
  constructor
  · intro history before access
    obtain ⟨e, he⟩ := failing history.length before
    have unsettled := after_failing failing before.le
    refine ⟨unsettled, e, he, ?_⟩
    rw [unsettled]
    exact ask_error rfl he access
  · intro results succeeds wellFormed history late access
    refine ⟨?_, ask_ok (execute_after failing succeeds wellFormed late) access⟩
    split
    · rename_i first
      rw [after_failing failing first.le, first]
    · rename_i other
      exact after_success failing succeeds wellFormed (lt_of_le_of_ne late (Ne.symm other))

theorem runs_until_success_third :
    let results : List Value :=
      [.map [("totalCount", .list [.map [("total", .int 41)]])]]
    let source : Source Unit := fun k => if k < 2 then .error () else .ok results
    (∀ k < 2, ∃ e, source k = .error e) ∧ source 2 = .ok results ∧ Found.IsResult results ∧
      after source [.page {}] = { runs := 1 } ∧
      after source [.page {}, .documents, .total, .page {}] = ⟨3, .list [], .int 41⟩ ∧
      Tells results .documents
        (ask source (after source [.page {}, .documents, .total, .page {}]) .documents).1 := by
  intro results source
  have failing : ∀ k < 2, ∃ e, source k = .error e := fun k hk => ⟨(), if_pos hk⟩
  have wellFormed : Found.IsResult results := by
    refine ⟨fun v hv => ?_, .inl rfl, .inr (.inr ⟨_, _, rfl⟩)⟩
    cases hv
    exact ⟨_, rfl⟩
  obtain ⟨before, late⟩ := runs_until_success failing
  obtain ⟨unsettled, -⟩ := before [.page {}] (by decide) .total
  obtain ⟨stays, -, tells⟩ := late results rfl wellFormed
    [.page {}, .documents, .total, .page {}] (by decide) .documents
  exact ⟨failing, rfl, wellFormed, unsettled, stays, tells⟩

end Counting
end ResourceQuery
