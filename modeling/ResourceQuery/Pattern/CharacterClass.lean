import ResourceQuery.Pattern.Escape

/-!
Character classes: characters, categories and ranges between brackets. A closing
bracket right at the start is a member, as is a hyphen before the closing one.
-/

namespace ResourceQuery.Pattern

def readMember : (t : Token) → (ts : List Token) → Except Fault (ClassItem × Rest ts)
  | .plain c, ts => .ok (.code c.toNat, Rest.all ts)
  | .escaped c, ts => readClassEscape c ts
  | .dangling, _ => .error .invalid

def makeRange : ClassItem → ClassItem → Except Fault ClassItem
  | .code low, .code high => if low ≤ high then .ok (.range low high) else .error .invalid
  | _, _ => .error .invalid

def rangeEnd? : (ts : List Token) → Option (Token × Rest ts)
  | .plain '-' :: .plain ']' :: _ => none
  | .plain '-' :: t :: ts => some (t, ⟨ts, by simp only [List.length_cons]; omega⟩)
  | _ => none

/-- A member or a range of a class, which begins with `t`. -/
def readClassItem (t : Token) (ts : List Token) : Except Fault (ClassItem × Rest ts) := do
  let (item, r) ← readMember t ts
  match rangeEnd? r.1 with
  | none => return (item, r)
  | some (t, q) =>
    let (other, p) ← readMember t q.1
    return (← makeRange item other, r.trans (q.trans p))

def readMembers (items : List ClassItem) : (ts : List Token) →
    Except Fault (List ClassItem × Rest ts)
  | [] => .error .invalid
  | t :: ts =>
    if t = .plain ']' ∧ items ≠ [] then .ok (items, (Rest.all ts).tail)
    else
      match readClassItem t ts with
      | .error e => .error e
      | .ok (item, r) =>
        (readMembers (item :: items) r.1).map fun (items, q) => (items, (r.trans q).tail)
termination_by ts => ts.length
decreasing_by exact Nat.lt_succ_of_le r.2

def readClass (ts : List Token) : Except Fault (Tree × Rest ts) :=
  match ts with
  | .plain '^' :: ts =>
    (readMembers [] ts).map fun (items, r) => (.oneOf true items.reverse, r.tail)
  | ts => (readMembers [] ts).map fun (items, r) => (.oneOf false items.reverse, r)

end ResourceQuery.Pattern
