import ResourceQuery.Pattern.CharacterClass
import ResourceQuery.Pattern.Flags
import ResourceQuery.Platform
import ResourceQuery.Text.Blank
import ResourceQuery.Text.Identifier

/-!
Reading a pattern into a tree. The reader keeps the groups that are still open
on a stack; each step reads one item of a branch or opens one group, and the
reading ends by the number of tokens left.
-/

namespace ResourceQuery.Pattern

inductive GroupKind
  | pattern
  | capture (number : Nat)
  | scope
  | atomic
  | look (behind : Bool) (outer : Option Nat)
  | choice (group : Nat) (numbered : Bool)
  deriving DecidableEq, Repr

/-- Calls that an open group takes up: one for its branch, and but for a choice one more for all
of them. -/
def GroupKind.calls : GroupKind → Nat
  | .pattern => 0
  | .choice .. => 1
  | _ => 2

/-- An open group: its finished branches and the items of the unfinished one, latest first.
A verbose group skips blanks and comments. -/
structure Frame where
  kind : GroupKind
  verbose : Bool
  branches : List Tree := []
  items : List Tree := []
  deriving Repr

structure PatternFlags where
  ascii : Bool := false
  unicode : Bool := false
  template : Bool := false
  deriving DecidableEq, Repr

/-- The reader between two tokens. A group has no width while it is open; inside a
look-behind, only groups below `bound` can be referred to. -/
structure State where
  groups : List (Option Width) := []
  names : List (List Char × Nat) := []
  bound : Option Nat := none
  flags : PatternFlags := {}
  frame : Frame := ⟨.pattern, false, [], []⟩
  outer : List Frame := []
  deriving Repr

namespace State

def width? (st : State) (group : Nat) : Option Width :=
  if group = 0 then none else (st.groups[group - 1]?).join

def depth (st : State) : Nat := (st.frame :: st.outer).foldr (fun f n => f.kind.calls + n) 0

def widthOf (st : State) (group : Nat) : Width := (st.width? group).getD .zero

def push (st : State) (t : Tree) : State :=
  { st with frame := { st.frame with items := t :: st.frame.items } }

/-- Inside a look-behind a reference needs a group that was closed before it. -/
def isWithinBound (st : State) (group : Nat) : Bool :=
  match st.bound with
  | none => true
  | some bound => (st.width? group).isSome && group < bound

def refer (st : State) (group : Nat) : Except Fault State :=
  if (st.width? group).isSome ∧ st.isWithinBound group then .ok (st.push (.backreference group))
  else .error .invalid

def enter (st : State) (kind : GroupKind) (verbose : Bool) : State :=
  { st with frame := { kind, verbose }, outer := st.frame :: st.outer }

def enterCapture (st : State) (name : Option (List Char)) : Except Fault State :=
  let number := st.groups.length + 1
  let st := { st with groups := st.groups ++ [none] }
  match name with
  | none => .ok (st.enter (.capture number) st.frame.verbose)
  | some name =>
    if (st.names.lookup name).isSome then .error .invalid
    else
      .ok ({ st with names := (name, number) :: st.names }.enter (.capture number) st.frame.verbose)

def enterLook (st : State) (behind : Bool) : State :=
  let outer := st.bound
  let bound := if behind ∧ st.bound = none then some (st.groups.length + 1) else st.bound
  { st with bound }.enter (.look behind outer) st.frame.verbose

def branch (st : State) : Except Fault State :=
  let frame := st.frame
  match frame.kind, frame.branches with
  | .choice .., _ :: _ => .error .invalid
  | _, _ =>
    .ok { st with frame := { frame with
      branches := .ofList frame.items.reverse :: frame.branches, items := [] } }

def body (frame : Frame) : List Tree := (.ofList frame.items.reverse :: frame.branches).reverse

def close (st : State) (around : Frame) (outer : List Frame) : State :=
  let branches := body st.frame
  let tree := Tree.ofBranches branches
  let back : State := { st with frame := around, outer }
  match st.frame.kind with
  | .pattern | .scope => back.push (.scope tree)
  | .atomic => back.push (.atomic tree)
  | .capture n =>
    { back with groups := back.groups.set (n - 1) (some (tree.width back.widthOf)) }.push
      (.group n tree)
  | .look behind outerBound => { back with bound := outerBound }.push (.look behind tree)
  | .choice n numbered =>
    match branches with
    | [yes, no] => back.push (.ifGroup n numbered yes no)
    | _ => back.push (.ifGroup n numbered tree .empty)

/-- The pattern has ended with no group open: checks that need all of it. The reach of the
look-behinds matters only in a pattern that is valid. -/
def complete [Platform] (st : State) : Except Fault Tree :=
  let tree := Tree.ofBranches (body st.frame)
  let looks := tree.lookWidths st.widthOf
  if st.flags.ascii ∧ st.flags.unicode then .error .incompatibleFlags
  else if !tree.choicesExist st.groups.length || !looks.all Width.isFixed ||
      (st.flags.template && tree.hasRepeat) then .error .invalid
  else if !looks.all (·.least < Platform.reach) then .error .lookTooFar
  else .ok tree

def quantify (st : State) (least : Nat) (most : Option Nat) (ts : List Token) :
    Except Fault (State × Rest ts) :=
  match st.frame.items with
  | [] | .anchor :: _ | .repetition .. :: _ => .error .invalid
  | t :: items =>
    let wrap (greed : Greed) : State :=
      { st with frame := { st.frame with items := .repetition least most greed t :: items } }
    match ts with
    | .plain '?' :: ts => .ok (wrap .lazy, (Rest.all ts).tail)
    | .plain '+' :: ts => .ok (wrap .possessive, (Rest.all ts).tail)
    | ts => .ok (wrap .greedy, Rest.all ts)

end State

def countLimit : Nat := 4294967295

def maxCountDigits : Nat := 4300

def readCount (ds : List Char) : Except Fault Nat :=
  if maxCountDigits < ds.length then .error (.numeralTooLong ds.length)
  else
    let n := (Text.asciiNumeral? ds).getD 0
    if countLimit ≤ n then .error .repeatTooLarge else .ok n

def readBounds? (ts : List Token) : Option (List Char × List Char × Rest ts) :=
  if ts.head? = some (.plain '}') then none
  else
    let (low, r) := takePlain Char.isDigit ts.length ts
    match r with
    | ⟨.plain ',' :: rest, h⟩ =>
      let (high, q) := takePlain Char.isDigit rest.length rest
      match q with
      | ⟨.plain '}' :: rest', h'⟩ =>
        some (low, high, ⟨rest', by simp only [List.length_cons] at h h'; omega⟩)
      | _ => none
    | ⟨.plain '}' :: rest, h⟩ =>
      some (low, low, ⟨rest, by simp only [List.length_cons] at h; omega⟩)
    | _ => none

/-- A counted repeat, or a plain brace. A backslash that ends the pattern is found before
the counts are looked at. -/
def readBraces (st : State) (ts : List Token) : Except Fault (State × Rest ts) :=
  match readBounds? ts with
  | none => .ok (st.push (.literal '{'.toNat), Rest.all ts)
  | some (low, high, r) =>
    if r.1 = [.dangling] then .error .invalid
    else do
      let least ← if low = [] then .ok 0 else readCount low
      let most ← if high = [] then .ok none else (readCount high).map some
      match most with
      | some n =>
        if n < least then .error .invalid
        else
          let (st, q) ← st.quantify least most r.1
          return (st, r.trans q)
      | none =>
        let (st, q) ← st.quantify least most r.1
        return (st, r.trans q)

def groupLimit : Nat := 1073741823

def groupDigits? : List Char → Option (List Nat)
  | [] => none
  | [c] => (Text.decimalValue? c).map ([·])
  | c :: '_' :: cs => do
    let d ← Text.decimalValue? c
    let ds ← groupDigits? cs
    return d :: ds
  | c :: cs => do
    let d ← Text.decimalValue? c
    let ds ← groupDigits? cs
    return d :: ds

/-- Information separators are no blanks around a number. -/
def isNumberBlank (c : Char) : Bool := Text.isBlank c && !(0x1C ≤ c.toNat && c.toNat ≤ 0x1F)

def groupNumber? (name : List Char) : Option Nat :=
  let digits :=
    match ((name.dropWhile isNumberBlank).reverse.dropWhile isNumberBlank).reverse with
    | '+' :: ds => groupDigits? ds
    | ds => groupDigits? ds
  digits.bind fun ds =>
    let n := Text.ofDigits ds
    if ds.length ≤ maxCountDigits ∧ 0 < n ∧ n < groupLimit then some n else none

def readCondition (st : State) (ts : List Token) : Except Fault (State × Rest ts) :=
  match takeUntil ')' ts with
  | none => .error .invalid
  | some (name, r) =>
    let found :=
      if Text.isIdentifier name then (st.names.lookup name).map (·, false)
      else (groupNumber? name).map (·, true)
    match found with
    | none => .error .invalid
    | some (n, numbered) =>
      if st.isWithinBound n then .ok (st.enter (.choice n numbered) st.frame.verbose, r)
      else .error .invalid

def readNameGroup (st : State) : (ts : List Token) → Except Fault (State × Rest ts)
  | .plain '<' :: ts =>
    match takeUntil '>' ts with
    | some (name, r) =>
      if Text.isIdentifier name then (st.enterCapture (some name)).map (·, r.tail)
      else .error .invalid
    | none => .error .invalid
  | .plain '=' :: ts =>
    match takeUntil ')' ts with
    | some (name, r) =>
      match st.names.lookup name with
      | some n => (st.refer n).map (·, r.tail)
      | none => .error .invalid
    | none => .error .invalid
  | _ => .error .invalid

def setFlags (st : State) (on : List Char) : Except Fault State :=
  if st.outer.isEmpty ∧ st.frame.branches.isEmpty ∧ st.frame.items.isEmpty then
    .ok { st with
      flags :=
        { ascii := st.flags.ascii || on.contains 'a'
          unicode := st.flags.unicode || on.contains 'u'
          template := st.flags.template || on.contains 't' }
      frame := { st.frame with verbose := st.frame.verbose || on.contains 'x' } }
  else .error .invalid

def readExtension (st : State) : (ts : List Token) → Except Fault (State × Rest ts)
  | .plain 'P' :: ts => (readNameGroup st ts).map fun (st, r) => (st, r.tail)
  | .plain ':' :: ts => .ok (st.enter .scope st.frame.verbose, (Rest.all ts).tail)
  | .plain '>' :: ts => .ok (st.enter .atomic st.frame.verbose, (Rest.all ts).tail)
  | .plain '=' :: ts => .ok (st.enterLook false, (Rest.all ts).tail)
  | .plain '!' :: ts => .ok (st.enterLook false, (Rest.all ts).tail)
  | .plain '<' :: .plain '=' :: ts => .ok (st.enterLook true, (Rest.all ts).tail.tail)
  | .plain '<' :: .plain '!' :: ts => .ok (st.enterLook true, (Rest.all ts).tail.tail)
  | .plain '#' :: ts =>
    match skipPast ')' ts with
    | some r => .ok (st, r.tail)
    | none => .error .invalid
  | .plain '(' :: ts => (readCondition st ts).map fun (st, r) => (st, r.tail)
  | .plain c :: ts =>
    if isFlag c ∨ c = '-' then
      match readFlags c ts with
      | .error e => .error e
      | .ok (.forPattern on, r) => (setFlags st on).map (·, r.tail)
      | .ok (.forGroup on off, r) =>
        let verbose := (st.frame.verbose || on.contains 'x') && !off.contains 'x'
        .ok (st.enter .scope verbose, r.tail)
    else .error .invalid
  | _ => .error .invalid

def readGroup (st : State) : (ts : List Token) → Except Fault (State × Rest ts)
  | .plain '?' :: ts => (readExtension st ts).map fun (st, r) => (st, r.tail)
  | ts => (st.enterCapture none).map (·, Rest.all ts)

def isLayout (c : Char) : Bool :=
  c = ' ' || c = '\t' || c = '\n' || c = '\r' || c.toNat = 0x0B || c.toNat = 0x0C

def pushMeaning (st : State) : Meaning → Except Fault State
  | .code n => .ok (st.push (.literal n))
  | .category c => .ok (st.push (.oneOf false [.category c]))
  | .anchor => .ok (st.push .anchor)
  | .reference n => st.refer n

def readItem (st : State) (t : Token) (ts : List Token) : Except Fault (State × Rest ts) :=
  match t with
  | .dangling => .error .invalid
  | .escaped c =>
    match readEscape c ts with
    | .error e => .error e
    | .ok (m, r) => (pushMeaning st m).map (·, r)
  | .plain c =>
    if st.frame.verbose ∧ isLayout c then .ok (st, Rest.all ts)
    else if st.frame.verbose ∧ c = '#' then
      match skipPast '\n' ts with
      | some r => .ok (st, r)
      | none => if .dangling ∈ ts then .error .invalid else .ok (st, ⟨[], Nat.zero_le _⟩)
    else
      match c with
      | '[' => (readClass ts).map fun (t, r) => (st.push t, r)
      | '(' => readGroup st ts
      | '*' => st.quantify 0 none ts
      | '+' => st.quantify 1 none ts
      | '?' => st.quantify 0 (some 1) ts
      | '{' => readBraces st ts
      | '.' => .ok (st.push .any, Rest.all ts)
      | '^' => .ok (st.push .anchor, Rest.all ts)
      | '$' => .ok (st.push .anchor, Rest.all ts)
      | c => .ok (st.push (.literal c.toNat), Rest.all ts)

/-- A parenthesis that closes nothing ends the reading, when only the flags can still be
at fault before it. -/
def unopened (st : State) : Fault :=
  if st.flags.ascii ∧ st.flags.unicode then .incompatibleFlags else .invalid

variable [Platform]

def readFrom (st : State) : List Token → Except Fault Tree
  | [] => if st.outer.isEmpty then st.complete else .error .invalid
  | t :: ts =>
    if t = .plain '|' then
      match st.branch with
      | .error e => .error e
      | .ok st => readFrom st ts
    else if t = .plain ')' then
      match st.outer with
      | [] => .error (unopened st)
      | around :: outer => readFrom (st.close around outer) ts
    else
      match readItem st t ts with
      | .error e => .error e
      | .ok (st, r) =>
        if Platform.room < st.depth then .error .nestedTooDeep else readFrom st r.1
termination_by ts => ts.length
decreasing_by
  · simp
  · simp
  · have := r.2; simp only [List.length_cons]; omega

def read (s : List Char) : Except Fault Tree := readFrom {} (tokens s)

end ResourceQuery.Pattern
