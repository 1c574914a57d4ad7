import ResourceQuery.Date.Moment
import ResourceQuery.Date.Parts
import ResourceQuery.Date.Word

/-!
Reading a date text: a pass over its tokens that collects parts of the date, the
time of day, a weekday and a zone. Every step says how many of the tokens behind
it are used up as well. Parts that are missing come from the start of 1970.
-/

namespace ResourceQuery.Date

structure Reading where
  parts : Parts := .empty
  weekday : Option Nat := none
  hour : Option Nat := none
  minute : Option Nat := none
  second : Option Nat := none
  microsecond : Option Nat := none
  zone : Option Word := none
  offset : Option Int := none
  /-- The sign right behind a zone name says how far universal time is from that zone. -/
  signReversed : Bool := false
  deriving Repr

abbrev Step := Except DateFault (Reading × Nat)

def decimal (w : Word) : Except DateFault Number.Decimal :=
  match Number.Decimal.ofText? w with
  | some x => .ok x
  | none => .error .unreadable

def seconds (w : Word) : Except DateFault (Nat × Nat) :=
  if '.' ∈ w then do
    let s ← natural (w.takeWhile (· ≠ '.'))
    let places := (w.dropWhile (· ≠ '.')).tail
    let f ← natural ((places ++ List.replicate (6 - places.length) '0').take 6)
    return (s, f)
  else do
    let s ← natural w
    return (s, 0)

def minutes (x : Number.Decimal) : Except DateFault (Nat × Option Nat) :=
  if x.isDivisible then .ok (x.whole, x.sixtieths?) else .error .undivided

namespace Reading

def setSeconds (r : Reading) (w : Word) : Except DateFault Reading := do
  let (s, f) ← seconds w
  return { r with second := some s, microsecond := some f }

def setMinutes (r : Reading) (x : Number.Decimal) : Except DateFault Reading := do
  let (m, s) ← minutes x
  return { r with minute := some m, second := s }

def setUnit (r : Reading) (w : Word) (x : Number.Decimal) : TimeUnit → Except DateFault Reading
  | .hour =>
    if x.isDivisible then
      .ok { r with
        hour := some x.whole
        minute := match x.sixtieths? with | some m => some m | none => r.minute }
    else .error .undivided
  | .minute => r.setMinutes x
  | .second => r.setSeconds w

def setClock (r : Reading) (w : Word) : Except DateFault Reading := do
  let h ← natural (w.take 2)
  let m ← natural ((w.drop 2).take 2)
  { r with hour := some h, minute := some m }.setSeconds (w.drop 4)

def setHourMinute (r : Reading) (w : Word) : Except DateFault Reading := do
  let h ← natural (w.take 2)
  if w.length = 4 then do
    let m ← natural (w.drop 2)
    return { r with hour := some h, minute := some m }
  else return { r with hour := some h }

def setCompact (r : Reading) (w : Word) : Except DateFault Reading := do
  let parts ← r.parts.addText (w.take 4) (some .year)
  let parts ← parts.addText ((w.drop 4).take 2) none
  let parts ← parts.addText ((w.drop 6).take 2) none
  let r := { r with parts }
  if w.length ≤ 8 then return r
  let h ← natural ((w.drop 8).take 2)
  let m ← natural ((w.drop 10).take 2)
  let r := { r with hour := some h, minute := some m }
  if w.length ≤ 12 then return r
  let s ← natural (w.drop 12)
  return { r with second := some s }

def setSixDigits (r : Reading) (w : Word) : Except DateFault Reading := do
  let parts ← r.parts.addText (w.take 2) none
  let parts ← parts.addText ((w.drop 2).take 2) none
  let parts ← parts.addText (w.drop 4) none
  return { r with parts }

end Reading

inductive UnitUse
  | named (unit : TimeUnit) (used : Nat)
  | beyond
  deriving Repr

/-- The unit of a number: the one that follows it, perhaps after a space; else the one
below the unit before it, where a space is allowed only for the last token. -/
def unitBeside? (before after : List Word) : Option UnitUse :=
  let following : Option UnitUse :=
    match after with
    | w :: rest =>
      match unitOf? w with
      | some u => some (.named u 1)
      | none =>
        match rest with
        | v :: _ => if w = [' '] then (unitOf? v).map (.named · 2) else none
        | [] => none
    | [] => none
  let below (u : TimeUnit) : UnitUse :=
    match u.next? with
    | some v => .named v 0
    | none => .beyond
  match following with
  | some u => some u
  | none =>
    match before with
    | w :: rest =>
      match unitOf? w with
      | some u => some (below u)
      | none =>
        match after, rest with
        | [], v :: _ => if w = [' '] then (unitOf? v).map below else none
        | _, _ => none
    | [] => none

/-- A number that completes a date of three parts is the time of day unless a colon or a
unit follows. -/
def isBareClock (r : Reading) (w : Word) (after : List Word) : Bool :=
  r.parts.values.length = 3 && (w.length = 2 || w.length = 4) && r.hour.isNone &&
    match after with
    | [] => true
    | v :: _ => v ≠ [':'] && (unitOf? v).isNone

def isSeparator (w : Word) : Bool := w == ['-'] || w == ['/'] || w == ['.']

/-- The parts that follow a separator: a second one, and a third one behind the same
separator. A filler word behind the separator ends the date. -/
def readSeparated (p : Parts) (sep : Word) (after : List Word) : Except DateFault (Parts × Nat) :=
  match after with
  | [] => .ok (p, 0)
  | w :: rest =>
    if isFiller w then .ok (p, 0)
    else do
      let p ←
        if w.all Text.isDigit then p.addText w none
        else match monthOf? w with
          | some m => p.add m (some .month)
          | none => .error .unreadable
      match rest with
      | s :: rest =>
        if s = sep then
          match rest with
          | [] => .error .unreadable
          | v :: _ =>
            match monthOf? v with
            | some m => return (← p.add m (some .month), 3)
            | none => return (← p.addText v none, 3)
        else return (p, 1)
      | [] => return (p, 1)

def readPlain (r : Reading) (x : Number.Decimal) (after : List Word) : Step :=
  let asPart (used : Nat) : Step := do
    let parts ← r.parts.addDecimal x
    return ({ r with parts }, used)
  match after with
  | [] => asPart 0
  | w :: rest =>
    if isFiller w then
      match rest.head?.bind halfDayOf? with
      | some half => .ok ({ r with hour := some (half.hour x.whole) }, 2)
      | none => asPart 1
    else match halfDayOf? w with
      | some half =>
        if x.below 24 then .ok ({ r with hour := some (half.hour x.whole) }, 1)
        else if r.parts.couldBeDay x then asPart 0
        else .error .unreadable
      | none => if r.parts.couldBeDay x then asPart 0 else .error .unreadable

def readColons (r : Reading) (x : Number.Decimal) (minute : Word) (after : List Word) : Step := do
  let r ← { r with hour := some x.whole }.setMinutes (← decimal minute)
  match after with
  | c :: s :: _ =>
    if c = [':'] then return (← r.setSeconds s, 4) else return (r, 2)
  | _ => return (r, 2)

def readNumber (r : Reading) (before : List Word) (w : Word) (x : Number.Decimal)
    (after : List Word) : Step :=
  let size := w.length
  let keep (r : Except DateFault Reading) : Step := r.map (·, 0)
  if isBareClock r w after then keep (r.setHourMinute w)
  else if size = 6 ∨ (6 < size ∧ (w.takeWhile (· ≠ '.')).length = 6) then
    if r.parts.values = [] ∧ '.' ∉ w then keep (r.setSixDigits w) else keep (r.setClock w)
  else if size = 8 ∨ size = 12 ∨ size = 14 then keep (r.setCompact w)
  else match unitBeside? before after with
    | some (.named u used) => (r.setUnit w x u).map (·, used)
    | some .beyond => .ok (r, 0)
    | none =>
      match after with
      | s :: rest =>
        match decide (s = [':']), rest with
        | true, minute :: rest => readColons r x minute rest
        | _, _ =>
          if isSeparator s then do
            let parts ← r.parts.addText w none
            let (parts, used) ← readSeparated parts s rest
            return ({ r with parts }, used + 1)
          else readPlain r x after
      | [] => readPlain r x after

/-- The year that two digits stand for: that of the century of `now`, unless it is fifty years
ahead of `now` or more, or more than fifty years behind. -/
def fullYear (now y : Nat) : Nat :=
  if 100 ≤ y then y
  else
    let year := y + now / 100 * 100
    if now + 50 ≤ year then year - 100
    else if year + 50 < now then year + 100
    else year

def readMonth (now : Nat) (r : Reading) (month : Nat) (after : List Word) : Step := do
  let parts ← r.parts.add month (some .month)
  let asRead := ({ r with parts }, 0)
  match after with
  | sep :: rest =>
    if sep = ['-'] ∨ sep = ['/'] then
      match rest with
      | [] => .error .unreadable
      | w :: rest => do
        let parts ← parts.addText w none
        match rest with
        | s :: rest =>
          if s = sep then
            match rest with
            | [] => .error .unreadable
            | v :: _ => return ({ r with parts := ← parts.addText v none }, 4)
          else return ({ r with parts }, 2)
        | [] => return ({ r with parts }, 2)
    else
      match rest with
      | o :: s :: y :: _ =>
        if sep = [' '] ∧ s = [' '] ∧ folded o = "of" then
          if y.all Text.isDigit then do
            let year := fullYear now (← natural y)
            let parts ← { parts with fullYear := true }.add year (some .year)
            return ({ r with parts }, 4)
          else return ({ r with parts }, 4)
        else return asRead
      | _ => return asRead
  | [] => return asRead

def readHalfDay (r : Reading) (half : HalfDay) : Step :=
  match r.hour with
  | some h => if h ≤ 12 then .ok ({ r with hour := some (half.hour h) }, 0) else .error .unreadable
  | none => .error .unreadable

/-- A zone name. Only the small `z` sets an offset here; the other names of universal time
are known at the end, and lose their meaning in front of an offset. -/
def readZone (r : Reading) (w : Word) (after : List Word) : Reading :=
  match after with
  | s :: _ =>
    if s = ['+'] ∨ s = ['-'] then
      { r with zone := if isUniversal w then none else some w, signReversed := true }
    else { r with zone := some w, offset := if w = ['z'] then some 0 else none }
  | [] => { r with zone := some w, offset := if w = ['z'] then some 0 else none }

def couldBeZone (r : Reading) (w : Word) : Bool := r.hour.isSome && r.zone.isNone && isZoneName w

/-- An offset behind its sign: four digits, or hours and perhaps minutes behind a colon; then
perhaps the name of the zone in parentheses. -/
def readOffset (r : Reading) (positive : Bool) (after : List Word) : Step := do
  let (amount, used) ←
    match after with
    | [] => .error .unreadable
    | w :: rest =>
      if w.length = 4 then do
        let h ← natural (w.take 2)
        let m ← natural (w.drop 2)
        .ok (h * 3600 + m * 60, 1)
      else match decide (rest.head? = some [':']), rest with
        | true, _ :: rest =>
          match rest with
          | [] => .error .unreadable
          | v :: _ => do
            let h ← natural w
            let m ← natural v
            .ok (h * 3600 + m * 60, 3)
        | _, _ =>
          if w.length ≤ 2 then do
            let h ← natural w
            .ok (h * 3600, 1)
          else .error .unreadable
  let offset : Int := if positive = r.signReversed then -(amount : Int) else amount
  let r := { r with offset := some offset, signReversed := false }
  match after.drop used with
  | j :: o :: name :: c :: _ =>
    if isFiller j ∧ o = ['('] ∧ c = [')'] ∧ 3 ≤ name.length ∧ couldBeZone r name then
      return ({ r with zone := some name }, used + 4)
    else return (r, used)
  | _ => return (r, used)

def step (now : Nat) (r : Reading) (before : List Word) (w : Word) (after : List Word) : Step :=
  match Number.Decimal.ofText? w with
  | some x => readNumber r before w x after
  | none =>
    if isNonFinite w then .error .unreadable
    else match weekdayOf? w with
      | some d => .ok ({ r with weekday := some d }, 0)
      | none =>
        match monthOf? w with
        | some m => readMonth now r m after
        | none =>
          match halfDayOf? w with
          | some half => readHalfDay r half
          | none =>
            if couldBeZone r w ∧ r.offset = none then .ok (readZone r w after, 0)
            else if r.hour.isSome ∧ (w = ['+'] ∨ w = ['-']) then readOffset r (w = ['+']) after
            else if isFiller w then .ok (r, 0)
            else .error .unreadable

def readAll (now : Nat) (r : Reading) (before : List Word) : List Word → Except DateFault Reading
  | [] => .ok r
  | w :: after =>
    match step now r before w after with
    | .error e => .error e
    | .ok (r, used) => readAll now r ((after.take used).reverse ++ w :: before) (after.drop used)
termination_by ws => ws.length
decreasing_by simp only [List.length_drop, List.length_cons]; omega

def daysUntil (today target : Nat) : Nat := (target + 7 - today) % 7

namespace Reading

/-- The zone of the moment. Names of universal time mean that time, even beside another
offset; a name alone means nothing. -/
def momentZone? (r : Reading) : Option Zone :=
  match r.zone with
  | none => r.offset.map ({ offset := · })
  | some name =>
    if isUniversal name then some .universal
    else r.offset.map ({ offset := ·, name := String.ofList name })

def hasNothing (r : Reading) : Bool :=
  r.parts.values.isEmpty && r.weekday.isNone && r.hour.isNone && r.minute.isNone &&
    r.second.isNone && r.microsecond.isNone && r.zone.isNone && r.offset.isNone

def toMoment? (now : Nat) (r : Reading) : Option Moment :=
  if r.hasNothing then none
  else do
    let d ← r.parts.resolve?
    let zone := r.momentZone?
    let m : Moment :=
      { year := (d.year.map fun y => if r.parts.fullYear then y else fullYear now y).getD 1970
        month := d.month.getD 1
        day := d.day.getD 1
        hour := r.hour.getD 0
        minute := r.minute.getD 0
        second := r.second.getD 0
        microsecond := r.microsecond.getD 0
        zone }
    let m :=
      match d.day, r.weekday with
      | none, some target =>
        { m with day := 1 + daysUntil (Date.weekday (dayNumber m.year m.month 1)) target }
      | _, _ => m
    if m.isValid && zone.all Zone.isExpressible then some m else none

end Reading

def momentOfText (now : Nat) (s : List Char) : Except DateFault Moment :=
  match readAll now {} [] (words s) with
  | .error e => .error e
  | .ok r =>
    match r.toMoment? now with
    | some m => .ok m
    | none => .error .unreadable

end ResourceQuery.Date
