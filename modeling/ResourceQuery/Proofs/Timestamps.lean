import ResourceQuery.Operator
import ResourceQuery.Platform.Standard
import ResourceQuery.Proofs.CalendarDays
import ResourceQuery.Proofs.Numerals
import ResourceQuery.Proofs.Outcome

/-!
Timestamps. A text of thirteen digits in a field that speaks of dates is the moment that lies so
many milliseconds after the start of 1970, and one of ten digits the moment that lies so many
seconds after it: the calendar counts the same instants in the same order, and a range of them is
the same in either unit.
-/

namespace ResourceQuery

namespace Text

theorem occursIn_iff {word s : List Char} : occursIn word s = true ↔ word <:+: s := by
  induction s with
  | nil => rw [occursIn, List.isEmpty_iff, List.infix_nil]
  | cons c cs ih =>
    rw [occursIn, Bool.or_eq_true, List.isPrefixOf_iff_prefix, ih, List.infix_cons_iff]

end Text

namespace Date.Moment

def epoch : Moment :=
  { year := 1970, month := 1, day := 1, hour := 0, minute := 0, second := 0, microsecond := 0
    zone := some .universal }

/-- The moment is a day of the calendar and a time of day, universal time, and lies so many
milliseconds after the start of 1970. -/
structure IsStamp (m : Moment) (n : Nat) : Prop where
  universal : m.zone = some .universal
  valid : m.isValid = true
  ticks : m.ticks .universal = epoch.ticks .universal + 1000 * n

namespace IsStamp

variable {a b : Moment} {m n : Nat}

theorem ticks_le_iff (ha : a.IsStamp m) (hb : b.IsStamp n) :
    a.ticks .universal ≤ b.ticks .universal ↔ m ≤ n := by
  rw [ha.ticks, hb.ticks]
  omega

theorem ticks_lt (ha : a.IsStamp m) (hb : b.IsStamp n) (h : m < n) :
    a.ticks .universal < b.ticks .universal :=
  Int.not_le.1 fun later => absurd ((hb.ticks_le_iff ha).1 later) (Nat.not_le.2 h)

end IsStamp

theorem year_le {year month day : Nat} (h : dayNumber year month day ≤ 365 * 9998) :
    year ≤ 9999 := by
  have centuries : (year - 1) / 100 ≤ (year - 1) / 4 :=
    Nat.div_le_div_left (by decide) (by decide)
  simp only [dayNumber, daysBeforeYear] at h
  omega

theorem isValid_of_isDay {m : Moment} (day : IsDay m.year m.month m.day) (year : m.year ≤ 9999)
    (hour : m.hour < 24) (minute : m.minute < 60) (second : m.second < 60)
    (microsecond : m.microsecond < 1000000) : m.isValid = true := by
  obtain ⟨h₁, h₂, h₃, h₄, h₅⟩ := day
  simp only [isValid, h₁, h₂, h₃, h₄, h₅, year, hour, minute, second, microsecond, decide_true,
    Bool.and_true]

theorem isStamp_ofMilliseconds {n : Nat} (h : n ≤ 4102444800000) :
    (ofMilliseconds n).IsStamp n := by
  have number := @dayNumber_addDays 1970 (n / 86400000) (by decide)
  have first : dayNumber 1970 1 1 = 719163 := by decide
  have days : n / 86400000 ≤ 47482 := Nat.div_le_div_right (c := 86400000) h
  have whole : n = 86400000 * (n / 86400000) + n % 86400000 := (Nat.div_add_mod ..).symm
  have inside : n % 86400000 < 86400000 := Nat.mod_lt n (by decide)
  refine ⟨rfl, isValid_of_isDay (isDay_addDays (by decide)) ?_ ?_ ?_ ?_ ?_, ?_⟩
  · exact year_le (number.trans_le (by omega))
  · exact Nat.div_lt_of_lt_mul inside
  · exact Nat.mod_lt _ (by decide)
  · exact Nat.mod_lt _ (by decide)
  · have part := Nat.mod_lt (n % 86400000) (show 0 < 1000 by decide)
    exact Nat.mul_lt_mul_of_pos_right part (by decide)
  · simp only [ticks, localTicks, ofMilliseconds, epoch]
    rw [number]
    generalize n % 86400000 = t at *
    omega

/-- Does the moment lie between two others, or at one of them? -/
def Within (m low high : Moment) : Prop :=
  low.ticks .universal ≤ m.ticks .universal ∧ m.ticks .universal ≤ high.ticks .universal

end Date.Moment

namespace Inference

open Date.Moment

theorem isDateField_iff {field : String} : isDateField field = true ↔
    ∃ marker ∈ dateMarkers, marker <:+: Text.lower field.toList := by
  simp only [isDateField, List.any_eq_true, Text.occursIn_iff]

@[simp] theorem toList_padded (width n : Nat) :
    (padded width n).toList = Text.padded width (Nat.toDigits 10 n) := String.toList_ofList

theorem timestamp?_thirteen {n : Nat} (h : n ≤ maxTimestamp) :
    timestamp? (padded 13 n).toList = some (ofMilliseconds n) := by
  have length : (Text.padded 13 (Nat.toDigits 10 n)).length = 13 :=
    Text.length_padded_toDigits (by decide) (Nat.lt_of_le_of_lt h (by decide))
  rw [timestamp?, toList_padded, Text.asciiNumeral?_padded]
  exact if_pos ⟨length, h⟩

theorem timestamp?_ten {s : Nat} (h : 1000 * s ≤ maxTimestamp) :
    timestamp? (padded 10 s).toList = some (ofMilliseconds (1000 * s)) := by
  have length : (Text.padded 10 (Nat.toDigits 10 s)).length = 10 :=
    Text.length_padded_toDigits (by decide) (by simp only [maxTimestamp] at h; omega)
  rw [Nat.mul_comm] at h ⊢
  rw [timestamp?, toList_padded, Text.asciiNumeral?_padded]
  dsimp only
  rw [if_neg (by omega), if_pos ⟨length, h⟩]

theorem length_le_of_timestamp? {s : List Char} {m : Date.Moment} (h : timestamp? s = some m) :
    s.length ≤ 13 := by
  unfold timestamp? at h
  split at h
  · cases h
  · split_ifs at h <;> omega

variable [Platform]

theorem typedText_of_timestamp? {field : String} (dated : isDateField field = true) {width n : Nat}
    {m : Date.Moment} (read : timestamp? (padded width n).toList = some m) :
    typedText field (padded width n) = .ok (.moment m) := by
  have digits := Text.isDigits_padded width n
  have length := length_le_of_timestamp? read
  rw [← toList_padded] at digits
  rw [String.length_toList] at length
  have short : ¬maxLength < (padded width n).length := by
    simp only [maxLength]
    omega
  have unmarked : Text.behind? existenceMark (padded width n).toList = none :=
    Text.behind?_eq_none (c := '$') (by decide) fun dollar => absurd (digits '$' dollar) (by decide)
  rw [typedText, if_neg short, unmarked]
  simp only [dated, if_true, moment, read]

theorem typed_text (field s : String) : typed field (.text s) = typedText field s := rfl

theorem typedText_thirteen {field : String} (dated : isDateField field = true) {n : Nat}
    (h : n ≤ 4102444800000) : typedText field (padded 13 n) = .ok (.moment (ofMilliseconds n)) :=
  typedText_of_timestamp? dated (timestamp?_thirteen h)

theorem typedText_ten {field : String} (dated : isDateField field = true) {s : Nat}
    (h : s ≤ 4102444800) :
    typedText field (padded 10 s) = .ok (.moment (ofMilliseconds (1000 * s))) :=
  typedText_of_timestamp? dated (timestamp?_ten (Nat.mul_le_mul_left 1000 h))

end Inference

namespace Operator

open Date.Moment Inference

@[simp] theorem trim_padded (width n : Nat) :
    Text.trim (padded width n).toList = (padded width n).toList := by
  have visible : ∀ c ∈ (padded width n).toList, Text.isBlank c = false := by
    rw [toList_padded]
    exact fun c hc => Text.isBlank_of_isDigit (Text.isDigits_padded width n c hc)
  have given : (padded width n).toList ≠ [] := by
    rw [toList_padded]
    exact Text.padded_ne_nil width n
  simpa using @Text.trim_append [] _ [] nofun visible given nofun

@[simp] theorem trimmedPieces_padded (width m n : Nat) :
    Text.trimmedPieces (padded width m ++ "," ++ padded width n).toList =
      [(padded width m).toList, (padded width n).toList] := by
  have whole (n : Nat) : ',' ∉ (padded width n).toList := by
    rw [toList_padded]
    exact fun comma => absurd (Text.isDigits_padded width n ',' comma) (by decide)
  have joined : (padded width m ++ "," ++ padded width n).toList =
      (padded width m).toList ++ ',' :: (padded width n).toList := by
    simp
  rw [Text.trimmedPieces, joined, Text.pieces_append (whole m), Text.pieces_eq_singleton (whole n),
    List.map_cons, List.map_singleton, trim_padded, trim_padded]

variable [Platform]

theorem apply_congr {op : Operator} (hop : op ∈ [gt, gte, lt, lte, ne]) (cap : Int)
    {field : String} {v w : Value} (h : typed field v = typed field w) :
    op.apply cap field v = op.apply cap field w := by
  simp only [List.mem_cons, List.not_mem_nil, or_false] at hop
  rcases hop with rfl | rfl | rfl | rfl | rfl <;> simp only [apply, h]

theorem betweenCondition_padded (field : String) {width m n : Nat} {low high : Value}
    (hl : typedText field (padded width m) = .ok low)
    (hh : typedText field (padded width n) = .ok high) :
    betweenCondition field (padded width m ++ "," ++ padded width n) =
      .ok [("$gte", low), ("$lte", high)] := by
  rw [betweenCondition, trimmedPieces_padded]
  dsimp only
  rw [String.ofList_toList, String.ofList_toList, hl, hh]
  rfl

end Operator

namespace Inference

open Date.Moment

/-- In a field that speaks of dates, thirteen digits are the moment so many milliseconds after the
start of 1970, for every millisecond until the start of 2100, and ten digits the moment so many
seconds after it. A larger number is another moment, and a later one; so a range in seconds is the
range in milliseconds, and has just the moments between its bounds. -/
theorem timestamps_denote [Platform] {field : String}
    (dated : ∃ marker ∈ dateMarkers, marker <:+: Text.lower field.toList) :
    (∀ n ≤ 4102444800000, ∃ m, typed field (.text (padded 13 n)) = .ok (.moment m) ∧ m.IsStamp n) ∧
    (∀ s ≤ 4102444800,
      typed field (.text (padded 10 s)) = typed field (.text (padded 13 (1000 * s)))) ∧
    (∀ n ≤ 4102444800000, ∀ m < n, ∃ a b, typed field (.text (padded 13 m)) = .ok (.moment a) ∧
      typed field (.text (padded 13 n)) = .ok (.moment b) ∧ a ≠ b ∧
      a.ticks .universal < b.ticks .universal) ∧
    (∀ s ≤ 4102444800, ∀ cap, ∀ op ∈ [Operator.gt, .gte, .lt, .lte, .ne],
      op.apply cap field (.text (padded 10 s)) =
        op.apply cap field (.text (padded 13 (1000 * s)))) ∧
    ∀ s ≤ 4102444800, ∀ t ≤ 4102444800, ∃ low high,
      Operator.betweenCondition field (padded 10 s ++ "," ++ padded 10 t) =
        .ok [("$gte", .moment low), ("$lte", .moment high)] ∧
      Operator.betweenCondition field (padded 13 (1000 * s) ++ "," ++ padded 13 (1000 * t)) =
        .ok [("$gte", .moment low), ("$lte", .moment high)] ∧
      ∀ n m, Date.Moment.IsStamp m n → (m.Within low high ↔ 1000 * s ≤ n ∧ n ≤ 1000 * t) := by
  have dated := isDateField_iff.2 dated
  have inside {s : Nat} (h : s ≤ 4102444800) : 1000 * s ≤ 4102444800000 := by omega
  have seconds (s : Nat) (h : s ≤ 4102444800) :
      typed field (.text (padded 10 s)) = typed field (.text (padded 13 (1000 * s))) := by
    rw [typed_text, typed_text, typedText_ten dated h, typedText_thirteen dated (inside h)]
  simp only [typed_text] at seconds ⊢
  refine ⟨?_, seconds, ?_, ?_, ?_⟩
  · exact fun n h => ⟨_, typedText_thirteen dated h, isStamp_ofMilliseconds h⟩
  · intro n h m later
    have earlier : m ≤ 4102444800000 := later.le.trans h
    have less := (isStamp_ofMilliseconds earlier).ticks_lt (isStamp_ofMilliseconds h) later
    refine ⟨_, _, typedText_thirteen dated earlier, typedText_thirteen dated h, ?_, less⟩
    exact fun same => less.ne (congrArg (ticks · .universal) same)
  · exact fun s h cap op hop => Operator.apply_congr hop cap (seconds s h)
  · intro s hs t ht
    refine ⟨ofMilliseconds (1000 * s), ofMilliseconds (1000 * t), ?_, ?_, ?_⟩
    · exact Operator.betweenCondition_padded field (typedText_ten dated hs) (typedText_ten dated ht)
    · exact Operator.betweenCondition_padded field (typedText_thirteen dated (inside hs))
        (typedText_thirteen dated (inside ht))
    · intro n m stamp
      have low : (ofMilliseconds (1000 * s)).IsStamp (1000 * s) :=
        isStamp_ofMilliseconds (inside hs)
      have high : (ofMilliseconds (1000 * t)).IsStamp (1000 * t) :=
        isStamp_ofMilliseconds (inside ht)
      rw [Within, low.ticks_le_iff stamp, stamp.ticks_le_iff high]

theorem timestamps_denote_leap_day :
    let field := "updatedAt"
    let last : Date.Moment :=
      { year := 2000, month := 2, day := 29, hour := 23, minute := 59, second := 59
        microsecond := 999000, zone := some .universal }
    (∃ marker ∈ dateMarkers, marker <:+: Text.lower field.toList) ∧
      padded 13 951868799999 = "0951868799999" ∧
      typed field (.text "0951868799999") = .ok (.moment last) ∧ last.IsStamp 951868799999 ∧
      typed field (.text "0951868800") = typed field (.text "0951868800000") := by
  intro field last
  have dated : ∃ marker ∈ dateMarkers, marker <:+: Text.lower field.toList :=
    ⟨"updatedat".toList, by decide +kernel, by decide +kernel⟩
  obtain ⟨stamps, seconds, -⟩ := timestamps_denote dated
  obtain ⟨m, hm, stamp⟩ := stamps 951868799999 (by decide)
  have written : padded 13 951868799999 = "0951868799999" := by decide +kernel
  have read := typedText_thirteen (isDateField_iff.2 dated) (n := 951868799999) (by decide)
  have moment : ofMilliseconds 951868799999 = last := by decide +kernel
  rw [moment] at read
  cases hm.symm.trans read
  rw [written] at read
  exact ⟨dated, written, read, stamp, seconds 951868800 (by decide)⟩

end Inference
end ResourceQuery
