import ResourceQuery.Date.Reader
import ResourceQuery.Platform

/-!
The platform that the program is run on.
-/

namespace ResourceQuery

namespace IdentifierDecoder

def counting : IdentifierDecoder where
  decode s := if s.length = 24 then (Text.fromHex? s).filter (·.length = 12) else none
  length_of_decode h := by
    split at h
    · assumption
    · cases h
  fromHex_of_decode h := by
    split at h
    · exact (Option.filter_eq_some_iff.1 h).1
    · cases h
  decode_of_fromHex length written count := by
    rw [if_pos length, Option.filter_eq_some_iff]
    exact ⟨written, decide_eq_true count⟩

end IdentifierDecoder

namespace Date

theorem momentOfText_nil (now : Nat) : momentOfText now [] = .error .unreadable := by
  have none_read : readAll now {} [] (words []) = .ok {} := by
    rw [words, wordsAfter, readAll]
  rw [momentOfText, none_read]
  rfl

end Date

/-- Dates are read in some year, which decides what century two digits mean. -/
@[reducible]
def Platform.standard (year room reach : Nat) : Platform where
  readDate := Date.momentOfText year
  readDate_nil := Date.momentOfText_nil year
  identifiers := .counting
  room
  reach

instance Platform.present : Platform := .standard 2026 986 2147483648

end ResourceQuery
