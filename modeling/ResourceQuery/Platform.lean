import ResourceQuery.Date.Moment
import ResourceQuery.Date.Parts
import ResourceQuery.Text.Digit

/-!
What the program takes from outside: a library that reads dates, one that decodes the
identifiers of documents, and the calls that its interpreter has left for a pattern.
-/

namespace ResourceQuery

/-- A decoder of identifiers. It takes twenty-four characters as hexadecimal digits; whether
it counts the bytes that they write is left open. -/
structure IdentifierDecoder where
  decode : List Char → Option (List UInt8)
  length_of_decode {s : List Char} {bytes : List UInt8} : decode s = some bytes → s.length = 24
  fromHex_of_decode {s : List Char} {bytes : List UInt8} :
    decode s = some bytes → Text.fromHex? s = some bytes
  decode_of_fromHex {s : List Char} {bytes : List UInt8} : s.length = 24 →
    Text.fromHex? s = some bytes → bytes.length = 12 → decode s = some bytes

def IdentifierDecoder.IsExact (d : IdentifierDecoder) : Prop :=
  ∀ s bytes, d.decode s = some bytes → bytes.length = 12

class Platform where
  readDate : List Char → Except Date.DateFault Date.Moment
  readDate_nil : readDate [] = .error .unreadable
  identifiers : IdentifierDecoder
  /-- Calls that groups of a pattern may take up while it is read. -/
  room : Nat
  /-- A matcher goes back by fewer characters than this. -/
  reach : Nat

end ResourceQuery
