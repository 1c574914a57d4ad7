import ResourceQuery.Text.Blank
import ResourceQuery.Text.Names.Ancient
import ResourceQuery.Text.Names.EastAsian
import ResourceQuery.Text.Names.European
import ResourceQuery.Text.Names.Hieroglyphic
import ResourceQuery.Text.Names.Indic
import ResourceQuery.Text.Names.Modern
import ResourceQuery.Text.Names.Notational
import ResourceQuery.Text.Names.Phonetic
import ResourceQuery.Text.Names.Pictographic
import ResourceQuery.Text.Names.Second
import ResourceQuery.Text.Names.Semitic
import ResourceQuery.Text.Names.Syllabic
import ResourceQuery.Text.Names.Symbol

/-!
Characters by name. Ideographs and syllables are named by rule, in capital
letters only; the other names stand in a table and are read in any case.
-/

namespace ResourceQuery.Text

def ideographRanges : List (Nat × Nat) :=
  [(0x3400, 0x4DBF), (0x4E00, 0x9FFF), (0x20000, 0x2A6DF), (0x2A700, 0x2B738), (0x2B740, 0x2B81D),
   (0x2B820, 0x2CEA1), (0x2CEB0, 0x2EBE0), (0x30000, 0x3134A)]

def ofHexDigits? (s : List Char) : Option Nat :=
  if s = [] then none
  else (s.mapM hexValue?).map fun ds => ds.foldl (fun n d => n * 16 + d) 0

def ideographNamed? (name : List Char) : Option Nat := do
  let digits ← behind? "CJK UNIFIED IDEOGRAPH-".toList name
  if (digits.length = 4 ∨ digits.length = 5) ∧ digits.all fun c => !c.isLower then
    let n ← ofHexDigits? digits
    if ideographRanges.any fun r => r.1 ≤ n && n ≤ r.2 then some n else none
  else none

def initialSounds : List (List Char) :=
  pieces ',' "G,GG,N,D,DD,R,M,B,BB,S,SS,,J,JJ,C,K,T,P,H".toList

def medialSounds : List (List Char) :=
  pieces ',' "A,AE,YA,YAE,EO,E,YEO,YE,O,WA,WAE,OE,YO,U,WEO,WE,WI,YU,EU,YI,I".toList

def finalSounds : List (List Char) :=
  pieces ',' ",G,GG,GS,N,NJ,NH,D,L,LG,LM,LB,LS,LT,LP,LH,M,B,BS,S,SS,NG,J,C,K,T,P,H".toList

/-- The places of the sounds that a text begins with, each with the text behind the sound. -/
def leadingSounds (sounds : List (List Char)) (s : List Char) : List (Nat × List Char) :=
  sounds.zipIdx.filterMap fun p => (behind? p.1 s).map fun rest => (p.2, rest)

def syllableNamed? (name : List Char) : Option Nat := do
  let s ← behind? "HANGUL SYLLABLE ".toList name
  (leadingSounds initialSounds s).findSome? fun (i, s) =>
    (leadingSounds medialSounds s).findSome? fun (m, s) =>
      (finalSounds.findIdx? (· = s)).map fun f => 0xAC00 + (i * 21 + m) * 28 + f

def dotPatternNames : List (String × Nat) :=
  (List.range 256).map fun n =>
    let dots := (List.range 8).filter n.testBit
    (if dots = [] then "BRAILLE PATTERN BLANK"
      else "BRAILLE PATTERN DOTS-" ++ String.ofList (dots.map fun d => Char.ofNat (0x31 + d)),
      0x2800 + n)

def tabledNames : List (String × Nat) :=
  dotPatternNames ++
    (europeanNames ++ semiticNames ++ indicNames ++ syllabicNames ++ phoneticNames ++
      symbolNames ++ eastAsianNames ++ modernNames ++ ancientNames ++ hieroglyphicNames ++
      notationalNames ++ pictographicNames ++ secondNames).flatMap NameRun.names

def tabledName? (name : List Char) : Option Nat :=
  tabledNames.lookup (String.ofList (name.map Char.toUpper))

/-- Names are spelled in letters, digits, blanks and hyphens, and there is a letter in each. -/
def isSpelled (name : List Char) : Bool :=
  (name.all fun c => c.isAlphanum || c = ' ' || c = '-') && name.any Char.isAlpha

def characterNamed? (name : List Char) : Option Nat :=
  if isSpelled name then (ideographNamed? name).or ((syllableNamed? name).or (tabledName? name))
  else none

theorem isSpelled_of_characterNamed? {name : List Char} {n : Nat}
    (h : characterNamed? name = some n) : isSpelled name = true := by
  rw [characterNamed?] at h
  split at h
  · assumption
  · cases h

end ResourceQuery.Text
