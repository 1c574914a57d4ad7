import ResourceQuery.Text.Digit
import ResourceQuery.Text.Pieces

/-!
Names of characters that follow one another. A run gives the first code point and
what the names have in common; `names` lists them, each with its code point.
-/

namespace ResourceQuery.Text

inductive NameRun
  | listed (first : Nat) (stem : String) (rests : List String)
  /-- Letters by what comes behind their size, the capital one in front of the small one. -/
  | paired (first : Nat) (stem : String) (letters : List String)
  | counted (first : Nat) (stem : String) (width low count : Nat)
  | coded (first last : Nat) (stem : String)

def alphabet : List String := ["A,B,C,D,E,F,G,H,I,J,K,L,M,N,O,P,Q,R,S,T,U,V,W,X,Y,Z"]

def units : List String := ["ONE,TWO,THREE,FOUR,FIVE,SIX,SEVEN,EIGHT,NINE"]

def digits : List String := "ZERO" :: units

def numeralText (base width n : Nat) : String :=
  String.ofList (padded width ((Nat.toDigits base n).map Char.toUpper))

def numberedFrom (first : Nat) (texts : List String) : List (String × Nat) := texts.zipIdx first

namespace NameRun

def separated (lines : List String) : List String :=
  lines.flatMap fun line => (pieces ',' line.toList).map String.ofList

def names : NameRun → List (String × Nat)
  | listed first stem rests => numberedFrom first ((separated rests).map (stem ++ ·))
  | paired first stem letters =>
    numberedFrom first ((separated letters).flatMap fun letter =>
      [stem ++ "CAPITAL LETTER " ++ letter, stem ++ "SMALL LETTER " ++ letter])
  | counted first stem width low count =>
    numberedFrom first ((List.range count).map fun i => stem ++ numeralText 10 width (low + i))
  | coded first last stem =>
    numberedFrom first ((List.range (last + 1 - first)).map fun i =>
      stem ++ numeralText 16 4 (first + i))

end NameRun
end ResourceQuery.Text
