/-!
Blank characters, and the text that is left between them. A date text, a list
item and a number literal are all read without the blanks around them.
-/

namespace ResourceQuery.Text

/-- Spaces, tabs, line and paragraph ends, and the four information separators.
A zero-width space is no blank. -/
def isBlank (c : Char) : Bool :=
  let n := c.toNat
  (0x09 ≤ n && n ≤ 0x0D) || (0x1C ≤ n && n ≤ 0x20) || n == 0x85 || n == 0xA0 ||
    n == 0x1680 || (0x2000 ≤ n && n ≤ 0x200A) || n == 0x2028 || n == 0x2029 ||
    n == 0x202F || n == 0x205F || n == 0x3000

def trimLeft (s : List Char) : List Char := s.dropWhile isBlank

def trimRight (s : List Char) : List Char := (s.reverse.dropWhile isBlank).reverse

def trim (s : List Char) : List Char := trimRight (trimLeft s)

/-- Characters of ASCII words compared without regard to case. No word compared
this way holds a letter that another script shares, so ASCII decides. -/
def lower (s : List Char) : List Char := s.map Char.toLower

def occursIn (word : List Char) : List Char → Bool
  | [] => word.isEmpty
  | c :: cs => word.isPrefixOf (c :: cs) || occursIn word cs

def behind? (front : List Char) (s : List Char) : Option (List Char) :=
  if front.isPrefixOf s then some (s.drop front.length) else none

theorem behind?_eq_none {front s : List Char} {c : Char} (hf : c ∈ front) (hs : c ∉ s) :
    behind? front s = none :=
  if_neg fun h => hs ((List.isPrefixOf_iff_prefix.1 h).subset hf)

end ResourceQuery.Text
