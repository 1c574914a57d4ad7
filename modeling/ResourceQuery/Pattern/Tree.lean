/-!
Patterns as trees, with the widths of the texts that they match. A look-behind
has to match texts of one width, so widths decide whether a pattern is valid, and
whether a matcher can go back far enough; possessive repeats and atomic groups are
nodes of their own.
-/

namespace ResourceQuery.Pattern

inductive ClassItem
  | code (n : Nat)
  | range (low high : Nat)
  | category (letter : Char)
  deriving DecidableEq, Repr

inductive Greed
  | greedy
  | lazy
  | possessive
  deriving DecidableEq, Repr

inductive Tree
  | empty
  | literal (code : Nat)
  | any
  | oneOf (negated : Bool) (items : List ClassItem)
  | anchor
  | backreference (group : Nat)
  | group (number : Nat) (body : Tree)
  | scope (body : Tree)
  | atomic (body : Tree)
  | look (behind : Bool) (body : Tree)
  /-- A choice by whether a group took part; `numbered` when the group is given by number. -/
  | ifGroup (group : Nat) (numbered : Bool) (yes no : Tree)
  | repetition (least : Nat) (most : Option Nat) (greed : Greed) (body : Tree)
  | seq (first rest : Tree)
  | either (left right : Tree)
  deriving DecidableEq, Repr

/-- Least and greatest width, the greatest unbounded when there is none. -/
structure Width where
  least : Nat
  most : Option Nat
  deriving DecidableEq, Repr

namespace Width

def zero : Width := ⟨0, some 0⟩

def one : Width := ⟨1, some 1⟩

def add (a b : Width) : Width :=
  ⟨a.least + b.least, match a.most, b.most with
    | some m, some n => some (m + n)
    | _, _ => none⟩

def union (a b : Width) : Width :=
  ⟨min a.least b.least, match a.most, b.most with
    | some m, some n => some (max m n)
    | _, _ => none⟩

def times (a : Width) (least : Nat) (most : Option Nat) : Width :=
  ⟨a.least * least, match a.most, most with
    | some 0, _ => some 0
    | _, some 0 => some 0
    | some m, some n => some (m * n)
    | _, _ => none⟩

def lookLimit : Nat := 4294967294

def isFixed (a : Width) : Bool := a.least ≤ lookLimit && a.most = some a.least

end Width

namespace Tree

def ofList (ts : List Tree) : Tree := ts.foldr .seq .empty

def ofBranches : List Tree → Tree
  | [] => .empty
  | [t] => t
  | t :: ts => .either t (ofBranches ts)

def width (groups : Nat → Width) : Tree → Width
  | .empty | .anchor | .look .. => .zero
  | .literal _ | .any | .oneOf .. => .one
  | .backreference n => groups n
  | .group _ t | .scope t | .atomic t => t.width groups
  | .ifGroup _ _ yes no => (yes.width groups).union (no.width groups)
  | .repetition least most _ t => (t.width groups).times least most
  | .seq a b => (a.width groups).add (b.width groups)
  | .either a b => (a.width groups).union (b.width groups)

def lookWidths (groups : Nat → Width) : Tree → List Width
  | .empty | .anchor | .literal _ | .any | .oneOf .. | .backreference _ => []
  | .look true t => t.width groups :: t.lookWidths groups
  | .look false t | .group _ t | .scope t | .atomic t | .repetition _ _ _ t => t.lookWidths groups
  | .ifGroup _ _ a b | .seq a b | .either a b => a.lookWidths groups ++ b.lookWidths groups

def choicesExist (count : Nat) : Tree → Bool
  | .empty | .anchor | .literal _ | .any | .oneOf .. | .backreference _ => true
  | .look _ t | .group _ t | .scope t | .atomic t | .repetition _ _ _ t => t.choicesExist count
  | .ifGroup n numbered a b =>
    (!numbered || n ≤ count) && a.choicesExist count && b.choicesExist count
  | .seq a b | .either a b => a.choicesExist count && b.choicesExist count

def hasRepeat : Tree → Bool
  | .repetition .. => true
  | .empty | .anchor | .literal _ | .any | .oneOf .. | .backreference _ => false
  | .look _ t | .group _ t | .scope t | .atomic t => t.hasRepeat
  | .ifGroup _ _ a b | .seq a b | .either a b => a.hasRepeat || b.hasRepeat

def isPossessive : Tree → Bool
  | .atomic _ => true
  | .repetition _ _ greed t => greed = .possessive || t.isPossessive
  | .empty | .anchor | .literal _ | .any | .oneOf .. | .backreference _ => false
  | .look _ t | .group _ t | .scope t => t.isPossessive
  | .ifGroup _ _ a b | .seq a b | .either a b => a.isPossessive || b.isPossessive

end Tree
end ResourceQuery.Pattern
