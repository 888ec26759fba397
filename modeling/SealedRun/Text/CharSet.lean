import SealedRun.Numeral

/-! Sets of characters as unions of inclusive ranges of code points. The ranges of a set may
overlap and stand in any order; `complement` puts them in order first. -/
namespace SealedRun

structure CharSet where
  ranges : List (Nat × Nat)
deriving DecidableEq, Repr

/-- The items of a table, with blanks and ends of lines between them. -/
def tableItems (table : String) : List String :=
  ((table.splitOn "\n").flatMap (·.splitOn " ")).filter (· ≠ "")

def readHex (s : String) : Nat := ofDigits 16 (s.toList.filterMap (digitValue? 16))

namespace CharSet

def maxCodePoint : Nat := 0x10ffff

def empty : CharSet := ⟨[]⟩

def range (lo hi : Nat) : CharSet := ⟨[(lo, hi)]⟩

def all : CharSet := range 0 maxCodePoint

def ofList (rs : List (Nat × Nat)) : CharSet := ⟨rs⟩

def single (c : Char) : CharSet := range c.toNat c.toNat

/-- A table of ranges in hexadecimal; a single number is a range of one. -/
def read (table : String) : CharSet :=
  ⟨(tableItems table).map fun item =>
    match item.splitOn "-" with
    | [lo, hi] => (readHex lo, readHex hi)
    | _ => (readHex item, readHex item)⟩

def contains (s : CharSet) (n : Nat) : Bool := s.ranges.any fun r => r.1 ≤ n && n ≤ r.2

def mem (s : CharSet) (c : Char) : Bool := s.contains c.toNat

def union (s t : CharSet) : CharSet := ⟨s.ranges ++ t.ranges⟩

instance : Append CharSet := ⟨union⟩

/-- The gaps between ranges in ascending order, from `start` on. -/
private def gaps (start : Nat) : List (Nat × Nat) → List (Nat × Nat)
  | [] => if start ≤ maxCodePoint then [(start, maxCodePoint)] else []
  | (lo, hi) :: rs =>
    if start < lo then (start, lo - 1) :: gaps (hi + 1) rs else gaps (max start (hi + 1)) rs

def complement (s : CharSet) : CharSet :=
  ⟨gaps 0 (s.ranges.mergeSort fun a b => a.1 ≤ b.1)⟩

def inter (s t : CharSet) : CharSet := (s.complement ++ t.complement).complement

def diff (s t : CharSet) : CharSet := (s.complement ++ t).complement

def symmDiff (s t : CharSet) : CharSet := s.diff t ++ t.diff s

def isEmpty (s : CharSet) : Bool := s.ranges.all fun r => r.2 < r.1

/-- Whether every member is below `limit`. -/
def below (s : CharSet) (limit : Nat) : Bool := s.ranges.all fun r => r.2 < limit || r.2 < r.1

end CharSet

end SealedRun
