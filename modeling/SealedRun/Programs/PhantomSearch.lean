import SealedRun.Config
import SealedRun.Guest.Basic
import SealedRun.Guest.Io

/-! Binary search off the trace. The phantom function finds a place, and the traced part
only checks the word found there. -/
namespace SealedRun.PhantomSearch

def config : Config := ⟨.empty, ["^search$"]⟩

def array : List Word := [1, 3, 5, 8, 13, 21, 34, 55]

def base : UInt32 := 0x200

def loadAt (place : Word) : Program Word := do
  let addr ← Program.address base place.toUInt32
  Program.request (.load addr)

/-- The least place from `lo` up to `hi` whose word is not below `v`, if the words ascend. -/
def lowerBound (v : Word) (lo hi : Nat) : Program Nat :=
  if h : lo < hi then do
    let mid := (lo + hi) / 2
    let x ← loadAt (UInt64.ofNat mid)
    if x < v then lowerBound v (mid + 1) hi else lowerBound v lo mid
  else return lo
termination_by hi - lo

/-- The place of `v`, or the number of places if it is at none. -/
def search (v : Word) : Program Word := do
  let lo ← lowerBound v 0 array.length
  if lo < array.length then
    let x ← loadAt (UInt64.ofNat lo)
    return if x = v then UInt64.ofNat lo else UInt64.ofNat array.length
  else return UInt64.ofNat array.length

/-- The guest's program around any way of finding a place. -/
def mainWith (find : Word → Program Word) : Program Word := do
  Program.storeWords base array
  let v ← Program.request (.input .pub)
  let place ← Program.phantom "search" (find v)
  Program.request (.require (place < UInt64.ofNat array.length))
  let found ← loadAt place
  Program.request (.require (found == v))
  return place

def guest : Guest Word :=
  ⟨"PhantomSearch", Guest.table ["search"], .uint64, fun _ => mainWith search⟩

end SealedRun.PhantomSearch
