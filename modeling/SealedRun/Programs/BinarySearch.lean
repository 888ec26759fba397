import SealedRun.Guest.Basic
import SealedRun.Guest.Io

/-! Binary search over words that were stored before, all of it on the trace. -/
namespace SealedRun.BinarySearch

def array : List Word := [0, 1, 2, 3, 4, 5]

def base : UInt32 := 0x100

/-- Searches the places from `lo` to `hi`, both included; minus one if `v` is at none. -/
def search (v : Word) (lo hi : Int) : Program Int64 :=
  if h : lo ≤ hi then do
    let mid := (lo + hi) / 2
    let addr ← Program.address base (UInt32.ofNat mid.toNat)
    let x ← Program.request (.load addr)
    if x = v then return Int64.ofInt mid
    else if x < v then search v (mid + 1) hi
    else search v lo (mid - 1)
  else return -1
termination_by (hi + 1 - lo).toNat

/-- The place of the public input in `array`, or minus one. -/
def main : Program Int64 := do
  Program.storeWords base array
  let v ← Program.request (.input .pub)
  search v 0 (array.length - 1)

def guest : Guest Int64 := ⟨"BinarySearch", Guest.table [], .int64, fun _ => main⟩

end SealedRun.BinarySearch
