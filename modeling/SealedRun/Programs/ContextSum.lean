import SealedRun.Config
import SealedRun.Guest.Basic
import SealedRun.Guest.Io

/-! Adds the two incoming context slots and hands the sum on in both outgoing ones. -/
namespace SealedRun.ContextSum

/-- Two slots in and two out at every position. -/
def config : Config := ⟨.uniform 2 2, []⟩

def main : Program Word := do
  let a ← Program.request .readContext
  let b ← Program.request .readContext
  let sum := a + b
  Program.request (.writeContext sum)
  Program.request (.writeContext sum)
  return sum

def guest : Guest Word := ⟨"Context", Guest.table [], .uint64, fun _ => main⟩

end SealedRun.ContextSum
