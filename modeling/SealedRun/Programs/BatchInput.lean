import SealedRun.Guest.Basic
import SealedRun.Guest.Io

/-! Accepts a private block of eight bytes whose last one is set to one. -/
namespace SealedRun.BatchInput

def main : Program Int32 := do
  let bytes ← Program.request (.readBytes .priv 8)
  Program.request (.require (bytes[7]? == some 1))
  return 0

def guest : Guest Int32 := ⟨"BatchInput", Guest.table [], .int32, fun _ => main⟩

end SealedRun.BatchInput
