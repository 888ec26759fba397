import SealedRun.Program
import SealedRun.Wire.Codec

/-! A guest: its name, the functions it is made of, and a program for each segment. -/
namespace SealedRun

structure Guest (α : Type) where
  name : String
  functions : List FunctionEntry
  /-- How the returned value is encoded. -/
  codec : Codec α
  /-- The program, given the number of the segment it runs in. -/
  main : UInt32 → Program α

namespace Guest

/-- The name of the entry function. -/
def entry : String := "zkmain"

/-- The function table of a guest with an entry function and `others`. -/
def table (others : List String) : List FunctionEntry := (entry :: others).map (⟨·, false⟩)

end Guest

end SealedRun
