import SealedRun.Word
import Std.Data.TreeMap

/-! Guest memory: words at 32-bit addresses. A word that was never stored reads as zero and
is not part of the image. -/
namespace SealedRun

structure Memory where
  image : Std.TreeMap UInt32 Word
  loads : Nat
  stores : Nat

namespace Memory

def empty : Memory := ⟨∅, 0, 0⟩

def word (m : Memory) (addr : UInt32) : Word := m.image.getD addr 0

def load (m : Memory) (addr : UInt32) : Word × Memory :=
  (m.word addr, { m with loads := m.loads + 1 })

def store (m : Memory) (addr : UInt32) (w : Word) : Memory :=
  { m with image := m.image.insert addr w, stores := m.stores + 1 }

/-- The stored words by ascending address. -/
def toList (m : Memory) : List (UInt32 × Word) := m.image.toList

def usage (m : Memory) : String := s!"{m.image.size} words"

end Memory

end SealedRun
