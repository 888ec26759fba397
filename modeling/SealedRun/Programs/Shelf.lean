import SealedRun.Programs.BatchInput
import SealedRun.Programs.BinarySearch
import SealedRun.Programs.ContextSum
import SealedRun.Programs.Factors
import SealedRun.Programs.Fibonacci
import SealedRun.Programs.PhantomSearch

/-! The programs that come with the host, by name. -/
namespace SealedRun

/-- A guest together with a way to show what it returns. -/
structure ShownGuest where
  Output : Type
  guest : Guest Output
  /-- The returned value as a number. -/
  value : Output → Int

structure ShelfEntry where
  name : String
  /-- What the program runs with unless told otherwise. -/
  config : Config
  program : ShownGuest

namespace Shelf

def entries : List ShelfEntry := [
  ⟨"batchinput", .empty, ⟨Int32, BatchInput.guest, Int32.toInt⟩⟩,
  ⟨"binary_search", .empty, ⟨Int64, BinarySearch.guest, Int64.toInt⟩⟩,
  ⟨"context", ContextSum.config, ⟨Word, ContextSum.guest, fun w => w.toNat⟩⟩,
  ⟨"factors", .empty, ⟨Word, Factors.guest, fun w => w.toNat⟩⟩,
  ⟨"fibonacci", .empty, ⟨Word, Fibonacci.guest, fun w => w.toNat⟩⟩,
  ⟨"phantom_search", PhantomSearch.config, ⟨Word, PhantomSearch.guest, fun w => w.toNat⟩⟩]

def names : List String := entries.map (·.name)

def find? (name : String) : Option ShelfEntry := entries.find? (·.name == name)

end Shelf

end SealedRun
