/-! The requirements a guest has stated so far. The first one that does not hold is kept. -/
namespace SealedRun

structure Constraints where
  checked : Nat
  violatedAt : Option Nat
deriving DecidableEq, Repr

namespace Constraints

def none : Constraints := ⟨0, .none⟩

/-- Counts a requirement, which is call `checked`, and remembers the first that fails. -/
def require (c : Constraints) (holds : Bool) : Constraints :=
  ⟨c.checked + 1, if holds then c.violatedAt else c.violatedAt <|> some c.checked⟩

end Constraints

end SealedRun
