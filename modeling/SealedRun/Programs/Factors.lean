import SealedRun.Guest.Basic
import SealedRun.Guest.Io

/-! Shows that the public input is a product of two numbers above one, which stay private. -/
namespace SealedRun.Factors

/-- The product, unless it exceeds a word. -/
def product? (p q : Word) : Option Word :=
  if p.toNat * q.toNat < UInt64.size then some (p * q) else none

def main : Program Word := do
  let n ← Program.request (.input .pub)
  let p ← Program.request (.input .priv)
  let q ← Program.request (.input .priv)
  Program.request (.require (1 < p && 1 < q))
  Program.request (.require (product? p q == some n))
  Program.request (.output n)
  return n

def guest : Guest Word := ⟨"Factors", Guest.table [], .uint64, fun _ => main⟩

end SealedRun.Factors
