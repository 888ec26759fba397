import SealedRun.Guest.Basic
import SealedRun.Guest.Io

/-! Publishes a Fibonacci number, for as long as it fits in a word. -/
namespace SealedRun.Fibonacci

/-- The greatest index whose number fits. -/
def maxIndex : Word := 93

/-- `n` steps from two neighbours of the sequence. -/
def advance : Nat → Word → Word → Word
  | 0, a, _ => a
  | n + 1, a, b => advance n b (a + b)

/-- The `n`-th number, modulo 2 ^ 64. -/
def number (n : Word) : Word := advance n.toNat 0 1

def main : Program Word := do
  let n ← Program.request (.input .pub)
  Program.request (.require (n ≤ maxIndex))
  Program.request (.log n)
  let value := number n
  Program.request (.output value)
  return value

def guest : Guest Word := ⟨"Fibonacci", Guest.table [], .uint64, fun _ => main⟩

end SealedRun.Fibonacci
