import SealedRun.Error
import SealedRun.Word

/-! The input tapes of a run. A tape is read front to back and counts the words read; the
public and the private tape never meet. -/
namespace SealedRun

structure Tape where
  remaining : List Word
  reads : Nat
deriving DecidableEq, Repr

namespace Tape

def ofWords (ws : List Word) : Tape := ⟨ws, 0⟩

/-- The next `n` words, or nothing when fewer remain. -/
def take? (t : Tape) (n : Nat) : Option (List Word × Tape) :=
  if n ≤ t.remaining.length then some (t.remaining.take n, ⟨t.remaining.drop n, t.reads + n⟩)
  else none

/-- The next word. -/
def next? (t : Tape) : Option (Word × Tape) :=
  match t.remaining with
  | [] => none
  | w :: ws => some (w, ⟨ws, t.reads + 1⟩)

end Tape

structure Tapes where
  pub : Tape
  priv : Tape
deriving DecidableEq, Repr

namespace Tapes

def ofWords (pub priv : List Word) : Tapes := ⟨.ofWords pub, .ofWords priv⟩

def tape (t : Tapes) : Visibility → Tape
  | .pub => t.pub
  | .priv => t.priv

def setTape (t : Tapes) : Visibility → Tape → Tapes
  | .pub, new => { t with pub := new }
  | .priv, new => { t with priv := new }

/-- The error of a read that tape `v` cannot serve. -/
def exhausted (t : Tapes) (v : Visibility) : ExecutionError := .inputExhausted v (t.tape v).reads

def read (t : Tapes) (v : Visibility) : Except ExecutionError (Word × Tapes) :=
  match (t.tape v).next? with
  | none => .error (t.exhausted v)
  | some (w, rest) => .ok (w, t.setTape v rest)

/-- Whole words only: either all `n` are read or none is. -/
def readWords (t : Tapes) (v : Visibility) (n : Nat) :
    Except ExecutionError (List Word × Tapes) :=
  match (t.tape v).take? n with
  | none => .error (t.exhausted v)
  | some (ws, rest) => .ok (ws, t.setTape v rest)

/-- The first `n` bytes of as many words as hold them; the rest of the last word is lost. -/
def readBytes (t : Tapes) (v : Visibility) (n : Nat) : Except ExecutionError (Bytes × Tapes) :=
  match t.readWords v (wordsFor n) with
  | .error e => .error e
  | .ok (ws, rest) => .ok (firstBytes ws n, rest)

end Tapes

end SealedRun
