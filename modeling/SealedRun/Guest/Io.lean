import SealedRun.Program
import SealedRun.Wire.Codec

/-! What guests are written with: framed values on tapes and in the output, and stores to
consecutive addresses. A framed value is a word with the length of its encoding, followed
by the encoding packed into words. -/
namespace SealedRun

/-- The words that frame a byte string. -/
def frame (bs : Bytes) : List Word := UInt64.ofNat bs.length :: packWords bs

/-- The words that frame a value, as a tape holds them. -/
def Codec.toInput {α : Type} (c : Codec α) (a : α) : List Word := frame (c.encode a)

namespace Program

variable {α : Type}

/-- The bytes of a frame. -/
def readFrame (v : Visibility) : Program Bytes := do
  let length ← request (.input v)
  request (.readBytes v length.toNat)

/-- Rejects the input. -/
def reject : Program α := do
  request (.require false)
  trap .unreachable

/-- The framed value; bytes that do not decode reject the input. -/
def readValue (c : Codec α) (v : Visibility) : Program α := do
  let bs ← readFrame v
  match c.read bs with
  | some a => ret a
  | none => reject

def writeWords : List Word → Program Unit
  | [] => ret ()
  | w :: ws => do
    request (.output w)
    writeWords ws

/-- Publishes a framed value. -/
def commit (c : Codec α) (a : α) : Program Unit := writeWords (c.toInput a)

/-- The address `offset` behind `base`, which has to exist. -/
def address (base offset : UInt32) : Program UInt32 :=
  if base.toNat + offset.toNat < UInt32.size then ret (base + offset) else trap .addressOverflow

/-- Stores words from the address `offset` behind `base` on. -/
def storeFrom (base : UInt32) : Nat → List Word → Program Unit
  | _, [] => ret ()
  | offset, w :: ws => do
    let addr ← address base (UInt32.ofNat offset)
    request (.store addr w)
    storeFrom base (offset + 1) ws

def storeWords (base : UInt32) (ws : List Word) : Program Unit := storeFrom base 0 ws

end Program

end SealedRun
