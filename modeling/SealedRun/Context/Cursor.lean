import SealedRun.Context.Schema
import SealedRun.Word

/-! The context slots of one segment while it runs: all reads in order, then all writes in
order. What breaks that order or exceeds the schema is refused and changes nothing. -/
namespace SealedRun

structure ContextCursor where
  position : Position
  slots : Slots
  inputs : List Word
  /-- Slots read so far. -/
  reads : Nat
  /-- Words written so far, in order. -/
  outputs : List Word
  inputs_length : inputs.length = slots.reads
deriving DecidableEq, Repr

namespace ContextCursor

/-- The slots a segment can write; there is room for all of them from the start. -/
def maxWrites : Nat := maxEntries 8

/-- A cursor in front of the first slot. -/
def start (position : Position) (slots : Slots) (inputs : List Word) : Outcome ContextCursor :=
  if h : inputs.length = slots.reads then
    if slots.writes ≤ maxWrites then .returned ⟨position, slots, inputs, 0, [], h⟩
    else .trapped .capacityOverflow
  else .failed (.contextMismatch position .read slots.reads inputs.length)

def writes (c : ContextCursor) : Nat := c.outputs.length

def mismatch (c : ContextCursor) (op : ContextOp) (actual : Nat) : ExecutionError :=
  let expected := match op with
    | .read => c.slots.reads
    | .write => c.slots.writes
    | .readAfterWrite => 0
  .contextMismatch c.position op expected actual

def read (c : ContextCursor) : Except ExecutionError (Word × ContextCursor) :=
  if 0 < c.writes then .error (c.mismatch .readAfterWrite c.writes)
  else if h : c.slots.reads ≤ c.reads then .error (c.mismatch .read (c.reads + 1))
  else
    have bound : c.reads < c.inputs.length := by rw [c.inputs_length]; omega
    .ok (c.inputs[c.reads], { c with reads := c.reads + 1 })

def write (c : ContextCursor) (w : Word) : Except ExecutionError ContextCursor :=
  if c.slots.writes ≤ c.writes then .error (c.mismatch .write (c.writes + 1))
  else .ok { c with outputs := c.outputs ++ [w] }

/-- The slots handed on, once every slot is read and written. -/
def finalize (c : ContextCursor) : Except ExecutionError (List Word) :=
  if c.reads ≠ c.slots.reads then .error (c.mismatch .read c.reads)
  else if c.writes ≠ c.slots.writes then .error (c.mismatch .write c.writes)
  else .ok c.outputs

end ContextCursor

end SealedRun
