import SealedRun.HostOp
import SealedRun.Word

/-! The trace of a run: the operations that a proof has to account for, numbered from zero.
A checkpoint is a length, and rolling back to it keeps that many events. -/
namespace SealedRun

structure Event where
  eid : Word
  op : HostOp
  args : List Word
  ret : Option Word
deriving DecidableEq, Repr

def Event.text (e : Event) : String :=
  let args := ", ".intercalate (e.args.map toString)
  let ret := match e.ret with
    | some w => s!" ret={w}"
    | none => ""
  s!"#{e.eid} {e.op.name}({args})" ++ ret

structure Trace where
  events : List Event
deriving DecidableEq, Repr

namespace Trace

def empty : Trace := ⟨[]⟩

def length (t : Trace) : Nat := t.events.length

def isEmpty (t : Trace) : Bool := t.events.isEmpty

/-- The new event carries the number of events before it. -/
def push (t : Trace) (op : HostOp) (args : List Word) (ret : Option Word) : Trace :=
  ⟨t.events ++ [⟨UInt64.ofNat t.length, op, args, ret⟩]⟩

def checkpoint (t : Trace) : Nat := t.length

def rollback (t : Trace) (mark : Nat) : Trace := ⟨t.events.take mark⟩

def count (t : Trace) (op : HostOp) : Nat := t.events.countP (·.op == op)

/-- One event to a line. -/
def text (t : Trace) : String := "\n".intercalate (t.events.map Event.text)

end Trace

end SealedRun
