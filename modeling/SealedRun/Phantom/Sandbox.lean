import SealedRun.Error

/-! The phantom regions that are open, the innermost first. While one is open no operation
that leaves a trace is let through. -/
namespace SealedRun

structure Frame where
  region : String
  /-- Length of the trace when the region was opened. -/
  checkpoint : Nat
deriving DecidableEq, Repr

structure Sandbox where
  frames : List Frame
deriving DecidableEq, Repr

namespace Sandbox

def empty : Sandbox := ⟨[]⟩

def isOpen (s : Sandbox) : Bool := !s.frames.isEmpty

def depth (s : Sandbox) : Nat := s.frames.length

def push (s : Sandbox) (region : String) (checkpoint : Nat) : Sandbox :=
  ⟨⟨region, checkpoint⟩ :: s.frames⟩

/-- Closes the innermost region and gives its checkpoint. -/
def pop (s : Sandbox) : Option Nat × Sandbox :=
  match s.frames with
  | [] => (none, s)
  | f :: fs => (some f.checkpoint, ⟨fs⟩)

/-- The checkpoint of the outermost region. -/
def entry? (s : Sandbox) : Option Nat := s.frames.getLast?.map (·.checkpoint)

def check (s : Sandbox) (op : HostOp) : Except ExecutionError Unit :=
  match s.frames with
  | [] => .ok ()
  | f :: _ => .error (.phantomViolation f.region op)

end Sandbox

end SealedRun
