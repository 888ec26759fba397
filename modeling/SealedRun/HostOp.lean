/-! The vocabulary between a guest and its host: the two input tapes and the operations
that a trace can name. -/
namespace SealedRun

inductive Visibility
  | pub
  | priv
deriving DecidableEq, Repr

namespace Visibility

def all : List Visibility := [pub, priv]

def ofFlag (isPublic : Bool) : Visibility := if isPublic then pub else priv

def isPublic (v : Visibility) : Bool := v == pub

/-- The lowercase word used in messages. -/
def word : Visibility → String
  | pub => "public"
  | priv => "private"

def name : Visibility → String
  | pub => "Public"
  | priv => "Private"

end Visibility

inductive HostOp
  | wasmInput
  | wasmOutput
  | require
  | readContext
  | writeContext
  | memoryLoad
  | memoryStore
  | log
deriving DecidableEq, Repr

namespace HostOp

def all : List HostOp :=
  [wasmInput, wasmOutput, require, readContext, writeContext, memoryLoad, memoryStore, log]

/-- Place in the list of operations, counted from zero. -/
def index : HostOp → Nat
  | wasmInput => 0
  | wasmOutput => 1
  | require => 2
  | readContext => 3
  | writeContext => 4
  | memoryLoad => 5
  | memoryStore => 6
  | log => 7

def ofIndex? (i : Nat) : Option HostOp := all[i]?

theorem ofIndex?_index (op : HostOp) : ofIndex? op.index = some op := by
  cases op <;> rfl

/-- The number a guest calls the operation by. -/
def code (op : HostOp) : Nat := op.index + 1

def name : HostOp → String
  | wasmInput => "WasmInput"
  | wasmOutput => "WasmOutput"
  | require => "Require"
  | readContext => "ReadContext"
  | writeContext => "WriteContext"
  | memoryLoad => "MemoryLoad"
  | memoryStore => "MemoryStore"
  | log => "Log"

def ofName? (s : String) : Option HostOp := all.find? (·.name == s)

end HostOp

end SealedRun
