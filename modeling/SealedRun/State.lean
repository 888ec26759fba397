import SealedRun.Constraints
import SealedRun.Context.Cursor
import SealedRun.Memory
import SealedRun.Phantom.Registry
import SealedRun.Phantom.Sandbox
import SealedRun.Tape
import SealedRun.Trace

/-! The host's side of one run. Every operation a guest can ask for is a function from state
to answer and state. Once a run has a terminal error it answers everything with it and
changes no more; inside a phantom region only loads pass, and they leave no trace. -/
namespace SealedRun

/-- The two tapes handed to one segment. -/
structure SegmentInput where
  publicWords : List Word
  privateWords : List Word
deriving DecidableEq, Repr

structure State where
  segmentId : UInt32
  memory : Memory
  tapes : Tapes
  context : ContextCursor
  constraints : Constraints
  trace : Trace
  sandbox : Sandbox
  registry : Registry
  /-- Public words read and words published, in call order. -/
  instanceWords : List Word
  outputs : List Word
  /-- Calls that passed the gate of a running state, traced or not. -/
  step : Nat
  terminal : Option ExecutionError

abbrev Answer (β : Type) := Except ExecutionError β × State

namespace State

variable {β : Type}

def start (segmentId : UInt32) (position : Position) (slots : Slots) (registry : Registry)
    (input : SegmentInput) (context : List Word) : Outcome State :=
  (ContextCursor.start position slots context).map fun cursor => {
    segmentId, registry
    memory := .empty
    tapes := .ofWords input.publicWords input.privateWords
    context := cursor
    constraints := .none
    trace := .empty
    sandbox := .empty
    instanceWords := []
    outputs := []
    step := 0
    terminal := none }

/-- Ends the run, if it still goes on. What open regions may have left in the trace is dropped. -/
def fail (s : State) (e : ExecutionError) : State :=
  { s with
    trace := match s.sandbox.entry? with
      | some mark => s.trace.rollback mark
      | none => s.trace
    terminal := s.terminal <|> some e }

def refuse (s : State) (e : ExecutionError) : Answer β := (.error e, s.fail e)

/-- The gate in front of every operation that a trace can name, loads apart. -/
def enter (s : State) (op : HostOp) (act : State → Answer β) : Answer β :=
  match s.terminal with
  | some e => (.error e, s)
  | none =>
    let s := { s with step := s.step + 1 }
    match s.sandbox.check op with
    | .error e => s.refuse e
    | .ok () => act s

def record (s : State) (op : HostOp) (args : List Word) (ret : Option Word) : State :=
  if s.sandbox.isOpen then s else { s with trace := s.trace.push op args ret }

/-- Accounts for a word that was read; a public one becomes part of the instance. -/
def consume (v : Visibility) (s : State) (w : Word) : State :=
  let s := if v.isPublic then { s with instanceWords := s.instanceWords ++ [w] } else s
  s.record .wasmInput [if v.isPublic then 1 else 0] (some w)

def readInput (v : Visibility) (s : State) : Answer Word :=
  s.enter .wasmInput fun s =>
    match s.tapes.read v with
    | .error e => s.refuse e
    | .ok (w, tapes) => (.ok w, consume v { s with tapes } w)

/-- The first `n` bytes of as many whole words as hold them, in one step. -/
def readBytes (v : Visibility) (n : Nat) (s : State) : Answer Bytes :=
  s.enter .wasmInput fun s =>
    match s.tapes.readWords v (wordsFor n) with
    | .error e => s.refuse e
    | .ok (ws, tapes) => (.ok (firstBytes ws n), ws.foldl (consume v) { s with tapes })

def writeOutput (w : Word) (s : State) : Answer Unit :=
  s.enter .wasmOutput fun s =>
    (.ok (), { s with
      instanceWords := s.instanceWords ++ [w]
      outputs := s.outputs ++ [w] }.record .wasmOutput [w] none)

def require (holds : Bool) (s : State) : Answer Unit :=
  s.enter .require fun s =>
    let counted := { s with constraints := s.constraints.require holds }
    if holds then (.ok (), counted.record .require [1] none)
    else counted.refuse (.violated s.constraints.checked)

def readContext (s : State) : Answer Word :=
  s.enter .readContext fun s =>
    match s.context.read with
    | .error e => s.refuse e
    | .ok (w, context) => (.ok w, { s with context }.record .readContext [] (some w))

def writeContext (w : Word) (s : State) : Answer Unit :=
  s.enter .writeContext fun s =>
    match s.context.write w with
    | .error e => s.refuse e
    | .ok context => (.ok (), { s with context }.record .writeContext [w] none)

/-- Loads pass inside phantom regions, where they leave no trace. -/
def load (addr : UInt32) (s : State) : Answer Word :=
  match s.terminal with
  | some e => (.error e, s)
  | none =>
    let (w, memory) := s.memory.load addr
    (.ok w, { s with step := s.step + 1, memory }.record .memoryLoad [addr.toUInt64] (some w))

def store (addr : UInt32) (w : Word) (s : State) : Answer Unit :=
  s.enter .memoryStore fun s =>
    (.ok (), { s with memory := s.memory.store addr w }.record .memoryStore
      [addr.toUInt64, w] none)

def logWord (w : Word) (s : State) : Answer Unit :=
  s.enter .log fun s => (.ok (), s.record .log [w] none)

/-- Opens a phantom region for a call of the function `name`. -/
def openRegion (name : String) (s : State) : Answer Unit :=
  match s.terminal with
  | some e => (.error e, s)
  | none =>
    match s.registry.checkTarget name with
    | .error e => s.refuse e
    | .ok () => (.ok (), { s with sandbox := s.sandbox.push name s.trace.checkpoint })

/-- Closes the innermost region. A region that failed takes the trace back to where it began
and ends the run. -/
def closeRegion (failure : Option ExecutionError) (s : State) : State :=
  let (mark, sandbox) := s.sandbox.pop
  let closed := { s with sandbox }
  match failure with
  | none => closed
  | some e =>
    { closed with
      trace := match mark with
        | some mark => s.trace.rollback mark
        | none => s.trace
      terminal := s.terminal <|> some e }

/-- A summary of several lines. -/
def text (s : State) : String :=
  let terminal := match s.terminal with
    | some e => s!"Some({e.inspect})"
    | none => "None"
  let facts := [s!"segment: {s.segmentId}", s!"position: {s.context.position.name}",
    s!"step: {s.step}", s!"traced: {s.trace.length}", s!"phantom depth: {s.sandbox.depth}"]
  let counts := [s!"public reads: {s.tapes.pub.reads}", s!"private reads: {s.tapes.priv.reads}",
    s!"constraints: {s.constraints.checked}", s!"terminal: {terminal}"]
  let memory := [s!"memory: {s.memory.usage}", s!"{s.memory.loads} loads",
    s!"{s.memory.stores} stores"]
  let line := ", ".intercalate
  s!"State \x7b {line facts}, \n {line counts} \n {line memory} \n\x7d"

end State

/-- What a guest can ask for, by the type of a successful answer. -/
inductive Call : Type → Type
  | input (v : Visibility) : Call Word
  | readBytes (v : Visibility) (n : Nat) : Call Bytes
  | output (w : Word) : Call Unit
  | require (holds : Bool) : Call Unit
  | readContext : Call Word
  | writeContext (w : Word) : Call Unit
  | load (addr : UInt32) : Call Word
  | store (addr : UInt32) (w : Word) : Call Unit
  | log (w : Word) : Call Unit

def Call.perform {β : Type} : Call β → State → Answer β
  | input v => State.readInput v
  | readBytes v n => State.readBytes v n
  | output w => State.writeOutput w
  | require holds => State.require holds
  | readContext => State.readContext
  | writeContext w => State.writeContext w
  | load addr => State.load addr
  | store addr w => State.store addr w
  | log w => State.logWord w

end SealedRun
