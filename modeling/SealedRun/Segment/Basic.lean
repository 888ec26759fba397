import SealedRun.Sha256
import SealedRun.Wire.Domain

/-! A sealed run. A state becomes a segment only if it never failed and used every context
slot of its position; the digests bind the context handed in, the context handed out and
the trace. -/
namespace SealedRun

structure Segment where
  segmentId : UInt32
  position : Position
  step : Word
  instanceWords : List Word
  outputs : List Word
  contextInputs : List Word
  contextOutputs : List Word
  preContextDigest : Digest
  contextDigest : Digest
  trace : Trace
  traceDigest : Digest
  /-- Requirements stated, all of which held. -/
  constraints : Word
  /-- The encoded value that the guest returned. -/
  output : Bytes
deriving DecidableEq

/-- The bytes hashed for a list of context slots. -/
def contextBytes (slots : List Word) : Bytes := wordBytes slots

def contextDigest (slots : List Word) : Digest := sha256 (contextBytes slots)

namespace Trace

/-- The bytes hashed for a trace: its encoded events, one after another. -/
def bytes (t : Trace) : Bytes := t.events.flatMap Codec.event.encode

def digest (t : Trace) : Digest := sha256 t.bytes

end Trace

namespace Segment

def readOutput {α : Type} (c : Codec α) (s : Segment) : Option α := c.read s.output

end Segment

/-- Seals a finished run, whose returned value is encoded in `output`. -/
def State.seal (s : State) (output : Bytes) (preContextDigest : Digest) :
    Except ExecutionError Segment :=
  match s.terminal, s.constraints.violatedAt with
  | some e, _ => .error e
  | none, some site => .error (.violated site)
  | none, none =>
    match s.context.finalize with
    | .error e => .error e
    | .ok contextOutputs => .ok {
        segmentId := s.segmentId
        position := s.context.position
        step := UInt64.ofNat s.step
        instanceWords := s.instanceWords
        outputs := s.outputs
        contextInputs := s.context.inputs
        contextOutputs, preContextDigest
        contextDigest := SealedRun.contextDigest contextOutputs
        trace := s.trace
        traceDigest := s.trace.digest
        constraints := UInt64.ofNat s.constraints.checked
        output }

end SealedRun
