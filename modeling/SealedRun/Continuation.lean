import SealedRun.Chain
import SealedRun.Host

/-! The segments of one computation, run strictly in order. The context that a segment
writes is exactly what the next one reads, and a segment that fails leaves everything as it
was, so that it can be tried again with other inputs. -/
namespace SealedRun

structure Finished (α : Type) where
  output : α
  segment : Segment

structure Continuation (α : Type) where
  schema : ContextSchema
  guest : Guest α
  registry : Registry
  total : Nat
  /-- The number of the segment that comes next. -/
  next : Nat
  /-- The slots that the next segment reads. -/
  context : List Word
  preContextDigest : Digest

namespace Continuation

variable {α : Type}

def open? (h : Host) (g : Guest α) (total : Nat) (context : List Word) :
    Except ExecutionError (Continuation α) :=
  match h.config.schema.validateSequence total with
  | .error e => .error e
  | .ok () =>
    match h.registryFor g with
    | .error e => .error e
    | .ok registry => .ok {
        schema := h.config.schema
        guest := g
        registry, total, context
        next := 0
        preContextDigest := contextDigest context }

def isFinished (c : Continuation α) : Bool := c.next == c.total

/-- The state in which the next segment starts. -/
def start (c : Continuation α) (input : SegmentInput) : Outcome State :=
  let position := Position.ofIndex c.next c.total
  State.start (UInt32.ofNat c.next) position (c.schema.slots position) c.registry input c.context

/-- What comes of running the next segment. -/
def attempt (c : Continuation α) (input : SegmentInput) : Outcome (Finished α) :=
  (c.start input).bind fun s =>
    match (c.guest.main s.segmentId).run s with
    | (.failed e, _) => .failed e
    | (.trapped t, _) => .trapped t
    | (.returned output, s) =>
      match s.seal (c.guest.codec.encode output) c.preContextDigest with
      | .error e => .failed e
      | .ok segment => .returned ⟨output, segment⟩

/-- Goes on behind a finished segment. -/
def advance (c : Continuation α) (segment : Segment) : Continuation α :=
  { c with
    next := c.next + 1
    context := segment.contextOutputs
    preContextDigest := segment.contextDigest }

def runSegment (c : Continuation α) (input : SegmentInput) :
    Outcome (Finished α) × Continuation α :=
  if c.isFinished then (.failed (.segmentsExhausted c.total), c)
  else
    match c.attempt input with
    | .returned f => (.returned f, c.advance f.segment)
    | .failed e => (.failed e, c)
    | .trapped t => (.trapped t, c)

/-- One segment for each input, up to the first that does not finish. -/
def runAll (c : Continuation α) : List SegmentInput → Outcome (List (Finished α))
  | [] => .returned []
  | input :: inputs =>
    match c.runSegment input with
    | (.returned f, c) => (c.runAll inputs).map (f :: ·)
    | (.failed e, _) => .failed e
    | (.trapped t, _) => .trapped t

end Continuation

namespace Host

variable {α : Type}

/-- Runs a guest as a computation of one segment. -/
def execute (h : Host) (g : Guest α) (input : SegmentInput) (context : List Word) :
    Outcome (Finished α) :=
  match Continuation.open? h g 1 context with
  | .error e => .failed e
  | .ok c => (c.runSegment input).1

/-- Runs a guest with as many segments as there are inputs. -/
def executeSegments (h : Host) (g : Guest α) (context : List Word) (inputs : List SegmentInput) :
    Outcome (List (Finished α)) :=
  match Continuation.open? h g inputs.length context with
  | .error e => .failed e
  | .ok c => c.runAll inputs

end Host

end SealedRun
