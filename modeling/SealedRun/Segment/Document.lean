import SealedRun.Segment.Basic

/-! Segments as JSON documents. Every field is written in order, digests and the output as
numbers, so a document gives back exactly the segment it was written for. -/
namespace SealedRun

open Json (Document)

namespace Json.Document

def ofWords (ws : List Word) : Document := ofNats (ws.map UInt64.toNat)

def words? (d : Document) : Option (List Word) := d.list? word?

def ofBytes (bs : Bytes) : Document := ofNats (bs.map UInt8.toNat)

def bytes? (d : Document) : Option Bytes := (d.list? (nat? 256)).map (List.map UInt8.ofNat)

def ofDigest (g : Digest) : Document := ofBytes g.toList

def digest? (d : Document) : Option Digest :=
  d.bytes?.bind fun bs => if h : bs.length = 32 then some ⟨bs.toArray, by simp [h]⟩ else none

end Json.Document

namespace Event

def toDocument (e : Event) : Document :=
  .record [("eid", .ofNat e.eid.toNat), ("op", .ofString e.op.name),
    ("args", .ofWords e.args),
    ("ret", match e.ret with
      | some w => .ofNat w.toNat
      | none => .null)]

def ret? : Option Document → Option (Option Word)
  | none | some .null => some none
  | some d => d.word?.map some

def ofDocument? (d : Document) : Option Event :=
  match d.record? ["eid", "op", "args", "ret"] with
  | some [some eid, some op, some args, ret] => do
    some ⟨← eid.word?, ← op.unitName?.bind HostOp.ofName?, ← args.words?, ← ret? ret⟩
  | _ => none

end Event

namespace Trace

def toDocument (t : Trace) : Document := .record [("events", .array (t.events.map (·.toDocument)))]

def ofDocument? (d : Document) : Option Trace :=
  match d.record? ["events"] with
  | some [some events] => (events.list? Event.ofDocument?).map (⟨·⟩)
  | _ => none

end Trace

namespace Segment

def toDocument (s : Segment) : Document :=
  .record [
    ("segment_id", .ofNat s.segmentId.toNat),
    ("position", .ofString s.position.name),
    ("step", .ofNat s.step.toNat),
    ("public_inputs_and_outputs", .ofWords s.instanceWords),
    ("outputs", .ofWords s.outputs),
    ("context_inputs", .ofWords s.contextInputs),
    ("context_outputs", .ofWords s.contextOutputs),
    ("pre_context_digest", .ofDigest s.preContextDigest),
    ("context_digest", .ofDigest s.contextDigest),
    ("trace", s.trace.toDocument),
    ("trace_digest", .ofDigest s.traceDigest),
    ("constraints", .ofNat s.constraints.toNat),
    ("output", .ofBytes s.output)]

def fieldNames : List String :=
  ["segment_id", "position", "step", "public_inputs_and_outputs", "outputs", "context_inputs",
    "context_outputs", "pre_context_digest", "context_digest", "trace", "trace_digest",
    "constraints", "output"]

def ofDocument? (d : Document) : Option Segment :=
  match d.record? fieldNames with
  | some [some segmentId, some position, some step, some instanceWords, some outputs,
      some contextInputs, some contextOutputs, some preContextDigest, some contextDigest,
      some trace, some traceDigest, some constraints, some output] => do
    some {
      segmentId := UInt32.ofNat (← segmentId.nat? UInt32.size)
      position := ← position.unitName?.bind Position.ofName?
      step := ← step.word?
      instanceWords := ← instanceWords.words?
      outputs := ← outputs.words?
      contextInputs := ← contextInputs.words?
      contextOutputs := ← contextOutputs.words?
      preContextDigest := ← preContextDigest.digest?
      contextDigest := ← contextDigest.digest?
      trace := ← Trace.ofDocument? trace
      traceDigest := ← traceDigest.digest?
      constraints := ← constraints.word?
      output := ← output.bytes? }
  | _ => none

/-- The contents of a segment file. -/
def fileBytes (s : Segment) : Bytes := s.toDocument.render

def parse? (bs : Bytes) : Option Segment := (Document.parse? bs).bind ofDocument?

end Segment

end SealedRun
