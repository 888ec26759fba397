import SealedRun.Segment.Basic

/-! Checking a chain of segments: each one carries the right number and the right digests of
its own outputs and trace, and hands its context over unchanged. -/
namespace SealedRun

inductive ChainFault
  | misplaced (segmentId : UInt32) (place : Nat)
  | contextDigest (place : Nat)
  | traceDigest (place : Nat)
  | broken (next prev : UInt32)
deriving DecidableEq, Repr

def ChainFault.message : ChainFault → String
  | misplaced segmentId place => s!"segment {segmentId} found at position {place}"
  | contextDigest place => s!"segment {place} context digest mismatch"
  | traceDigest place => s!"segment {place} trace digest mismatch"
  | broken next prev => s!"segment {next} does not continue segment {prev}"

namespace Chain

/-- What a segment at `place` shows by itself. -/
def checkSegment (place : Nat) (s : Segment) : Except ChainFault Unit :=
  if s.segmentId.toNat ≠ place then .error (.misplaced s.segmentId place)
  else if contextDigest s.contextOutputs ≠ s.contextDigest then .error (.contextDigest place)
  else if s.trace.digest ≠ s.traceDigest then .error (.traceDigest place)
  else .ok ()

def checkSegments : Nat → List Segment → Except ChainFault Unit
  | _, [] => .ok ()
  | place, s :: ss =>
    match checkSegment place s with
    | .error f => .error f
    | .ok () => checkSegments (place + 1) ss

def Continues (prev next : Segment) : Prop :=
  prev.contextDigest = next.preContextDigest ∧ prev.contextOutputs = next.contextInputs

instance (prev next : Segment) : Decidable (Continues prev next) :=
  inferInstanceAs (Decidable (_ ∧ _))

def checkLinks : List Segment → Except ChainFault Unit
  | prev :: next :: ss =>
    if Continues prev next then checkLinks (next :: ss)
    else .error (.broken next.segmentId prev.segmentId)
  | _ => .ok ()

/-- The segments one by one, and only then their links. -/
def verify (ss : List Segment) : Except ChainFault Unit :=
  match checkSegments 0 ss with
  | .error f => .error f
  | .ok () => checkLinks ss

end Chain

end SealedRun
