import SealedRun.Config
import SealedRun.State
import SealedRun.Wire.Codec

/-! The encodings of the run's own types: fields in order, a choice by its place among the
alternatives. -/
namespace SealedRun.Codec

def positions : List Position := [.first, .middle, .last, .only]

def positionIndex : Position → Nat
  | .first => 0
  | .middle => 1
  | .last => 2
  | .only => 3

def position : Codec Position := tag.narrow (positions[·]?) positionIndex

def hostOp : Codec HostOp := tag.narrow HostOp.ofIndex? HostOp.index

def event : Codec Event :=
  (pair uint64 (pair hostOp (pair (list uint64) (option uint64)))).map
    (fun p => ⟨p.1, p.2.1, p.2.2.1, p.2.2.2⟩) (fun e => (e.eid, e.op, e.args, e.ret))

def segmentInput : Codec SegmentInput :=
  (pair (list uint64) (list uint64)).map (fun p => ⟨p.1, p.2⟩)
    (fun i => (i.publicWords, i.privateWords))

def slots : Codec Slots :=
  (pair size size).map (fun p => ⟨p.1, p.2⟩) (fun s => (s.reads, s.writes))

def schema : Codec ContextSchema :=
  (pair slots (pair slots (pair slots slots))).map
    (fun p => ⟨p.1, p.2.1, p.2.2.1, p.2.2.2⟩) (fun s => (s.first, s.middle, s.last, s.only))

def config : Codec Config :=
  (pair schema (list string)).map (fun p => ⟨p.1, p.2⟩) (fun c => (c.schema, c.patterns))

end SealedRun.Codec
