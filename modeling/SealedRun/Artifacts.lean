import SealedRun.Continuation
import SealedRun.Failure
import SealedRun.Segment.Document

/-! The files around a run: words, configurations and segments. -/
namespace SealedRun

/-- The words of a file, which has to hold whole words. -/
def readWordFile (fs : Files) (path : String) : Except Failure (List Word) :=
  match fs.read path with
  | .error e => .error (.file e)
  | .ok bs =>
    match wholeWords? bs with
    | some ws => .ok ws
    | none => .error (.partialWord path bs.length)

def writeWordFile (fs : Files) (path : String) (ws : List Word) : Except Failure Files :=
  match fs.write path (wordBytes ws) with
  | .error e => .error (.file e)
  | .ok fs => .ok fs

def readConfigFile (fs : Files) (path : String) : Except Failure Config :=
  match fs.read path with
  | .error .isDirectory => .error (.invalidConfig path)
  | .error _ => .error (.unreadableConfig path)
  | .ok bs =>
    match Config.parse? bs with
    | some c => .ok c
    | none => .error (.invalidConfig path)

def readSegment (bs : Bytes) : Except Failure Segment :=
  match Segment.parse? bs with
  | some s => .ok s
  | none => .error .invalidSegment

/-- The file of a segment in a directory. -/
def segmentPath (directory : String) (segmentId : UInt32) : String := s!"{directory}/{segmentId}"

def writeSegment (fs : Files) (directory : String) (s : Segment) : Except Failure Files :=
  let path := segmentPath directory s.segmentId
  match fs.write path s.fileBytes with
  | .error _ => .error (.segmentNotCreated path)
  | .ok fs => .ok fs

def verifyChain (ss : List Segment) : Except Failure Unit :=
  match Chain.verify ss with
  | .error f => .error (.chain f)
  | .ok () => .ok ()

namespace Continuation

variable {α : Type}

/-- Like `runAll`, and writes each segment as soon as it is finished. The files come with a
failure too. -/
def writeAll (c : Continuation α) (directory : String) (fs : Files) :
    List SegmentInput → Except Failure (List (Finished α)) × Files
  | [] => (.ok [], fs)
  | input :: inputs =>
    match c.runSegment input with
    | (.failed e, _) => (.error (.execution e), fs)
    | (.trapped t, _) => (.error (.trap t), fs)
    | (.returned f, c) =>
      match writeSegment fs directory f.segment with
      | .error failure => (.error failure, fs)
      | .ok fs =>
        match c.writeAll directory fs inputs with
        | (.ok finished, files) => (.ok (f :: finished), files)
        | (.error failure, files) => (.error failure, files)

end Continuation

/-- Runs a guest with as many segments as there are inputs and keeps each in a file. -/
def Host.split {α : Type} (h : Host) (g : Guest α) (directory : String) (context : List Word)
    (inputs : List SegmentInput) (fs : Files) : Except Failure (List (Finished α)) × Files :=
  if inputs = [] then (.error (.noInputs g.name), fs)
  else
    match fs.createDirectories directory with
    | .error e => (.error (.file e), fs)
    | .ok fs =>
      match Continuation.open? h g inputs.length context with
      | .error e => (.error (.execution e), fs)
      | .ok c => c.writeAll directory fs inputs

end SealedRun
