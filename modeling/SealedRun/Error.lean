import SealedRun.HostOp
import SealedRun.Position
import SealedRun.Text.Quoted

/-! Why a run ends early. An `ExecutionError` is an answer of the host: it is final for the
run, and the guest may see it. A `Trap` ends the guest where it stands and nothing of the
run is left. `Outcome` is what a guest's program comes to. -/
namespace SealedRun

/-- What a segment did with its context that its schema forbids. -/
inductive ContextOp
  | read
  | write
  | readAfterWrite
deriving DecidableEq, Repr

namespace ContextOp

def all : List ContextOp := [read, write, readAfterWrite]

def word : ContextOp → String
  | read => "read"
  | write => "write"
  | readAfterWrite => "read after write"

def name : ContextOp → String
  | read => "Read"
  | write => "Write"
  | readAfterWrite => "ReadAfterWrite"

end ContextOp

/-- Why a function cannot run as a phantom. -/
inductive TargetFault
  | notDesignated
  | inlined
  | unknown
deriving DecidableEq, Repr

namespace TargetFault

def all : List TargetFault := [notDesignated, inlined, unknown]

def message : TargetFault → String
  | notDesignated => "not marked as phantom"
  | inlined => "inlined functions have no call boundary"
  | unknown => "not in the function table"

def name : TargetFault → String
  | notDesignated => "NotDesignated"
  | inlined => "Inlined"
  | unknown => "Unknown"

end TargetFault

inductive ExecutionError
  /-- A tape was read past its last word. -/
  | inputExhausted (tape : Visibility) (reads : Nat)
  /-- The `site`-th requirement, counted from zero, did not hold. -/
  | violated (site : Nat)
  | contextMismatch (position : Position) (op : ContextOp) (expected actual : Nat)
  /-- A phantom region asked for an operation that leaves a trace. -/
  | phantomViolation (region : String) (op : HostOp)
  | invalidTarget (function : String) (reason : TargetFault)
  | segmentsExhausted (total : Nat)
deriving DecidableEq, Repr

namespace ExecutionError

/-- A requirement that does not hold rejects the input; every other error is a fault of the run. -/
def isRejection : ExecutionError → Bool
  | violated _ => true
  | _ => false

def kind : ExecutionError → String
  | inputExhausted .. => "InputExhausted"
  | violated .. => "Violated"
  | contextMismatch .. => "ContextSchemaMismatch"
  | phantomViolation .. => "PhantomViolation"
  | invalidTarget .. => "InvalidPhantomTarget"
  | segmentsExhausted .. => "SegmentsExhausted"

def message : ExecutionError → String
  | inputExhausted tape reads => s!"{tape.word} input exhausted after {reads} reads"
  | violated site => s!"constraint violated at call site {site}"
  | contextMismatch position .readAfterWrite _ actual =>
    let plural := if actual = 1 then "" else "s"
    s!"context read after {actual} write{plural} in {position.name} segment, reads must come first"
  | contextMismatch position op expected actual =>
    s!"context schema mismatch in {position.name} segment: expected {expected} {op.word}s, got {actual}"
  | phantomViolation region op =>
    s!"phantom region `{region}` attempted traced operation {op.name}"
  | invalidTarget function reason => s!"`{function}` cannot run as phantom: {reason.message}"
  | segmentsExhausted total => s!"all {total} segments already ran"

/-- The fields of an error under their names, between braces. -/
private def fields (fs : List (String × String)) : String :=
  " \x7b " ++ ", ".intercalate (fs.map fun f => f.1 ++ ": " ++ f.2) ++ " \x7d"

/-- The error as a record, for logs. -/
def inspect (e : ExecutionError) : String :=
  e.kind ++ fields (match e with
    | inputExhausted tape reads => [("visibility", tape.name), ("reads", toString reads)]
    | violated site => [("site", toString site)]
    | contextMismatch position op expected actual =>
      [("position", position.name), ("op", op.name), ("expected", toString expected),
        ("actual", toString actual)]
    | phantomViolation region op => [("region", Quoted.string region), ("op", op.name)]
    | invalidTarget function reason =>
      [("function", Quoted.string function), ("reason", reason.name)]
    | segmentsExhausted total => [("total", toString total)])

end ExecutionError

inductive Trap
  /-- An address beyond the last one was formed. -/
  | addressOverflow
  | noSuchSegment (index total : Nat)
  /-- More entries than a list can hold were asked for. -/
  | capacityOverflow
  /-- A program went on behind a requirement that cannot hold. -/
  | unreachable
deriving DecidableEq, Repr

def Trap.message : Trap → String
  | addressOverflow => "attempt to add with overflow"
  | noSuchSegment index total => s!"segment {index} out of {total}"
  | capacityOverflow => "capacity overflow"
  | unreachable => "internal error: entered unreachable code: require(false) always fails"

inductive Outcome (α : Type)
  | returned (value : α)
  | failed (error : ExecutionError)
  | trapped (trap : Trap)
deriving DecidableEq, Repr

namespace Outcome

def bind {α β : Type} (o : Outcome α) (f : α → Outcome β) : Outcome β :=
  match o with
  | returned a => f a
  | failed e => failed e
  | trapped t => trapped t

def map {α β : Type} (f : α → β) (o : Outcome α) : Outcome β := o.bind fun a => returned (f a)

end Outcome

/-- The position of a segment, or a trap when the sequence has no such segment. -/
def Position.at? (index total : Nat) : Except Trap Position :=
  if index < total then .ok (.ofIndex index total) else .error (.noSuchSegment index total)

end SealedRun
