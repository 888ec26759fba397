import SealedRun.Error

/-! How many context slots a segment reads and writes, by position. A schema fits a sequence
when each segment writes as many slots as the next one reads. -/
namespace SealedRun

structure Slots where
  reads : Nat
  writes : Nat
deriving DecidableEq, Repr, Inhabited

structure ContextSchema where
  first : Slots
  middle : Slots
  last : Slots
  only : Slots
deriving DecidableEq, Repr

namespace ContextSchema

def uniform (reads writes : Nat) : ContextSchema :=
  let slots : Slots := ⟨reads, writes⟩
  ⟨slots, slots, slots, slots⟩

def empty : ContextSchema := uniform 0 0

def slots (s : ContextSchema) : Position → Slots
  | .first => s.first
  | .middle => s.middle
  | .last => s.last
  | .only => s.only

/-- The hand-over into segment `index`, which is not the first of its sequence. -/
def checkHandover (s : ContextSchema) (index total : Nat) : Except ExecutionError Unit :=
  let writes := (s.slots (.ofIndex (index - 1) total)).writes
  let next := Position.ofIndex index total
  let reads := (s.slots next).reads
  if writes = reads then .ok () else .error (.contextMismatch next .read reads writes)

/-- The hand-overs into the last `count` segments, the earliest one first. -/
def checkLast (s : ContextSchema) (total : Nat) : Nat → Except ExecutionError Unit
  | 0 => .ok ()
  | count + 1 =>
    match s.checkHandover (total - (count + 1)) total with
    | .error e => .error e
    | .ok () => checkLast s total count

def validateSequence (s : ContextSchema) (total : Nat) : Except ExecutionError Unit :=
  checkLast s total (total - 1)

end ContextSchema

end SealedRun
