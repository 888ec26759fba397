import SealedRun.Guest.Basic
import SealedRun.Guest.Io
import SealedRun.Wire.Shape

/-! Guests written as lists of steps. A script keeps the words it receives in registers and
can use them later. A step that fails ends the script or the region it stands in, unless it
is marked to be ignored. -/
namespace SealedRun

inductive Operand
  | word (w : Word)
  /-- A register that was not filled counts as zero. -/
  | register (index : Nat)
  | sum (terms : List Operand)

inductive Condition
  | const (b : Bool)
  | eq (a b : Operand)
  | lt (a b : Operand)

/-- The words received so far. -/
abbrev Registers := List Word

mutual

def Operand.eval (regs : Registers) : Operand → Word
  | .word w => w
  | .register i => regs.getD i 0
  | .sum terms => Operand.total regs terms

def Operand.total (regs : Registers) : List Operand → Word
  | [] => 0
  | t :: ts => t.eval regs + Operand.total regs ts

end

def Condition.holds (regs : Registers) : Condition → Bool
  | const b => b
  | eq a b => a.eval regs == b.eval regs
  | lt a b => a.eval regs < b.eval regs

/-- A step without a body. -/
inductive Action
  | input (v : Visibility)
  | readBytes (n : Nat) (v : Visibility)
  | readFrame (v : Visibility)
  | readValue (shape : Shape) (v : Visibility)
  | output (value : Operand)
  | commit (shape : Shape) (value : shape.Value)
  | require (cond : Condition)
  | readContext
  | writeContext (value : Operand)
  | load (addr : Operand)
  | store (addr value : Operand)
  | storeWords (addr : Operand) (values : List Word)
  | log (value : Operand)
  | fail (e : ExecutionError)

inductive Step
  | act (ignored : Bool) (a : Action)
  /-- `depth` regions of one name inside each other, the body in the innermost. -/
  | region (ignored : Bool) (name : String) (depth : Nat) (body : List Step) (ret : Operand)

/-- What a step that succeeded hands back. -/
inductive Reading
  | nothing
  | word (w : Word)
  | bytes (bs : Bytes)
  | value (shape : Shape) (v : shape.Value)

/-- A word goes into the next register. -/
def Reading.keep (regs : Registers) : Reading → Registers
  | word w => regs ++ [w]
  | _ => regs

namespace Action

open Program

private def silent (p : Program Unit) : Program Reading := do
  p
  return .nothing

def program (regs : Registers) : Action → Program Reading
  | input v => do return .word (← request (.input v))
  | readBytes n v => do return .bytes (← request (.readBytes v n))
  | readFrame v => do return .bytes (← Program.readFrame v)
  | readValue shape v => do return .value shape (← Program.readValue shape.codec v)
  | output value => silent (request (.output (value.eval regs)))
  | commit shape value => silent (Program.commit shape.codec value)
  | require cond => silent (request (.require (cond.holds regs)))
  | readContext => do return .word (← request .readContext)
  | writeContext value => silent (request (.writeContext (value.eval regs)))
  | load addr => do return .word (← request (.load (addr.eval regs).toUInt32))
  | store addr value => silent (request (.store (addr.eval regs).toUInt32 (value.eval regs)))
  | storeWords addr values => silent (Program.storeWords (addr.eval regs).toUInt32 values)
  | log value => silent (request (.log (value.eval regs)))
  | fail e => Program.fail e

end Action

/-- A program whose error becomes its result. -/
def Program.settle {α : Type} : Program α → Program (Except ExecutionError α)
  | ret a => ret (.ok a)
  | fail e => ret (.error e)
  | trap t => trap t
  | call c next => call c fun r => (next r).settle
  | region name body next => region name body fun r => (next r).settle

/-- A program inside `depth + 1` regions of one name. -/
def Program.nested {α : Type} (name : String) (body : Program α) : Nat → Program α
  | 0 => phantom name body
  | depth + 1 => phantom name (nested name body depth)

namespace Script

mutual

/-- The registers after the steps. -/
def program : List Step → Registers → Program Registers
  | [], regs => .ret regs
  | step :: steps, regs => do
    let regs ← stepProgram step regs
    program steps regs

def stepProgram : Step → Registers → Program Registers
  | .act ignored a, regs => do
    match ← (a.program regs).settle with
    | .ok reading => return reading.keep regs
    | .error e => if ignored then return regs else .fail e
  | .region ignored name depth body ret, regs => do
    let inner := do
      let regs ← program body regs
      return regs ++ [ret.eval regs]
    match ← (inner.nested name (depth - 1)).settle with
    | .ok regs => return regs
    | .error e => if ignored then return regs else .fail e

end

/-- A guest whose segments run their own script, the later ones the last. -/
def guest (name : String) (functions : List FunctionEntry) (scripts : List (List Step)) :
    Guest (List Word) where
  name
  functions
  codec := .list .uint64
  main segmentId :=
    program (scripts.getD (min segmentId.toNat (scripts.length - 1)) []) []

/-- A step that was played, with the state after it and the steps played inside it. -/
inductive Played
  | step (result : Outcome Reading) (after : State) (body : List Played)

/-- Opens up to `count` regions of one name. Gives how many are open, and the error if one
could not be opened. -/
private def openRegions (name : String) : Nat → State → Nat × Option ExecutionError × State
  | 0, s => (0, none, s)
  | count + 1, s =>
    match s.openRegion name with
    | (.error e, s) => (0, some e, s)
    | (.ok (), s) =>
      let (opened, failure, s) := openRegions name count s
      (opened + 1, failure, s)

private def closeRegions (failure : Option ExecutionError) : Nat → State → State
  | 0, s => s
  | count + 1, s => closeRegions failure count (s.closeRegion failure)

mutual

/-- Plays one step. -/
def play : Step → Registers → State → Played × Registers × State
  | .act _ a, regs, s =>
    match (a.program regs).run s with
    | (.returned reading, s) => (.step (.returned reading) s [], reading.keep regs, s)
    | (result, s) => (.step result s [], regs, s)
  | .region _ name depth body ret, regs, s =>
    match openRegions name (max depth 1) s with
    | (opened, some e, s) =>
      let s := closeRegions (some e) opened s
      (.step (.failed e) s [], regs, s)
    | (opened, none, s) =>
      match playBody body regs s with
      | (entries, .returned (), regs, s) =>
        let s := closeRegions none opened s
        let w := ret.eval regs
        (.step (.returned (.word w)) s entries, regs ++ [w], s)
      | (entries, .failed e, regs, s) =>
        let s := closeRegions (some e) opened s
        (.step (.failed e) s entries, regs, s)
      | (entries, .trapped t, regs, s) => (.step (.trapped t) s entries, regs, s)

/-- Plays the steps of a region up to the first one whose failure counts. -/
def playBody : List Step → Registers → State → List Played × Outcome Unit × Registers × State
  | [], regs, s => ([], .returned (), regs, s)
  | step :: steps, regs, s =>
    let (entry, regs, s) := play step regs s
    let ignored := match step with
      | .act ignored _ => ignored
      | .region ignored _ _ _ _ => ignored
    match entry, ignored with
    | .step (.trapped t) _ _, _ => ([entry], .trapped t, regs, s)
    | .step (.failed e) _ _, false => ([entry], .failed e, regs, s)
    | _, _ =>
      let (entries, result, regs, s) := playBody steps regs s
      (entry :: entries, result, regs, s)

end

/-- Plays all steps, failures or not, up to a trap. -/
def playAll : List Step → Registers → State → List Played × Option Trap × State
  | [], _, s => ([], none, s)
  | step :: steps, regs, s =>
    match play step regs s with
    | (.step (.trapped t) after body, _, s) => ([.step (.trapped t) after body], some t, s)
    | (entry, regs, s) =>
      let (entries, trap, s) := playAll steps regs s
      (entry :: entries, trap, s)

end Script

end SealedRun
