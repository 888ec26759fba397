import SealedRun.State

/-! Guests as data. A program is a finite tree of calls whose branches depend on the
answers, errors included, so it can pass an error on or go past it; a phantom region holds
a program of its own. `run` plays a program against a state. -/
namespace SealedRun

inductive Program : Type → Type 1
  | ret {α : Type} (a : α) : Program α
  | fail {α : Type} (e : ExecutionError) : Program α
  | trap {α : Type} (t : Trap) : Program α
  | call {α β : Type} (c : Call β) (next : Except ExecutionError β → Program α) : Program α
  | region {α β : Type} (name : String) (body : Program β)
      (next : Except ExecutionError β → Program α) : Program α

namespace Program

variable {α β : Type}

def bind : Program α → (α → Program β) → Program β
  | ret a, f => f a
  | fail e, _ => fail e
  | trap t, _ => trap t
  | call c next, f => call c fun r => (next r).bind f
  | region name body next, f => region name body fun r => (next r).bind f

instance : Monad Program where
  pure := ret
  bind := bind

/-- A call whose error ends the program. -/
def request (c : Call β) : Program β :=
  call c fun
    | .ok b => ret b
    | .error e => fail e

/-- A call whose error is an answer like any other. -/
def attempt (c : Call β) : Program (Except ExecutionError β) := call c ret

/-- A phantom region whose error ends the program. -/
def phantom (name : String) (body : Program β) : Program β :=
  region name body fun
    | .ok b => ret b
    | .error e => fail e

def run : {α : Type} → Program α → State → Outcome α × State
  | _, ret a, s => (.returned a, s)
  | _, fail e, s => (.failed e, s)
  | _, trap t, s => (.trapped t, s)
  | _, call c next, s =>
    let (r, s) := c.perform s
    (next r).run s
  | _, region name body next, s =>
    match s.openRegion name with
    | (.error e, s) => (next (.error e)).run s
    | (.ok (), s) =>
      match body.run s with
      | (.returned b, s) => (next (.ok b)).run (s.closeRegion none)
      | (.failed e, s) => (next (.error e)).run (s.closeRegion (some e))
      | (.trapped t, s) => (.trapped t, s)

end Program

end SealedRun
