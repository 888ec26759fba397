import SealedRun.Error

/-! Which functions of a guest may run as phantoms. A name is marked or not once and for all;
registering a function table designates its marked functions, and an inlined function that
is marked stops the registration where it stands. -/
namespace SealedRun

structure FunctionEntry where
  name : String
  /-- Inlined functions have no call boundary and are never phantom. -/
  inlined : Bool
deriving DecidableEq, Repr

structure Registry where
  marked : String → Bool
  /-- Registered functions, the latest first. -/
  functions : List FunctionEntry
  designated : List String

namespace Registry

def empty (marked : String → Bool) : Registry := ⟨marked, [], []⟩

def find? (r : Registry) (name : String) : Option FunctionEntry :=
  r.functions.find? (·.name == name)

def isPhantom (r : Registry) (name : String) : Bool := r.designated.contains name

def enter (r : Registry) (f : FunctionEntry) : Registry :=
  { r with
    functions := f :: r.functions
    designated := if r.marked f.name then f.name :: r.designated else r.designated }

/-- Takes in functions up to the first one that is both marked and inlined. -/
def register (r : Registry) : List FunctionEntry → Except ExecutionError Unit × Registry
  | [] => (.ok (), r)
  | f :: fs =>
    if r.marked f.name && f.inlined then (.error (.invalidTarget f.name .inlined), r)
    else (r.enter f).register fs

/-- Whether a call may open a phantom region, decided by the latest entry of the name. -/
def checkTarget (r : Registry) (name : String) : Except ExecutionError Unit :=
  match r.find? name with
  | none => .error (.invalidTarget name .unknown)
  | some f =>
    if f.inlined then .error (.invalidTarget name .inlined)
    else if r.isPhantom name then .ok ()
    else .error (.invalidTarget name .notDesignated)

end Registry

end SealedRun
