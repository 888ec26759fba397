import SealedRun.Proofs.Continuation.History
import SealedRun.Proofs.Phantom.Designation

/-! A guest on its own. Under the empty configuration no name is marked, so every function table is
taken in, and the only segment has no slots. So what comes of the guest is what comes of its program
from a state that holds the two tapes and nothing else. -/
namespace SealedRun

/-- The start of a segment that is the only one and has no slots. -/
def State.fresh (registry : Registry) (input : SegmentInput) : State where
  segmentId := 0
  memory := .empty
  tapes := .ofWords input.publicWords input.privateWords
  context := ⟨.only, ⟨0, 0⟩, [], 0, [], rfl⟩
  constraints := .none
  trace := .empty
  sandbox := .empty
  registry := registry
  instanceWords := []
  outputs := []
  step := 0
  terminal := none

theorem State.start_fresh (registry : Registry) (input : SegmentInput) :
    State.start 0 .only ⟨0, 0⟩ registry input [] = .returned (fresh registry input) := rfl

/-- A segment that is the only one and has no slots. -/
def Segment.alone (step : Word) (instanceWords outputs : List Word) (trace : Trace)
    (constraints : Word) (output : Bytes) : Segment where
  segmentId := 0
  position := .only
  step := step
  instanceWords := instanceWords
  outputs := outputs
  contextInputs := []
  contextOutputs := []
  preContextDigest := SealedRun.contextDigest []
  contextDigest := SealedRun.contextDigest []
  trace := trace
  traceDigest := trace.digest
  constraints := constraints
  output := output

namespace Host

/-- The host of the empty configuration. -/
def plain : Host := ⟨.empty, .empty fun _ => false⟩

theorem ofConfig_empty : ofConfig .empty = .ok plain := rfl

variable {α : Type} {g : Guest α} {input : SegmentInput}

theorem registryFor_plain (g : Guest α) : ∃ registry, plain.registryFor g = .ok registry := by
  have unmarked : plain.registry.Holds (fun _ => false) [] := Registry.holds_empty
  have taken := unmarked.register g.functions
  have passed : g.functions.find? (·.stops fun _ => false) = none :=
    List.find?_eq_none.mpr fun _ _ => Bool.false_ne_true
  rw [passed] at taken
  have whole : plain.registry.register g.functions =
      (.ok (), (plain.registry.register g.functions).2) := Prod.ext taken.2 rfl
  exact ⟨_, by rw [registryFor, whole]⟩

theorem execute_plain (g : Guest α) (input : SegmentInput) : ∃ c : Continuation α,
    c.guest = g ∧ c.preContextDigest = contextDigest [] ∧
      c.start input = .returned (.fresh c.registry input) ∧
      plain.execute g input [] = c.attempt input := by
  obtain ⟨registry, registered⟩ := registryFor_plain g
  let c : Continuation α := ⟨.empty, g, registry, 1, 0, [], contextDigest []⟩
  have opened : Continuation.open? plain g 1 [] = .ok c := by
    have valid : plain.config.schema.validateSequence 1 = .ok () := rfl
    rw [Continuation.open?, valid, registered]
    rfl
  have unfinished : c.next ≠ c.total := Nat.zero_ne_one
  refine ⟨c, rfl, rfl, State.start_fresh registry input, ?_⟩
  rw [execute, opened]
  exact Continuation.runSegment_unfinished unfinished input

/-- The program's error is what comes of the guest. -/
theorem execute_failed {e : ExecutionError}
    (failed : ∀ registry, ((g.main 0).run (.fresh registry input)).1 = .failed e) :
    plain.execute g input [] = .failed e := by
  obtain ⟨c, rfl, -, start, executed⟩ := execute_plain g input
  rw [executed]
  exact Continuation.attempt_failed start (failed c.registry)

/-- A program that returns leaves the segment that its state is sealed into. -/
theorem execute_sealed {output : α} {segment : Segment}
    (ended : ∀ registry, ∃ s, (g.main 0).run (.fresh registry input) = (.returned output, s) ∧
      s.seal (g.codec.encode output) (contextDigest []) = .ok segment) :
    plain.execute g input [] = .returned ⟨output, segment⟩ := by
  obtain ⟨c, rfl, digest, start, executed⟩ := execute_plain g input
  obtain ⟨s, ran, sealed⟩ := ended c.registry
  rw [executed]
  exact Continuation.attempt_sealed start ran (digest ▸ sealed)

end Host

end SealedRun
