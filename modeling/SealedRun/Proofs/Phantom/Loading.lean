import SealedRun.Proofs.Guest.Lookups
import SealedRun.Proofs.Guest.Storing
import SealedRun.Proofs.Input.Reading

/-! Bodies that only load. What such a body does depends on nothing but the words in memory, and
behind its region nothing but two counters tells that it ran; so a guest that asks it for a value
goes on as if the value had come from nowhere. -/
namespace SealedRun

/-- From a memory with these words, the program returns `a` and does nothing but load. -/
inductive Program.Loads {α : Type} (word : UInt32 → Word) : Program α → α → Prop
  | ret {a : α} : Loads word (.ret a) a
  | load {addr : UInt32} {next : Except ExecutionError Word → Program α} {a : α}
      (rest : Loads word (next (.ok (word addr))) a) : Loads word (.call (.load addr) next) a

namespace Program

variable {α : Type} {word : UInt32 → Word} {p : Program α} {a : α} {s : State}

theorem Loads.looksUp (loads : p.Loads word a) : ∃ addrs, p.LooksUp word addrs a := by
  induction loads with
  | ret => exact ⟨[], .ret⟩
  | load _ ih =>
    obtain ⟨addrs, rest⟩ := ih
    exact ⟨_ :: addrs, .load rest⟩

theorem LooksUp.loads {addrs : List UInt32} (looks : p.LooksUp word addrs a) : p.Loads word a := by
  induction looks with
  | ret => exact .ret
  | load _ ih => exact .load ih

theorem Loads.run_inside (loads : p.Loads word a) (running : s.terminal = none)
    (inside : s.sandbox.frames ≠ []) (same : s.memory.word = word) :
    ∃ k, p.run s = (.returned a, s.afterLoads k) := by
  obtain ⟨addrs, looks⟩ := loads.looksUp
  subst same
  refine ⟨addrs.length, ?_⟩
  rw [looks.run running, State.afterLookups_inside inside]

/-- A region whose body only loads gives what the body returns and leaves nothing but the loads. -/
theorem Loads.run_phantom (loads : p.Loads word a) (running : s.terminal = none)
    (outside : s.sandbox.frames = []) (same : s.memory.word = word) {name : String}
    (target : s.registry.checkTarget name = .ok ()) :
    ∃ k, (phantom name p).run s = (.returned a, s.afterLoads k) := by
  obtain ⟨s', opened⟩ : ∃ s', s.openRegion name = (.ok (), s') := by
    rw [State.openRegion_running running (State.level_of_outside outside), target]
    exact ⟨_, rfl⟩
  obtain ⟨hs, running', inside⟩ := State.openRegion_ok opened
  obtain ⟨k, ended⟩ := loads.run_inside running' inside (by rwa [hs])
  have closed : (s'.afterLoads k).closeRegion none = s.afterLoads k :=
    State.closeRegion_opened opened k
  refine ⟨k, ?_⟩
  rw [phantom, run_region_answered (r := .ok a) opened ended]
  exact congrArg (Prod.mk _) closed

/-- A guest that stores words, reads a public one and asks a region that only loads goes on from
a state in which nothing tells what happened in the region. -/
theorem run_asking {α : Type} {s : State} {first : UInt32} {words rest : List Word}
    {v place : Word} {name : String} {find : Word → Program Word} {f : Word → Word → Program α}
    (running : s.terminal = none) (outside : s.sandbox.frames = [])
    (fits : first.toNat + words.length ≤ UInt32.size)
    (tape : (s.tapes.tape .pub).remaining = v :: rest)
    (target : s.registry.checkTarget name = .ok ())
    (loads : (find v).Loads (s.memory.storeFrom first 0 words).word place) :
    ∃ s', (do
        storeWords first words
        let v ← request (.input .pub)
        let place ← phantom name (find v)
        f v place : Program α).run s = (f v place).run s' ∧
      s'.terminal = none ∧ s'.sandbox.frames = [] ∧
      s'.memory.word = (s.memory.storeFrom first 0 words).word ∧
      s'.constraints = s.constraints ∧ s'.context = s.context ∧
      s'.trace = (s.trace.pushStores first 0 words).push .wasmInput [1] (some v) := by
  let s₁ := s.afterStoring first 0 words
  let s₂ := s₁.afterReading .pub 1 1
  have store : (storeWords first words).run s = (.returned (), s₁) :=
    run_storeFrom running outside fits
  have read : (request (.input .pub)).run s₁ = (.returned v, s₂) :=
    run_request_ok (State.readInput_next (s := s₁) running outside tape)
  obtain ⟨k, search⟩ := loads.run_phantom (s := s₂) running outside rfl target
  refine ⟨s₂.afterLoads k, ?_, running, outside, rfl, rfl, rfl, ?_⟩
  · rw [run_bind_returned store, run_bind_returned read, run_bind_returned search]
  · have taken : (s₁.tapes.tape .pub).remaining.take 1 = [v] := by
      rw [show s₁.tapes = s.tapes from rfl, tape]
      rfl
    simp only [s₂, State.afterLoads, State.afterReading, taken]
    rfl

end Program

end SealedRun
