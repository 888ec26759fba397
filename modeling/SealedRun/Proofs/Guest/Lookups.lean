import SealedRun.Proofs.Phantom.Transparency
import SealedRun.Proofs.Run.Moves

/-! Programs that look words up. Such a program asks for one word after another, and what it is told
decides where it looks next; whether it runs in a region or outside of regions, it comes to the same
answer, and just the counters and the trace of the loads tell that it ran. -/
namespace SealedRun

/-- From a memory with these words, the program loads at the addresses in their order, does nothing
else and returns `a`. -/
inductive Program.LooksUp {α : Type} (word : UInt32 → Word) :
    Program α → List UInt32 → α → Prop
  | ret {a : α} : LooksUp word (.ret a) [] a
  | load {addr : UInt32} {next : Except ExecutionError Word → Program α} {addrs : List UInt32}
      {a : α} (rest : LooksUp word (next (.ok (word addr))) addrs a) :
      LooksUp word (.call (.load addr) next) (addr :: addrs) a

/-- One event for each word loaded. -/
def Trace.pushLoads (word : UInt32 → Word) (t : Trace) (addrs : List UInt32) : Trace :=
  addrs.foldl (fun t addr => t.push .memoryLoad [addr.toUInt64] (some (word addr))) t

namespace State

/-- The state once the words at these addresses are loaded; inside a region no trace shows it. -/
def afterLookups (s : State) (addrs : List UInt32) : State :=
  { s.afterLoads addrs.length with
    trace := if s.sandbox.isOpen then s.trace else s.trace.pushLoads s.memory.word addrs }

variable {s : State}

theorem afterLookups_nil (s : State) : s.afterLookups [] = s := by
  rw [afterLookups]
  cases s.sandbox.isOpen <;> rfl

theorem afterLookups_cons (s : State) (addr : UInt32) (addrs : List UInt32) :
    (s.afterLookups [addr]).afterLookups addrs = s.afterLookups (addr :: addrs) := by
  have longer (n : Nat) : n + [addr].length + addrs.length = n + (addr :: addrs).length := by
    rw [List.length_singleton, List.length_cons, Nat.add_assoc, Nat.add_comm 1]
  unfold afterLookups afterLoads
  simp only [longer]
  cases s.sandbox.isOpen <;> rfl

theorem afterLookups_inside (inside : s.sandbox.frames ≠ []) (addrs : List UInt32) :
    s.afterLookups addrs = s.afterLoads addrs.length := by
  have isOpen : s.sandbox.isOpen = true := by
    rw [Sandbox.isOpen, Bool.not_eq_true', List.isEmpty_eq_false_iff]
    exact inside
  rw [afterLookups, if_pos isOpen]
  rfl

theorem load_eq (running : s.terminal = none) (addr : UInt32) :
    s.load addr = (.ok (s.memory.word addr), s.afterLookups [addr]) := by
  rw [load_running running, record, afterLookups]
  cases s.sandbox.isOpen <;> rfl

end State

namespace Program

variable {α β : Type} {word : UInt32 → Word} {p : Program α} {addrs more : List UInt32} {a : α}

theorem LooksUp.bind {f : α → Program β} {b : β} (first : p.LooksUp word addrs a)
    (later : (f a).LooksUp word more b) : (p >>= f).LooksUp word (addrs ++ more) b := by
  induction first with
  | ret => exact later
  | load _ ih => exact .load (ih later)

theorem looksUp_request (addr : UInt32) :
    (request (.load addr)).LooksUp word [addr] (word addr) := .load .ret

/-- Looking words up goes well in every state that still runs. -/
theorem LooksUp.run {s : State} (looks : p.LooksUp s.memory.word addrs a)
    (running : s.terminal = none) : p.run s = (.returned a, s.afterLookups addrs) := by
  generalize same : s.memory.word = word at looks
  induction looks generalizing s with
  | ret => rw [State.afterLookups_nil, Program.run]
  | @load addr next addrs a rest ih =>
    have later := ih (s := s.afterLookups [addr]) running same
    rw [State.afterLookups_cons] at later
    rw [run_call, Call.perform, State.load_eq running, same]
    exact later

end Program

end SealedRun
