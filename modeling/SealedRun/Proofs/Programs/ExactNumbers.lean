import Mathlib.Data.Nat.Fib.Basic
import SealedRun.Programs.Fibonacci
import SealedRun.Proofs.Continuation.Alone
import SealedRun.Proofs.Guest.Framing

/-! Fibonacci numbers in words. The loop adds modulo `2 ^ 64` and gives every number modulo
`2 ^ 64`, wherever it started to wrap; the guest lets an index through just if its number fits in a
word, so what it publishes is the number itself. -/
namespace SealedRun

/-- The state once a word is noted. -/
def State.afterNoting (s : State) (w : Word) : State :=
  { s with step := s.step + 1, trace := s.trace.push .log [w] none }

namespace Fibonacci

/-- Two neighbours of the sequence stay neighbours, modulo `2 ^ 64`. -/
theorem advance_fib (steps m : Nat) :
    advance steps (UInt64.ofNat (Nat.fib m)) (UInt64.ofNat (Nat.fib (m + 1))) =
      UInt64.ofNat (Nat.fib (m + steps)) := by
  induction steps generalizing m with
  | zero => rfl
  | succ steps ih =>
    have next : UInt64.ofNat (Nat.fib m) + UInt64.ofNat (Nat.fib (m + 1)) =
        UInt64.ofNat (Nat.fib (m + 1 + 1)) := by
      rw [← UInt64.ofNat_add, Nat.fib_add_two]
    rw [advance, next, ih, Nat.add_right_comm, Nat.add_assoc]

theorem number_eq (n : Word) : number n = UInt64.ofNat (Nat.fib n.toNat) := by
  have loop := advance_fib n.toNat 0
  rw [Nat.zero_add, Nat.zero_add] at loop
  exact loop

theorem toNat_number (n : Word) : (number n).toNat = Nat.fib n.toNat % 2 ^ 64 := by
  rw [number_eq, UInt64.toNat_ofNat']

/-- The greatest index is the last one whose number fits. -/
theorem le_maxIndex_iff (n : Word) : n ≤ maxIndex ↔ Nat.fib n.toNat < 2 ^ 64 := by
  have last : Nat.fib 93 < 2 ^ 64 := by decide +kernel
  have beyond : 2 ^ 64 ≤ Nat.fib 94 := by decide +kernel
  rw [UInt64.le_iff_toNat_le]
  constructor
  · intro small
    exact Nat.lt_of_le_of_lt (Nat.fib_mono small) last
  · intro fits
    refine Nat.le_of_not_lt fun large => absurd fits (Nat.not_lt_of_le ?_)
    exact Nat.le_trans beyond (Nat.fib_mono large)

/-- What the guest does with an index. -/
def publish (n : Word) : Program Word := do
  Program.request (.require (n ≤ maxIndex))
  Program.request (.log n)
  Program.request (.output (number n))
  return number n

section Publish

variable {n : Word} {s : State} (running : s.terminal = none) (outside : s.sandbox.frames = [])
include running outside

theorem run_publish_small (small : n ≤ maxIndex) :
    (publish n).run s =
      (.returned (number n), (s.afterRequiring.afterNoting n).afterWriting [number n]) := by
  have noted : (Program.request (.log n)).run s.afterRequiring =
      (.returned (), s.afterRequiring.afterNoting n) :=
    Program.run_request_ok (State.logWord_outside (s := s.afterRequiring) running outside n)
  have output : (Program.request (.output (number n))).run (s.afterRequiring.afterNoting n) =
      (.returned (), (s.afterRequiring.afterNoting n).afterWriting [number n]) :=
    Program.run_request_ok
      (State.writeOutput_outside (s := s.afterRequiring.afterNoting n) running outside _)
  rw [publish, decide_eq_true small,
    Program.run_bind_returned (Program.run_require_true running outside),
    Program.run_bind_returned noted, Program.run_bind_returned output]
  rfl

theorem run_publish_large (large : ¬ n ≤ maxIndex) :
    (publish n).run s = (.failed (.violated s.constraints.checked),
      (Call.require false).refused s (.violated s.constraints.checked)) := by
  rw [publish, decide_eq_false large]
  exact Program.run_bind_failed (Program.run_require_false running outside)

end Publish

/-- The state in which the guest has read the index. -/
def informed (registry : Registry) (n : Word) (pub priv : List Word) : State :=
  (State.fresh registry ⟨n :: pub, priv⟩).afterReading .pub 1 1

theorem run_main (registry : Registry) (n : Word) (pub priv : List Word) :
    main.run (.fresh registry ⟨n :: pub, priv⟩) =
      (publish n).run (informed registry n pub priv) := rfl

/-- The trace of a run that publishes the number of `n`. -/
def published (n : Word) : Trace :=
  ⟨[⟨0, .wasmInput, [1], some n⟩, ⟨1, .require, [1], none⟩, ⟨2, .log, [n], none⟩,
    ⟨3, .wasmOutput, [number n], none⟩]⟩

/-- The segment of a run that publishes the number of `n`. -/
def segment (n : Word) : Segment :=
  .alone 4 [n, number n] [number n] (published n) 1 (Codec.uint64.encode (number n))

theorem execute_small {n : Word} (small : n ≤ maxIndex) (pub priv : List Word) :
    Host.plain.execute guest ⟨n :: pub, priv⟩ [] = .returned ⟨number n, segment n⟩ := by
  refine Host.execute_sealed fun registry => ?_
  let s := informed registry n pub priv
  refine ⟨(s.afterRequiring.afterNoting n).afterWriting [number n], ?_, rfl⟩
  exact (run_main registry n pub priv).trans (run_publish_small rfl rfl small)

theorem execute_large {n : Word} (large : ¬ n ≤ maxIndex) (pub priv : List Word) :
    Host.plain.execute guest ⟨n :: pub, priv⟩ [] = .failed (.violated 0) := by
  refine Host.execute_failed fun registry => ?_
  exact congrArg Prod.fst ((run_main registry n pub priv).trans (run_publish_large rfl rfl large))

/-- Every index gives its Fibonacci number modulo `2 ^ 64`, and the guest's bound is exactly where
the numbers leave a word. Under the empty configuration an index leaves a segment just if its number
is below `2 ^ 64`; then that number is returned and published. For any other index the first
requirement fails, and the run has published nothing by then. -/
theorem number_published_exactly :
    (∀ n : Word, (number n).toNat = Nat.fib n.toNat % 2 ^ 64) ∧
    (∀ n : Word, n ≤ maxIndex ↔ Nat.fib n.toNat < 2 ^ 64) ∧
    ∃ h, Host.ofConfig .empty = .ok h ∧ ∀ (n : Word) pub priv,
      let result := h.execute guest ⟨n :: pub, priv⟩ []
      ((∃ f, result = .returned f) ↔ Nat.fib n.toNat < 2 ^ 64) ∧
      (∀ f, result = .returned f → f.output.toNat = Nat.fib n.toNat ∧
        f.segment.outputs = [f.output] ∧ f.segment.instanceWords = [n, f.output]) ∧
      (2 ^ 64 ≤ Nat.fib n.toNat → result = .failed (.violated 0) ∧
        ∀ c s, Continuation.open? h guest 1 [] = .ok c → c.start ⟨n :: pub, priv⟩ = .returned s →
          let left := ((guest.main s.segmentId).run s).2
          left.outputs = [] ∧ left.instanceWords = [n] ∧ left.trace.count .wasmOutput = 0) := by
  refine ⟨toNat_number, le_maxIndex_iff, .plain, Host.ofConfig_empty, fun n pub priv => ?_⟩
  intro result
  by_cases small : n ≤ maxIndex
  · have fits := (le_maxIndex_iff n).mp small
    have returned : result = .returned ⟨number n, segment n⟩ := execute_small small pub priv
    have exactly : (number n).toNat = Nat.fib n.toNat := by
      rw [toNat_number, Nat.mod_eq_of_lt fits]
    rw [returned]
    refine ⟨iff_of_true ⟨_, rfl⟩ fits, ?_, fun beyond => absurd fits (Nat.not_lt_of_le beyond)⟩
    rintro f ⟨⟩
    exact ⟨exactly, rfl, rfl⟩
  · have beyond := mt (le_maxIndex_iff n).mpr small
    have failed : result = .failed (.violated 0) := execute_large small pub priv
    rw [failed]
    refine ⟨iff_of_false nofun beyond, nofun, fun _ => ⟨rfl, fun c s opened start => ?_⟩⟩
    obtain ⟨-, registry, rfl⟩ := Continuation.open?_ok opened
    obtain rfl : State.fresh registry ⟨n :: pub, priv⟩ = s := Outcome.returned.inj start
    have ran := run_publish_large (s := informed registry n pub priv) rfl rfl small
    intro left
    have refused : left =
        (Call.require false).refused (informed registry n pub priv) (.violated 0) :=
      congrArg Prod.snd ((run_main registry n pub priv).trans ran)
    rw [refused]
    exact ⟨rfl, rfl, rfl⟩

/-- The last number that fits, the first that does not, and an index far behind. -/
theorem number_published_exactly_boundary :
    (number 94).toNat = Nat.fib 94 % 2 ^ 64 ∧ ∃ h, Host.ofConfig .empty = .ok h ∧
      (∃ f, h.execute guest ⟨[93], []⟩ [] = .returned f ∧
        f.output.toNat = 12200160415121876738 ∧ f.segment.instanceWords = [93, f.output]) ∧
      h.execute guest ⟨[94], []⟩ [] = .failed (.violated 0) ∧
      h.execute guest ⟨[0xffffffffffffffff], []⟩ [] = .failed (.violated 0) := by
  obtain ⟨wrapped, bound, h, read, published⟩ := number_published_exactly
  have last : Nat.fib 93 = 12200160415121876738 := by decide +kernel
  have fits : Nat.fib 93 < 2 ^ 64 := by decide +kernel
  have beyond (n : Word) (large : ¬ n ≤ maxIndex) : 2 ^ 64 ≤ Nat.fib n.toNat :=
    Nat.le_of_not_lt (mt (bound n).mpr large)
  obtain ⟨returned, exactly, -⟩ := published 93 [] []
  obtain ⟨f, ran⟩ := returned.mpr fits
  obtain ⟨value, -, words⟩ := exactly f ran
  exact ⟨wrapped 94, h, read, ⟨f, ran, value.trans last, words⟩,
    ((published 94 [] []).2.2 (beyond 94 (by decide))).1,
    ((published 0xffffffffffffffff [] []).2.2 (beyond _ (by decide))).1⟩

end Fibonacci

end SealedRun
