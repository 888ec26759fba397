import Mathlib.Data.Nat.Prime.Basic
import SealedRun.Programs.Factors
import SealedRun.Proofs.Continuation.Alone
import SealedRun.Proofs.Guest.Framing

/-! Knowing factors without telling them. The guest takes two private numbers for factors of the
public one and looks at them in a fixed order, so there is one way at most in which a private tape
can fail. A number has a tape that is accepted just if it is composite, and from what is published
nobody learns which factors were on it. -/
namespace SealedRun

namespace Factors

/-- The private words begin with two numbers above one whose product is `n`. -/
def Witnessed (n : Word) (priv : List Word) : Prop :=
  ∃ p q rest, priv = p :: q :: rest ∧ 1 < p ∧ 1 < q ∧ p.toNat * q.toNat = n.toNat

/-- The trace of a run that accepts the factors. -/
def accepted (n p q : Word) : Trace :=
  ⟨[⟨0, .wasmInput, [1], some n⟩, ⟨1, .wasmInput, [0], some p⟩, ⟨2, .wasmInput, [0], some q⟩,
    ⟨3, .require, [1], none⟩, ⟨4, .require, [1], none⟩, ⟨5, .wasmOutput, [n], none⟩]⟩

/-- The segment of a run that accepts the factors. They are in its trace and nowhere else. -/
def segment (n p q : Word) : Segment :=
  .alone 6 [n, n] [n] (accepted n p q) 2 (Codec.uint64.encode n)

/-- What comes of `n` with these private words. -/
def verdict (n : Word) : List Word → Outcome (Finished Word)
  | [] => .failed (.inputExhausted .priv 0)
  | [_] => .failed (.inputExhausted .priv 1)
  | p :: q :: _ =>
    if 1 < p ∧ 1 < q then
      if p.toNat * q.toNat = n.toNat then .returned ⟨n, segment n p q⟩ else .failed (.violated 1)
    else .failed (.violated 0)

/-- A product that exceeds a word is no word's number. -/
theorem product?_eq_some {p q n : Word} :
    product? p q = some n ↔ p.toNat * q.toNat = n.toNat := by
  rw [product?]
  split
  case isTrue fits =>
    rw [Option.some.injEq, ← UInt64.toNat_inj, UInt64.toNat_mul]
    exact iff_of_eq (congrArg (· = n.toNat) (Nat.mod_eq_of_lt fits))
  case isFalse exceeds =>
    refine iff_of_false nofun fun same => exceeds ?_
    rw [same]
    exact n.toNat_lt

/-- What the guest does once it has read the numbers. -/
def check (n p q : Word) : Program Word := do
  Program.request (.require (1 < p && 1 < q))
  Program.request (.require (product? p q == some n))
  Program.request (.output n)
  return n

section Check

variable {n p q : Word} {s : State} (running : s.terminal = none) (outside : s.sandbox.frames = [])
include running outside

theorem run_check_small (small : ¬ (1 < p ∧ 1 < q)) :
    ((check n p q).run s).1 = .failed (.violated s.constraints.checked) := by
  have stated : (decide (1 < p) && decide (1 < q)) = false := by
    rwa [← Bool.decide_and, decide_eq_false_iff_not]
  rw [check, stated, Program.run_bind_failed (Program.run_require_false running outside)]

theorem run_check_large (large : 1 < p ∧ 1 < q) :
    (check n p q).run s = (do
      Program.request (.require (product? p q == some n))
      Program.request (.output n)
      return n : Program Word).run s.afterRequiring := by
  have stated : (decide (1 < p) && decide (1 < q)) = true := by
    rwa [← Bool.decide_and, decide_eq_true_iff]
  rw [check, stated, Program.run_bind_returned (Program.run_require_true running outside)]

theorem run_check_other (large : 1 < p ∧ 1 < q) (other : p.toNat * q.toNat ≠ n.toNat) :
    ((check n p q).run s).1 = .failed (.violated (s.constraints.checked + 1)) := by
  have stated : (product? p q == some n) = false :=
    beq_eq_false_iff_ne.mpr (mt product?_eq_some.mp other)
  have refused := Program.run_require_false (s := s.afterRequiring) running outside
  rw [run_check_large running outside large, stated, Program.run_bind_failed refused]
  rfl

theorem run_check_factors (large : 1 < p ∧ 1 < q) (factors : p.toNat * q.toNat = n.toNat) :
    (check n p q).run s = (.returned n, s.afterRequiring.afterRequiring.afterWriting [n]) := by
  have stated : (product? p q == some n) = true := beq_iff_eq.mpr (product?_eq_some.mpr factors)
  have held := Program.run_require_true (s := s.afterRequiring) running outside
  have output : (Program.request (.output n)).run s.afterRequiring.afterRequiring =
      (.returned (), s.afterRequiring.afterRequiring.afterWriting [n]) :=
    Program.run_request_ok
      (State.writeOutput_outside (s := s.afterRequiring.afterRequiring) running outside n)
  rw [run_check_large running outside large, stated, Program.run_bind_returned held,
    Program.run_bind_returned output]
  rfl

end Check

/-- The state in which the guest has read the numbers. -/
def informed (registry : Registry) (n p q : Word) (pub rest : List Word) : State :=
  ((State.fresh registry ⟨n :: pub, p :: q :: rest⟩).afterReading .pub 1 1).afterReading .priv 2 2

theorem run_main (registry : Registry) (n p q : Word) (pub rest : List Word) :
    main.run (.fresh registry ⟨n :: pub, p :: q :: rest⟩) =
      (check n p q).run (informed registry n p q pub rest) := rfl

/-- The private tape alone decides what comes of `n`. -/
theorem execute_eq_verdict (n : Word) (pub priv : List Word) :
    Host.plain.execute guest ⟨n :: pub, priv⟩ [] = verdict n priv := by
  match priv with
  | [] => exact Host.execute_failed fun _ => rfl
  | [p] => exact Host.execute_failed fun _ => rfl
  | p :: q :: rest =>
    rw [verdict]
    split
    case isTrue large =>
      split
      case isTrue factors =>
        refine Host.execute_sealed fun registry => ?_
        let s := informed registry n p q pub rest
        refine ⟨s.afterRequiring.afterRequiring.afterWriting [n], ?_, rfl⟩
        exact (run_main registry n p q pub rest).trans (run_check_factors rfl rfl large factors)
      case isFalse other =>
        refine Host.execute_failed fun registry => ?_
        exact (congrArg Prod.fst (run_main registry n p q pub rest)).trans
          (run_check_other rfl rfl large other)
    case isFalse small =>
      refine Host.execute_failed fun registry => ?_
      exact (congrArg Prod.fst (run_main registry n p q pub rest)).trans
        (run_check_small rfl rfl small)

/-- Accepted are exactly two factors above one, and then the segment is known but for them. -/
theorem verdict_returned_iff {n : Word} {priv : List Word} {f : Finished Word} :
    verdict n priv = .returned f ↔ ∃ p q rest, priv = p :: q :: rest ∧ 1 < p ∧ 1 < q ∧
      p.toNat * q.toNat = n.toNat ∧ f = ⟨n, segment n p q⟩ := by
  match priv with
  | [] => exact iff_of_false nofun (by rintro ⟨p, q, rest, ⟨⟩, -⟩)
  | [p] => exact iff_of_false nofun (by rintro ⟨p, q, rest, ⟨⟩, -⟩)
  | p :: q :: rest =>
    rw [verdict]
    constructor
    · intro returned
      split at returned
      · rename_i large
        split at returned
        · rename_i factors
          cases returned
          exact ⟨p, q, rest, rfl, large.1, large.2, factors, rfl⟩
        · cases returned
      · cases returned
    · rintro ⟨p, q, rest, ⟨⟩, hp, hq, factors, rfl⟩
      rw [if_pos ⟨hp, hq⟩, if_pos factors]

/-- A composite number below a power of two has factors there. -/
theorem witnessed_iff_composite {n : Word} :
    (∃ priv, Witnessed n priv) ↔ 1 < n.toNat ∧ ¬ n.toNat.Prime := by
  constructor
  · rintro ⟨-, p, q, -, rfl, hp, hq, factors⟩
    have hp : 1 < p.toNat := UInt64.lt_iff_toNat_lt.mp hp
    have hq : 1 < q.toNat := UInt64.lt_iff_toNat_lt.mp hq
    rw [← factors]
    exact ⟨Nat.lt_of_lt_of_le hp (Nat.le_mul_of_pos_right _ (Nat.zero_lt_of_lt hq)),
      Nat.not_prime_mul (Nat.ne_of_gt hp) (Nat.ne_of_gt hq)⟩
  · rintro ⟨large, composite⟩
    obtain ⟨a, b, ha, hb, factors⟩ := (Nat.not_prime_iff_exists_mul_eq large).mp composite
    have size := n.toNat_lt
    have word {k : Nat} (h : k < n.toNat) : (UInt64.ofNat k).toNat = k :=
      UInt64.toNat_ofNat_of_lt' (Nat.lt_trans h size)
    -- neither factor is less than two, since the other one is less than `n`
    have proper {j k : Nat} (hj : j < n.toNat) (hk : k < n.toNat) (h : j * k = n.toNat) :
        1 < UInt64.ofNat j := by
      rw [UInt64.lt_iff_toNat_lt, word hj]
      show 1 < j
      rcases j with - | - | j <;> omega
    exact ⟨_, UInt64.ofNat a, UInt64.ofNat b, [], rfl, proper ha hb factors,
      proper hb ha (Nat.mul_comm a b ▸ factors), by rw [word ha, word hb, factors]⟩

/-- Under the empty configuration a public number with any private tape leaves a segment just if the
tape begins with two numbers above one whose exact product it is; any other tape fails in one way,
for words that are missing, for a number that is not above one, or for the product. So there is a
tape for a number just if the number is composite, and the segments for all its tapes are the same
except for the trace and its digest: they publish the number twice and nothing else. -/
theorem factors_shown_and_hidden : ∃ h, Host.ofConfig .empty = .ok h ∧ ∀ n : Word,
    let run pub priv := h.execute guest ⟨n :: pub, priv⟩ []
    (∀ pub priv, (∃ f, run pub priv = .returned f) ↔ Witnessed n priv) ∧
    (∀ pub, run pub [] = .failed (.inputExhausted .priv 0)) ∧
    (∀ pub p, run pub [p] = .failed (.inputExhausted .priv 1)) ∧
    (∀ pub p q rest, p ≤ 1 ∨ q ≤ 1 → run pub (p :: q :: rest) = .failed (.violated 0)) ∧
    (∀ pub p q rest, 1 < p → 1 < q → p.toNat * q.toNat ≠ n.toNat →
      run pub (p :: q :: rest) = .failed (.violated 1)) ∧
    ((∃ pub priv f, run pub priv = .returned f) ↔ 1 < n.toNat ∧ ¬ n.toNat.Prime) ∧
    (∀ pub priv f, run pub priv = .returned f →
      f.output = n ∧ f.segment.instanceWords = [n, n] ∧ f.segment.outputs = [n]) ∧
    ∀ pub pub' priv priv' f f', run pub priv = .returned f → run pub' priv' = .returned f' →
      f'.segment = { f.segment with
        trace := f'.segment.trace
        traceDigest := f'.segment.traceDigest } := by
  refine ⟨.plain, Host.ofConfig_empty, fun n => ?_⟩
  intro run
  have known (pub priv : List Word) : run pub priv = verdict n priv :=
    execute_eq_verdict n pub priv
  have accepted (pub priv : List Word) : (∃ f, run pub priv = .returned f) ↔ Witnessed n priv := by
    simp only [known, verdict_returned_iff, Witnessed]
    exact ⟨fun ⟨_, p, q, rest, front, hp, hq, factors, _⟩ => ⟨p, q, rest, front, hp, hq, factors⟩,
      fun ⟨p, q, rest, front, hp, hq, factors⟩ => ⟨_, p, q, rest, front, hp, hq, factors, rfl⟩⟩
  refine ⟨accepted, fun pub => known pub [], fun pub p => known pub [p], ?_, ?_, ?_, ?_, ?_⟩
  · intro pub p q rest small
    have unfit : ¬ (1 < p ∧ 1 < q) := by
      rwa [not_and_or, UInt64.not_lt, UInt64.not_lt]
    rw [known, verdict, if_neg unfit]
  · intro pub p q rest hp hq other
    rw [known, verdict, if_pos ⟨hp, hq⟩, if_neg other]
  · rw [← witnessed_iff_composite]
    exact ⟨fun ⟨pub, priv, returned⟩ => ⟨priv, (accepted pub priv).mp returned⟩,
      fun ⟨priv, witnessed⟩ => ⟨[], priv, (accepted [] priv).mpr witnessed⟩⟩
  · intro pub priv f returned
    obtain ⟨p, q, rest, -, -, -, -, rfl⟩ := verdict_returned_iff.mp (known pub priv ▸ returned)
    exact ⟨rfl, rfl, rfl⟩
  · intro pub pub' priv priv' f f' returned returned'
    obtain ⟨p, q, rest, -, -, -, -, rfl⟩ := verdict_returned_iff.mp (known pub priv ▸ returned)
    obtain ⟨p', q', rest', -, -, -, -, rfl⟩ :=
      verdict_returned_iff.mp (known pub' priv' ▸ returned')
    rfl

/-- The factors 7 and 13 in either order leave segments that differ only in their traces. The word
`2 ^ 63` doubled comes round to zero, but it is no factor of zero. -/
theorem factors_shown_and_hidden_ninety_one :
    ∃ h, Host.ofConfig .empty = .ok h ∧ (∃ f f',
      h.execute guest ⟨[91], [7, 13]⟩ [] = .returned f ∧
      h.execute guest ⟨[91, 5], [13, 7, 2]⟩ [] = .returned f' ∧
      f.segment.instanceWords = [91, 91] ∧ f'.segment = { f.segment with
        trace := f'.segment.trace
        traceDigest := f'.segment.traceDigest }) ∧
      h.execute guest ⟨[91], [1, 91]⟩ [] = .failed (.violated 0) ∧
      h.execute guest ⟨[0], [0x8000000000000000, 2]⟩ [] = .failed (.violated 1) ∧
      ¬ ∃ pub priv f, h.execute guest ⟨97 :: pub, priv⟩ [] = .returned f := by
  obtain ⟨h, read, shown⟩ := factors_shown_and_hidden
  obtain ⟨accepted, -, -, small, -, -, published, alike⟩ := shown 91
  obtain ⟨-, -, -, -, other, -⟩ := shown 0
  obtain ⟨-, -, -, -, -, composite, -⟩ := shown 97
  obtain ⟨f, first⟩ := (accepted [] [7, 13]).mpr ⟨7, 13, [], rfl, by decide, by decide, by decide⟩
  obtain ⟨f', second⟩ :=
    (accepted [5] [13, 7, 2]).mpr ⟨13, 7, [2], rfl, by decide, by decide, by decide⟩
  refine ⟨h, read,
    ⟨f, f', first, second, (published _ _ f first).2.1, alike _ _ _ _ f f' first second⟩,
    small [] 1 91 [] (by decide), other [] _ 2 [] (by decide) (by decide) (by decide), ?_⟩
  intro witnessed
  exact (composite.mp witnessed).2 (by decide +kernel)

end Factors

end SealedRun
