import SealedRun.Proofs.Chain.Accepted

/-! Segments that stand in their places. A chain of them is what the segments of one
computation look like from inside; the checker, which knows only the segments, accepts it. -/
namespace SealedRun

/-- A segment in place `place` of `total` that was handed `context`: its number and position
say so, and its digests are those of what it holds. -/
structure Segment.Placed (total place : Nat) (context : List Word) (seg : Segment) : Prop where
  segmentId : seg.segmentId.toNat = place
  position : seg.position = .ofIndex place total
  contextInputs : seg.contextInputs = context
  preContextDigest : seg.preContextDigest = SealedRun.contextDigest seg.contextInputs
  contextDigest : seg.contextDigest = SealedRun.contextDigest seg.contextOutputs
  traceDigest : seg.traceDigest = seg.trace.digest

namespace Chain

/-- Segments in the places from `place` on, each of which is handed what the one before it
handed out. -/
def Linked (total : Nat) : Nat → List Word → List Segment → Prop
  | _, _, [] => True
  | place, context, seg :: segs =>
    seg.Placed total place context ∧ Linked total (place + 1) seg.contextOutputs segs

variable {total place : Nat} {context : List Word} {seg next : Segment} {segs : List Segment}

/-- The contexts handed in, one for each segment and one for whoever comes behind them. -/
def contexts (context : List Word) (segs : List Segment) : List (List Word) :=
  context :: segs.map Segment.contextOutputs

theorem Linked.placed (h : Linked total place context segs) {j : Nat} (hj : j < segs.length) :
    ∃ handed, (contexts context segs)[j]? = some handed ∧
      segs[j].Placed total (place + j) handed := by
  induction segs generalizing place context j with
  | nil => exact absurd hj (Nat.not_lt_zero j)
  | cons seg segs ih =>
    cases j with
    | zero => exact ⟨context, rfl, h.1⟩
    | succ j =>
      obtain ⟨handed, hc, hp⟩ := ih h.2 (Nat.lt_of_succ_lt_succ hj)
      refine ⟨handed, hc, ?_⟩
      rw [Nat.add_assoc, Nat.add_comm 1 j] at hp
      exact hp

/-- Both digests in a link are taken of the context that is handed over. -/
theorem continues_of_placed (h : seg.Placed total place context)
    (hn : next.Placed total (place + 1) seg.contextOutputs) : Continues seg next := by
  refine ⟨?_, hn.contextInputs.symm⟩
  rw [h.contextDigest, hn.preContextDigest, hn.contextInputs]

theorem Linked.continues (h : Linked total place context segs) : segs.IsChain Continues := by
  induction segs generalizing place context with
  | nil => exact .nil
  | cons seg segs ih =>
    cases segs with
    | nil => exact .singleton seg
    | cons next segs => exact .cons_cons (continues_of_placed h.1 h.2.1) (ih h.2)

theorem verify_ok (h : Linked total 0 context segs) : verify segs = .ok () := by
  refine verify_iff.mpr ⟨fun i hi => ?_, h.continues⟩
  obtain ⟨handed, -, placed⟩ := h.placed hi
  rw [Nat.zero_add] at placed
  exact ⟨placed.segmentId, placed.contextDigest, placed.traceDigest⟩

end Chain

end SealedRun
