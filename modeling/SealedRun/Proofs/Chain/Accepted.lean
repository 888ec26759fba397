import Mathlib.Data.List.Chain
import SealedRun.Chain

/-! The chains that the checker accepts. Every digest handed out is recomputed, and every digest
handed in is compared with the one handed out before; so the digests of an accepted chain are
those of its contexts, but for the one that the first segment was handed, which is free. -/
namespace SealedRun

/-- What a segment in place `place` shows by itself: its number says so, and its own digests are
those of what it holds. -/
structure Segment.Stands (place : Nat) (seg : Segment) : Prop where
  segmentId : seg.segmentId.toNat = place
  contextDigest : seg.contextDigest = SealedRun.contextDigest seg.contextOutputs
  traceDigest : seg.traceDigest = seg.trace.digest

namespace Chain

variable {place : Nat} {seg next : Segment} {segs : List Segment}

theorem checkSegment_iff : checkSegment place seg = .ok () ↔ seg.Stands place := by
  unfold checkSegment
  constructor
  · intro h
    by_cases hi : seg.segmentId.toNat ≠ place
    · rw [if_pos hi] at h
      cases h
    · by_cases hc : contextDigest seg.contextOutputs ≠ seg.contextDigest
      · rw [if_neg hi, if_pos hc] at h
        cases h
      · by_cases ht : seg.trace.digest ≠ seg.traceDigest
        · rw [if_neg hi, if_neg hc, if_pos ht] at h
          cases h
        · exact ⟨not_not.mp hi, (not_not.mp hc).symm, (not_not.mp ht).symm⟩
  · rintro ⟨hi, hc, ht⟩
    rw [if_neg (not_not.mpr hi), if_neg (not_not.mpr hc.symm), if_neg (not_not.mpr ht.symm)]

theorem checkSegments_cons :
    checkSegments place (seg :: segs) = .ok () ↔
      seg.Stands place ∧ checkSegments (place + 1) segs = .ok () := by
  rw [checkSegments, ← checkSegment_iff]
  cases hs : checkSegment place seg with
  | error f => simp
  | ok u => simp

/-- The segments are checked one by one. -/
theorem checkSegments_iff :
    checkSegments place segs = .ok () ↔
      ∀ i (h : i < segs.length), segs[i].Stands (place + i) := by
  induction segs generalizing place with
  | nil => exact ⟨fun _ i h => absurd h (Nat.not_lt_zero i), fun _ => rfl⟩
  | cons seg segs ih =>
    rw [checkSegments_cons, ih]
    constructor
    · rintro ⟨first, rest⟩ i h
      cases i with
      | zero => exact first
      | succ i =>
        have := rest i (Nat.lt_of_succ_lt_succ h)
        rwa [Nat.add_assoc, Nat.add_comm 1 i] at this
    · intro all
      refine ⟨all 0 (Nat.zero_lt_succ _), fun i h => ?_⟩
      rw [Nat.add_assoc, Nat.add_comm 1 i]
      exact all (i + 1) (Nat.succ_lt_succ h)

theorem checkLinks_iff : checkLinks segs = .ok () ↔ segs.IsChain Continues := by
  induction segs with
  | nil => simp [checkLinks]
  | cons seg segs ih =>
    cases segs with
    | nil => simp [checkLinks]
    | cons next segs =>
      rw [List.isChain_cons_cons, ← ih, checkLinks]
      by_cases link : Continues seg next
      · rw [if_pos link]
        exact (and_iff_right link).symm
      · rw [if_neg link]
        exact ⟨nofun, fun h => absurd h.1 link⟩

theorem verify_iff :
    verify segs = .ok () ↔
      (∀ i (h : i < segs.length), segs[i].Stands i) ∧ segs.IsChain Continues := by
  have stands := @checkSegments_iff 0 segs
  simp only [Nat.zero_add] at stands
  rw [verify, ← stands, ← checkLinks_iff]
  cases hs : checkSegments 0 segs with
  | error f => simp
  | ok u => simp

/-- Every segment but the first is handed the context of one before it, under its digest. -/
theorem digest_of_handed (stands : ∀ i (h : i < segs.length), segs[i].Stands i)
    (links : segs.IsChain Continues) :
    ∀ seg ∈ segs.tail, seg.preContextDigest = contextDigest seg.contextInputs := by
  intro seg hseg
  obtain ⟨i, hi, rfl⟩ := List.mem_iff_getElem.mp hseg
  have hi' : i + 1 < segs.length := by
    rw [List.length_tail] at hi
    omega
  obtain ⟨digest, handed⟩ := links.getElem i hi'
  rw [List.getElem_tail]
  calc segs[i + 1].preContextDigest
      _ = segs[i].contextDigest := digest.symm
      _ = contextDigest segs[i].contextOutputs := (stands i (Nat.lt_of_succ_lt hi')).contextDigest
      _ = contextDigest segs[i + 1].contextInputs := by rw [handed]

/-- Nothing that is checked of the first segment is about the digest it was handed. -/
theorem verify_first_free {first : Segment} {rest : List Segment}
    (accepted : verify (first :: rest) = .ok ()) (digest : Digest) :
    verify ({ first with preContextDigest := digest } :: rest) = .ok () := by
  obtain ⟨stands, links⟩ := verify_iff.mp accepted
  refine verify_iff.mpr ⟨fun i h => ?_, ?_⟩
  · cases i with
    | zero =>
      obtain ⟨hi, hc, ht⟩ := stands 0 (Nat.zero_lt_succ _)
      exact ⟨hi, hc, ht⟩
    | succ i => exact stands (i + 1) h
  · cases rest with
    | nil => exact .singleton _
    | cons next rest =>
      obtain ⟨link, links⟩ := List.isChain_cons_cons.mp links
      exact .cons_cons link links

end Chain

/-- In an accepted chain the digest that a segment hands out is that of the context it hands out,
and the digest that it was handed is that of the context it was handed, unless it is the first
one: the first may name any digest whatever. -/
theorem accepted_digests {segs : List Segment} (accepted : Chain.verify segs = .ok ()) :
    (∀ seg ∈ segs, seg.contextDigest = contextDigest seg.contextOutputs) ∧
    (∀ seg ∈ segs.tail, seg.preContextDigest = contextDigest seg.contextInputs) ∧
    ∀ first rest, segs = first :: rest → ∀ digest,
      Chain.verify ({ first with preContextDigest := digest } :: rest) = .ok () := by
  obtain ⟨stands, links⟩ := Chain.verify_iff.mp accepted
  refine ⟨fun seg hseg => ?_, Chain.digest_of_handed stands links, ?_⟩
  · obtain ⟨i, hi, rfl⟩ := List.mem_iff_getElem.mp hseg
    exact (stands i hi).contextDigest
  · rintro first rest rfl digest
    exact Chain.verify_first_free accepted digest

/-- A segment that did nothing but hand on a context. -/
def Segment.idle (segmentId : UInt32) (position : Position) (handed handsOut : List Word)
    (digest : Digest) : Segment where
  segmentId
  position
  step := 0
  instanceWords := []
  outputs := []
  contextInputs := handed
  contextOutputs := handsOut
  preContextDigest := digest
  contextDigest := SealedRun.contextDigest handsOut
  trace := .empty
  traceDigest := Trace.empty.digest
  constraints := 0
  output := []

/-- The first segment claims that the context it was handed has a digest of zeros. -/
def forgedPair : List Segment :=
  [.idle 0 .first [7] [8] (.replicate 32 0), .idle 1 .last [8] [] (contextDigest [8])]

theorem forgedPair_accepted : Chain.verify forgedPair = .ok () := by
  refine Chain.verify_iff.mpr ⟨fun i h => ?_, ?_⟩
  · match i, h with
    | 0, _ => exact ⟨rfl, rfl, rfl⟩
    | 1, _ => exact ⟨rfl, rfl, rfl⟩
  · exact .cons_cons ⟨rfl, rfl⟩ (.singleton _)

theorem accepted_digests_pair :
    Chain.verify forgedPair = .ok () ∧
    (∀ seg ∈ forgedPair.tail,
      seg.contextDigest = contextDigest [] ∧ seg.preContextDigest = contextDigest [8]) ∧
    Chain.verify [.idle 0 .first [7] [8] (contextDigest [7]),
      .idle 1 .last [8] [] (contextDigest [8])] = .ok () := by
  obtain ⟨out, handed, free⟩ := accepted_digests forgedPair_accepted
  refine ⟨forgedPair_accepted, fun seg hseg => ?_, free _ _ rfl (contextDigest [7])⟩
  obtain rfl := List.mem_singleton.mp hseg
  exact ⟨out _ (List.mem_of_mem_tail hseg), handed _ hseg⟩

/-- Not every digest in an accepted chain is that of its context. -/
theorem accepted_digests_not_all :
    ¬ ∀ segs, Chain.verify segs = .ok () → ∀ seg ∈ segs,
      seg.preContextDigest = contextDigest seg.contextInputs ∧
      seg.contextDigest = contextDigest seg.contextOutputs := by
  intro all
  have zeros : Vector.replicate 32 0 = contextDigest [7] :=
    (all forgedPair forgedPair_accepted _ (List.mem_cons_self ..)).1
  exact absurd zeros (by decide +kernel)

end SealedRun
