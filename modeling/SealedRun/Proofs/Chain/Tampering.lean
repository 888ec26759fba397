import SealedRun.Proofs.Chain.Accepted
import SealedRun.Proofs.Trace.Bytes

/-! Changes to one segment of an accepted chain. The checker goes through the segments in order and
then through the links, and all of them but the changed one are right; so it reports the change at
the place where it was made. What is hashed is protected as far as the hash tells the old bytes from
the new ones. -/
namespace SealedRun

/-- The two messages do not collide. -/
def Sha256.TellsApart (m m' : Bytes) : Prop := m ≠ m' → sha256 m ≠ sha256 m'

namespace Chain

variable {place i : Nat} {seg seg' : Segment} {segs : List Segment} {f : ChainFault}

theorem checkSegment_misplaced (h : seg.segmentId.toNat ≠ place) :
    checkSegment place seg = .error (.misplaced seg.segmentId place) := by
  rw [checkSegment, if_pos h]

theorem checkSegment_context (hi : seg.segmentId.toNat = place)
    (h : contextDigest seg.contextOutputs ≠ seg.contextDigest) :
    checkSegment place seg = .error (.contextDigest place) := by
  rw [checkSegment, if_neg (not_not.mpr hi), if_pos h]

theorem checkSegment_trace (hi : seg.segmentId.toNat = place)
    (hc : contextDigest seg.contextOutputs = seg.contextDigest)
    (h : seg.trace.digest ≠ seg.traceDigest) :
    checkSegment place seg = .error (.traceDigest place) := by
  rw [checkSegment, if_neg (not_not.mpr hi), if_neg (not_not.mpr hc), if_pos h]

/-- The one segment that does not stand in its place is reported. -/
theorem checkSegments_set (stands : ∀ j (h : j < segs.length), segs[j].Stands (place + j))
    (hi : i < segs.length) (bad : checkSegment (place + i) seg' = .error f) :
    checkSegments place (segs.set i seg') = .error f := by
  induction segs generalizing place i with
  | nil => exact absurd hi (Nat.not_lt_zero i)
  | cons seg segs ih =>
    cases i with
    | zero =>
      rw [List.set_cons_zero, checkSegments, show checkSegment place seg' = .error f from bad]
    | succ i =>
      have first : checkSegment place seg = .ok () :=
        checkSegment_iff.mpr (stands 0 (Nat.zero_lt_succ _))
      have rest : ∀ j (h : j < segs.length), segs[j].Stands (place + 1 + j) := by
        intro j h
        rw [Nat.add_assoc, Nat.add_comm 1 j]
        exact stands (j + 1) (Nat.succ_lt_succ h)
      rw [List.set_cons_succ, checkSegments, first]
      refine ih rest (Nat.lt_of_succ_lt_succ hi) ?_
      rwa [Nat.add_assoc, Nat.add_comm 1 i]

/-- The first link that does not hold is reported. -/
theorem checkLinks_set (links : segs.IsChain Continues) (hi : i + 1 < segs.length)
    (broken : ¬ Continues segs[i] seg') :
    checkLinks (segs.set (i + 1) seg') = .error (.broken seg'.segmentId segs[i].segmentId) := by
  induction segs generalizing i with
  | nil => exact absurd hi (Nat.not_lt_zero _)
  | cons prev segs ih =>
    cases segs with
    | nil => simp at hi
    | cons next rest =>
      cases i with
      | zero => exact if_neg broken
      | succ i =>
        obtain ⟨link, links⟩ := List.isChain_cons_cons.mp links
        have later := ih links (Nat.lt_of_succ_lt_succ hi) broken
        simp only [List.set_cons_succ] at later ⊢
        rw [checkLinks, if_pos link]
        exact later

theorem verify_set (stands : ∀ j (h : j < segs.length), segs[j].Stands j) (hi : i < segs.length)
    (bad : checkSegment i seg' = .error f) : verify (segs.set i seg') = .error f := by
  have found : checkSegments 0 (segs.set i seg') = .error f := by
    apply checkSegments_set _ hi
    · rwa [Nat.zero_add]
    · simpa only [Nat.zero_add] using stands
  rw [verify, found]

theorem verify_set_link (stands : ∀ j (h : j < segs.length), segs[j].Stands j)
    (links : segs.IsChain Continues) (hi : i + 1 < segs.length) (stands' : seg'.Stands (i + 1))
    (broken : ¬ Continues segs[i] seg') :
    verify (segs.set (i + 1) seg') = .error (.broken seg'.segmentId segs[i].segmentId) := by
  have all : checkSegments 0 (segs.set (i + 1) seg') = .ok () := by
    refine checkSegments_iff.mpr fun j hj => ?_
    rw [List.length_set] at hj
    rw [Nat.zero_add, List.getElem_set]
    by_cases here : i + 1 = j
    · rw [if_pos here, ← here]
      exact stands'
    · rw [if_neg here]
      exact stands j hj
  rw [verify, all]
  exact checkLinks_set links hi broken

end Chain

/-- Whoever changes one field of one segment of an accepted chain is found out: a number, a digest
handed out, the slots handed out, the trace or its digest by the check of that segment, and the
slots or the digest handed in by the link to the segment before it. Slots and traces that differ
are hashed as different byte strings; it is for these two strings that the hash must not collide. -/
theorem tampering_reported {segs : List Segment} (accepted : Chain.verify segs = .ok ()) {i : Nat}
    (hi : i < segs.length) :
    let seg := segs[i]
    let verdict (seg' : Segment) := Chain.verify (segs.set i seg')
    (∀ id ≠ seg.segmentId, verdict { seg with segmentId := id } = .error (.misplaced id i)) ∧
    (∀ slots ≠ seg.contextOutputs,
      contextBytes seg.contextOutputs ≠ contextBytes slots ∧
      (Sha256.TellsApart (contextBytes seg.contextOutputs) (contextBytes slots) →
        verdict { seg with contextOutputs := slots } = .error (.contextDigest i))) ∧
    (∀ digest ≠ seg.contextDigest,
      verdict { seg with contextDigest := digest } = .error (.contextDigest i)) ∧
    (∀ trace ≠ seg.trace, seg.trace.Countable → trace.Countable →
      seg.trace.bytes ≠ trace.bytes ∧
      (Sha256.TellsApart seg.trace.bytes trace.bytes →
        verdict { seg with trace } = .error (.traceDigest i))) ∧
    (∀ digest ≠ seg.traceDigest,
      verdict { seg with traceDigest := digest } = .error (.traceDigest i)) ∧
    (0 < i →
      (∀ slots ≠ seg.contextInputs, verdict { seg with contextInputs := slots } =
        .error (.broken seg.segmentId segs[i - 1].segmentId)) ∧
      ∀ digest ≠ seg.preContextDigest, verdict { seg with preContextDigest := digest } =
        .error (.broken seg.segmentId segs[i - 1].segmentId)) := by
  intro seg verdict
  obtain ⟨stands, links⟩ := Chain.verify_iff.mp accepted
  have found {seg' : Segment} {f : ChainFault} :
      Chain.checkSegment i seg' = .error f → verdict seg' = .error f := Chain.verify_set stands hi
  obtain ⟨id_eq, context_eq, trace_eq⟩ : seg.Stands i := stands i hi
  refine ⟨?_, ?_, ?_, ?_, ?_, ?_⟩
  · intro id other
    refine found (Chain.checkSegment_misplaced fun same => other ?_)
    exact UInt32.toNat_inj.mp (same.trans id_eq.symm)
  · intro slots other
    have differ : contextBytes seg.contextOutputs ≠ contextBytes slots := fun same =>
      other (wordBytes_injective same).symm
    refine ⟨differ, fun apart => found (Chain.checkSegment_context id_eq fun same => ?_)⟩
    exact apart differ (context_eq.symm.trans same.symm)
  · intro digest other
    exact found (Chain.checkSegment_context id_eq fun same => other (same.symm.trans context_eq.symm))
  · intro trace other held held'
    have differ : seg.trace.bytes ≠ trace.bytes := fun same =>
      other (Trace.bytes_injective held held' same).symm
    refine ⟨differ, fun apart => found (Chain.checkSegment_trace id_eq context_eq.symm fun same => ?_)⟩
    exact apart differ (trace_eq.symm.trans same.symm)
  · intro digest other
    exact found (Chain.checkSegment_trace id_eq context_eq.symm fun same =>
      other (same.symm.trans trace_eq.symm))
  · intro later
    obtain ⟨i, rfl⟩ := Nat.exists_eq_succ_of_ne_zero (Nat.ne_of_gt later)
    obtain ⟨digest_eq, slots_eq⟩ := links.getElem i hi
    refine ⟨fun slots other => ?_, fun digest other => ?_⟩
    · refine Chain.verify_set_link stands links hi ⟨id_eq, context_eq, trace_eq⟩ fun link => ?_
      exact other (link.2.symm.trans slots_eq)
    · refine Chain.verify_set_link stands links hi ⟨id_eq, context_eq, trace_eq⟩ fun link => ?_
      exact other (link.1.symm.trans digest_eq)

/-- Two segments as one run leaves them. -/
def honestPair : List Segment :=
  [.idle 0 .first [7] [8] (contextDigest [7]), .idle 1 .last [8] [] (contextDigest [8])]

/-- A slot that was never written and an event that never happened are noticed, and so is a slot
that was never handed over. -/
theorem tampering_reported_pair :
    let last := Segment.idle 1 .last [8] [] (contextDigest [8])
    let logged : Trace := Trace.empty.push .log [5] none
    Chain.verify honestPair = .ok () ∧ 1 < honestPair.length ∧
      Chain.verify (honestPair.set 1 { last with contextOutputs := [9] }) =
        .error (.contextDigest 1) ∧
      Chain.verify (honestPair.set 1 { last with trace := logged }) = .error (.traceDigest 1) ∧
      Chain.verify (honestPair.set 1 { last with contextInputs := [9] }) = .error (.broken 1 0) := by
  intro last logged
  have accepted : Chain.verify honestPair = .ok () := by
    refine Chain.verify_iff.mpr ⟨fun i h => ?_, .cons_cons ⟨rfl, rfl⟩ (.singleton _)⟩
    match i, h with
    | 0, _ => exact ⟨rfl, rfl, rfl⟩
    | 1, _ => exact ⟨rfl, rfl, rfl⟩
  have inside : 1 < honestPair.length := by decide
  obtain ⟨-, written, -, traced, -, handed⟩ := tampering_reported accepted inside
  have counted : logged.Countable := by
    intro e he
    rw [List.mem_singleton.mp he]
    show 1 < UInt64.size
    decide
  have slots_apart : sha256 (contextBytes []) ≠ sha256 (contextBytes [9]) := by decide +kernel
  have events_apart : sha256 Trace.empty.bytes ≠ sha256 logged.bytes := by decide +kernel
  refine ⟨accepted, inside, ?_, ?_, ?_⟩
  · exact (written [9] (show [9] ≠ [] by decide)).2 fun _ => slots_apart
  · exact (traced logged (show logged ≠ .empty by decide) nofun counted).2 fun _ => events_apart
  · exact (handed Nat.one_pos).1 [9] (show [9] ≠ [8] by decide)

end SealedRun
