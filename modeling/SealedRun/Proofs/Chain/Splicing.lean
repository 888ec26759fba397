import SealedRun.Proofs.Continuation.History

/-! Segments taken from accepted chains and put together anew. A segment carries its number, so no
selection but a beginning of the chain is accepted; and a chain can be cut and continued by the end
of another one exactly where the context that is handed over is the same. -/
namespace SealedRun

namespace Chain

variable {segs others : List Segment}

theorem verify_take (accepted : verify segs = .ok ()) (n : Nat) : verify (segs.take n) = .ok () := by
  obtain ⟨stands, links⟩ := verify_iff.mp accepted
  refine verify_iff.mpr ⟨fun i hi => ?_, links.take n⟩
  rw [List.getElem_take]
  exact stands i (by rw [List.length_take] at hi; omega)

/-- Places that count up from zero select a beginning. -/
theorem map_get_of_range {order : List (Fin segs.length)}
    (counted : order.map Fin.val = List.range order.length) :
    order.map segs.get = segs.take order.length := by
  have value (i : Nat) (hi : i < order.length) : (order[i]).val = i := by
    have := List.getElem_of_eq counted (i := i) (by simpa using hi)
    simpa using this
  have short : order.length ≤ segs.length := by
    by_contra long
    have hi : segs.length < order.length := Nat.lt_of_not_le long
    have := (order[segs.length]).isLt
    rw [value _ hi] at this
    exact Nat.lt_irrefl _ this
  apply List.ext_getElem
  · simp [short]
  · intro i hi _
    simp only [List.length_map] at hi
    simp [value i hi]

/-- Of the segments of an accepted chain, every beginning is accepted and nothing else. -/
theorem verify_select_iff (accepted : verify segs = .ok ()) (order : List (Fin segs.length)) :
    verify (order.map segs.get) = .ok () ↔ order.map Fin.val = List.range order.length := by
  constructor
  · intro selected
    have stands := (verify_iff.mp accepted).1
    have stands' := (verify_iff.mp selected).1
    apply List.ext_getElem
    · simp
    · intro i hi _
      rw [List.length_map] at hi
      -- the number of a selected segment says its old place and its new one
      have old := (stands order[i].val order[i].isLt).segmentId
      have new := (stands' i (by simpa using hi)).segmentId
      simp only [List.getElem_map, List.get_eq_getElem] at new
      rw [List.getElem_map, List.getElem_range, ← old, new]
  · intro counted
    rw [map_get_of_range counted]
    exact verify_take accepted order.length

/-- The digest that is handed over says nothing that the slots do not say. -/
theorem continues_iff {prev next : Segment}
    (out : prev.contextDigest = contextDigest prev.contextOutputs)
    (handed : next.preContextDigest = contextDigest next.contextInputs) :
    Continues prev next ↔ prev.contextOutputs = next.contextInputs := by
  refine ⟨And.right, fun same => ⟨?_, same⟩⟩
  rw [out, handed, same]

theorem splice_stands (stands : ∀ i (h : i < segs.length), segs[i].Stands i)
    (stands' : ∀ i (h : i < others.length), others[i].Stands i) {k : Nat} (hs : k ≤ segs.length) :
    ∀ i (h : i < (segs.take k ++ others.drop k).length),
      (segs.take k ++ others.drop k)[i].Stands i := by
  intro i h
  have size : (segs.take k).length = k := List.length_take_of_le hs
  rw [List.length_append, size, List.length_drop] at h
  by_cases before : i < k
  · rw [List.getElem_append_left (by rwa [size]), List.getElem_take]
    exact stands i (by omega)
  · have place : k + (i - (segs.take k).length) = i := by omega
    rw [List.getElem_append_right (by omega), List.getElem_drop]
    simp only [place]
    exact stands' i (by omega)

/-- Only the link at the cut is new. -/
theorem splice_links (links : segs.IsChain Continues) (links' : others.IsChain Continues) {k : Nat}
    (hk : 1 ≤ k) (hs : k ≤ segs.length) (ho : k < others.length) :
    (segs.take k ++ others.drop k).IsChain Continues ↔ Continues segs[k - 1] others[k] := by
  have last : (segs.take k).getLast? = some segs[k - 1] := by
    rw [List.getLast?_take, if_neg (by omega), List.getElem?_eq_getElem (by omega)]
    rfl
  have first : (others.drop k).head? = some others[k] := by
    rw [List.head?_drop, List.getElem?_eq_getElem ho]
  rw [List.isChain_append, last, first, and_iff_right (links.take k),
    and_iff_right (links'.drop k)]
  simp only [Option.mem_def, Option.some.injEq, forall_eq']

/-- Two accepted chains are spliced where the slots handed over agree. -/
theorem verify_splice_iff (accepted : verify segs = .ok ()) (accepted' : verify others = .ok ())
    {k : Nat} (hk : 1 ≤ k) (hs : k ≤ segs.length) (ho : k < others.length) :
    verify (segs.take k ++ others.drop k) = .ok () ↔
      segs[k - 1].contextOutputs = others[k].contextInputs := by
  obtain ⟨stands, links⟩ := verify_iff.mp accepted
  obtain ⟨stands', links'⟩ := verify_iff.mp accepted'
  have out := (stands (k - 1) (by omega)).contextDigest
  have handed : others[k].preContextDigest = contextDigest others[k].contextInputs := by
    refine digest_of_handed stands' links' _ (List.mem_iff_getElem.mpr ⟨k - 1, ?_, ?_⟩)
    · rw [List.length_tail]
      omega
    · simp only [List.getElem_tail, Nat.sub_add_cancel hk]
  rw [verify_iff, and_iff_right (splice_stands stands stands' hs),
    splice_links links links' hk hs ho]
  exact continues_iff out handed

end Chain

namespace Continuation

variable {α β : Type} {c : Continuation α} {c' : Continuation β}

theorem finished_accepted {h : Host} {g : Guest α} {total : Nat} {context : List Word}
    (bounded : total ≤ UInt32.size) (opened : open? h g total context = .ok c)
    (inputs : List SegmentInput) :
    Chain.verify ((c.finished inputs).map Finished.segment) = .ok () := by
  obtain ⟨ready, -, first, -⟩ := open_ready bounded opened
  have linked := (afterAll_reaches ready inputs).linked
  rw [first] at linked
  exact Chain.verify_ok linked

end Continuation

/-- Let two computations leave their segments. Of the segments of one of them a selection is
accepted exactly if it is a beginning: none is left out, repeated or moved. The first `k` segments
of one and the others of the other are accepted together exactly if the slots that the one hands
out there are those that the other was handed. -/
theorem spliced_at_equal_slots {α β : Type} {h h' : Host} {g : Guest α} {g' : Guest β}
    {total total' : Nat} {context context' : List Word} {c : Continuation α} {c' : Continuation β}
    (bounded : total ≤ UInt32.size) (bounded' : total' ≤ UInt32.size)
    (opened : Continuation.open? h g total context = .ok c)
    (opened' : Continuation.open? h' g' total' context' = .ok c')
    (inputs inputs' : List SegmentInput) :
    let segs := (c.finished inputs).map Finished.segment
    let others := (c'.finished inputs').map Finished.segment
    (∀ order : List (Fin segs.length), Chain.verify (order.map segs.get) = .ok () ↔
      order.map Fin.val = List.range order.length) ∧
    ∀ k (_ : 1 ≤ k) (_ : k ≤ segs.length) (_ : k < others.length),
      Chain.verify (segs.take k ++ others.drop k) = .ok () ↔
        segs[k - 1].contextOutputs = others[k].contextInputs := by
  intro segs others
  have accepted := Continuation.finished_accepted bounded opened inputs
  have accepted' := Continuation.finished_accepted bounded' opened' inputs'
  exact ⟨Chain.verify_select_iff accepted,
    fun k hk hs ho => Chain.verify_splice_iff accepted accepted' hk hs ho⟩

/-- The sums 0, 2, 42 and 1, 2, 7: the first segment of one goes with the second of the other. -/
theorem spliced_at_equal_slots_adding :
    let host : Host := ⟨⟨.uniform 1 1, []⟩, .empty fun _ => false⟩
    let c := Continuation.adding
    let c' : Continuation Word := { c with context := [1], preContextDigest := contextDigest [1] }
    let segs := (c.finished [⟨[2], []⟩, ⟨[40], []⟩]).map Finished.segment
    let others := (c'.finished [⟨[1], []⟩, ⟨[5], []⟩]).map Finished.segment
    2 ≤ UInt32.size ∧ Continuation.open? host c.guest 2 [0] = .ok c ∧
      Continuation.open? host c.guest 2 [1] = .ok c' ∧ segs.length = 2 ∧ others.length = 2 ∧
      Chain.verify (segs.take 1 ++ others.drop 1) = .ok () ∧
      ∀ order : List (Fin segs.length), order.map Fin.val = [1, 0] →
        Chain.verify (order.map segs.get) ≠ .ok () := by
  intro host c c' segs others
  have bounded : 2 ≤ UInt32.size := by decide
  have opened : Continuation.open? host c.guest 2 [0] = .ok c := rfl
  have opened' : Continuation.open? host c.guest 2 [1] = .ok c' := rfl
  obtain ⟨select, splice⟩ := spliced_at_equal_slots bounded bounded opened opened'
    [⟨[2], []⟩, ⟨[40], []⟩] [⟨[1], []⟩, ⟨[5], []⟩]
  have two : segs.length = 2 := by decide +kernel
  have two' : others.length = 2 := by decide +kernel
  refine ⟨bounded, opened, opened', two, two', ?_, fun order swapped accepted => ?_⟩
  · have begun : 1 ≤ segs.length := by omega
    have left : 1 < others.length := by omega
    have handed : segs[0]?.map Segment.contextOutputs = others[1]?.map Segment.contextInputs := by
      decide +kernel
    rw [List.getElem?_eq_getElem begun, List.getElem?_eq_getElem left] at handed
    exact (splice 1 (Nat.le_refl 1) begun left).mpr (Option.some.inj handed)
  · have counted := (select order).mp accepted
    have size : order.length = 2 := by simpa using congrArg List.length swapped
    rw [swapped, size] at counted
    exact absurd counted (by decide)

end SealedRun
