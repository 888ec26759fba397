import SealedRun.Continuation
import SealedRun.Proofs.Chain.Linked
import SealedRun.Proofs.Segment.Projection

/-! The history of one continuation: any number of calls for the next segment, whatever comes
of each of them. A call that fails leaves no mark, and the segments of the others are linked
into a chain. -/
namespace SealedRun

def Outcome.returned? {α : Type} : Outcome α → Option α
  | .returned a => some a
  | .failed _ => none
  | .trapped _ => none

namespace Continuation

variable {α : Type}

/-- What comes of calls for a segment, one for each input. -/
def results (c : Continuation α) : List SegmentInput → List (Outcome (Finished α))
  | [] => []
  | input :: inputs => (c.runSegment input).1 :: (c.runSegment input).2.results inputs

/-- The continuation behind these calls. -/
def afterAll (c : Continuation α) : List SegmentInput → Continuation α
  | [] => c
  | input :: inputs => (c.runSegment input).2.afterAll inputs

/-- The inputs, each with what came of it. -/
def calls (c : Continuation α) (inputs : List SegmentInput) :
    List (SegmentInput × Outcome (Finished α)) := inputs.zip (c.results inputs)

/-- The segments that were finished, with their outputs. -/
def finished (c : Continuation α) (inputs : List SegmentInput) : List (Finished α) :=
  (c.results inputs).filterMap Outcome.returned?

/-- What holds between the calls. -/
structure Ready (c : Continuation α) : Prop where
  total_le : c.total ≤ UInt32.size
  next_le : c.next ≤ c.total
  digest : c.preContextDigest = contextDigest c.context

variable {c : Continuation α} {input : SegmentInput} {inputs : List SegmentInput}
  {f : Finished α}

theorem open?_ok {h : Host} {g : Guest α} {total : Nat} {context : List Word}
    (opened : open? h g total context = .ok c) :
    h.config.schema.validateSequence total = .ok () ∧
      ∃ registry, c = ⟨h.config.schema, g, registry, total, 0, context, contextDigest context⟩ := by
  unfold open? at opened
  cases valid : h.config.schema.validateSequence total with
  | error e =>
    rw [valid] at opened
    cases opened
  | ok u =>
    cases registered : h.registryFor g with
    | error e =>
      rw [valid, registered] at opened
      cases opened
    | ok registry =>
      rw [valid, registered] at opened
      cases opened
      exact ⟨rfl, registry, rfl⟩

theorem open_ready {h : Host} {g : Guest α} {total : Nat} {context : List Word}
    (bounded : total ≤ UInt32.size) (opened : open? h g total context = .ok c) :
    c.Ready ∧ c.total = total ∧ c.next = 0 ∧ c.context = context := by
  obtain ⟨-, registry, rfl⟩ := open?_ok opened
  exact ⟨⟨bounded, Nat.zero_le _, rfl⟩, rfl, rfl, rfl⟩

theorem attempt_returned (h : c.attempt input = .returned f) :
    ∃ s s', c.start input = .returned s ∧
      (c.guest.main s.segmentId).run s = (.returned f.output, s') ∧
      s'.seal (c.guest.codec.encode f.output) c.preContextDigest = .ok f.segment := by
  unfold attempt at h
  cases hs : c.start input with
  | failed e => rw [hs] at h; cases h
  | trapped t => rw [hs] at h; cases h
  | returned s =>
    rw [hs, Outcome.bind] at h
    split at h
    · cases h
    · cases h
    · rename_i output s' hr
      split at h
      · cases h
      · rename_i segment hq
        cases h
        exact ⟨s, s', rfl, hr, hq⟩

theorem attempt_failed {s : State} {e : ExecutionError} (start : c.start input = .returned s)
    (failed : ((c.guest.main s.segmentId).run s).1 = .failed e) : c.attempt input = .failed e := by
  obtain ⟨s', ended⟩ : ∃ s', (c.guest.main s.segmentId).run s = (.failed e, s') :=
    ⟨_, Prod.ext failed rfl⟩
  simp only [attempt, start, Outcome.bind, ended]

theorem attempt_sealed {s s' : State} {output : α} {segment : Segment}
    (start : c.start input = .returned s)
    (ended : (c.guest.main s.segmentId).run s = (.returned output, s'))
    (sealed : s'.seal (c.guest.codec.encode output) c.preContextDigest = .ok segment) :
    c.attempt input = .returned ⟨output, segment⟩ := by
  simp only [attempt, start, Outcome.bind, ended, sealed]

/-- What a returned segment takes over from the continuation. Its number has 32 bits. -/
theorem attempt_takes_over (h : c.attempt input = .returned f) :
    f.segment.segmentId = UInt32.ofNat c.next ∧ f.segment.position = .ofIndex c.next c.total ∧
      f.segment.contextInputs = c.context ∧ f.segment.preContextDigest = c.preContextDigest ∧
      f.segment.contextDigest = contextDigest f.segment.contextOutputs ∧
      f.segment.traceDigest = f.segment.trace.digest := by
  obtain ⟨s, s', start, hr, sealed⟩ := attempt_returned h
  obtain rfl : (c.guest.main s.segmentId |>.run s).2 = s' := congrArg Prod.snd hr
  rw [Program.run_eq_play] at sealed
  obtain ⟨-, given⟩ := State.sealed_play start sealed
  obtain ⟨-, -, -, hseg⟩ := State.seal_ok sealed
  rw [hseg]
  exact ⟨given.segmentId_eq, given.position_eq, given.inputs_eq, rfl, rfl, rfl⟩

theorem attempt_placed (digest : c.preContextDigest = contextDigest c.context)
    (small : c.next < UInt32.size) (h : c.attempt input = .returned f) :
    f.segment.Placed c.total c.next c.context := by
  obtain ⟨number, position, handed, before, after, trace⟩ := attempt_takes_over h
  refine ⟨?_, position, handed, ?_, after, trace⟩
  · rw [number]
    exact UInt32.toNat_ofNat_of_lt' small
  · rw [before, handed]
    exact digest

theorem isFinished_iff : c.isFinished = true ↔ c.next = c.total := beq_iff_eq

theorem results_length (c : Continuation α) (inputs : List SegmentInput) :
    (c.results inputs).length = inputs.length := by
  induction inputs generalizing c with
  | nil => rfl
  | cons input inputs ih => exact congrArg Nat.succ (ih _)

theorem calls_snd (c : Continuation α) (inputs : List SegmentInput) :
    (c.calls inputs).map Prod.snd = c.results inputs :=
  List.map_snd_zip (Nat.le_of_eq (c.results_length inputs))

/-- The calls that did not fail. -/
def succeeded (c : Continuation α) (inputs : List SegmentInput) :
    List (SegmentInput × Outcome (Finished α)) :=
  (c.calls inputs).filter fun call => call.2.returned?.isSome

theorem succeeded_finished (c : Continuation α) (inputs : List SegmentInput) :
    ((c.succeeded inputs).map Prod.snd).filterMap Outcome.returned? = c.finished inputs := by
  rw [finished, ← calls_snd, List.filterMap_map, List.filterMap_map, succeeded,
    List.filterMap_filter]
  congr 1
  funext call
  cases h : call.2.returned? <;> simp [h]

/-- A call leaves the continuation alone or goes on behind a segment that was finished. -/
theorem runSegment_cases (c : Continuation α) (input : SegmentInput) :
    ((c.runSegment input).1.returned? = none ∧ (c.runSegment input).2 = c) ∨
    ∃ f, c.next ≠ c.total ∧ c.attempt input = .returned f ∧
      c.runSegment input = (.returned f, c.advance f.segment) := by
  rw [runSegment]
  split
  case isTrue => exact .inl ⟨rfl, rfl⟩
  case isFalse unfinished =>
    cases c.attempt input with
    | failed e => exact .inl ⟨rfl, rfl⟩
    | trapped t => exact .inl ⟨rfl, rfl⟩
    | returned f => exact .inr ⟨f, fun same => unfinished (isFinished_iff.mpr same), rfl, rfl⟩

theorem runSegment_unfinished (unfinished : c.next ≠ c.total) (input : SegmentInput) :
    (c.runSegment input).1 = c.attempt input := by
  rw [runSegment, if_neg fun finished => unfinished (isFinished_iff.mp finished)]
  cases c.attempt input <;> rfl

/-- The guest and its registry are the same for all segments. -/
theorem afterAll_fixed (c : Continuation α) (inputs : List SegmentInput) :
    (c.afterAll inputs).guest = c.guest ∧ (c.afterAll inputs).registry = c.registry := by
  induction inputs generalizing c with
  | nil => exact ⟨rfl, rfl⟩
  | cons input inputs ih =>
    rw [afterAll]
    rcases runSegment_cases c input with ⟨-, same⟩ | ⟨f, -, -, ahead⟩
    · rw [same]
      exact ih c
    · rw [ahead]
      exact ih (c.advance f.segment)

theorem runSegment_failed (h : (c.runSegment input).1.returned? = none) :
    (c.runSegment input).2 = c := by
  rcases runSegment_cases c input with ⟨-, same⟩ | ⟨f, -, -, ahead⟩
  · exact same
  · rw [ahead] at h
    cases h

/-- A segment comes only of an attempt at the next place. -/
theorem runSegment_returned (ready : c.Ready)
    (h : (c.runSegment input).1.returned? = some f) :
    (c.runSegment input).2 = c.advance f.segment ∧ c.next < c.total ∧
      f.segment.Placed c.total c.next c.context := by
  rcases runSegment_cases c input with ⟨failed, -⟩ | ⟨f', unfinished, attempted, ahead⟩
  · rw [failed] at h
    cases h
  · rw [ahead] at h ⊢
    cases h
    have hlt : c.next < c.total := Nat.lt_of_le_of_ne ready.next_le unfinished
    exact ⟨rfl, hlt,
      attempt_placed ready.digest (Nat.lt_of_lt_of_le hlt ready.total_le) attempted⟩

theorem runSegment_finished (h : c.isFinished = true) (input : SegmentInput) :
    c.runSegment input = (.failed (.segmentsExhausted c.total), c) := by
  rw [runSegment, if_pos h]

/-- Behind the last segment every call is refused, and the guest has no part in it. -/
theorem results_finished (h : c.isFinished = true) (inputs : List SegmentInput) :
    c.results inputs = inputs.map (fun _ => .failed (.segmentsExhausted c.total)) ∧
      c.afterAll inputs = c := by
  induction inputs with
  | nil => exact ⟨rfl, rfl⟩
  | cons input inputs ih =>
    rw [results, afterAll, runSegment_finished h, ih.1, ih.2]
    exact ⟨rfl, rfl⟩

theorem finished_failed (h : (c.runSegment input).1.returned? = none) :
    c.finished (input :: inputs) = c.finished inputs := by
  rw [finished, results, List.filterMap_cons_none h, runSegment_failed h]
  rfl

theorem finished_returned (h : (c.runSegment input).1.returned? = some f) :
    c.finished (input :: inputs) = f :: (c.runSegment input).2.finished inputs :=
  List.filterMap_cons_some h

/-- From `c` to `c'` by the segments `segs`. -/
structure Reaches (c : Continuation α) (segs : List Segment) (c' : Continuation α) : Prop where
  ready : c'.Ready
  total_eq : c'.total = c.total
  next_eq : c'.next = c.next + segs.length
  linked : Chain.Linked c.total c.next c.context segs

/-- Each finished segment adds a link. -/
theorem afterAll_reaches (ready : c.Ready) (inputs : List SegmentInput) :
    c.Reaches ((c.finished inputs).map Finished.segment) (c.afterAll inputs) := by
  induction inputs generalizing c with
  | nil => exact ⟨ready, rfl, rfl, trivial⟩
  | cons input inputs ih =>
    cases hr : (c.runSegment input).1.returned? with
    | none =>
      rw [finished_failed hr, afterAll, runSegment_failed hr]
      exact ih ready
    | some f =>
      obtain ⟨hs, unfinished, placed⟩ := runSegment_returned ready hr
      have next := ih (c := c.advance f.segment)
        ⟨ready.total_le, unfinished, placed.contextDigest⟩
      rw [finished_returned hr, afterAll, hs]
      refine ⟨next.ready, next.total_eq, ?_, placed, next.linked⟩
      rw [next.next_eq, List.map_cons, List.length_cons]
      exact Nat.succ_add_eq_add_succ c.next _

/-- Calls that failed may be left out without a change to what comes of the others. -/
theorem results_of_sublist {kept : List (SegmentInput × Outcome (Finished α))}
    (sub : kept.Sublist (c.calls inputs))
    (all : (kept.map Prod.snd).filterMap Outcome.returned? = c.finished inputs) :
    c.results (kept.map Prod.fst) = kept.map Prod.snd ∧
      c.afterAll (kept.map Prod.fst) = c.afterAll inputs := by
  induction inputs generalizing c kept with
  | nil =>
    obtain rfl := List.sublist_nil.mp sub
    exact ⟨rfl, rfl⟩
  | cons input inputs ih =>
    have hc : c.calls (input :: inputs) =
        (input, (c.runSegment input).1) :: (c.runSegment input).2.calls inputs := rfl
    rw [hc] at sub
    cases hr : (c.runSegment input).1.returned? with
    | none =>
      rw [finished_failed hr] at all
      rw [runSegment_failed hr] at sub
      rw [afterAll, runSegment_failed hr]
      cases sub with
      | cons _ sub => exact ih sub all
      | cons_cons _ sub =>
        rw [List.map_cons, List.filterMap_cons_none hr] at all
        obtain ⟨h, h'⟩ := ih sub all
        rw [List.map_cons, List.map_cons, results, afterAll, runSegment_failed hr, h, h']
        exact ⟨rfl, rfl⟩
    | some f =>
      rw [finished_returned hr] at all
      cases sub with
      | cons _ sub =>
        -- a finished segment cannot be made up for by those behind it
        have hl := ((sub.map Prod.snd).filterMap Outcome.returned?).length_le
        rw [all, calls_snd, List.length_cons] at hl
        exact absurd hl (Nat.not_succ_le_self _)
      | cons_cons _ sub =>
        rw [List.map_cons, List.filterMap_cons_some hr, List.cons.injEq] at all
        obtain ⟨h, h'⟩ := ih sub all.2
        rw [List.map_cons, List.map_cons, results, afterAll, h, h']
        exact ⟨rfl, rfl⟩

/-- Whatever comes of the calls for a segment, those that fail change nothing and can be left
out; the others give the segments `0`, `1` and so on, each in its place and each handed what
the one before it handed out; the continuation is finished when there are `total` of them,
and refuses every further call without the guest; and the checker accepts the segments. -/
theorem finished_form_chain {h : Host} {g : Guest α} {total : Nat} {context : List Word}
    (bounded : total ≤ UInt32.size) (opened : open? h g total context = .ok c)
    (inputs : List SegmentInput) :
    let c' := c.afterAll inputs
    let segs := (c.finished inputs).map Finished.segment
    (∀ input, (c'.runSegment input).1.returned? = none → (c'.runSegment input).2 = c') ∧
    (∀ kept : List (SegmentInput × Outcome (Finished α)), kept.Sublist (c.calls inputs) →
      (kept.map Prod.snd).filterMap Outcome.returned? = c.finished inputs →
      c.results (kept.map Prod.fst) = kept.map Prod.snd ∧
        c.afterAll (kept.map Prod.fst) = c') ∧
    (∀ j (hj : j < segs.length), ∃ handed, (Chain.contexts context segs)[j]? = some handed ∧
      segs[j].Placed total j handed) ∧
    segs.length ≤ total ∧
    (c'.isFinished = true ↔ segs.length = total) ∧
    (c'.isFinished = true → ∀ (g' : Guest α) later,
      { c' with guest := g' }.results later =
          later.map (fun _ => .failed (.segmentsExhausted total)) ∧
        { c' with guest := g' }.afterAll later = { c' with guest := g' }) ∧
    Chain.verify segs = .ok () := by
  obtain ⟨ready, rfl, hn, rfl⟩ := open_ready bounded opened
  obtain ⟨ready', ht, hnext, linked⟩ := afterAll_reaches ready inputs
  intro c' segs
  rw [hn, Nat.zero_add] at hnext
  rw [hn] at linked
  refine ⟨fun input => runSegment_failed, fun kept => results_of_sublist, fun j hj => ?_,
    ?_, ?_, fun finished g' later => ?_, Chain.verify_ok linked⟩
  · obtain ⟨handed, hc, placed⟩ := linked.placed hj
    rw [Nat.zero_add] at placed
    exact ⟨handed, hc, placed⟩
  · rw [← hnext, ← ht]
    exact ready'.next_le
  · rw [isFinished_iff, hnext, ht]
  · rw [← ht]
    exact results_finished (c := { c' with guest := g' }) finished later

/-- Adds a public word to the sum that it is handed, in two segments. -/
def adding : Continuation Word where
  schema := .uniform 1 1
  guest := ⟨"Accumulate", Guest.table [], .uint64, fun _ => do
    let sum ← .request .readContext
    let w ← .request (.input .pub)
    .request (.writeContext (sum + w))
    return sum + w⟩
  registry := (Registry.empty fun _ => false).enter ⟨Guest.entry, false⟩
  total := 2
  next := 0
  context := [0]
  preContextDigest := contextDigest [0]

/-- Two segments out of four calls: one with an empty tape fails and one comes too late. -/
theorem finished_form_chain_of_four :
    let host : Host := ⟨⟨.uniform 1 1, []⟩, .empty fun _ => false⟩
    let inputs : List SegmentInput := [⟨[2], []⟩, ⟨[], [9]⟩, ⟨[40], []⟩, ⟨[1], []⟩]
    2 ≤ UInt32.size ∧ open? host adding.guest 2 [0] = .ok adding ∧
      (adding.finished inputs).map Finished.output = [2, 42] ∧
      adding.results [⟨[2], []⟩, ⟨[40], []⟩] = (adding.succeeded inputs).map Prod.snd ∧
      (adding.afterAll inputs).isFinished = true ∧
      (adding.afterAll inputs).results inputs =
        inputs.map (fun _ => .failed (.segmentsExhausted 2)) ∧
      Chain.verify ((adding.finished inputs).map Finished.segment) = .ok () := by
  intro host inputs
  have bounded : 2 ≤ UInt32.size := by decide
  have opened : open? host adding.guest 2 [0] = .ok adding := rfl
  obtain ⟨-, kept, -, -, -, exhausted, accepted⟩ := finished_form_chain bounded opened inputs
  have alone : (adding.succeeded inputs).map Prod.fst = [⟨[2], []⟩, ⟨[40], []⟩] := by
    decide +kernel
  have finished : (adding.afterAll inputs).isFinished = true := by decide +kernel
  have fewer := (kept _ List.filter_sublist (adding.succeeded_finished inputs)).1
  refine ⟨bounded, opened, by decide +kernel, ?_, finished,
    (exhausted finished (adding.afterAll inputs).guest inputs).1, accepted⟩
  rw [← alone]
  exact fewer

end Continuation

end SealedRun
