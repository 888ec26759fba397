import Mathlib
import SealedRun.Proofs.Context.Handover
import SealedRun.Proofs.Continuation.Alone
import SealedRun.Proofs.Files.Directories
import SealedRun.Proofs.Segment.Lossless

/-! Splitting is executing with files. The segments that are finished one after another are the
same with the files and without them; each of them is in its own file afterwards, also if one that
comes later fails, and nothing else was written. The number of a segment has 32 bits. Where more
segments are finished than there are numbers, numbers come round, files are written again, and the
segments are no chain. -/
namespace SealedRun

/-- The place of the file of a segment. -/
def segmentPlace (directory : String) (segmentId : UInt32) : Place :=
  .ofText (segmentPath directory segmentId)

theorem segmentPlace_eq (directory : String) (segmentId : UInt32) :
    segmentPlace directory segmentId =
      Place.ofText (directory ++ "/") ++ [segmentId.toNat.repr] :=
  Place.ofText_inside directory (plainName_repr segmentId.toNat)

theorem segmentPlace_injective {directory : String} {i j : UInt32}
    (h : segmentPlace directory i = segmentPlace directory j) : i = j := by
  rw [segmentPlace_eq, segmentPlace_eq] at h
  exact UInt32.toNat_inj.mp (Nat.repr_injective (List.singleton_inj.mp (List.append_cancel_left h)))

theorem segmentPath_ofNat {directory : String} {i : Nat} (h : i < UInt32.size) :
    segmentPath directory (UInt32.ofNat i) = s!"{directory}/{i}" := by
  have number : (UInt32.ofNat i).toNat = i := UInt32.toNat_ofNat_of_lt' h
  show directory ++ "/" ++ (UInt32.ofNat i).toNat.repr = directory ++ "/" ++ i.repr
  rw [number]

/-- Puts each segment into its own file. -/
def Files.keep (directory : String) (fs : Files) (segs : List Segment) : Files :=
  segs.foldl (fun fs s => fs.set (segmentPlace directory s.segmentId) (.file s.fileBytes)) fs

section Keep

variable {directory : String} {fs : Files} {segs : List Segment} {seg : Segment} {q : Place}

theorem Files.keep_other (apart : ∀ s ∈ segs, q ≠ segmentPlace directory s.segmentId) :
    (fs.keep directory segs).get? q = fs.get? q := by
  induction segs generalizing fs with
  | nil => rfl
  | cons s segs ih =>
    rw [List.forall_mem_cons] at apart
    exact (ih apart.2).trans (get?_set_other fs _ apart.1)

theorem Files.keep_writable {path : String}
    (writable : ∀ s ∈ segs, fs.Writable (segmentPath directory s.segmentId))
    (h : fs.Writable path) : (fs.keep directory segs).Writable path := by
  induction segs generalizing fs with
  | nil => exact h
  | cons s segs ih =>
    rw [List.forall_mem_cons] at writable
    have closed := (writable_iff.mp writable.1).2
    exact ih (fun s' hs => (writable.2 s' hs).set closed) (h.set closed)

/-- A file holds the last segment that was put into it. -/
theorem Files.keep_last {before after : List Segment}
    (writable : ∀ s ∈ before ++ seg :: after, fs.Writable (segmentPath directory s.segmentId))
    (last : ∀ s ∈ after, seg.segmentId ≠ s.segmentId) :
    (fs.keep directory (before ++ seg :: after)).read (segmentPath directory seg.segmentId) =
      .ok seg.fileBytes := by
  have ready : (fs.keep directory before).Writable (segmentPath directory seg.segmentId) :=
    keep_writable (fun s hs => writable s (List.mem_append_left _ hs))
      (writable seg (List.mem_append_right _ (List.mem_cons_self ..)))
  have written := read_write (ready.write seg.fileBytes)
  have everywhere := keep_writable writable
    (writable seg (List.mem_append_right _ (List.mem_cons_self ..)))
  refine read_ok_iff.mpr ⟨(writable_iff.mp everywhere).1, ?_⟩
  rw [keep, List.foldl_append, List.foldl_cons]
  exact (keep_other fun s hs same => last s hs (segmentPlace_injective same)).trans
    (read_ok_iff.mp written).2

/-- Two numbers less than a whole turn apart are different when counted with 32 bits. -/
theorem ofNat_ne_of_lt {i j : Nat} (behind : i < j) (near : j < i + UInt32.size) :
    UInt32.ofNat i ≠ UInt32.ofNat j := by
  intro same
  have size : UInt32.size = 2 ^ 32 := rfl
  have wrapped := congrArg UInt32.toNat same
  rw [UInt32.toNat_ofNat', UInt32.toNat_ofNat'] at wrapped
  omega

/-- Of segments numbered in a row each is in its file, unless a later one has the same number. -/
theorem Files.keep_numbered
    (numbered : ∀ i (hi : i < segs.length), segs[i].segmentId = UInt32.ofNat i)
    (writable : ∀ s ∈ segs, fs.Writable (segmentPath directory s.segmentId))
    {i : Nat} (hi : i < segs.length) (last : segs.length ≤ i + UInt32.size) :
    (fs.keep directory segs).read (segmentPath directory (UInt32.ofNat i)) =
      .ok segs[i].fileBytes := by
  have around : segs.take i ++ segs[i] :: segs.drop (i + 1) = segs := by
    rw [List.getElem_cons_drop, List.take_append_drop]
  have alone : ∀ s ∈ segs.drop (i + 1), segs[i].segmentId ≠ s.segmentId := by
    intro s hs
    obtain ⟨j, hj, rfl⟩ := List.mem_iff_getElem.mp hs
    rw [List.length_drop] at hj
    rw [List.getElem_drop, numbered i hi, numbered _ (by omega)]
    exact ofNat_ne_of_lt (by omega) (by omega)
  have kept := keep_last (by rwa [around]) alone
  rw [around, numbered i hi] at kept
  exact kept

end Keep

namespace Continuation

variable {α : Type} {c : Continuation α} {input : SegmentInput} {inputs : List SegmentInput}
  {f : Finished α}

/-- What is finished in a row, up to the first segment that does not finish. -/
def completed (c : Continuation α) : List SegmentInput → List (Finished α)
  | [] => []
  | input :: inputs =>
    match c.runSegment input with
    | (.returned f, c) => f :: c.completed inputs
    | _ => []

theorem completed_returned {c' : Continuation α} (h : c.runSegment input = (.returned f, c')) :
    c.completed (input :: inputs) = f :: c'.completed inputs := by
  rw [completed, h]

theorem completed_stopped (h : (c.runSegment input).1.returned? = none) :
    c.completed (input :: inputs) = [] := by
  rw [completed]
  split
  case h_1 returned =>
    rw [returned] at h
    cases h
  · rfl

theorem runAll_returned {c' : Continuation α} (h : c.runSegment input = (.returned f, c')) :
    c.runAll (input :: inputs) = (c'.runAll inputs).map (f :: ·) := by
  rw [runAll, h]

theorem runAll_stopped (h : (c.runSegment input).1.returned? = none) (all : List (Finished α)) :
    c.runAll (input :: inputs) ≠ .returned all := by
  rw [runAll]
  split
  case h_1 returned =>
    rw [returned] at h
    cases h
  · exact nofun
  · exact nofun

/-- As far as segments are completed, a run of so many inputs returns them. -/
theorem runAll_take {n : Nat} (h : n ≤ (c.completed inputs).length) :
    c.runAll (inputs.take n) = .returned ((c.completed inputs).take n) := by
  induction inputs generalizing c n with
  | nil => rw [List.take_nil, runAll, completed, List.take_nil]
  | cons input inputs ih =>
    cases n with
    | zero => rfl
    | succ n =>
      obtain ⟨stopped, -⟩ | ⟨f, -, -, first⟩ := c.runSegment_cases input
      · rw [completed_stopped stopped] at h
        exact absurd h (Nat.not_succ_le_zero n)
      · rw [completed_returned first] at h ⊢
        rw [List.take_succ_cons, List.take_succ_cons, runAll_returned first,
          ih (Nat.le_of_succ_le_succ h)]
        rfl

/-- A run that returns completes all its segments. -/
theorem completed_of_returned {all : List (Finished α)} (h : c.runAll inputs = .returned all) :
    c.completed inputs = all := by
  induction inputs generalizing c all with
  | nil =>
    cases h
    rfl
  | cons input inputs ih =>
    obtain ⟨stopped, -⟩ | ⟨f, -, -, first⟩ := c.runSegment_cases input
    · exact absurd h (runAll_stopped stopped all)
    · rw [runAll_returned first] at h
      rw [completed_returned first]
      cases later : (c.advance f.segment).runAll inputs with
      | returned rest =>
        rw [later] at h
        cases h
        rw [ih later]
      | failed e => rw [later] at h; cases h
      | trapped t => rw [later] at h; cases h

/-- The failure of a run is that of the segment behind those that are completed. -/
theorem runAll_failure {failure : Failure} (h : (c.runAll inputs).toExcept = .error failure) :
    ∃ input, inputs[(c.completed inputs).length]? = some input ∧
      ((c.afterAll (inputs.take (c.completed inputs).length)).runSegment input).1.toExcept =
        .error failure := by
  induction inputs generalizing c with
  | nil => cases h
  | cons input inputs ih =>
    obtain ⟨stopped, -⟩ | ⟨f, -, -, first⟩ := c.runSegment_cases input
    · refine ⟨input, by rw [completed_stopped stopped]; rfl, ?_⟩
      rw [completed_stopped stopped]
      show (c.runSegment input).1.toExcept = .error failure
      rcases call : c.runSegment input with ⟨f | e | t, c'⟩
      · rw [call] at stopped
        cases stopped
      · rw [runAll, call] at h
        cases h
        rfl
      · rw [runAll, call] at h
        cases h
        rfl
    · have later : ((c.advance f.segment).runAll inputs).toExcept = .error failure := by
        rw [runAll_returned first] at h
        cases ran : (c.advance f.segment).runAll inputs with
        | returned rest => rw [ran] at h; cases h
        | failed e => rw [ran] at h; exact h
        | trapped t => rw [ran] at h; exact h
      obtain ⟨next, there, fails⟩ := ih later
      rw [completed_returned first, List.length_cons, List.take_succ_cons, afterAll, first]
      exact ⟨next, there, fails⟩

/-- Segments are numbered in a row, with 32 bits, and know their positions. -/
theorem completed_in_order {i : Nat} (hi : i < (c.completed inputs).length) :
    (c.completed inputs)[i].segment.segmentId = UInt32.ofNat (c.next + i) ∧
      (c.completed inputs)[i].segment.position = .ofIndex (c.next + i) c.total := by
  induction inputs generalizing c i with
  | nil => exact absurd hi (Nat.not_lt_zero i)
  | cons input inputs ih =>
    obtain ⟨stopped, -⟩ | ⟨f, -, attempted, first⟩ := c.runSegment_cases input
    · rw [completed_stopped stopped] at hi
      exact absurd hi (Nat.not_lt_zero i)
    · have made : c.completed (input :: inputs) = _ := completed_returned first
      simp only [made] at hi ⊢
      cases i with
      | zero =>
        obtain ⟨number, position, -⟩ := attempt_takes_over attempted
        exact ⟨number, position⟩
      | succ i =>
        have later := ih (c := c.advance f.segment) (Nat.lt_of_succ_lt_succ hi)
        have next : (c.advance f.segment).next + i = c.next + (i + 1) :=
          Nat.succ_add_eq_add_succ c.next i
        rw [next] at later
        exact later

/-- As long as the numbers do not come round again, segments are linked. -/
theorem completed_linked (c : Continuation α)
    (digest : c.preContextDigest = contextDigest c.context)
    (small : c.next + (c.completed inputs).length ≤ UInt32.size) :
    Chain.Linked c.total c.next c.context ((c.completed inputs).map Finished.segment) := by
  induction inputs generalizing c with
  | nil => trivial
  | cons input inputs ih =>
    obtain ⟨stopped, -⟩ | ⟨f, -, attempted, first⟩ := c.runSegment_cases input
    · rw [completed_stopped stopped]
      trivial
    · rw [completed_returned first] at small ⊢
      rw [List.length_cons] at small
      have placed := attempt_placed digest (by omega) attempted
      refine ⟨placed, ih (c := c.advance f.segment) placed.contextDigest ?_⟩
      show c.next + 1 + _ ≤ _
      omega

theorem writeAll_stopped {directory : String} {fs : Files}
    (h : (c.runSegment input).1.returned? = none) :
    c.writeAll directory fs (input :: inputs) = ((c.runAll (input :: inputs)).toExcept, fs) := by
  rcases call : c.runSegment input with ⟨f | e | t, _⟩
  · rw [call] at h
    cases h
  · rw [writeAll, runAll, call]
    rfl
  · rw [writeAll, runAll, call]
    rfl

/-- With files the same comes of the calls, and what is completed is kept. -/
theorem writeAll_eq {directory : String} {fs : Files}
    (writable : ∀ s ∈ (c.completed inputs).map Finished.segment,
      fs.Writable (segmentPath directory s.segmentId)) :
    c.writeAll directory fs inputs =
      ((c.runAll inputs).toExcept,
        fs.keep directory ((c.completed inputs).map Finished.segment)) := by
  induction inputs generalizing c fs with
  | nil => rfl
  | cons input inputs ih =>
    obtain ⟨stopped, -⟩ | ⟨f, -, -, first⟩ := c.runSegment_cases input
    · rw [writeAll_stopped stopped, completed_stopped stopped]
      rfl
    · rw [completed_returned first, List.map_cons] at writable ⊢
      rw [List.forall_mem_cons] at writable
      have closed := (Files.writable_iff.mp writable.1).2
      have written : writeSegment fs directory f.segment = .ok
          (fs.set (segmentPlace directory f.segment.segmentId) (.file f.segment.fileBytes)) := by
        simp only [writeSegment, writable.1.write, segmentPlace]
      have later : (c.advance f.segment).writeAll directory
          (fs.set (segmentPlace directory f.segment.segmentId) (.file f.segment.fileBytes))
          inputs = _ := ih fun s hs => (writable.2 s hs).set closed
      rw [writeAll, first, runAll_returned first]
      simp only [written, later]
      cases (c.advance f.segment).runAll inputs <;> rfl

end Continuation

namespace Host

variable {α : Type} {h : Host} {g : Guest α} {context : List Word} {inputs : List SegmentInput}

/-- The segments that a computation completes, none if it cannot begin. -/
def completed (h : Host) (g : Guest α) (context : List Word) (inputs : List SegmentInput) :
    List (Finished α) :=
  match Continuation.open? h g inputs.length context with
  | .error _ => []
  | .ok c => c.completed inputs

theorem completed_cases (h : Host) (g : Guest α) (context : List Word)
    (inputs : List SegmentInput) :
    (∃ e, Continuation.open? h g inputs.length context = .error e ∧
      h.completed g context inputs = [] ∧ h.executeSegments g context inputs = .failed e) ∨
    ∃ c, Continuation.open? h g inputs.length context = .ok c ∧
      h.completed g context inputs = c.completed inputs ∧
      h.executeSegments g context inputs = c.runAll inputs := by
  rw [completed, executeSegments]
  cases Continuation.open? h g inputs.length context with
  | error e => exact .inl ⟨e, rfl, rfl, rfl⟩
  | ok c => exact .inr ⟨c, rfl, rfl, rfl⟩

theorem completed_of_returned {all : List (Finished α)}
    (returned : h.executeSegments g context inputs = .returned all) :
    h.completed g context inputs = all := by
  obtain ⟨e, -, -, failed⟩ | ⟨c, -, same, ran⟩ := h.completed_cases g context inputs
  · rw [failed] at returned
    cases returned
  · rw [same, Continuation.completed_of_returned (ran ▸ returned)]

theorem completed_short (some_input : inputs ≠ []) {failure : Failure}
    (failed : (h.executeSegments g context inputs).toExcept = .error failure) :
    (h.completed g context inputs).length < inputs.length := by
  obtain ⟨e, -, none_done, -⟩ | ⟨c, -, same, ran⟩ := h.completed_cases g context inputs
  · rw [none_done]
    exact List.length_pos_iff.mpr some_input
  · rw [ran] at failed
    obtain ⟨input, there, -⟩ := Continuation.runAll_failure failed
    rw [same]
    exact (List.getElem?_eq_some_iff.mp there).1

/-- A run gets through the inputs of what is completed, and no further if it fails. -/
theorem completed_of_opened {c : Continuation α}
    (opened : Continuation.open? h g inputs.length context = .ok c) :
    let done := h.completed g context inputs
    c.runAll (inputs.take done.length) = .returned done ∧
      ∀ failure, (h.executeSegments g context inputs).toExcept = .error failure →
        ∃ input, inputs[done.length]? = some input ∧
          ((c.afterAll (inputs.take done.length)).runSegment input).1.toExcept =
            .error failure := by
  have same : h.completed g context inputs = c.completed inputs := by rw [completed, opened]
  have ran : h.executeSegments g context inputs = c.runAll inputs := by
    rw [executeSegments, opened]
  rw [same, ran]
  refine ⟨?_, fun failure => Continuation.runAll_failure⟩
  rw [Continuation.runAll_take (Nat.le_refl _), List.take_length]

theorem completed_in_order {i : Nat} (hi : i < (h.completed g context inputs).length) :
    (h.completed g context inputs)[i].segment.segmentId = UInt32.ofNat i ∧
      (h.completed g context inputs)[i].segment.position = .ofIndex i inputs.length := by
  obtain ⟨e, -, none_done, -⟩ | ⟨c, opened, same, -⟩ := h.completed_cases g context inputs
  · rw [none_done] at hi
    exact absurd hi (Nat.not_lt_zero i)
  · obtain ⟨-, registry, rfl⟩ := Continuation.open?_ok opened
    simp only [same] at hi ⊢
    have placed := Continuation.completed_in_order hi
    rw [Nat.zero_add] at placed
    exact placed

theorem completed_accepted (bounded : (h.completed g context inputs).length ≤ UInt32.size) :
    Chain.verify ((h.completed g context inputs).map Finished.segment) = .ok () := by
  obtain ⟨e, -, none_done, -⟩ | ⟨c, opened, same, -⟩ := h.completed_cases g context inputs
  · rw [none_done]
    rfl
  · obtain ⟨-, registry, made⟩ := Continuation.open?_ok opened
    have first : c.next = 0 := by rw [made]
    have digest : c.preContextDigest = contextDigest c.context := by rw [made]
    rw [same] at bounded ⊢
    have linked := c.completed_linked digest (by rwa [first, Nat.zero_add])
    rw [first] at linked
    exact Chain.verify_ok linked

/-- The segments are a chain as long as each of them has a number of its own. -/
theorem completed_accepted_iff :
    Chain.verify ((h.completed g context inputs).map Finished.segment) = .ok () ↔
      (h.completed g context inputs).length ≤ UInt32.size := by
  refine ⟨fun accepted => Nat.le_of_not_lt fun beyond => ?_, completed_accepted⟩
  -- the number of the first segment without a number of its own says that it is in another place
  have stands := (Chain.verify_iff.mp accepted).1 UInt32.size (by rwa [List.length_map])
  have number := stands.segmentId
  rw [List.getElem_map, (completed_in_order beyond).1] at number
  exact absurd number (Nat.ne_of_lt (UInt32.toNat_lt _))

section Kept

variable {directory : String} {fs fs₀ : Files} {i : Nat}

/-- A segment that is completed has the number of its place. -/
theorem exists_number {seg : Segment}
    (done : seg ∈ (h.completed g context inputs).map Finished.segment) :
    ∃ i < (h.completed g context inputs).length, seg.segmentId = UInt32.ofNat i := by
  obtain ⟨i, hi, rfl⟩ := List.mem_iff_getElem.mp done
  rw [List.length_map] at hi
  refine ⟨i, hi, ?_⟩
  rw [List.getElem_map]
  exact (completed_in_order hi).1

variable (some_input : inputs ≠ []) (created : fs.createDirectories directory = .ok fs₀)
  (writable : ∀ i < (h.completed g context inputs).length,
    fs₀.Writable (segmentPath directory (UInt32.ofNat i)))

include writable in
theorem files_writable : ∀ s ∈ (h.completed g context inputs).map Finished.segment,
    fs₀.Writable (segmentPath directory s.segmentId) := by
  intro s hs
  obtain ⟨i, hi, number⟩ := exists_number hs
  rw [number]
  exact writable i hi

include some_input created writable

/-- Splitting is executing, and what is completed is kept. -/
theorem split_eq : h.split g directory context inputs fs =
    ((h.executeSegments g context inputs).toExcept,
      fs₀.keep directory ((h.completed g context inputs).map Finished.segment)) := by
  have files_writable := files_writable writable
  rw [split, if_neg some_input, created]
  obtain ⟨e, refused, none_done, failed⟩ | ⟨c, opened, same, ran⟩ :=
    h.completed_cases g context inputs
  · rw [none_done, failed]
    simp only [refused]
    rfl
  · rw [same] at files_writable
    rw [same, ran]
    simp only [opened]
    exact Continuation.writeAll_eq files_writable

/-- Nothing is written but the files of the segments. -/
theorem split_elsewhere {place : Place}
    (apart : ∀ i < (h.completed g context inputs).length,
      place ≠ segmentPlace directory (UInt32.ofNat i)) :
    (h.split g directory context inputs fs).2.get? place = fs₀.get? place := by
  rw [split_eq some_input created writable]
  refine Files.keep_other fun s hs => ?_
  obtain ⟨i, hi, number⟩ := exists_number hs
  rw [number]
  exact apart i hi

/-- The file of a number holds the last segment with this number. -/
theorem split_read (hi : i < (h.completed g context inputs).length)
    (last : (h.completed g context inputs).length ≤ i + UInt32.size) :
    (h.split g directory context inputs fs).2.read (segmentPath directory (UInt32.ofNat i)) =
      .ok (h.completed g context inputs)[i].segment.fileBytes := by
  have numbered : ∀ i (hi : i < ((h.completed g context inputs).map Finished.segment).length),
      ((h.completed g context inputs).map Finished.segment)[i].segmentId = UInt32.ofNat i := by
    intro i hi
    rw [List.getElem_map]
    exact (completed_in_order _).1
  rw [← List.length_map Finished.segment] at last
  rw [split_eq some_input created writable, Files.keep_numbered numbered
    (files_writable writable) (by rwa [List.length_map]) last, List.getElem_map]

end Kept

end Host

/-- A guest that asks for nothing. -/
def Guest.idle : Guest Unit := ⟨"Idle", Guest.table [], .unit, fun _ => return ()⟩

namespace Continuation

variable {c : Continuation Unit} {inputs : List SegmentInput}

theorem attempt_idle (schema : c.schema = .empty) (guest : c.guest = .idle)
    (context : c.context = []) (input : SegmentInput) :
    ∃ f, c.attempt input = .returned f ∧ f.segment.contextOutputs = [] := by
  have slots : c.schema.slots (.ofIndex c.next c.total) = ⟨0, 0⟩ := by
    rw [schema]
    cases Position.ofIndex c.next c.total <;> rfl
  have started : c.start input = State.start (.ofNat c.next) (.ofIndex c.next c.total) ⟨0, 0⟩
      c.registry input [] := by
    rw [start, slots, context]
  obtain ⟨schema, program, registry, total, next, context, digest⟩ := c
  obtain rfl : program = .idle := guest
  exact ⟨_, attempt_sealed (started.trans rfl) rfl rfl, rfl⟩

/-- An idle guest that is handed nothing finishes every segment that there is room for. -/
theorem completed_idle (schema : c.schema = .empty) (guest : c.guest = .idle)
    (context : c.context = []) (room : c.next + inputs.length ≤ c.total) :
    (c.completed inputs).length = inputs.length := by
  induction inputs generalizing c with
  | nil => rfl
  | cons input inputs ih =>
    rw [List.length_cons] at room
    have unfinished : c.next ≠ c.total := by omega
    obtain ⟨f, attempted, handed⟩ := attempt_idle schema guest context input
    have finished : c.runSegment input = (.returned f, c.advance f.segment) := by
      rw [runSegment, if_neg (mt isFinished_iff.mp unfinished), attempted]
    have still : c.next + 1 + inputs.length ≤ c.total := by omega
    have rest : ((c.advance f.segment).completed inputs).length = inputs.length :=
      ih schema guest handed still
    rw [completed_returned finished, List.length_cons, List.length_cons, rest]

end Continuation

theorem Host.completed_idle (inputs : List SegmentInput) :
    (plain.completed .idle [] inputs).length = inputs.length ∧
      plain.executeSegments .idle [] inputs = .returned (plain.completed .idle [] inputs) := by
  obtain ⟨registry, registered⟩ := registryFor_plain Guest.idle
  have valid : plain.config.schema.validateSequence inputs.length = .ok () :=
    ContextSchema.validateSequence_ok.mpr fun index _ _ => by
      cases Position.ofIndex (index - 1) inputs.length <;>
        cases Position.ofIndex index inputs.length <;> rfl
  let c : Continuation Unit :=
    ⟨.empty, .idle, registry, inputs.length, 0, [], contextDigest []⟩
  have opened : Continuation.open? plain .idle inputs.length [] = .ok c := by
    rw [Continuation.open?, valid, registered]
    rfl
  have length : (c.completed inputs).length = inputs.length :=
    Continuation.completed_idle rfl rfl rfl (Nat.le_of_eq (Nat.zero_add _))
  have ran := Continuation.runAll_take (Nat.le_of_eq length.symm)
  rw [List.take_length, ← length, List.take_length] at ran
  have same : plain.completed .idle [] inputs = c.completed inputs := by rw [completed, opened]
  rw [same, executeSegments, opened]
  exact ⟨length, ran⟩

/-- Every number of a segment is a name for a file. -/
theorem Files.writable_tmp (id : UInt32) : empty.Writable (segmentPath "/tmp" id) := by
  have plain := plainName_repr id.toNat
  have digits : id.toNat.repr.length ≤ 10 :=
    (Nat.length_repr_le_iff (by decide)).mpr (Nat.lt_of_lt_of_le id.toNat_lt (by decide))
  have short : id.toNat.repr.utf8ByteSize ≤ 40 :=
    Nat.le_trans (utf8ByteSize_le _) (Nat.mul_le_mul_left 4 digits)
  have path : Path.ofString (segmentPath "/tmp" id) = ⟨true, ["tmp", id.toNat.repr], false⟩ :=
    Path.ofString_inside "/tmp" plain
  have text : (segmentPath "/tmp" id).toList = "/tmp/".toList ++ id.toNat.repr.toList :=
    String.toList_append
  have size : (segmentPath "/tmp" id).utf8ByteSize = 5 + id.toNat.repr.utf8ByteSize :=
    String.utf8ByteSize_append
  have no_zero : '\x00' ∉ (segmentPath "/tmp" id).toList := by
    rw [text, List.mem_append]
    rintro (zero | zero)
    · exact absurd zero (by decide)
    · exact absurd (isDigit_of_mem_repr zero) (by decide)
  have fits : (segmentPath "/tmp" id).utf8ByteSize ≤ Path.maxSize := by
    rw [size, Path.maxSize]
    omega
  have some_char : segmentPath "/tmp" id ≠ "" := by
    intro none
    rw [none, String.utf8ByteSize_empty] at size
    omega
  have readable : Path.ofText (segmentPath "/tmp" id) = .ok (.ofString (segmentPath "/tmp" id)) :=
    ofText_ok_iff.mpr ⟨no_zero, fits, some_char, rfl⟩
  refine writable_iff.mpr ⟨⟨readable, ?_, ?_, ?_, ?_⟩, ?_⟩
  · rw [path]
    exact List.cons_ne_nil _ _
  · rw [path]
  · rw [path, List.forall_mem_cons, List.forall_mem_singleton]
    exact ⟨by decide, Nat.le_trans short (by decide)⟩
  · rw [path]
    exact List.forall_mem_singleton.mpr rfl
  · have place : Place.ofText (segmentPath "/tmp" id) = _ := segmentPlace_eq "/tmp" id
    rw [place]
    exact nofun

theorem verifyChain_ok_iff {segs : List Segment} :
    verifyChain segs = .ok () ↔ Chain.verify segs = .ok () := by
  rw [verifyChain]
  cases Chain.verify segs with
  | error f => exact ⟨nofun, nofun⟩
  | ok u => exact ⟨fun _ => rfl, fun _ => rfl⟩

/-- The segment that a file holds. -/
def loadSegment (fs : Files) (path : String) : Except Failure Segment :=
  match fs.read path with
  | .error e => .error (.file e)
  | .ok bs => readSegment bs

theorem loadSegment_ok {fs : Files} {path : String} {seg : Segment}
    (read : fs.read path = .ok seg.fileBytes) : loadSegment fs path = .ok seg := by
  rw [loadSegment, read]
  exact readSegment_fileBytes seg

/-- Let the files that are needed be writable. Splitting fails and succeeds as executing does, with
the same segments and outputs, or with the same error. The segments that are completed, be it all
of them or those before the first failure, are in the files of their numbers, and no other file is
new or changed. They are loaded back if each of them has a number of its own, and just then they
are accepted as a chain. A number has 32 bits: with more segments a file is written again. -/
theorem split_executes {α : Type} (h : Host) (g : Guest α) {directory : String}
    (context : List Word) {inputs : List SegmentInput} {fs fs₀ : Files} (some_input : inputs ≠ [])
    (created : fs.createDirectories directory = .ok fs₀)
    (writable : ∀ i < (h.completed g context inputs).length,
      fs₀.Writable (segmentPath directory (UInt32.ofNat i))) :
    let executed := h.executeSegments g context inputs
    let done := h.completed g context inputs
    let files := (h.split g directory context inputs fs).2
    (h.split g directory context inputs fs).1 = executed.toExcept ∧
    (∀ all, executed = .returned all → done = all) ∧
    (∀ failure, executed.toExcept = .error failure → done.length < inputs.length) ∧
    (∀ e, Continuation.open? h g inputs.length context = .error e → done = []) ∧
    (∀ c, Continuation.open? h g inputs.length context = .ok c →
      c.runAll (inputs.take done.length) = .returned done ∧
      ∀ failure, executed.toExcept = .error failure →
        ∃ input, inputs[done.length]? = some input ∧
          ((c.afterAll (inputs.take done.length)).runSegment input).1.toExcept =
            .error failure) ∧
    (∀ place bytes, (∀ i < done.length, place ≠ segmentPlace directory (UInt32.ofNat i)) →
      (files.get? place = some (.file bytes) ↔ fs.get? place = some (.file bytes))) ∧
    (∀ i (hi : i < done.length), done.length ≤ i + UInt32.size →
      files.read (segmentPath directory (UInt32.ofNat i)) = .ok done[i].segment.fileBytes) ∧
    (done.length ≤ UInt32.size → ∀ i (hi : i < done.length),
      loadSegment files s!"{directory}/{i}" = .ok done[i].segment) ∧
    (verifyChain (done.map Finished.segment) = .ok () ↔ done.length ≤ UInt32.size) := by
  intro executed done files
  have result := Host.split_eq some_input created writable
  have none_done (e : ExecutionError)
      (refused : Continuation.open? h g inputs.length context = .error e) : done = [] := by
    simp only [done, Host.completed, refused]
  refine ⟨congrArg Prod.fst result, ?_, ?_, none_done, ?_, ?_, ?_, ?_, ?_⟩
  · exact fun all => Host.completed_of_returned
  · exact fun failure => Host.completed_short some_input
  · exact fun c => Host.completed_of_opened
  · intro place bytes apart
    rw [Host.split_elsewhere some_input created writable apart]
    exact (Files.createDirectories_grown created).file_iff
  · exact fun i => Host.split_read some_input created writable
  · intro bounded i hi
    have number : i < UInt32.size := Nat.lt_of_lt_of_le hi bounded
    have last : done.length ≤ i + UInt32.size := Nat.le_add_left_of_le bounded
    have read := Host.split_read some_input created writable hi last
    rw [segmentPath_ofNat number] at read
    exact loadSegment_ok read
  · exact verifyChain_ok_iff.trans Host.completed_accepted_iff

/-- Two sums are asked for and there is a word for one of them: its segment is kept. -/
theorem split_executes_first_sum :
    let host : Host := ⟨⟨.uniform 1 1, []⟩, .empty fun _ => false⟩
    let guest := Continuation.adding.guest
    let inputs : List SegmentInput := [⟨[2], []⟩, ⟨[], [9]⟩]
    let done := host.completed guest [0] inputs
    let files := (host.split guest "/tmp" [0] inputs .empty).2
    (host.split guest "/tmp" [0] inputs .empty).1 =
        (host.executeSegments guest [0] inputs).toExcept ∧
      (host.executeSegments guest [0] inputs).toExcept.isOk = false ∧
      done.map Finished.output = [2] ∧
      (∀ i (hi : i < done.length), loadSegment files s!"/tmp/{i}" = .ok done[i].segment) ∧
      verifyChain (done.map Finished.segment) = .ok () ∧
      ∀ bytes, files.get? (.ofText "/tmp/1") ≠ some (.file bytes) := by
  intro host guest inputs done files
  have outputs : done.map Finished.output = [2] := by decide +kernel
  have one : done.length = 1 := by simpa using congrArg List.length outputs
  have created : Files.empty.createDirectories "/tmp" = .ok .empty := by decide +kernel
  have writable : ∀ i < done.length,
      Files.empty.Writable (segmentPath "/tmp" (UInt32.ofNat i)) := by
    intro i hi
    obtain rfl : i = 0 := by omega
    exact fun _ => ⟨_, rfl⟩
  obtain ⟨same, -, -, -, -, frame, -, loaded, chain⟩ :=
    split_executes host guest [0] (List.cons_ne_nil _ _) created writable
  have own_numbers : done.length ≤ UInt32.size := by
    rw [one]
    decide
  refine ⟨same, by decide +kernel, outputs, loaded own_numbers, chain.mpr own_numbers,
    fun bytes there => ?_⟩
  have apart : ∀ i < done.length, Place.ofText "/tmp/1" ≠ segmentPlace "/tmp" (UInt32.ofNat i) := by
    intro i hi
    obtain rfl : i = 0 := by omega
    decide +kernel
  have missing : Files.empty.get? (.ofText "/tmp/1") = none := by decide +kernel
  have before := (frame _ _ apart).mp there
  rw [missing] at before
  cases before

/-- With one segment more than there are numbers all files can be written and all segments are
finished, but the last one is in the file of the first, the file of its own place is missing, and
the segments are no chain. -/
theorem split_overwrites_first :
    let inputs : List SegmentInput := List.replicate (UInt32.size + 1) ⟨[], []⟩
    let done := Host.plain.completed .idle [] inputs
    let files := (Host.plain.split .idle "/tmp" [] inputs .empty).2
    Files.empty.createDirectories "/tmp" = .ok .empty ∧
    (∀ i < done.length, Files.empty.Writable (segmentPath "/tmp" (UInt32.ofNat i))) ∧
    Host.plain.executeSegments .idle [] inputs = .returned done ∧
    done.length = UInt32.size + 1 ∧
    (∃ first last, done[0]? = some first ∧ done[UInt32.size]? = some last ∧
      first.segment.position = .first ∧ last.segment.position = .last ∧
      loadSegment files "/tmp/0" = .ok last.segment) ∧
    files.get? (.ofText s!"/tmp/{UInt32.size}") = none ∧
    verifyChain (done.map Finished.segment) ≠ .ok () := by
  intro inputs done files
  have total : inputs.length = UInt32.size + 1 := List.length_replicate
  -- from here on nothing counts but how many inputs there are
  clear_value inputs
  obtain ⟨length, ran⟩ := Host.completed_idle inputs
  have some_input : inputs ≠ [] := List.ne_nil_of_length_eq_add_one total
  have created : Files.empty.createDirectories "/tmp" = .ok .empty := by decide +kernel
  have writable : ∀ i < done.length, Files.empty.Writable (segmentPath "/tmp" (UInt32.ofNat i)) :=
    fun i _ => Files.writable_tmp _
  have counted : done.length = UInt32.size + 1 := length.trans total
  have first : 0 < done.length := by omega
  have last : UInt32.size < done.length := by omega
  have behind : done.length ≤ UInt32.size + UInt32.size := by
    rw [counted]
    decide
  refine ⟨created, writable, ran, counted, ⟨done[0], done[UInt32.size], ?_, ?_, ?_, ?_, ?_⟩, ?_, ?_⟩
  · exact List.getElem?_eq_getElem first
  · exact List.getElem?_eq_getElem last
  · rw [(Host.completed_in_order first).2, total]
    rfl
  · rw [(Host.completed_in_order last).2, total]
    rfl
  · exact loadSegment_ok (Host.split_read some_input created writable last behind)
  · have place : Place.ofText s!"/tmp/{UInt32.size}" =
        Place.ofText ("/tmp" ++ "/") ++ [UInt32.size.repr] :=
      Place.ofText_inside "/tmp" (plainName_repr UInt32.size)
    have apart : ∀ i < done.length,
        Place.ofText s!"/tmp/{UInt32.size}" ≠ segmentPlace "/tmp" (UInt32.ofNat i) := by
      intro i _ same
      rw [place, segmentPlace_eq] at same
      have number := Nat.repr_injective (List.singleton_inj.mp (List.append_cancel_left same))
      exact absurd number (Nat.ne_of_gt (UInt32.toNat_lt _))
    rw [Host.split_elsewhere some_input created writable apart, place]
    rfl
  · rw [Ne, verifyChain_ok_iff, Host.completed_accepted_iff]
    exact Nat.not_le.mpr last

end SealedRun
