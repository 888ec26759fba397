import SealedRun.Artifacts
import SealedRun.Proofs.Continuation.History
import SealedRun.Proofs.Files.Places
import SealedRun.Proofs.Json.Fields

/-! Segment files lose nothing: the file of a segment reads back as that segment, whatever its
words, its trace and its output are. -/
namespace SealedRun

open Json (Document)

theorem HostOp.ofName?_name (op : HostOp) : ofName? op.name = some op := by
  cases op <;> rfl

theorem Position.ofName?_name (p : Position) : ofName? p.name = some p := by
  cases p <;> rfl

namespace Event

theorem written (e : Event) : e.toDocument.Written := by
  refine Document.written_record fun f hf => ?_
  simp only [List.mem_cons, List.not_mem_nil, or_false] at hf
  obtain rfl | rfl | rfl | rfl := hf
  · exact .number _
  · exact .text _
  · exact Document.written_ofNats _
  · cases e.ret with
    | none => exact .null
    | some w => exact .number _

theorem ofDocument?_toDocument (e : Event) : ofDocument? e.toDocument = some e := by
  have members : e.toDocument.record? ["eid", "op", "args", "ret"] = _ :=
    Document.record?_record _ rfl (by decide)
  have eid := Document.word?_ofNat e.eid
  have op : (Document.ofString e.op.name).unitName?.bind HostOp.ofName? = some e.op := by
    rw [Document.unitName?_ofString, Option.bind_some, HostOp.ofName?_name]
  have args := Document.words?_ofWords e.args
  obtain ⟨_, _, _, ret⟩ := e
  cases ret with
  | none =>
    simp only [List.map_cons, List.map_nil] at members
    simp only [ofDocument?, members, eid, op, args]
    rfl
  | some w =>
    have ret : ret? (some (.ofNat w.toNat)) = some (some w) :=
      congrArg (Option.map some) (Document.word?_ofNat w)
    simp only [List.map_cons, List.map_nil] at members
    simp only [ofDocument?, members, eid, op, args, ret]
    rfl

end Event

namespace Trace

theorem written (t : Trace) : t.toDocument.Written := by
  refine Document.written_record fun f hf => ?_
  obtain rfl := List.mem_singleton.mp hf
  refine .array fun d hd => ?_
  obtain ⟨e, -, rfl⟩ := List.mem_map.mp hd
  exact e.written

theorem ofDocument?_toDocument (t : Trace) : ofDocument? t.toDocument = some t := by
  have members : t.toDocument.record? ["events"] = _ :=
    Document.record?_record _ rfl (by decide)
  have events : (Document.array (t.events.map (·.toDocument))).list? Event.ofDocument? =
      some t.events := Document.mapM_map fun e _ => e.ofDocument?_toDocument
  simp only [List.map_cons, List.map_nil] at members
  simp only [ofDocument?, members, events, Option.map_some]

end Trace

namespace Segment

theorem written (s : Segment) : s.toDocument.Written := by
  refine Document.written_record fun f hf => ?_
  simp only [List.mem_cons, List.not_mem_nil, or_false] at hf
  obtain rfl | rfl | rfl | rfl | rfl | rfl | rfl | rfl | rfl | rfl | rfl | rfl | rfl := hf
  case inr.inl => exact .text _
  all_goals first
    | exact .number _
    | exact Document.written_ofNats _
    | exact s.trace.written

theorem ofDocument?_toDocument (s : Segment) : ofDocument? s.toDocument = some s := by
  have members : s.toDocument.record? fieldNames = _ := Document.record?_record _ rfl (by decide)
  have segmentId : (Document.ofNat s.segmentId.toNat).nat? UInt32.size = some s.segmentId.toNat :=
    Document.nat?_ofNat s.segmentId.toNat_lt
  have position : (Document.ofString s.position.name).unitName?.bind Position.ofName? =
      some s.position := by
    rw [Document.unitName?_ofString, Option.bind_some, Position.ofName?_name]
  simp only [List.map_cons, List.map_nil] at members
  simp only [ofDocument?, members, segmentId, position, Document.word?_ofNat,
    Document.words?_ofWords, Document.digest?_ofDigest, Document.bytes?_ofBytes,
    Trace.ofDocument?_toDocument]
  exact congrArg (fun id => some { s with segmentId := id }) (UInt32.ofNat_toNat)

theorem parse?_fileBytes (s : Segment) : parse? s.fileBytes = some s := by
  rw [parse?, fileBytes, Document.parse?_render s.written, Option.bind_some,
    ofDocument?_toDocument]

end Segment

theorem readSegment_fileBytes (s : Segment) : readSegment s.fileBytes = .ok s := by
  rw [readSegment, s.parse?_fileBytes]

theorem writeSegment_ok {fs fs' : Files} {directory : String} {s : Segment}
    (h : writeSegment fs directory s = .ok fs') :
    fs.write (segmentPath directory s.segmentId) s.fileBytes = .ok fs' := by
  simp only [writeSegment] at h
  split at h
  · cases h
  case h_2 written =>
    cases h
    exact written

theorem Continuation.runSegment_output {α : Type} {c : Continuation α} {input : SegmentInput}
    {f : Finished α} (h : (c.runSegment input).1 = .returned f) :
    ∃ s s', c.start input = .returned s ∧
      (c.guest.main s.segmentId).run s = (.returned f.output, s') ∧
      f.segment.output = c.guest.codec.encode f.output := by
  rcases c.runSegment_cases input with ⟨failed, -⟩ | ⟨f', -, attempted, ahead⟩
  · rw [h] at failed
    cases failed
  · rw [ahead] at h
    cases h
    obtain ⟨s, s', start, ran, sealed⟩ := attempt_returned attempted
    obtain ⟨-, -, -, made⟩ := State.seal_ok sealed
    exact ⟨s, s', start, ran, by rw [made]⟩

/-- Every segment is found again in its own file, whatever its words, events and bytes are, also
after it was written among other files. The segment of a finished run that is loaded so gives
the value that the guest returned, if the codec of its output reads back what it writes. -/
theorem segment_file_lossless :
    (∀ s : Segment, readSegment s.fileBytes = .ok s) ∧
    (∀ (s : Segment) fs fs' directory, writeSegment fs directory s = .ok fs' →
      fs'.read (segmentPath directory s.segmentId) = .ok s.fileBytes) ∧
    ∀ {α : Type} (c : Continuation α) input f, (c.runSegment input).1 = .returned f →
      ∃ s s', c.start input = .returned s ∧
        (c.guest.main s.segmentId).run s = (.returned f.output, s') ∧
        (c.guest.codec.read (c.guest.codec.encode f.output) = some f.output →
          ∃ loaded, readSegment f.segment.fileBytes = .ok loaded ∧
            loaded.readOutput c.guest.codec = some f.output) := by
  refine ⟨readSegment_fileBytes, fun s fs fs' directory h => ?_, fun c input f h => ?_⟩
  · exact Files.read_write (writeSegment_ok h)
  · obtain ⟨s, s', start, ran, output⟩ := c.runSegment_output h
    refine ⟨s, s', start, ran, fun returns => ⟨f.segment, readSegment_fileBytes _, ?_⟩⟩
    rw [Segment.readOutput, output, returns]

/-- A sum of two words is kept in a file and found there. -/
theorem segment_file_lossless_adding :
    ∃ f fs, (Continuation.adding.runSegment ⟨[2], []⟩).1 = .returned f ∧
      writeSegment .empty "/tmp" f.segment = .ok fs ∧
      fs.read "/tmp/0" = .ok f.segment.fileBytes ∧
      ∃ loaded, readSegment f.segment.fileBytes = .ok loaded ∧
        loaded.readOutput .uint64 = some 2 := by
  have sum : (Continuation.adding.runSegment ⟨[2], []⟩).1.returned?.map
      (fun f => (f.output, f.segment.segmentId)) = some (2, 0) := by decide +kernel
  obtain ⟨-, kept, value⟩ := segment_file_lossless
  cases ran : (Continuation.adding.runSegment ⟨[2], []⟩).1 with
  | failed e =>
    rw [ran] at sum
    cases sum
  | trapped t =>
    rw [ran] at sum
    cases sum
  | returned f =>
    rw [ran] at sum
    obtain ⟨output, segmentId⟩ := Prod.mk.inj (Option.some.inj sum)
    have path : segmentPath "/tmp" f.segment.segmentId = "/tmp/0" := by rw [segmentId]; rfl
    have written : ∃ fs, writeSegment .empty "/tmp" f.segment = .ok fs := by
      simp only [writeSegment, path]
      exact ⟨_, rfl⟩
    obtain ⟨fs, written⟩ := written
    obtain ⟨-, -, -, -, loaded⟩ := value Continuation.adding ⟨[2], []⟩ f ran
    have found := kept f.segment .empty fs "/tmp" written
    rw [path] at found
    rw [output] at loaded
    exact ⟨f, fs, rfl, written, found, loaded (by decide +kernel)⟩

end SealedRun
