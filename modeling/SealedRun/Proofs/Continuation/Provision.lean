import SealedRun.Proofs.Context.Handover
import SealedRun.Proofs.Continuation.History

/-! What a segment finds when it starts. The check of the schema before the first segment is enough
for all that follow: a sealed segment has written as many slots as its position says, and the next
position reads as many. So only the first segment can be refused before it starts, and only for the
context that the computation was opened with. -/
namespace SealedRun

section Start

variable {segmentId : UInt32} {position : Position} {slots : Slots} {registry : Registry}
  {input : SegmentInput} {context : List Word}

theorem State.start_refused (short : context.length ≠ slots.reads) :
    State.start segmentId position slots registry input context =
      .failed (.contextMismatch position .read slots.reads context.length) := by
  rw [State.start, ContextCursor.start, dif_neg short]
  rfl

theorem State.start_admitted (fits : context.length = slots.reads) (e : ExecutionError) :
    State.start segmentId position slots registry input context ≠ .failed e := by
  rw [State.start, ContextCursor.start, dif_pos fits]
  intro refused
  split at refused <;> cases refused

/-- A context of the right length is enough, as long as the slots to write can be held. -/
theorem State.start_returned_iff (fits : context.length = slots.reads) :
    (∃ s, State.start segmentId position slots registry input context = .returned s) ↔
      slots.writes ≤ ContextCursor.maxWrites := by
  rw [State.start, ContextCursor.start, dif_pos fits]
  split
  case isTrue h => exact iff_of_true ⟨_, rfl⟩ h
  case isFalse h =>
    refine iff_of_false ?_ h
    rintro ⟨s, started⟩
    cases started

end Start

namespace Continuation

variable {α : Type} {c : Continuation α} {input : SegmentInput} {f : Finished α}
  {schema : ContextSchema} {total : Nat} {context : List Word}

/-- A segment hands out as many slots as its position writes. -/
theorem attempt_writes (h : c.attempt input = .returned f) :
    f.segment.contextOutputs.length = (c.schema.slots (.ofIndex c.next c.total)).writes := by
  obtain ⟨s, s', start, hr, sealed⟩ := attempt_returned h
  obtain rfl : (c.guest.main s.segmentId |>.run s).2 = s' := congrArg Prod.snd hr
  rw [Program.run_eq_play] at sealed
  obtain ⟨-, given⟩ := State.sealed_play start sealed
  obtain ⟨-, -, written, hseg⟩ := State.seal_ok sealed
  rw [hseg, ← given.slots_eq]
  exact written

/-- Before the first segment the context is the one given; from then on it has the length that the
next position reads. -/
structure Provided (schema : ContextSchema) (total : Nat) (context : List Word)
    (c : Continuation α) : Prop where
  schema_eq : c.schema = schema
  total_eq : c.total = total
  next_le : c.next ≤ total
  first : c.next = 0 → c.context = context
  later : 0 < c.next → c.next < total →
    c.context.length = (schema.slots (.ofIndex c.next total)).reads

theorem Provided.runSegment (valid : schema.validateSequence total = .ok ())
    (h : c.Provided schema total context) (input : SegmentInput) :
    (c.runSegment input).2.Provided schema total context := by
  rcases runSegment_cases c input with ⟨-, same⟩ | ⟨f, unfinished, finished, ahead⟩
  · rw [same]
    exact h
  · have next_lt : c.next < total :=
      Nat.lt_of_le_of_ne h.next_le (h.total_eq ▸ unfinished)
    have written := attempt_writes finished
    rw [h.schema_eq, h.total_eq] at written
    rw [ahead]
    refine ⟨h.schema_eq, h.total_eq, next_lt, nofun, fun _ behind => ?_⟩
    calc f.segment.contextOutputs.length
        _ = (schema.slots (.ofIndex c.next total)).writes := written
        _ = (schema.slots (.ofIndex (c.next + 1) total)).reads :=
          ContextSchema.validateSequence_ok.mp valid (c.next + 1) (Nat.succ_pos _) behind

theorem Provided.afterAll (valid : schema.validateSequence total = .ok ())
    (h : c.Provided schema total context) (inputs : List SegmentInput) :
    (c.afterAll inputs).Provided schema total context := by
  induction inputs generalizing c with
  | nil => exact h
  | cons input inputs ih => exact ih (h.runSegment valid input)

theorem open_provided {h : Host} {g : Guest α} (opened : open? h g total context = .ok c) :
    h.config.schema.validateSequence total = .ok () ∧
      c.Provided h.config.schema total context := by
  obtain ⟨valid, registry, rfl⟩ := open?_ok opened
  exact ⟨valid, rfl, rfl, Nat.zero_le _, fun _ => rfl, nofun⟩

/-- A call whose segment cannot start is answered without the guest. -/
theorem runSegment_refused {e : ExecutionError} (unfinished : c.next ≠ c.total)
    (refused : c.start input = .failed e) : c.runSegment input = (.failed e, c) := by
  have attempted : c.attempt input = .failed e := by rw [attempt, refused]; rfl
  rw [runSegment, if_neg fun finished => unfinished (isFinished_iff.mp finished), attempted]

end Continuation

/-- However many segments were asked for and whichever of them failed, the context held for the
next segment has the length that its position reads, if it is not the first one, and the start of
that segment is not refused; it succeeds whenever the slots to be written can be held. The first
segment is refused exactly when the context given at the beginning has another length than its
position reads, and then nothing is asked of the guest, whatever guest it is. -/
theorem context_always_provided {α : Type} {h : Host} {g : Guest α} {total : Nat}
    {context : List Word} {c₀ : Continuation α}
    (opened : Continuation.open? h g total context = .ok c₀) (inputs : List SegmentInput) :
    let c := c₀.afterAll inputs
    let slots := h.config.schema.slots (.ofIndex c.next total)
    c.next ≤ total ∧
    (0 < c.next → c.next < total → c.context.length = slots.reads ∧
      ∀ input, (∀ e, c.start input ≠ .failed e) ∧
        ((∃ s, c.start input = .returned s) ↔ slots.writes ≤ ContextCursor.maxWrites)) ∧
    (c.next = 0 → 0 < total → ∀ input,
      ((∃ e, c.start input = .failed e) ↔ context.length ≠ slots.reads) ∧
      (context.length ≠ slots.reads → ∀ main,
        let other := { c with guest.main := main }
        other.runSegment input =
          (.failed (.contextMismatch (.ofIndex 0 total) .read slots.reads context.length),
            other))) := by
  intro c slots
  obtain ⟨valid, provided₀⟩ := Continuation.open_provided opened
  have provided : c.Provided h.config.schema total context := provided₀.afterAll valid inputs
  have held : c.schema.slots (.ofIndex c.next c.total) = slots := by
    rw [provided.schema_eq, provided.total_eq]
  refine ⟨provided.next_le, fun behind unfinished => ?_, fun first unfinished input => ?_⟩
  · have fits : c.context.length = slots.reads := provided.later behind unfinished
    rw [← held] at fits ⊢
    exact ⟨fits, fun input => ⟨State.start_admitted fits, State.start_returned_iff fits⟩⟩
  · have given : c.context = context := provided.first first
    have refused (short : context.length ≠ slots.reads) : c.start input =
        .failed (.contextMismatch (.ofIndex 0 total) .read slots.reads context.length) := by
      rw [← given, ← held] at short
      rw [Continuation.start, State.start_refused short, held, given, provided.total_eq, first]
    refine ⟨⟨fun ⟨e, he⟩ fits => ?_, fun short => ⟨_, refused short⟩⟩, ?_⟩
    · rw [← given, ← held] at fits
      exact State.start_admitted fits e he
    · intro short main other
      refine Continuation.runSegment_refused ?_ (refused short)
      rw [provided.total_eq, first]
      exact Nat.ne_of_lt unfinished

/-- Behind a failed call and a finished segment the second segment starts; a computation opened
with no slot at all is refused before its guest is asked for anything. -/
theorem context_always_provided_adding :
    let host : Host := ⟨⟨.uniform 1 1, []⟩, .empty fun _ => false⟩
    let inputs : List SegmentInput := [⟨[], []⟩, ⟨[2], []⟩]
    let c := Continuation.adding.afterAll inputs
    let short : Continuation Word :=
      { Continuation.adding with context := [], preContextDigest := contextDigest [] }
    Continuation.open? host Continuation.adding.guest 2 [0] = .ok Continuation.adding ∧
      c.next = 1 ∧ (∀ input, ∃ s, c.start input = .returned s) ∧
      Continuation.open? host Continuation.adding.guest 2 [] = .ok short ∧
      ∀ input, short.runSegment input =
        (.failed (.contextMismatch .first .read 1 0), short) := by
  intro host inputs c short
  have opened : Continuation.open? host Continuation.adding.guest 2 [0] =
    .ok Continuation.adding := rfl
  have opened' : Continuation.open? host Continuation.adding.guest 2 [] = .ok short := rfl
  have second : c.next = 1 := by decide +kernel
  have behind : 0 < c.next := by omega
  have unfinished : c.next < 2 := by omega
  obtain ⟨-, later, -⟩ := context_always_provided opened inputs
  obtain ⟨-, -, first⟩ := context_always_provided opened' []
  refine ⟨opened, second, fun input => ?_, opened', fun input => ?_⟩
  · exact ((later behind unfinished).2 input).2.mpr (by decide)
  · exact (first rfl (by decide) input).2 (by decide) short.guest.main

end SealedRun
