import SealedRun.Guest.Io
import SealedRun.Proofs.Input.Reading

/-! Framed values off a tape that can hold anything. The word in front of a frame may claim any
number of bytes, the words behind it may be too few, and their bytes may be no value at all. Each of
these ends the run with an error of its own, behind an exact number of words, and nothing else can
happen: no count of words is beyond a word, and no guest goes on behind a requirement that does not
hold. -/
namespace SealedRun

/-- Counting the words that hold `w` bytes needs no more than a word. -/
theorem wordsFor_toNat (w : Word) :
    (w / 8 + if w % 8 = 0 then 0 else 1).toNat = wordsFor w.toNat := by
  have small := w.toNat_lt
  have last : (w % 8 = 0) ↔ w.toNat % 8 = 0 := by
    rw [← UInt64.toNat_inj]
    simp
  by_cases whole : w.toNat % 8 = 0
  · rw [if_pos (last.mpr whole), wordsFor]
    simp
    omega
  · rw [if_neg (mt last.mp whole), wordsFor]
    simp
    omega

/-- What the counters of a run that goes on say of its past: the reads of each tape are in the
trace, and the requirements that were stated are counted. -/
theorem State.counters_tell {segmentId : UInt32} {position : Position} {slots : Slots}
    {registry : Registry} {input : SegmentInput} {context : List Word} {s₀ : State}
    (start : State.start segmentId position slots registry input context = .returned s₀)
    {ms : List Move} (running : (s₀.play ms).terminal = none) (v : Visibility) :
    ((s₀.play ms).tapes.tape v).reads = ((s₀.play ms).trace.inputs v).length ∧
      (s₀.play ms).constraints.checked = countOp .require ms := by
  have sound := State.start_sound start
  have unbroken := State.unbroken_of_running sound.level running
  constructor
  · rw [(State.start_consumed start ms v).reads, List.length_map]
  · obtain ⟨fits, rfl⟩ := State.start_eq start
    rw [unbroken.checked sound.terminal sound.level]
    exact Nat.zero_add _

/-- The state once a requirement is stated that holds. -/
def State.afterRequiring (s : State) : State :=
  { s with
    step := s.step + 1
    constraints := s.constraints.require true
    trace := s.trace.push .require [1] none }

section Outside

variable {s : State} (running : s.terminal = none) (outside : s.sandbox.frames = [])
include running outside

namespace Program

variable {α : Type} {v : Visibility} {w : Word} {rest : List Word}

theorem run_readFrame_empty (tape : (s.tapes.tape v).remaining = []) :
    (readFrame v).run s =
      (.failed (s.tapes.exhausted v), (Call.input v).refused s (s.tapes.exhausted v)) := by
  apply run_bind_failed
  exact run_request_error (State.readInput_exhausted running outside tape)

theorem run_readFrame_short (tape : (s.tapes.tape v).remaining = w :: rest)
    (short : rest.length < wordsFor w.toNat) :
    let e := ExecutionError.inputExhausted v ((s.tapes.tape v).reads + 1)
    (readFrame v).run s =
      (.failed e, (Call.readBytes v w.toNat).refused (s.afterReading v 1 1) e) := by
  intro e
  have first : (request (.input v)).run s = (.returned w, s.afterReading v 1 1) :=
    run_request_ok (State.readInput_next running outside tape)
  have behind : ((s.afterReading v 1 1).tapes.tape v).remaining.length < wordsFor w.toNat := by
    rw [State.remaining_afterReading, tape]
    exact short
  have counted : (s.afterReading v 1 1).tapes.exhausted v = e := by
    rw [Tapes.exhausted, State.afterReading, Tapes.tape_setTape]
    rfl
  rw [readFrame, run_bind_returned first]
  apply run_request_error
  rw [← counted]
  exact State.readBytes_exhausted (s := s.afterReading v 1 1) running outside behind

/-- The bytes of a frame are the first ones behind its first word. -/
theorem run_readFrame_enough (tape : (s.tapes.tape v).remaining = w :: rest)
    (enough : wordsFor w.toNat ≤ rest.length) :
    (readFrame v).run s = (.returned (firstBytes rest w.toNat),
      s.afterReading v 2 (1 + wordsFor w.toNat)) := by
  have first : (request (.input v)).run s = (.returned w, s.afterReading v 1 1) :=
    run_request_ok (State.readInput_next running outside tape)
  have behind : ((s.afterReading v 1 1).tapes.tape v).remaining = rest := by
    rw [State.remaining_afterReading, tape]
    rfl
  have bytes := State.readBytes_front (s := s.afterReading v 1 1) running outside
    (by rwa [behind] : wordsFor w.toNat ≤ ((s.afterReading v 1 1).tapes.tape v).remaining.length)
  rw [behind, State.afterReading_add] at bytes
  rw [readFrame, run_bind_returned first]
  exact run_request_ok bytes

theorem run_require_true : (request (.require true)).run s = (.returned (), s.afterRequiring) :=
  run_request_ok (State.require_outside running outside true)

theorem run_require_false :
    (request (.require false)).run s = (.failed (.violated s.constraints.checked),
      (Call.require false).refused s (.violated s.constraints.checked)) := by
  apply run_request_error
  rw [Call.perform, State.require_outside running outside, Call.refused, State.tally_outside outside]
  rfl

theorem run_reject :
    (reject : Program α).run s = (.failed (.violated s.constraints.checked),
      (Call.require false).refused s (.violated s.constraints.checked)) :=
  run_bind_failed (run_require_false running outside)

section Values

variable (c : Codec α)

theorem run_readValue_empty (tape : (s.tapes.tape v).remaining = []) :
    (readValue c v).run s =
      (.failed (s.tapes.exhausted v), (Call.input v).refused s (s.tapes.exhausted v)) :=
  run_bind_failed (run_readFrame_empty running outside tape)

theorem run_readValue_short (tape : (s.tapes.tape v).remaining = w :: rest)
    (short : rest.length < wordsFor w.toNat) :
    let e := ExecutionError.inputExhausted v ((s.tapes.tape v).reads + 1)
    (readValue c v).run s =
      (.failed e, (Call.readBytes v w.toNat).refused (s.afterReading v 1 1) e) :=
  run_bind_failed (run_readFrame_short running outside tape short)

variable {c} {a : α} (tape : (s.tapes.tape v).remaining = w :: rest)
  (enough : wordsFor w.toNat ≤ rest.length)
include tape enough

theorem run_readValue_decoded (known : c.read (firstBytes rest w.toNat) = some a) :
    (readValue c v).run s = (.returned a, s.afterReading v 2 (1 + wordsFor w.toNat)) := by
  rw [readValue, run_bind_returned (run_readFrame_enough running outside tape enough), known]
  rfl

theorem run_readValue_rejected (unknown : c.read (firstBytes rest w.toNat) = none) :
    let e := ExecutionError.violated s.constraints.checked
    (readValue c v).run s =
      (.failed e, (Call.require false).refused (s.afterReading v 2 (1 + wordsFor w.toNat)) e) := by
  intro e
  rw [readValue, run_bind_returned (run_readFrame_enough running outside tape enough), unknown]
  exact run_reject (s := s.afterReading v 2 (1 + wordsFor w.toNat)) running outside

end Values

/-- No tape stops a guest that reads a value. -/
theorem run_readValue_untrapped (c : Codec α) (t : Trap) : ((readValue c v).run s).1 ≠ .trapped t := by
  cases tape : (s.tapes.tape v).remaining with
  | nil =>
    rw [run_readValue_empty running outside c tape]
    simp
  | cons w rest =>
    by_cases short : rest.length < wordsFor w.toNat
    · rw [run_readValue_short running outside c tape short]
      simp
    · have enough := Nat.le_of_not_lt short
      cases known : c.read (firstBytes rest w.toNat) with
      | some a =>
        rw [run_readValue_decoded running outside tape enough known]
        simp
      | none =>
        rw [run_readValue_rejected running outside tape enough known]
        simp

end Program

/-- A value is read off a tape, whatever the tape holds and whatever the type. Without a first word
nothing is taken. Without the words that the first one asks for only this one is taken. Else all of
them are taken, and either their bytes are those of a value, or the run is rejected at the
requirement behind those that were stated, and never sealed. The host has no other answer, and
counts the words in a word. -/
theorem value_read_or_run_ended {α : Type} (c : Codec α) (v : Visibility) :
    let tape := s.tapes.tape v
    let result := (Program.readValue c v).run s
    (tape.remaining = [] →
      let e := ExecutionError.inputExhausted v tape.reads
      result = (.failed e, (Call.input v).refused s e) ∧ result.2.tapes = s.tapes) ∧
    (∀ w rest, tape.remaining = w :: rest → rest.length < wordsFor w.toNat →
      let e := ExecutionError.inputExhausted v (tape.reads + 1)
      result = (.failed e, (Call.readBytes v w.toNat).refused (s.afterReading v 1 1) e) ∧
      result.2.tapes = s.tapes.setTape v (tape.skip 1)) ∧
    (∀ w rest, tape.remaining = w :: rest → wordsFor w.toNat ≤ rest.length →
      let bs := firstBytes rest w.toNat
      let behind := s.afterReading v 2 (1 + wordsFor w.toNat)
      let e := ExecutionError.violated s.constraints.checked
      bs.length = w.toNat ∧
      result.2.tapes = s.tapes.setTape v (tape.skip (1 + wordsFor w.toNat)) ∧
      (∀ a, c.read bs = some a →
        result = (.returned a, behind) ∧ result.2.constraints = s.constraints) ∧
      (c.read bs = none → result = (.failed e, (Call.require false).refused behind e) ∧
        result.2.constraints.checked = s.constraints.checked + 1 ∧
        ∀ ms output digest, (result.2.play ms).seal output digest = .error e)) ∧
    (∀ t, result.1 ≠ .trapped t) ∧
    (∀ w : Word, (w / 8 + if w % 8 = 0 then 0 else 1).toNat = wordsFor w.toNat) ∧
    (∀ segmentId position slots registry input context s₀ ms,
      State.start segmentId position slots registry input context = .returned s₀ →
      s = s₀.play ms → tape.reads = (s.trace.inputs v).length ∧
        s.constraints.checked = countOp .require ms) := by
  intro tape result
  refine ⟨fun none_left => ?_, fun w rest parts few => ?_, fun w rest parts enough => ?_, ?_,
    wordsFor_toNat, ?_⟩
  · have empty := Program.run_readValue_empty running outside c none_left
    exact ⟨empty, congrArg (fun r => r.2.tapes) empty⟩
  · have short := Program.run_readValue_short running outside c parts few
    exact ⟨short, congrArg (fun r => r.2.tapes) short⟩
  · intro bs behind e
    have decoded {a : α} : c.read bs = some a → result = (.returned a, behind) :=
      Program.run_readValue_decoded running outside parts enough
    have rejected : c.read bs = none → result = (.failed e, (Call.require false).refused behind e) :=
      Program.run_readValue_rejected running outside parts enough
    refine ⟨length_firstBytes enough, ?_, ?_, ?_⟩
    · cases known : c.read bs with
      | some a => exact congrArg (fun r => r.2.tapes) (decoded known)
      | none => exact congrArg (fun r => r.2.tapes) (rejected known)
    · intro a known
      exact ⟨decoded known, congrArg (fun r => r.2.constraints) (decoded known)⟩
    · intro unknown
      have counted : (Call.require false).tally behind = behind.constraints.require false :=
        State.tally_outside outside
      rw [rejected unknown]
      refine ⟨rfl, congrArg Constraints.checked counted, ?_⟩
      intro ms output digest
      apply State.seal_ended
      apply State.play_ended rfl
      exact State.level_of_outside outside
  · exact Program.run_readValue_untrapped running outside c
  · rintro segmentId position slots registry input context s₀ ms start rfl
    exact State.counters_tell start running v

end Outside

/-- A text that claims more bytes than there are is rejected behind both words of its frame, and a
frame that claims as many bytes as a word can say leaves the word behind it on the tape. -/
theorem value_read_or_run_ended_claims :
    ∃ s, State.start 0 .only ⟨0, 0⟩ (.empty fun _ => true)
        ⟨[8, 0xffffffffffffffff], [0xffffffffffffffff, 5]⟩ [] = .returned s ∧
      s.terminal = none ∧ s.sandbox.frames = [] ∧
      ((Program.readValue Codec.string .pub).run s).1 = .failed (.violated 0) ∧
      ((Program.readValue Codec.string .pub).run s).2.constraints.checked = 1 ∧
      ((Program.readValue Codec.string .priv).run s).1 = .failed (.inputExhausted .priv 1) ∧
      ((Program.readValue Codec.string .priv).run s).2.tapes =
        ⟨.ofWords [8, 0xffffffffffffffff], ⟨[5], 1⟩⟩ := by
  obtain ⟨s, start⟩ : ∃ s, State.start 0 .only ⟨0, 0⟩ (.empty fun _ => true)
    ⟨[8, 0xffffffffffffffff], [0xffffffffffffffff, 5]⟩ [] = .returned s := ⟨_, rfl⟩
  have running : s.terminal = none := by cases start; rfl
  have outside : s.sandbox.frames = [] := by cases start; rfl
  have none_stated : s.constraints.checked = 0 := by cases start; rfl
  have tapes : s.tapes = .ofWords [8, 0xffffffffffffffff] [0xffffffffffffffff, 5] := by
    cases start; rfl
  obtain ⟨-, -, whole, -⟩ := value_read_or_run_ended running outside Codec.string .pub
  obtain ⟨-, short, -⟩ := value_read_or_run_ended running outside Codec.string .priv
  rw [tapes, none_stated] at whole
  rw [tapes] at short
  obtain ⟨-, -, -, rejected⟩ := whole 8 [0xffffffffffffffff] rfl (by decide)
  obtain ⟨ended, counted, -⟩ := rejected (by decide +kernel)
  obtain ⟨exhausted, left⟩ := short 0xffffffffffffffff [5] rfl (by decide)
  exact ⟨s, start, running, outside, congrArg Prod.fst ended, counted,
    congrArg Prod.fst exhausted, left⟩

end SealedRun
