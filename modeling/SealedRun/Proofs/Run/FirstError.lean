import SealedRun.Proofs.Context.Cursor
import SealedRun.Proofs.Run.Step
import SealedRun.Segment.Basic

/-! The first error of a run is its last word. Behind it nothing moves any more, whatever the
guest makes of it, and no segment comes of the run; without one, the context slots alone
decide. Moves stand for every way of calling and of treating errors. -/
namespace SealedRun

namespace Move

/-- The state behind the first move that fails. -/
def halted : Move → State → ExecutionError → State
  | call c, s, e => c.refused s e
  | enter _, s, e => { s with terminal := some e }
  | leave _, s, e => { s with terminal := some e, sandbox := s.sandbox.pop.2 }

/-- The state behind a move that comes after an error: only regions still end. -/
def ignored : Move → State → State
  | leave _, s => { s with sandbox := s.sandbox.pop.2 }
  | _, s => s

end Move

namespace State

variable {s : State} {e : ExecutionError}

theorem after_fault (running : s.terminal = none) (level : s.Level) {m : Move}
    (h : m.fault? s = some e) : m.after s = m.halted s e := by
  cases m with
  | call c =>
    rcases perform_running running level c with ⟨e', hp⟩ | ⟨r, s', hp, -⟩
    · rw [Move.fault?, hp] at h
      cases h
      exact congrArg Prod.snd hp
    · rw [Move.fault?, hp] at h
      cases h
  | enter name =>
    rw [Move.fault?, openRegion_running running level] at h
    rw [Move.after, openRegion_running running level]
    cases hc : s.registry.checkTarget name with
    | error e' =>
      rw [hc] at h
      cases h
      rfl
    | ok u =>
      rw [hc] at h
      cases h
  | leave failure =>
    rw [Move.fault?] at h
    rw [Move.after, closeRegion_level level, running, h]
    rfl

theorem after_ended (ended : s.terminal = some e) (level : s.Level) (m : Move) :
    m.after s = m.ignored s ∧ (m.IsRequest → m.fault? s = some e) := by
  cases m with
  | call c =>
    rw [Move.after, Move.fault?, perform_ended ended]
    exact ⟨rfl, fun _ => rfl⟩
  | enter name =>
    rw [Move.after, Move.fault?, openRegion_ended ended]
    exact ⟨rfl, fun _ => rfl⟩
  | leave failure =>
    rw [Move.after, closeRegion_level level, ended]
    refine ⟨?_, False.elim⟩
    simp only [Move.ignored, ended]
    rfl

theorem halted_terminal (m : Move) : (m.halted s e).terminal = some e := by
  cases m <;> rfl

theorem halted_trace (m : Move) : (m.halted s e).trace = s.trace := by
  cases m <;> rfl

theorem ignored_eq (m : Move) : ∃ sandbox, m.ignored s = { s with sandbox } := by
  cases m with
  | leave failure => exact ⟨s.sandbox.pop.2, rfl⟩
  | _ => exact ⟨s.sandbox, rfl⟩

/-- Behind an error only open regions still end. -/
theorem play_ended_eq (ended : s.terminal = some e) (level : s.Level) (ms : List Move) :
    ∃ sandbox, s.play ms = { s with sandbox } := by
  induction ms generalizing s with
  | nil => exact ⟨s.sandbox, rfl⟩
  | cons m ms ih =>
    have level' := after_level m s level
    obtain ⟨sandbox, hs⟩ := ignored_eq (s := s) m
    rw [State.play]
    rw [(after_ended ended level m).1, hs] at level' ⊢
    obtain ⟨sandbox', h⟩ := ih (s := { s with sandbox }) ended level'
    exact ⟨sandbox', h⟩

/-- An ended run stays ended with the same error. -/
theorem play_ended (ended : s.terminal = some e) (level : s.Level) (ms : List Move) :
    (s.play ms).terminal = some e := by
  obtain ⟨sandbox, h⟩ := play_ended_eq ended level ms
  rw [h]
  exact ended

/-- Only a run without an error goes on. -/
theorem unbroken_of_running (level : s.Level) {ms : List Move}
    (h : (s.play ms).terminal = none) : s.Unbroken ms := by
  induction ms generalizing s with
  | nil => trivial
  | cons m ms ih =>
    have hl := after_level m s level
    have running : s.terminal = none := by
      cases ht : s.terminal with
      | none => rfl
      | some e => rw [play_ended ht level] at h; cases h
    cases hf : m.fault? s with
    | none => exact ⟨hf, ih hl h⟩
    | some e =>
      have ended : (m.after s).terminal = some e := by
        rw [after_fault running level hf, halted_terminal]
      rw [State.play, play_ended ended hl] at h
      cases h

/-- A run that has ended did so at the first move that failed, and nothing was traced since. -/
theorem ended_split (running : s.terminal = none) (level : s.Level) {ms : List Move}
    (ended : (s.play ms).terminal = some e) :
    ∃ before m later, ms = before ++ m :: later ∧ s.Unbroken before ∧
      m.fault? (s.play before) = some e ∧ (s.play ms).trace = (s.play before).trace := by
  rcases s.unbroken_or_split ms with unbroken | ⟨before, m, later, e', rfl, unbroken, fault⟩
  · rw [unbroken.running running level] at ended
    cases ended
  · have level' : (s.play before).Level := play_preserves after_level level before
    have halted := after_fault (unbroken.running running level) level' fault
    have stopped : (m.after (s.play before)).terminal = some e' := by
      rw [halted, halted_terminal]
    obtain ⟨sandbox, behind⟩ := play_ended_eq stopped (after_level m _ level') later
    have last : s.play (before ++ m :: later) = { m.after (s.play before) with sandbox } :=
      (s.play_append before (m :: later)).trans behind
    have same : e' = e := by
      rw [last] at ended
      exact Option.some.inj (stopped.symm.trans ended)
    refine ⟨before, m, later, rfl, unbroken, same ▸ fault, ?_⟩
    rw [last, halted]
    exact halted_trace m

theorem seal_ended (ended : s.terminal = some e) (output : Bytes) (digest : Digest) :
    s.seal output digest = .error e := by
  rw [State.seal, ended]

/-- Only a run that goes on and used all its slots is sealed. -/
theorem seal_ok {output : Bytes} {digest : Digest} {segment : Segment}
    (h : s.seal output digest = .ok segment) :
    s.terminal = none ∧ s.context.reads = s.context.slots.reads ∧
      s.context.outputs.length = s.context.slots.writes ∧ segment = {
        segmentId := s.segmentId
        position := s.context.position
        step := UInt64.ofNat s.step
        instanceWords := s.instanceWords
        outputs := s.outputs
        contextInputs := s.context.inputs
        contextOutputs := s.context.outputs
        preContextDigest := digest
        contextDigest := contextDigest s.context.outputs
        trace := s.trace
        traceDigest := s.trace.digest
        constraints := UInt64.ofNat s.constraints.checked
        output } := by
  unfold State.seal at h
  cases ht : s.terminal with
  | some e =>
    rw [ht] at h
    cases h
  | none =>
    cases hv : s.constraints.violatedAt with
    | some site =>
      rw [ht, hv] at h
      cases h
    | none =>
      cases hf : s.context.finalize with
      | error e =>
        rw [ht, hv, hf] at h
        cases h
      | ok ws =>
        rw [ht, hv, hf] at h
        obtain ⟨hr, hw, rfl⟩ := ContextCursor.finalize_ok.mp hf
        cases h
        exact ⟨rfl, hr, hw, rfl⟩

theorem seal_held {handed : List Word} (running : s.terminal = none)
    (held : s.constraints.violatedAt = none) (given : s.context.finalize = .ok handed)
    (output : Bytes) (digest : Digest) :
    ∃ segment, s.seal output digest = .ok segment ∧ segment.trace = s.trace := by
  rw [State.seal, running, held, given]
  exact ⟨_, rfl, rfl⟩

/-- What a run that did not fail has come to after the moves `ms`: the counters of its
context slots are the numbers of reads and writes among them. -/
structure Sound (position : Position) (slots : Slots) (ms : List Move) (s : State) : Prop where
  level : s.Level
  terminal : s.terminal = none
  violatedAt : s.constraints.violatedAt = none
  position_eq : s.context.position = position
  slots_eq : s.context.slots = slots
  reads : s.context.reads = countOp .readContext ms
  writes : s.context.outputs.length = countOp .writeContext ms

variable {position : Position} {slots : Slots} {ms : List Move}

theorem Sound.after {m : Move} (h : s.Sound position slots ms) (hm : m.fault? s = none) :
    (m.after s).Sound position slots (ms ++ [m]) := by
  have hl := after_level m s h.level
  rcases after_success h.terminal h.level hm with ⟨β, c, r, rfl, hd⟩ | ⟨hop, sandbox, hs⟩
  · generalize (Move.call c).after s = s' at hl hd
    cases hd with
    | readContext outside hr =>
      obtain ⟨rfl, -⟩ := ContextCursor.read_ok hr
      exact ⟨hl, h.terminal, h.violatedAt, h.position_eq, h.slots_eq,
        by simp [countOp_snoc, Move.op?, Call.op, h.reads],
        by simp [countOp_snoc, Move.op?, Call.op, h.writes]⟩
    | writeContext outside hw =>
      obtain ⟨rfl, -⟩ := ContextCursor.write_ok hw
      exact ⟨hl, h.terminal, h.violatedAt, h.position_eq, h.slots_eq,
        by simp [countOp_snoc, Move.op?, Call.op, h.reads],
        by simp [countOp_snoc, Move.op?, Call.op, h.writes]⟩
    | _ => exact ⟨hl, h.terminal, h.violatedAt, h.position_eq, h.slots_eq,
        by simp [countOp_snoc, Move.op?, Call.op, h.reads],
        by simp [countOp_snoc, Move.op?, Call.op, h.writes]⟩
  · rw [hs] at hl ⊢
    exact ⟨hl, h.terminal, h.violatedAt, h.position_eq, h.slots_eq,
      by simp [countOp_snoc, hop, h.reads], by simp [countOp_snoc, hop, h.writes]⟩

theorem Sound.play (h : s.Sound position slots ms) {later : List Move}
    (unbroken : s.Unbroken later) : (s.play later).Sound position slots (ms ++ later) := by
  induction later generalizing s ms with
  | nil =>
    rw [List.append_nil]
    exact h
  | cons m later ih =>
    have := ih (h.after unbroken.1) unbroken.2
    rwa [List.append_assoc] at this

theorem start_sound {segmentId : UInt32} {registry : Registry} {input : SegmentInput}
    {context : List Word}
    (h : State.start segmentId position slots registry input context = .returned s) :
    s.Sound position slots [] := by
  obtain ⟨fits, rfl⟩ := start_eq h
  exact ⟨level_of_outside rfl, rfl, rfl, rfl, rfl, rfl, rfl⟩

/-- Sealing a run that did not fail is up to its context slots. -/
theorem Sound.seal_eq (h : s.Sound position slots ms) (output : Bytes) (digest : Digest) :
    ((∃ segment, s.seal output digest = .ok segment) ↔
      countOp .readContext ms = slots.reads ∧ countOp .writeContext ms = slots.writes) ∧
    ∀ e, s.seal output digest = .error e →
      (countOp .readContext ms ≠ slots.reads ∧
        e = .contextMismatch position .read slots.reads (countOp .readContext ms)) ∨
      (countOp .readContext ms = slots.reads ∧ countOp .writeContext ms ≠ slots.writes ∧
        e = .contextMismatch position .write slots.writes (countOp .writeContext ms)) := by
  obtain ⟨-, ht, hv, rfl, rfl, hr, hw⟩ := h
  rw [← hr, ← hw, State.seal, ht, hv]
  cases hf : s.context.finalize with
  | error e =>
    have he := ContextCursor.finalize_error hf
    refine ⟨⟨fun ⟨_, hs⟩ => (by cases hs), fun hc => ?_⟩, fun e' h' => ?_⟩
    · have : s.context.finalize = .ok s.context.outputs :=
        ContextCursor.finalize_ok.mpr ⟨hc.1, hc.2, rfl⟩
      rw [this] at hf
      cases hf
    · cases h'
      exact he
  | ok ws =>
    obtain ⟨hr', hw', -⟩ := ContextCursor.finalize_ok.mp hf
    exact ⟨⟨fun _ => ⟨hr', hw'⟩, fun _ => ⟨_, rfl⟩⟩, nofun⟩

end State

/-- Whatever moves are made from the start of a run on, either none of them fails, or there is
a first one that does. That one changes nothing but the step counter, the terminal error and,
for a requirement that does not hold, its counters; every request behind it gets the same
error and changes nothing at all; and no segment comes of the run. If none fails, a segment
comes of it exactly when all slots were read and written. -/
theorem first_error_is_final {segmentId : UInt32} {position : Position} {slots : Slots}
    {registry : Registry} {input : SegmentInput} {context : List Word} {s : State}
    (start : State.start segmentId position slots registry input context = .returned s)
    (output : Bytes) (digest : Digest) (ms : List Move) :
    (s.Unbroken ms ∨ ∃ before m later e, ms = before ++ m :: later ∧ s.Unbroken before ∧
      m.fault? (s.play before) = some e) ∧
    (∀ before m later e, ms = before ++ m :: later → s.Unbroken before →
        m.fault? (s.play before) = some e →
      m.after (s.play before) = m.halted (s.play before) e ∧
      (∀ mid m' rest, later = mid ++ m' :: rest →
        let t := s.play (before ++ m :: mid)
        m'.after t = m'.ignored t ∧ (m'.IsRequest → m'.fault? t = some e)) ∧
      (s.play ms).seal output digest = .error e) ∧
    (s.Unbroken ms →
      ((∃ segment, (s.play ms).seal output digest = .ok segment) ↔
        countOp .readContext ms = slots.reads ∧ countOp .writeContext ms = slots.writes) ∧
      ∀ e, (s.play ms).seal output digest = .error e →
        (countOp .readContext ms ≠ slots.reads ∧
          e = .contextMismatch position .read slots.reads (countOp .readContext ms)) ∨
        (countOp .readContext ms = slots.reads ∧ countOp .writeContext ms ≠ slots.writes ∧
          e = .contextMismatch position .write slots.writes (countOp .writeContext ms))) := by
  have sound := State.start_sound start
  refine ⟨s.unbroken_or_split ms, ?_, fun unbroken => (sound.play unbroken).seal_eq output digest⟩
  rintro before m later e rfl unbroken fault
  have at_fault := sound.play unbroken
  have halted := State.after_fault at_fault.terminal at_fault.level fault
  have level := State.after_level m _ at_fault.level
  have ended : (m.after (s.play before)).terminal = some e := by
    rw [halted, State.halted_terminal]
  -- everything behind the first error is played from the state it left
  have behind (later : List Move) :
      s.play (before ++ m :: later) = (m.after (s.play before)).play later :=
    s.play_append before (m :: later)
  refine ⟨halted, ?_, ?_⟩
  · rintro mid m' rest rfl
    rw [behind]
    exact State.after_ended (State.play_ended ended level mid)
      (State.play_preserves State.after_level level mid) m'
  · rw [behind]
    exact State.seal_ended (State.play_ended ended level later) output digest

/-- A guest that goes past the error of an output in a region and states a requirement that
holds gets no segment. -/
theorem first_error_is_final_past_output :
    let registry := (Registry.empty fun _ => true).enter ⟨"search", false⟩
    let before : List Move := [.call .readContext, .enter "search"]
    let later : List Move := [.leave none, .call (.require true)]
    let e := ExecutionError.phantomViolation "search" .wasmOutput
    ∃ s, State.start 0 .only ⟨1, 0⟩ registry ⟨[], []⟩ [7] = .returned s ∧ s.Unbroken before ∧
      (Move.call (.output 5)).fault? (s.play before) = some e ∧
      (s.play (before ++ .call (.output 5) :: later)).seal [] (contextDigest [7]) = .error e := by
  intro registry before later e
  obtain ⟨s, start⟩ : ∃ s, State.start 0 .only ⟨1, 0⟩ registry ⟨[], []⟩ [7] = .returned s :=
    ⟨_, rfl⟩
  have final := first_error_is_final start [] (contextDigest [7])
    (before ++ .call (.output 5) :: later)
  obtain ⟨fits, rfl⟩ := State.start_eq start
  exact ⟨_, start, ⟨rfl, rfl, trivial⟩, rfl,
    (final.2.1 before _ later e rfl ⟨rfl, rfl, trivial⟩ rfl).2.2⟩

end SealedRun
