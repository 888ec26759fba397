import SealedRun.Proofs.Run.Gate

/-! Everything one move can do. A call on a running state is either refused, which touches
nothing but the step counter, the terminal error and the requirement counters, or it is
`Done`, with one rule for each call. `State.after_level` carries the invariant that makes
rollbacks vanish. -/
namespace SealedRun

/-- The requirement counters behind a refused call: a requirement that does not hold is
counted although it fails, unless a region is open. -/
def Call.tally {β : Type} (c : Call β) (s : State) : Constraints :=
  match c with
  | .require false => if s.sandbox.isOpen then s.constraints else s.constraints.require false
  | _ => s.constraints

/-- The state behind a call that a running state refuses with `e`. -/
def Call.refused {β : Type} (c : Call β) (s : State) (e : ExecutionError) : State :=
  { s with step := s.step + 1, terminal := some e, constraints := c.tally s }

/-- What a call that succeeds does to a running state. -/
inductive Done : {β : Type} → Call β → State → β → State → Prop
  | input {s : State} {v : Visibility} {w : Word} {tapes : Tapes}
      (outside : s.sandbox.frames = []) (h : s.tapes.read v = .ok (w, tapes)) :
      Done (.input v) s w { s with
        step := s.step + 1
        tapes
        instanceWords := s.instanceWords ++ v.published [w]
        trace := s.trace.push .wasmInput [v.flag] (some w) }
  | readBytes {s : State} {v : Visibility} {n : Nat} {ws : List Word} {tapes : Tapes}
      (outside : s.sandbox.frames = []) (h : s.tapes.readWords v (wordsFor n) = .ok (ws, tapes)) :
      Done (.readBytes v n) s (firstBytes ws n) { s with
        step := s.step + 1
        tapes
        instanceWords := s.instanceWords ++ v.published ws
        trace := s.trace.pushInputs v ws }
  | output {s : State} {w : Word} (outside : s.sandbox.frames = []) :
      Done (.output w) s () { s with
        step := s.step + 1
        instanceWords := s.instanceWords ++ [w]
        outputs := s.outputs ++ [w]
        trace := s.trace.push .wasmOutput [w] none }
  | require {s : State} (outside : s.sandbox.frames = []) :
      Done (.require true) s () { s with
        step := s.step + 1
        constraints := s.constraints.require true
        trace := s.trace.push .require [1] none }
  | readContext {s : State} {w : Word} {context : ContextCursor}
      (outside : s.sandbox.frames = []) (h : s.context.read = .ok (w, context)) :
      Done .readContext s w { s with
        step := s.step + 1
        context
        trace := s.trace.push .readContext [] (some w) }
  | writeContext {s : State} {w : Word} {context : ContextCursor}
      (outside : s.sandbox.frames = []) (h : s.context.write w = .ok context) :
      Done (.writeContext w) s () { s with
        step := s.step + 1
        context
        trace := s.trace.push .writeContext [w] none }
  | load {s : State} {addr : UInt32} (outside : s.sandbox.frames = []) :
      Done (.load addr) s (s.memory.word addr) { s with
        step := s.step + 1
        memory := (s.memory.load addr).2
        trace := s.trace.push .memoryLoad [addr.toUInt64] (some (s.memory.word addr)) }
  /-- A load inside a region. -/
  | peek {s : State} {addr : UInt32} {f : Frame} {fs : List Frame}
      (inside : s.sandbox.frames = f :: fs) :
      Done (.load addr) s (s.memory.word addr) { s with
        step := s.step + 1
        memory := (s.memory.load addr).2 }
  | store {s : State} {addr : UInt32} {w : Word} (outside : s.sandbox.frames = []) :
      Done (.store addr w) s () { s with
        step := s.step + 1
        memory := s.memory.store addr w
        trace := s.trace.push .memoryStore [addr.toUInt64, w] none }
  | log {s : State} {w : Word} (outside : s.sandbox.frames = []) :
      Done (.log w) s () { s with
        step := s.step + 1
        trace := s.trace.push .log [w] none }

namespace Done

variable {β : Type} {s s' : State} {c : Call β} {r : β}

/-- Only the opening and the end of a region change which regions are open. -/
theorem sandbox (h : Done c s r s') : s'.sandbox = s.sandbox := by
  cases h <;> rfl

theorem terminal (h : Done c s r s') : s'.terminal = s.terminal := by
  cases h <;> rfl

/-- A requirement that holds is counted, and nothing else is. -/
theorem checked (h : Done c s r s') :
    s'.constraints.checked =
      s.constraints.checked + if (Move.call c).op? = some .require then 1 else 0 := by
  cases h <;> rfl

/-- The only call that passes inside a region is not traced there. -/
theorem level (h : Done c s r s') (level : s.Level) : s'.Level := by
  cases h with
  | peek inside => exact level
  | _ => exact State.level_of_outside ‹_›

end Done

namespace State

variable {β : Type} {s : State}

theorem perform_outside (running : s.terminal = none) (outside : s.sandbox.frames = [])
    (c : Call β) :
    (∃ e, c.perform s = (.error e, c.refused s e)) ∨
      ∃ r s', c.perform s = (.ok r, s') ∧ Done c s r s' := by
  cases c with
  | input v =>
    have h := readInput_outside running outside v
    cases hr : s.tapes.read v with
    | error e => rw [hr] at h; exact .inl ⟨e, h⟩
    | ok r => rw [hr] at h; exact .inr ⟨_, _, h, .input outside hr⟩
  | readBytes v n =>
    have h := readBytes_outside running outside v n
    cases hr : s.tapes.readWords v (wordsFor n) with
    | error e => rw [hr] at h; exact .inl ⟨e, h⟩
    | ok r => rw [hr] at h; exact .inr ⟨_, _, h, .readBytes outside hr⟩
  | output w => exact .inr ⟨_, _, writeOutput_outside running outside w, .output outside⟩
  | require holds =>
    have h := require_outside running outside holds
    cases holds with
    | true => exact .inr ⟨_, _, h, .require outside⟩
    | false =>
      refine .inl ⟨.violated s.constraints.checked, h.trans ?_⟩
      simp only [Call.refused, Call.tally, Sandbox.isOpen, outside]
      rfl
  | readContext =>
    have h := readContext_outside running outside
    cases hr : s.context.read with
    | error e => rw [hr] at h; exact .inl ⟨e, h⟩
    | ok r => rw [hr] at h; exact .inr ⟨_, _, h, .readContext outside hr⟩
  | writeContext w =>
    have h := writeContext_outside running outside w
    cases hr : s.context.write w with
    | error e => rw [hr] at h; exact .inl ⟨e, h⟩
    | ok context => rw [hr] at h; exact .inr ⟨_, _, h, .writeContext outside hr⟩
  | load addr => exact .inr ⟨_, _, load_outside running outside addr, .load outside⟩
  | store addr w => exact .inr ⟨_, _, store_outside running outside addr w, .store outside⟩
  | log w => exact .inr ⟨_, _, logWord_outside running outside w, .log outside⟩

/-- A region counts no requirement. -/
theorem tally_inside {f : Frame} {fs : List Frame} (inside : s.sandbox.frames = f :: fs)
    (c : Call β) : c.tally s = s.constraints := by
  have h : s.sandbox.isOpen = true := by simp only [Sandbox.isOpen, inside]; rfl
  unfold Call.tally
  split
  · rw [h]; rfl
  · rfl

theorem tally_outside (outside : s.sandbox.frames = []) :
    (Call.require false).tally s = s.constraints.require false := by
  have h : s.sandbox.isOpen = false := by simp only [Sandbox.isOpen, outside]; rfl
  simp only [Call.tally, h, Bool.false_eq_true, ↓reduceIte]

/-- A running state refuses a call or carries it out. -/
theorem perform_running (running : s.terminal = none) (level : s.Level) (c : Call β) :
    (∃ e, c.perform s = (.error e, c.refused s e)) ∨
      ∃ r s', c.perform s = (.ok r, s') ∧ Done c s r s' := by
  cases hf : s.sandbox.frames with
  | nil => exact perform_outside running hf c
  | cons f fs =>
    by_cases h : c.op = .memoryLoad
    · cases c with
      | load addr => exact .inr ⟨_, _, load_inside running hf addr, .peek hf⟩
      | _ => cases h
    · refine .inl ⟨.phantomViolation f.region c.op, ?_⟩
      rw [perform_inside running hf c level h, Call.refused, tally_inside hf]

/-- Every move leaves open regions where the trace ends. -/
theorem after_level (m : Move) (s : State) (level : s.Level) : (m.after s).Level := by
  cases m with
  | call c =>
    cases ht : s.terminal with
    | some e => rw [Move.after, perform_ended ht]; exact level
    | none =>
      rcases perform_running ht level c with ⟨e, h⟩ | ⟨r, s', h, hd⟩
      · rw [Move.after, h]; exact level
      · rw [Move.after, h]; exact hd.level level
  | enter name =>
    cases ht : s.terminal with
    | some e => rw [Move.after, openRegion_ended ht]; exact level
    | none =>
      rw [Move.after, openRegion_running ht level]
      cases s.registry.checkTarget name with
      | error e => exact level
      | ok u =>
        intro f hf
        rcases List.mem_cons.mp hf with rfl | hf
        · rfl
        · exact level f hf
  | leave failure =>
    rw [Move.after, closeRegion_level level]
    intro f hf
    refine level f ?_
    cases hs : s.sandbox.frames with
    | nil => simp only [Sandbox.pop, hs, List.not_mem_nil] at hf
    | cons g fs =>
      simp only [Sandbox.pop, hs] at hf
      exact List.mem_cons_of_mem g hf

/-- A move that succeeds in a running state carries out a call, or opens or ends a region and
changes nothing else. -/
theorem after_success (running : s.terminal = none) (level : s.Level) {m : Move}
    (h : m.fault? s = none) :
    (∃ (β : Type) (c : Call β) (r : β), m = .call c ∧ Done c s r (m.after s)) ∨
      m.op? = none ∧ ∃ sandbox, m.after s = { s with sandbox } := by
  cases m with
  | call c =>
    rcases perform_running running level c with ⟨e, hp⟩ | ⟨r, s', hp, hd⟩
    · rw [Move.fault?, hp] at h
      cases h
    · refine .inl ⟨_, c, r, rfl, ?_⟩
      rw [Move.after, hp]
      exact hd
  | enter name =>
    rw [Move.fault?, openRegion_running running level] at h
    rw [Move.after, openRegion_running running level]
    cases hc : s.registry.checkTarget name with
    | error e =>
      rw [hc] at h
      cases h
    | ok u => exact .inr ⟨rfl, _, rfl⟩
  | leave failure =>
    rw [Move.fault?] at h
    refine .inr ⟨rfl, s.sandbox.pop.2, ?_⟩
    rw [Move.after, closeRegion_level level, h, running]
    rfl

/-- A run without errors keeps what calls that succeed keep, if open regions do not matter. -/
theorem Unbroken.preserves {P : State → Prop} (running : s.terminal = none) (level : s.Level)
    (call : ∀ {β : Type} {c : Call β} {s : State} {r : β} {s' : State}, Done c s r s' → P s → P s')
    (region : ∀ {s : State} (sandbox : Sandbox), P s → P { s with sandbox })
    {ms : List Move} (unbroken : s.Unbroken ms) (h : P s) : P (s.play ms) := by
  induction ms generalizing s with
  | nil => exact h
  | cons m ms ih =>
    have hl := after_level m s level
    rcases after_success running level unbroken.1 with ⟨β, c, r, -, hd⟩ | ⟨-, sandbox, hs⟩
    · exact ih (hd.terminal.trans running) hl unbroken.2 (call hd h)
    · rw [hs] at hl
      rw [State.play, hs]
      exact ih running hl (hs ▸ unbroken.2) (region sandbox h)

theorem Unbroken.running {ms : List Move} (running : s.terminal = none) (level : s.Level)
    (unbroken : s.Unbroken ms) : (s.play ms).terminal = none :=
  unbroken.preserves (P := fun t => t.terminal = none) running level
    (fun hd h => hd.terminal.trans h) (fun _ h => h) running

/-- A run without errors has counted the requirements that were stated. -/
theorem Unbroken.checked {ms : List Move} (running : s.terminal = none) (level : s.Level)
    (unbroken : s.Unbroken ms) :
    (s.play ms).constraints.checked = s.constraints.checked + countOp .require ms := by
  induction ms generalizing s with
  | nil => rfl
  | cons m ms ih =>
    have hl := after_level m s level
    rcases after_success running level unbroken.1 with ⟨β, c, r, rfl, hd⟩ | ⟨hop, sandbox, hs⟩
    · have later := ih (hd.terminal.trans running) hl unbroken.2
      rw [State.play, later, countOp_cons, hd.checked, Nat.add_right_comm, Nat.add_assoc]
    · have later := ih (by rwa [hs]) hl unbroken.2
      rw [State.play, later, hs, countOp_cons]
      simp [hop]

/-- The beginning and the end of a region touch the open regions and the terminal error. -/
theorem after_boundary (level : s.Level) {m : Move} (boundary : m.op? = none) :
    ∃ terminal sandbox, m.after s = { s with terminal, sandbox } := by
  cases m with
  | call c => cases boundary
  | enter name =>
    cases ht : s.terminal with
    | some e =>
      rw [Move.after, openRegion_ended ht]
      exact ⟨s.terminal, s.sandbox, rfl⟩
    | none =>
      rw [Move.after, openRegion_running ht level]
      cases s.registry.checkTarget name with
      | error e => exact ⟨some e, s.sandbox, rfl⟩
      | ok u => exact ⟨s.terminal, s.sandbox.push name s.trace.length, rfl⟩
  | leave failure =>
    rw [Move.after, closeRegion_level level]
    exact ⟨s.terminal <|> failure, s.sandbox.pop.2, rfl⟩

/-- A move carries out a call, or it touches nothing but the step counter, the terminal error,
the open regions and the requirement counters. -/
theorem after_cases (level : s.Level) (m : Move) :
    (∃ (β : Type) (c : Call β) (r : β), m = .call c ∧ Done c s r (m.after s)) ∨
      ∃ step terminal sandbox constraints,
        m.after s = { s with step, terminal, sandbox, constraints } := by
  cases m with
  | call c =>
    cases ht : s.terminal with
    | some e =>
      right
      rw [Move.after, perform_ended ht]
      exact ⟨s.step, s.terminal, s.sandbox, s.constraints, rfl⟩
    | none =>
      rcases perform_running ht level c with ⟨e, hp⟩ | ⟨r, s', hp, hd⟩
      · right
        rw [Move.after, hp]
        exact ⟨s.step + 1, some e, s.sandbox, c.tally s, rfl⟩
      · left
        rw [Move.after, hp]
        exact ⟨_, c, r, rfl, hd⟩
  | enter name =>
    obtain ⟨terminal, sandbox, hs⟩ := after_boundary level (m := .enter name) rfl
    exact .inr ⟨s.step, terminal, sandbox, s.constraints, hs⟩
  | leave failure =>
    obtain ⟨terminal, sandbox, hs⟩ := after_boundary level (m := .leave failure) rfl
    exact .inr ⟨s.step, terminal, sandbox, s.constraints, hs⟩

/-- Whatever fails in a run, it keeps what calls that succeed keep, if steps, errors, open
regions and requirements do not matter. -/
theorem Level.preserves {P : State → Prop} (level : s.Level)
    (call : ∀ {β : Type} {c : Call β} {s : State} {r : β} {s' : State}, Done c s r s' → P s → P s')
    (rest : ∀ {s : State} (step : Nat) (terminal : Option ExecutionError) (sandbox : Sandbox)
      (constraints : Constraints), P s → P { s with step, terminal, sandbox, constraints })
    (h : P s) (ms : List Move) : P (s.play ms) := by
  induction ms generalizing s with
  | nil => exact h
  | cons m ms ih =>
    refine ih (after_level m s level) ?_
    rcases after_cases level m with ⟨β, c, r, -, hd⟩ | ⟨step, terminal, sandbox, constraints, hs⟩
    · exact call hd h
    · rw [hs]
      exact rest step terminal sandbox constraints h

/-- A state before the first move. -/
theorem start_eq {segmentId : UInt32} {position : Position} {slots : Slots} {registry : Registry}
    {input : SegmentInput} {context : List Word}
    (h : State.start segmentId position slots registry input context = .returned s) :
    ∃ fits : context.length = slots.reads, s = {
      segmentId, registry
      memory := .empty
      tapes := .ofWords input.publicWords input.privateWords
      context := ⟨position, slots, context, 0, [], fits⟩
      constraints := .none
      trace := .empty
      sandbox := .empty
      instanceWords := []
      outputs := []
      step := 0
      terminal := none } := by
  unfold State.start ContextCursor.start at h
  split at h
  case isFalse => cases h
  case isTrue fits =>
    split at h
    · cases h
      exact ⟨fits, rfl⟩
    · cases h

end State

end SealedRun
