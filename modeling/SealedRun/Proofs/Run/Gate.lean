import SealedRun.Proofs.Run.Moves

/-! What one operation does, by the state it meets. A run that has ended answers with its
error; inside a region all but loads is refused; outside of regions an operation does its
work. Everything said about whole runs rests on the equations of this file. -/
namespace SealedRun

theorem Trace.rollback_length (t : Trace) : t.rollback t.length = t := by
  cases t
  simp only [rollback, length, List.take_length]

/-- The mark by which the trace tells the tapes apart. -/
def Visibility.flag (v : Visibility) : Word := if v.isPublic then 1 else 0

/-- What words read from the tape add to the instance. -/
def Visibility.published (v : Visibility) (ws : List Word) : List Word :=
  if v.isPublic then ws else []

/-- One event for each word read. -/
def Trace.pushInputs (t : Trace) (v : Visibility) : List Word → Trace
  | [] => t
  | w :: ws => (t.push .wasmInput [v.flag] (some w)).pushInputs v ws

theorem Visibility.published_append (v : Visibility) (ws us : List Word) :
    v.published (ws ++ us) = v.published ws ++ v.published us := by
  cases v <;> rfl

theorem Trace.pushInputs_append (t : Trace) (v : Visibility) (ws us : List Word) :
    t.pushInputs v (ws ++ us) = (t.pushInputs v ws).pushInputs v us := by
  induction ws generalizing t with
  | nil => rfl
  | cons w ws ih => exact ih _

namespace State

variable {β : Type} {s : State} {e : ExecutionError}

/-- Every open region began where the trace ends now, so nothing is ever rolled back. -/
def Level (s : State) : Prop := ∀ f ∈ s.sandbox.frames, f.checkpoint = s.trace.length

theorem level_of_outside (outside : s.sandbox.frames = []) : s.Level := by
  intro f hf
  rw [outside] at hf
  cases hf

theorem Level.entry (level : s.Level) {mark : Nat} (h : s.sandbox.entry? = some mark) :
    mark = s.trace.length := by
  obtain ⟨f, hf, rfl⟩ := Option.map_eq_some_iff.mp h
  exact level f (List.mem_of_getLast? hf)

theorem fail_running (running : s.terminal = none) (level : s.Level) :
    s.fail e = { s with terminal := some e } := by
  unfold fail
  rw [running]
  cases h : s.sandbox.entry? with
  | none => rfl
  | some mark =>
    rw [level.entry h]
    simp only [Trace.rollback_length]
    rfl

theorem refuse_running (running : s.terminal = none) (level : s.Level) :
    (s.refuse e : Answer β) = (.error e, { s with terminal := some e }) := by
  rw [refuse, fail_running running level]

section Ended

variable (ended : s.terminal = some e)
include ended

theorem enter_ended (op : HostOp) (act : State → Answer β) : s.enter op act = (.error e, s) := by
  rw [enter, ended]

theorem perform_ended (c : Call β) : c.perform s = (.error e, s) := by
  cases c <;> simp only [Call.perform, readInput, readBytes, writeOutput, require, readContext,
    writeContext, load, store, logWord, enter_ended ended, ended]

theorem openRegion_ended (name : String) : s.openRegion name = (.error e, s) := by
  rw [openRegion, ended]

end Ended

section Running

variable (running : s.terminal = none)
include running

theorem enter_running (op : HostOp) (act : State → Answer β) :
    s.enter op act = match s.sandbox.check op with
      | .error e => { s with step := s.step + 1 }.refuse e
      | .ok () => act { s with step := s.step + 1 } := by
  cases h : s.sandbox.check op <;> simp only [enter, running, h]

theorem load_running (addr : UInt32) :
    s.load addr = (.ok (s.memory.word addr), { s with
      step := s.step + 1
      memory := (s.memory.load addr).2 }.record .memoryLoad [addr.toUInt64]
        (some (s.memory.word addr))) := by
  simp only [load, running, Memory.load]

end Running

section Region

variable {f : Frame} {fs : List Frame} (running : s.terminal = none)
  (inside : s.sandbox.frames = f :: fs)
include running inside

theorem enter_inside (op : HostOp) (act : State → Answer β) :
    s.enter op act = { s with step := s.step + 1 }.refuse (.phantomViolation f.region op) := by
  rw [enter_running running, Sandbox.check, inside]

theorem perform_inside (c : Call β) (level : s.Level) (h : c.op ≠ .memoryLoad) :
    c.perform s = (.error (.phantomViolation f.region c.op), { s with
      step := s.step + 1
      terminal := some (.phantomViolation f.region c.op) }) := by
  have hr (op : HostOp) : (State.refuse { s with step := s.step + 1 }
      (.phantomViolation f.region op) : Answer β) = (.error (.phantomViolation f.region op),
        { s with step := s.step + 1, terminal := some (.phantomViolation f.region op) }) :=
    refuse_running running level
  cases c with
  | load addr => exact absurd rfl h
  | _ => simp only [Call.perform, readInput, readBytes, writeOutput, require, readContext,
      writeContext, store, logWord, enter_inside running inside, hr, Call.op]

omit running in
theorem record_inside (op : HostOp) (args : List Word) (ret : Option Word) :
    s.record op args ret = s := by
  simp only [record, Sandbox.isOpen, inside]
  rfl

theorem load_inside (addr : UInt32) :
    s.load addr = (.ok (s.memory.word addr), { s with
      step := s.step + 1
      memory := (s.memory.load addr).2 }) := by
  rw [load_running running, record_inside]
  exact inside

end Region

section Outside

variable (running : s.terminal = none) (outside : s.sandbox.frames = [])
include running outside

theorem enter_outside (op : HostOp) (act : State → Answer β) :
    s.enter op act = act { s with step := s.step + 1 } := by
  rw [enter_running running, Sandbox.check, outside]

omit running in
theorem record_outside (op : HostOp) (args : List Word) (ret : Option Word) :
    s.record op args ret = { s with trace := s.trace.push op args ret } := by
  simp only [record, Sandbox.isOpen, outside]
  rfl

omit running in
theorem consume_outside (v : Visibility) (w : Word) :
    consume v s w = { s with
      instanceWords := s.instanceWords ++ v.published [w]
      trace := s.trace.push .wasmInput [v.flag] (some w) } := by
  cases h : v.isPublic <;>
    simp [consume, Visibility.published, Visibility.flag, h, record_outside, outside]

omit running in
theorem foldl_consume_outside (v : Visibility) (ws : List Word) :
    ws.foldl (consume v) s = { s with
      instanceWords := s.instanceWords ++ v.published ws
      trace := s.trace.pushInputs v ws } := by
  induction ws generalizing s with
  | nil => simp only [List.foldl_nil, Visibility.published, ite_self, List.append_nil,
      Trace.pushInputs]
  | cons w ws ih =>
    have hp : v.published [w] ++ v.published ws = v.published (w :: ws) :=
      (v.published_append [w] ws).symm
    rw [List.foldl_cons, consume_outside outside, ih]
    · simp only [Trace.pushInputs, List.append_assoc, hp]
    · exact outside

theorem readInput_outside (v : Visibility) :
    s.readInput v = match s.tapes.read v with
      | .error e => (.error e, { s with step := s.step + 1, terminal := some e })
      | .ok (w, tapes) => (.ok w, { s with
          step := s.step + 1
          tapes
          instanceWords := s.instanceWords ++ v.published [w]
          trace := s.trace.push .wasmInput [v.flag] (some w) }) := by
  rw [readInput, enter_outside running outside]
  cases h : s.tapes.read v with
  | error e => exact refuse_running running (level_of_outside outside)
  | ok r => simp only [consume_outside, outside]

theorem readBytes_outside (v : Visibility) (n : Nat) :
    s.readBytes v n = match s.tapes.readWords v (wordsFor n) with
      | .error e => (.error e, { s with step := s.step + 1, terminal := some e })
      | .ok (ws, tapes) => (.ok (firstBytes ws n), { s with
          step := s.step + 1
          tapes
          instanceWords := s.instanceWords ++ v.published ws
          trace := s.trace.pushInputs v ws }) := by
  rw [readBytes, enter_outside running outside]
  cases h : s.tapes.readWords v (wordsFor n) with
  | error e => exact refuse_running running (level_of_outside outside)
  | ok r => simp only [foldl_consume_outside, outside]

theorem writeOutput_outside (w : Word) :
    s.writeOutput w = (.ok (), { s with
      step := s.step + 1
      instanceWords := s.instanceWords ++ [w]
      outputs := s.outputs ++ [w]
      trace := s.trace.push .wasmOutput [w] none }) := by
  rw [writeOutput, enter_outside running outside]
  simp only [record_outside, outside]

theorem require_outside (holds : Bool) :
    s.require holds = if holds then (.ok (), { s with
        step := s.step + 1
        constraints := s.constraints.require true
        trace := s.trace.push .require [1] none })
      else (.error (.violated s.constraints.checked), { s with
        step := s.step + 1
        constraints := s.constraints.require false
        terminal := some (.violated s.constraints.checked) }) := by
  rw [require, enter_outside running outside]
  cases holds with
  | true => simp only [↓reduceIte, record_outside, outside]
  | false => exact refuse_running running (level_of_outside outside)

theorem readContext_outside :
    s.readContext = match s.context.read with
      | .error e => (.error e, { s with step := s.step + 1, terminal := some e })
      | .ok (w, context) => (.ok w, { s with
          step := s.step + 1
          context
          trace := s.trace.push .readContext [] (some w) }) := by
  rw [readContext, enter_outside running outside]
  cases h : s.context.read with
  | error e => exact refuse_running running (level_of_outside outside)
  | ok r => simp only [record_outside, outside]

theorem writeContext_outside (w : Word) :
    s.writeContext w = match s.context.write w with
      | .error e => (.error e, { s with step := s.step + 1, terminal := some e })
      | .ok context => (.ok (), { s with
          step := s.step + 1
          context
          trace := s.trace.push .writeContext [w] none }) := by
  rw [writeContext, enter_outside running outside]
  cases h : s.context.write w with
  | error e => exact refuse_running running (level_of_outside outside)
  | ok context => simp only [record_outside, outside]

theorem load_outside (addr : UInt32) :
    s.load addr = (.ok (s.memory.word addr), { s with
      step := s.step + 1
      memory := (s.memory.load addr).2
      trace := s.trace.push .memoryLoad [addr.toUInt64] (some (s.memory.word addr)) }) := by
  rw [load_running running, record_outside]
  exact outside

theorem store_outside (addr : UInt32) (w : Word) :
    s.store addr w = (.ok (), { s with
      step := s.step + 1
      memory := s.memory.store addr w
      trace := s.trace.push .memoryStore [addr.toUInt64, w] none }) := by
  rw [store, enter_outside running outside]
  simp only [record_outside, outside]

theorem logWord_outside (w : Word) :
    s.logWord w = (.ok (), { s with
      step := s.step + 1
      trace := s.trace.push .log [w] none }) := by
  rw [logWord, enter_outside running outside]
  simp only [record_outside, outside]

end Outside

theorem openRegion_running (running : s.terminal = none) (level : s.Level) (name : String) :
    s.openRegion name = match s.registry.checkTarget name with
      | .error e => (.error e, { s with terminal := some e })
      | .ok () => (.ok (), { s with sandbox := s.sandbox.push name s.trace.length }) := by
  rw [openRegion, running]
  cases h : s.registry.checkTarget name with
  | error e => exact refuse_running running level
  | ok u => rfl

/-- A region that is opened is the innermost one of a run that goes on. -/
theorem openRegion_ok {s' : State} {name : String} (h : s.openRegion name = (.ok (), s')) :
    s' = { s with sandbox := s.sandbox.push name s.trace.checkpoint } ∧
      s'.terminal = none ∧ s'.sandbox.frames ≠ [] := by
  unfold openRegion at h
  cases ht : s.terminal with
  | some e =>
    rw [ht] at h
    cases h
  | none =>
    cases hc : s.registry.checkTarget name with
    | error e =>
      rw [ht, hc] at h
      cases h
    | ok u =>
      rw [ht, hc] at h
      cases h
      exact ⟨by rw [← ht], rfl, List.cons_ne_nil _ _⟩

/-- Closing a region only takes its frame away and, if the run goes on, ends it with the
region's error. -/
theorem closeRegion_level (level : s.Level) (failure : Option ExecutionError) :
    s.closeRegion failure = { s with
      sandbox := s.sandbox.pop.2
      terminal := s.terminal <|> failure } := by
  cases failure with
  | none => cases h : s.terminal <;> simp [closeRegion, h]
  | some e =>
    cases h : s.sandbox.frames with
    | nil => simp only [closeRegion, Sandbox.pop, h]
    | cons f fs =>
      have hf : f.checkpoint = s.trace.length := level f (h ▸ List.mem_cons_self)
      simp only [closeRegion, Sandbox.pop, h, hf, Trace.rollback_length]

end State

end SealedRun
