import SealedRun.Proofs.Context.Cursor
import SealedRun.Proofs.Run.Step

/-! Why a call fails. A running state refuses a call only for one of the reasons of `Refused`,
and each reason settles the error. -/
namespace SealedRun

namespace Tapes

variable {t t' : Tapes} {v : Visibility} {e : ExecutionError}

/-- A read fails only at the end of the tape. -/
theorem read_error (h : t.read v = .error e) : (t.tape v).next? = none ∧ e = t.exhausted v := by
  unfold read at h
  cases hn : (t.tape v).next? with
  | none =>
    rw [hn] at h
    cases h
    exact ⟨rfl, rfl⟩
  | some r =>
    rw [hn] at h
    cases h

theorem readWords_error {n : Nat} (h : t.readWords v n = .error e) :
    (t.tape v).take? n = none ∧ e = t.exhausted v := by
  unfold readWords at h
  cases hn : (t.tape v).take? n with
  | none =>
    rw [hn] at h
    cases h
    exact ⟨rfl, rfl⟩
  | some r =>
    rw [hn] at h
    cases h

end Tapes

theorem Registry.checkTarget_error {r : Registry} {name : String} {e : ExecutionError}
    (h : r.checkTarget name = .error e) : ∃ reason, e = .invalidTarget name reason := by
  unfold checkTarget at h
  split at h
  · cases h
    exact ⟨.unknown, rfl⟩
  · split at h
    · cases h
      exact ⟨.inlined, rfl⟩
    · split at h
      · cases h
      · cases h
        exact ⟨.notDesignated, rfl⟩

/-- Why a running state refuses a call, with the error that it gives. -/
inductive Refused : {β : Type} → Call β → State → ExecutionError → Prop
  /-- Inside a region everything but a load is refused in the name of the innermost one. -/
  | inside {β : Type} {c : Call β} {s : State} {f : Frame} {fs : List Frame}
      (inside : s.sandbox.frames = f :: fs) (traced : c.op ≠ .memoryLoad) :
      Refused c s (.phantomViolation f.region c.op)
  | input {s : State} {v : Visibility} (outside : s.sandbox.frames = [])
      (h : (s.tapes.tape v).next? = none) : Refused (.input v) s (s.tapes.exhausted v)
  | readBytes {s : State} {v : Visibility} {n : Nat} (outside : s.sandbox.frames = [])
      (h : (s.tapes.tape v).take? (wordsFor n) = none) :
      Refused (.readBytes v n) s (s.tapes.exhausted v)
  | require {s : State} (outside : s.sandbox.frames = []) :
      Refused (.require false) s (.violated s.constraints.checked)
  | readContext {s : State} {op : ContextOp} {actual : Nat} (outside : s.sandbox.frames = [])
      (h : s.context.read = .error (s.context.mismatch op actual)) :
      Refused .readContext s (s.context.mismatch op actual)
  | writeContext {s : State} {w : Word} {op : ContextOp} {actual : Nat}
      (outside : s.sandbox.frames = [])
      (h : s.context.write w = .error (s.context.mismatch op actual)) :
      Refused (.writeContext w) s (s.context.mismatch op actual)

namespace State

variable {β : Type} {s : State} {c : Call β} {e : ExecutionError}

theorem perform_refused_inside {f : Frame} {fs : List Frame} (running : s.terminal = none)
    (level : s.Level) (inside : s.sandbox.frames = f :: fs)
    (h : error? (c.perform s).1 = some e) : Refused c s e := by
  by_cases traced : c.op = .memoryLoad
  · cases c with
    | load addr =>
      rw [Call.perform, load_inside running inside] at h
      cases h
    | _ => cases traced
  · rw [perform_inside running inside c level traced] at h
    cases h
    exact .inside inside traced

theorem perform_refused_outside (running : s.terminal = none) (outside : s.sandbox.frames = [])
    (h : error? (c.perform s).1 = some e) : Refused c s e := by
  cases c with
  | input v =>
    rw [Call.perform, readInput_outside running outside] at h
    cases hr : s.tapes.read v with
    | ok r => rw [hr] at h; cases h
    | error e' =>
      rw [hr] at h
      cases h
      obtain ⟨hn, rfl⟩ := Tapes.read_error hr
      exact .input outside hn
  | readBytes v n =>
    rw [Call.perform, readBytes_outside running outside] at h
    cases hr : s.tapes.readWords v (wordsFor n) with
    | ok r => rw [hr] at h; cases h
    | error e' =>
      rw [hr] at h
      cases h
      obtain ⟨hn, rfl⟩ := Tapes.readWords_error hr
      exact .readBytes outside hn
  | output w => rw [Call.perform, writeOutput_outside running outside] at h; cases h
  | require holds =>
    rw [Call.perform, require_outside running outside] at h
    cases holds with
    | true => cases h
    | false => cases h; exact .require outside
  | readContext =>
    rw [Call.perform, readContext_outside running outside] at h
    cases hr : s.context.read with
    | ok r => rw [hr] at h; cases h
    | error e' =>
      rw [hr] at h
      cases h
      obtain ⟨op, actual, rfl⟩ := ContextCursor.read_error hr
      exact .readContext outside hr
  | writeContext w =>
    rw [Call.perform, writeContext_outside running outside] at h
    cases hr : s.context.write w with
    | ok context => rw [hr] at h; cases h
    | error e' =>
      rw [hr] at h
      cases h
      obtain ⟨op, actual, rfl⟩ := ContextCursor.write_error hr
      exact .writeContext outside hr
  | load addr => rw [Call.perform, load_outside running outside] at h; cases h
  | store addr w => rw [Call.perform, store_outside running outside] at h; cases h
  | log w => rw [Call.perform, logWord_outside running outside] at h; cases h

theorem perform_refused (running : s.terminal = none) (level : s.Level)
    (h : error? (c.perform s).1 = some e) : Refused c s e := by
  cases hf : s.sandbox.frames with
  | nil => exact perform_refused_outside running hf h
  | cons f fs => exact perform_refused_inside running level hf h

/-- A running state refuses a region only for its function. -/
theorem openRegion_fault {name : String} (running : s.terminal = none) (level : s.Level)
    (h : error? (s.openRegion name).1 = some e) : ∃ reason, e = .invalidTarget name reason := by
  rw [openRegion_running running level] at h
  cases hc : s.registry.checkTarget name with
  | ok u => rw [hc] at h; cases h
  | error e' =>
    rw [hc] at h
    cases h
    exact Registry.checkTarget_error hc

end State

end SealedRun
