import SealedRun.Proofs.Trace.Account
import SealedRun.Segment.Basic

/-! Checkpoints of one trace. A checkpoint is no more than a length, so what a rollback gives back
hangs on what happened since the checkpoint was taken. Events below the shortest length in between
are still those of then, and if that length is the checkpoint itself, the rollback gives back the
whole trace. The numbers of the events have no gap, whatever was cut off and recorded anew. -/
namespace SealedRun

/-- A trace and the checkpoints taken of it, in their order. -/
structure Recording where
  trace : Trace
  taken : List Nat

inductive Edit
  | push (op : HostOp) (args : List Word) (ret : Option Word)
  | checkpoint
  /-- Back to a checkpoint; they are counted from zero. -/
  | rollback (which : Nat)

def Edit.isRollback : Edit → Bool
  | rollback _ => true
  | _ => false

namespace Trace

variable {t : Trace}

theorem rollback_prefix (t : Trace) (mark : Nat) : (t.rollback mark).events <+: t.events :=
  List.take_prefix mark t.events

/-- There is nothing to cut off behind the end. -/
theorem rollback_of_length_le {mark : Nat} (short : t.length ≤ mark) : t.rollback mark = t := by
  rw [rollback, List.take_of_length_le short]

theorem numbered_empty : empty.Numbered := nofun

theorem Numbered.rollback (h : t.Numbered) (mark : Nat) : (t.rollback mark).Numbered := by
  intro i hi
  simp only [Trace.rollback, List.getElem_take]
  exact h i _

end Trace

namespace Recording

def empty : Recording := ⟨.empty, []⟩

/-- Only a checkpoint that was taken can be gone back to. -/
def edit (r : Recording) : Edit → Recording
  | .push op args ret => { r with trace := r.trace.push op args ret }
  | .checkpoint => { r with taken := r.taken ++ [r.trace.checkpoint] }
  | .rollback which =>
    match r.taken[which]? with
    | some mark => { r with trace := r.trace.rollback mark }
    | none => r

def after (r : Recording) (edits : List Edit) : Recording := edits.foldl edit r

/-- Every rollback among the edits leaves `n` events or more. -/
def Keeps (n : Nat) : Recording → List Edit → Prop
  | _, [] => True
  | r, e :: es => (e.isRollback = true → n ≤ (r.edit e).trace.length) ∧ Keeps n (r.edit e) es

variable {r : Recording} {which mark : Nat}

theorem after_append (r : Recording) (front later : List Edit) :
    r.after (front ++ later) = (r.after front).after later := List.foldl_append

theorem edit_rollback (known : r.taken[which]? = some mark) :
    r.edit (.rollback which) = { r with trace := r.trace.rollback mark } := by
  rw [edit, known]

theorem edit_rollback_unknown (unknown : r.taken[which]? = none) :
    r.edit (.rollback which) = r := by
  rw [edit, unknown]

/-- What holds of a trace and survives recording and cutting off survives every edit. -/
theorem edit_trace {P : Trace → Prop} (h : P r.trace)
    (push : ∀ op args ret, P (r.trace.push op args ret)) (rollback : ∀ mark, P (r.trace.rollback mark))
    (e : Edit) : P (r.edit e).trace := by
  cases e with
  | push op args ret => exact push op args ret
  | checkpoint => exact h
  | rollback which =>
    cases found : r.taken[which]? with
    | none => exact (edit_rollback_unknown found).symm ▸ h
    | some mark => exact (edit_rollback found).symm ▸ rollback mark

theorem numbered_after (h : r.trace.Numbered) (edits : List Edit) :
    (r.after edits).trace.Numbered := by
  induction edits generalizing r with
  | nil => exact h
  | cons e edits ih => exact ih (edit_trace h h.push h.rollback e)

/-- Checkpoints are not forgotten. -/
theorem taken_edit (r : Recording) (e : Edit) : r.taken <+: (r.edit e).taken := by
  cases e with
  | push op args ret => exact List.prefix_rfl
  | checkpoint => exact List.prefix_append _ _
  | rollback which =>
    cases found : r.taken[which]? with
    | none => exact (edit_rollback_unknown found).symm ▸ List.prefix_rfl
    | some mark => exact (edit_rollback found).symm ▸ List.prefix_rfl

theorem taken_after (r : Recording) (edits : List Edit) : r.taken <+: (r.after edits).taken := by
  induction edits generalizing r with
  | nil => exact List.prefix_rfl
  | cons e edits ih => exact (taken_edit r e).trans (ih (r.edit e))

/-- An edit that leaves `n` events leaves the first `n` as they were. -/
theorem front_edit {n : Nat} (long : n ≤ r.trace.length) {e : Edit}
    (keeps : e.isRollback = true → n ≤ (r.edit e).trace.length) :
    n ≤ (r.edit e).trace.length ∧
      (r.edit e).trace.events.take n = r.trace.events.take n := by
  cases e with
  | push op args ret =>
    constructor
    · simp only [edit, Trace.push, Trace.length, List.length_append]
      exact Nat.le_add_right_of_le long
    · exact List.take_append_of_le_length long
  | checkpoint => exact ⟨long, rfl⟩
  | rollback which =>
    have left := keeps rfl
    cases found : r.taken[which]? with
    | none => exact (edit_rollback_unknown found).symm ▸ ⟨long, rfl⟩
    | some mark =>
      rw [edit_rollback found] at left ⊢
      have below : n ≤ mark := by
        simp only [Trace.rollback, Trace.length, List.length_take] at left
        omega
      refine ⟨left, ?_⟩
      simp only [Trace.rollback, List.take_take, Nat.min_eq_left below]

/-- The first `n` events stay if no rollback goes below `n`. -/
theorem front_after {n : Nat} (long : n ≤ r.trace.length) {edits : List Edit}
    (keeps : r.Keeps n edits) :
    (r.after edits).trace.events.take n = r.trace.events.take n := by
  induction edits generalizing r with
  | nil => rfl
  | cons e edits ih =>
    obtain ⟨long', same⟩ := front_edit long keeps.1
    exact (ih long' keeps.2).trans same

/-- A checkpoint gives back the trace of which it was taken, if no rollback since went below it. -/
theorem rollback_after {edits : List Edit} (keeps : r.Keeps r.trace.length edits) :
    (r.after edits).trace.rollback r.trace.checkpoint = r.trace := by
  have same := front_after (Nat.le_refl _) keeps
  rw [Trace.length, List.take_length] at same
  exact congrArg Trace.mk same

/-- The next checkpoint keeps its number. -/
theorem taken_checkpoint (r : Recording) (edits : List Edit) :
    ((r.edit .checkpoint).after edits).taken[r.taken.length]? = some r.trace.checkpoint := by
  obtain ⟨later, all⟩ := taken_after (r.edit .checkpoint) edits
  rw [← all, edit, List.append_assoc, List.getElem?_append_right (Nat.le_refl _), Nat.sub_self]
  rfl

/-- After any edits of a new trace, with rollbacks to whatever checkpoint and in whatever order: the
events are numbered by their places; the checkpoint that was taken after the edits `before` gives
back the trace as it was, with its digest and its counts, if no rollback since went to fewer events;
a rollback always leaves a front of the trace, and one to a checkpoint that the trace does not reach
beyond changes nothing. -/
theorem checkpoint_gives_back (edits : List Edit) :
    let r := empty.after edits
    (∀ i (h : i < r.trace.events.length), r.trace.events[i].eid = UInt64.ofNat i) ∧
    (∀ before since, edits = before ++ .checkpoint :: since →
      let was := empty.after before
      let back := r.edit (.rollback was.taken.length)
      (was.edit .checkpoint).Keeps was.trace.length since →
        back.trace = was.trace ∧ back.trace.digest = was.trace.digest ∧
        ∀ op, back.trace.count op = was.trace.count op) ∧
    ∀ which,
      (r.edit (.rollback which)).trace.events <+: r.trace.events ∧
      ∀ mark, r.taken[which]? = some mark → r.trace.length ≤ mark →
        r.edit (.rollback which) = r := by
  intro r
  refine ⟨numbered_after Trace.numbered_empty edits, ?_, fun which => ⟨?_, ?_⟩⟩
  · rintro before since rfl was back keeps
    have behind : r = (was.edit .checkpoint).after since := after_append empty before _
    have known : r.taken[was.taken.length]? = some was.trace.checkpoint :=
      behind ▸ taken_checkpoint was since
    have same : back.trace = was.trace := by
      have given := rollback_after (r := was.edit .checkpoint) keeps
      rw [← behind] at given
      exact (congrArg trace (edit_rollback known)).trans given
    exact ⟨same, congrArg Trace.digest same, fun op => congrArg (Trace.count · op) same⟩
  · cases found : r.taken[which]? with
    | none => exact (edit_rollback_unknown found).symm ▸ List.prefix_rfl
    | some mark => exact (edit_rollback found).symm ▸ r.trace.rollback_prefix mark
  · intro mark known short
    rw [edit_rollback known, Trace.rollback_of_length_le short]

/-- A checkpoint behind one event is gone back to past a later checkpoint, and after a rollback to
that one. -/
theorem checkpoint_gives_back_first :
    let first : List Edit := [.push .log [1] none]
    let since : List Edit := [.push .log [2] none, .checkpoint, .push .log [3] none, .rollback 1,
      .push .require [1] none]
    let r := empty.after (first ++ .checkpoint :: since)
    r.trace.length = 3 ∧ (r.edit (.rollback 0)).trace = ⟨[⟨0, .log, [1], none⟩]⟩ ∧
      (r.edit (.rollback 0)).trace.count .log = 1 := by
  intro first since r
  have keeps : ((empty.after first).edit .checkpoint).Keeps 1 since := by
    refine ⟨nofun, nofun, nofun, fun _ => ?_, nofun, trivial⟩
    decide
  obtain ⟨same, -, counts⟩ := (checkpoint_gives_back _).2.1 first since rfl keeps
  exact ⟨rfl, same, counts .log⟩

/-- Gone back to after a rollback to fewer events, a checkpoint keeps what was recorded anew. -/
example :
    (empty.after [.checkpoint, .push .log [1] none, .checkpoint, .rollback 0, .push .log [2] none,
      .rollback 1]).trace = ⟨[⟨0, .log, [2], none⟩]⟩ := rfl

end Recording

end SealedRun
