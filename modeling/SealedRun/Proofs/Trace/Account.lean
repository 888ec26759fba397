import SealedRun.Proofs.Run.Gate

/-! What a trace says about the run that left it: the words it published, the context slots
it read and wrote, and the requirements it stated. An account is read off the events alone,
and grows with each of them. -/
namespace SealedRun

namespace Event

/-- The word that the event adds to the instance: a public input or an output. -/
def published? (e : Event) : Option Word :=
  match e.op with
  | .wasmInput => if e.args = [1] then e.ret else none
  | .wasmOutput => e.args.head?
  | _ => none

def output? (e : Event) : Option Word := if e.op = .wasmOutput then e.args.head? else none

def slotRead? (e : Event) : Option Word := if e.op = .readContext then e.ret else none

def slotWritten? (e : Event) : Option Word := if e.op = .writeContext then e.args.head? else none

/-- Arguments and result are those of the operation. -/
def Regular (e : Event) : Prop :=
  match e.op with
  | .wasmInput => ∃ v : Visibility, ∃ w, e.args = [v.flag] ∧ e.ret = some w
  | .wasmOutput => ∃ w, e.args = [w] ∧ e.ret = none
  | .require => e.args = [1] ∧ e.ret = none
  | .readContext => ∃ w, e.args = [] ∧ e.ret = some w
  | .writeContext => ∃ w, e.args = [w] ∧ e.ret = none
  | .memoryLoad => ∃ addr : UInt32, ∃ w, e.args = [addr.toUInt64] ∧ e.ret = some w
  | .memoryStore => ∃ addr : UInt32, ∃ w, e.args = [addr.toUInt64, w] ∧ e.ret = none
  | .log => ∃ w, e.args = [w] ∧ e.ret = none

end Event

@[ext] structure Account where
  published : List Word
  outputs : List Word
  slotsRead : List Word
  slotsWritten : List Word
  requirements : Nat

/-- The account of one more event. -/
def Account.add (a : Account) (e : Event) : Account where
  published := a.published ++ e.published?.toList
  outputs := a.outputs ++ e.output?.toList
  slotsRead := a.slotsRead ++ e.slotRead?.toList
  slotsWritten := a.slotsWritten ++ e.slotWritten?.toList
  requirements := a.requirements + if e.op = .require then 1 else 0

namespace Trace

def account (t : Trace) : Account where
  published := t.events.filterMap Event.published?
  outputs := t.events.filterMap Event.output?
  slotsRead := t.events.filterMap Event.slotRead?
  slotsWritten := t.events.filterMap Event.slotWritten?
  requirements := t.count .require

/-- Events are numbered without gaps and have the form of their operations, and no context
slot is read behind a write. -/
structure Orderly (t : Trace) : Prop where
  numbered : ∀ i (h : i < t.events.length), t.events[i].eid = UInt64.ofNat i
  regular : ∀ e ∈ t.events, e.Regular
  readsFirst : t.events.Pairwise fun e e' => e.op = .writeContext → e'.op ≠ .readContext

theorem orderly_empty : empty.Orderly := ⟨nofun, nofun, .nil⟩

variable {t : Trace}

/-- Every event is numbered by its place. -/
def Numbered (t : Trace) : Prop :=
  ∀ i (h : i < t.events.length), t.events[i].eid = UInt64.ofNat i

theorem Numbered.push (h : t.Numbered) (op : HostOp) (args : List Word) (ret : Option Word) :
    (t.push op args ret).Numbered := by
  intro i hi
  rw [Trace.push, List.length_append, List.length_singleton] at hi
  rcases Nat.lt_or_eq_of_le (Nat.le_of_lt_succ hi) with hlt | rfl
  · simp only [Trace.push, List.getElem_append_left hlt]
    exact h i hlt
  · simp only [Trace.push, List.getElem_concat_length]
    rfl

theorem Orderly.push (h : t.Orderly) {op : HostOp} {args : List Word} {ret : Option Word}
    (regular : Event.Regular ⟨UInt64.ofNat t.length, op, args, ret⟩)
    (unwritten : op = .readContext → ∀ e ∈ t.events, e.op ≠ .writeContext) :
    (t.push op args ret).Orderly where
  numbered := Numbered.push h.numbered op args ret
  regular e he := by
    rcases List.mem_append.mp he with he | he
    · exact h.regular e he
    · rw [List.mem_singleton.mp he]
      exact regular
  readsFirst := by
    refine List.pairwise_append.mpr ⟨h.readsFirst, List.pairwise_singleton _ _, ?_⟩
    intro e he e' he' hw hr
    rw [List.mem_singleton.mp he'] at hr
    exact unwritten hr e he hw

theorem Orderly.read_before_write (h : t.Orderly) {i j : Nat} (hi : i < t.events.length)
    (hj : j < t.events.length) (hr : t.events[i].op = .readContext)
    (hw : t.events[j].op = .writeContext) : i < j := by
  refine Nat.lt_of_not_le fun hle => ?_
  rcases Nat.lt_or_eq_of_le hle with hlt | rfl
  · exact List.pairwise_iff_getElem.mp h.readsFirst j i hj hi hlt hw hr
  · rw [hr] at hw
    cases hw

/-- A trace whose account has no written slot holds no write. -/
theorem Orderly.unwritten (h : t.Orderly) (hn : t.account.slotsWritten = []) :
    ∀ e ∈ t.events, e.op ≠ .writeContext := by
  intro e he hw
  have hr := h.regular e he
  rw [Event.Regular, hw] at hr
  obtain ⟨w, ha, -⟩ := hr
  have hs : e.slotWritten? = none := List.filterMap_eq_nil_iff.mp hn e he
  rw [Event.slotWritten?, hw, ha] at hs
  cases hs

theorem account_empty : empty.account = ⟨[], [], [], [], 0⟩ := rfl

theorem filterMap_push {β : Type} (f : Event → Option β) (op : HostOp) (args : List Word)
    (ret : Option Word) :
    (t.push op args ret).events.filterMap f =
      t.events.filterMap f ++ (f ⟨UInt64.ofNat t.length, op, args, ret⟩).toList := by
  rw [push, List.filterMap_append]
  cases h : f ⟨UInt64.ofNat t.length, op, args, ret⟩ with
  | none => rw [List.filterMap_cons_none h, List.filterMap_nil, Option.toList_none]
  | some b => rw [List.filterMap_cons_some h, List.filterMap_nil, Option.toList_some]

theorem count_push (op op' : HostOp) (args : List Word) (ret : Option Word) :
    (t.push op args ret).count op' = t.count op' + if op = op' then 1 else 0 := by
  simp only [count, push, List.countP_append, List.countP_singleton, beq_iff_eq]

theorem account_push (op : HostOp) (args : List Word) (ret : Option Word) :
    (t.push op args ret).account = t.account.add ⟨UInt64.ofNat t.length, op, args, ret⟩ := by
  rw [account, filterMap_push, filterMap_push, filterMap_push, filterMap_push, count_push]
  rfl

theorem count_pushInputs (v : Visibility) (ws : List Word) {op : HostOp}
    (other : op ≠ .wasmInput) : (t.pushInputs v ws).count op = t.count op := by
  induction ws generalizing t with
  | nil => rfl
  | cons w ws ih => rw [pushInputs, ih, count_push, if_neg other.symm, Nat.add_zero]

/-- Words that are read count as published if their tape is public. -/
theorem account_pushInputs (v : Visibility) (ws : List Word) :
    (t.pushInputs v ws).account =
      { t.account with published := t.account.published ++ v.published ws } := by
  induction ws generalizing t with
  | nil => simp only [pushInputs, Visibility.published, ite_self, List.append_nil]
  | cons w ws ih =>
    rw [pushInputs, ih, account_push]
    cases v <;> simp [Account.add, Event.published?, Event.output?, Event.slotRead?,
      Event.slotWritten?, Visibility.flag, Visibility.published, Visibility.isPublic]

theorem Orderly.pushInputs (h : t.Orderly) (v : Visibility) (ws : List Word) :
    (t.pushInputs v ws).Orderly := by
  induction ws generalizing t with
  | nil => exact h
  | cons w ws ih => exact ih (h.push ⟨v, w, rfl, rfl⟩ nofun)

end Trace

end SealedRun
