import SealedRun.Proofs.Run.FirstError
import SealedRun.Proofs.Trace.Account

/-! A sealed segment says nothing that its trace does not say. The words, slots and counters
that a state keeps beside its trace agree with the account of the trace as long as the run
goes on, and only a run that went on to its end is sealed. -/
namespace SealedRun

namespace State

/-- What the state itself keeps of the things an account speaks of. -/
def account (s : State) : Account where
  published := s.instanceWords
  outputs := s.outputs
  slotsRead := s.context.inputs.take s.context.reads
  slotsWritten := s.context.outputs
  requirements := s.constraints.checked

/-- The state and its trace tell the same. -/
structure Accounted (s : State) : Prop where
  balance : s.trace.account = s.account
  orderly : s.trace.Orderly

variable {s s' : State}

/-- The trace and the state take in the same event. -/
theorem Accounted.push (h : s.Accounted) {op : HostOp} {args : List Word} {ret : Option Word}
    (trace : s'.trace = s.trace.push op args ret)
    (regular : Event.Regular ⟨UInt64.ofNat s.trace.length, op, args, ret⟩)
    (unwritten : op = .readContext → s.context.outputs = [])
    (account : s'.account = s.account.add ⟨UInt64.ofNat s.trace.length, op, args, ret⟩) :
    s'.Accounted where
  balance := by rw [trace, Trace.account_push, h.balance, account]
  orderly := by
    rw [trace]
    refine h.orderly.push regular fun hop => h.orderly.unwritten ?_
    rw [h.balance]
    exact unwritten hop

theorem Accounted.pushInputs (h : s.Accounted) (v : Visibility) (ws : List Word)
    (trace : s'.trace = s.trace.pushInputs v ws)
    (account : s'.account =
      { s.account with published := s.account.published ++ v.published ws }) :
    s'.Accounted where
  balance := by rw [trace, Trace.account_pushInputs, h.balance, account]
  orderly := by
    rw [trace]
    exact h.orderly.pushInputs v ws

theorem Accounted.done {β : Type} {c : Call β} {r : β} (hd : Done c s r s') (h : s.Accounted) :
    s'.Accounted := by
  have same (ws : List Word) : ws = ws ++ [] := (List.append_nil ws).symm
  cases hd with
  | @input s v w tapes outside hr => exact h.pushInputs v [w] rfl rfl
  | readBytes outside hr => exact h.pushInputs _ _ rfl rfl
  | output outside =>
    exact h.push rfl ⟨_, rfl, rfl⟩ nofun (Account.ext rfl rfl (same _) (same _) rfl)
  | require outside =>
    exact h.push rfl ⟨rfl, rfl⟩ nofun (Account.ext (same _) (same _) (same _) (same _) rfl)
  | readContext outside hr =>
    obtain ⟨rfl, hw, hn, -⟩ := ContextCursor.read_ok hr
    refine h.push rfl ⟨_, rfl, rfl⟩ (fun _ => hn)
      (Account.ext (same _) (same _) ?_ (same _) rfl)
    exact List.take_add_one.trans (congrArg (_ ++ ·.toList) hw)
  | writeContext outside hw =>
    obtain ⟨rfl, -⟩ := ContextCursor.write_ok hw
    exact h.push rfl ⟨_, rfl, rfl⟩ nofun (Account.ext (same _) (same _) (same _) rfl rfl)
  | peek inside => exact ⟨h.balance, h.orderly⟩
  | load outside =>
    exact h.push rfl ⟨_, _, rfl, rfl⟩ nofun
      (Account.ext (same _) (same _) (same _) (same _) rfl)
  | store outside =>
    exact h.push rfl ⟨_, _, rfl, rfl⟩ nofun
      (Account.ext (same _) (same _) (same _) (same _) rfl)
  | log outside =>
    exact h.push rfl ⟨_, rfl, rfl⟩ nofun (Account.ext (same _) (same _) (same _) (same _) rfl)

/-- What a run is given and cannot change: its number, its context and the registry. -/
structure Given (segmentId : UInt32) (position : Position) (slots : Slots) (registry : Registry)
    (context : List Word) (s : State) : Prop where
  segmentId_eq : s.segmentId = segmentId
  position_eq : s.context.position = position
  slots_eq : s.context.slots = slots
  registry_eq : s.registry = registry
  inputs_eq : s.context.inputs = context

variable {segmentId : UInt32} {position : Position} {slots : Slots} {registry : Registry}
  {input : SegmentInput} {context : List Word}

theorem Given.done {β : Type} {c : Call β} {r : β} (hd : Done c s r s')
    (h : s.Given segmentId position slots registry context) :
    s'.Given segmentId position slots registry context := by
  obtain ⟨hi, hp, hs, hr, hc⟩ := h
  cases hd with
  | readContext outside h =>
    obtain ⟨rfl, -⟩ := ContextCursor.read_ok h
    exact ⟨hi, hp, hs, hr, hc⟩
  | writeContext outside h =>
    obtain ⟨rfl, -⟩ := ContextCursor.write_ok h
    exact ⟨hi, hp, hs, hr, hc⟩
  | _ => exact ⟨hi, hp, hs, hr, hc⟩

end State

variable {segmentId : UInt32} {position : Position} {slots : Slots} {registry : Registry}
  {input : SegmentInput} {context : List Word} {s : State}

/-- A state that could be sealed after some moves is accounted for and still has what the run
was given. -/
theorem State.sealed_play
    (start : State.start segmentId position slots registry input context = .returned s)
    {ms : List Move} {output : Bytes} {digest : Digest} {segment : Segment}
    (sealed : (s.play ms).seal output digest = .ok segment) :
    (s.play ms).Accounted ∧ (s.play ms).Given segmentId position slots registry context := by
  have sound := State.start_sound start
  have unbroken := unbroken_of_running sound.level (seal_ok sealed).1
  have keep {P : State → Prop} := Unbroken.preserves (P := P) sound.terminal sound.level
  obtain ⟨fits, rfl⟩ := State.start_eq start
  refine ⟨keep Accounted.done ?_ unbroken ⟨Trace.account_empty, Trace.orderly_empty⟩,
    keep Given.done ?_ unbroken ⟨rfl, rfl, rfl, rfl, rfl⟩⟩
  · exact fun _ h => ⟨h.balance, h.orderly⟩
  · exact fun _ h => ⟨h.segmentId_eq, h.position_eq, h.slots_eq, h.registry_eq, h.inputs_eq⟩

/-- Whatever a guest does, a segment sealed behind it is a projection of its own trace: the
instance, the outputs and the context slots are the words of the events that name them, slots
are read before any is written, requirements are counted one by one, and events are numbered
by their places. -/
theorem segment_eq_projection {α : Type} (p : Program α)
    (start : State.start segmentId position slots registry input context = .returned s)
    {output : Bytes} {digest : Digest} {segment : Segment}
    (sealed : (p.run s).2.seal output digest = .ok segment) :
    let events := segment.trace.events
    segment.instanceWords = events.filterMap Event.published? ∧
    segment.outputs = events.filterMap Event.output? ∧
    segment.contextInputs = events.filterMap Event.slotRead? ∧
    segment.contextInputs.length = slots.reads ∧
    segment.contextOutputs = events.filterMap Event.slotWritten? ∧
    segment.contextOutputs.length = slots.writes ∧
    (∀ i j (hi : i < events.length) (hj : j < events.length), events[i].op = .readContext →
      events[j].op = .writeContext → i < j) ∧
    segment.constraints = UInt64.ofNat (segment.trace.count .require) ∧
    (∀ e ∈ events, e.op = .require → e.args = [1]) ∧
    (∀ e ∈ events, e.Regular) ∧
    ∀ i (h : i < events.length), events[i].eid = UInt64.ofNat i := by
  rw [Program.run_eq_play] at sealed
  obtain ⟨⟨balance, orderly⟩, given⟩ := State.sealed_play start sealed
  obtain ⟨-, reads, writes, rfl⟩ := State.seal_ok sealed
  generalize s.play (p.moves s) = t at balance orderly given reads writes
  have read_all : t.context.inputs.take t.context.reads = t.context.inputs := by
    rw [reads, ← t.context.inputs_length, List.take_length]
  rw [given.slots_eq] at writes
  refine ⟨congrArg Account.published balance.symm, congrArg Account.outputs balance.symm,
    read_all.symm.trans (congrArg Account.slotsRead balance.symm), ?_,
    congrArg Account.slotsWritten balance.symm, writes,
    fun i j hi hj hr hw => orderly.read_before_write hi hj hr hw,
    congrArg UInt64.ofNat (congrArg Account.requirements balance.symm), ?_, orderly.regular,
    orderly.numbered⟩
  · rw [← given.slots_eq]
    exact t.context.inputs_length
  · intro e he hop
    have regular := orderly.regular e he
    rw [Event.Regular, hop] at regular
    exact regular.1

/-- A guest that looks a word up in a region and hands it on. -/
theorem segment_eq_projection_lookup :
    let registry := (Registry.empty fun _ => true).enter ⟨"search", false⟩
    let p : Program Word := do
      let a ← .request .readContext
      let w ← .request (.input .pub)
      .request (.store 3 w)
      let b ← .phantom "search" (.request (.load 3))
      .request (.require (b == w))
      .request (.output (a + b))
      .request (.writeContext b)
      return b
    ∃ s segment, State.start 0 .only ⟨1, 1⟩ registry ⟨[5], []⟩ [7] = .returned s ∧
      (p.run s).2.seal [] (contextDigest [7]) = .ok segment ∧
      segment.instanceWords = [5, 12] ∧
      segment.instanceWords = segment.trace.events.filterMap Event.published? ∧
      ∀ i (h : i < segment.trace.events.length),
        segment.trace.events[i].eid = UInt64.ofNat i := by
  intro registry p
  obtain ⟨s, segment, start, sealed, words⟩ : ∃ s segment,
      State.start 0 .only ⟨1, 1⟩ registry ⟨[5], []⟩ [7] = .returned s ∧
      (p.run s).2.seal [] (contextDigest [7]) = .ok segment ∧
      segment.instanceWords = [5, 12] := ⟨_, _, rfl, rfl, rfl⟩
  obtain ⟨published, -, -, -, -, -, -, -, -, -, numbered⟩ := segment_eq_projection p start sealed
  exact ⟨s, segment, start, sealed, words, published, numbered⟩

end SealedRun
