import SealedRun.Proofs.Run.Step
import SealedRun.Proofs.Trace.Account

/-! Memory and trace. A guest sees the memory and a proof sees the trace; the two agree at every
moment of a run, since nothing is stored without a trace and nothing traced is taken back. So
every load, in a region or not, gives the word that the trace says was stored last. -/
namespace SealedRun

namespace Event

/-- The word that the event stores at the address. -/
def storedAt? (a : Word) (e : Event) : Option Word :=
  match e.op, e.args with
  | .memoryStore, [b, w] => if b = a then some w else none
  | _, _ => none

/-- The memory image behind the event. -/
def replayOn (image : Std.TreeMap UInt32 Word) (e : Event) : Std.TreeMap UInt32 Word :=
  match e.op, e.args with
  | .memoryStore, [a, w] => image.insert a.toUInt32 w
  | _, _ => image

end Event

/-- The word of the latest event that stores at the address; zero if there is none. -/
def lastStored (a : Word) (events : List Event) : Word :=
  (events.reverse.findSome? (Event.storedAt? a)).getD 0

/-- What the events store, one after another, in an empty memory. -/
def replay (events : List Event) : Std.TreeMap UInt32 Word := events.foldl Event.replayOn ∅

/-- If the event is a load, it gives the word that the events before it stored last. -/
def Event.Answered (before : List Event) (e : Event) : Prop :=
  e.op = .memoryLoad → ∃ addr : UInt32,
    e.args = [addr.toUInt64] ∧ e.ret = some (lastStored addr.toUInt64 before)

theorem lastStored_snoc (a : Word) (events : List Event) (e : Event) :
    lastStored a (events ++ [e]) = (e.storedAt? a).getD (lastStored a events) := by
  rw [lastStored, List.reverse_concat, List.findSome?_cons]
  cases e.storedAt? a with
  | none => rfl
  | some w => rfl

theorem replay_snoc (events : List Event) (e : Event) :
    replay (events ++ [e]) = Event.replayOn (replay events) e := by
  rw [replay, List.foldl_append]
  rfl

variable {op : HostOp} {args : List Word} {ret : Option Word}

/-- What holds of each event with those before it holds after one more event. -/
theorem Trace.forall_push {P : List Event → Event → Prop} {t : Trace}
    (old : ∀ i (h : i < t.events.length), P (t.events.take i) t.events[i])
    (new : P t.events ⟨UInt64.ofNat t.length, op, args, ret⟩) :
    ∀ i (h : i < (t.push op args ret).events.length),
      P ((t.push op args ret).events.take i) (t.push op args ret).events[i] := by
  intro i hi
  rw [Trace.push, List.length_append, List.length_singleton] at hi
  rcases Nat.lt_or_eq_of_le (Nat.le_of_lt_succ hi) with hlt | rfl
  · simp only [Trace.push, List.getElem_append_left hlt,
      List.take_append_of_le_length (Nat.le_of_lt hlt)]
    exact old i hlt
  · simp only [Trace.push, List.getElem_concat_length, List.take_left]
    exact new

/-- The memory and the trace agree on every store and on every load. -/
structure Memory.Mirrors (m : Memory) (t : Trace) : Prop where
  image : m.image = replay t.events
  word : ∀ addr, m.word addr = lastStored addr.toUInt64 t.events
  stores : m.stores = t.count .memoryStore
  loads : ∀ i (h : i < t.events.length), t.events[i].Answered (t.events.take i)

namespace Memory.Mirrors

variable {m m' : Memory} {t : Trace}

/-- The memory and the trace take in the same event. -/
theorem push (h : m.Mirrors t)
    (image : m'.image = Event.replayOn m.image ⟨UInt64.ofNat t.length, op, args, ret⟩)
    (word : ∀ addr, m'.word addr = (Event.storedAt? addr.toUInt64
      ⟨UInt64.ofNat t.length, op, args, ret⟩).getD (m.word addr))
    (stores : m'.stores = m.stores + if op = .memoryStore then 1 else 0)
    (load : op = .memoryLoad → ∃ addr : UInt32,
      args = [addr.toUInt64] ∧ ret = some (m.word addr)) :
    m'.Mirrors (t.push op args ret) where
  image := by rw [image, h.image, Trace.push, replay_snoc]
  word addr := by rw [word, h.word, Trace.push, lastStored_snoc]
  stores := by rw [stores, h.stores, Trace.count_push]
  loads := by
    refine Trace.forall_push h.loads fun hop => ?_
    obtain ⟨addr, ha, hr⟩ := load hop
    exact ⟨addr, ha, by rw [hr, h.word]⟩

theorem pushInputs (h : m.Mirrors t) (v : Visibility) (ws : List Word) :
    m.Mirrors (t.pushInputs v ws) := by
  induction ws generalizing t with
  | nil => exact h
  | cons w ws ih => exact ih (h.push rfl (fun _ => rfl) rfl nofun)

theorem store (h : m.Mirrors t) (addr : UInt32) (w : Word) :
    (m.store addr w).Mirrors (t.push .memoryStore [addr.toUInt64, w] none) := by
  refine h.push ?_ ?_ rfl nofun
  · simp only [Memory.store, Event.replayOn, UInt32.toUInt32_toUInt64]
  · intro a
    simp only [Memory.store, Memory.word, Event.storedAt?, Std.TreeMap.getD_insert,
      Std.compare_eq_iff_eq, UInt32.toUInt64_inj]
    by_cases same : addr = a <;> simp [same]

end Memory.Mirrors

variable {s s' : State}

theorem State.mirrors_done {β : Type} {c : Call β} {r : β} (hd : Done c s r s')
    (h : s.memory.Mirrors s.trace) : s'.memory.Mirrors s'.trace := by
  cases hd with
  | input outside hr => exact h.pushInputs _ [_]
  | readBytes outside hr => exact h.pushInputs _ _
  | load outside =>
    exact h.push rfl (fun _ => rfl) rfl fun _ => ⟨_, rfl, rfl⟩
  | peek inside => exact ⟨h.image, h.word, h.stores, h.loads⟩
  | store outside => exact h.store _ _
  | _ => exact h.push rfl (fun _ => rfl) rfl nofun

theorem State.load_answer (s : State) (addr : UInt32) :
    (s.load addr).1 = match s.terminal with
      | none => .ok (s.memory.word addr)
      | some e => .error e := by
  cases ht : s.terminal with
  | some e => rw [load, ht]
  | none => rw [load_running ht]

/-- A load in a region is not traced. -/
theorem State.load_untraced (inside : s.sandbox.frames ≠ []) (addr : UInt32) :
    (s.load addr).2.trace = s.trace := by
  obtain ⟨f, fs, hf⟩ := List.exists_cons_of_ne_nil inside
  cases ht : s.terminal with
  | some e => rw [load, ht]
  | none => rw [load_inside ht hf]

/-- At every moment of a run, whatever calls were made and whichever of them failed: each load in
the trace gives the word that the trace has stored last at its address, or zero; the memory is
what the stores of the trace make of an empty one, and counts them; and so a load that is made
now, in a region and then untraced or outside of regions, gives the word stored last. -/
theorem loads_answered_by_trace {segmentId : UInt32} {position : Position} {slots : Slots}
    {registry : Registry} {input : SegmentInput} {context : List Word} {s₀ : State}
    (start : State.start segmentId position slots registry input context = .returned s₀)
    (ms : List Move) :
    let s := s₀.play ms
    let events := s.trace.events
    (∀ i (h : i < events.length), events[i].op = .memoryLoad → ∃ addr : UInt32,
      events[i].args = [addr.toUInt64] ∧
      events[i].ret = some (lastStored addr.toUInt64 (events.take i))) ∧
    s.memory.image = replay events ∧
    s.memory.stores = s.trace.count .memoryStore ∧
    ∀ addr : UInt32,
      ((s.load addr).1 = match s.terminal with
        | none => .ok (lastStored addr.toUInt64 events)
        | some e => .error e) ∧
      (s.sandbox.frames ≠ [] → (s.load addr).2.trace = s.trace) := by
  intro s events
  obtain ⟨fits, rfl⟩ := State.start_eq start
  have mirrors : s.memory.Mirrors s.trace := by
    refine State.Level.preserves (P := fun s => s.memory.Mirrors s.trace)
      (State.level_of_outside rfl) State.mirrors_done (fun _ _ _ _ h => h) ?_ ms
    exact ⟨rfl, fun _ => rfl, rfl, nofun⟩
  refine ⟨mirrors.loads, mirrors.image, mirrors.stores, fun addr => ⟨?_, fun inside => ?_⟩⟩
  · rw [State.load_answer, mirrors.word]
  · exact State.load_untraced inside addr

/-- A word is stored, loaded and stored anew: the traced load gave the first word, and a load in
a region gives the second one and leaves no trace. -/
theorem loads_answered_by_trace_stored_anew :
    let registry := (Registry.empty fun _ => true).enter ⟨"search", false⟩
    let ms : List Move :=
      [.call (.store 3 5), .call (.load 3), .call (.store 3 9), .enter "search"]
    ∃ s₀, State.start 0 .only ⟨0, 0⟩ registry ⟨[], []⟩ [] = .returned s₀ ∧
      (s₀.play ms).sandbox.frames ≠ [] ∧
      (∃ h : 1 < (s₀.play ms).trace.events.length,
        (s₀.play ms).trace.events[1].ret = some 5) ∧
      ((s₀.play ms).load 3).1 = .ok 9 ∧ ((s₀.play ms).load 4).1 = .ok 0 ∧
      ((s₀.play ms).load 3).2.trace = (s₀.play ms).trace := by
  intro registry ms
  obtain ⟨s₀, start⟩ : ∃ s₀, State.start 0 .only ⟨0, 0⟩ registry ⟨[], []⟩ [] = .returned s₀ :=
    ⟨_, rfl⟩
  obtain ⟨loads, -, -, now⟩ := loads_answered_by_trace start ms
  obtain ⟨running, inside, second, three, four⟩ : (s₀.play ms).terminal = none ∧
      (s₀.play ms).sandbox.frames ≠ [] ∧ 1 < (s₀.play ms).trace.events.length ∧
      lastStored 3 (s₀.play ms).trace.events = 9 ∧
      lastStored 4 (s₀.play ms).trace.events = 0 := by
    cases start
    exact ⟨rfl, List.cons_ne_nil _ _, by decide, rfl, rfl⟩
  refine ⟨s₀, start, inside, ⟨second, ?_⟩, ?_, ?_, (now 3).2 inside⟩
  · obtain ⟨addr, ha, hr⟩ := loads 1 second (by cases start; rfl)
    have same : [(3 : UInt32).toUInt64] = [addr.toUInt64] := by
      cases start
      exact ha
    obtain rfl : 3 = addr := UInt32.toUInt64_inj.mp (List.cons.inj same).1
    rw [hr]
    cases start
    rfl
  · rw [(now 3).1, running]
    exact congrArg Except.ok three
  · rw [(now 4).1, running]
    exact congrArg Except.ok four

end SealedRun
