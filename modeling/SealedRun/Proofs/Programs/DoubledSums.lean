import Mathlib.Algebra.Group.Nat.Defs
import SealedRun.Programs.ContextSum
import SealedRun.Proofs.Context.Handover
import SealedRun.Proofs.Continuation.Splitting

/-! The sum that is handed on. A segment adds its two slots and hands the sum to the next one twice,
so from one segment to the next the sum doubles, modulo `2 ^ 64`, whatever position they are in. The
tapes have no part in it. -/
namespace SealedRun

/-- A program that leaves the tapes alone, whatever state it runs in. -/
def Program.Tapeless {α : Type} (p : Program α) : Prop := ∀ s, (p.run s).2.tapes = s.tapes

namespace State

variable {β : Type} (s : State)

theorem record_tapes (op : HostOp) (args : List Word) (ret : Option Word) :
    (s.record op args ret).tapes = s.tapes := by
  rw [record]
  split <;> rfl

theorem enter_tapes (op : HostOp) {act : State → Answer β}
    (kept : ∀ s, (act s).2.tapes = s.tapes) : (s.enter op act).2.tapes = s.tapes := by
  cases ended : s.terminal with
  | some e => rw [enter_ended ended]
  | none =>
    rw [enter_running ended]
    cases s.sandbox.check op with
    | error e => rfl
    | ok u => exact kept _

theorem readContext_tapes : s.readContext.2.tapes = s.tapes := by
  refine s.enter_tapes .readContext fun s => ?_
  cases s.context.read with
  | error e => rfl
  | ok r => exact record_tapes ..

theorem writeContext_tapes (w : Word) : (s.writeContext w).2.tapes = s.tapes := by
  refine s.enter_tapes .writeContext fun s => ?_
  cases s.context.write w with
  | error e => rfl
  | ok context => exact record_tapes ..

end State

namespace Program.Tapeless

variable {α β : Type}

theorem request {c : Call β} (kept : ∀ s, (c.perform s).2.tapes = s.tapes) :
    (request c).Tapeless := by
  intro s
  rw [← kept s, Program.request, run_call]
  cases (c.perform s).1 <;> rfl

theorem bind {p : Program α} {f : α → Program β} (first : p.Tapeless)
    (next : ∀ a, (f a).Tapeless) : (p >>= f).Tapeless := by
  intro s
  have kept := first s
  rw [run_bind]
  rcases ran : p.run s with ⟨a | e | t, s'⟩ <;> rw [ran] at kept
  · exact (next a s').trans kept
  · exact kept
  · exact kept

end Program.Tapeless

namespace ContextSum

/-- The sum that segment `i` of a computation returns which was opened with `x` and `y`. -/
def sum (x y : Word) (i : Nat) : Word := UInt64.ofNat (2 ^ i * (x.toNat + y.toNat))

theorem sum_zero (x y : Word) : sum x y 0 = x + y := by
  rw [sum, Nat.pow_zero, Nat.one_mul, UInt64.ofNat_add, UInt64.ofNat_toNat, UInt64.ofNat_toNat]

/-- Both slots of the next segment hold the sum. -/
theorem sum_succ (x y : Word) (i : Nat) : sum (x + y) (x + y) i = sum x y (i + 1) := by
  have twice : 2 ^ (i + 1) * (x.toNat + y.toNat) =
      2 ^ i * ((x.toNat + y.toNat) + (x.toNat + y.toNat)) := by
    rw [Nat.pow_succ, Nat.mul_assoc, Nat.two_mul]
  have exactly : UInt64.ofNat (x.toNat + y.toNat) = x + y := by
    rw [UInt64.ofNat_add, UInt64.ofNat_toNat, UInt64.ofNat_toNat]
  rw [sum, sum, twice, UInt64.ofNat_mul, UInt64.ofNat_mul, UInt64.ofNat_add, UInt64.ofNat_toNat,
    UInt64.ofNat_add, exactly]

/-- The trace of a segment that is handed `x` and `y`. -/
def passed (x y : Word) : Trace :=
  ⟨[⟨0, .readContext, [], some x⟩, ⟨1, .readContext, [], some y⟩,
    ⟨2, .writeContext, [x + y], none⟩, ⟨3, .writeContext, [x + y], none⟩]⟩

/-- The next segment of a continuation that hands it `x` and `y`. -/
def segment (c : Continuation Word) (x y : Word) : Segment where
  segmentId := UInt32.ofNat c.next
  position := .ofIndex c.next c.total
  step := 4
  instanceWords := []
  outputs := []
  contextInputs := [x, y]
  contextOutputs := [x + y, x + y]
  preContextDigest := c.preContextDigest
  contextDigest := contextDigest [x + y, x + y]
  trace := passed x y
  traceDigest := (passed x y).digest
  constraints := 0
  output := Codec.uint64.encode (x + y)

/-- A continuation of this program that hands `x` and `y` to its next segment. -/
structure Holding (x y : Word) (c : Continuation Word) : Prop where
  schema_eq : c.schema = config.schema
  guest_eq : c.guest = guest
  context_eq : c.context = [x, y]

variable {x y : Word} {c : Continuation Word}

theorem slots_config (position : Position) : config.schema.slots position = ⟨2, 2⟩ := by
  cases position <;> rfl

/-- A segment in any place finds its slots filled and finishes, whatever its input is. -/
theorem Holding.runSegment (h : Holding x y c) (unfinished : c.next ≠ c.total)
    (input : SegmentInput) :
    c.runSegment input = (.returned ⟨x + y, segment c x y⟩, c.advance (segment c x y)) := by
  have started : c.start input = State.start (.ofNat c.next) (.ofIndex c.next c.total) ⟨2, 2⟩
      c.registry input [x, y] := by
    rw [Continuation.start, h.schema_eq, slots_config, h.context_eq]
  have attempted : c.attempt input = .returned ⟨x + y, segment c x y⟩ := by
    obtain ⟨schema, program, registry, total, next, context, digest⟩ := c
    obtain ⟨rfl, rfl, rfl⟩ := h
    exact Continuation.attempt_sealed (started.trans rfl) rfl rfl
  rw [Continuation.runSegment, if_neg (mt Continuation.isFinished_iff.mp unfinished), attempted]

theorem Holding.advance (h : Holding x y c) :
    Holding (x + y) (x + y) (c.advance (segment c x y)) :=
  ⟨h.schema_eq, h.guest_eq, rfl⟩

/-- A segment that returned `w`, handed it out twice and read no tape. -/
structure HandsOn (w : Word) (f : Finished Word) : Prop where
  output_eq : f.output = w
  handed_out : f.segment.contextOutputs = [w, w]
  unread : f.segment.trace.count .wasmInput = 0

theorem segment_handsOn (c : Continuation Word) (x y : Word) :
    HandsOn (x + y) ⟨x + y, segment c x y⟩ := ⟨rfl, rfl, rfl⟩

/-- From one segment to the next the sum doubles, as long as there is room for segments. -/
theorem Holding.runAll (h : Holding x y c) {inputs : List SegmentInput}
    (room : c.next + inputs.length ≤ c.total) : ∃ fs, c.runAll inputs = .returned fs ∧
      fs.length = inputs.length ∧ ∀ i (hi : i < fs.length), HandsOn (sum x y i) fs[i] := by
  induction inputs generalizing c x y with
  | nil => exact ⟨[], rfl, rfl, fun i hi => absurd hi (Nat.not_lt_zero i)⟩
  | cons input inputs ih =>
    rw [List.length_cons] at room
    have first := h.runSegment (by omega) input
    obtain ⟨fs, later, length, passed⟩ := ih h.advance (by show c.next + 1 + _ ≤ c.total; omega)
    refine ⟨⟨x + y, segment c x y⟩ :: fs, ?_, congrArg Nat.succ length, fun i hi => ?_⟩
    · rw [Continuation.runAll_returned first, later]
      rfl
    · cases i with
      | zero =>
        rw [sum_zero]
        exact segment_handsOn c x y
      | succ i =>
        rw [← sum_succ]
        exact passed i (Nat.lt_of_succ_lt_succ hi)

theorem tapeless_main : main.Tapeless :=
  .bind (.request State.readContext_tapes) fun _ =>
    .bind (.request State.readContext_tapes) fun _ =>
      .bind (.request (State.writeContext_tapes · _)) fun _ =>
        .bind (.request (State.writeContext_tapes · _)) fun _ _ => rfl

/-- The host of the program's own configuration. -/
def host : Host := ⟨config, .empty fun _ => false⟩

theorem ofConfig_config : Host.ofConfig config = .ok host := rfl

/-- Every segment writes two slots and every segment reads two. -/
theorem validateSequence_config (total : Nat) : config.schema.validateSequence total = .ok () :=
  ContextSchema.validateSequence_ok.mpr fun index _ _ => by rw [slots_config, slots_config]

/-- What a computation of `total` segments is opened with. -/
def opened (total : Nat) (a b : Word) : Continuation Word where
  schema := config.schema
  guest := guest
  registry := (Registry.empty fun _ => false).enter ⟨Guest.entry, false⟩
  total := total
  next := 0
  context := [a, b]
  preContextDigest := contextDigest [a, b]

theorem open_opened (total : Nat) (a b : Word) :
    Continuation.open? host guest total [a, b] = .ok (opened total a b) := by
  have valid : host.config.schema.validateSequence total = .ok () := validateSequence_config total
  rw [Continuation.open?, valid]
  rfl

theorem holding_opened (total : Nat) (a b : Word) : Holding a b (opened total a b) :=
  ⟨rfl, rfl, rfl⟩

/-- Under its own configuration the program finishes any number of segments, as far as they can be
numbered. Opened with `a` and `b`, segment `i` returns `2 ^ i * (a + b)` modulo `2 ^ 64` and hands
it on in both slots, whatever the tapes hold: the program leaves them as they are in every state, and
the segments show no read. The checker accepts the segments. -/
theorem sums_double_along_segments :
    (∀ s, (main.run s).2.tapes = s.tapes) ∧
    ∃ h, Host.ofConfig config = .ok h ∧
      ∀ (a b : Word) (inputs : List SegmentInput), inputs.length ≤ UInt32.size →
        ∃ fs, h.executeSegments guest [a, b] inputs = .returned fs ∧ fs.length = inputs.length ∧
          (∀ i (hi : i < fs.length),
            fs[i].output.toNat = 2 ^ i * (a.toNat + b.toNat) % 2 ^ 64 ∧
            fs[i].segment.contextOutputs = [fs[i].output, fs[i].output] ∧
            fs[i].segment.trace.count .wasmInput = 0) ∧
          verifyChain (fs.map Finished.segment) = .ok () := by
  refine ⟨tapeless_main, host, ofConfig_config, fun a b inputs bounded => ?_⟩
  have room : (opened inputs.length a b).next + inputs.length ≤ inputs.length :=
    Nat.le_of_eq (Nat.zero_add _)
  obtain ⟨fs, ran, length, passed⟩ := (holding_opened inputs.length a b).runAll room
  have returned : host.executeSegments guest [a, b] inputs = .returned fs := by
    rw [Host.executeSegments, open_opened]
    exact ran
  have completed := Host.completed_of_returned returned
  refine ⟨fs, returned, length, fun i hi => ?_, ?_⟩
  · obtain ⟨output, handed, unread⟩ := passed i hi
    rw [output]
    exact ⟨UInt64.toNat_ofNat', handed, unread⟩
  · have accepted := Host.completed_accepted (by rwa [completed, length])
    rw [completed] at accepted
    rw [verifyChain, accepted]

/-- Three segments from the slots 1 and 2, and a sum that comes round to zero. -/
theorem sums_double_along_segments_three :
    let inputs : List SegmentInput := [⟨[7], []⟩, ⟨[], [8, 9]⟩, ⟨[], []⟩]
    inputs.length ≤ UInt32.size ∧ ∃ h, Host.ofConfig config = .ok h ∧
      (∃ f g k, h.executeSegments guest [1, 2] inputs = .returned [f, g, k] ∧
        f.output.toNat = 3 ∧ g.output.toNat = 6 ∧ k.output.toNat = 12 ∧
        verifyChain [f.segment, g.segment, k.segment] = .ok ()) ∧
      ∃ f g k, h.executeSegments guest [0x4000000000000000, 0] inputs = .returned [f, g, k] ∧
        g.output.toNat = 2 ^ 63 ∧ k.output.toNat = 0 := by
  intro inputs
  obtain ⟨-, h, read, finish⟩ := sums_double_along_segments
  have bounded : inputs.length ≤ UInt32.size := by decide
  obtain ⟨fs, returned, length, sums, accepted⟩ := finish 1 2 inputs bounded
  obtain ⟨gs, returned', length', sums', -⟩ := finish 0x4000000000000000 0 inputs bounded
  obtain ⟨f, g, k, rfl⟩ := List.length_eq_three.mp length
  obtain ⟨f', g', k', rfl⟩ := List.length_eq_three.mp length'
  have sum_at (i : Nat) (hi : i < 3) := (sums i hi).1
  have sum_at' (i : Nat) (hi : i < 3) := (sums' i hi).1
  exact ⟨bounded, h, read, ⟨f, g, k, returned, sum_at 0 (by decide), sum_at 1 (by decide),
    sum_at 2 (by decide), accepted⟩, f', g', k', returned', sum_at' 1 (by decide),
    sum_at' 2 (by decide)⟩

end ContextSum

end SealedRun
