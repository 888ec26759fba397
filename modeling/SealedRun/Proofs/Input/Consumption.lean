import SealedRun.Proofs.Run.FirstError
import SealedRun.Proofs.Run.Refusal
import SealedRun.Proofs.Trace.Account

/-! Where the input words are. Every word of a tape is in exactly one place, in the trace once it
was read and on the tape before that, and both keep the order of the tape. So the trace counts
the reads of each tape, and an error that reports an exhausted tape gives that count. -/
namespace SealedRun

/-- The words of a tape before the first read. -/
def SegmentInput.words (input : SegmentInput) : Visibility → List Word
  | .pub => input.publicWords
  | .priv => input.privateWords

/-- The event is the read of a word from tape `v`. -/
def Event.reads (v : Visibility) (e : Event) : Bool := e.op == .wasmInput && e.args == [v.flag]

/-- The reads of tape `v`. -/
def Trace.inputs (t : Trace) (v : Visibility) : List Event := t.events.filter (Event.reads v)

/-- A region body ended with the error `e` although nothing in the run had failed before. -/
def State.Invented (s : State) (ms : List Move) (e : ExecutionError) : Prop :=
  ∃ before later, ms = before ++ .leave (some e) :: later ∧ s.Unbroken before

theorem Visibility.flag_inj {v v' : Visibility} (h : v.flag = v'.flag) : v = v' := by
  revert h
  cases v <;> cases v' <;> decide

namespace Tapes

variable {t t' : Tapes} {v : Visibility}

theorem tape_setTape (t : Tapes) (v : Visibility) (new : Tape) : (t.setTape v new).tape v = new := by
  cases v <;> rfl

theorem tape_setTape_other (t : Tapes) (new : Tape) {v v' : Visibility} (other : v' ≠ v) :
    (t.setTape v new).tape v' = t.tape v' := by
  cases v <;> cases v' <;> first | rfl | exact absurd rfl other

theorem setTape_setTape (t : Tapes) (v : Visibility) (a b : Tape) :
    (t.setTape v a).setTape v b = t.setTape v b := by
  cases v <;> rfl

theorem setTape_self (t : Tapes) (v : Visibility) : t.setTape v (t.tape v) = t := by
  cases v <;> rfl

/-- The words `ws` are taken from the front of tape `v` and counted. -/
structure Gives (t : Tapes) (v : Visibility) (ws : List Word) (t' : Tapes) : Prop where
  remaining : (t.tape v).remaining = ws ++ (t'.tape v).remaining
  reads : (t'.tape v).reads = (t.tape v).reads + ws.length
  other : ∀ v', v' ≠ v → t'.tape v' = t.tape v'

theorem read_gives {w : Word} (h : t.read v = .ok (w, t')) : t.Gives v [w] t' := by
  unfold read Tape.next? at h
  cases hr : (t.tape v).remaining with
  | nil =>
    rw [hr] at h
    cases h
  | cons w' ws =>
    rw [hr] at h
    cases h
    constructor
    · rw [hr, tape_setTape]
      rfl
    · rw [tape_setTape]
      rfl
    · intro v' other
      exact tape_setTape_other t _ other

theorem readWords_gives {n : Nat} {ws : List Word} (h : t.readWords v n = .ok (ws, t')) :
    t.Gives v ws t' := by
  unfold readWords Tape.take? at h
  by_cases enough : n ≤ (t.tape v).remaining.length
  · rw [if_pos enough] at h
    cases h
    constructor
    · rw [tape_setTape, List.take_append_drop]
    · rw [tape_setTape, List.length_take_of_le enough]
    · intro v' other
      exact tape_setTape_other t _ other
  · rw [if_neg enough] at h
    cases h

end Tapes

namespace Trace

variable {t : Trace}

theorem inputs_push_other {op : HostOp} (other : op ≠ .wasmInput) (args : List Word)
    (ret : Option Word) (v : Visibility) : (t.push op args ret).inputs v = t.inputs v := by
  have quiet : Event.reads v ⟨UInt64.ofNat t.length, op, args, ret⟩ = false := by
    simp [Event.reads, other]
  rw [inputs, push, List.filter_append, List.filter_cons_of_neg (by simp [quiet]),
    List.filter_nil, List.append_nil, inputs]

theorem inputs_push (v v' : Visibility) (w : Word) :
    ((t.push .wasmInput [v.flag] (some w)).inputs v').map Event.ret =
      (t.inputs v').map Event.ret ++ if v = v' then [some w] else [] := by
  rw [inputs, push, List.filter_append, List.map_append, inputs]
  congr 1
  by_cases same : v = v'
  · subst same
    simp [Event.reads]
  · have : v.flag ≠ v'.flag := fun h => same (Visibility.flag_inj h)
    simp [Event.reads, same, this]

/-- Words of a tape add their reads to those of the tape, and to no other. -/
theorem inputs_pushInputs (v v' : Visibility) (ws : List Word) :
    ((t.pushInputs v ws).inputs v').map Event.ret =
      (t.inputs v').map Event.ret ++ if v = v' then ws.map some else [] := by
  induction ws generalizing t with
  | nil => simp [pushInputs]
  | cons w ws ih =>
    rw [pushInputs, ih, inputs_push]
    by_cases same : v = v' <;> simp [same]

end Trace

/-- A tape that began with `words` and the returns of its reads share these words out. -/
structure Tape.Shares (tape : Tape) (read : List (Option Word)) (words : List Word) : Prop where
  words : read ++ tape.remaining.map some = words.map some
  reads : tape.reads = read.length

/-- Every word is on its tape or in the trace. -/
def State.Consumed (words : Visibility → List Word) (s : State) : Prop :=
  ∀ v, (s.tapes.tape v).Shares ((s.trace.inputs v).map Event.ret) (words v)

namespace State

variable {words : Visibility → List Word} {s s' : State}

/-- Words go from the front of a tape to the end of the trace. -/
theorem Consumed.give (h : s.Consumed words) {v : Visibility} {ws : List Word} {tapes : Tapes}
    (gives : s.tapes.Gives v ws tapes) (published : List Word) :
    { s with
      step := s.step + 1
      tapes
      instanceWords := published
      trace := s.trace.pushInputs v ws }.Consumed words := by
  intro v'
  by_cases same : v = v'
  · subst same
    constructor
    · rw [Trace.inputs_pushInputs, if_pos rfl, List.append_assoc, ← List.map_append,
        ← gives.remaining]
      exact (h v).words
    · rw [Trace.inputs_pushInputs, if_pos rfl, gives.reads, (h v).reads, List.length_append,
        List.length_map (f := some)]
  · have untouched : tapes.tape v' = s.tapes.tape v' := gives.other v' (Ne.symm same)
    show (tapes.tape v').Shares _ _
    rw [untouched, Trace.inputs_pushInputs, if_neg same, List.append_nil]
    exact h v'

/-- Other operations touch neither the tapes nor their reads. -/
theorem Consumed.pass (h : s.Consumed words) {op : HostOp} {args : List Word} {ret : Option Word}
    (tapes : s'.tapes = s.tapes) (trace : s'.trace = s.trace.push op args ret)
    (other : op ≠ .wasmInput) : s'.Consumed words := by
  intro v
  rw [tapes, trace, Trace.inputs_push_other other]
  exact h v

theorem consumed_done {β : Type} {c : Call β} {r : β} (hd : Done c s r s')
    (h : s.Consumed words) : s'.Consumed words := by
  cases hd with
  | input outside hr => exact h.give (Tapes.read_gives hr) _
  | readBytes outside hr => exact h.give (Tapes.readWords_gives hr) _
  | peek inside => exact h
  | _ => exact h.pass rfl rfl nofun

/-- The host reports an exhausted tape with the number of its reads. -/
theorem Consumed.exhausted (h : s.Consumed words) (running : s.terminal = none) (level : s.Level)
    {m : Move} {v : Visibility} {n : Nat} (request : m.IsRequest)
    (fault : m.fault? s = some (.inputExhausted v n)) : n = (s.trace.inputs v).length := by
  have count (v : Visibility) : (s.tapes.tape v).reads = (s.trace.inputs v).length := by
    rw [(h v).reads, List.length_map]
  cases m with
  | call c =>
    have refused := perform_refused running level fault
    generalize he : ExecutionError.inputExhausted v n = e at refused
    cases refused with
    | input outside ht =>
      cases he
      exact count v
    | readBytes outside ht =>
      cases he
      exact count v
    | _ => cases he
  | enter name =>
    obtain ⟨reason, he⟩ := openRegion_fault running level fault
    cases he
  | leave failure => exact request.elim

theorem start_consumed {segmentId : UInt32} {position : Position} {slots : Slots}
    {registry : Registry} {input : SegmentInput} {context : List Word}
    (start : State.start segmentId position slots registry input context = .returned s)
    (ms : List Move) : (s.play ms).Consumed input.words := by
  obtain ⟨fits, rfl⟩ := start_eq start
  refine Level.preserves (P := Consumed input.words) (level_of_outside rfl) consumed_done
    (fun _ _ _ _ h => h) ?_ ms
  intro v
  cases v <;> exact ⟨rfl, rfl⟩

end State

/-- At every moment of a run, whatever was asked for and whichever calls failed: the words that the
trace shows as read from a tape, followed by those still on it, are the words that the tape began
with; the tape has counted its reads in the trace; and the host reports an exhausted tape with that
count. The error that ended a run still has the right count, unless a region body made it up: such
an error is passed on as it is. -/
theorem no_input_word_lost {segmentId : UInt32} {position : Position} {slots : Slots}
    {registry : Registry} {input : SegmentInput} {context : List Word} {s₀ : State}
    (start : State.start segmentId position slots registry input context = .returned s₀)
    (ms : List Move) :
    let s := s₀.play ms
    (∀ v, (s.trace.inputs v).map Event.ret ++ (s.tapes.tape v).remaining.map some =
        (input.words v).map some ∧
      (s.tapes.tape v).reads = (s.trace.inputs v).length) ∧
    (s.terminal = none → ∀ m : Move, m.IsRequest → ∀ v n,
      m.fault? s = some (.inputExhausted v n) → n = (s.trace.inputs v).length) ∧
    (∀ v n, s.terminal = some (.inputExhausted v n) →
      (∀ m : Move, m.IsRequest → m.fault? s = some (.inputExhausted v n)) ∧
      (n = (s.trace.inputs v).length ∨ s₀.Invented ms (.inputExhausted v n))) := by
  intro s
  have running₀ : s₀.terminal = none := (State.start_sound start).terminal
  have level₀ : s₀.Level := (State.start_sound start).level
  have level : s.Level := State.play_preserves State.after_level level₀ ms
  have consumed : s.Consumed input.words := State.start_consumed start ms
  refine ⟨fun v => ⟨(consumed v).words, ?_⟩, ?_, ?_⟩
  · rw [(consumed v).reads, List.length_map]
  · intro running m request v n fault
    exact consumed.exhausted running level request fault
  · intro v n ended
    refine ⟨fun m request => (State.after_ended ended level m).2 request, ?_⟩
    obtain ⟨before, m, later, rfl, unbroken, fault, traced⟩ :=
      State.ended_split running₀ level₀ ended
    by_cases request : m.IsRequest
    · left
      rw [traced]
      exact (State.start_consumed start before).exhausted (unbroken.running running₀ level₀)
        (State.play_preserves State.after_level level₀ before) request fault
    · right
      cases m with
      | leave failure =>
        cases fault
        exact ⟨before, later, rfl, unbroken⟩
      | _ => exact absurd trivial request

/-- Nine bytes take two words of the public tape, and a read of two more finds one: it takes
nothing, and the error counts the two reads of that tape and not the one of the other. -/
theorem no_input_word_lost_partial :
    let ms : List Move := [.call (.readBytes .pub 9), .call (.input .priv),
      .call (.readBytes .pub 16), .call (.input .priv)]
    ∃ s₀, State.start 0 .only ⟨0, 0⟩ (.empty fun _ => true) ⟨[5, 6, 7], [8, 9]⟩ [] = .returned s₀ ∧
      ((s₀.play ms).trace.inputs .pub).map Event.ret ++ [some 7] = [some 5, some 6, some 7] ∧
      ((s₀.play ms).trace.inputs .priv).map Event.ret ++ [some 9] = [some 8, some 9] ∧
      (s₀.play ms).terminal = some (.inputExhausted .pub 2) ∧
      (Move.call (.input .priv)).fault? (s₀.play ms) = some (.inputExhausted .pub 2) ∧
      ((s₀.play ms).trace.inputs .pub).length = 2 := by
  intro ms
  obtain ⟨s₀, start⟩ : ∃ s₀, State.start 0 .only ⟨0, 0⟩ (.empty fun _ => true)
    ⟨[5, 6, 7], [8, 9]⟩ [] = .returned s₀ := ⟨_, rfl⟩
  obtain ⟨shared, -, ended⟩ := no_input_word_lost start ms
  have terminal : (s₀.play ms).terminal = some (.inputExhausted .pub 2) := by
    cases start
    rfl
  have remaining : ((s₀.play ms).tapes.tape .pub).remaining = [7] ∧
      ((s₀.play ms).tapes.tape .priv).remaining = [9] := by
    cases start
    exact ⟨rfl, rfl⟩
  obtain ⟨again, count⟩ := ended .pub 2 terminal
  refine ⟨s₀, start, ?_, ?_, terminal, again _ trivial, ?_⟩
  · have h := (shared .pub).1
    rw [remaining.1] at h
    exact h
  · have h := (shared .priv).1
    rw [remaining.2] at h
    exact h
  · rcases count with count | ⟨before, later, split, -⟩
    · exact count.symm
    · have absent : Move.leave (some (.inputExhausted .pub 2)) ∈ ms := by
        rw [split]
        exact List.mem_append_right before (List.mem_cons_self ..)
      simp [ms] at absent

end SealedRun
