import SealedRun.Proofs.Guest.Decoding
import SealedRun.Proofs.Wire.Layout

/-! Framed values between guests. A guest that publishes values puts their frames into its output,
one behind the other, and a guest with these words on a tape reads the same values from it. Nothing
stands between the frames: each of them says how many words belong to it, so a reader never slips
out of step, and what comes behind the last frame stays on the tape. -/
namespace SealedRun

/-- A value that is written and read in frames. -/
structure Datum where
  layout : Layout
  value : layout.Value

namespace Datum

def words (d : Datum) : List Word := d.layout.codec.toInput d.value

/-- The lengths in the value and the length of its encoding can be held in a word, as they are
for everything in memory. -/
def Countable (d : Datum) : Prop :=
  d.layout.Countable d.value ∧ (d.layout.codec.encode d.value).length < UInt64.size

end Datum

namespace Program

/-- Publishes values in order. -/
def commitAll : List Datum → Program Unit
  | [] => ret ()
  | d :: ds => do
    commit d.layout.codec d.value
    commitAll ds

/-- Reads values of the given layouts in order. -/
def readAll (v : Visibility) : List Layout → Program (List Datum)
  | [] => ret []
  | l :: ls => do
    let a ← readValue l.codec v
    let ds ← readAll v ls
    ret (⟨l, a⟩ :: ds)

end Program

/-- One event for each word published. -/
def Trace.pushOutputs (t : Trace) : List Word → Trace
  | [] => t
  | w :: ws => (t.push .wasmOutput [w] none).pushOutputs ws

theorem Trace.pushOutputs_append (t : Trace) (ws us : List Word) :
    t.pushOutputs (ws ++ us) = (t.pushOutputs ws).pushOutputs us := by
  induction ws generalizing t with
  | nil => rfl
  | cons w ws ih => exact ih _

namespace State

/-- The state once `ws` are published. -/
def afterWriting (s : State) (ws : List Word) : State :=
  { s with
    step := s.step + ws.length
    instanceWords := s.instanceWords ++ ws
    outputs := s.outputs ++ ws
    trace := s.trace.pushOutputs ws }

theorem afterWriting_append (s : State) (ws us : List Word) :
    (s.afterWriting ws).afterWriting us = s.afterWriting (ws ++ us) := by
  simp only [afterWriting, List.append_assoc, List.length_append, Nat.add_assoc,
    Trace.pushOutputs_append]

end State

section Outside

variable {s : State} (running : s.terminal = none) (outside : s.sandbox.frames = [])
include running outside

namespace Program

variable {α : Type} {c : Codec α}

theorem run_writeWords (ws : List Word) :
    (writeWords ws).run s = (.returned (), s.afterWriting ws) := by
  induction ws generalizing s with
  | nil => simp only [writeWords, run, State.afterWriting, Trace.pushOutputs, List.append_nil,
      List.length_nil, Nat.add_zero]
  | cons w ws ih =>
    have first : (request (.output w)).run s = (.returned (), s.afterWriting [w]) :=
      run_request_ok (State.writeOutput_outside running outside w)
    have later := ih (s := s.afterWriting [w]) running outside
    rw [writeWords, run_bind_returned first, later, State.afterWriting_append]
    rfl

theorem run_commitAll (data : List Datum) :
    (commitAll data).run s = (.returned (), s.afterWriting (data.flatMap Datum.words)) := by
  induction data generalizing s with
  | nil => exact run_writeWords running outside []
  | cons d data ih =>
    have first : (commit d.layout.codec d.value).run s =
      (.returned (), s.afterWriting d.words) := run_writeWords running outside d.words
    have later := ih (s := s.afterWriting d.words) running outside
    rw [commitAll, run_bind_returned first, later, State.afterWriting_append]
    rfl

/-- The word in front of a frame tells how many of the words behind it belong to it. -/
theorem run_readFrame {v : Visibility} {bs : Bytes} {rest : List Word}
    (short : bs.length < UInt64.size) (tape : (s.tapes.tape v).remaining = frame bs ++ rest) :
    (readFrame v).run s = (.returned bs, s.afterReading v 2 (frame bs).length) := by
  have length : (UInt64.ofNat bs.length).toNat = bs.length := UInt64.toNat_ofNat_of_lt' short
  have parts : (s.tapes.tape v).remaining =
    UInt64.ofNat bs.length :: (packWords bs ++ rest) := tape
  have enough : wordsFor (UInt64.ofNat bs.length).toNat ≤ (packWords bs ++ rest).length := by
    rw [length, List.length_append, length_packWords]
    omega
  rw [run_readFrame_enough running outside parts enough, length, firstBytes_packWords, frame,
    List.length_cons, length_packWords, Nat.add_comm]

/-- A frame is taken off the tape and the value comes back. -/
theorem run_readValue (lawful : c.Lawful) {v : Visibility} {a : α} {rest : List Word}
    (fits : c.fits a) (short : (c.encode a).length < UInt64.size)
    (tape : (s.tapes.tape v).remaining = c.toInput a ++ rest) :
    (readValue c v).run s = (.returned a, s.afterReading v 2 (c.toInput a).length) := by
  have decoded : c.decode (c.encode a) = some (a, []) := by
    have := lawful a fits []
    rwa [List.append_nil] at this
  have read : c.read (c.encode a) = some a := by rw [Codec.read, decoded, Option.map_some]
  rw [readValue, run_bind_returned (run_readFrame running outside short tape), read]
  rfl

theorem run_readAll {data : List Datum} (countable : ∀ d ∈ data, d.Countable) {v : Visibility}
    {rest : List Word} (tape : (s.tapes.tape v).remaining = data.flatMap Datum.words ++ rest) :
    (readAll v (data.map Datum.layout)).run s = (.returned data,
      s.afterReading v (2 * data.length) (data.flatMap Datum.words).length) := by
  induction data generalizing s with
  | nil => exact congrArg (Prod.mk _) (s.afterReading_nothing v).symm
  | cons d data ih =>
    obtain ⟨known, short⟩ := countable d (List.mem_cons_self ..)
    rw [List.flatMap_cons, List.append_assoc] at tape
    have first := run_readValue running outside d.layout.codec_lawful known.fits short tape
    have behind : ((s.afterReading v 2 d.words.length).tapes.tape v).remaining =
        data.flatMap Datum.words ++ rest := by
      rw [State.remaining_afterReading, tape, List.drop_left]
    have later := ih (s := s.afterReading v 2 d.words.length) running outside
      (fun d' h => countable d' (List.mem_cons_of_mem d h)) behind
    rw [State.afterReading_add] at later
    rw [List.map_cons, readAll, run_bind_returned first]
    refine (run_bind_returned later).trans ?_
    rw [run, List.length_cons, List.flatMap_cons, List.length_append, Nat.mul_succ,
      Nat.add_comm 2]

end Program

/-- What a guest publishes value by value are the frames of these values, in its output as in the
instance. A guest that has these words at the front of a tape reads the values back: what comes
behind them stays on the tape, nothing is required and nothing else of the run changes. -/
theorem framed_values_round_trip (data : List Datum) :
    let words := data.flatMap Datum.words
    (Program.commitAll data).run s = (.returned (), s.afterWriting words) ∧
    (s.afterWriting words).outputs = s.outputs ++ words ∧
    (s.afterWriting words).instanceWords = s.instanceWords ++ words ∧
    ∀ v rest, (∀ d ∈ data, d.Countable) → (s.tapes.tape v).remaining = words ++ rest →
      let s' := s.afterReading v (2 * data.length) words.length
      (Program.readAll v (data.map Datum.layout)).run s = (.returned data, s') ∧
        (s'.tapes.tape v).remaining = rest ∧
        s'.constraints = s.constraints ∧ s'.trace.count .require = s.trace.count .require := by
  intro words
  refine ⟨Program.run_commitAll running outside data, rfl, rfl, ?_⟩
  intro v rest countable tape s'
  refine ⟨Program.run_readAll running outside countable tape, ?_, rfl, ?_⟩
  · rw [State.remaining_afterReading, tape, List.drop_left]
  · exact Trace.count_pushInputs v _ (by decide)

end Outside

/-- A short number, a text, nothing at all and a long number, with one more word on the tape. -/
theorem framed_values_round_trip_four :
    let data : List Datum := [⟨.shape .uint32, (7 : UInt32)⟩, ⟨.shape .string, "zkhost"⟩,
      ⟨.shape .unit, ()⟩, ⟨.list .bits128, [(258 : BitVec 128)]⟩]
    let words : List Word := [4, 7, 14, 6, 0x74736f686b7a, 0, 24, 1, 258, 0]
    ∃ s, State.start 0 .only ⟨0, 0⟩ (.empty fun _ => true) ⟨[], words ++ [9]⟩ [] = .returned s ∧
      s.terminal = none ∧ s.sandbox.frames = [] ∧
      ((Program.commitAll data).run s).2.outputs = words ∧ (∀ d ∈ data, d.Countable) ∧
      ((Program.readAll .priv (data.map Datum.layout)).run s).1 = .returned data ∧
      (((Program.readAll .priv (data.map Datum.layout)).run s).2.tapes.tape .priv).remaining =
        [9] := by
  intro data words
  obtain ⟨s, start⟩ : ∃ s, State.start 0 .only ⟨0, 0⟩ (.empty fun _ => true)
    ⟨[], words ++ [9]⟩ [] = .returned s := ⟨_, rfl⟩
  have running : s.terminal = none := by cases start; rfl
  have outside : s.sandbox.frames = [] := by cases start; rfl
  have framed : data.flatMap Datum.words = words := by decide +kernel
  have tape : (s.tapes.tape .priv).remaining = data.flatMap Datum.words ++ [9] := by
    rw [framed]
    cases start
    rfl
  have countable : ∀ d ∈ data, d.Countable := by
    simp only [data, List.forall_mem_cons, List.not_mem_nil, false_imp_iff, implies_true, and_true]
    have text : TextCountable "zkhost" := show 6 < UInt64.size by decide
    have numbers : ListCountable Layout.bits128.Countable [(258 : BitVec 128)] :=
      ⟨show 1 < UInt64.size by decide, fun _ _ => trivial⟩
    exact ⟨⟨trivial, by decide⟩, ⟨text, by decide⟩, ⟨trivial, by decide⟩, numbers, by decide⟩
  obtain ⟨written, published, -, read⟩ := framed_values_round_trip running outside data
  obtain ⟨same, rest, -⟩ := read .priv [9] countable tape
  refine ⟨s, start, running, outside, ?_, countable, ?_, ?_⟩
  · rw [written, published, framed]
    cases start
    rfl
  · rw [same]
  · rw [same, rest]

end SealedRun
