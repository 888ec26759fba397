import SealedRun.Proofs.Input.Reading

/-! Bytes from a tape. Reading bytes takes as many whole words as hold them, and it is the same as
reading these words one by one, but for the steps that are counted. Words are taken all or none: a
tape that has too few keeps them. -/
namespace SealedRun

/-- Asks for `k` words of tape `v`, one after the other. -/
def State.readInputs (v : Visibility) : Nat → State → List (Except ExecutionError Word) × State
  | 0, s => ([], s)
  | k + 1, s =>
    let (answer, next) := s.readInput v
    let (answers, last) := next.readInputs v k
    (answer :: answers, last)

variable {s : State}

section Outside

variable (running : s.terminal = none) (outside : s.sandbox.frames = [])
include running outside

theorem State.readInputs_front {v : Visibility} {k : Nat}
    (enough : k ≤ (s.tapes.tape v).remaining.length) :
    s.readInputs v k = (((s.tapes.tape v).remaining.take k).map .ok, s.afterReading v k k) := by
  induction k generalizing s with
  | zero => exact congrArg (Prod.mk []) (s.afterReading_nothing v).symm
  | succ k ih =>
    cases tape : (s.tapes.tape v).remaining with
    | nil => simp [tape] at enough
    | cons w rest =>
      have first := readInput_next running outside tape
      have behind : ((s.afterReading v 1 1).tapes.tape v).remaining = rest := by
        rw [remaining_afterReading, tape]
        rfl
      have later := ih (s := s.afterReading v 1 1) running outside (by
        rw [behind]
        simpa [tape] using enough)
      rw [behind, afterReading_add, Nat.add_comm 1 k] at later
      simp only [readInputs, first, later, List.take_succ_cons, List.map_cons]

/-- Reading `n` bytes is reading the words that hold them one by one. The bytes are the first ones
of these words, the two ways leave the same state but for the number of steps, and the tapes by
themselves give the same bytes and are left the same. Where there are too few words, there are no
bytes and no word is taken. -/
theorem bulk_read_agrees (v : Visibility) (n : Nat) :
    let k := wordsFor n
    let tape := s.tapes.tape v
    let ws := tape.remaining.take k
    (k ≤ tape.remaining.length → ∃ bs s',
      s.readInputs v k = (ws.map .ok, s') ∧ s'.step = s.step + k ∧
      s.readBytes v n = (.ok bs, { s' with step := s.step + 1 }) ∧
      bs = (wordBytes ws).take n ∧ bs.length = n ∧
      s.tapes.readBytes v n = .ok (bs, s'.tapes)) ∧
    (tape.remaining.length < k →
      let e := ExecutionError.inputExhausted v tape.reads
      s.readBytes v n = (.error e, { s with step := s.step + 1, terminal := some e }) ∧
      s.tapes.readBytes v n = .error e) := by
  intro k tape ws
  constructor
  · intro enough
    have words := State.readInputs_front running outside enough
    have bytes := State.readBytes_front running outside enough
    rw [← firstBytes_take] at bytes
    have counted : k ≤ ws.length := Nat.le_of_eq (List.length_take_of_le enough).symm
    refine ⟨firstBytes ws n, s.afterReading v k k, words, rfl, bytes, rfl,
      length_firstBytes counted, ?_⟩
    rw [Tapes.readBytes, Tapes.readWords, Tape.take?, if_pos enough]
    rfl
  · intro short e
    refine ⟨State.readBytes_exhausted running outside short, ?_⟩
    rw [Tapes.readBytes, Tapes.readWords, Tape.take?, if_neg (Nat.not_le_of_lt short)]
    rfl

end Outside

/-- Nine bytes are the first of two words, and seventeen are more than the tape has. -/
theorem bulk_read_agrees_nine :
    ∃ s, State.start 0 .only ⟨0, 0⟩ (.empty fun _ => true) ⟨[], [0x0102, 0x0304]⟩ [] =
        .returned s ∧ s.terminal = none ∧ s.sandbox.frames = [] ∧
      (∃ s', s.readInputs .priv 2 = ([.ok 0x0102, .ok 0x0304], s') ∧
        s.readBytes .priv 9 = (.ok [2, 1, 0, 0, 0, 0, 0, 0, 4], { s' with step := s.step + 1 })) ∧
      s.tapes.readBytes .priv 17 = .error (.inputExhausted .priv 0) := by
  obtain ⟨s, start⟩ : ∃ s, State.start 0 .only ⟨0, 0⟩ (.empty fun _ => true)
    ⟨[], [0x0102, 0x0304]⟩ [] = .returned s := ⟨_, rfl⟩
  have running : s.terminal = none := by cases start; rfl
  have outside : s.sandbox.frames = [] := by cases start; rfl
  have tape : s.tapes.tape .priv = ⟨[0x0102, 0x0304], 0⟩ := by cases start; rfl
  have agrees := bulk_read_agrees running outside .priv
  rw [tape] at agrees
  obtain ⟨bs, s', words, -, bytes, cut, -⟩ := (agrees 9).1 (by decide)
  have nine : bs = [2, 1, 0, 0, 0, 0, 0, 0, 4] := cut.trans (by decide)
  refine ⟨s, start, running, outside, ⟨s', words, ?_⟩, ((agrees 17).2 (by decide)).2⟩
  rw [bytes, nine]

end SealedRun
