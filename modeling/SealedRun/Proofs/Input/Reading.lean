import SealedRun.Proofs.Input.Consumption
import SealedRun.Proofs.Wire.Packing

/-! Words off the front of a tape. A read that the tape can serve takes the next words from it,
shows them in the trace and, if the tape is public, in the instance; a read that it cannot serve
takes nothing and ends the run. -/
namespace SealedRun

/-- The tape behind the next `n` words. -/
def Tape.skip (t : Tape) (n : Nat) : Tape := ⟨t.remaining.drop n, t.reads + n⟩

theorem Tape.skip_skip (t : Tape) (m n : Nat) : (t.skip m).skip n = t.skip (m + n) := by
  simp only [skip, List.drop_drop, Nat.add_assoc]

namespace State

variable {s : State}

/-- The state once `n` words of tape `v` are read, in `steps` steps. -/
def afterReading (s : State) (v : Visibility) (steps n : Nat) : State :=
  let ws := (s.tapes.tape v).remaining.take n
  { s with
    step := s.step + steps
    tapes := s.tapes.setTape v ((s.tapes.tape v).skip n)
    instanceWords := s.instanceWords ++ v.published ws
    trace := s.trace.pushInputs v ws }

theorem remaining_afterReading (s : State) (v : Visibility) (steps n : Nat) :
    ((s.afterReading v steps n).tapes.tape v).remaining = (s.tapes.tape v).remaining.drop n := by
  rw [afterReading, Tapes.tape_setTape]
  rfl

theorem afterReading_nothing (s : State) (v : Visibility) : s.afterReading v 0 0 = s := by
  have tape : (s.tapes.tape v).skip 0 = s.tapes.tape v := rfl
  have published : v.published [] = [] := by cases v <;> rfl
  simp only [afterReading, tape, Tapes.setTape_self, List.take_zero, published, List.append_nil,
    Trace.pushInputs, Nat.add_zero]

theorem afterReading_add (s : State) (v : Visibility) (steps steps' m n : Nat) :
    (s.afterReading v steps m).afterReading v steps' n =
      s.afterReading v (steps + steps') (m + n) := by
  have split : (s.tapes.tape v).remaining.take (m + n) =
      (s.tapes.tape v).remaining.take m ++ ((s.tapes.tape v).remaining.drop m).take n :=
    List.take_add
  have behind : ((s.tapes.tape v).skip m).remaining = (s.tapes.tape v).remaining.drop m := rfl
  simp only [afterReading, Tapes.tape_setTape, Tapes.setTape_setTape, Tape.skip_skip, behind,
    split, Visibility.published_append, Trace.pushInputs_append, List.append_assoc, Nat.add_assoc]

section Outside

variable (running : s.terminal = none) (outside : s.sandbox.frames = [])
include running outside

theorem readInput_next {v : Visibility} {w : Word} {rest : List Word}
    (tape : (s.tapes.tape v).remaining = w :: rest) :
    s.readInput v = (.ok w, s.afterReading v 1 1) := by
  have read : s.tapes.read v = .ok (w, s.tapes.setTape v ((s.tapes.tape v).skip 1)) := by
    simp only [Tapes.read, Tape.next?, tape, Tape.skip, List.drop_succ_cons, List.drop_zero]
  rw [readInput_outside running outside, read, afterReading, tape]
  rfl

theorem readInput_exhausted {v : Visibility} (tape : (s.tapes.tape v).remaining = []) :
    s.readInput v =
      (.error (s.tapes.exhausted v), (Call.input v).refused s (s.tapes.exhausted v)) := by
  have read : s.tapes.read v = .error (s.tapes.exhausted v) := by
    simp only [Tapes.read, Tape.next?, tape]
  rw [readInput_outside running outside, read]
  rfl

theorem readBytes_front {v : Visibility} {n : Nat}
    (enough : wordsFor n ≤ (s.tapes.tape v).remaining.length) :
    s.readBytes v n =
      (.ok (firstBytes (s.tapes.tape v).remaining n), s.afterReading v 1 (wordsFor n)) := by
  rw [readBytes_outside running outside, Tapes.readWords, Tape.take?, if_pos enough,
    ← firstBytes_take]
  rfl

theorem readBytes_exhausted {v : Visibility} {n : Nat}
    (short : (s.tapes.tape v).remaining.length < wordsFor n) :
    s.readBytes v n =
      (.error (s.tapes.exhausted v), (Call.readBytes v n).refused s (s.tapes.exhausted v)) := by
  rw [readBytes_outside running outside, Tapes.readWords, Tape.take?,
    if_neg (Nat.not_le_of_lt short)]
  rfl

end Outside

end State

end SealedRun
