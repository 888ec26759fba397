import SealedRun.Context.Schema

/-! What the check of a sequence makes sure of: at every place but the first, the segment reads as
many slots as the one before it writes. The first place where it does not is reported. Between the
first and the last segment all are alike, so a sequence of four decides for all longer ones. -/
namespace SealedRun

namespace Position

variable {index total : Nat}

theorem ofIndex_first (h : 1 < total) : ofIndex 0 total = first := by
  rw [ofIndex, if_neg (Nat.ne_of_gt h), if_pos rfl]

theorem ofIndex_last (h : 0 < index) : ofIndex index (index + 1) = last := by
  rw [ofIndex, if_neg (by omega), if_neg (by omega), if_pos rfl]

theorem ofIndex_middle (h : 0 < index) (h' : index + 1 < total) : ofIndex index total = middle := by
  rw [ofIndex, if_neg (by omega), if_neg (by omega), if_neg (by omega)]

end Position

namespace ContextSchema

variable {s : ContextSchema} {index total count : Nat} {e : ExecutionError}

theorem checkHandover_ok :
    s.checkHandover index total = .ok () ↔
      (s.slots (.ofIndex (index - 1) total)).writes = (s.slots (.ofIndex index total)).reads := by
  simp only [checkHandover]
  split
  case isTrue h => exact iff_of_true rfl h
  case isFalse h => exact iff_of_false nofun h

theorem checkHandover_error :
    s.checkHandover index total = .error e ↔
      (s.slots (.ofIndex (index - 1) total)).writes ≠ (s.slots (.ofIndex index total)).reads ∧
      e = .contextMismatch (.ofIndex index total) .read (s.slots (.ofIndex index total)).reads
        (s.slots (.ofIndex (index - 1) total)).writes := by
  simp only [checkHandover]
  split
  case isTrue h => exact iff_of_false nofun fun differ => differ.1 h
  case isFalse h =>
    rw [Except.error.injEq]
    exact ⟨fun same => ⟨h, same.symm⟩, fun differ => differ.2.symm⟩

theorem checkLast_ok (h : count ≤ total) :
    s.checkLast total count = .ok () ↔
      ∀ i, total - count ≤ i → i < total → s.checkHandover i total = .ok () := by
  induction count with
  | zero => exact iff_of_true rfl fun i hi hi' => by omega
  | succ count ih =>
    rw [checkLast]
    cases hc : s.checkHandover (total - (count + 1)) total with
    | error e =>
      refine iff_of_false nofun fun all => ?_
      rw [all _ (Nat.le_refl _) (by omega)] at hc
      cases hc
    | ok u =>
      refine (ih (by omega)).trans ⟨fun all i hi hi' => ?_, fun all i hi => all i (by omega)⟩
      rcases Nat.eq_or_lt_of_le hi with rfl | hlt
      · exact hc
      · exact all i (by omega) hi'

/-- The check stops at the first hand-over that fails, with its error. -/
theorem checkLast_error (h : count ≤ total) :
    s.checkLast total count = .error e ↔ ∃ i, total - count ≤ i ∧ i < total ∧
      s.checkHandover i total = .error e ∧
      ∀ j, total - count ≤ j → j < i → s.checkHandover j total = .ok () := by
  induction count with
  | zero =>
    refine iff_of_false nofun ?_
    rintro ⟨i, hi, hi', -⟩
    omega
  | succ count ih =>
    rw [checkLast]
    cases hc : s.checkHandover (total - (count + 1)) total with
    | error e' =>
      constructor
      · intro stopped
        cases stopped
        exact ⟨_, Nat.le_refl _, by omega, hc, fun j hj hj' => by omega⟩
      · rintro ⟨i, hi, -, fault, before⟩
        rcases Nat.eq_or_lt_of_le hi with rfl | hlt
        · exact hc.symm.trans fault
        · rw [before _ (Nat.le_refl _) hlt] at hc
          cases hc
    | ok u =>
      refine (ih (by omega)).trans ⟨?_, ?_⟩
      · rintro ⟨i, hi, hi', fault, before⟩
        refine ⟨i, by omega, hi', fault, fun j hj hj' => ?_⟩
        rcases Nat.eq_or_lt_of_le hj with rfl | hlt
        · exact hc
        · exact before j (by omega) hj'
      · rintro ⟨i, hi, hi', fault, before⟩
        have later : i ≠ total - (count + 1) := by
          rintro rfl
          rw [hc] at fault
          cases fault
        exact ⟨i, by omega, hi', fault, fun j hj => before j (by omega)⟩

theorem validateSequence_ok :
    s.validateSequence total = .ok () ↔ ∀ i, 0 < i → i < total →
      (s.slots (.ofIndex (i - 1) total)).writes = (s.slots (.ofIndex i total)).reads := by
  rw [validateSequence, checkLast_ok (Nat.sub_le total 1)]
  constructor
  · intro all i hi hi'
    exact checkHandover_ok.mp (all i (by omega) hi')
  · intro all i hi hi'
    exact checkHandover_ok.mpr (all i (by omega) hi')

theorem validateSequence_error :
    s.validateSequence total = .error e ↔ ∃ i, 0 < i ∧ i < total ∧
      s.checkHandover i total = .error e ∧
      ∀ j, 0 < j → j < i → s.checkHandover j total = .ok () := by
  rw [validateSequence, checkLast_error (Nat.sub_le total 1)]
  constructor
  · rintro ⟨i, hi, hi', fault, before⟩
    exact ⟨i, by omega, hi', fault, fun j hj => before j (by omega)⟩
  · rintro ⟨i, hi, hi', fault, before⟩
    exact ⟨i, by omega, hi', fault, fun j hj => before j (by omega)⟩

section Long

theorem checkHandover_first (h : 2 < total) : s.checkHandover 1 total = s.checkHandover 1 4 := by
  have opening : Position.ofIndex 0 total = .first := Position.ofIndex_first (by omega)
  have second : Position.ofIndex 1 total = .middle := Position.ofIndex_middle (by omega) (by omega)
  simp only [checkHandover, Nat.sub_self, opening, second]
  rfl

theorem checkHandover_middle (h : 1 < index) (h' : index + 1 < total) :
    s.checkHandover index total = s.checkHandover 2 4 := by
  have prev : Position.ofIndex (index - 1) total = .middle :=
    Position.ofIndex_middle (by omega) (by omega)
  have next : Position.ofIndex index total = .middle := Position.ofIndex_middle (by omega) h'
  simp only [checkHandover, prev, next]
  rfl

theorem checkHandover_last (h : 1 < index) :
    s.checkHandover index (index + 1) = s.checkHandover 3 4 := by
  have prev : Position.ofIndex (index - 1) (index + 1) = .middle :=
    Position.ofIndex_middle (by omega) (by omega)
  have next : Position.ofIndex index (index + 1) = .last := Position.ofIndex_last (by omega)
  simp only [checkHandover, prev, next]
  rfl

/-- From the third segment on it does not matter how many are left. -/
theorem checkLast_middle (h : count + 4 ≤ total) :
    s.checkLast total (count + 2) = s.checkLast 4 2 := by
  induction count with
  | zero =>
    obtain ⟨rest, rfl⟩ : ∃ rest, total = rest + 4 := ⟨total - 4, by omega⟩
    have middle : s.checkHandover (rest + 4 - 2) (rest + 4) = s.checkHandover 2 4 :=
      checkHandover_middle (by omega) (by omega)
    have last : s.checkHandover (rest + 4 - 1) (rest + 4) = s.checkHandover 3 4 :=
      checkHandover_last (by omega)
    simp only [checkLast, Nat.reduceAdd, Nat.reduceSub, Nat.zero_add, middle, last]
  | succ count ih =>
    have middle : s.checkHandover (total - (count + 1 + 1 + 1)) total = s.checkHandover 2 4 :=
      checkHandover_middle (by omega) (by omega)
    rw [checkLast, middle, ih (by omega)]
    cases hc : s.checkHandover 2 4 with
    | error e => simp only [checkLast, Nat.reduceAdd, Nat.reduceSub, hc]
    | ok u => rfl

/-- Four segments show every hand-over that there is in a longer sequence. -/
theorem validateSequence_long (s : ContextSchema) (more : Nat) :
    s.validateSequence (more + 4) = s.validateSequence 4 := by
  have opening : s.checkHandover (more + 4 - (more + 2 + 1)) (more + 4) = s.checkHandover 1 4 := by
    rw [show more + 4 - (more + 2 + 1) = 1 by omega]
    exact checkHandover_first (by omega)
  have rest : s.checkLast (more + 4) (more + 2) = s.checkLast 4 2 := checkLast_middle (by omega)
  show s.checkLast (more + 4) (more + 2 + 1) = s.checkLast 4 3
  rw [checkLast, opening, rest]
  rfl

end Long

/-- Counts at the seams between segments: each segment reads the one in front of it and writes the
one behind it. They exist just if neighbours agree. -/
theorem seams_iff {reads writes : Nat → Nat} :
    (∃ counts : List Nat, counts.length = total + 1 ∧
      ∀ i < total, counts[i]? = some (reads i) ∧ counts[i + 1]? = some (writes i)) ↔
    ∀ i, 0 < i → i < total → writes (i - 1) = reads i := by
  constructor
  · rintro ⟨counts, -, seams⟩ i hi hi'
    have behind := (seams (i - 1) (by omega)).2
    rw [Nat.sub_add_cancel hi, (seams i hi').1] at behind
    exact (Option.some.inj behind).symm
  · intro agree
    let count (i : Nat) : Nat := if i < total then reads i else writes (i - 1)
    have known (i : Nat) (hi : i < total + 1) : ((List.range (total + 1)).map count)[i]? =
        some (count i) := by
      rw [List.getElem?_map, List.getElem?_range hi]
      rfl
    refine ⟨(List.range (total + 1)).map count, by simp, fun i hi => ⟨?_, ?_⟩⟩
    · rw [known i (by omega)]
      exact congrArg some (if_pos hi)
    · rw [known (i + 1) (by omega)]
      by_cases inner : i + 1 < total
      · exact congrArg some ((if_pos inner).trans (agree (i + 1) (by omega) inner).symm)
      · exact congrArg some (if_neg inner)

/-- The check of a sequence in closed form. It passes just if there are counts for all seams of the
sequence; it gives for every longer sequence what it gives for four segments, and passes where there
is no hand-over; and its error is the mismatch at the first place where neighbours differ. -/
theorem sequence_check_closed (s : ContextSchema) (total : Nat) :
    let reads i := (s.slots (.ofIndex i total)).reads
    let writes i := (s.slots (.ofIndex i total)).writes
    (s.validateSequence total = .ok () ↔ ∃ counts : List Nat, counts.length = total + 1 ∧
      ∀ i < total, counts[i]? = some (reads i) ∧ counts[i + 1]? = some (writes i)) ∧
    (∀ more, s.validateSequence (more + 4) = s.validateSequence 4) ∧
    s.validateSequence 0 = .ok () ∧ s.validateSequence 1 = .ok () ∧
    ∀ e, s.validateSequence total = .error e ↔ ∃ i, 0 < i ∧ i < total ∧
      writes (i - 1) ≠ reads i ∧ (∀ j, 0 < j → j < i → writes (j - 1) = reads j) ∧
      e = .contextMismatch (.ofIndex i total) .read (reads i) (writes (i - 1)) := by
  intro reads writes
  refine ⟨?_, s.validateSequence_long, rfl, rfl, fun e => ?_⟩
  · rw [seams_iff]
    exact validateSequence_ok
  · rw [validateSequence_error]
    constructor
    · rintro ⟨i, hi, hi', fault, before⟩
      obtain ⟨differ, error⟩ := checkHandover_error.mp fault
      exact ⟨i, hi, hi', differ, fun j hj hj' => checkHandover_ok.mp (before j hj hj'), error⟩
    · rintro ⟨i, hi, hi', differ, before, error⟩
      exact ⟨i, hi, hi', checkHandover_error.mpr ⟨differ, error⟩,
        fun j hj hj' => checkHandover_ok.mpr (before j hj hj')⟩

/-- Three segments are not enough: only the fourth makes a middle one follow another. -/
example :
    (⟨⟨0, 3⟩, ⟨3, 2⟩, ⟨2, 0⟩, ⟨0, 0⟩⟩ : ContextSchema).validateSequence 3 = .ok () ∧
    (⟨⟨0, 3⟩, ⟨3, 2⟩, ⟨2, 0⟩, ⟨0, 0⟩⟩ : ContextSchema).validateSequence 4 =
      .error (.contextMismatch .middle .read 3 2) :=
  ⟨rfl, rfl⟩

end ContextSchema

end SealedRun
