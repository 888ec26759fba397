import SealedRun.Context.Cursor

/-! What the operations on the context slots do when they succeed. -/
namespace SealedRun.ContextCursor

variable {c c' : ContextCursor} {w : Word}

/-- A read takes the next slot, and only before the first write. -/
theorem read_ok (h : c.read = .ok (w, c')) :
    c' = { c with reads := c.reads + 1 } ∧ c.inputs[c.reads]? = some w ∧ c.outputs = [] ∧
      c.reads < c.slots.reads := by
  unfold read at h
  split at h
  case isTrue => cases h
  case isFalse unwritten =>
    split at h
    case isTrue => cases h
    case isFalse left =>
      cases h
      refine ⟨rfl, List.getElem?_eq_getElem _, ?_, by omega⟩
      exact List.length_eq_zero_iff.mp (Nat.eq_zero_of_not_pos unwritten)

/-- A write fills the next slot. -/
theorem write_ok (h : c.write w = .ok c') :
    c' = { c with outputs := c.outputs ++ [w] } ∧ c.outputs.length < c.slots.writes := by
  unfold write at h
  split at h
  case isTrue => cases h
  case isFalse left =>
    cases h
    exact ⟨rfl, Nat.lt_of_not_le left⟩

/-- A read succeeds as long as nothing is written and a slot is left. -/
theorem read_ok_iff : (∃ r, c.read = .ok r) ↔ c.outputs = [] ∧ c.reads < c.slots.reads := by
  constructor
  · rintro ⟨⟨w, c'⟩, h⟩
    exact (read_ok h).2.2
  · rintro ⟨unwritten, left⟩
    have none_written : ¬ 0 < c.writes := by rw [writes, unwritten]; exact Nat.lt_irrefl 0
    rw [read, if_neg none_written, dif_neg (Nat.not_le_of_lt left)]
    exact ⟨_, rfl⟩

theorem write_ok_iff : (∃ c', c.write w = .ok c') ↔ c.outputs.length < c.slots.writes := by
  constructor
  · rintro ⟨c', h⟩
    exact (write_ok h).2
  · intro left
    rw [write, writes, if_neg (Nat.not_le_of_lt left)]
    exact ⟨_, rfl⟩

/-- Reads and writes fail with a mismatch and with nothing else. -/
theorem read_error {e : ExecutionError} (h : c.read = .error e) :
    ∃ op actual, e = c.mismatch op actual := by
  unfold read at h
  split at h
  · cases h
    exact ⟨_, _, rfl⟩
  · split at h
    · cases h
      exact ⟨_, _, rfl⟩
    · cases h

theorem write_error {e : ExecutionError} (h : c.write w = .error e) :
    ∃ op actual, e = c.mismatch op actual := by
  unfold write at h
  split at h
  · cases h
    exact ⟨_, _, rfl⟩
  · cases h

theorem finalize_ok {ws : List Word} :
    c.finalize = .ok ws ↔
      c.reads = c.slots.reads ∧ c.outputs.length = c.slots.writes ∧ c.outputs = ws := by
  unfold finalize writes
  split
  case isTrue h => exact ⟨nofun, fun he => absurd he.1 h⟩
  case isFalse hr =>
    split
    case isTrue h => exact ⟨nofun, fun he => absurd he.2.1 h⟩
    case isFalse hw =>
      rw [Except.ok.injEq]
      exact ⟨fun he => ⟨Decidable.not_not.mp hr, Decidable.not_not.mp hw, he⟩, fun he => he.2.2⟩

/-- Missing reads are reported first, then missing writes. -/
theorem finalize_error {e : ExecutionError} (h : c.finalize = .error e) :
    (c.reads ≠ c.slots.reads ∧
      e = .contextMismatch c.position .read c.slots.reads c.reads) ∨
    (c.reads = c.slots.reads ∧ c.outputs.length ≠ c.slots.writes ∧
      e = .contextMismatch c.position .write c.slots.writes c.outputs.length) := by
  unfold finalize writes at h
  split at h
  case isTrue hr =>
    cases h
    exact .inl ⟨hr, rfl⟩
  case isFalse hr =>
    split at h
    case isTrue hw =>
      cases h
      exact .inr ⟨Decidable.not_not.mp hr, hw, rfl⟩
    case isFalse => cases h

end SealedRun.ContextCursor
