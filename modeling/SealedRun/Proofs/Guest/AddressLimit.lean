import SealedRun.Proofs.Guest.Storing

/-! Stores up to the last address. Words that would go beyond it are not stored at the low addresses
again: the stores end, with the words that had addresses in their places, when the first address
that does not exist is formed. That is looked at before the store is asked for, so a run that
accepts no store fails with its own error. -/
namespace SealedRun

/-- `s'` is `s` with the words stored from `base` on: word `k` is at the address `k` behind `base`,
no other address has changed, and the trace has one event more for each of the words. -/
structure State.Stored (s : State) (base : UInt32) (ws : List Word) (s' : State) : Prop where
  placed : ∀ (addr : UInt32) k (h : k < ws.length), addr.toNat = base.toNat + k →
    s'.memory.image[addr]? = some ws[k]
  kept : ∀ addr : UInt32, addr.toNat < base.toNat ∨ base.toNat + ws.length ≤ addr.toNat →
    s'.memory.image[addr]? = s.memory.image[addr]?
  events : s'.trace.events = s.trace.events ++ ws.mapIdx fun k w =>
    ⟨UInt64.ofNat (s.trace.length + k), .memoryStore, [UInt64.ofNat (base.toNat + k), w], none⟩
  stores : s'.memory.stores = s.memory.stores + ws.length
  loads : s'.memory.loads = s.memory.loads
  rest : s' = { s with
    step := s.step + ws.length
    memory := s'.memory
    trace := s'.trace }

variable {s : State} {base : UInt32} {ws : List Word}

theorem Memory.storeFrom_counts (m : Memory) (base : UInt32) (offset : Nat) (ws : List Word) :
    (m.storeFrom base offset ws).stores = m.stores + ws.length ∧
      (m.storeFrom base offset ws).loads = m.loads := by
  induction ws generalizing m offset with
  | nil => exact ⟨rfl, rfl⟩
  | cons w ws ih =>
    obtain ⟨stores, loads⟩ := ih (m.store (base + UInt32.ofNat offset) w) (offset + 1)
    refine ⟨?_, loads⟩
    rw [storeFrom, stores, List.length_cons]
    exact Nat.add_right_comm m.stores 1 ws.length

theorem toUInt64_add_offset {k : Nat} (fits : base.toNat + k < UInt32.size) :
    (base + UInt32.ofNat k).toUInt64 = UInt64.ofNat (base.toNat + k) := by
  rw [← toNat_add_offset fits]
  exact (UInt64.ofNat_uInt32ToNat _).symm

theorem State.stored_afterStoring (s : State) (fits : base.toNat + ws.length ≤ UInt32.size) :
    s.Stored base ws (s.afterStoring base 0 ws) where
  placed addr k hk here := by
    rw [afterStoring, Memory.image_storeFrom (by omega), if_pos (by omega)]
    have place : addr.toNat - (base.toNat + 0) = k := by omega
    rw [place, List.getElem?_eq_getElem hk]
    rfl
  kept addr other := by
    rw [afterStoring, Memory.image_storeFrom (by omega)]
    split
    · have behind : ws.length ≤ addr.toNat - (base.toNat + 0) := by omega
      rw [List.getElem?_eq_none behind]
      rfl
    · rfl
  events := by
    have events := s.trace.events_pushStores base 0 ws
    rw [Trace.storeEvents] at events
    refine events.trans (congrArg _ (List.mapIdx_eq_mapIdx_iff.mpr fun k hk => ?_))
    rw [Nat.zero_add, toUInt64_add_offset (by omega)]
  stores := (s.memory.storeFrom_counts base 0 ws).1
  loads := (s.memory.storeFrom_counts base 0 ws).2
  rest := rfl

namespace Program

/-- The address behind the last one cannot be formed. -/
theorem address_trap {k : Nat} (small : k < UInt32.size) (beyond : UInt32.size ≤ base.toNat + k) :
    address base (UInt32.ofNat k) = trap .addressOverflow := by
  refine if_neg ?_
  rw [UInt32.toNat_ofNat_of_lt' small]
  exact Nat.not_lt.mpr beyond

section Outside

variable (running : s.terminal = none) (outside : s.sandbox.frames = [])
include running outside

/-- Once the words in front have all the addresses that are left, there is none for the next. -/
theorem run_storeWords_beyond {front rest : List Word} {w : Word}
    (full : base.toNat + front.length = UInt32.size) (small : front.length < UInt32.size) :
    (storeWords base (front ++ w :: rest)).run s =
      (.trapped .addressOverflow, s.afterStoring base 0 front) := by
  rw [storeWords, run_storeFrom_append running outside _ (by omega), Nat.zero_add, storeFrom,
    address_trap small (Nat.le_of_eq full.symm)]
  rfl

end Outside

/-- The first address exists, so a refused store is what comes of the whole. -/
theorem run_storeWords_refused {w : Word} {rest : List Word} {e : ExecutionError} {s' : State}
    (refused : s.store base w = (.error e, s')) :
    (storeWords base (w :: rest)).run s = (.failed e, s') := by
  have reached : (address base (UInt32.ofNat 0)).run s = (.returned base, s) := by
    have first : base.toNat + 0 < UInt32.size := base.toNat_lt
    have same : base + UInt32.ofNat 0 = base := UInt32.add_zero base
    rw [address_ofNat first, same]
    rfl
  rw [storeWords, storeFrom, run_bind_returned reached]
  exact run_bind_failed (run_request_error refused)

end Program

/-- Inside of regions a store changes neither the memory nor what the trace holds. -/
theorem State.store_inside {f : Frame} {fs : List Frame} (running : s.terminal = none)
    (inside : s.sandbox.frames = f :: fs) (addr : UInt32) (w : Word) :
    ∃ s', s.store addr w = (.error (.phantomViolation f.region .memoryStore), s') ∧
      s'.memory = s.memory ∧ s'.trace.events <+: s.trace.events := by
  refine ⟨_, enter_inside running inside .memoryStore _, rfl, ?_⟩
  simp only [fail]
  split
  · exact List.take_prefix _ _
  · exact List.prefix_rfl

/-- Storing any words that can be counted in an address. A run outside of regions stores all of them
if there are addresses for them; if not, it stores as many as there are addresses from `base` on
and then forms an address that does not exist, without a change below `base`. A run that has ended,
or is in a region, fails with the first word and stores nothing. -/
theorem stores_end_at_last_address {base : UInt32} {ws : List Word}
    (counted : ws.length ≤ UInt32.size) :
    (∀ s : State, s.terminal = none → s.sandbox.frames = [] →
      (base.toNat + ws.length ≤ UInt32.size → ∃ s',
        (Program.storeWords base ws).run s = (.returned (), s') ∧ s.Stored base ws s') ∧
      (UInt32.size < base.toNat + ws.length → ∃ s',
        let front := ws.take (UInt32.size - base.toNat)
        (Program.storeWords base ws).run s = (.trapped .addressOverflow, s') ∧
        front.length = UInt32.size - base.toNat ∧ s.Stored base front s' ∧
        ∀ addr < base, s'.memory.image[addr]? = s.memory.image[addr]?)) ∧
    (ws ≠ [] → ∀ s : State,
      (∀ e, s.terminal = some e → (Program.storeWords base ws).run s = (.failed e, s)) ∧
      ∀ f fs, s.terminal = none → s.sandbox.frames = f :: fs → ∃ s',
        (Program.storeWords base ws).run s =
          (.failed (.phantomViolation f.region .memoryStore), s') ∧
        s'.memory = s.memory ∧ s'.trace.events <+: s.trace.events) := by
  refine ⟨fun s running outside => ⟨fun fits => ?_, fun beyond => ?_⟩, fun some_word s => ?_⟩
  · have fits' : base.toNat + 0 + ws.length ≤ UInt32.size := fits
    exact ⟨_, Program.run_storeFrom running outside fits', s.stored_afterStoring fits⟩
  · have last : base.toNat < UInt32.size := base.toNat_lt
    obtain ⟨front, w, rest, rfl, full⟩ : ∃ front w rest, ws = front ++ w :: rest ∧
        front.length = UInt32.size - base.toNat := by
      have more : UInt32.size - base.toNat < ws.length := by omega
      refine ⟨ws.take _, ws[UInt32.size - base.toNat], ws.drop (UInt32.size - base.toNat + 1), ?_,
        List.length_take_of_le (Nat.le_of_lt more)⟩
      rw [← List.drop_eq_getElem_cons more, List.take_append_drop]
    rw [List.length_append, List.length_cons] at counted
    have stored : s.Stored base front (s.afterStoring base 0 front) :=
      s.stored_afterStoring (by omega)
    refine ⟨s.afterStoring base 0 front, ?_⟩
    rw [List.take_left' full]
    exact ⟨Program.run_storeWords_beyond running outside (by omega) (by omega), full, stored,
      fun addr below => stored.kept addr (.inl below)⟩
  · obtain ⟨w, rest, rfl⟩ := List.exists_cons_of_ne_nil some_word
    constructor
    · intro e ended
      exact Program.run_storeWords_refused (State.perform_ended ended (.store base w))
    · intro f fs running inside
      obtain ⟨s', refused, memory, trace⟩ := State.store_inside running inside base w
      exact ⟨s', Program.run_storeWords_refused refused, memory, trace⟩

/-- There are two addresses for three words; the third word is not at the first address. In a region
nothing is stored. -/
theorem stores_end_at_last_address_three :
    let base : UInt32 := 0xfffffffe
    let ws : List Word := [5, 6, 7]
    ∃ s, State.start 0 .only ⟨0, 0⟩ (.empty fun _ => true) ⟨[], []⟩ [] = .returned s ∧
      s.terminal = none ∧ s.sandbox.frames = [] ∧ ws.length ≤ UInt32.size ∧
      UInt32.size < base.toNat + ws.length ∧
      (∃ s', (Program.storeWords base ws).run s = (.trapped .addressOverflow, s') ∧
        s'.memory.image[(0xffffffff : UInt32)]? = some 6 ∧ s'.memory.image[(0 : UInt32)]? = none ∧
        s'.trace.events = [⟨0, .memoryStore, [0xfffffffe, 5], none⟩,
          ⟨1, .memoryStore, [0xffffffff, 6], none⟩]) ∧
      ∃ s', (Program.storeWords base ws).run { s with sandbox := s.sandbox.push "search" 0 } =
          (.failed (.phantomViolation "search" .memoryStore), s') ∧
        s'.memory = s.memory ∧ s'.trace.events <+: s.trace.events := by
  intro base ws
  obtain ⟨s, start⟩ : ∃ s, State.start 0 .only ⟨0, 0⟩ (.empty fun _ => true) ⟨[], []⟩ [] =
    .returned s := ⟨_, rfl⟩
  have running : s.terminal = none := by cases start; rfl
  have outside : s.sandbox.frames = [] := by cases start; rfl
  have counted : ws.length ≤ UInt32.size := by decide
  have beyond : UInt32.size < base.toNat + ws.length := by decide
  obtain ⟨going, refused⟩ := @stores_end_at_last_address base ws counted
  obtain ⟨s', trapped, -, stored, low⟩ := (going s running outside).2 beyond
  refine ⟨s, start, running, outside, counted, beyond, ⟨s', trapped, ?_, ?_, ?_⟩, ?_⟩
  · exact stored.placed 0xffffffff 1 (by decide) (by decide)
  · rw [low 0 (by decide)]
    cases start
    rfl
  · rw [stored.events]
    cases start
    rfl
  · exact (refused (by decide) { s with sandbox := s.sandbox.push "search" 0 }).2 _ _ running rfl

end SealedRun
