import SealedRun.Guest.Io
import SealedRun.Proofs.Memory.Consistency

/-! A guest and its memory outside of regions. Stores to consecutive addresses do not wrap around: as
long as there are addresses for all of them, word `k` of a list is stored at the address `k` behind
the first one, no other address changes, and the trace shows the stores in their order. -/
namespace SealedRun

theorem toNat_add_offset {base : UInt32} {offset : Nat}
    (fits : base.toNat + offset < UInt32.size) :
    (base + UInt32.ofNat offset).toNat = base.toNat + offset := by
  have small : (UInt32.ofNat offset).toNat = offset := UInt32.toNat_ofNat_of_lt' (by omega)
  rw [UInt32.toNat_add, small]
  exact Nat.mod_eq_of_lt fits

namespace Memory

theorem image_store (m : Memory) (addr a : UInt32) (w : Word) :
    (m.store addr w).image[a]? = if addr = a then some w else m.image[a]? := by
  simp only [store, Std.TreeMap.getElem?_insert, Std.compare_eq_iff_eq]

/-- The memory once the words are stored from the address `offset` behind `base` on. -/
def storeFrom (m : Memory) (base : UInt32) : Nat → List Word → Memory
  | _, [] => m
  | offset, w :: ws => (m.store (base + UInt32.ofNat offset) w).storeFrom base (offset + 1) ws

/-- The words are found from the first address on, and everything else is as it was. -/
theorem image_storeFrom {m : Memory} {base : UInt32} {offset : Nat} {ws : List Word}
    (fits : base.toNat + offset + ws.length ≤ UInt32.size) (a : UInt32) :
    (m.storeFrom base offset ws).image[a]? =
      if base.toNat + offset ≤ a.toNat then
        ws[a.toNat - (base.toNat + offset)]?.or m.image[a]?
      else m.image[a]? := by
  induction ws generalizing m offset with
  | nil => simp [storeFrom]
  | cons w ws ih =>
    rw [List.length_cons] at fits
    have first : (base + UInt32.ofNat offset).toNat = base.toNat + offset :=
      toNat_add_offset (by omega)
    rw [storeFrom, ih (by omega), image_store]
    rcases Nat.lt_trichotomy a.toNat (base.toNat + offset) with below | here | behind
    · have other : base + UInt32.ofNat offset ≠ a := by
        rw [ne_eq, ← UInt32.toNat_inj]
        omega
      rw [if_neg (by omega), if_neg other, if_neg (by omega)]
    · have same : base + UInt32.ofNat offset = a := UInt32.toNat_inj.mp (first.trans here.symm)
      rw [if_neg (by omega), if_pos same, if_pos (by omega), here, Nat.sub_self]
      rfl
    · have other : base + UInt32.ofNat offset ≠ a := by
        rw [ne_eq, ← UInt32.toNat_inj]
        omega
      have next : a.toNat - (base.toNat + offset) =
        a.toNat - (base.toNat + (offset + 1)) + 1 := by omega
      rw [if_pos (by omega), if_neg other, if_pos (by omega), next, List.getElem?_cons_succ]

theorem word_eq (m : Memory) (a : UInt32) : m.word a = m.image[a]?.getD 0 :=
  Std.TreeMap.getD_eq_getD_getElem?

theorem word_storeFrom {m : Memory} {base : UInt32} {offset : Nat} {ws : List Word}
    (fits : base.toNat + offset + ws.length ≤ UInt32.size) (a : UInt32) :
    (m.storeFrom base offset ws).word a =
      if base.toNat + offset ≤ a.toNat then ws.getD (a.toNat - (base.toNat + offset)) (m.word a)
      else m.word a := by
  rw [word_eq, word_eq, image_storeFrom fits]
  split
  · rw [List.getD_eq_getElem?_getD, Option.getD_or]
  · rfl

end Memory

namespace Trace

/-- One event for each word stored. -/
def pushStores (t : Trace) (base : UInt32) : Nat → List Word → Trace
  | _, [] => t
  | offset, w :: ws =>
    (t.push .memoryStore [(base + UInt32.ofNat offset).toUInt64, w] none).pushStores base
      (offset + 1) ws

/-- The events of the stores, if `count` events stand in front of them. -/
def storeEvents (base : UInt32) (offset count : Nat) (ws : List Word) : List Event :=
  ws.mapIdx fun k w =>
    ⟨UInt64.ofNat (count + k), .memoryStore, [(base + UInt32.ofNat (offset + k)).toUInt64, w], none⟩

theorem events_pushStores (t : Trace) (base : UInt32) (offset : Nat) (ws : List Word) :
    (t.pushStores base offset ws).events = t.events ++ storeEvents base offset t.length ws := by
  induction ws generalizing t offset with
  | nil => exact (List.append_nil t.events).symm
  | cons w ws ih =>
    have longer (op : HostOp) (args : List Word) (ret : Option Word) :
        (t.push op args ret).length = t.length + 1 := by simp [push, length]
    rw [pushStores, ih, longer, push, storeEvents, storeEvents, List.mapIdx_cons,
      List.append_assoc, List.singleton_append]
    simp only [Nat.add_zero, Nat.add_assoc, Nat.add_comm 1]

end Trace

namespace State

/-- The state once the words are stored. -/
def afterStoring (s : State) (base : UInt32) (offset : Nat) (ws : List Word) : State :=
  { s with
    step := s.step + ws.length
    memory := s.memory.storeFrom base offset ws
    trace := s.trace.pushStores base offset ws }

/-- The state once a word is loaded outside of regions. -/
def afterLoading (s : State) (addr : UInt32) : State :=
  { s with
    step := s.step + 1
    memory := (s.memory.load addr).2
    trace := s.trace.push .memoryLoad [addr.toUInt64] (some (s.memory.word addr)) }

theorem afterStoring_cons (s : State) (base : UInt32) (offset : Nat) (w : Word)
    (ws : List Word) :
    (s.afterStoring base offset [w]).afterStoring base (offset + 1) ws =
      s.afterStoring base offset (w :: ws) := by
  simp only [afterStoring, List.length_cons, List.length_nil, Nat.zero_add, Nat.add_assoc,
    Nat.add_comm 1]
  rfl

end State

namespace Program

variable {s : State} {base : UInt32} {ws : List Word}

theorem address_ok {offset : UInt32} (fits : base.toNat + offset.toNat < UInt32.size) :
    address base offset = ret (base + offset) := if_pos fits

theorem address_ofNat {k : Nat} (fits : base.toNat + k < UInt32.size) :
    address base (UInt32.ofNat k) = ret (base + UInt32.ofNat k) := by
  refine address_ok ?_
  rwa [UInt32.toNat_ofNat_of_lt' (by omega)]

section Outside

variable (running : s.terminal = none) (outside : s.sandbox.frames = [])
include running outside

theorem run_load (addr : UInt32) :
    (request (.load addr)).run s = (.returned (s.memory.word addr), s.afterLoading addr) :=
  run_request_ok (State.load_outside running outside addr)

/-- Words are stored as long as there are addresses for them, whatever words follow. -/
theorem run_storeFrom_append {offset : Nat} (later : List Word)
    (fits : base.toNat + offset + ws.length ≤ UInt32.size) :
    (storeFrom base offset (ws ++ later)).run s =
      (storeFrom base (offset + ws.length) later).run (s.afterStoring base offset ws) := by
  induction ws generalizing s offset with
  | nil => rfl
  | cons w ws ih =>
    rw [List.length_cons] at fits
    have reached : (address base (UInt32.ofNat offset)).run s =
        (.returned (base + UInt32.ofNat offset), s) := by
      rw [address_ofNat (by omega)]
      rfl
    have first : (request (.store (base + UInt32.ofNat offset) w)).run s =
        (.returned (), s.afterStoring base offset [w]) :=
      run_request_ok (State.store_outside running outside _ w)
    have within : base.toNat + (offset + 1) + ws.length ≤ UInt32.size := by omega
    rw [List.cons_append, storeFrom, run_bind_returned reached, run_bind_returned first,
      ih (s := s.afterStoring base offset [w]) running outside within,
      State.afterStoring_cons, List.length_cons, Nat.add_assoc, Nat.add_comm 1]

theorem run_storeFrom {offset : Nat} (fits : base.toNat + offset + ws.length ≤ UInt32.size) :
    (storeFrom base offset ws).run s = (.returned (), s.afterStoring base offset ws) := by
  have all := run_storeFrom_append running outside [] fits
  rw [List.append_nil] at all
  exact all

end Outside

end Program

end SealedRun
