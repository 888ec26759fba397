import Mathlib.Algebra.Group.Int.Defs
import SealedRun.Proofs.Continuation.Alone
import SealedRun.Proofs.Programs.LowerBound

/-! Both searches on any memory. They are right whatever words they find, and what they count with
are machine numbers: each sum, difference and conversion that they make has an exact result, so it
does not matter what would become of one that has not. -/
namespace SealedRun

/-- The machine number of `i`, if `i` is in the range from `least` up to `beyond`. -/
def inRange? {β : Type} (ofInt : Int → β) (least beyond i : Int) : Option β :=
  if least ≤ i ∧ i < beyond then some (ofInt i) else none

def int64? : Int → Option Int64 := inRange? Int64.ofInt (-2 ^ 63) (2 ^ 63)

def word? : Int → Option Word := inRange? (UInt64.ofNat ·.toNat) 0 UInt64.size

def uint32? : Int → Option UInt32 := inRange? (UInt32.ofNat ·.toNat) 0 UInt32.size

theorem int64?_eq {i : Int} (ge : -2 ^ 63 ≤ i) (lt : i < 2 ^ 63) : int64? i = some (.ofInt i) :=
  if_pos ⟨ge, lt⟩

theorem word?_eq {n : Nat} (lt : n < UInt64.size) : word? n = some (.ofNat n) := by
  rw [word?, inRange?, if_pos ⟨Int.natCast_nonneg n, Int.ofNat_lt.mpr lt⟩, Int.toNat_natCast]

theorem uint32?_eq {n : Nat} (lt : n < UInt32.size) : uint32? n = some (.ofNat n) := by
  rw [uint32?, inRange?, if_pos ⟨Int.natCast_nonneg n, Int.ofNat_lt.mpr lt⟩, Int.toNat_natCast]

namespace Program

variable {α β γ : Type}

theorem bind_assoc (p : Program α) (f : α → Program β) (g : β → Program γ) :
    p >>= f >>= g = p >>= fun a => f a >>= g := by
  induction p with
  | ret a => rfl
  | fail e => rfl
  | trap t => rfl
  | call c next ih => exact congrArg (call c) (funext fun r => ih r f)
  | region name body next _ ih => exact congrArg (region name body) (funext fun r => ih r f)

/-- Loads at a place, which has to be a 32-bit number and to have a 32-bit address. -/
def loadWithin (beyond : Program α) (base : UInt32) (place : Int) (next : Word → Program α) :
    Program α :=
  (uint32? place).elim beyond fun offset =>
    (uint32? (base.toNat + offset.toNat : Nat)).elim beyond fun addr =>
      request (.load addr) >>= next

theorem loadWithin_eq (beyond : Program α) {base : UInt32} {place : Nat} (next : Word → Program α)
    (fits : base.toNat + place < UInt32.size) :
    loadWithin beyond base place next = request (.load (base + UInt32.ofNat place)) >>= next := by
  have small : (UInt32.ofNat place).toNat = place := UInt32.toNat_ofNat_of_lt' (by omega)
  have reached : uint32? (base.toNat + place : Nat) = some (base + UInt32.ofNat place) := by
    rw [uint32?_eq fits, UInt32.ofNat_add, UInt32.ofNat_toNat]
  rw [loadWithin, uint32?_eq (by omega), Option.elim, small, reached, Option.elim]

end Program

namespace BinarySearch

/-- The search with 64-bit signed numbers, for so many rounds. Where a number is out of range, or
the search goes on behind the last round, it does what `beyond` does. -/
def searchWithin (beyond : Program Int64) (v : Word) : Nat → Int64 → Int64 → Program Int64
  | 0, _, _ => beyond
  | rounds + 1, lo, hi =>
    if lo ≤ hi then
      (int64? (lo.toInt + hi.toInt)).elim beyond fun sum =>
        let mid := sum / 2
        Program.loadWithin beyond base mid.toInt fun x =>
          if x = v then return mid
          else if x < v then
            (int64? (mid.toInt + 1)).elim beyond fun lo => searchWithin beyond v rounds lo hi
          else (int64? (mid.toInt - 1)).elim beyond fun hi => searchWithin beyond v rounds lo hi
    else return -1

section Round

variable (beyond : Program Int64) (v : Word) {rounds lo hi : Nat}

theorem ofInt_le_iff {i j : Int} (hi : -2 ^ 63 ≤ i) (hi' : i < 2 ^ 63) (hj : -2 ^ 63 ≤ j)
    (hj' : j < 2 ^ 63) : Int64.ofInt i ≤ Int64.ofInt j ↔ i ≤ j := by
  rw [Int64.le_iff_toInt_le, Int64.toInt_ofInt_of_le hi hi', Int64.toInt_ofInt_of_le hj hj']

theorem searchWithin_done (fits : base.toNat + lo ≤ UInt32.size) :
    searchWithin beyond v (rounds + 1) (Int64.ofInt lo) (Int64.ofInt (lo - 1)) = .ret (-1) := by
  have size : UInt32.size = 2 ^ 32 := rfl
  have none : ¬ Int64.ofInt lo ≤ Int64.ofInt (lo - 1) := by
    rw [ofInt_le_iff] <;> omega
  rw [searchWithin, if_neg none]
  rfl

/-- Every result in a round is exact. -/
theorem searchWithin_round (some_place : lo < hi) (fits : base.toNat + hi ≤ UInt32.size) :
    let mid := (lo + (hi - 1)) / 2
    searchWithin beyond v (rounds + 1) (Int64.ofInt lo) (Int64.ofInt (hi - 1)) = (do
      let x ← Program.request (.load (base + UInt32.ofNat mid))
      if x = v then return Int64.ofInt mid
      else if x < v then
        searchWithin beyond v rounds (Int64.ofInt (mid + 1 : Nat)) (Int64.ofInt (hi - 1))
      else searchWithin beyond v rounds (Int64.ofInt lo) (Int64.ofInt (mid - 1))) := by
  intro mid
  have size : UInt32.size = 2 ^ 32 := rfl
  have within : Int64.ofInt lo ≤ Int64.ofInt (hi - 1) := by
    rw [ofInt_le_iff] <;> omega
  have toInt_lo : (Int64.ofInt lo).toInt = lo := Int64.toInt_ofInt_of_le (by omega) (by omega)
  have toInt_hi : (Int64.ofInt (hi - 1)).toInt = hi - 1 :=
    Int64.toInt_ofInt_of_le (by omega) (by omega)
  have toInt_mid : (Int64.ofInt mid).toInt = mid := Int64.toInt_ofInt_of_le (by omega) (by omega)
  have sum : int64? (lo + (hi - 1)) = some (Int64.ofInt (lo + (hi - 1))) :=
    int64?_eq (by omega) (by omega)
  have half : Int64.ofInt (lo + (hi - 1)) / 2 = Int64.ofInt mid := by
    have exactly : ((lo : Int) + (hi - 1)).tdiv 2 = mid := by
      rw [Int.tdiv_eq_ediv_of_nonneg (by omega)]
      omega
    have least : Int64.minValue.toInt = -2 ^ 63 := Int64.toInt_minValue
    have greatest : Int64.maxValue.toInt = 2 ^ 63 - 1 := Int64.toInt_maxValue
    rw [← exactly, Int64.ofInt_tdiv (by omega) (by omega) (by omega) (by omega)]
    rfl
  have next : int64? (mid + 1) = some (Int64.ofInt (mid + 1 : Nat)) :=
    int64?_eq (by omega) (by omega)
  have previous : int64? (mid - 1) = some (Int64.ofInt (mid - 1)) :=
    int64?_eq (by omega) (by omega)
  rw [searchWithin, if_pos within, toInt_lo, toInt_hi, sum, Option.elim, half]
  simp only [toInt_mid, next, previous, Option.elim]
  exact Program.loadWithin_eq _ _ (by omega)

end Round

/-- The search with signed numbers is the search. -/
theorem searchWithin_eq (beyond : Program Int64) (v : Word) (rounds lo hi : Nat) (le : lo ≤ hi)
    (width : hi - lo < 2 ^ rounds) (fits : base.toNat + hi ≤ UInt32.size) :
    searchWithin beyond v (rounds + 1) (Int64.ofInt lo) (Int64.ofInt (hi - 1)) =
      search v lo (hi - 1) := by
  induction rounds generalizing lo hi with
  | zero =>
    obtain rfl : lo = hi := by omega
    rw [searchWithin_done beyond v fits, search_done]
  | succ rounds ih =>
    rcases Nat.eq_or_lt_of_le le with rfl | some_place
    · rw [searchWithin_done beyond v fits, search_done]
    · rw [Nat.pow_succ] at width
      rw [searchWithin_round beyond v some_place fits, search_round v some_place fits,
        ih _ hi (by omega) (by omega) fits, ih lo _ (by omega) (by omega) (by omega)]

end BinarySearch

namespace PhantomSearch

/-- The cut of the places from `lo` up to `hi`, found with 64-bit numbers in so many rounds and
handed to `next`. -/
def lowerBoundWithin (beyond : Program Word) (v : Word) (next : Word → Program Word) :
    Nat → Word → Word → Program Word
  | 0, _, _ => beyond
  | rounds + 1, lo, hi =>
    if lo < hi then
      (word? (lo.toNat + hi.toNat : Nat)).elim beyond fun sum =>
        let mid := sum / 2
        Program.loadWithin beyond base mid.toNat fun x =>
          if x < v then
            (word? (mid.toNat + 1 : Nat)).elim beyond fun lo =>
              lowerBoundWithin beyond v next rounds lo hi
          else lowerBoundWithin beyond v next rounds lo mid
    else next lo

/-- The search with 64-bit numbers. -/
def searchWithin (beyond : Program Word) (v : Word) (rounds : Nat) : Program Word :=
  let places := UInt64.ofNat array.length
  lowerBoundWithin beyond v (fun lo =>
    if lo < places then
      Program.loadWithin beyond base lo.toNat fun x => return if x = v then lo else places
    else return places) rounds 0 places

section Round

variable (beyond : Program Word) (v : Word) (next : Word → Program Word) {rounds lo hi : Nat}

theorem ofNat_lt_iff {i j : Nat} (hi : i < UInt64.size) (hj : j < UInt64.size) :
    UInt64.ofNat i < UInt64.ofNat j ↔ i < j := by
  rw [UInt64.lt_iff_toNat_lt, UInt64.toNat_ofNat_of_lt' hi, UInt64.toNat_ofNat_of_lt' hj]

theorem lowerBoundWithin_done :
    lowerBoundWithin beyond v next (rounds + 1) (UInt64.ofNat lo) (UInt64.ofNat lo) =
      next (UInt64.ofNat lo) := by
  rw [lowerBoundWithin, if_neg (UInt64.lt_irrefl _)]

/-- Every result in a round is exact. -/
theorem lowerBoundWithin_round (some_place : lo < hi) (fits : base.toNat + hi ≤ UInt32.size) :
    let mid := (lo + hi) / 2
    lowerBoundWithin beyond v next (rounds + 1) (UInt64.ofNat lo) (UInt64.ofNat hi) = (do
      let x ← Program.request (.load (base + UInt32.ofNat mid))
      if x < v then
        lowerBoundWithin beyond v next rounds (UInt64.ofNat (mid + 1)) (UInt64.ofNat hi)
      else lowerBoundWithin beyond v next rounds (UInt64.ofNat lo) (UInt64.ofNat mid)) := by
  intro mid
  have size : UInt32.size = 2 ^ 32 := rfl
  have size' : UInt64.size = 2 ^ 64 := rfl
  have within : UInt64.ofNat lo < UInt64.ofNat hi := by
    rwa [ofNat_lt_iff (by omega) (by omega)]
  have toNat_lo : (UInt64.ofNat lo).toNat = lo := UInt64.toNat_ofNat_of_lt' (by omega)
  have toNat_hi : (UInt64.ofNat hi).toNat = hi := UInt64.toNat_ofNat_of_lt' (by omega)
  have toNat_mid : (UInt64.ofNat mid).toNat = mid := UInt64.toNat_ofNat_of_lt' (by omega)
  have half : UInt64.ofNat (lo + hi) / 2 = UInt64.ofNat mid :=
    (UInt64.ofNat_div (b := 2) (by omega) (by decide)).symm
  have succ : word? (mid + 1 : Nat) = some (UInt64.ofNat (mid + 1)) := word?_eq (by omega)
  rw [lowerBoundWithin, if_pos within, toNat_lo, toNat_hi, word?_eq (by omega), Option.elim, half]
  dsimp only
  rw [toNat_mid, succ, Option.elim]
  exact Program.loadWithin_eq _ _ (by omega)

end Round

/-- The cut found with machine numbers is the cut. -/
theorem lowerBoundWithin_eq (beyond : Program Word) (v : Word) {next : Word → Program Word}
    {rest : Nat → Program Word} (rounds lo hi : Nat) (le : lo ≤ hi) (width : hi - lo < 2 ^ rounds)
    (fits : base.toNat + hi ≤ UInt32.size) (same : ∀ cut ≤ hi, next (UInt64.ofNat cut) = rest cut) :
    lowerBoundWithin beyond v next (rounds + 1) (UInt64.ofNat lo) (UInt64.ofNat hi) =
      lowerBound v lo hi >>= rest := by
  have done (lo : Nat) : lowerBound v lo lo >>= rest = rest lo := by
    rw [lowerBound_done]
    rfl
  induction rounds generalizing lo hi with
  | zero =>
    obtain rfl : lo = hi := by omega
    rw [lowerBoundWithin_done, done, same lo le]
  | succ rounds ih =>
    rcases Nat.eq_or_lt_of_le le with rfl | some_place
    · rw [lowerBoundWithin_done, done, same lo le]
    · rw [Nat.pow_succ] at width
      have right := ih ((lo + hi) / 2 + 1) hi (by omega) (by omega) fits same
      have left := ih lo ((lo + hi) / 2) (by omega) (by omega) (by omega)
        fun cut le => same cut (by omega)
      rw [lowerBoundWithin_round beyond v next some_place fits, right, left,
        lowerBound_round v some_place fits, Program.bind_assoc]
      refine congrArg _ (funext fun x => ?_)
      split <;> rfl

theorem searchWithin_eq (beyond : Program Word) (v : Word) :
    searchWithin beyond v 5 = search v := by
  refine lowerBoundWithin_eq beyond v 4 0 8 (by decide) (by decide) (by decide) fun cut le => ?_
  have toNat_cut : (UInt64.ofNat cut).toNat = cut :=
    UInt64.toNat_ofNat_of_lt' (Nat.lt_of_le_of_lt le (by decide))
  by_cases inside : cut < array.length
  · have fits : base.toNat + cut < UInt32.size :=
      Nat.lt_trans (Nat.add_lt_add_left inside _) (by decide)
    rw [if_pos (by rwa [UInt64.lt_iff_toNat_lt, toNat_cut]), if_pos inside, toNat_cut,
      Program.loadWithin_eq _ _ fits, loadAt_ofNat fits]
  · rw [if_neg (by rwa [UInt64.lt_iff_toNat_lt, toNat_cut]), if_neg inside]

end PhantomSearch

/-- On any memory and from any state that still runs, both searches come to an end in which nothing
has changed but what lookups change, and inside a region that is two counters. The binary search
takes at most three loads; it gives minus one or a place of `v`, and if the words ascend, strictly or
not, it gives minus one just for a word that is not there. The phantom search takes at most five; it
gives a place of `v` or the number of places, and if the words ascend, this is the first place of
`v`, or the number of places just for a word that is not there. All sums, differences and conversions
that they make with machine numbers are exact, as is every address. -/
theorem searches_right_on_any_memory {s : State} (running : s.terminal = none) (v : Word) :
    (∃ addrs i, (BinarySearch.search v 0 (BinarySearch.array.length - 1)).run s =
        (.returned i, s.afterLookups addrs) ∧ addrs.length ≤ 3 ∧
      (i = -1 ∨ 0 ≤ i ∧ i ≤ 5 ∧ s.memory.word (BinarySearch.base + i.toUInt64.toUInt32) = v) ∧
      let words := block s.memory.word BinarySearch.base 6
      (words.Pairwise (· ≤ ·) → (i = -1 ↔ v ∉ words))) ∧
    (∃ addrs place, (PhantomSearch.search v).run s = (.returned place, s.afterLookups addrs) ∧
      addrs.length ≤ 5 ∧ place ≤ 8 ∧
      (place < 8 → s.memory.word (PhantomSearch.base + place.toUInt32) = v) ∧
      let words := block s.memory.word PhantomSearch.base 8
      (words.Pairwise (· ≤ ·) → place.toNat = words.idxOf v ∧ (place = 8 ↔ v ∉ words))) ∧
    (s.sandbox.frames ≠ [] → ∀ addrs, s.afterLookups addrs = s.afterLoads addrs.length) ∧
    (∀ beyond, BinarySearch.searchWithin beyond v 4 0 5 =
      BinarySearch.search v 0 (BinarySearch.array.length - 1)) ∧
    ∀ beyond, PhantomSearch.searchWithin beyond v 5 = PhantomSearch.search v := by
  refine ⟨?_, ?_, State.afterLookups_inside, fun beyond => ?_, fun beyond => ?_⟩
  · obtain ⟨addrs, i, looks, short, sound, complete⟩ := BinarySearch.search_result s.memory.word v
    exact ⟨addrs, i, looks.run running, short, sound, complete⟩
  · obtain ⟨addrs, place, looks, short, bound, sound, complete⟩ :=
      PhantomSearch.search_result s.memory.word v
    refine ⟨addrs, place, looks.run running, short, bound, sound, ?_⟩
    intro words ascending
    have first := complete ascending
    refine ⟨first, ?_, fun missing => ?_⟩
    · rintro rfl mem
      have before := List.idxOf_lt_length_iff.mpr mem
      rw [← first, length_block] at before
      exact absurd before (by decide)
    · rw [← UInt64.toNat_inj, first, List.idxOf_eq_length missing, length_block]
      rfl
  · exact BinarySearch.searchWithin_eq beyond v 3 0 6 (by decide) (by decide) (by decide)
  · exact PhantomSearch.searchWithin_eq beyond v

/-- Nothing is stored, so all words are zero: outside of regions the binary search does not find the
word 7, and inside a region the phantom search finds the first zero and leaves no trace of it. -/
theorem searches_right_on_any_memory_zeros :
    let s := State.fresh (.empty fun _ => false) ⟨[], []⟩
    let inside := { s with sandbox := s.sandbox.push "search" 0 }
    s.terminal = none ∧ inside.terminal = none ∧
      (∃ addrs, (BinarySearch.search 7 0 (BinarySearch.array.length - 1)).run s =
        (.returned (-1), s.afterLookups addrs) ∧ addrs.length ≤ 3) ∧
      ∃ k, (PhantomSearch.search 0).run inside = (.returned 0, inside.afterLoads k) ∧ k ≤ 5 := by
  intro s inside
  have zeros : block s.memory.word BinarySearch.base 6 = [0, 0, 0, 0, 0, 0] := rfl
  have zeros' : block s.memory.word PhantomSearch.base 8 = [0, 0, 0, 0, 0, 0, 0, 0] := rfl
  obtain ⟨⟨addrs, i, ran, short, -, complete⟩, -⟩ := searches_right_on_any_memory (s := s) rfl 7
  obtain ⟨-, ⟨addrs', place, ran', short', -, -, complete'⟩, shut, -⟩ :=
    searches_right_on_any_memory (s := inside) rfl 0
  have missing : i = -1 := (complete (by rw [zeros]; decide)).mpr (by rw [zeros]; decide)
  have first : place.toNat = 0 := by
    have found := (complete' (by rw [zeros']; decide)).1
    rw [zeros'] at found
    exact found
  have zero : place = 0 := UInt64.toNat_inj.mp first
  rw [missing] at ran
  rw [zero, shut (List.cons_ne_nil _ _)] at ran'
  exact ⟨rfl, rfl, ⟨addrs, ran, short⟩, addrs'.length, ran', short'⟩

end SealedRun
