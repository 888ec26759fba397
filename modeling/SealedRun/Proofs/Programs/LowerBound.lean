import SealedRun.Programs.PhantomSearch
import SealedRun.Proofs.Phantom.Loading
import SealedRun.Proofs.Programs.Halving

/-! The phantom search and its array in memory. Halving finds the cut between the words below `v`
and the others, and the word behind the cut is looked at once more; so the search gives a place of
`v`, or the number of places, and does nothing but load. The array ascends, so there the search gives
the place of `v` if `v` has one. -/
namespace SealedRun

namespace PhantomSearch

variable {word : UInt32 → Word} {v : Word} {lo hi : Nat}

theorem loadAt_ofNat {k : Nat} (fits : base.toNat + k < UInt32.size) :
    loadAt (UInt64.ofNat k) = Program.request (.load (base + UInt32.ofNat k)) := by
  rw [loadAt, UInt64.toUInt32_ofNat', Program.address_ofNat fits]
  rfl

theorem lowerBound_done (v : Word) (lo : Nat) : lowerBound v lo lo = .ret lo := by
  rw [lowerBound, dif_neg (Nat.lt_irrefl lo)]
  rfl

/-- A round of the search for the cut. -/
theorem lowerBound_round (v : Word) (some_place : lo < hi) (fits : base.toNat + hi ≤ UInt32.size) :
    let mid := (lo + hi) / 2
    lowerBound v lo hi = (do
      let x ← Program.request (.load (base + UInt32.ofNat mid))
      if x < v then lowerBound v (mid + 1) hi else lowerBound v lo mid) := by
  intro mid
  rw [lowerBound, dif_pos some_place]
  dsimp only
  rw [loadAt_ofNat (by omega)]

/-- In so many rounds the cut of less than `2 ^ rounds` places is found. -/
theorem lowerBound_looksUp (word : UInt32 → Word) (v : Word) (rounds lo hi : Nat) (le : lo ≤ hi)
    (width : hi - lo < 2 ^ rounds) (fits : base.toNat + hi ≤ UInt32.size) :
    ∃ addrs cut, (lowerBound v lo hi).LooksUp word addrs cut ∧ addrs.length ≤ rounds ∧
      Parts (wordAt word base · < v) (¬ wordAt word base · < v) lo hi cut := by
  have done (lo rounds : Nat) : ∃ addrs cut, (lowerBound v lo lo).LooksUp word addrs cut ∧
      addrs.length ≤ rounds ∧
      Parts (wordAt word base · < v) (¬ wordAt word base · < v) lo lo cut :=
    ⟨[], lo, lowerBound_done v lo ▸ .ret, Nat.zero_le rounds, .empty⟩
  induction rounds generalizing lo hi with
  | zero =>
    obtain rfl : lo = hi := by omega
    exact done lo 0
  | succ rounds ih =>
    rcases Nat.eq_or_lt_of_le le with rfl | some_place
    · exact done lo (rounds + 1)
    · let mid := (lo + hi) / 2
      have after : lo ≤ mid := by omega
      have before : mid < hi := by omega
      rw [Nat.pow_succ] at width
      have look : (Program.request (.load (base + UInt32.ofNat mid))).LooksUp word
          [base + UInt32.ofNat mid] (wordAt word base mid) := Program.looksUp_request _
      rw [lowerBound_round v some_place fits]
      by_cases below : wordAt word base mid < v
      · obtain ⟨addrs, cut, later, short, parts⟩ := ih (mid + 1) hi before (by omega) fits
        refine ⟨_, cut, look.bind ?_, Nat.succ_le_succ short, parts.right after below⟩
        rwa [if_pos below]
      · obtain ⟨addrs, cut, later, short, parts⟩ := ih lo mid after (by omega) (by omega)
        refine ⟨_, cut, look.bind ?_, Nat.succ_le_succ short, parts.left before below⟩
        rwa [if_neg below]

section Search

variable {addrs : List UInt32} {cut : Nat}
  (bound : (lowerBound v 0 array.length).LooksUp word addrs cut)
include bound

/-- The word behind the cut decides. -/
theorem search_inside (inside : cut < array.length) :
    (search v).LooksUp word (addrs ++ [base + UInt32.ofNat cut])
      (if wordAt word base cut = v then UInt64.ofNat cut else UInt64.ofNat array.length) := by
  have fits : base.toNat + cut < UInt32.size :=
    Nat.lt_trans (Nat.add_lt_add_left inside _) (by decide)
  have look : (Program.request (.load (base + UInt32.ofNat cut))).LooksUp word
      [base + UInt32.ofNat cut] (wordAt word base cut) := Program.looksUp_request _
  refine bound.bind ?_
  rw [if_pos inside, loadAt_ofNat fits]
  exact look.bind .ret

theorem search_behind (behind : array.length ≤ cut) :
    (search v).LooksUp word addrs (UInt64.ofNat array.length) := by
  rw [← List.append_nil addrs]
  refine bound.bind ?_
  rw [if_neg (Nat.not_lt_of_le behind)]
  exact .ret

end Search

/-- The search of any eight words: it takes at most five loads, what it finds is there, and it finds
the first place of `v` if the words ascend. -/
theorem search_result (word : UInt32 → Word) (v : Word) : ∃ addrs place,
    (search v).LooksUp word addrs place ∧ addrs.length ≤ 5 ∧ place ≤ 8 ∧
      (place < 8 → word (base + place.toUInt32) = v) ∧
      ((block word base 8).Pairwise (· ≤ ·) → place.toNat = (block word base 8).idxOf v) := by
  obtain ⟨addrs, cut, bound, short, parts⟩ :=
    lowerBound_looksUp word v 4 0 8 (by decide) (by decide) (by decide)
  have absent (apart : cut < 8 → wordAt word base cut ≠ v)
      (ascending : (block word base 8).Pairwise (· ≤ ·)) :
      (8 : Word).toNat = (block word base 8).idxOf v := by
    have above (lt : cut < 8) : v < wordAt word base cut :=
      UInt64.lt_of_le_of_ne (UInt64.not_lt.mp (parts.high_behind lt)) (apart lt).symm
    have strict : Parts (wordAt word base · < v) (v < wordAt word base ·) 0 8 cut :=
      ⟨parts.lo_le, parts.le_hi, parts.low_before, above⟩
    rw [List.idxOf_eq_length (strict.not_mem_block ascending), length_block]
    rfl
  by_cases inside : cut < 8
  · have looks := search_inside bound inside
    have short : (addrs ++ [base + UInt32.ofNat cut]).length ≤ 5 := by
      rw [List.length_append]
      exact Nat.succ_le_succ short
    by_cases here : wordAt word base cut = v
    · have place : (UInt64.ofNat cut).toNat = cut :=
        UInt64.toNat_ofNat_of_lt' (Nat.lt_trans inside (by decide))
      rw [if_pos here] at looks
      refine ⟨_, _, looks, short, ?_, fun _ => ?_, fun ascending => ?_⟩
      · rw [UInt64.le_iff_toNat_le, place]
        exact Nat.le_of_lt inside
      · rw [UInt64.toUInt32_ofNat']
        exact here
      · rw [place, idxOf_block inside here fun j before =>
          UInt64.ne_of_lt (parts.before_cut ascending before)]
    · rw [if_neg here] at looks
      exact ⟨_, _, looks, short, UInt64.le_refl _, fun lt => absurd lt (UInt64.lt_irrefl 8),
        absent fun _ => here⟩
  · exact ⟨_, _, search_behind bound (Nat.le_of_not_lt inside), Nat.le_succ_of_le short,
      UInt64.le_refl _, fun lt => absurd lt (UInt64.lt_irrefl 8), absent fun lt => absurd lt inside⟩

/-- What the guest's memory holds once the array is stored. -/
def stored (addr : UInt32) : Word :=
  if base ≤ addr then array.getD (addr - base).toNat 0 else 0

theorem word_storeFrom_empty : (Memory.empty.storeFrom base 0 array).word = stored := by
  funext addr
  have fits : base.toNat + 0 + array.length ≤ UInt32.size := by decide
  have none : Memory.empty.word addr = 0 := rfl
  rw [Memory.word_storeFrom fits, stored, none, Nat.add_zero]
  by_cases reached : base ≤ addr
  · rw [if_pos reached, if_pos (UInt32.le_iff_toNat_le.mp reached),
      UInt32.toNat_sub_of_le _ _ reached]
  · rw [if_neg reached, if_neg (mt UInt32.le_iff_toNat_le.mpr reached)]

section Lookup

variable {place : Word}

theorem toNat_toUInt32 (h : place.toNat < array.length) : place.toUInt32.toNat = place.toNat := by
  rw [UInt64.toNat_toUInt32]
  exact Nat.mod_eq_of_lt (Nat.lt_trans h (by decide))

/-- There is an address for every place. -/
theorem fits_of_place (h : place.toNat < array.length) :
    base.toNat + place.toUInt32.toNat < UInt32.size := by
  rw [toNat_toUInt32 h]
  exact Nat.lt_trans (Nat.add_lt_add_left h _) (by decide)

theorem loadAt_eq (h : place.toNat < array.length) :
    loadAt place = Program.request (.load (base + place.toUInt32)) := by
  rw [loadAt, Program.address_ok (fits_of_place h)]
  rfl

theorem stored_place (h : place.toNat < array.length) :
    stored (base + place.toUInt32) = array[place.toNat] := by
  have reached : base ≤ base + place.toUInt32 := by
    rw [UInt32.le_iff_toNat_le, UInt32.toNat_add, Nat.mod_eq_of_lt (fits_of_place h)]
    exact Nat.le_add_right _ _
  have back : base + place.toUInt32 - base = place.toUInt32 := by
    rw [UInt32.add_comm, UInt32.add_sub_cancel]
  rw [stored, if_pos reached, back, toNat_toUInt32 h, List.getD_eq_getElem?_getD,
    List.getElem?_eq_getElem h]
  rfl

end Lookup

theorem block_stored : block stored base 8 = array := by decide

/-- The search gives the place of `v`, or the number of places if `v` is at none. -/
theorem loads_search (v : Word) : ∃ place, (search v).Loads stored place ∧
    (∀ i (h : i < array.length), array[i] = v → place = UInt64.ofNat i) ∧
    (v ∉ array → place = UInt64.ofNat array.length) := by
  obtain ⟨addrs, place, looks, -, -, -, first⟩ := search_result stored v
  rw [block_stored] at first
  have place_eq : place.toNat = array.idxOf v := first (by decide)
  have places : ∀ i (h : i < array.length), array.idxOf array[i] = (UInt64.ofNat i).toNat := by
    decide
  refine ⟨place, looks.loads, ?_, fun missing => ?_⟩
  · rintro i h rfl
    exact UInt64.toNat_inj.mp (place_eq.trans (places i h))
  · exact UInt64.toNat_inj.mp (place_eq.trans (List.idxOf_eq_length missing))

end PhantomSearch

end SealedRun
