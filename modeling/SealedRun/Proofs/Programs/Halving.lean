import Mathlib.Algebra.Group.Nat.Defs
import SealedRun.Programs.BinarySearch
import SealedRun.Proofs.Guest.Lookups
import SealedRun.Proofs.Guest.Storing

/-! Searching by halves. Whatever the words are, a search ends at a place of `v` or at a cut: the
word in front of the cut, if there is one, is below `v`, and the word behind it is not. Only what a
cut says of the other words needs them to ascend. -/
namespace SealedRun

/-- The places from `lo` up to `hi` part at `cut`: the last one in front of it is low and the first
one behind it is high. -/
structure Parts (low high : Nat → Prop) (lo hi cut : Nat) : Prop where
  lo_le : lo ≤ cut
  le_hi : cut ≤ hi
  low_before : ∀ k, k + 1 = cut → lo ≤ k → low k
  high_behind : cut < hi → high cut

namespace Parts

variable {low high : Nat → Prop} {lo hi mid cut k : Nat}

theorem empty : Parts low high lo lo lo :=
  ⟨Nat.le_refl lo, Nat.le_refl lo, fun k next le => absurd le (by omega),
    fun lt => absurd lt (Nat.lt_irrefl lo)⟩

theorem right (h : Parts low high (mid + 1) hi cut) (le : lo ≤ mid) (here : low mid) :
    Parts low high lo hi cut where
  lo_le := Nat.le_trans (Nat.le_succ_of_le le) h.lo_le
  le_hi := h.le_hi
  low_before := by
    intro k next _
    rcases Nat.lt_or_ge mid k with behind | before
    · exact h.low_before k next behind
    · have after := h.lo_le
      obtain rfl : k = mid := by omega
      exact here
  high_behind := h.high_behind

theorem left (h : Parts low high lo mid cut) (lt : mid < hi) (here : high mid) :
    Parts low high lo hi cut where
  lo_le := h.lo_le
  le_hi := Nat.le_trans h.le_hi (Nat.le_of_lt lt)
  low_before := h.low_before
  high_behind := by
    intro _
    rcases Nat.lt_or_eq_of_le h.le_hi with before | at_mid
    · exact h.high_behind before
    · rwa [at_mid]

/-- If whatever stands in front of a low place is low, all the places in front of the cut are. -/
theorem low_of_lt (h : Parts low high lo hi cut)
    (down : ∀ j k, j ≤ k → k < hi → low k → low j) (le : lo ≤ k) (lt : k < cut) : low k := by
  have cut_le := h.le_hi
  exact down k (cut - 1) (by omega) (by omega) (h.low_before (cut - 1) (by omega) (by omega))

/-- If whatever stands behind a high place is high, all the places behind the cut are. -/
theorem high_of_le (h : Parts low high lo hi cut)
    (up : ∀ j k, j ≤ k → k < hi → high j → high k) (le : cut ≤ k) (lt : k < hi) : high k :=
  up cut k le lt (h.high_behind (Nat.lt_of_le_of_lt le lt))

end Parts

/-- The word at the place `k` of those from `base` on. -/
def wordAt (word : UInt32 → Word) (base : UInt32) (k : Nat) : Word := word (base + UInt32.ofNat k)

/-- The words at the first `n` places. -/
def block (word : UInt32 → Word) (base : UInt32) (n : Nat) : List Word :=
  (List.range n).map (wordAt word base)

section Block

variable {word : UInt32 → Word} {base : UInt32} {n : Nat} {v : Word}

theorem getElem_block {k : Nat} (h : k < (block word base n).length) :
    (block word base n)[k] = wordAt word base k := by
  simp only [block, List.getElem_map, List.getElem_range]

theorem mem_block : v ∈ block word base n ↔ ∃ k < n, wordAt word base k = v := by
  simp only [block, List.mem_map, List.mem_range]

theorem length_block : (block word base n).length = n := by
  rw [block, List.length_map, List.length_range]

theorem block_ascending (ascending : (block word base n).Pairwise (· ≤ ·)) {j k : Nat} (le : j ≤ k)
    (lt : k < n) : wordAt word base j ≤ wordAt word base k := by
  rcases Nat.eq_or_lt_of_le le with rfl | before
  · exact UInt64.le_refl _
  · have ordered := List.pairwise_iff_getElem.mp ascending j k
    simp only [length_block, getElem_block] at ordered
    exact ordered (by omega) lt before

theorem idxOf_block {k : Nat} (lt : k < n) (here : wordAt word base k = v)
    (before : ∀ j < k, wordAt word base j ≠ v) : (block word base n).idxOf v = k := by
  rw [List.idxOf, List.findIdx_eq (by rwa [length_block])]
  simp only [getElem_block, beq_iff_eq, beq_eq_false_iff_ne]
  exact ⟨here, before⟩

/-- If the words ascend, those in front of the cut are below `v`. -/
theorem Parts.before_cut {high : Nat → Prop} {cut k : Nat}
    (parts : Parts (wordAt word base · < v) high 0 n cut)
    (ascending : (block word base n).Pairwise (· ≤ ·)) (before : k < cut) :
    wordAt word base k < v :=
  parts.low_of_lt (fun _ _ le lt => UInt64.lt_of_le_of_lt (block_ascending ascending le lt))
    (Nat.zero_le k) before

/-- If the words ascend and the cut is between smaller and greater ones, `v` is at no place. -/
theorem Parts.not_mem_block {cut : Nat}
    (parts : Parts (wordAt word base · < v) (v < wordAt word base ·) 0 n cut)
    (ascending : (block word base n).Pairwise (· ≤ ·)) : v ∉ block word base n := by
  intro mem
  obtain ⟨k, lt, here⟩ := mem_block.mp mem
  rcases Nat.lt_or_ge k cut with before | behind
  · exact UInt64.ne_of_lt (parts.before_cut ascending before) here
  · have up (i j : Nat) (le : i ≤ j) (lt : j < n) (above : v < wordAt word base i) :=
      UInt64.lt_of_lt_of_le above (block_ascending ascending le lt)
    exact UInt64.ne_of_lt (parts.high_of_le up behind lt) here.symm

end Block

namespace BinarySearch

variable {word : UInt32 → Word} {v : Word} {lo hi : Nat}

/-- What the search of the places from `lo` up to `hi` may answer. -/
inductive Answer (words : Nat → Word) (v : Word) (lo hi : Nat) : Int64 → Prop
  | found {k : Nat} (le : lo ≤ k) (lt : k < hi) (here : words k = v) :
      Answer words v lo hi (Int64.ofInt k)
  | missing {cut : Nat} (parts : Parts (words · < v) (v < words ·) lo hi cut) :
      Answer words v lo hi (-1)

theorem search_done (v : Word) (lo : Nat) : search v lo (lo - 1) = .ret (-1) := by
  rw [search, dif_neg (by omega)]
  rfl

/-- A round of the search. -/
theorem search_round (v : Word) (some_place : lo < hi) (fits : base.toNat + hi ≤ UInt32.size) :
    let mid := (lo + (hi - 1)) / 2
    search v lo (hi - 1) = (do
      let x ← Program.request (.load (base + UInt32.ofNat mid))
      if x = v then return Int64.ofInt mid
      else if x < v then search v (mid + 1 : Nat) (hi - 1)
      else search v lo (mid - 1)) := by
  intro mid
  have half : ((lo : Int) + (hi - 1)) / 2 = mid := by omega
  rw [search, dif_pos (by omega), half]
  dsimp only
  rw [Int.toNat_natCast, Program.address_ofNat (by omega)]
  rfl

namespace Answer

variable {words : Nat → Word} {mid : Nat} {i : Int64}

theorem right (h : Answer words v (mid + 1) hi i) (le : lo ≤ mid) (here : words mid < v) :
    Answer words v lo hi i := by
  cases h with
  | found le' lt found => exact .found (Nat.le_trans (Nat.le_succ_of_le le) le') lt found
  | missing parts => exact .missing (parts.right le here)

theorem left (h : Answer words v lo mid i) (lt : mid < hi) (here : v < words mid) :
    Answer words v lo hi i := by
  cases h with
  | found le lt' found => exact .found le (Nat.lt_trans lt' lt) found
  | missing parts => exact .missing (parts.left lt here)

end Answer

/-- In so many rounds the search gets through less than `2 ^ rounds` places. -/
theorem search_looksUp (word : UInt32 → Word) (v : Word) (rounds lo hi : Nat) (le : lo ≤ hi)
    (width : hi - lo < 2 ^ rounds) (fits : base.toNat + hi ≤ UInt32.size) :
    ∃ addrs i, (search v lo (hi - 1)).LooksUp word addrs i ∧ addrs.length ≤ rounds ∧
      Answer (wordAt word base) v lo hi i := by
  have done (lo rounds : Nat) : ∃ addrs i, (search v lo (lo - 1)).LooksUp word addrs i ∧
      addrs.length ≤ rounds ∧ Answer (wordAt word base) v lo lo i :=
    ⟨[], -1, search_done v lo ▸ .ret, Nat.zero_le rounds, .missing .empty⟩
  induction rounds generalizing lo hi with
  | zero =>
    obtain rfl : lo = hi := by omega
    exact done lo 0
  | succ rounds ih =>
    rcases Nat.eq_or_lt_of_le le with rfl | some_place
    · exact done lo (rounds + 1)
    · let mid := (lo + (hi - 1)) / 2
      have after : lo ≤ mid := by omega
      have before : mid < hi := by omega
      rw [Nat.pow_succ] at width
      have look : (Program.request (.load (base + UInt32.ofNat mid))).LooksUp word
          [base + UInt32.ofNat mid] (wordAt word base mid) := Program.looksUp_request _
      rw [search_round v some_place fits]
      by_cases here : wordAt word base mid = v
      · refine ⟨[base + UInt32.ofNat mid], _, look.bind ?_, Nat.succ_le_succ (Nat.zero_le rounds),
          .found after before here⟩
        rw [if_pos here]
        exact .ret
      by_cases below : wordAt word base mid < v
      · obtain ⟨addrs, i, later, short, answer⟩ := ih (mid + 1) hi before (by omega) fits
        refine ⟨_, i, look.bind ?_, Nat.succ_le_succ short, answer.right after below⟩
        rwa [if_neg here, if_pos below]
      · obtain ⟨addrs, i, later, short, answer⟩ := ih lo mid after (by omega) (by omega)
        have above : v < wordAt word base mid :=
          UInt64.lt_of_le_of_ne (UInt64.not_lt.mp below) (Ne.symm here)
        refine ⟨_, i, look.bind ?_, Nat.succ_le_succ short, answer.left before above⟩
        rwa [if_neg here, if_neg below]

/-- The search of any six words: it takes at most three loads, what it finds is there, and it finds
what is there if the words ascend. -/
theorem search_result (word : UInt32 → Word) (v : Word) : ∃ addrs i,
    (search v 0 (array.length - 1)).LooksUp word addrs i ∧ addrs.length ≤ 3 ∧
      (i = -1 ∨ 0 ≤ i ∧ i ≤ 5 ∧ word (base + i.toUInt64.toUInt32) = v) ∧
      ((block word base 6).Pairwise (· ≤ ·) → (i = -1 ↔ v ∉ block word base 6)) := by
  have place : ∀ k : Nat, k < 6 → 0 ≤ Int64.ofInt k ∧ Int64.ofInt k ≤ 5 ∧
      (Int64.ofInt k).toUInt64.toUInt32 = UInt32.ofNat k := by decide
  obtain ⟨addrs, i, looks, short, answer⟩ :=
    search_looksUp word v 3 0 6 (by decide) (by decide) (by decide)
  refine ⟨addrs, i, looks, short, ?_⟩
  cases answer with
  | @found k le lt here =>
    obtain ⟨first, last, cast⟩ := place k lt
    refine ⟨.inr ⟨first, last, ?_⟩, fun ascending => iff_of_false ?_ ?_⟩
    · rw [cast]
      exact here
    · intro none
      rw [none] at first
      exact absurd first (by decide)
    · exact not_not_intro (mem_block.mpr ⟨k, lt, here⟩)
  | missing parts =>
    exact ⟨.inl rfl, fun ascending => iff_of_true rfl (parts.not_mem_block ascending)⟩

end BinarySearch

end SealedRun
