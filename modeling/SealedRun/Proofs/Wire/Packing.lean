import SealedRun.Word

/-! Bytes packed into words. Packing takes as few words as hold the bytes and fills up the last one
with zeros, so the bytes are found again at the front of the words, whatever their number. -/
namespace SealedRun

theorem byteRange_le {j k : Nat} (h : j ≤ k) : byteRange j ≤ byteRange k := by
  induction h with
  | refl => exact Nat.le_refl _
  | step h ih => exact Nat.le_trans ih (Nat.le_mul_of_pos_left _ (by decide))

theorem leBytes_zero (k : Nat) : leBytes k 0 = List.replicate k 0 := by
  induction k with
  | zero => rfl
  | succ k ih => rw [leBytes, Nat.zero_div, ih, List.replicate_succ]; rfl

theorem leBytes_add (j k v : Nat) :
    leBytes (j + k) v = leBytes j v ++ leBytes k (v / byteRange j) := by
  induction j generalizing v with
  | zero => rw [Nat.zero_add, byteRange, Nat.div_one]; rfl
  | succ j ih => rw [Nat.succ_add, leBytes, ih, leBytes, byteRange, Nat.div_div_eq_div_mul]; rfl

/-- Written with more bytes than it has, a number gets zeros at its high end. -/
theorem leBytes_leValue_add (bs : Bytes) (k : Nat) :
    leBytes (bs.length + k) (leValue bs) = bs ++ List.replicate k 0 := by
  rw [leBytes_add, leBytes_leValue, Nat.div_eq_of_lt (leValue_lt bs), leBytes_zero]

theorem Word.toBytes_ofBytes {bs : Bytes} (h : bs.length ≤ 8) :
    (Word.ofBytes bs).toBytes = bs ++ List.replicate (8 - bs.length) 0 := by
  have small : leValue bs < UInt64.size :=
    Nat.lt_of_lt_of_le (leValue_lt bs) (byteRange_le h)
  have same : (UInt64.ofNat (leValue bs)).toNat = leValue bs := UInt64.toNat_ofNat_of_lt' small
  rw [ofBytes, toBytes, same, ← leBytes_leValue_add, Nat.add_sub_cancel' h]

theorem wordBytes_append (ws us : List Word) : wordBytes (ws ++ us) = wordBytes ws ++ wordBytes us :=
  List.flatMap_append

theorem length_wordBytes (ws : List Word) : (wordBytes ws).length = 8 * ws.length := by
  induction ws with
  | nil => rfl
  | cons w ws ih =>
    have first : w.toBytes.length = 8 := length_leBytes 8 _
    have parts : wordBytes (w :: ws) = w.toBytes ++ wordBytes ws := rfl
    rw [parts, List.length_append, first, ih, List.length_cons]
    omega

theorem length_firstBytes {ws : List Word} {n : Nat} (enough : wordsFor n ≤ ws.length) :
    (firstBytes ws n).length = n := by
  rw [wordsFor] at enough
  rw [firstBytes, List.length_take, length_wordBytes]
  omega

/-- The words that hold the bytes are enough. -/
theorem firstBytes_take (ws : List Word) (n : Nat) :
    firstBytes (ws.take (wordsFor n)) n = firstBytes ws n := by
  by_cases short : ws.length ≤ wordsFor n
  · rw [List.take_of_length_le short]
  · have held : n ≤ (wordBytes (ws.take (wordsFor n))).length := by
      rw [length_wordBytes, List.length_take]
      simp only [wordsFor] at short ⊢
      omega
    have parts : wordBytes ws = wordBytes (ws.take (wordsFor n)) ++ wordBytes (ws.drop (wordsFor n)) := by
      rw [← wordBytes_append, List.take_append_drop]
    rw [firstBytes, firstBytes, parts, List.take_append_of_le_length held]

theorem length_packWords (bs : Bytes) : (packWords bs).length = wordsFor bs.length := by
  fun_induction packWords bs with
  | case1 => rfl
  | case2 b r ih =>
    rw [List.length_cons, ih, List.length_drop, List.length_cons, wordsFor, wordsFor]
    omega

/-- The bytes of packed bytes are these bytes and the zeros that fill up the last word. -/
theorem wordBytes_packWords (bs : Bytes) :
    wordBytes (packWords bs) = bs ++ List.replicate (8 * wordsFor bs.length - bs.length) 0 := by
  fun_induction packWords bs with
  | case1 => rfl
  | case2 b r ih =>
    have chunk : ((b :: r).take 8).length ≤ 8 := List.length_take_le 8 _
    have bytes : wordBytes (Word.ofBytes ((b :: r).take 8) :: packWords (r.drop 7)) =
      (Word.ofBytes ((b :: r).take 8)).toBytes ++ wordBytes (packWords (r.drop 7)) := rfl
    rw [bytes, ih, Word.toBytes_ofBytes chunk]
    by_cases last : r.length ≤ 7
    · have whole : (b :: r).take 8 = b :: r := List.take_of_length_le (Nat.succ_le_succ last)
      have none_left : r.drop 7 = [] := List.drop_of_length_le last
      have one : wordsFor (b :: r).length = 1 := by
        rw [wordsFor, List.length_cons]
        omega
      rw [whole, none_left, one]
      exact List.append_nil _
    · have full : ((b :: r).take 8).length = 8 := by
        rw [List.length_take, List.length_cons]
        omega
      have zeros : 8 * wordsFor (r.drop 7).length - (r.drop 7).length =
          8 * wordsFor (b :: r).length - (b :: r).length := by
        rw [List.length_drop, List.length_cons, wordsFor, wordsFor]
        omega
      have parts : (b :: r).take 8 ++ r.drop 7 = b :: r := List.take_append_drop 8 (b :: r)
      rw [full, zeros, Nat.sub_self, List.replicate_zero, List.append_nil, ← List.append_assoc,
        parts]

/-- Whatever words follow. -/
theorem firstBytes_packWords (bs : Bytes) (rest : List Word) :
    firstBytes (packWords bs ++ rest) bs.length = bs := by
  rw [firstBytes, wordBytes_append, wordBytes_packWords, List.append_assoc, List.take_left]

end SealedRun
