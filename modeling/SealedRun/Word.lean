/-! Words and bytes. Everything a run consumes or publishes is a sequence of 64-bit
words; on disk, on a tape and under a digest a word is eight bytes, lowest first. -/
namespace SealedRun

abbrev Word := UInt64
abbrev Bytes := List UInt8

/-- The entries of `size` bytes each that a list can hold; they take less than 2 ^ 63 bytes. -/
def maxEntries (size : Nat) : Nat := (UInt64.size / 2 - 1) / size

/-- The lowest `k` bytes of `v`, lowest first. -/
def leBytes : Nat → Nat → Bytes
  | 0, _ => []
  | k + 1, v => UInt8.ofNat v :: leBytes k (v / 256)

/-- The number whose bytes, lowest first, are given. -/
def leValue : Bytes → Nat
  | [] => 0
  | b :: r => b.toNat + 256 * leValue r

/-- How many numbers there are in `k` bytes. -/
def byteRange : Nat → Nat
  | 0 => 1
  | k + 1 => 256 * byteRange k

theorem length_leBytes (k v : Nat) : (leBytes k v).length = k := by
  induction k generalizing v <;> simp_all [leBytes]

theorem leValue_leBytes (k v : Nat) : leValue (leBytes k v) = v % byteRange k := by
  induction k generalizing v with
  | zero => simp only [leBytes, leValue, byteRange, Nat.mod_one]
  | succ k ih =>
    simp only [leBytes, leValue, byteRange, ih, UInt8.toNat_ofNat']
    exact (Nat.mod_mul (x := v) (a := 256) (b := byteRange k)).symm

theorem leValue_lt (bs : Bytes) : leValue bs < byteRange bs.length := by
  induction bs with
  | nil => exact Nat.zero_lt_one
  | cons b r ih =>
    have hb := b.toNat_lt
    simp only [leValue, List.length_cons, byteRange]
    omega

theorem leBytes_leValue (bs : Bytes) : leBytes bs.length (leValue bs) = bs := by
  induction bs with
  | nil => rfl
  | cons b r ih =>
    have hb := b.toNat_lt
    have hd : (b.toNat + 256 * leValue r) / 256 = leValue r := by omega
    have hm : UInt8.ofNat (b.toNat + 256 * leValue r) = b := by
      apply UInt8.toNat_inj.1
      rw [UInt8.toNat_ofNat']
      omega
    simp only [List.length_cons, leValue, leBytes, hd, hm, ih]

namespace Word

def toBytes (w : Word) : Bytes := leBytes 8 w.toNat

/-- Bytes that are missing at the high end count as zero. -/
def ofBytes (bs : Bytes) : Word := UInt64.ofNat (leValue bs)

end Word

/-- The bytes of several words, one word after another. -/
def wordBytes (ws : List Word) : Bytes := ws.flatMap Word.toBytes

/-- The first `n` bytes of several words. -/
def firstBytes (ws : List Word) (n : Nat) : Bytes := (wordBytes ws).take n

/-- How many whole words hold `n` bytes. -/
def wordsFor (n : Nat) : Nat := (n + 7) / 8

/-- Eight bytes to a word; the last word is filled up with zeros. -/
def packWords : Bytes → List Word
  | [] => []
  | b :: r => Word.ofBytes ((b :: r).take 8) :: packWords (r.drop 7)
termination_by bs => bs.length
decreasing_by simp only [List.length_drop, List.length_cons]; omega

/-- Splits bytes into whole words. Bytes that end inside a word give none. -/
def wholeWords? : Bytes → Option (List Word)
  | [] => some []
  | b :: r =>
    if r.length < 7 then none
    else (wholeWords? (r.drop 7)).map (Word.ofBytes ((b :: r).take 8) :: ·)
termination_by bs => bs.length
decreasing_by simp only [List.length_drop, List.length_cons]; omega

end SealedRun
