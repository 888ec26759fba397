import Mathlib.Algebra.Group.Nat.Defs
import SealedRun.Artifacts
import SealedRun.Proofs.Files.Places
import SealedRun.Proofs.Trace.Bytes
import SealedRun.Proofs.Wire.Packing

/-! One layout of words as bytes. Whoever makes bytes of words, for a file, for a tape or for a digest,
makes the same bytes, the lowest of each word first; whoever reads words off bytes reads them back. The
readers differ only in what they make of a last word that is cut short: a tape takes it with zeros,
and a file is refused. -/
namespace SealedRun

/-- The bytes with as many zeros as fill up the last word. -/
def zeroFilled (bs : Bytes) : Bytes := bs ++ List.replicate (8 * wordsFor bs.length - bs.length) 0

theorem length_zeroFilled (bs : Bytes) : (zeroFilled bs).length = 8 * wordsFor bs.length := by
  rw [zeroFilled, List.length_append, List.length_replicate, wordsFor]
  omega

theorem getElem?_leBytes {j k : Nat} (h : j < k) (v : Nat) :
    (leBytes k v)[j]? = some (UInt8.ofNat (v / 256 ^ j)) := by
  induction k generalizing j v with
  | zero => cases h
  | succ k ih =>
    cases j with
    | zero => rw [leBytes, List.getElem?_cons_zero, Nat.pow_zero, Nat.div_one]
    | succ j =>
      rw [leBytes, List.getElem?_cons_succ, ih (Nat.lt_of_succ_lt_succ h), Nat.div_div_eq_div_mul,
        Nat.pow_succ']

/-- Byte `k` belongs to word `k / 8`, and is the lower the smaller its place in the word. -/
theorem getElem?_wordBytes (ws : List Word) (k : Nat) :
    (wordBytes ws)[k]? = ws[k / 8]?.map fun w => UInt8.ofNat (w.toNat / 256 ^ (k % 8)) := by
  induction ws generalizing k with
  | nil => rfl
  | cons w ws ih =>
    have size : w.toBytes.length = 8 := length_leBytes 8 _
    have parts : wordBytes (w :: ws) = w.toBytes ++ wordBytes ws := rfl
    rw [parts]
    rcases Nat.lt_or_ge k 8 with first | later
    · rw [List.getElem?_append_left (by omega), Word.toBytes, getElem?_leBytes first,
        Nat.div_eq_of_lt first, Nat.mod_eq_of_lt first]
      rfl
    · have word : k / 8 = (k - 8) / 8 + 1 := by omega
      have place : k % 8 = (k - 8) % 8 := by omega
      rw [List.getElem?_append_right (by omega), size, ih, word, place, List.getElem?_cons_succ]

theorem firstBytes_all (ws : List Word) : firstBytes ws (8 * ws.length) = wordBytes ws :=
  List.take_of_length_le (Nat.le_of_eq (length_wordBytes ws))

theorem firstBytes_packWords_eq (bs : Bytes) (n : Nat) :
    firstBytes (packWords bs) n = (zeroFilled bs).take n := by
  rw [firstBytes, wordBytes_packWords, zeroFilled]

theorem packWords_wordBytes (ws : List Word) : packWords (wordBytes ws) = ws := by
  have count : wordsFor (wordBytes ws).length = ws.length := by
    rw [length_wordBytes, wordsFor]
    omega
  apply wordBytes_injective
  rw [wordBytes_packWords, count, length_wordBytes, Nat.sub_self]
  exact List.append_nil _

/-- A file is cut into the same words as bytes for a tape, if it is not cut short. -/
theorem wholeWords?_eq (bs : Bytes) :
    wholeWords? bs = if bs.length % 8 = 0 then some (packWords bs) else none := by
  fun_induction wholeWords? bs with
  | case1 => rw [packWords]; rfl
  | case2 b r short =>
    rw [if_neg]
    rw [List.length_cons]
    omega
  | case3 b r whole ih =>
    have rest : (r.drop 7).length % 8 = (b :: r).length % 8 := by
      rw [List.length_drop, List.length_cons]
      omega
    rw [ih, rest, packWords]
    split <;> rfl

section Files

variable {fs fs' : Files} {path : String} {bs : Bytes} {ws : List Word}

theorem readWordFile_eq (read : fs.read path = .ok bs) :
    readWordFile fs path = if bs.length % 8 = 0 then .ok (packWords bs)
      else .error (.partialWord path bs.length) := by
  simp only [readWordFile, read, wholeWords?_eq]
  by_cases whole : bs.length % 8 = 0
  · simp only [if_pos whole]
  · simp only [if_neg whole]

theorem writeWordFile_ok_iff :
    writeWordFile fs path ws = .ok fs' ↔ fs.write path (wordBytes ws) = .ok fs' := by
  rw [writeWordFile]
  cases fs.write path (wordBytes ws) with
  | error e => exact ⟨nofun, nofun⟩
  | ok made => simp only [Except.ok.injEq]

/-- Words that were written to a file are read back. -/
theorem readWordFile_written (written : writeWordFile fs path ws = .ok fs') :
    fs'.read path = .ok (wordBytes ws) ∧ readWordFile fs' path = .ok ws := by
  have read := Files.read_write (writeWordFile_ok_iff.mp written)
  have whole : (wordBytes ws).length % 8 = 0 := by
    rw [length_wordBytes]
    omega
  refine ⟨read, ?_⟩
  rw [readWordFile_eq read, if_pos whole, packWords_wordBytes]

end Files

/-- Words and bytes belong together in one way. Bytes that are packed are found again with zeros
behind them, in as few words as hold them. The bytes of words are laid out with the lowest first,
pack to these words, and are what is hashed for a context and what a file is written with; so words
written to a file are read back, and every file that does not end inside a word is read as its bytes
are packed. -/
theorem one_layout_of_words :
    (∀ (bs : Bytes) n,
      firstBytes (packWords bs) n = (zeroFilled bs).take (min n (8 * ((bs.length + 7) / 8)))) ∧
    (∀ bs, firstBytes (packWords bs) bs.length = bs ∧
      (packWords bs).length = (bs.length + 7) / 8) ∧
    (∀ ws,
      let bytes := firstBytes ws (8 * ws.length)
      (∀ k, bytes[k]? = ws[k / 8]?.map fun w => UInt8.ofNat (w.toNat / 256 ^ (k % 8))) ∧
      packWords bytes = ws ∧
      contextDigest ws = sha256 bytes ∧
      ∀ (fs fs' : Files) path,
        (writeWordFile fs path ws = .ok fs' ↔ fs.write path bytes = .ok fs') ∧
        (writeWordFile fs path ws = .ok fs' →
          fs'.read path = .ok bytes ∧ readWordFile fs' path = .ok ws)) ∧
    ∀ (fs : Files) path bs, fs.read path = .ok bs →
      ((∃ ws, readWordFile fs path = .ok ws) ↔ 8 ∣ bs.length) ∧
      (8 ∣ bs.length → readWordFile fs path = .ok (packWords bs)) := by
  refine ⟨fun bs n => ?_, fun bs => ⟨?_, length_packWords bs⟩, fun ws => ?_,
    fun fs path bs read => ?_⟩
  · have size : (zeroFilled bs).length = 8 * ((bs.length + 7) / 8) := length_zeroFilled bs
    rw [firstBytes_packWords_eq, List.take_eq_take_min, size]
  · have front := firstBytes_packWords bs []
    rwa [List.append_nil] at front
  · rw [firstBytes_all]
    exact ⟨getElem?_wordBytes ws, packWords_wordBytes ws, rfl,
      fun fs fs' path => ⟨writeWordFile_ok_iff, readWordFile_written⟩⟩
  · rw [readWordFile_eq read, Nat.dvd_iff_mod_eq_zero]
    by_cases whole : bs.length % 8 = 0
    · rw [if_pos whole]
      exact ⟨iff_of_true ⟨_, rfl⟩ whole, fun _ => rfl⟩
    · rw [if_neg whole]
      exact ⟨iff_of_false nofun whole, fun h => absurd h whole⟩

/-- Two words in a file, of which the second has one byte that counts, and nine bytes in another. -/
theorem one_layout_of_words_files :
    let ws : List Word := [0x0807060504030201, 255]
    let bytes : Bytes := [1, 2, 3, 4, 5, 6, 7, 8, 255, 0, 0, 0, 0, 0, 0, 0]
    let tail : Files := ⟨[(["tail"], .file [1, 2, 3, 4, 5, 6, 7, 8, 255])]⟩
    (∃ fs', writeWordFile .empty "context" ws = .ok fs' ∧ fs'.read "context" = .ok bytes ∧
      readWordFile fs' "context" = .ok ws ∧ contextDigest ws = sha256 bytes) ∧
    packWords [1, 2, 3, 4, 5, 6, 7, 8, 255] = ws ∧
    ¬ ∃ ws, readWordFile tail "tail" = .ok ws := by
  intro ws bytes tail
  obtain ⟨-, -, layout, reading⟩ := one_layout_of_words
  obtain ⟨-, -, digest, files⟩ := layout ws
  have cut : firstBytes ws (8 * ws.length) = bytes := by decide
  rw [cut] at digest files
  obtain ⟨fs', written⟩ : ∃ fs', writeWordFile .empty "context" ws = .ok fs' := ⟨_, rfl⟩
  obtain ⟨read, words⟩ := (files .empty fs' "context").2 written
  have short : tail.read "tail" = .ok [1, 2, 3, 4, 5, 6, 7, 8, 255] := rfl
  refine ⟨⟨fs', written, read, words, digest⟩, by decide +kernel, ?_⟩
  rw [(reading tail "tail" _ short).1]
  decide

end SealedRun
