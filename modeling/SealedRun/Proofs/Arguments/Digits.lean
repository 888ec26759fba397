import Mathlib.Data.List.Forall2
import SealedRun.Arguments

/-! Written numbers and bytes. A digit is a character of a table, in either case; a number is one or
more digits, perhaps behind a plus sign; bytes are digits two by two. The readers accept these texts
and no others and give what is written: a number if it is below the limit, and bytes whatever the
encoding of the text, since a character that is no digit has a byte that is none. -/
namespace SealedRun

/-- The digit `c` stands for `d`. -/
def IsDigit (base : Nat) (c : Char) (d : Nat) : Prop :=
  d < base ∧
    ("0123456789abcdef".toList[d]? = some c ∨ "0123456789ABCDEF".toList[d]? = some c)

/-- One or more digits that spell `n`. -/
def Spells (base : Nat) (cs : List Char) (n : Nat) : Prop :=
  cs ≠ [] ∧ ∃ ds, List.Forall₂ (IsDigit base) cs ds ∧ ofDigits base ds = n

/-- Digits with at most one plus sign in front. -/
inductive Unsigned (base : Nat) : List Char → Nat → Prop
  | plain {cs : List Char} {n : Nat} (digits : Spells base cs n) : Unsigned base cs n
  | signed {cs : List Char} {n : Nat} (digits : Spells base cs n) : Unsigned base ('+' :: cs) n

/-- Two digits to a byte, the high one first. -/
inductive BytePairs : List Char → Bytes → Prop
  | nil : BytePairs [] []
  | cons {hi lo : Char} {cs : List Char} {b : UInt8} {bs : Bytes}
      (high : IsDigit 16 hi (b.toNat / 16)) (low : IsDigit 16 lo (b.toNat % 16))
      (rest : BytePairs cs bs) : BytePairs (hi :: lo :: cs) (b :: bs)

/-- A number as hexadecimal digits. -/
def hexadecimal (n : Nat) : String := String.ofList ((digits 16 n).map digitChar)

section
variable {base limit n m d : Nat} {c : Char} {cs : List Char} {ds : List Nat} {bs : Bytes}

theorem lower_digits : ∀ d < 16, "0123456789abcdef".toList[d]? = some (digitChar d) := by decide

theorem upper_digits :
    ∀ d < 16, "0123456789ABCDEF".toList[d]? = some (digitChar d).toUpper := by decide

theorem isDigit_iff (hb : base ≤ 16) :
    IsDigit base c d ↔ d < base ∧ (c = digitChar d ∨ c = (digitChar d).toUpper) := by
  refine and_congr_right fun hd => ?_
  rw [lower_digits d (by omega), upper_digits d (by omega), Option.some.injEq, Option.some.injEq,
    eq_comm, @eq_comm _ _ c]

theorem isDigit_digitChar (hb : base ≤ 16) (hd : d < base) : IsDigit base (digitChar d) d :=
  (isDigit_iff hb).2 ⟨hd, .inl rfl⟩

theorem digit_values : ∀ d < 16,
    (d < 10 → (digitChar d).toNat = 48 + d ∧ (digitChar d).toUpper.toNat = 48 + d) ∧
    (10 ≤ d → (digitChar d).toNat = 87 + d ∧ (digitChar d).toUpper.toNat = 55 + d) := by decide

theorem digitValue?_eq_some_iff (hb : base ≤ 16) :
    digitValue? base c = some d ↔ IsDigit base c d := by
  have least (k : Char) : k ≤ c ↔ k.toNat ≤ c.toNat := Iff.rfl
  have most (k : Char) : c ≤ k ↔ c.toNat ≤ k.toNat := Iff.rfl
  have same (k : Char) : c = k ↔ c.toNat = k.toNat := Char.toNat_inj.symm
  rw [isDigit_iff hb, same, same]
  simp only [digitValue?, least, most, Option.ite_none_right_eq_some, Option.some.injEq,
    Char.reduceToNat]
  constructor
  · rintro ⟨hd, value⟩
    rw [value] at hd
    have values := digit_values d (by omega)
    refine ⟨hd, ?_⟩
    split at value
    · omega
    · split at value
      · omega
      · split at value <;> omega
  · rintro ⟨hd, hc⟩
    have values := digit_values d (by omega)
    split
    · omega
    · split
      · omega
      · split <;> omega

/-- Further digits make a number no smaller. -/
theorem le_foldl_digits (hb : 1 ≤ base) : n ≤ ds.foldl (fun n d => base * n + d) n := by
  induction ds generalizing n with
  | nil => exact Nat.le_refl n
  | cons d ds ih =>
    have more : 1 * n ≤ base * n := Nat.mul_le_mul_right n hb
    have rest : base * n + d ≤ ds.foldl (fun n d => base * n + d) (base * n + d) := ih
    rw [List.foldl_cons]
    omega

/-- The reader gives up as soon as a digit carries it to the limit; it has then missed nothing,
since the number that is spelled is at least as large. -/
theorem readDigits_ok_iff (hb : 1 ≤ base ∧ base ≤ 16) (hn : n < limit) :
    readDigits base limit n cs = .ok m ↔
      m < limit ∧ ∃ ds, List.Forall₂ (IsDigit base) cs ds ∧
        ds.foldl (fun n d => base * n + d) n = m := by
  induction cs generalizing n with
  | nil =>
    simp only [readDigits, Except.ok.injEq, List.forall₂_nil_left_iff, exists_eq_left,
      List.foldl_nil]
    omega
  | cons c r ih =>
    simp only [readDigits, List.forall₂_cons_left_iff]
    constructor
    · intro h
      split at h
      case h_1 => cases h
      case h_2 d value =>
      split at h
      case isFalse => cases h
      case isTrue small =>
      obtain ⟨below, ds, spelled, total⟩ := (ih small).1 h
      have digit := (digitValue?_eq_some_iff hb.2).1 value
      exact ⟨below, d :: ds, ⟨d, ds, digit, spelled, rfl⟩, total⟩
    · rintro ⟨below, _, ⟨d, ds, digit, spelled, rfl⟩, total⟩
      have least : base * n + d ≤ m := total ▸ le_foldl_digits hb.1
      have small : base * n + d < limit := Nat.lt_of_le_of_lt least below
      simp only [(digitValue?_eq_some_iff hb.2).2 digit, if_pos small]
      exact (ih small).2 ⟨below, ds, spelled, total⟩

theorem readDigits_zero_ok_iff (hb : 1 ≤ base ∧ base ≤ 16) (hl : 0 < limit) (some_digit : cs ≠ []) :
    readDigits base limit 0 cs = .ok n ↔ Spells base cs n ∧ n < limit := by
  rw [readDigits_ok_iff hb hl, and_comm, Spells, and_iff_right some_digit]
  rfl

theorem not_isDigit (hb : base ≤ 16) (h : digitValue? base c = none) : ¬ IsDigit base c d := by
  rw [← digitValue?_eq_some_iff hb, h]
  exact nofun

/-- A colon is no digit. -/
theorem colon_not_mem (hb : base ≤ 16) (h : ∀ c ∈ cs, ∃ d, IsDigit base c d) : ':' ∉ cs := by
  intro colon
  obtain ⟨d, digit⟩ := h ':' colon
  exact not_isDigit hb (by simp [digitValue?]) digit

theorem Spells.digits (h : Spells base cs n) : ∀ c ∈ cs, ∃ d, IsDigit base c d := by
  obtain ⟨-, ds, spelled, -⟩ := h
  induction spelled with
  | nil => simp
  | cons digit _ ih =>
    rw [List.forall_mem_cons]
    exact ⟨⟨_, digit⟩, ih⟩

theorem Spells.not_signed (hb : base ≤ 16) : ¬ Spells base ('+' :: cs) n := by
  intro h
  obtain ⟨d, digit⟩ := h.digits '+' List.mem_cons_self
  exact not_isDigit hb (by simp [digitValue?]) digit

theorem unsigned_signed_iff (hb : base ≤ 16) : Unsigned base ('+' :: cs) n ↔ Spells base cs n := by
  constructor
  · intro h
    cases h with
    | plain digits => exact absurd digits (Spells.not_signed hb)
    | signed digits => exact digits
  · exact .signed

theorem unsigned_plain_iff (unsigned : ∀ r, cs ≠ '+' :: r) :
    Unsigned base cs n ↔ Spells base cs n := by
  constructor
  · intro h
    cases h with
    | plain digits => exact digits
    | signed digits => exact absurd rfl (unsigned _)
  · exact .plain

theorem readNumber_ok_iff (hb : 1 ≤ base ∧ base ≤ 16) (hl : 0 < limit) :
    readNumber base limit cs = .ok n ↔ Unsigned base cs n ∧ n < limit := by
  have nothing : ¬ Spells base [] n := fun h => h.1 rfl
  fun_cases readNumber base limit cs with
  | case1 => simp [unsigned_plain_iff, nothing]
  | case2 => simp [unsigned_signed_iff hb.2, nothing]
  | case3 r some_digit =>
    rw [unsigned_signed_iff hb.2]
    exact readDigits_zero_ok_iff hb hl (by simpa using some_digit)
  | case4 _ some_digit _ unsigned =>
    rw [unsigned_plain_iff unsigned]
    exact readDigits_zero_ok_iff hb hl some_digit

theorem spells_digits {base : Nat} (hb : 2 ≤ base ∧ base ≤ 16) (n : Nat) :
    Spells base ((digits base n).map digitChar) n := by
  refine ⟨by simpa using digits_ne_nil base n, digits base n, ?_, ofDigits_digits base n⟩
  rw [List.forall₂_map_left_iff, List.forall₂_same]
  intro d hd
  exact isDigit_digitChar hb.2 (digits_lt hb.1 d hd)

/-- Every byte as a character of its own. -/
def singleBytes (xs : Bytes) : List Char := xs.map fun x => Char.ofNat x.toNat

theorem digit_halves {h l : Nat} (hh : h < 16) (hl : l < 16) :
    (UInt8.ofNat (16 * h + l)).toNat / 16 = h ∧ (UInt8.ofNat (16 * h + l)).toNat % 16 = l := by
  rw [UInt8.toNat_ofNat_of_lt' (by simp [UInt8.size]; omega)]
  omega

theorem byte_of_halves (b : UInt8) : UInt8.ofNat (16 * (b.toNat / 16) + b.toNat % 16) = b := by
  rw [Nat.div_add_mod, UInt8.ofNat_toNat]

theorem bytePairs_iff {hi lo : Char} :
    BytePairs (hi :: lo :: cs) bs ↔
      ∃ b rest, IsDigit 16 hi (b.toNat / 16) ∧ IsDigit 16 lo (b.toNat % 16) ∧
        BytePairs cs rest ∧ b :: rest = bs := by
  constructor
  · intro h
    cases h with
    | cons high low rest => exact ⟨_, _, high, low, rest, rfl⟩
  · rintro ⟨b, rest, high, low, pairs, rfl⟩
    exact .cons high low pairs

/-- A mapped result is there if the result is. -/
theorem map_ok_iff {ε α β : Type} {x : Except ε α} {f : α → β} {b : β} :
    x.map f = .ok b ↔ ∃ a, x = .ok a ∧ f a = b := by
  cases x <;> simp [Except.map]

theorem hexPairs_ok_iff {index : Nat} {xs : Bytes} (even : xs.length % 2 = 0) :
    hexPairs index xs = .ok bs ↔ BytePairs (singleBytes xs) bs := by
  have known {c : Char} {d : Nat} : IsDigit 16 c d ↔ digitValue? 16 c = some d :=
    (digitValue?_eq_some_iff (Nat.le_refl 16)).symm
  fun_induction hexPairs index xs generalizing bs with
  | case1 index hi lo r bad =>
    refine iff_of_false (by simp) fun pairs => ?_
    obtain ⟨b, _, high, -⟩ := bytePairs_iff.1 pairs
    rw [known, bad] at high
    cases high
  | case2 index hi lo r h bad _ =>
    refine iff_of_false (by simp) fun pairs => ?_
    obtain ⟨b, _, -, low, -⟩ := bytePairs_iff.1 pairs
    rw [known, bad] at low
    cases low
  | case3 index hi lo r h l low high ih =>
    have below := (known.2 high).1
    have below' := (known.2 low).1
    have halves := digit_halves below below'
    have rest_even : r.length % 2 = 0 := by
      simp only [List.length_cons] at even
      omega
    rw [map_ok_iff, singleBytes, List.map_cons, List.map_cons, bytePairs_iff]
    simp only [ih rest_even, known, high, low, Option.some.injEq]
    constructor
    · rintro ⟨rest, pairs, rfl⟩
      exact ⟨_, rest, halves.1.symm, halves.2.symm, pairs, rfl⟩
    · rintro ⟨b, rest, rfl, rfl, pairs, rfl⟩
      exact ⟨rest, pairs, by rw [byte_of_halves]⟩
  | case4 xs _ short =>
    have nothing : xs = [] := by
      match xs, even, short with
      | [], _, _ => rfl
      | [_], even, _ => cases even
      | _ :: _ :: _, _, short => exact absurd rfl (short _ _ _)
    subst nothing
    simp only [Except.ok.injEq]
    constructor
    · rintro rfl
      exact .nil
    · intro pairs
      cases pairs
      rfl

theorem digit_ascii : ∀ d < 16, (digitChar d).toNat < 128 ∧ (digitChar d).toUpper.toNat < 128 := by
  decide

theorem IsDigit.ascii (h : IsDigit 16 c d) : c.toNat < 128 := by
  obtain ⟨hd, rfl | rfl⟩ := (isDigit_iff (Nat.le_refl 16)).1 h
  · exact (digit_ascii d hd).1
  · exact (digit_ascii d hd).2

theorem BytePairs.digits (h : BytePairs cs bs) : ∀ c ∈ cs, ∃ d, IsDigit 16 c d := by
  induction h with
  | nil => simp
  | cons high low _ ih =>
    simp only [List.forall_mem_cons]
    exact ⟨⟨_, high⟩, ⟨_, low⟩, ih⟩

theorem BytePairs.ascii (h : BytePairs cs bs) : ∀ c ∈ cs, c.toNat < 128 := by
  intro c hc
  obtain ⟨d, digit⟩ := h.digits c hc
  exact digit.ascii

theorem BytePairs.length (h : BytePairs cs bs) : cs.length = 2 * bs.length := by
  induction h with
  | nil => rfl
  | cons _ _ _ ih =>
    simp only [List.length_cons, ih]
    omega

theorem utf8Bytes_ofList (cs : List Char) :
    utf8Bytes (String.ofList cs) = cs.flatMap String.utf8EncodeChar := by
  simp [utf8Bytes, List.utf8Encode]

theorem singleBytes_ascii (h : c.toNat < 128) : singleBytes (String.utf8EncodeChar c) = [c] := by
  have small : c.val.toNat ≤ 127 := Nat.le_of_lt_succ h
  have same : (UInt8.ofNat c.val.toNat).toNat = c.toNat :=
    UInt8.toNat_ofNat_of_lt' (Nat.lt_of_lt_of_le h (by decide))
  simp only [String.utf8EncodeChar, if_pos small, singleBytes, List.map_cons, List.map_nil, same,
    Char.ofNat_toNat]

/-- What is not ASCII starts with a byte that is not ASCII. -/
theorem utf8EncodeChar_beyond (h : 128 ≤ c.toNat) :
    ∃ b ∈ String.utf8EncodeChar c, 128 ≤ b.toNat := by
  have large : ¬ c.val.toNat ≤ 127 := Nat.not_le_of_lt h
  simp only [String.utf8EncodeChar, if_neg large]
  have first {k : Nat} {rest : Bytes} (hk : 128 ≤ k % 256) :
      ∃ b ∈ UInt8.ofNat k :: rest, 128 ≤ b.toNat :=
    ⟨_, List.mem_cons_self, by rwa [UInt8.toNat_ofNat']⟩
  split
  · exact first (by omega)
  · split
    · exact first (by omega)
    · exact first (by omega)

theorem singleBytes_utf8Bytes (ascii : ∀ c ∈ cs, c.toNat < 128) :
    singleBytes (utf8Bytes (String.ofList cs)) = cs := by
  rw [utf8Bytes_ofList, singleBytes, List.map_flatMap]
  induction cs with
  | nil => rfl
  | cons c cs ih =>
    simp only [List.forall_mem_cons] at ascii
    have first := singleBytes_ascii ascii.1
    rw [singleBytes] at first
    rw [List.flatMap_cons, first, ih ascii.2, List.singleton_append]

/-- Text is ASCII if all its bytes are. -/
theorem ascii_of_singleBytes
    (ascii : ∀ c ∈ singleBytes (utf8Bytes (String.ofList cs)), c.toNat < 128) :
    ∀ c ∈ cs, c.toNat < 128 := by
  intro c hc
  by_contra beyond
  obtain ⟨b, hb, large⟩ := utf8EncodeChar_beyond (Nat.le_of_not_lt beyond)
  have member : b ∈ utf8Bytes (String.ofList cs) := by
    rw [utf8Bytes_ofList]
    exact List.mem_flatMap.2 ⟨c, hc, hb⟩
  have small := ascii _ (List.mem_map_of_mem member)
  have valid : b.toNat.isValidChar := .inl (Nat.lt_trans b.toNat_lt (by decide))
  have same : (Char.ofNat b.toNat).toNat = b.toNat := by
    rw [Char.ofNat, dif_pos valid]
    rfl
  omega

theorem readHexBytes_ok_iff : readHexBytes cs = .ok bs ↔ BytePairs cs bs := by
  have size : (singleBytes (utf8Bytes (String.ofList cs))).length =
      (utf8Bytes (String.ofList cs)).length := List.length_map _
  constructor
  · intro h
    simp only [readHexBytes] at h
    split at h
    case isTrue => cases h
    case isFalse even =>
    have pairs := (hexPairs_ok_iff (by omega)).1 h
    rwa [singleBytes_utf8Bytes (ascii_of_singleBytes pairs.ascii)] at pairs
  · intro pairs
    have single := singleBytes_utf8Bytes pairs.ascii
    have even : (utf8Bytes (String.ofList cs)).length % 2 = 0 := by
      rw [← size, single, pairs.length]
      omega
    simp only [readHexBytes]
    rw [if_neg (by omega), hexPairs_ok_iff even, single]
    exact pairs

theorem bytePairs_hexText (bs : Bytes) : BytePairs (hexText bs).toList bs := by
  rw [hexText, String.toList_ofList]
  induction bs with
  | nil => exact .nil
  | cons b bs ih =>
    have high : b.toNat / 16 < 16 := Nat.div_lt_of_lt_mul b.toNat_lt
    have low : b.toNat % 16 < 16 := Nat.mod_lt _ (by decide)
    exact .cons (isDigit_digitChar (by decide) high) (isDigit_digitChar (by decide) low) ih

end
end SealedRun
