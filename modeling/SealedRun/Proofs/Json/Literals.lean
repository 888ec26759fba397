import SealedRun.Json.Document

/-! Literals read back. The digits of a number are scanned to their end, whatever follows that does
not go on with a number; an escaped string is scanned to its closing quote, and its escapes stand
for the bytes that were escaped. -/
namespace SealedRun

/-- Only zero is written with a zero in front. -/
theorem digits_head {base n : Nat} (hb : 2 ≤ base) (hn : n ≠ 0) :
    ∃ d ds, digits base n = d :: ds ∧ d ≠ 0 := by
  fun_induction digits base n with
  | case1 n _ => exact ⟨n, [], rfl, hn⟩
  | case2 n h ih =>
    have quotient : n / base ≠ 0 := by
      rw [Nat.div_ne_zero_iff]
      omega
    obtain ⟨d, ds, hd, nonzero⟩ := ih quotient
    exact ⟨d, ds ++ [n % base], by rw [hd]; rfl, nonzero⟩

namespace Json

/-- A number as digits. -/
def decimalBytes (n : Nat) : Bytes := (digits 10 n).map fun d => byte (digitChar d)

theorem isDigit_digitChar : ∀ d < 10, isDigit (byte (digitChar d)) = true := by decide

theorem value_digitChar : ∀ d < 10, (byte (digitChar d)).toNat - 48 = d := by decide

theorem digitChar_nonzero : ∀ d < 10, d ≠ 0 → byte (digitChar d) ≠ byte '0' := by decide

theorem isDigit_decimalBytes (n : Nat) : ∀ b ∈ decimalBytes n, isDigit b = true := by
  intro b hb
  obtain ⟨d, hd, rfl⟩ := List.mem_map.mp hb
  exact isDigit_digitChar d (digits_lt (by decide) d hd)

theorem ofDigits_decimalBytes (n : Nat) :
    ofDigits 10 ((decimalBytes n).map fun b => b.toNat - 48) = n := by
  have values : (decimalBytes n).map (fun b => b.toNat - 48) = digits 10 n := by
    rw [decimalBytes, List.map_map]
    exact (List.map_congr_left fun d hd => value_digitChar d (digits_lt (by decide) d hd)).trans
      (List.map_id _)
  rw [values, ofDigits_digits]

/-- The byte can stand inside a number. -/
def isNumeric (b : UInt8) : Bool :=
  isDigit b || b == byte '.' || b == byte 'e' || b == byte 'E'

/-- No number goes on in `rest`. -/
def Ends (rest : Bytes) : Prop := ∀ b ∈ rest.head?, isNumeric b = false

theorem Ends.cons {b : UInt8} {rest : Bytes} (h : isNumeric b = false) : Ends (b :: rest) := by
  intro b' hb
  cases hb
  exact h

theorem Ends.takeWhile {rest : Bytes} (h : Ends rest) : rest.takeWhile isDigit = [] := by
  cases rest with
  | nil => rfl
  | cons b rest =>
    have hb := h b rfl
    simp only [isNumeric, Bool.or_eq_false_iff] at hb
    rw [List.takeWhile_cons_of_neg]
    rw [hb.1.1.1]
    decide

theorem scanDigits_append {ds rest : Bytes} (all : ∀ b ∈ ds, isDigit b = true) (some_digit : ds ≠ [])
    (ends : Ends rest) : scanDigits (ds ++ rest) = some (ds, rest) := by
  have front : (ds ++ rest).takeWhile isDigit = ds := by
    rw [List.takeWhile_append_of_pos all, ends.takeWhile, List.append_nil]
  have nonempty : ds.isEmpty = false := by simpa using some_digit
  simp only [scanDigits, front, nonempty, List.drop_left]
  rfl

theorem scanPart_ends {marks signs rest : Bytes} (ends : Ends rest)
    (marked : marks.all isNumeric = true) : scanPart marks signs rest = some ([], rest) := by
  cases rest with
  | nil => rfl
  | cons b rest =>
    have unmarked : ¬ marks.contains b := by
      intro hb
      have numeric := List.all_eq_true.mp marked b (List.contains_iff_mem.mp hb)
      rw [ends b rfl] at numeric
      cases numeric
    rw [scanPart, if_neg unmarked]

theorem scanInteger_decimalBytes (n : Nat) {rest : Bytes} (ends : Ends rest) :
    scanInteger (decimalBytes n ++ rest) = some (decimalBytes n, rest) := by
  by_cases hn : n = 0
  · subst hn
    have zero : decimalBytes 0 = [byte '0'] := by simp [decimalBytes, digits, digitChar]
    rw [zero]
    rfl
  · obtain ⟨d, ds, hd, nonzero⟩ : ∃ d ds, digits 10 n = d :: ds ∧ d ≠ 0 :=
      digits_head (by decide) hn
    have all := isDigit_decimalBytes n
    have bytes : decimalBytes n = byte (digitChar d) :: ds.map fun d => byte (digitChar d) := by
      rw [decimalBytes, hd]
      rfl
    have small : d < 10 := digits_lt (by decide) d (hd ▸ List.mem_cons_self ..)
    have scanned := scanDigits_append all (by rw [bytes]; exact List.cons_ne_nil _ _) ends
    rw [bytes] at scanned ⊢
    rw [List.cons_append, scanInteger, if_neg (digitChar_nonzero d small nonzero)]
    exact scanned

/-- A number is scanned to its end. -/
theorem scanNumber_decimalBytes (n : Nat) {rest : Bytes} (ends : Ends rest) :
    scanNumber (decimalBytes n ++ rest) = some (decimalBytes n, rest) := by
  have unsigned : scanUnsigned (decimalBytes n ++ rest) = some (decimalBytes n, rest) := by
    have fraction : scanPart [byte '.'] [] rest = some ([], rest) :=
      scanPart_ends ends rfl
    have exponent : scanPart [byte 'e', byte 'E'] [byte '+', byte '-'] rest = some ([], rest) :=
      scanPart_ends ends rfl
    simp [scanUnsigned, scanInteger_decimalBytes n ends, fraction, exponent]
  cases bytes : decimalBytes n with
  | nil => exact absurd (List.map_eq_nil_iff.mp bytes) (digits_ne_nil 10 n)
  | cons b bs =>
    have digit := isDigit_decimalBytes n b (bytes ▸ List.mem_cons_self ..)
    have positive : b ≠ byte '-' := by
      rintro rfl
      cases digit
    rw [bytes, List.cons_append] at unsigned
    rw [List.cons_append, scanNumber, if_neg positive, unsigned]

theorem hexDigit?_digitChar : ∀ d < 16, hexDigit? (byte (digitChar d)) = some d := by decide

/-- A byte is escaped by a letter, by its number, or not at all. -/
theorem escapeByte_cases (b : UInt8) :
    (∃ c, shortEscapes.lookup c = some b ∧ escapeByte b = [byte '\\', c]) ∨
    (b < 0x20 ∧ escapeByte b = [byte '\\', byte 'u', byte '0', byte '0',
      byte (digitChar (b.toNat / 16)), byte (digitChar (b.toNat % 16))]) ∨
    (b ≠ byte '"' ∧ b ≠ byte '\\' ∧ ¬ b < 0x20 ∧ escapeByte b = [b]) := by
  unfold escapeByte
  split
  case isTrue h => exact .inl ⟨byte '"', by rw [h]; rfl, rfl⟩
  split
  case isTrue h => exact .inl ⟨byte '\\', by rw [h]; rfl, rfl⟩
  split
  case isTrue h => exact .inl ⟨byte 'b', h ▸ rfl, rfl⟩
  split
  case isTrue h => exact .inl ⟨byte 't', h ▸ rfl, rfl⟩
  split
  case isTrue h => exact .inl ⟨byte 'n', h ▸ rfl, rfl⟩
  split
  case isTrue h => exact .inl ⟨byte 'f', h ▸ rfl, rfl⟩
  split
  case isTrue h => exact .inl ⟨byte 'r', h ▸ rfl, rfl⟩
  split
  case isTrue h => exact .inr (.inl ⟨h, rfl⟩)
  case isFalse quote backslash _ _ _ _ _ h => exact .inr (.inr ⟨quote, backslash, h, rfl⟩)

section Scanning

variable (r : Bytes)

theorem scanString_short {c : UInt8} (known : (shortEscapes.lookup c).isSome = true) :
    scanString (byte '\\' :: c :: r) =
      (scanString r).map fun p => (byte '\\' :: c :: p.1, p.2) := by
  rw [scanString.eq_def]
  simp only [if_neg (by decide : byte '\\' ≠ byte '"'), if_neg (by decide : ¬ byte '\\' < 0x20),
    if_true, known]

theorem scanString_numbered {h1 h2 h3 h4 : UInt8}
    (hex : [h1, h2, h3, h4].all (fun h => (hexDigit? h).isSome) = true) :
    scanString (byte '\\' :: byte 'u' :: h1 :: h2 :: h3 :: h4 :: r) =
      (scanString r).map fun p =>
        (byte '\\' :: byte 'u' :: h1 :: h2 :: h3 :: h4 :: p.1, p.2) := by
  have letter : (shortEscapes.lookup (byte 'u')).isSome = false := by decide
  rw [scanString.eq_def]
  simp only [if_neg (by decide : byte '\\' ≠ byte '"'), if_neg (by decide : ¬ byte '\\' < 0x20),
    if_true, letter, hex, Bool.false_eq_true, if_false]

theorem scanString_plain {b : UInt8} (quote : b ≠ byte '"') (backslash : b ≠ byte '\\')
    (printable : ¬ b < 0x20) :
    scanString (b :: r) = (scanString r).map fun p => (b :: p.1, p.2) := by
  rw [scanString.eq_def]
  simp only [if_neg quote, if_neg printable, if_neg backslash]

/-- A byte is scanned as it was escaped. -/
theorem scanString_escapeByte (b : UInt8) :
    scanString (escapeByte b ++ r) = (scanString r).map fun p => (escapeByte b ++ p.1, p.2) := by
  rcases escapeByte_cases b with ⟨c, known, hb⟩ | ⟨small, hb⟩ | ⟨quote, backslash, printable, hb⟩
  · rw [hb]
    exact scanString_short r (by rw [known]; rfl)
  · rw [hb]
    refine scanString_numbered r ?_
    have high := hexDigit?_digitChar (b.toNat / 16) (by have := b.toNat_lt; omega)
    have low := hexDigit?_digitChar (b.toNat % 16) (Nat.mod_lt _ (by decide))
    have zero : hexDigit? (byte '0') = some 0 := by decide
    simp [high, low, zero]
  · rw [hb]
    exact scanString_plain r quote backslash printable

/-- A string is scanned up to the quote that closes it. -/
theorem scanString_escape (bs : Bytes) :
    scanString (escape bs ++ byte '"' :: r) = some (escape bs, r) := by
  induction bs with
  | nil =>
    rw [escape, List.flatMap_nil, List.nil_append, scanString.eq_def]
    simp only [if_true]
  | cons b bs ih =>
    have parts : escape (b :: bs) = escapeByte b ++ escape bs := rfl
    rw [parts, List.append_assoc, scanString_escapeByte, ih]
    rfl

end Scanning

/-- The character of a control byte takes one byte again. -/
theorem utf8EncodeChar_control : ∀ n < 32, String.utf8EncodeChar (Char.ofNat n) = [UInt8.ofNat n] := by
  decide

theorem numbered?_control {b : UInt8} (control : b < 0x20) (r : Bytes) :
    numbered? (byte '0' :: byte '0' :: byte (digitChar (b.toNat / 16)) ::
      byte (digitChar (b.toNat % 16)) :: r) = some (Char.ofNat b.toNat, r) := by
  have small : b.toNat < 32 := UInt8.lt_iff_toNat_lt.mp control
  have high := hexDigit?_digitChar (b.toNat / 16) (by omega)
  have low := hexDigit?_digitChar (b.toNat % 16) (Nat.mod_lt _ (by decide))
  have zero : hexDigit? (byte '0') = some 0 := by decide
  have value : ofDigits 16 [0, 0, b.toNat / 16, b.toNat % 16] = b.toNat := by
    simp only [ofDigits, List.foldl_cons, List.foldl_nil]
    omega
  simp only [numbered?, hex4?, List.mapM_cons, List.mapM_nil, high, low, zero, bind, Option.bind,
    pure, value]
  rw [if_neg (by omega), if_neg (by omega)]

/-- An escaped byte stands for itself. -/
theorem unescapeItems_escapeByte (fuel : Nat) (b : UInt8) (r : Bytes) :
    unescapeItems (fuel + 1) (escapeByte b ++ r) = (unescapeItems fuel r).map (b :: ·) := by
  rcases escapeByte_cases b with ⟨c, known, hb⟩ | ⟨small, hb⟩ | ⟨quote, backslash, printable, hb⟩
  · simp only [hb, List.cons_append, List.nil_append, unescapeItems, if_true, known]
  · have number : shortEscapes.lookup (byte 'u') = none := by decide
    have encoded := utf8EncodeChar_control b.toNat (UInt8.lt_iff_toNat_lt.mp small)
    rw [UInt8.ofNat_toNat] at encoded
    simp only [hb, List.cons_append, List.nil_append, unescapeItems, if_true, number,
      numbered?_control small, bind, Option.bind, encoded]
    cases unescapeItems fuel r <;> rfl
  · simp only [hb, List.cons_append, List.nil_append, unescapeItems, if_neg backslash]

theorem length_le_escape (bs : Bytes) : bs.length ≤ (escape bs).length := by
  induction bs with
  | nil => exact Nat.zero_le _
  | cons b bs ih =>
    have item : 1 ≤ (escapeByte b).length := by
      rcases escapeByte_cases b with ⟨c, -, hb⟩ | ⟨-, hb⟩ | ⟨-, -, -, hb⟩ <;> rw [hb] <;> simp
    have parts : escape (b :: bs) = escapeByte b ++ escape bs := rfl
    rw [parts, List.length_append, List.length_cons]
    omega

/-- What was escaped is found again. -/
theorem unescape_escape (bs : Bytes) : unescape (escape bs) = some bs := by
  have enough (bs : Bytes) : ∀ fuel, bs.length ≤ fuel → unescapeItems fuel (escape bs) = some bs := by
    induction bs with
    | nil => intro fuel _; cases fuel <;> rfl
    | cons b bs ih =>
      intro fuel hf
      obtain ⟨fuel, rfl⟩ := Nat.exists_eq_add_of_le' (Nat.le_trans (Nat.succ_pos _) hf)
      have parts : escape (b :: bs) = escapeByte b ++ escape bs := rfl
      rw [parts, unescapeItems_escapeByte, ih fuel (Nat.le_of_succ_le_succ hf)]
      rfl
  exact enough bs _ (length_le_escape bs)

end Json

end SealedRun
