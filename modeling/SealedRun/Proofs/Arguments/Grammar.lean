import SealedRun.Proofs.Arguments.Digits
import SealedRun.Proofs.Trace.Bytes
import SealedRun.Proofs.Wire.Packing

/-! The grammar of command line arguments. An argument is a value, a colon and a type; since no
value has a colon in it, the first colon is the one before the type. The reader succeeds on the
arguments of this grammar and on no others, and its words are those the arguments denote, in their
order. -/
namespace SealedRun

/-- As few words as hold the bytes, lowest byte first, and zeros in what is left of the last. -/
structure Packs (bs : Bytes) (ws : List Word) : Prop where
  length : ws.length = (bs.length + 7) / 8
  bytes : wordBytes ws = bs ++ List.replicate (8 * ws.length - bs.length) 0

namespace Arguments

/-- The text of one word: a decimal number, or a hexadecimal one with its mark. No word is as large
as the limit, so the number that is written is below it. -/
inductive WordText : List Char → Word → Prop
  | decimal {cs : List Char} {w : Word} (number : Unsigned 10 cs w.toNat) : WordText cs w
  | hexadecimal {cs : List Char} {w : Word} (number : Unsigned 16 cs w.toNat) :
      WordText ('0' :: 'x' :: cs) w

/-- What a value of some type stands for. -/
inductive ValueOf : (type value : List Char) → List Word → Prop
  | number {cs : List Char} {w : Word} (text : WordText cs w) : ValueOf "i64".toList cs [w]
  | bytes {cs : List Char} {bs : Bytes} (pairs : BytePairs cs bs) :
      ValueOf "bytes".toList ('0' :: 'x' :: cs) (bs.map UInt8.toUInt64)
  | packed {cs : List Char} {bs : Bytes} {ws : List Word} (pairs : BytePairs cs bs)
      (packs : Packs bs ws) : ValueOf "bytes-packed".toList ('0' :: 'x' :: cs) ws

/-- What an argument stands for. Its type is all that follows its first colon. -/
def Denotes (a : List Char) (ws : List Word) : Prop :=
  ∃ v t, a = v ++ ':' :: t ∧ ':' ∉ v ∧ ValueOf t v ws

end Arguments

section
variable {cs v t : List Char} {w : Word} {ws : List Word} {bs : Bytes}

theorem afterHexMark?_eq_some {r : List Char} (h : afterHexMark? cs = some r) :
    cs = '0' :: 'x' :: r := by
  unfold afterHexMark? at h
  split at h
  · cases h
    rfl
  · cases h

theorem splitFirst_append {sep : Char} (h : sep ∉ v) :
    splitFirst sep (v ++ sep :: t) = some (v, t) := by
  induction v with
  | nil => simp [splitFirst]
  | cons c v ih =>
    rw [List.mem_cons, not_or] at h
    rw [List.cons_append, splitFirst, if_neg (Ne.symm h.1), ih h.2]
    rfl

theorem splitFirst_eq_some {sep : Char} (h : splitFirst sep cs = some (v, t)) :
    cs = v ++ sep :: t ∧ sep ∉ v := by
  induction cs generalizing v with
  | nil => cases h
  | cons c cs ih =>
    rw [splitFirst] at h
    split at h
    case isTrue here =>
      cases h
      simp [here]
    case isFalse other =>
      obtain ⟨⟨front, rest⟩, found, same⟩ := Option.map_eq_some_iff.1 h
      cases same
      have ⟨parts, free⟩ := ih found
      simp [parts, free, Ne.symm other]

theorem packs_iff : Packs bs ws ↔ packWords bs = ws := by
  have packed : Packs bs (packWords bs) :=
    ⟨length_packWords bs, by rw [wordBytes_packWords, length_packWords]⟩
  constructor
  · intro h
    apply wordBytes_injective
    rw [packed.bytes, h.bytes, packed.length, h.length]
  · rintro rfl
    exact packed

theorem Unsigned.no_colon {base n : Nat} (hb : base ≤ 16) (h : Unsigned base cs n) : ':' ∉ cs := by
  cases h with
  | plain spelled => exact colon_not_mem hb spelled.digits
  | signed spelled => simpa using colon_not_mem hb spelled.digits

theorem BytePairs.no_colon (h : BytePairs cs bs) : ':' ∉ cs :=
  colon_not_mem (by decide) h.digits

namespace Arguments

theorem ValueOf.no_colon (h : ValueOf t v ws) : ':' ∉ v := by
  cases h with
  | number text =>
    cases text with
    | decimal number => exact number.no_colon (by decide)
    | hexadecimal number => simpa using number.no_colon (by decide)
  | bytes pairs => simpa using pairs.no_colon
  | packed pairs _ => simpa using pairs.no_colon

theorem denotes_iff (free : ':' ∉ v) : Denotes (v ++ ':' :: t) ws ↔ ValueOf t v ws := by
  constructor
  · rintro ⟨v', t', same, free', value⟩
    have one : splitFirst ':' (v ++ ':' :: t) = some (v, t) := splitFirst_append free
    rw [same, splitFirst_append free'] at one
    cases one
    exact value
  · exact fun value => ⟨v, t, rfl, free, value⟩

/-- The first colon of an argument is the one before the type. -/
theorem ValueOf.denotes (h : ValueOf t v ws) : Denotes (v ++ ':' :: t) ws :=
  (denotes_iff h.no_colon).2 h

/-- The mark of a hexadecimal number is no part of a decimal one. -/
theorem mark_not_decimal {r : List Char} {n : Nat} : ¬ Unsigned 10 ('0' :: 'x' :: r) n := by
  intro h
  have plain := (unsigned_plain_iff (by simp)).1 h
  obtain ⟨d, digit⟩ := plain.digits 'x' (by simp)
  exact not_isDigit (by decide) rfl digit

/-- A number that was read below the limit is the value of its word. -/
theorem word_of_number_iff {base : Nat} (hb : 1 ≤ base ∧ base ≤ 16) :
    (∃ n, readNumber base UInt64.size cs = .ok n ∧ UInt64.ofNat n = w) ↔
      Unsigned base cs w.toNat := by
  simp only [readNumber_ok_iff hb (by decide : 0 < UInt64.size)]
  constructor
  · rintro ⟨n, ⟨number, small⟩, rfl⟩
    rwa [UInt64.toNat_ofNat_of_lt' small]
  · intro number
    exact ⟨w.toNat, ⟨number, w.toNat_lt⟩, UInt64.ofNat_toNat⟩

theorem readWord_ok_iff : readWord cs = .ok w ↔ WordText cs w := by
  cases mark : afterHexMark? cs with
  | some r =>
    obtain rfl := afterHexMark?_eq_some mark
    have reads : readWord ('0' :: 'x' :: r) = .ok w ↔
        ∃ n, readNumber 16 UInt64.size r = .ok n ∧ UInt64.ofNat n = w := by
      simp only [readWord, mark]
      cases readNumber 16 UInt64.size r <;> simp
    rw [reads, word_of_number_iff (by decide)]
    constructor
    · exact .hexadecimal
    · intro text
      cases text with
      | decimal number => exact absurd number mark_not_decimal
      | hexadecimal number => exact number
  | none =>
    have reads : readWord cs = .ok w ↔
        ∃ n, readNumber 10 UInt64.size cs = .ok n ∧ UInt64.ofNat n = w := by
      simp only [readWord, mark]
      cases readNumber 10 UInt64.size cs <;> simp
    rw [reads, word_of_number_iff (by decide)]
    constructor
    · exact .decimal
    · intro text
      cases text with
      | decimal number => exact number
      | hexadecimal number => cases mark

theorem readBytes_ok_iff : readBytes cs = .ok bs ↔ ∃ r, cs = '0' :: 'x' :: r ∧ BytePairs r bs := by
  cases mark : afterHexMark? cs with
  | some r =>
    obtain rfl := afterHexMark?_eq_some mark
    have reads : readBytes ('0' :: 'x' :: r) = .ok bs ↔ readHexBytes r = .ok bs := by
      simp only [readBytes, mark]
      cases readHexBytes r <;> simp
    simp [reads, readHexBytes_ok_iff]
  | none =>
    simp only [readBytes, mark, reduceCtorEq, false_iff]
    rintro ⟨r, rfl, -⟩
    cases mark

theorem readArgument_value_iff {a : List Char} (found : splitFirst ':' a = some (v, t)) :
    readArgument a = .ok ws ↔ ValueOf t v ws := by
  simp only [readArgument, found]
  constructor
  · intro h
    split at h
    case isTrue number =>
      obtain ⟨w, text, rfl⟩ := map_ok_iff.1 h
      exact number ▸ .number (readWord_ok_iff.1 text)
    case isFalse =>
    split at h
    case isTrue bytes =>
      obtain ⟨bs, read, rfl⟩ := map_ok_iff.1 h
      obtain ⟨r, rfl, pairs⟩ := readBytes_ok_iff.1 read
      exact bytes ▸ .bytes pairs
    case isFalse =>
    split at h
    case isTrue packed =>
      obtain ⟨bs, read, rfl⟩ := map_ok_iff.1 h
      obtain ⟨r, rfl, pairs⟩ := readBytes_ok_iff.1 read
      exact packed ▸ .packed pairs (packs_iff.2 rfl)
    case isFalse => cases h
  · intro value
    cases value with
    | number text =>
      rw [if_pos rfl, map_ok_iff]
      exact ⟨_, readWord_ok_iff.2 text, rfl⟩
    | bytes pairs =>
      rw [if_neg (by decide), if_pos rfl, map_ok_iff]
      exact ⟨_, readBytes_ok_iff.2 ⟨_, rfl, pairs⟩, rfl⟩
    | packed pairs packs =>
      rw [if_neg (by decide), if_neg (by decide), if_pos rfl, map_ok_iff]
      exact ⟨_, readBytes_ok_iff.2 ⟨_, rfl, pairs⟩, packs_iff.1 packs⟩

theorem readArgument_ok_iff {a : List Char} : readArgument a = .ok ws ↔ Denotes a ws := by
  cases found : splitFirst ':' a with
  | none =>
    refine iff_of_false (by simp [readArgument, found]) ?_
    rintro ⟨v, t, rfl, free, -⟩
    rw [splitFirst_append free] at found
    cases found
  | some p =>
    obtain ⟨rfl, free⟩ := splitFirst_eq_some found
    rw [readArgument_value_iff found, denotes_iff free]

theorem read_cons_ok_iff {a : List Char} {as : List (List Char)} :
    read (a :: as) = .ok ws ↔
      ∃ p, readArgument a = .ok p ∧ ∃ rest, read as = .ok rest ∧ p ++ rest = ws := by
  rw [read]
  cases readArgument a with
  | error f => simp
  | ok p => simp [map_ok_iff]

/-- Arguments are read as a whole if each of them is; their words stand one after another. -/
theorem read_ok_iff {as : List (List Char)} :
    read as = .ok ws ↔ ∃ parts, List.Forall₂ Denotes as parts ∧ parts.flatten = ws := by
  induction as generalizing ws with
  | nil => simp [read]
  | cons a as ih =>
    simp only [read_cons_ok_iff, readArgument_ok_iff, ih, List.forall₂_cons_left_iff]
    constructor
    · rintro ⟨p, denotes, _, ⟨parts, all, rfl⟩, rfl⟩
      exact ⟨p :: parts, ⟨p, parts, denotes, all, rfl⟩, rfl⟩
    · rintro ⟨_, ⟨p, parts, denotes, all, rfl⟩, rfl⟩
      exact ⟨p, denotes, _, ⟨parts, all, rfl⟩, rfl⟩

theorem readable_iff {as : List (List Char)} :
    (∃ ws, read as = .ok ws) ↔ ∀ a ∈ as, ∃ ws, Denotes a ws := by
  induction as with
  | nil => simp [read]
  | cons a as ih =>
    rw [List.forall_mem_cons, ← ih]
    simp only [read_cons_ok_iff, readArgument_ok_iff]
    constructor
    · rintro ⟨_, p, denotes, rest, found, -⟩
      exact ⟨⟨p, denotes⟩, rest, found⟩
    · rintro ⟨⟨p, denotes⟩, rest, found⟩
      exact ⟨_, p, denotes, rest, found, rfl⟩

/-- A single argument stands for the words that are read. -/
theorem read_single {a : List Char} (h : Denotes a ws) : read [a] = .ok ws :=
  read_ok_iff.2 ⟨[ws], .cons h .nil, by simp⟩

end Arguments

/-- The command line accepts exactly the arguments its grammar describes and reads them as the
words they denote. -/
theorem arguments_grammar :
    (∀ as, (∃ ws, Arguments.read as = .ok ws) ↔ ∀ a ∈ as, ∃ ws, Arguments.Denotes a ws) ∧
    (∀ as ws, Arguments.read as = .ok ws ↔
      ∃ parts, List.Forall₂ Arguments.Denotes as parts ∧ parts.flatten = ws) ∧
    (∀ w : Word,
      Arguments.read [(decimal w.toNat ++ ":i64").toList] = .ok [w] ∧
      Arguments.read [("0x" ++ hexadecimal w.toNat ++ ":i64").toList] = .ok [w]) ∧
    ∀ bs : Bytes,
      Arguments.read [("0x" ++ hexText bs ++ ":bytes").toList] = .ok (bs.map UInt8.toUInt64) ∧
      Arguments.read [("0x" ++ hexText bs ++ ":bytes-packed").toList] = .ok (packWords bs) := by
  refine ⟨fun _ => Arguments.readable_iff, fun _ _ => Arguments.read_ok_iff, fun w => ⟨?_, ?_⟩,
    fun bs => ⟨?_, ?_⟩⟩
  · have text := Arguments.WordText.decimal (.plain (spells_digits (by decide) w.toNat))
    simpa [decimal] using Arguments.read_single (Arguments.ValueOf.number text).denotes
  · have text := Arguments.WordText.hexadecimal (.plain (spells_digits (by decide) w.toNat))
    simpa [hexadecimal] using Arguments.read_single (Arguments.ValueOf.number text).denotes
  · simpa using Arguments.read_single (Arguments.ValueOf.bytes (bytePairs_hexText bs)).denotes
  · have value := Arguments.ValueOf.packed (bytePairs_hexText bs) (packs_iff.2 rfl)
    simpa using Arguments.read_single value.denotes

example : Arguments.read ["+7:i64".toList, "0xfF:i64".toList] = .ok [7, 255] := by decide

end
end SealedRun
