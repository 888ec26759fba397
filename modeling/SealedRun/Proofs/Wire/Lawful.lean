import SealedRun.Wire.Shape

/-! Encodings read back. A decoder given the encoding of a value takes exactly that encoding from
the front of a byte string, whatever follows. The law goes from the parts of an encoding to the
whole, and so holds for every shape. An encoding that reads back shows by itself where it ends:
several of them can be told apart without anything between them. -/
namespace SealedRun.Codec

variable {α β : Type} {c : Codec α} {d : Codec β}

theorem takeBytes_append (bs rest : Bytes) : takeBytes bs.length (bs ++ rest) = some (bs, rest) := by
  simp [takeBytes]

theorem fixed_lawful (k : Nat) : (fixed k).Lawful := by
  intro n hn rest
  have split : takeBytes k (leBytes k n ++ rest) = some (leBytes k n, rest) := by
    have := takeBytes_append (leBytes k n) rest
    rwa [length_leBytes] at this
  show (takeBytes k (leBytes k n ++ rest)).map _ = _
  rw [split, Option.map_some, leValue_leBytes, Nat.mod_eq_of_lt hn]

theorem Lawful.narrow (h : c.Lawful) (of? : α → Option β) (back : β → α) :
    (c.narrow of? back).Lawful := by
  rintro b ⟨hb, known⟩ rest
  show (c.decode (c.encode (back b) ++ rest)).bind _ = _
  rw [h (back b) hb rest, Option.bind_some, known, Option.map_some]

theorem Lawful.map (h : c.Lawful) (of : α → β) (back : β → α) : (c.map of back).Lawful :=
  h.narrow _ back

theorem unit_lawful : unit.Lawful := fun _ _ _ => rfl

/-- No character takes more than the four bytes that are looked at. -/
theorem char_lawful : char.Lawful := by
  intro a _ rest
  have size : (String.utf8EncodeChar a).length = a.utf8Size := String.length_utf8EncodeChar a
  have front : (String.utf8EncodeChar a ++ rest).take 4 =
      String.utf8EncodeChar a ++ rest.take (4 - a.utf8Size) := by
    rw [List.take_append, size, List.take_of_length_le (size ▸ a.utf8Size_le_four)]
  have known : ByteArray.utf8DecodeChar? ⟨((String.utf8EncodeChar a ++ rest).take 4).toArray⟩ 0 =
      some a := by
    rw [front, ← ByteArray.utf8DecodeChar?_utf8EncodeChar_append (c := a)
      (b := (rest.take (4 - a.utf8Size)).toByteArray)]
    congr 1
    apply ByteArray.ext
    simp
  simp only [char, known, Option.map_some, ← size, List.drop_left]

theorem bool_lawful : bool.Lawful := (fixed_lawful 1).narrow _ _

theorem Lawful.pair (hc : c.Lawful) (hd : d.Lawful) : (c.pair d).Lawful := by
  rintro ⟨a, b⟩ ⟨ha, hb⟩ rest
  show (c.decode (c.encode a ++ d.encode b ++ rest)).bind _ = _
  rw [List.append_assoc, hc a ha, Option.bind_some, hd b hb, Option.map_some]

theorem Lawful.decodeMany (h : c.Lawful) {as : List α} (fits : ∀ a ∈ as, c.fits a) (rest : Bytes) :
    decodeMany c as.length (as.flatMap c.encode ++ rest) = some (as, rest) := by
  induction as with
  | nil => rfl
  | cons a as ih =>
    have first := h a (fits a (List.mem_cons_self ..)) (as.flatMap c.encode ++ rest)
    have later := ih fun a' ha' => fits a' (List.mem_cons_of_mem a ha')
    rw [List.flatMap_cons, List.append_assoc, List.length_cons, Codec.decodeMany, first]
    simp [later]

theorem size_lawful : size.Lawful := fixed_lawful 8

theorem tag_lawful : tag.Lawful := fixed_lawful 4

theorem Lawful.list (h : c.Lawful) : (list c).Lawful := by
  intro as fits rest
  have count := size_lawful as.length fits.1 (as.flatMap c.encode ++ rest)
  have items := h.decodeMany fits.2 rest
  simp only [Codec.list, List.append_assoc, count, Option.bind_some, items]

theorem string_lawful : string.Lawful := by
  intro s fits rest
  have count := size_lawful (utf8Bytes s).length fits (utf8Bytes s ++ rest)
  simp only [string, List.append_assoc, count, Option.bind_some, takeBytes_append,
    utf8String?_utf8Bytes, Option.map_some]

theorem Lawful.option (h : c.Lawful) : (option c).Lawful := by
  intro o fits rest
  cases o with
  | none => rfl
  | some a =>
    have value := h a (fits a rfl) rest
    simp only [Codec.option, List.cons_append, value, Option.map_some]

theorem Lawful.result (hc : c.Lawful) (hd : d.Lawful) : (result c d).Lawful := by
  intro r fits rest
  cases r with
  | ok a =>
    have choice := tag_lawful 0 (show 0 < byteRange 4 by decide) (c.encode a ++ rest)
    have value := hc a fits rest
    simp only [Codec.result, List.append_assoc, choice, Option.bind_some, value, Option.map_some]
  | error b =>
    have choice := tag_lawful 1 (show 1 < byteRange 4 by decide) (d.encode b ++ rest)
    have value := hd b fits rest
    simp only [Codec.result, List.append_assoc, choice, Option.bind_some, value, Option.map_some]

theorem uint64_lawful : uint64.Lawful := (fixed_lawful 8).map _ _

theorem event_lawful : event.Lawful :=
  (uint64_lawful.pair (((fixed_lawful 4).narrow _ _).pair
    (uint64_lawful.list.pair uint64_lawful.option))).map _ _

theorem segmentInput_lawful : segmentInput.Lawful :=
  (uint64_lawful.list.pair uint64_lawful.list).map _ _

theorem slots_lawful : slots.Lawful := ((fixed_lawful 8).pair (fixed_lawful 8)).map _ _

theorem schema_lawful : schema.Lawful :=
  (slots_lawful.pair (slots_lawful.pair (slots_lawful.pair slots_lawful))).map _ _

theorem config_lawful : config.Lawful := (schema_lawful.pair string_lawful.list).map _ _

/-- Two encodings with something behind them are the same only part by part. -/
theorem Lawful.append_inj (h : c.Lawful) {a b : α} (ha : c.fits a) (hb : c.fits b) {r s : Bytes}
    (same : c.encode a ++ r = c.encode b ++ s) : a = b ∧ r = s := by
  have read := h a ha r
  rw [same, h b hb s] at read
  cases read
  exact ⟨rfl, rfl⟩

/-- Encodings one after another begin others only if the values do. -/
theorem Lawful.flatMap_prefix (h : c.Lawful) (nonempty : ∀ a, c.encode a ≠ []) {as bs : List α}
    (ha : ∀ a ∈ as, c.fits a) (hb : ∀ b ∈ bs, c.fits b)
    (front : as.flatMap c.encode <+: bs.flatMap c.encode) : as <+: bs := by
  induction as generalizing bs with
  | nil => exact List.nil_prefix
  | cons a as ih =>
    cases bs with
    | nil => simp [nonempty a] at front
    | cons b bs =>
      obtain ⟨rest, same⟩ := front
      rw [List.flatMap_cons, List.flatMap_cons, List.append_assoc] at same
      obtain ⟨rfl, later⟩ := h.append_inj (ha a (List.mem_cons_self ..))
        (hb b (List.mem_cons_self ..)) same
      rw [List.prefix_cons_inj]
      apply ih
      · exact fun a' h' => ha a' (List.mem_cons_of_mem _ h')
      · exact fun b' h' => hb b' (List.mem_cons_of_mem _ h')
      · exact ⟨rest, later⟩

/-- Encodings one after another are the same only value by value. -/
theorem Lawful.flatMap_inj (h : c.Lawful) (nonempty : ∀ a, c.encode a ≠ []) {as bs : List α}
    (ha : ∀ a ∈ as, c.fits a) (hb : ∀ b ∈ bs, c.fits b)
    (same : as.flatMap c.encode = bs.flatMap c.encode) : as = bs := by
  have front : as.flatMap c.encode <+: bs.flatMap c.encode := ⟨[], by simp [same]⟩
  obtain ⟨more, rfl⟩ := h.flatMap_prefix nonempty ha hb front
  cases more with
  | nil => simp
  | cons a more => simp [nonempty a] at same

end SealedRun.Codec

namespace SealedRun

theorem Shape.codec_lawful (s : Shape) : s.codec.Lawful := by
  induction s with
  | uint8 => exact (Codec.fixed_lawful 1).map _ _
  | uint16 => exact (Codec.fixed_lawful 2).map _ _
  | uint32 => exact (Codec.fixed_lawful 4).map _ _
  | uint64 => exact Codec.uint64_lawful
  | int8 => exact ((Codec.fixed_lawful 1).map _ _).map _ _
  | int16 => exact ((Codec.fixed_lawful 2).map _ _).map _ _
  | int32 => exact ((Codec.fixed_lawful 4).map _ _).map _ _
  | int64 => exact Codec.uint64_lawful.map _ _
  | bool => exact Codec.bool_lawful
  | char => exact Codec.char_lawful
  | string => exact Codec.string_lawful
  | unit => exact Codec.unit_lawful
  | list item ih => exact ih.list
  | option item ih => exact ih.option
  | result ok err hok herr => exact hok.result herr
  | pair fst snd hfst hsnd => exact hfst.pair hsnd
  | position => exact (Codec.fixed_lawful 4).narrow _ _
  | event => exact Codec.event_lawful
  | segmentInput => exact Codec.segmentInput_lawful
  | config => exact Codec.config_lawful

end SealedRun
