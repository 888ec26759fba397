import SealedRun.Proofs.Trace.Bytes

/-! What a value on a tape can be: of some shape, a number of sixteen bytes, or put together from
these. Only the lengths in a value can keep it from its encoding: where they can be held in a word,
as they are in memory, the encoding carries the value, and so it reads back. -/
namespace SealedRun

/-- What a value on a tape can be. -/
inductive Layout
  | shape (s : Shape)
  | bits128
  | list (item : Layout)
  | option (item : Layout)
  | result (ok err : Layout)
  | pair (fst snd : Layout)
deriving DecidableEq, Repr

/-- A number in sixteen bytes, a negative one in two's complement. -/
def Codec.bits128 : Codec (BitVec 128) := (fixed 16).map (BitVec.ofNat 128) BitVec.toNat

namespace Layout

def Value : Layout → Type
  | shape s => s.Value
  | bits128 => BitVec 128
  | list item => List item.Value
  | option item => Option item.Value
  | result ok err => Except err.Value ok.Value
  | pair fst snd => fst.Value × snd.Value

def codec : (l : Layout) → Codec l.Value
  | shape s => s.codec
  | bits128 => Codec.bits128
  | list item => Codec.list item.codec
  | option item => Codec.option item.codec
  | result ok err => Codec.result ok.codec err.codec
  | pair fst snd => Codec.pair fst.codec snd.codec

theorem codec_lawful (l : Layout) : l.codec.Lawful := by
  induction l with
  | shape s => exact s.codec_lawful
  | bits128 => exact (Codec.fixed_lawful 16).map _ _
  | list item ih => exact ih.list
  | option item ih => exact ih.option
  | result ok err hok herr => exact hok.result herr
  | pair fst snd hfst hsnd => exact hfst.pair hsnd

end Layout

namespace Codec

theorem uint8_fits (n : UInt8) : uint8.fits n := ⟨n.toNat_lt, congrArg some UInt8.ofNat_toNat⟩

theorem uint16_fits (n : UInt16) : uint16.fits n := ⟨n.toNat_lt, congrArg some UInt16.ofNat_toNat⟩

theorem uint32_fits (n : UInt32) : uint32.fits n := ⟨n.toNat_lt, congrArg some UInt32.ofNat_toNat⟩

theorem bits128_fits (n : BitVec 128) : bits128.fits n :=
  ⟨n.isLt, congrArg some (BitVec.ofNat_toNat 128 n)⟩

theorem bool_fits (b : Bool) : bool.fits b := by
  cases b with
  | false => exact ⟨show 0 < byteRange 1 by decide, rfl⟩
  | true => exact ⟨show 1 < byteRange 1 by decide, rfl⟩

theorem positionIndex_lt (p : Position) : positionIndex p < byteRange 4 := by
  cases p <;> decide

theorem position_fits (p : Position) : position.fits p :=
  ⟨positionIndex_lt p, by cases p <;> rfl⟩

end Codec

/-- A list that can be counted in a word, of elements with the property `P`. -/
def ListCountable {α : Type} (P : α → Prop) (as : List α) : Prop :=
  as.length < UInt64.size ∧ ∀ a ∈ as, P a

/-- The value or the error has its property. -/
def ResultCountable {α β : Type} (P : α → Prop) (Q : β → Prop) : Except β α → Prop
  | .ok a => P a
  | .error b => Q b

def TextCountable (s : String) : Prop := (utf8Bytes s).length < UInt64.size

def SegmentInput.Countable (i : SegmentInput) : Prop :=
  i.publicWords.length < UInt64.size ∧ i.privateWords.length < UInt64.size

def Slots.Countable (s : Slots) : Prop := s.reads < UInt64.size ∧ s.writes < UInt64.size

def Config.Countable (c : Config) : Prop :=
  (∀ position, (c.schema.slots position).Countable) ∧ ListCountable TextCountable c.patterns

theorem ListCountable.fits {α : Type} {c : Codec α} {P : α → Prop} {as : List α}
    (h : ListCountable P as) (known : ∀ a, P a → c.fits a) : (Codec.list c).fits as :=
  ⟨h.1, fun a ha => known a (h.2 a ha)⟩

theorem ResultCountable.fits {α β : Type} {c : Codec α} {d : Codec β} {P : α → Prop}
    {Q : β → Prop} {r : Except β α} (h : ResultCountable P Q r) (ok : ∀ a, P a → c.fits a)
    (err : ∀ b, Q b → d.fits b) : (Codec.result c d).fits r := by
  cases r with
  | ok a => exact ok a h
  | error b => exact err b h

theorem SegmentInput.Countable.fits {i : SegmentInput} (h : i.Countable) :
    Codec.segmentInput.fits i :=
  ⟨⟨⟨h.1, fun w _ => Codec.uint64_fits w⟩, ⟨h.2, fun w _ => Codec.uint64_fits w⟩⟩, rfl⟩

theorem Config.Countable.fits {c : Config} (h : c.Countable) : Codec.config.fits c := by
  have slots (position : Position) : Codec.slots.fits (c.schema.slots position) :=
    ⟨h.1 position, rfl⟩
  have schema : Codec.schema.fits c.schema :=
    ⟨⟨slots .first, slots .middle, slots .last, slots .only⟩, rfl⟩
  exact ⟨⟨schema, h.2.fits fun _ => id⟩, rfl⟩

/-- The lengths in a value can be held in a word. -/
def Shape.Countable : (s : Shape) → s.Value → Prop
  | string => TextCountable
  | list item => ListCountable item.Countable
  | option item => fun o => ∀ a, o = some a → item.Countable a
  | result ok err => ResultCountable ok.Countable err.Countable
  | pair fst snd => fun p => fst.Countable p.1 ∧ snd.Countable p.2
  | event => Event.Countable
  | segmentInput => SegmentInput.Countable
  | config => Config.Countable
  | _ => fun _ => True

theorem Shape.Countable.fits {s : Shape} {a : s.Value} (h : s.Countable a) : s.codec.fits a := by
  induction s with
  | uint8 => exact Codec.uint8_fits a
  | uint16 => exact Codec.uint16_fits a
  | uint32 => exact Codec.uint32_fits a
  | uint64 => exact Codec.uint64_fits a
  | int8 => exact ⟨Codec.uint8_fits _, rfl⟩
  | int16 => exact ⟨Codec.uint16_fits _, rfl⟩
  | int32 => exact ⟨Codec.uint32_fits _, rfl⟩
  | int64 => exact ⟨Codec.uint64_fits _, rfl⟩
  | bool => exact Codec.bool_fits a
  | char => exact trivial
  | string => exact h
  | unit => exact trivial
  | list item ih => exact ListCountable.fits h fun _ => ih
  | option item ih => exact fun a ha => ih (h a ha)
  | result ok err hok herr => exact ResultCountable.fits h (fun _ => hok) fun _ => herr
  | pair fst snd hfst hsnd => exact ⟨hfst h.1, hsnd h.2⟩
  | position => exact Codec.position_fits a
  | event => exact Event.Countable.fits h
  | segmentInput => exact SegmentInput.Countable.fits h
  | config => exact Config.Countable.fits h

/-- The lengths in a value can be held in a word. -/
def Layout.Countable : (l : Layout) → l.Value → Prop
  | shape s => s.Countable
  | bits128 => fun _ => True
  | list item => ListCountable item.Countable
  | option item => fun o => ∀ a, o = some a → item.Countable a
  | result ok err => ResultCountable ok.Countable err.Countable
  | pair fst snd => fun p => fst.Countable p.1 ∧ snd.Countable p.2

theorem Layout.Countable.fits {l : Layout} {a : l.Value} (h : l.Countable a) :
    l.codec.fits a := by
  induction l with
  | shape s => exact Shape.Countable.fits h
  | bits128 => exact Codec.bits128_fits a
  | list item ih => exact ListCountable.fits h fun _ => ih
  | option item ih => exact fun a ha => ih (h a ha)
  | result ok err hok herr => exact ResultCountable.fits h (fun _ => hok) fun _ => herr
  | pair fst snd hfst hsnd => exact ⟨hfst h.1, hsnd h.2⟩

end SealedRun
