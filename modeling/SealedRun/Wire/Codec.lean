import SealedRun.Text.Utf8

/-! Binary encodings. Numbers have a fixed width and their lowest byte first, sequences
carry their length in front, and choices a tag. A decoder takes what it needs from the
front of a byte string and hands on the rest. -/
namespace SealedRun

structure Codec (α : Type) where
  encode : α → Bytes
  decode : Bytes → Option (α × Bytes)
  /-- The values that the encoding can carry: a length has to fit its eight bytes. -/
  fits : α → Prop

namespace Codec

variable {α β : Type}

/-- Decodes from the front and drops the rest. -/
def read (c : Codec α) (bs : Bytes) : Option α := (c.decode bs).map Prod.fst

/-- Every value that fits reads back, whatever follows it. -/
def Lawful (c : Codec α) : Prop :=
  ∀ a, c.fits a → ∀ rest, c.decode (c.encode a ++ rest) = some (a, rest)

/-- The first `n` bytes and the rest. -/
def takeBytes (n : Nat) (bs : Bytes) : Option (Bytes × Bytes) :=
  if n ≤ bs.length then some (bs.take n, bs.drop n) else none

/-- A number in `k` bytes. -/
def fixed (k : Nat) : Codec Nat where
  encode n := leBytes k n
  decode bs := (takeBytes k bs).map fun p => (leValue p.1, p.2)
  fits n := n < byteRange k

/-- The values of `c` under other names; a value without one is not read. -/
def narrow (c : Codec α) (of? : α → Option β) (back : β → α) : Codec β where
  encode b := c.encode (back b)
  decode bs := (c.decode bs).bind fun p => (of? p.1).map fun b => (b, p.2)
  fits b := c.fits (back b) ∧ of? (back b) = some b

def map (c : Codec α) (of : α → β) (back : β → α) : Codec β := c.narrow (fun a => some (of a)) back

def uint8 : Codec UInt8 := (fixed 1).map UInt8.ofNat UInt8.toNat
def uint16 : Codec UInt16 := (fixed 2).map UInt16.ofNat UInt16.toNat
def uint32 : Codec UInt32 := (fixed 4).map UInt32.ofNat UInt32.toNat
def uint64 : Codec UInt64 := (fixed 8).map UInt64.ofNat UInt64.toNat

/-- Negative numbers in two's complement. -/
def int8 : Codec Int8 := uint8.map UInt8.toInt8 Int8.toUInt8
def int16 : Codec Int16 := uint16.map UInt16.toInt16 Int16.toUInt16
def int32 : Codec Int32 := uint32.map UInt32.toInt32 Int32.toUInt32
def int64 : Codec Int64 := uint64.map UInt64.toInt64 Int64.toUInt64

/-- A length or a count, in eight bytes. -/
def size : Codec Nat := fixed 8

/-- The tag in front of a choice, in four bytes. -/
def tag : Codec Nat := fixed 4

def bool : Codec Bool :=
  (fixed 1).narrow (fun | 0 => some false | 1 => some true | _ => none) Bool.toNat

def unit : Codec Unit where
  encode _ := []
  decode bs := some ((), bs)
  fits _ := True

/-- A character as text writes it, without a length. -/
def char : Codec Char where
  encode c := String.utf8EncodeChar c
  decode bs := (ByteArray.utf8DecodeChar? ⟨(bs.take 4).toArray⟩ 0).map fun c =>
    (c, bs.drop c.utf8Size)
  fits _ := True

def pair (c : Codec α) (d : Codec β) : Codec (α × β) where
  encode p := c.encode p.1 ++ d.encode p.2
  decode bs := (c.decode bs).bind fun p => (d.decode p.2).map fun q => ((p.1, q.1), q.2)
  fits p := c.fits p.1 ∧ d.fits p.2

def decodeMany (c : Codec α) : Nat → Bytes → Option (List α × Bytes)
  | 0, bs => some ([], bs)
  | n + 1, bs =>
    match c.decode bs with
    | none => none
    | some (a, rest) => (decodeMany c n rest).map fun p => (a :: p.1, p.2)

def list (c : Codec α) : Codec (List α) where
  encode as := size.encode as.length ++ as.flatMap c.encode
  decode bs := (size.decode bs).bind fun p => decodeMany c p.1 p.2
  fits as := size.fits as.length ∧ ∀ a ∈ as, c.fits a

def string : Codec String where
  encode s := size.encode (utf8Bytes s).length ++ utf8Bytes s
  decode bs := (size.decode bs).bind fun p =>
    (takeBytes p.1 p.2).bind fun q => (utf8String? q.1).map fun s => (s, q.2)
  fits s := size.fits (utf8Bytes s).length

def option (c : Codec α) : Codec (Option α) where
  encode
    | none => [0]
    | some a => 1 :: c.encode a
  decode
    | 0 :: bs => some (none, bs)
    | 1 :: bs => (c.decode bs).map fun p => (some p.1, p.2)
    | _ => none
  fits o := ∀ a, o = some a → c.fits a

/-- Success is tagged zero and failure one. -/
def result (ok : Codec α) (err : Codec β) : Codec (Except β α) where
  encode
    | .ok a => tag.encode 0 ++ ok.encode a
    | .error b => tag.encode 1 ++ err.encode b
  decode bs := (tag.decode bs).bind fun p =>
    match p.1 with
    | 0 => (ok.decode p.2).map fun q => (.ok q.1, q.2)
    | 1 => (err.decode p.2).map fun q => (.error q.1, q.2)
    | _ => none
  fits
    | .ok a => ok.fits a
    | .error b => err.fits b

end Codec

end SealedRun
