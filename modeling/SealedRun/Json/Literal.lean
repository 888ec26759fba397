import SealedRun.Numeral
import SealedRun.Text.Utf8

/-! The literals of JSON on bytes: how a string is escaped and read back, and how long the
literal at the front of a text is. Scanning checks the form of a string; `unescape` alone
looks at what its escapes mean. -/
namespace SealedRun.Json

/-- The byte of an ASCII character. -/
def byte (c : Char) : UInt8 := UInt8.ofNat c.toNat

def isDigit (b : UInt8) : Bool := byte '0' ≤ b && b ≤ byte '9'

def hexDigit? (b : UInt8) : Option Nat := digitValue? 16 (Char.ofNat b.toNat)

def skipBlanks : Bytes → Bytes
  | [] => []
  | b :: r =>
    if b = byte ' ' || b = byte '\t' || b = byte '\n' || b = byte '\r' then skipBlanks r
    else b :: r

/-- What follows the bytes of `word`. -/
def dropWord? (word : Bytes) (bs : Bytes) : Option Bytes :=
  if word.isPrefixOf bs then some (bs.drop word.length) else none

/-- At least one digit, and what follows the digits. -/
def scanDigits (bs : Bytes) : Option (Bytes × Bytes) :=
  let ds := bs.takeWhile isDigit
  if ds.isEmpty then none else some (ds, bs.drop ds.length)

/-- Digits without a leading zero, unless zero is all there is. -/
def scanInteger (bs : Bytes) : Option (Bytes × Bytes) :=
  match bs with
  | [] => none
  | b :: r => if b = byte '0' then some ([b], r) else scanDigits bs

/-- A part that begins with one of `marks` and goes on with digits, or nothing. -/
def scanPart (marks signs : Bytes) (bs : Bytes) : Option (Bytes × Bytes) :=
  match bs with
  | [] => some ([], [])
  | b :: r =>
    if marks.contains b then
      let sign := (r.take 1).filter signs.contains
      (scanDigits (r.drop sign.length)).map fun p => (b :: sign ++ p.1, p.2)
    else some ([], bs)

/-- An unsigned number as written, and what follows it. -/
def scanUnsigned (bs : Bytes) : Option (Bytes × Bytes) := do
  let (whole, bs) ← scanInteger bs
  let (fraction, bs) ← scanPart [byte '.'] [] bs
  let (exponent, bs) ← scanPart [byte 'e', byte 'E'] [byte '+', byte '-'] bs
  some (whole ++ fraction ++ exponent, bs)

def scanNumber (bs : Bytes) : Option (Bytes × Bytes) :=
  match bs with
  | [] => none
  | b :: r =>
    if b = byte '-' then (scanUnsigned r).map fun p => (b :: p.1, p.2) else scanUnsigned bs

/-- The letters that stand for one character behind a backslash. -/
def shortEscapes : List (UInt8 × UInt8) :=
  [(byte '"', byte '"'), (byte '\\', byte '\\'), (byte '/', byte '/'), (byte 'b', 8),
    (byte 'f', 12), (byte 'n', 10), (byte 'r', 13), (byte 't', 9)]

/-- The body of a string whose opening quote is gone: everything up to the closing quote as
written, and what follows that quote. -/
def scanString : Bytes → Option (Bytes × Bytes)
  | [] => none
  | b :: r =>
    if b = byte '"' then some ([], r)
    else if b < 0x20 then none
    else if b = byte '\\' then
      match r with
      | [] => none
      | c :: r =>
        if (shortEscapes.lookup c).isSome then (scanString r).map fun p => (b :: c :: p.1, p.2)
        else if c = byte 'u' then
          match r with
          | h1 :: h2 :: h3 :: h4 :: r =>
            if [h1, h2, h3, h4].all fun h => (hexDigit? h).isSome then
              (scanString r).map fun p => (b :: c :: h1 :: h2 :: h3 :: h4 :: p.1, p.2)
            else none
          | _ => none
        else none
    else (scanString r).map fun p => (b :: p.1, p.2)

/-- The value of four hexadecimal digits, and what follows them. -/
def hex4? : Bytes → Option (Nat × Bytes)
  | h1 :: h2 :: h3 :: h4 :: r => do
    let ds ← [h1, h2, h3, h4].mapM hexDigit?
    some (ofDigits 16 ds, r)
  | _ => none

/-- The character of a numbered escape, and what follows it. A character beyond the first
65536 is written as two escapes, of which neither may stand alone. -/
def numbered? (bs : Bytes) : Option (Char × Bytes) := do
  let (high, r) ← hex4? bs
  if 0xd800 ≤ high ∧ high < 0xdc00 then
    let (low, r) ← (dropWord? [byte '\\', byte 'u'] r).bind hex4?
    if 0xdc00 ≤ low ∧ low < 0xe000 then
      some (Char.ofNat (0x10000 + (high - 0xd800) * 0x400 + (low - 0xdc00)), r)
    else none
  else if 0xdc00 ≤ high ∧ high < 0xe000 then none
  else some (Char.ofNat high, r)

/-- The bytes a string body stands for, with `fuel` bounding the number of its items. -/
def unescapeItems : Nat → Bytes → Option Bytes
  | _, [] => some []
  | 0, _ :: _ => none
  | fuel + 1, b :: r =>
    if b = byte '\\' then
      match r with
      | [] => none
      | c :: r =>
        match shortEscapes.lookup c with
        | some x => (unescapeItems fuel r).map (x :: ·)
        | none =>
          if c = byte 'u' then do
            let (x, r) ← numbered? r
            let rest ← unescapeItems fuel r
            some (String.utf8EncodeChar x ++ rest)
          else none
    else (unescapeItems fuel r).map (b :: ·)

def unescape (raw : Bytes) : Option Bytes := unescapeItems raw.length raw

def escapeByte (b : UInt8) : Bytes :=
  if b = byte '"' then [byte '\\', byte '"']
  else if b = byte '\\' then [byte '\\', byte '\\']
  else if b = 8 then [byte '\\', byte 'b']
  else if b = 9 then [byte '\\', byte 't']
  else if b = 10 then [byte '\\', byte 'n']
  else if b = 12 then [byte '\\', byte 'f']
  else if b = 13 then [byte '\\', byte 'r']
  else if b < 0x20 then
    [byte '\\', byte 'u', byte '0', byte '0', byte (digitChar (b.toNat / 16)),
      byte (digitChar (b.toNat % 16))]
  else [b]

def escape (bs : Bytes) : Bytes := bs.flatMap escapeByte

end SealedRun.Json
