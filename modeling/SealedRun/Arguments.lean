import SealedRun.Failure
import SealedRun.Text.Blank

/-! Input words as command line arguments. An argument is a value and its type with a colon
between them: a number, bytes with one word to each, or bytes packed into words. -/
namespace SealedRun

/-- What stands before and behind the first `sep`. -/
def splitFirst (sep : Char) : List Char → Option (List Char × List Char)
  | [] => none
  | c :: cs => if c = sep then some ([], cs) else (splitFirst sep cs).map fun p => (c :: p.1, p.2)

/-- What follows the mark of hexadecimal values. -/
def afterHexMark? : List Char → Option (List Char)
  | '0' :: 'x' :: r => some r
  | _ => none

/-- Two digits to a byte. `index` is the place of the first. -/
def hexPairs (index : Nat) : Bytes → Except HexError Bytes
  | hi :: lo :: r =>
    match digitValue? 16 (Char.ofNat hi.toNat), digitValue? 16 (Char.ofNat lo.toNat) with
    | none, _ => .error (.invalidDigit hi index)
    | some _, none => .error (.invalidDigit lo (index + 1))
    | some h, some l => (hexPairs (index + 2) r).map (UInt8.ofNat (16 * h + l) :: ·)
  | _ => .ok []

def readHexBytes (cs : List Char) : Except HexError Bytes :=
  let bs := utf8Bytes (String.ofList cs)
  if bs.length % 2 = 1 then .error .oddLength else hexPairs 0 bs

namespace Arguments

def readWord (cs : List Char) : Except Failure Word :=
  let n := match afterHexMark? cs with
    | some hex => readNumber 16 UInt64.size hex
    | none => readNumber 10 UInt64.size cs
  match n with
  | .ok n => .ok (UInt64.ofNat n)
  | .error e => .error (.number e)

def readBytes (cs : List Char) : Except Failure Bytes :=
  match afterHexMark? cs with
  | none => .error .noHexMark
  | some hex =>
    match readHexBytes hex with
    | .ok bs => .ok bs
    | .error e => .error (.hex e)

def readArgument (argument : List Char) : Except Failure (List Word) :=
  match splitFirst ':' argument with
  | none => .error (.untypedArgument (String.ofList argument))
  | some (value, type) =>
    if type = "i64".toList then (readWord value).map ([·])
    else if type = "bytes".toList then (readBytes value).map (List.map UInt8.toUInt64)
    else if type = "bytes-packed".toList then (readBytes value).map packWords
    else .error (.unknownType (String.ofList type))

/-- The words of all arguments in order; the first fault counts. -/
def read : List (List Char) → Except Failure (List Word)
  | [] => .ok []
  | a :: as =>
    match readArgument a with
    | .error f => .error f
    | .ok ws => (read as).map (ws ++ ·)

/-- The words of arguments between blanks. -/
def readLine (cs : List Char) : Except Failure (List Word) := read (blankSeparated cs)

end Arguments

end SealedRun
