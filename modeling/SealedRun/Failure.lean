import SealedRun.Chain
import SealedRun.Files
import SealedRun.Numeral
import SealedRun.Pattern.Reader

/-! Everything that can stop the host's work around a run, with the text that is shown. -/
namespace SealedRun

inductive HexError
  | oddLength
  /-- The byte at `index` is no digit; it is shown as the character of the same number. -/
  | invalidDigit (byte : UInt8) (index : Nat)
deriving DecidableEq, Repr

def HexError.message : HexError → String
  | oddLength => "Odd number of digits"
  | invalidDigit byte index =>
    s!"Invalid character {Quoted.char (Char.ofNat byte.toNat)} at position {index}"

inductive Failure
  | execution (e : ExecutionError)
  | trap (t : Trap)
  | pattern (f : PatternFault)
  | file (e : FileError)
  | number (e : NumberError)
  | hex (e : HexError)
  | untypedArgument (argument : String)
  | noHexMark
  | unknownType (type : String)
  | partialWord (path : String) (size : Nat)
  | unreadableConfig (path : String)
  | invalidConfig (path : String)
  | invalidSegment
  | segmentNotCreated (path : String)
  | noInputs (guest : String)
  | chain (f : ChainFault)
  | segmentCount (text : String)
  | noSegments
  | groupCount (source : String) (found expected : Nat)
  | unknownProgram (name : String) (known : List String)
deriving DecidableEq, Repr

def Failure.message : Failure → String
  | execution e => e.message
  | trap t => t.message
  | pattern f => f.message
  | file e => e.message
  | number e => e.message
  | hex e => e.message
  | untypedArgument argument => s!"input `{argument}` is not of the form value:type"
  | noHexMark => "bytes input needs to start with 0x"
  | unknownType type => s!"unsupported input data type: {type}"
  | partialWord path size => s!"{path} holds {size} bytes, not a whole number of u64 words"
  | unreadableConfig path => s!"cannot open config {path}"
  | invalidConfig path => s!"invalid config {path}"
  | invalidSegment => "invalid segment file"
  | segmentNotCreated path => s!"cannot create segment file {path}"
  | noInputs guest => s!"no segment inputs for {guest}"
  | chain f => f.message
  | segmentCount text => s!"SEG_NUM={text} is not a segment count"
  | noSegments => "SEG_NUM must be at least 1"
  | groupCount source found expected =>
    s!"{source} has {found} segment groups, expected {expected}"
  | unknownProgram name known =>
    let names := ", ".intercalate (known.map Quoted.string)
    s!"unknown program {name}, expected one of [{names}]"

/-- The result of a run, where its errors are among others. -/
def Outcome.toExcept {α : Type} : Outcome α → Except Failure α
  | returned a => .ok a
  | failed e => .error (.execution e)
  | trapped t => .error (.trap t)

end SealedRun
