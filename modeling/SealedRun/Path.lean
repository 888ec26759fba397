import SealedRun.Word

/-! Paths as text gives them: the parts between slashes, dots included. What a part means is
left to the files it is looked up in. -/
namespace SealedRun

inductive FileError
  | notFound
  | alreadyExists
  | notDirectory
  | isDirectory
  | nameTooLong
  | zeroByte
deriving DecidableEq, Repr

def FileError.message : FileError → String
  | notFound => "No such file or directory (os error 2)"
  | alreadyExists => "File exists (os error 17)"
  | notDirectory => "Not a directory (os error 20)"
  | isDirectory => "Is a directory (os error 21)"
  | nameTooLong => "File name too long (os error 36)"
  | zeroByte => "file name contained an unexpected NUL byte"

structure Path where
  /-- Whether the parts are told from the root. -/
  absolute : Bool
  parts : List String
  /-- Whether a slash stands at the end, so that a directory is meant. -/
  slashed : Bool
deriving DecidableEq, Repr

namespace Path

/-- The bytes a path can have. -/
def maxSize : Nat := 4095

/-- The bytes a part can have. -/
def maxPartSize : Nat := 255

/-- The pieces between slashes; `piece` holds what came before, last character first. -/
def pieces (piece : List Char) : List Char → List String
  | [] => [String.ofList piece.reverse]
  | c :: cs =>
    if c = '/' then String.ofList piece.reverse :: pieces [] cs else pieces (c :: piece) cs

def ofString (text : String) : Path where
  absolute := text.toList.head? = some '/'
  parts := (pieces [] text.toList).filter (· ≠ "")
  slashed := text.toList.getLast? = some '/'

/-- The path a text stands for, if it stands for one. -/
def ofText (text : String) : Except FileError Path :=
  if text.toList.contains '\x00' then .error .zeroByte
  else if maxSize < text.utf8ByteSize then .error .nameTooLong
  else if text = "" then .error .notFound
  else .ok (ofString text)

/-- Parts without the single dots at their end. -/
def dropDots (parts : List String) : List String := (parts.reverse.dropWhile (· = ".")).reverse

theorem length_dropDots_le (parts : List String) : (dropDots parts).length ≤ parts.length := by
  have h := (List.dropWhile_sublist (l := parts.reverse) fun s => decide (s = ".")).length_le
  simpa only [dropDots, List.length_reverse] using h

/-- The path without its last part. Single dots at the end are no parts. -/
def above (p : Path) : Path :=
  { p with parts := dropDots (dropDots p.parts).dropLast, slashed := false }

theorem length_above_lt (p : Path) (h : p.parts ≠ []) : p.above.parts.length < p.parts.length := by
  have hp := List.length_pos_iff.2 h
  have h₁ := length_dropDots_le p.parts
  have h₂ := length_dropDots_le (dropDots p.parts).dropLast
  simp only [above, List.length_dropLast] at h₂ ⊢
  omega

end Path

end SealedRun
