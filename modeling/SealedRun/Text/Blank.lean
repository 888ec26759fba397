import SealedRun.Text.CharSet

/-! The pieces of a text between stretches of white space. -/
namespace SealedRun

def whiteSpace : CharSet :=
  ⟨[(0x9, 0xd), (0x20, 0x20), (0x85, 0x85), (0xa0, 0xa0), (0x1680, 0x1680), (0x2000, 0x200a),
    (0x2028, 0x2029), (0x202f, 0x202f), (0x205f, 0x205f), (0x3000, 0x3000)]⟩

def isBlank (c : Char) : Bool := whiteSpace.mem c

/-- Pieces of `cs` behind a piece whose characters so far are `piece`, last one first. -/
def piecesAfter (piece : List Char) : List Char → List (List Char)
  | [] => if piece = [] then [] else [piece.reverse]
  | c :: cs =>
    if isBlank c then
      if piece = [] then piecesAfter [] cs else piece.reverse :: piecesAfter [] cs
    else piecesAfter (c :: piece) cs

/-- The maximal pieces without white space, in order. -/
def blankSeparated (cs : List Char) : List (List Char) := piecesAfter [] cs

end SealedRun
