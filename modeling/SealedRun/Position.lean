/-! Where a segment sits in its sequence. A sequence of one segment has the single
position `only`; a longer one starts with `first` and ends with `last`. -/
namespace SealedRun

inductive Position
  | first
  | middle
  | last
  | only
deriving DecidableEq, Repr

namespace Position

def all : List Position := [first, middle, last, only]

def name : Position → String
  | first => "First"
  | middle => "Middle"
  | last => "Last"
  | only => "Only"

def ofName? (s : String) : Option Position := all.find? (·.name == s)

/-- The position of segment `index` of `total`, for `index < total`. -/
def ofIndex (index total : Nat) : Position :=
  if total = 1 then only
  else if index = 0 then first
  else if index + 1 = total then last
  else middle

end Position

end SealedRun
