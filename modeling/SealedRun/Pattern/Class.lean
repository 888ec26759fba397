import SealedRun.Text.CaseFold
import SealedRun.Text.Property
import SealedRun.Text.Script

/-! The named classes of characters that patterns know. -/
namespace SealedRun.Pattern

/-- Lowercase, without separators, and without a leading "is". -/
private def looseName (name : List Char) : String :=
  let name := match name with
    | 'i' :: 's' :: r | 'I' :: 's' :: r | 'i' :: 'S' :: r | 'I' :: 'S' :: r =>
      if (r.filter fun c => !separator c).map Char.toLower = ['c'] then name else r
    | _ => name
  String.ofList ((name.filter fun c => !separator c && c.toNat < 0x80).map Char.toLower)
where
  separator (c : Char) : Bool := c = ' ' || c = '_' || c = '-'

private def lookIn (table : List (List String × CharSet)) (name : String) : Option CharSet :=
  (table.find? fun entry => entry.1.contains name).map Prod.snd

/-- The characters with a property given by name alone. -/
def propertyClass? (name : List Char) : Option CharSet :=
  let name := looseName name
  let property := if name = "cf" || name = "sc" || name = "lc" then none
    else lookIn Property.table name
  property <|> lookIn Category.table name <|> lookIn Script.table name

/-- The characters whose property `name` has the given value. -/
def valueClass? (name value : List Char) : Option CharSet :=
  let name := looseName name
  if name = "gc" || name = "generalcategory" then lookIn Category.table (looseName value)
  else if name = "sc" || name = "script" then lookIn Script.table (looseName value)
  else none

/-- The classes that stand between `[:` and `:]`. -/
def asciiClass? (name : List Char) : Option CharSet :=
  match String.ofList name with
  | "alnum" => some ⟨[(0x30, 0x39), (0x41, 0x5a), (0x61, 0x7a)]⟩
  | "alpha" => some ⟨[(0x41, 0x5a), (0x61, 0x7a)]⟩
  | "ascii" => some (.range 0 0x7f)
  | "blank" => some ⟨[(0x9, 0x9), (0x20, 0x20)]⟩
  | "cntrl" => some ⟨[(0, 0x1f), (0x7f, 0x7f)]⟩
  | "digit" => some (.range 0x30 0x39)
  | "graph" => some (.range 0x21 0x7e)
  | "lower" => some (.range 0x61 0x7a)
  | "print" => some (.range 0x20 0x7e)
  | "punct" => some ⟨[(0x21, 0x2f), (0x3a, 0x40), (0x5b, 0x60), (0x7b, 0x7e)]⟩
  | "space" => some ⟨[(0x9, 0xd), (0x20, 0x20)]⟩
  | "upper" => some (.range 0x41 0x5a)
  | "word" => some ⟨[(0x30, 0x39), (0x41, 0x5a), (0x5f, 0x5f), (0x61, 0x7a)]⟩
  | "xdigit" => some ⟨[(0x30, 0x39), (0x41, 0x46), (0x61, 0x66)]⟩
  | _ => none

/-- The class behind a backslash and one of the letters d, s and w. -/
def shortClass? (unicode : Bool) (letter : Char) : Option CharSet :=
  match letter with
  | 'd' => some (if unicode then Category.nd else .range 0x30 0x39)
  | 's' => some (if unicode then whiteSpace else ⟨[(0x9, 0xd), (0x20, 0x20)]⟩)
  | 'w' => some (if unicode then Category.word else
      ⟨[(0x30, 0x39), (0x41, 0x5a), (0x5f, 0x5f), (0x61, 0x7a)]⟩)
  | _ => none

/-- A set with the case variants of its members; ASCII letters alone vary without `unicode`. -/
def foldCase (unicode : Bool) (s : CharSet) : CharSet :=
  if unicode then CaseFold.closure s
  else s ++ .ofList ((List.range 26).flatMap fun i =>
    (if s.contains (0x41 + i) then [(0x61 + i, 0x61 + i)] else []) ++
      if s.contains (0x61 + i) then [(0x41 + i, 0x41 + i)] else [])

end SealedRun.Pattern
