import SealedRun.Json.Literal

/-! JSON documents. Numbers and strings are kept as written, so that a document can be read
without deciding what they mean; the readers here give them a meaning and refuse what does
not have the form asked for. -/
namespace SealedRun.Json

inductive Document
  | null
  | bool (b : Bool)
  | number (lexeme : Bytes)
  /-- The body of a string, escapes and all. -/
  | text (raw : Bytes)
  | array (items : List Document)
  | object (members : List (Bytes × Document))

namespace Document

def ofNat (n : Nat) : Document := .number ((digits 10 n).map fun d => byte (digitChar d))

def ofString (s : String) : Document := .text (escape (utf8Bytes s))

def ofNats (ns : List Nat) : Document := .array (ns.map ofNat)

/-- An object with its members in order. -/
def record (fields : List (String × Document)) : Document :=
  .object (fields.map fun f => (escape (utf8Bytes f.1), f.2))

def quote (raw : Bytes) : Bytes := byte '"' :: raw ++ [byte '"']

mutual

/-- The shortest form: no blanks anywhere. -/
def render : Document → Bytes
  | .null => utf8Bytes "null"
  | .bool true => utf8Bytes "true"
  | .bool false => utf8Bytes "false"
  | .number lexeme => lexeme
  | .text raw => quote raw
  | .array [] => [byte '[', byte ']']
  | .array (d :: ds) => byte '[' :: d.render ++ renderItems ds
  | .object [] => [byte '\x7b', byte '\x7d']
  | .object ((key, d) :: ms) =>
    byte '\x7b' :: quote key ++ byte ':' :: d.render ++ renderMembers ms

def renderItems : List Document → Bytes
  | [] => [byte ']']
  | d :: ds => byte ',' :: d.render ++ renderItems ds

def renderMembers : List (Bytes × Document) → Bytes
  | [] => [byte '\x7d']
  | (key, d) :: ms => byte ',' :: quote key ++ byte ':' :: d.render ++ renderMembers ms

end

/-- The text a string body stands for. -/
def string? : Document → Option String
  | .text raw => (unescape raw).bind utf8String?
  | _ => none

/-- A number written with digits alone and below `limit`. -/
def nat? (limit : Nat) : Document → Option Nat
  | .number lexeme =>
    if lexeme.all isDigit then
      let n := ofDigits 10 (lexeme.map fun b => b.toNat - 48)
      if n < limit then some n else none
    else none
  | _ => none

def word? (d : Document) : Option Word := (d.nat? UInt64.size).map UInt64.ofNat

def list? {α : Type} (item? : Document → Option α) : Document → Option (List α)
  | .array items => items.mapM item?
  | _ => none

/-- A bare name, or an object whose only member has that name and no content. -/
def unitName? : Document → Option String
  | .object [(key, .null)] => (Document.text key).string?
  | d => d.string?

/-- Puts each member of an object into the place of its name. Unknown names are passed over;
a known name may come once. -/
def placeMembers (names : List String) :
    List (Bytes × Document) → List (Option Document) → Option (List (Option Document))
  | [], places => some places
  | (key, d) :: ms, places => do
    let name ← (Document.text key).string?
    match names.idxOf? name with
    | none => placeMembers names ms places
    | some i =>
      if ((places[i]?).bind id).isSome then none else placeMembers names ms (places.set i (some d))

def named? (names : List String) (ms : List (Bytes × Document)) :
    Option (List (Option Document)) :=
  placeMembers names ms (names.map fun _ => none)

/-- The members called `names`, in that order. An array gives all of them by place. -/
def record? (names : List String) : Document → Option (List (Option Document))
  | .object ms => named? names ms
  | .array items => if items.length = names.length then some (items.map some) else none
  | _ => none

/-- Like `record?`, but an array may end early. -/
def openRecord? (names : List String) : Document → Option (List (Option Document))
  | .object ms => named? names ms
  | .array items =>
    if items.length ≤ names.length then
      some (items.map some ++ List.replicate (names.length - items.length) none)
    else none
  | _ => none

end Document

end SealedRun.Json
