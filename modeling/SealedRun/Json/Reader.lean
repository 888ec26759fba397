import SealedRun.Json.Document

/-! Reading JSON. A text is one value with blanks around its parts and nothing behind it. -/
namespace SealedRun.Json

mutual

/-- The value at the front and what follows it; `fuel` bounds the depth of the calls. -/
def parseValue : Nat → Bytes → Option (Document × Bytes)
  | 0, _ => none
  | fuel + 1, bs =>
    match skipBlanks bs with
    | [] => none
    | b :: r =>
      if b = byte '"' then (scanString r).map fun p => (.text p.1, p.2)
      else if b = byte '[' then
        match skipBlanks r with
        | [] => none
        | c :: r' => if c = byte ']' then some (.array [], r') else
          (parseItems fuel r).map fun p => (.array p.1, p.2)
      else if b = byte '\x7b' then
        match skipBlanks r with
        | [] => none
        | c :: r' => if c = byte '\x7d' then some (.object [], r') else
          (parseMembers fuel r).map fun p => (.object p.1, p.2)
      else if b = byte 'n' then (dropWord? (utf8Bytes "ull") r).map fun r => (.null, r)
      else if b = byte 't' then (dropWord? (utf8Bytes "rue") r).map fun r => (.bool true, r)
      else if b = byte 'f' then (dropWord? (utf8Bytes "alse") r).map fun r => (.bool false, r)
      else (scanNumber (b :: r)).map fun p => (.number p.1, p.2)

/-- The items of an array up to its closing bracket. -/
def parseItems : Nat → Bytes → Option (List Document × Bytes)
  | 0, _ => none
  | fuel + 1, bs =>
    match parseValue fuel bs with
    | none => none
    | some (d, r) =>
      match skipBlanks r with
      | [] => none
      | c :: r =>
        if c = byte ',' then (parseItems fuel r).map fun p => (d :: p.1, p.2)
        else if c = byte ']' then some ([d], r)
        else none

/-- The members of an object up to its closing brace. -/
def parseMembers : Nat → Bytes → Option (List (Bytes × Document) × Bytes)
  | 0, _ => none
  | fuel + 1, bs =>
    match (dropWord? [byte '"'] (skipBlanks bs)).bind scanString with
    | none => none
    | some (key, r) =>
      match (dropWord? [byte ':'] (skipBlanks r)).bind (parseValue fuel) with
      | none => none
      | some (d, r) =>
        match skipBlanks r with
        | [] => none
        | c :: r =>
          if c = byte ',' then (parseMembers fuel r).map fun p => ((key, d) :: p.1, p.2)
          else if c = byte '\x7d' then some ([(key, d)], r)
          else none

end

/-- The document a text holds, if it holds one and no more. -/
def Document.parse? (bs : Bytes) : Option Document :=
  match parseValue (2 * bs.length + 2) bs with
  | some (d, r) => if (skipBlanks r).isEmpty then some d else none
  | none => none

end SealedRun.Json
