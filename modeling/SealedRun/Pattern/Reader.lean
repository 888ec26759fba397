import SealedRun.Numeral
import SealedRun.Pattern.Basic
import SealedRun.Pattern.Class

/-! Reading patterns from their text: what stands for one character or one position, and
classes in brackets. Everything that is not a pattern is refused without a reason. -/
namespace SealedRun

namespace Pattern

/-- How the letters of a pattern are meant; each flag holds to the end of its group. -/
structure Flags where
  caseless : Bool
  multiLine : Bool
  dotAll : Bool
  unicode : Bool
  crlf : Bool
  /-- Blanks and comments are passed over. -/
  verbose : Bool
deriving DecidableEq, Repr

/-- What is left of a pattern's text, and what was said in front of it. -/
structure Cursor where
  rest : List Char
  flags : Flags
  /-- Names of groups so far. -/
  names : List (List Char)

private def dropVerbose : Bool → List Char → List Char
  | _, [] => []
  | true, c :: cs => dropVerbose (c != '\n') cs
  | false, c :: cs =>
    if isBlank c then dropVerbose false cs
    else if c = '#' then dropVerbose true cs
    else c :: cs

namespace Cursor

def skipSpace (k : Cursor) : Cursor :=
  if k.flags.verbose then { k with rest := dropVerbose false k.rest } else k

def withRest (k : Cursor) (rest : List Char) : Cursor := { k with rest }

/-- Goes on at `rest`, behind blanks where these are passed over. -/
def advance (k : Cursor) (rest : List Char) : Cursor := (k.withRest rest).skipSpace

end Cursor

/-- A character, a set of characters or a place. -/
inductive Atom
  /-- The flag says that the character was written as two hexadecimal digits. -/
  | literal (c : Char) (isByte : Bool)
  | charClass (s : CharSet)
  | anchor (a : Anchor)
deriving DecidableEq

private def char? (n : Nat) : Option Char :=
  if h : n.isValidChar then some (Char.ofNatAux n h) else none

/-- `count` hexadecimal digits. -/
private def fixedHex (k : Cursor) : Nat → List Nat → Option (List Nat × Cursor)
  | 0, ds => some (ds, k)
  | count + 1, ds =>
    match k.rest with
    | [] => none
    | c :: cs =>
      match digitValue? 16 c with
      | none => none
      | some d => fixedHex (k.advance cs) count (ds ++ [d])

/-- Hexadecimal digits up to a closing brace; `fuel` bounds their number. -/
private def bracedHex (k : Cursor) : Nat → List Nat → Option (List Nat × Cursor)
  | 0, _ => none
  | fuel + 1, ds =>
    match k.rest with
    | [] => none
    | '\x7d' :: cs => if ds = [] then none else some (ds, k.advance cs)
    | c :: cs =>
      match digitValue? 16 c with
      | none => none
      | some d => bracedHex (k.advance cs) fuel (ds ++ [d])

/-- A character by its number, behind the letter that says how many digits there are. -/
private def hexEscape (k : Cursor) (count : Nat) : Option (Atom × Cursor) :=
  match k.rest with
  | [] => none
  | '\x7b' :: cs => do
    let (ds, k) ← bracedHex (k.advance cs) (cs.length + 1) []
    some (.literal (← char? (ofDigits 16 ds)) false, k)
  | _ => do
    let (ds, k) ← fixedHex k count []
    some (.literal (← char? (ofDigits 16 ds)) (count = 2), k)

/-- The text up to a closing brace, read with `advance` from character to character. -/
private def bracedName (k : Cursor) : Nat → List Char → Option (List Char × Cursor)
  | 0, _ => none
  | fuel + 1, name =>
    match k.rest with
    | [] => none
    | '\x7d' :: cs => some (name, k.withRest cs)
    | c :: cs => bracedName (k.advance cs) fuel (name ++ [c])

private def splitAt? (sep : List Char) : List Char → Option (List Char × List Char)
  | [] => none
  | c :: cs =>
    if sep.isPrefixOf (c :: cs) then some ([], (c :: cs).drop sep.length)
    else (splitAt? sep cs).map fun p => (c :: p.1, p.2)

/-- The class a query in braces asks for. The three signs between a property and its value
mean the same. -/
private def queryClass? (query : List Char) : Option CharSet :=
  match splitAt? ['!', '='] query <|> splitAt? [':'] query <|> splitAt? ['='] query with
  | some (name, value) => valueClass? name value
  | none => propertyClass? query

private def propertyEscape (k : Cursor) (negated : Bool) : Option (Atom × Cursor) := do
  let (s, k) ← match k.rest with
    | [] => none
    | '\x7b' :: cs => do
      let (query, k) ← bracedName (k.advance cs) (cs.length + 1) []
      some (← queryClass? query, k)
    | '\\' :: _ => none
    | c :: cs => do
      some (← propertyClass? [c], k.advance cs)
  if k.flags.unicode then
    let s := if k.flags.caseless then foldCase true s else s
    some (.charClass (if negated then s.complement else s), k)
  else none

private def isSpecial (c : Char) : Bool := "\\.+*?()|[]\x7b\x7d^$#&-~".toList.contains c

/-- Every ASCII character that is no letter or digit, angle brackets apart. -/
private def isEscapable (c : Char) : Bool :=
  isSpecial c || c.toNat < 0x80 && !c.isAlphanum && c != '<' && c != '>'

/-- The letters of a name between braces behind a boundary; `none` if there is no name. -/
private def boundaryName (k : Cursor) : Nat → List Char → Option (List Char × Cursor)
  | 0, _ => none
  | fuel + 1, name =>
    match k.rest with
    | [] => none
    | c :: cs =>
      if c.isAlpha || c = '-' then boundaryName (k.advance cs) fuel (name ++ [c])
      else if c = '\x7d' then some (name, k.withRest cs)
      else none

/-- A boundary of words: plain, or of the kind named in braces behind it. Braces that do not
begin with a name are left for the repetition that they then are. -/
private def boundary (k : Cursor) : Option (Atom × Cursor) :=
  match k.rest with
  | '\x7b' :: cs =>
    let inner := k.advance cs
    match inner.rest with
    | [] => none
    | c :: _ =>
      if c.isAlpha || c = '-' then do
        let (name, k) ← boundaryName inner (cs.length + 1) []
        let kind ← match String.ofList name with
          | "start" => some Anchor.wordStart
          | "end" => some .wordEnd
          | "start-half" => some .wordStartHalf
          | "end-half" => some .wordEndHalf
          | _ => none
        some (.anchor kind, k)
      else some (.anchor .wordBoundary, k)
  | _ => some (.anchor .wordBoundary, k)

/-- What a backslash and the characters behind it stand for. -/
private def escape (k : Cursor) : Option (Atom × Cursor) :=
  match k.rest with
  | [] => none
  | c :: cs =>
    let here := k.withRest cs
    match c with
    | 'x' => hexEscape (k.advance cs) 2
    | 'u' => hexEscape (k.advance cs) 4
    | 'U' => hexEscape (k.advance cs) 8
    | 'p' => propertyEscape (k.advance cs) false
    | 'P' => propertyEscape (k.advance cs) true
    | 'd' | 's' | 'w' => (shortClass? k.flags.unicode c).map fun s => (.charClass s, here)
    | 'D' | 'S' | 'W' =>
      if k.flags.unicode then
        (shortClass? true c.toLower).map fun s => (.charClass s.complement, here)
      else none
    | 'a' => some (.literal '\x07' false, here)
    | 'f' => some (.literal '\x0c' false, here)
    | 't' => some (.literal '\t' false, here)
    | 'n' => some (.literal '\n' false, here)
    | 'r' => some (.literal '\r' false, here)
    | 'v' => some (.literal '\x0b' false, here)
    | 'A' => some (.anchor .textStart, here)
    | 'z' => some (.anchor .textEnd, here)
    | 'b' => boundary here
    | 'B' => some (.anchor .notWordBoundary, here)
    | '<' => some (.anchor .wordStart, here)
    | '>' => some (.anchor .wordEnd, here)
    | c => if isEscapable c then some (.literal c false, here) else none

/-- One character of a class, or an escape. -/
private def classAtom (k : Cursor) : Option (Atom × Cursor) :=
  match k.rest with
  | [] => none
  | '\\' :: cs => escape (k.withRest cs)
  | c :: cs => some (.literal c false, k.withRest cs)

/-- Without Unicode a class is made of ASCII characters. -/
private def classChar? (flags : Flags) : Atom → Option Nat
  | .literal c _ => if flags.unicode || c.toNat < 0x80 then some c.toNat else none
  | _ => none

private def atomSet? (flags : Flags) : Atom → Option CharSet
  | .charClass s => some s
  | atom => (classChar? flags atom).map fun n => .range n n

/-- A range, or a single item. A dash in front of a bracket or another dash makes no range. -/
private def classRange (k : Cursor) : Option (CharSet × Cursor) := do
  let (low, k) ← classAtom k
  let k := k.skipSpace
  match k.rest with
  | [] => none
  | '-' :: cs =>
    let next := k.advance cs
    match next.rest with
    | ']' :: _ | '-' :: _ => (atomSet? k.flags low).map (·, k)
    | [] => none
    | _ =>
      let (high, next) ← classAtom next
      let lo ← classChar? k.flags low
      let hi ← classChar? k.flags high
      if lo ≤ hi then some (.range lo hi, next) else none
  | _ => (atomSet? k.flags low).map (·, k)

private def folded (flags : Flags) (s : CharSet) : CharSet :=
  if flags.caseless then foldCase flags.unicode s else s

/-- A class with its case variants, or all other characters. Without Unicode only ASCII
characters may be left. -/
private def classSet? (flags : Flags) (negated : Bool) (s : CharSet) : Option CharSet :=
  let s := folded flags s
  if flags.unicode then some (if negated then s.complement else s)
  else
    let s := if negated then s.complement.inter (.range 0 0xff) else s
    if s.below 0x80 then some s else none

/-- What stands between `[:` and `:]`, if that is a class: whether it is negated, its
characters, and what follows. -/
private def posixClass? : List Char → Option (Bool × CharSet × List Char)
  | '[' :: ':' :: cs =>
    let (negated, cs) := match cs with
      | '^' :: cs => (true, cs)
      | cs => (false, cs)
    match splitAt? [':'] cs with
    | some (name, ']' :: cs) => (asciiClass? name).map fun s => (negated, s, cs)
    | _ => none
  | _ => none

inductive SetOp
  | inter
  | diff
  | symmDiff
deriving DecidableEq

private def SetOp.apply : SetOp → CharSet → CharSet → CharSet
  | inter => CharSet.inter
  | diff => CharSet.diff
  | symmDiff => CharSet.symmDiff

/-- A part of a class: its characters, the number of its items and how deeply it nests. -/
private structure ClassPart where
  set : CharSet
  items : Nat
  depth : Nat

private def ClassPart.none : ClassPart := ⟨.empty, 0, 0⟩

private def ClassPart.add (p : ClassPart) (s : CharSet) (depth : Nat) : ClassPart :=
  ⟨p.set ++ s, p.items + 1, max p.depth depth⟩

private def ClassPart.close (p : ClassPart) : ClassPart :=
  if 2 ≤ p.items then ⟨p.set, 1, p.depth + 1⟩ else p

/-- Joins what stands in front of an operator with the part behind it. -/
private def joinParts (flags : Flags) (pending : Option (SetOp × ClassPart)) (p : ClassPart) :
    ClassPart :=
  match pending with
  | Option.none => p.close
  | some (op, q) =>
    ⟨op.apply (folded flags q.set) (folded flags p.set), 1, max q.depth p.close.depth + 1⟩

/-- Dashes at the beginning of a class stand for themselves. -/
private def leadingDashes (k : Cursor) : Nat → ClassPart → Option (ClassPart × Cursor)
  | 0, _ => Option.none
  | fuel + 1, p =>
    match k.rest with
    | [] => Option.none
    | '-' :: cs => leadingDashes (k.advance cs) fuel (p.add (.single '-') 0)
    | _ => some (p, k)

mutual

/-- A class behind its opening bracket. -/
private def bracket : Nat → Cursor → Option (CharSet × Nat × Cursor)
  | 0, _ => Option.none
  | fuel + 1, k => do
    let k := k.skipSpace
    let (negated, k) ← match k.rest with
      | [] => Option.none
      | '^' :: cs => some (true, k.advance cs)
      | _ => some (false, k)
    let (p, k) ← leadingDashes k (k.rest.length + 1) .none
    let (p, k) ← match k.rest with
      | [] => Option.none
      | ']' :: cs => if p.items = 0 then some (p.add (.single ']') 0, k.advance cs) else some (p, k)
      | _ => some (p, k)
    let (p, k) ← bracketItems fuel k Option.none p
    some (← classSet? k.flags negated p.set, p.depth + 1, k)

/-- The items of a class up to its closing bracket. -/
private def bracketItems : Nat → Cursor → Option (SetOp × ClassPart) → ClassPart →
    Option (ClassPart × Cursor)
  | 0, _, _, _ => Option.none
  | fuel + 1, k, pending, p =>
    let k := k.skipSpace
    match k.rest with
    | [] => Option.none
    | ']' :: cs => some (joinParts k.flags pending p, k.withRest cs)
    | '[' :: cs =>
      match posixClass? k.rest with
      | some (negated, s, rest) => do
        let s ← classSet? k.flags negated s
        bracketItems fuel (k.withRest rest) pending (p.add s 0)
      | Option.none => do
        let (s, depth, k) ← bracket fuel (k.withRest cs)
        bracketItems fuel k pending (p.add s depth)
    | '&' :: '&' :: cs =>
      bracketItems fuel (k.withRest cs) (some (.inter, joinParts k.flags pending p)) .none
    | '-' :: '-' :: cs =>
      bracketItems fuel (k.withRest cs) (some (.diff, joinParts k.flags pending p)) .none
    | '~' :: '~' :: cs =>
      bracketItems fuel (k.withRest cs) (some (.symmDiff, joinParts k.flags pending p)) .none
    | _ => do
      let (s, k) ← classRange k
      bracketItems fuel k pending (p.add s 0)

end

/-- A piece of a sequence: something that can be repeated, or flags that were set. -/
private inductive Piece
  | item (p : Pattern) (depth : Nat)
  | flags

private def literalPattern (flags : Flags) (c : Char) : Pattern :=
  .oneOf (if flags.caseless && (flags.unicode || c.toNat < 0x80) then
    foldCase flags.unicode (.single c) else .single c)

private def atomPattern (flags : Flags) : Atom → Option Pattern
  | .literal c isByte =>
    if isByte && !flags.unicode && 0x80 ≤ c.toNat then none else some (literalPattern flags c)
  | .charClass s => some (.oneOf s)
  | .anchor a => some (.anchor (!flags.unicode) a)

private def dot (flags : Flags) : Option Pattern :=
  if !flags.unicode then none
  else if flags.dotAll then some (.oneOf .all)
  else if flags.crlf then some (.oneOf (CharSet.mk [(0xa, 0xa), (0xd, 0xd)]).complement)
  else some (.oneOf (CharSet.single '\n').complement)

private def lineStart (flags : Flags) : Anchor :=
  if !flags.multiLine then .textStart else if flags.crlf then .crlfLineStart else .lineStart

private def lineEnd (flags : Flags) : Anchor :=
  if !flags.multiLine then .textEnd else if flags.crlf then .crlfLineEnd else .lineEnd

private def setFlag (on : Bool) (flags : Flags) : Char → Option Flags
  | 'i' => some { flags with caseless := on }
  | 'm' => some { flags with multiLine := on }
  | 's' => some { flags with dotAll := on }
  | 'u' => some { flags with unicode := on }
  | 'R' => some { flags with crlf := on }
  | 'x' => some { flags with verbose := on }
  | 'U' => some flags
  | _ => none

/-- Flags up to the colon or parenthesis that ends them. Each may come once, a dash once and
not last. `seen` holds what came so far. -/
private def readFlags (flags : Flags) (on : Bool) (seen : List Char) :
    List Char → Option (Flags × List Char × List Char)
  | [] => none
  | c :: cs =>
    if c = ':' || c = ')' then
      if seen.head? = some '-' then none else some (flags, seen, c :: cs)
    else if seen.contains c then none
    else if c = '-' then readFlags flags false (c :: seen) cs
    else
      match setFlag on flags c with
      | none => none
      | some flags => readFlags flags on (c :: seen) cs

private def isNameStart (c : Char) : Bool := c = '_' || Category.alphabetic.mem c

private def isNamePart (c : Char) : Bool :=
  isNameStart c || c = '.' || c = '[' || c = ']' ||
    (Category.nd ++ Category.nl ++ Category.no).mem c

/-- The name of a group up to the angle bracket that ends it, which no group has yet. -/
private def groupName (k : Cursor) (cs : List Char) : Option Cursor :=
  let name := cs.takeWhile (· != '>')
  match name, cs.drop name.length with
  | c :: part, _ :: rest =>
    if isNameStart c && part.all isNamePart && !k.names.contains name then
      some { k with rest, names := name :: k.names }
    else none
  | _, _ => none

/-- What an opening parenthesis begins. -/
private inductive Opening
  | group
  | flagsOnly

/-- Reads on behind an opening parenthesis. Looking around is not known. -/
private def opening (k : Cursor) : Option (Opening × Cursor) :=
  let k := k.skipSpace
  match k.rest with
  | '?' :: '=' :: _ | '?' :: '!' :: _ | '?' :: '<' :: '=' :: _ | '?' :: '<' :: '!' :: _ => none
  | '?' :: 'P' :: '<' :: cs | '?' :: '<' :: cs => (groupName k cs).map (.group, ·)
  | '?' :: cs =>
    match readFlags k.flags true [] cs with
    | some (flags, _, ':' :: cs) => some (.group, { k with rest := cs, flags })
    | some (flags, seen, ')' :: cs) =>
      if seen = [] then none else some (.flagsOnly, { k with rest := cs, flags })
    | _ => none
  | _ => some (.group, k)

private def dropBlanks (cs : List Char) : List Char := cs.dropWhile isBlank

/-- A count below 2 ^ 32 with blanks around it; `fuel` bounds the number of digits. -/
private def countDigits (k : Cursor) : Nat → List Nat → List Nat × Cursor
  | 0, ds => (ds, k)
  | fuel + 1, ds =>
    match k.rest with
    | c :: cs =>
      match digitValue? 10 c with
      | some d => countDigits (k.advance cs) fuel (ds ++ [d])
      | none => (ds, k)
    | [] => (ds, k)

private def count? (k : Cursor) : Option (Nat × Cursor) :=
  let k := k.withRest (dropBlanks k.rest)
  let (ds, k) := countDigits k (k.rest.length + 1) []
  let k := (k.withRest (dropBlanks k.rest)).skipSpace
  if ds ≠ [] ∧ ofDigits 10 ds < UInt32.size then some (ofDigits 10 ds, k) else none

/-- The bounds of a repetition behind its opening brace. -/
private def bounds? (k : Cursor) : Option (Nat × Option Nat × Cursor) := do
  let (least, k) ← count? k.skipSpace
  match k.rest with
  | '\x7d' :: cs => some (least, some least, k.advance cs)
  | ',' :: cs =>
    let k := k.advance cs
    match k.rest with
    | '\x7d' :: cs => some (least, none, k.advance cs)
    | _ =>
      let (most, k) ← count? k
      match k.rest with
      | '\x7d' :: cs => if least ≤ most then some (least, some most, k.advance cs) else none
      | _ => none
  | _ => none

/-- Whether a repetition takes as much as it can makes no difference to where it matches. -/
private def dropLazy (k : Cursor) : Cursor :=
  match k.rest with
  | '?' :: cs => k.withRest cs
  | _ => k

private def repeatLast (least : Nat) (most : Option Nat) : List Piece → Option (List Piece)
  | .item p depth :: pieces => some (.item (.times p least most) (depth + 1) :: pieces)
  | _ => none

/-- The pieces of a sequence, the last one first, as one pattern. -/
private def sequence (pieces : List Piece) : Pattern × Nat :=
  match pieces with
  | [] => (.empty, 0)
  | [.item p depth] => (p, depth)
  | [.flags] => (.empty, 0)
  | pieces => pieces.foldl (fun (q, depth) piece =>
      match piece with
      | .item p d => (.seq p q, max depth (d + 1))
      | .flags => (q, depth)) (.empty, 1)

mutual

/-- Alternatives up to the end of their group or of the text. -/
private def branches : Nat → Cursor → Option (Pattern × Nat × Cursor)
  | 0, _ => none
  | fuel + 1, k => do
    let (pieces, k) ← branch fuel k []
    let (p, depth) := sequence pieces
    match k.rest with
    | '|' :: cs =>
      let (q, other, k) ← alternatives fuel (k.withRest cs)
      some (.alt p q, max depth other + 1, k)
    | _ => some (p, depth, k)

/-- The alternatives behind the first one, with the depth of the deepest. -/
private def alternatives : Nat → Cursor → Option (Pattern × Nat × Cursor)
  | 0, _ => none
  | fuel + 1, k => do
    let (pieces, k) ← branch fuel k []
    let (p, depth) := sequence pieces
    match k.rest with
    | '|' :: cs =>
      let (q, other, k) ← alternatives fuel (k.withRest cs)
      some (.alt p q, max depth other, k)
    | _ => some (p, depth, k)

/-- The pieces of one alternative, the last one first. -/
private def branch : Nat → Cursor → List Piece → Option (List Piece × Cursor)
  | 0, _, _ => none
  | fuel + 1, k, pieces =>
    let k := k.skipSpace
    match k.rest with
    | [] | '|' :: _ | ')' :: _ => some (pieces, k)
    | '(' :: cs => do
      match ← opening (k.withRest cs) with
      | (.flagsOnly, k) => branch fuel k (.flags :: pieces)
      | (.group, inner) =>
        let (p, depth, inner) ← branches fuel inner
        match inner.rest with
        | ')' :: cs =>
          branch fuel { inner with rest := cs, flags := k.flags } (.item p (depth + 1) :: pieces)
        | _ => none
    | '[' :: cs => do
      let (s, depth, k) ← bracket fuel (k.withRest cs)
      branch fuel k (.item (.oneOf s) depth :: pieces)
    | '?' :: cs => do branch fuel (dropLazy (k.withRest cs)) (← repeatLast 0 (some 1) pieces)
    | '*' :: cs => do branch fuel (dropLazy (k.withRest cs)) (← repeatLast 0 none pieces)
    | '+' :: cs => do branch fuel (dropLazy (k.withRest cs)) (← repeatLast 1 none pieces)
    | '\x7b' :: cs => do
      let (least, most, k) ← bounds? (k.withRest cs)
      branch fuel (dropLazy k) (← repeatLast least most pieces)
    | '\\' :: cs => do
      let (atom, k) ← escape (k.withRest cs)
      branch fuel k (.item (← atomPattern k.flags atom) 0 :: pieces)
    | '.' :: cs => do branch fuel (k.withRest cs) (.item (← dot k.flags) 0 :: pieces)
    | '^' :: cs =>
      branch fuel (k.withRest cs) (.item (.anchor false (lineStart k.flags)) 0 :: pieces)
    | '$' :: cs =>
      branch fuel (k.withRest cs) (.item (.anchor false (lineEnd k.flags)) 0 :: pieces)
    | c :: cs => branch fuel (k.withRest cs) (.item (literalPattern k.flags c) 0 :: pieces)

end

/-- Whether every match is empty. -/
def isWidthless : Pattern → Bool
  | .empty => true
  | .oneOf _ => false
  | .anchor _ _ => true
  | .seq p q => p.isWidthless && q.isWidthless
  | .alt p q => p.isWidthless && q.isWidthless
  | .times p _ most => p.isWidthless || most == some 0

/-- Roughly the room a matcher for a set takes, in bytes. A range costs more when its
characters have encodings of different lengths. -/
def setRoom (s : CharSet) : Nat :=
  let size (n : Nat) : Nat := (Char.ofNat n).utf8Size
  if s.below 0x80 then 32
  else s.ranges.foldl (fun total r => total + 64 + 100 * (size r.2 - size r.1)) 0

/-- Roughly the room a matcher for the pattern takes, in bytes. -/
def room : Pattern → Nat
  | .empty => 0
  | .oneOf s => setRoom s
  | .anchor _ _ => 32
  | .seq p q => p.room + q.room
  | .alt p q => p.room + q.room + 32
  | .times p least most =>
    if p.isWidthless then p.room
    else least * p.room + (most.getD (least + 1) - least) * (p.room + 40)

/-- Groups nest at most this deeply. -/
def maxDepth : Nat := 250

/-- A matcher takes at most this much room, ten times 1024 kilobytes. -/
def maxRoom : Nat := 10485760

end Pattern

/-- Why a text is no pattern. -/
inductive PatternFault
  | malformed
  | tooLarge
deriving DecidableEq, Repr

/-- The first line of the message. -/
def PatternFault.message : PatternFault → String
  | malformed => "regex parse error:"
  | tooLarge => s!"Compiled regex exceeds size limit of {Pattern.maxRoom} bytes."

def Pattern.parse (text : String) : Except PatternFault Pattern :=
  let cs := text.toList
  let flags : Flags := ⟨false, false, false, true, false, false⟩
  match branches (2 * cs.length + 2) ⟨cs, flags, []⟩ with
  | some (p, depth, k) =>
    if k.rest ≠ [] ∨ maxDepth < depth then .error .malformed
    else if maxRoom < p.room then .error .tooLarge
    else .ok p
  | none => .error .malformed

end SealedRun
