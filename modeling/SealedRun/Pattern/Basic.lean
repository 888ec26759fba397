import SealedRun.Text.Category

/-! Patterns on names and where they match. The positions of a text are the gaps before,
between and behind its characters, and a set of positions is a number with a bit for each.
A pattern takes the positions where a match may begin to those where it may end, so a text
has a match when something is left of the set of all positions. -/
namespace SealedRun

/-- What a position can be required to be. -/
inductive Anchor
  | textStart
  | textEnd
  | lineStart
  | lineEnd
  /-- Lines that end with a carriage return, a line feed or both in this order. -/
  | crlfLineStart
  | crlfLineEnd
  | wordBoundary
  | notWordBoundary
  | wordStart
  | wordEnd
  | wordStartHalf
  | wordEndHalf
deriving DecidableEq, Repr

/-- Whether `before` and `after`, the characters around a position, make it such a place;
`isWord` tells the characters of words. -/
def Anchor.holds (isWord : Char → Bool) (before after : Option Char) : Anchor → Bool
  | .textStart => before.isNone
  | .textEnd => after.isNone
  | .lineStart => before.all (· = '\n')
  | .lineEnd => after.all (· = '\n')
  | .crlfLineStart => before.all fun c => c = '\n' || c = '\r' && after != some '\n'
  | .crlfLineEnd => after.all fun c => c = '\r' || c = '\n' && before != some '\r'
  | .wordBoundary => before.any isWord != after.any isWord
  | .notWordBoundary => before.any isWord == after.any isWord
  | .wordStart => !before.any isWord && after.any isWord
  | .wordEnd => before.any isWord && !after.any isWord
  | .wordStartHalf => !before.any isWord
  | .wordEndHalf => !after.any isWord

inductive Pattern
  | empty
  | oneOf (s : CharSet)
  /-- The flag says whether words are made of ASCII characters alone. -/
  | anchor (ascii : Bool) (a : Anchor)
  | seq (p q : Pattern)
  | alt (p q : Pattern)
  /-- From `least` to `most` times, without an upper bound if `most` is absent. -/
  | times (p : Pattern) (least : Nat) (most : Option Nat)
deriving DecidableEq, Repr

namespace Pattern

def asciiWord : CharSet := ⟨[(0x30, 0x39), (0x41, 0x5a), (0x5f, 0x5f), (0x61, 0x7a)]⟩

/-- The bits of the numbers below `n` that pass. -/
private def bitsWhere (n : Nat) (pass : Nat → Bool) : Nat :=
  (List.range n).foldl (fun bits i => if pass i then bits ||| (1 <<< i) else bits) 0

/-- Applies `f` up to `n` times, and stops once that changes nothing. -/
private def iterate (f : Nat → Nat) : Nat → Nat → Nat
  | 0, x => x
  | n + 1, x =>
    let y := f x
    if y = x then x else iterate f n y

/-- The ends of matches that begin in `starts`. A position is never left backwards, so after
one round more than there are positions another one changes nothing. -/
def ends (text : Array Char) : Pattern → Nat → Nat
  | empty, starts => starts
  | oneOf s, starts =>
    (starts &&& bitsWhere text.size fun i => text[i]?.any s.mem) <<< 1
  | anchor ascii a, starts =>
    let isWord := (if ascii then asciiWord else Category.word).mem
    starts &&& bitsWhere (text.size + 1) fun i =>
      a.holds isWord (if i = 0 then none else text[i - 1]?) text[i]?
  | seq p q, starts => q.ends text (p.ends text starts)
  | alt p q, starts => p.ends text starts ||| q.ends text starts
  | times p least most, starts =>
    let rounds := text.size + 2
    let first := iterate (p.ends text) (min least rounds) starts
    let more := match most with
      | none => rounds
      | some most => min (most - least) rounds
    iterate (fun x => x ||| p.ends text x) more first

/-- Whether the pattern matches anywhere in the text. -/
def isMatch (p : Pattern) (s : String) : Bool :=
  let text := s.toList.toArray
  p.ends text (bitsWhere (text.size + 1) fun _ => true) != 0

end Pattern

end SealedRun
