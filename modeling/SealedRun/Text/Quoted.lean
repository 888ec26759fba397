import SealedRun.Text.Category

/-! Text between quotes, as messages show it: a quote of the kind around it, a backslash and
the usual blanks are escaped by name, and characters that cannot be seen by number. -/
namespace SealedRun.Quoted

private def escapeNumber (c : Char) : String :=
  "\\u\x7b" ++ String.ofList ((digits 16 c.toNat).map digitChar) ++ "\x7d"

def escapeChar (quote c : Char) : String :=
  if c = '\x00' then "\\0"
  else if c = '\t' then "\\t"
  else if c = '\r' then "\\r"
  else if c = '\n' then "\\n"
  else if c = '\\' then "\\\\"
  else if c = quote then String.ofList ['\\', c]
  else if Category.graphemeExtend.mem c || Category.unprintable.mem c then escapeNumber c
  else String.singleton c

def string (s : String) : String :=
  "\"" ++ String.join (s.toList.map (escapeChar '"')) ++ "\""

def char (c : Char) : String := "'" ++ escapeChar '\'' c ++ "'"

end SealedRun.Quoted
