import SealedRun.Context.Schema
import SealedRun.Json.Reader

/-! What a host is configured with: the context slots of each position and the patterns that
mark phantom functions. In a configuration document either part may be left out, and so may
the slots of a position, which then has none. -/
namespace SealedRun

open Json (Document)

structure Config where
  schema : ContextSchema
  patterns : List String
deriving DecidableEq, Repr

namespace Slots

def toDocument (s : Slots) : Document :=
  .record [("reads", .ofNat s.reads), ("writes", .ofNat s.writes)]

def ofDocument? (d : Document) : Option Slots :=
  match d.record? ["reads", "writes"] with
  | some [some reads, some writes] => do
    some ⟨← reads.nat? UInt64.size, ← writes.nat? UInt64.size⟩
  | _ => none

end Slots

namespace ContextSchema

def toDocument (s : ContextSchema) : Document :=
  .record [("first", s.first.toDocument), ("middle", s.middle.toDocument),
    ("last", s.last.toDocument), ("only", s.only.toDocument)]

def slotsOr (absent : Slots) : Option Document → Option Slots
  | none => some absent
  | some d => Slots.ofDocument? d

def ofDocument? (d : Document) : Option ContextSchema :=
  match d.openRecord? ["first", "middle", "last", "only"] with
  | some [first, middle, last, only] => do
    some ⟨← slotsOr empty.first first, ← slotsOr empty.middle middle,
      ← slotsOr empty.last last, ← slotsOr empty.only only⟩
  | _ => none

end ContextSchema

namespace Config

def empty : Config := ⟨.empty, []⟩

def toDocument (c : Config) : Document :=
  .record [("context_schema", c.schema.toDocument),
    ("phantom_functions", .array (c.patterns.map .ofString))]

def ofDocument? (d : Document) : Option Config :=
  match d.openRecord? ["context_schema", "phantom_functions"] with
  | some [schema, patterns] => do
    let schema ← match schema with
      | none => some empty.schema
      | some d => ContextSchema.ofDocument? d
    let patterns ← match patterns with
      | none => some empty.patterns
      | some d => d.list? Document.string?
    some ⟨schema, patterns⟩
  | _ => none

def parse? (bs : Bytes) : Option Config := (Document.parse? bs).bind ofDocument?

end Config

end SealedRun
