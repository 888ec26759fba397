import SealedRun.Config
import SealedRun.Guest.Basic
import SealedRun.Pattern.Reader

/-! A host is a configuration whose patterns are well-formed. -/
namespace SealedRun

/-- A registry in which the names that match one of the patterns are marked. -/
def Registry.ofPatterns (patterns : List String) : Except PatternFault Registry :=
  (patterns.mapM Pattern.parse).map fun ps => .empty fun name => ps.any (·.isMatch name)

structure Host where
  config : Config
  /-- Knows which names are marked, and no functions yet. -/
  registry : Registry

namespace Host

def ofConfig (c : Config) : Except PatternFault Host :=
  (Registry.ofPatterns c.patterns).map (⟨c, ·⟩)

/-- The registry of a guest's functions. -/
def registryFor {α : Type} (h : Host) (g : Guest α) : Except ExecutionError Registry :=
  match h.registry.register g.functions with
  | (.ok (), r) => .ok r
  | (.error e, _) => .error e

end Host

end SealedRun
