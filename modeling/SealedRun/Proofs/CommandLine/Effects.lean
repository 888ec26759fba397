import SealedRun.CommandLine

/-! What commands do, step by step. A command comes to its end with a value and a session, or it
fails; a sequence comes to its end if each of its steps does, one after another. -/
namespace SealedRun

theorem Outcome.toExcept_ok {α : Type} {o : Outcome α} {a : α} :
    o.toExcept = .ok a ↔ o = .returned a := by
  cases o with
  | returned b => simp only [toExcept, Except.ok.injEq, returned.injEq]
  | failed e => simp only [toExcept, reduceCtorEq]
  | trapped t => simp only [toExcept, reduceCtorEq]

namespace CommandLine

/-- From `s` the command comes to its end with `a` and leaves `s'`. -/
def Ends {α : Type} (c : Command α) (s : Session) (a : α) (s' : Session) : Prop :=
  c.run.run s = (.ok a, s')

section Laws

variable {α β : Type} {s s' t : Session} {a b : α} {r : Except Failure α}

theorem ends_pure : Ends (pure a) s b s' ↔ b = a ∧ s' = s := by
  show (Except.ok a, s) = (Except.ok b, s') ↔ _
  simp only [Prod.mk.injEq, Except.ok.injEq, eq_comm]

theorem run_bind (c : Command β) (next : β → Command α) (s : Session) :
    (c >>= next).run.run s = match c.run.run s with
      | (.ok b, t) => (next b).run.run t
      | (.error f, t) => (.error f, t) := by
  show (match c.run.run s with | (r, t) => (ExceptT.bindCont next r).run t) = _
  rcases c.run.run s with ⟨f | b, t⟩ <;> rfl

theorem ends_bind {c : Command β} {next : β → Command α} :
    Ends (c >>= next) s a s' ↔ ∃ b t, Ends c s b t ∧ Ends (next b) t a s' := by
  unfold Ends
  rw [run_bind]
  rcases h : c.run.run s with ⟨f | b, t⟩
  · constructor
    · exact nofun
    · rintro ⟨b, t, h, -⟩
      cases h
  · constructor
    · exact fun h => ⟨b, t, rfl, h⟩
    · rintro ⟨b, t, h, h'⟩
      cases h
      exact h'

theorem ends_get : Ends (get : Command Session) s t s' ↔ t = s ∧ s' = s := ends_pure (a := s)

theorem ends_modify {g : Session → Session} {u : Unit} : Ends (modify g) s u s' ↔ s' = g s := by
  show (Except.ok (), g s) = (Except.ok u, s') ↔ _
  simp only [Prod.mk.injEq, true_and, eq_comm]

theorem ends_note {line : String} {u : Unit} :
    Ends (note line) s u s' ↔ s' = { s with log := s.log ++ [line] } := ends_modify

theorem ends_lift : Ends (lift r) s a s' ↔ r = .ok a ∧ s' = s := by
  cases r with
  | ok b => rw [lift, ends_pure, Except.ok.injEq, eq_comm (a := a)]
  | error f => exact ⟨nofun, nofun⟩

theorem ends_change {g : Files → Except Failure Files} {u : Unit} :
    Ends (change g) s u s' ↔ ∃ files, g s.files = .ok files ∧ s' = { s with files } := by
  unfold change
  simp only [ends_bind, ends_get, ends_lift, ends_modify]
  constructor
  · rintro ⟨_, _, ⟨rfl, rfl⟩, files, _, ⟨made, rfl⟩, rfl⟩
    exact ⟨files, made, rfl⟩
  · rintro ⟨files, made, rfl⟩
    exact ⟨s, s, ⟨rfl, rfl⟩, files, s, ⟨made, rfl⟩, rfl⟩

/-- A loop that notes a line for each item. -/
theorem ends_forIn_note {line : β → String} {items : List β} {u : PUnit} :
    Ends (forIn items PUnit.unit fun b _ => do
      note (line b)
      pure (ForInStep.yield PUnit.unit)) s u s' ↔
        s' = { s with log := s.log ++ items.map line } := by
  induction items generalizing s with
  | nil =>
    rw [List.forIn_nil, ends_pure, List.map_nil, List.append_nil]
    exact and_iff_right rfl
  | cons b items ih =>
    rw [List.forIn_cons]
    simp only [ends_bind, ends_note, ends_pure, and_assoc, exists_and_left, exists_eq_left,
      exists_const, ih]
    rw [List.append_assoc]
    rfl

end Laws

/-- The configuration of a program, from the environment or its own. -/
def configFor (env : Environment) (entry : ShelfEntry) (fs : Files) : Except Failure Config :=
  if (env.get? "ZKHOST_CONFIG").isSome || (env.get? "PHANTOM").isSome then
    Config.ofEnvironment env fs
  else .ok entry.config

def hostOf (config : Config) : Except Failure Host :=
  match Host.ofConfig config with
  | .ok host => .ok host
  | .error f => .error (.pattern f)

def hostFor (env : Environment) (entry : ShelfEntry) (fs : Files) : Except Failure Host :=
  (configFor env entry fs).bind hostOf

def contextFor (env : Environment) (fs : Files) : Except Failure (List Word) :=
  match env.get? "CONTEXT_IN" with
  | some path => readWordFile fs path
  | none => .ok []

/-- The files with the context in the file that hands it over, if there is one. -/
def handOver (env : Environment) (ws : List Word) (fs : Files) : Except Failure Files :=
  match env.get? "CONTEXT_OUT" with
  | some path => writeWordFile fs path ws
  | none => .ok fs

/-- What is noted then. -/
def handOverNotes (env : Environment) : List String :=
  match env.get? "CONTEXT_OUT" with
  | some path => [s!"context written to {path}"]
  | none => []

section Steps

variable {env : Environment} {entry : ShelfEntry} {s s' : Session} {u : Unit}

theorem ends_hostOf {config : Config} {host : Host} :
    Ends (match Host.ofConfig config with
      | .ok host => return host
      | .error f => throw (.pattern f)) s host s' ↔ hostOf config = .ok host ∧ s' = s := by
  unfold hostOf
  cases Host.ofConfig config with
  | ok made => simp only [ends_pure, Except.ok.injEq, eq_comm]
  | error f => exact ⟨nofun, nofun⟩

theorem ends_loadHost {host : Host} :
    Ends (loadHost env entry) s host s' ↔ hostFor env entry s.files = .ok host ∧ s' = s := by
  unfold loadHost hostFor configFor
  split
  case isTrue =>
    simp only [ends_bind, ends_get, ends_lift, and_assoc, exists_and_left, exists_eq_left]
    cases Config.ofEnvironment env s.files with
    | error f => exact ⟨nofun, nofun⟩
    | ok config =>
      simp only [Except.ok.injEq, exists_eq_left']
      exact ends_hostOf
  case isFalse =>
    simp only [ends_bind, ends_pure, and_assoc, exists_and_left, exists_eq_left]
    exact ends_hostOf

theorem ends_contextInputs {context : List Word} :
    Ends (contextInputs env) s context s' ↔ contextFor env s.files = .ok context ∧ s' = s := by
  unfold contextInputs contextFor
  cases env.get? "CONTEXT_IN" with
  | none => simp only [ends_pure, Except.ok.injEq, eq_comm]
  | some path => simp [ends_bind, ends_get, ends_lift, and_assoc]

theorem ends_writeContext {ws : List Word} :
    Ends (writeContext env ws) s u s' ↔ ∃ files, handOver env ws s.files = .ok files ∧
      s' = ⟨files, s.log ++ handOverNotes env⟩ := by
  unfold writeContext handOver handOverNotes
  cases env.get? "CONTEXT_OUT" with
  | none => simp [ends_pure]
  | some path =>
    simp only [ends_bind, ends_change, ends_note, exists_const]
    constructor
    · rintro ⟨_, ⟨files, written, rfl⟩, rfl⟩
      exact ⟨files, written, rfl⟩
    · rintro ⟨files, written, rfl⟩
      exact ⟨_, ⟨files, written, rfl⟩, rfl⟩

theorem ends_makeDirectories {path : String} :
    Ends (makeDirectories path) s u s' ↔ ∃ files, s.files.createDirectories path = .ok files ∧
      s' = { s with files } := by
  unfold makeDirectories
  cases made : s.files.createDirectories path with
  | error e => simp [ends_change, made]
  | ok files => simp [ends_change, made]

end Steps

end CommandLine

end SealedRun
