import SealedRun.Program

/-! A run as the list of what the guest did. A move is one call, or one end of a phantom
region; `play` performs moves whatever they answer, so it covers every way a guest can treat
an error. `run_eq_play` gives the moves of each program. -/
namespace SealedRun

/-- The operation that a trace names the call by. -/
def Call.op {β : Type} : Call β → HostOp
  | input _ => .wasmInput
  | readBytes _ _ => .wasmInput
  | output _ => .wasmOutput
  | require _ => .require
  | readContext => .readContext
  | writeContext _ => .writeContext
  | load _ => .memoryLoad
  | store _ _ => .memoryStore
  | log _ => .log

/-- The error of an answer that is one. -/
def error? {β : Type} : Except ExecutionError β → Option ExecutionError
  | .ok _ => none
  | .error e => some e

inductive Move : Type 1
  | call {β : Type} (c : Call β)
  /-- Asks for a phantom region of the function `name`. -/
  | enter (name : String)
  /-- The body of the innermost region is over and gave a value, or the error `failure`. -/
  | leave (failure : Option ExecutionError)

namespace Move

/-- The state behind a move. -/
def after : Move → State → State
  | call c, s => (c.perform s).2
  | enter name, s => (s.openRegion name).2
  | leave failure, s => s.closeRegion failure

/-- The error a move ends with. -/
def fault? : Move → State → Option ExecutionError
  | call c, s => error? (c.perform s).1
  | enter name, s => error? (s.openRegion name).1
  | leave failure, _ => failure

/-- The operation of a call. -/
def op? : Move → Option HostOp
  | call c => some c.op
  | enter _ => none
  | leave _ => none

theorem after_enter {name : String} {s s' : State} {r : Except ExecutionError Unit}
    (h : s.openRegion name = (r, s')) : (enter name).after s = s' := congrArg Prod.snd h

/-- Everything but the end of a region is asked for by the guest and gets an answer. -/
def IsRequest : Move → Prop
  | leave _ => False
  | _ => True

end Move

/-- How many of the moves are calls of `op`. -/
def countOp (op : HostOp) (ms : List Move) : Nat := ms.countP (·.op? == some op)

theorem countOp_nil (op : HostOp) : countOp op [] = 0 := rfl

theorem countOp_cons (op : HostOp) (m : Move) (ms : List Move) :
    countOp op (m :: ms) = countOp op ms + if m.op? = some op then 1 else 0 := by
  simp only [countOp, List.countP_cons, beq_iff_eq]

theorem countOp_append (op : HostOp) (ms ns : List Move) :
    countOp op (ms ++ ns) = countOp op ms + countOp op ns := List.countP_append

theorem countOp_snoc (op : HostOp) (ms : List Move) (m : Move) :
    countOp op (ms ++ [m]) = countOp op ms + if m.op? = some op then 1 else 0 := by
  rw [countOp_append, countOp_cons, countOp_nil, Nat.zero_add]

theorem countOp_region (op : HostOp) (name : String) (failure : Option ExecutionError)
    (ms ns : List Move) :
    countOp op (.enter name :: (ms ++ .leave failure :: ns)) = countOp op ms + countOp op ns := by
  simp only [countOp_cons, countOp_append, Move.op?, reduceCtorEq, ↓reduceIte, Nat.add_zero]

namespace State

/-- Moves one after another, whether they fail or not. -/
def play : State → List Move → State
  | s, [] => s
  | s, m :: ms => (m.after s).play ms

theorem play_append (s : State) (ms ns : List Move) :
    s.play (ms ++ ns) = (s.play ms).play ns := by
  induction ms generalizing s with
  | nil => rfl
  | cons m ms ih => exact ih (m.after s)

/-- What every move keeps is kept by any number of them. -/
theorem play_preserves {P : State → Prop} (step : ∀ m s, P s → P (Move.after m s))
    {s : State} (h : P s) (ms : List Move) : P (s.play ms) := by
  induction ms generalizing s with
  | nil => exact h
  | cons m ms ih => exact ih (step m s h)

/-- No move fails. -/
def Unbroken : State → List Move → Prop
  | _, [] => True
  | s, m :: ms => m.fault? s = none ∧ (m.after s).Unbroken ms

theorem unbroken_append (s : State) (ms ns : List Move) :
    s.Unbroken (ms ++ ns) ↔ s.Unbroken ms ∧ (s.play ms).Unbroken ns := by
  induction ms generalizing s with
  | nil => exact (iff_of_eq (true_and _)).symm
  | cons m ms ih =>
    rw [List.cons_append, Unbroken, Unbroken, ih (m.after s), and_assoc]
    rfl

/-- Moves that do not all succeed have a first one that fails. -/
theorem unbroken_or_split (s : State) (ms : List Move) :
    s.Unbroken ms ∨ ∃ before m later e, ms = before ++ m :: later ∧ s.Unbroken before ∧
      m.fault? (s.play before) = some e := by
  induction ms generalizing s with
  | nil => exact .inl trivial
  | cons m ms ih =>
    cases hm : m.fault? s with
    | some e => exact .inr ⟨[], m, ms, e, rfl, trivial, hm⟩
    | none =>
      rcases ih (m.after s) with h | ⟨before, m', later, e, rfl, hb, he⟩
      · exact .inl ⟨hm, h⟩
      · exact .inr ⟨m :: before, m', later, e, rfl, ⟨hm, hb⟩, he⟩

end State

/-- The outcome of a body that ends with an answer. -/
def Outcome.ofAnswer {β : Type} : Except ExecutionError β → Outcome β
  | .ok b => .returned b
  | .error e => .failed e

namespace Program

/-- The moves that a program makes from a state on. A region whose body stops the guest
stays open. -/
def moves : {α : Type} → Program α → State → List Move
  | _, ret _, _ => []
  | _, fail _, _ => []
  | _, trap _, _ => []
  | _, call c next, s =>
    let (r, s') := c.perform s
    .call c :: (next r).moves s'
  | _, region name body next, s =>
    match s.openRegion name with
    | (.error e, s') => .enter name :: (next (.error e)).moves s'
    | (.ok (), s') =>
      .enter name :: (body.moves s' ++
        match body.run s' with
        | (.returned b, s'') => .leave none :: (next (.ok b)).moves (s''.closeRegion none)
        | (.failed e, s'') =>
          .leave (some e) :: (next (.error e)).moves (s''.closeRegion (some e))
        | (.trapped _, _) => [])

theorem run_call {α β : Type} (c : Call β) (next : Except ExecutionError β → Program α)
    (s : State) : (call c next).run s = (next (c.perform s).1).run (c.perform s).2 := rfl

theorem run_request_ok {β : Type} {c : Call β} {b : β} {s s' : State}
    (h : c.perform s = (.ok b, s')) : (request c).run s = (.returned b, s') := by
  rw [request, run_call, h]
  rfl

theorem run_request_error {β : Type} {c : Call β} {e : ExecutionError} {s s' : State}
    (h : c.perform s = (.error e, s')) : (request c).run s = (.failed e, s') := by
  rw [request, run_call, h]
  rfl

section Region

variable {α β : Type} {name : String} {body : Program β}
  {next : Except ExecutionError β → Program α} {s s' s'' : State}

/-- A region is refused, or its body ends with an answer, or its body stops the guest. -/
theorem region_cases (name : String) (body : Program β) (s : State) :
    (∃ e s', s.openRegion name = (.error e, s')) ∨
    (∃ s' r s'', s.openRegion name = (.ok (), s') ∧ body.run s' = (.ofAnswer r, s'')) ∨
    (∃ s' t s'', s.openRegion name = (.ok (), s') ∧ body.run s' = (.trapped t, s'')) := by
  cases ho : s.openRegion name with
  | mk r s' =>
    cases r with
    | error e => exact .inl ⟨e, s', rfl⟩
    | ok u =>
      cases hb : body.run s' with
      | mk o s'' =>
        cases o with
        | returned b => exact .inr (.inl ⟨s', .ok b, s'', rfl, hb⟩)
        | failed e => exact .inr (.inl ⟨s', .error e, s'', rfl, hb⟩)
        | trapped t => exact .inr (.inr ⟨s', t, s'', rfl, hb⟩)

theorem run_region_refused {e : ExecutionError} (ho : s.openRegion name = (.error e, s')) :
    (region name body next).run s = (next (.error e)).run s' := by
  rw [run, ho]

theorem run_region_answered {r : Except ExecutionError β}
    (ho : s.openRegion name = (.ok (), s')) (hb : body.run s' = (.ofAnswer r, s'')) :
    (region name body next).run s = (next r).run (s''.closeRegion (error? r)) := by
  rw [run, ho]
  cases r <;> simp only [hb] <;> rfl

theorem run_region_trapped {t : Trap} (ho : s.openRegion name = (.ok (), s'))
    (hb : body.run s' = (.trapped t, s'')) :
    (region name body next).run s = (.trapped t, s'') := by
  rw [run, ho]
  simp only [hb]

theorem moves_region_refused {e : ExecutionError} (ho : s.openRegion name = (.error e, s')) :
    (region name body next).moves s = .enter name :: (next (.error e)).moves s' := by
  rw [moves, ho]

theorem moves_region_answered {r : Except ExecutionError β}
    (ho : s.openRegion name = (.ok (), s')) (hb : body.run s' = (.ofAnswer r, s'')) :
    (region name body next).moves s = .enter name :: (body.moves s' ++
      .leave (error? r) :: (next r).moves (s''.closeRegion (error? r))) := by
  rw [moves, ho]
  cases r <;> simp only [hb] <;> rfl

theorem moves_region_trapped {t : Trap} (ho : s.openRegion name = (.ok (), s'))
    (hb : body.run s' = (.trapped t, s'')) :
    (region name body next).moves s = .enter name :: body.moves s' := by
  rw [moves, ho]
  simp only [hb, List.append_nil]

end Region

variable {α : Type}

/-- What follows a program runs from where it returned, and not at all if it did not return. -/
theorem run_bind {β : Type} (p : Program α) (f : α → Program β) (s : State) :
    (p >>= f).run s = match p.run s with
      | (.returned a, s') => (f a).run s'
      | (.failed e, s') => (.failed e, s')
      | (.trapped t, s') => (.trapped t, s') := by
  induction p generalizing s with
  | ret a => rfl
  | fail e => rfl
  | trap t => rfl
  | call c next ih => exact ih _ f _
  | region name body next ihb ih =>
    have parts : (region name body next >>= f) = region name body fun r => next r >>= f := rfl
    rw [parts]
    rcases region_cases name body s with ⟨e, s', ho⟩ | ⟨s', r, s'', ho, hb⟩ | ⟨s', t, s'', ho, hb⟩
    · rw [run_region_refused ho, run_region_refused ho]
      exact ih _ f s'
    · rw [run_region_answered ho hb, run_region_answered ho hb]
      exact ih r f _
    · rw [run_region_trapped ho hb, run_region_trapped ho hb]

theorem run_bind_returned {β : Type} {p : Program α} {f : α → Program β} {a : α} {s s' : State}
    (h : p.run s = (.returned a, s')) : (p >>= f).run s = (f a).run s' := by
  rw [run_bind, h]

theorem run_bind_failed {β : Type} {p : Program α} {f : α → Program β} {e : ExecutionError}
    {s s' : State} (h : p.run s = (.failed e, s')) : (p >>= f).run s = (.failed e, s') := by
  rw [run_bind, h]

theorem run_eq_play (p : Program α) (s : State) : (p.run s).2 = s.play (p.moves s) := by
  induction p generalizing s with
  | ret a => rfl
  | fail e => rfl
  | trap t => rfl
  | call c next ih => exact ih _ _
  | region name body next ihb ih =>
    rcases region_cases name body s with ⟨e, s', ho⟩ | ⟨s', r, s'', ho, hb⟩ | ⟨s', t, s'', ho, hb⟩
    · rw [run_region_refused ho, moves_region_refused ho, State.play, Move.after_enter ho]
      exact ih _ s'
    · have hp : s'' = s'.play (body.moves s') := by rw [← ihb, hb]
      rw [run_region_answered ho hb, moves_region_answered ho hb, State.play, Move.after_enter ho,
        State.play_append, ← hp]
      exact ih r _
    · rw [run_region_trapped ho hb, moves_region_trapped ho hb, State.play, Move.after_enter ho,
        ← ihb, hb]

theorem play_moves {p : Program α} {o : Outcome α} {s s' : State} (h : p.run s = (o, s')) :
    s.play (p.moves s) = s' := by
  rw [← run_eq_play, h]

/-- A region without a failing move has a value, and its parts have no failing move either. -/
theorem unbroken_region {β : Type} {name : String} {body : Program β}
    {next : Except ExecutionError β → Program α} {s s' s'' : State} {r : Except ExecutionError β}
    (ho : s.openRegion name = (.ok (), s')) (hb : body.run s' = (.ofAnswer r, s''))
    (unbroken : s.Unbroken ((region name body next).moves s)) :
    (∃ b, r = .ok b) ∧ s'.Unbroken (body.moves s') ∧
      (s''.closeRegion none).Unbroken ((next r).moves (s''.closeRegion none)) := by
  rw [moves_region_answered ho hb] at unbroken
  have inner := unbroken.2
  rw [Move.after_enter ho, State.unbroken_append, play_moves hb] at inner
  obtain ⟨hbody, hleave, hrest⟩ := inner
  cases r with
  | error e => cases hleave
  | ok b => exact ⟨⟨b, rfl⟩, hbody, hrest⟩

/-- What every move keeps is kept by every run. -/
theorem run_preserves {P : State → Prop} (step : ∀ m s, P s → P (Move.after m s))
    (p : Program α) {s : State} (h : P s) : P (p.run s).2 := by
  rw [run_eq_play]
  exact State.play_preserves step h _

end Program

end SealedRun
