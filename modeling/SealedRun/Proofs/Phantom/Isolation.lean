import SealedRun.Proofs.Run.FirstError
import SealedRun.Proofs.Run.Refusal

/-! Phantom regions are isolated. Whatever the body of a region tries, with regions of its own
and with errors passed on or passed over, the state behind the region differs from the state
before it in two counters and the terminal error. Two things carry this: while the body runs
its region stays open, and a move in an open region touches nothing else. -/
namespace SealedRun

/-- The names of the open regions, the innermost first. -/
def Sandbox.regions (s : Sandbox) : List String := s.frames.map Frame.region

/-- The regions that are open behind moves none of which fails, if `regions` were open before. -/
def regionsAfter : List String → List Move → List String
  | regions, [] => regions
  | regions, .call _ :: ms => regionsAfter regions ms
  | regions, .enter name :: ms => regionsAfter (name :: regions) ms
  | regions, .leave _ :: ms => regionsAfter regions.tail ms

namespace State

variable {s s' s'' : State}

/-- `P` holds before, between and behind the moves. -/
def Throughout (P : State → Prop) : State → List Move → Prop
  | s, [] => P s
  | s, m :: ms => P s ∧ (m.after s).Throughout P ms

section Throughout

variable {P : State → Prop}

theorem throughout_append (ms ns : List Move) :
    s.Throughout P (ms ++ ns) ↔ s.Throughout P ms ∧ (s.play ms).Throughout P ns := by
  induction ms generalizing s with
  | nil =>
    constructor
    · intro h
      cases ns with
      | nil => exact ⟨h, h⟩
      | cons n ns => exact ⟨h.1, h⟩
    · rintro ⟨-, h⟩
      exact h
  | cons m ms ih =>
    rw [List.cons_append, Throughout, Throughout, ih, and_assoc]
    rfl

theorem Throughout.start {ms : List Move} (h : s.Throughout P ms) : P s := by
  cases ms with
  | nil => exact h
  | cons m ms => exact h.1

theorem Throughout.middle {ms ns : List Move} (h : s.Throughout P (ms ++ ns)) : P (s.play ms) :=
  ((throughout_append ms ns).mp h).2.start

end Throughout

/-- `s'` differs from `s` at most in the counters of steps and loads, in the terminal error and
in the regions that are open. -/
def Untouched (s s' : State) : Prop :=
  ∃ step loads terminal sandbox,
    s' = { s with step, terminal, sandbox, memory := { s.memory with loads } }

theorem Untouched.refl (s : State) : s.Untouched s :=
  ⟨s.step, s.memory.loads, s.terminal, s.sandbox, rfl⟩

theorem Untouched.trans (h : s.Untouched s') (h' : s'.Untouched s'') : s.Untouched s'' := by
  obtain ⟨_, _, _, _, rfl⟩ := h
  obtain ⟨step, loads, terminal, sandbox, rfl⟩ := h'
  exact ⟨step, loads, terminal, sandbox, rfl⟩

theorem perform_inside_untouched {β : Type} (c : Call β) (level : s.Level)
    (inside : s.sandbox.frames ≠ []) : s.Untouched (c.perform s).2 := by
  obtain ⟨f, fs, hf⟩ := List.exists_cons_of_ne_nil inside
  cases ht : s.terminal with
  | some e =>
    rw [perform_ended ht]
    exact .refl s
  | none =>
    rcases perform_running ht level c with ⟨e, hp⟩ | ⟨r, s', hp, hd⟩
    · rw [hp, Call.refused, tally_inside hf]
      exact ⟨s.step + 1, s.memory.loads, some e, s.sandbox, rfl⟩
    · rw [hp]
      cases hd with
      | peek _ => exact ⟨s.step + 1, s.memory.loads + 1, s.terminal, s.sandbox, rfl⟩
      | _ => exact absurd ‹_› inside

/-- In an open region a move counts and may end the run, and that is all. -/
theorem after_untouched (m : Move) (level : s.Level) (inside : s.sandbox.frames ≠ []) :
    s.Untouched (m.after s) := by
  cases m with
  | call c => exact perform_inside_untouched c level inside
  | enter name =>
    obtain ⟨terminal, sandbox, hs⟩ := after_boundary level (m := .enter name) rfl
    exact ⟨s.step, s.memory.loads, terminal, sandbox, hs⟩
  | leave failure =>
    obtain ⟨terminal, sandbox, hs⟩ := after_boundary level (m := .leave failure) rfl
    exact ⟨s.step, s.memory.loads, terminal, sandbox, hs⟩

theorem play_untouched {ms : List Move} {outer : List Frame} (level : s.Level)
    (some_open : outer ≠ []) (within : s.Throughout (fun t => outer <:+ t.sandbox.frames) ms) :
    s.Untouched (s.play ms) := by
  induction ms generalizing s with
  | nil => exact .refl s
  | cons m ms ih =>
    have inside := within.1.ne_nil some_open
    exact (after_untouched m level inside).trans (ih (after_level m s level) within.2)

theorem perform_level {β : Type} (c : Call β) (level : s.Level) : (c.perform s).2.Level :=
  after_level (.call c) s level

theorem perform_sandbox {β : Type} (c : Call β) (level : s.Level) :
    (c.perform s).2.sandbox = s.sandbox := by
  cases ht : s.terminal with
  | some e => rw [perform_ended ht]
  | none =>
    rcases perform_running ht level c with ⟨e, hp⟩ | ⟨r, s', hp, hd⟩
    · rw [hp]
      rfl
    · rw [hp]
      exact hd.sandbox

theorem openRegion_refused {name : String} {e : ExecutionError} (level : s.Level)
    (h : s.openRegion name = (.error e, s')) : s'.sandbox = s.sandbox := by
  cases ht : s.terminal with
  | some e' =>
    rw [openRegion_ended ht] at h
    cases h
    rfl
  | none =>
    rw [openRegion_running ht level] at h
    cases hc : s.registry.checkTarget name with
    | error e' => rw [hc] at h; cases h; rfl
    | ok u => rw [hc] at h; cases h

theorem openRegion_level {name : String} {r : Except ExecutionError Unit} (level : s.Level)
    (h : s.openRegion name = (r, s')) : s'.Level := by
  have := after_level (.enter name) s level
  rwa [Move.after, h] at this

theorem openRegion_within {name : String} (h : s.openRegion name = (.ok (), s')) :
    s.sandbox.frames <:+ s'.sandbox.frames := by
  rw [(openRegion_ok h).1]
  exact List.suffix_cons _ _

/-- The end of a region leaves those open that were open before it. -/
theorem closeRegion_opened_sandbox {name : String} (level : s''.Level)
    (opened : s.openRegion name = (.ok (), s')) (same : s''.sandbox = s'.sandbox)
    (failure : Option ExecutionError) : (s''.closeRegion failure).sandbox = s.sandbox := by
  rw [closeRegion_level level, same, (openRegion_ok opened).1]
  rfl

theorem after_running {m : Move} (running : s.terminal = none) (level : s.Level)
    (h : m.fault? s = none) : (m.after s).terminal = none :=
  @Unbroken.running s [m] running level ⟨h, trivial⟩

/-- As long as no move fails, the open regions are read off the moves. -/
theorem play_regions {ms : List Move} (running : s.terminal = none) (level : s.Level)
    (unbroken : s.Unbroken ms) :
    (s.play ms).sandbox.regions = regionsAfter s.sandbox.regions ms := by
  induction ms generalizing s with
  | nil => rfl
  | cons m ms ih =>
    rw [State.play, ih (after_running running level unbroken.1) (after_level m s level) unbroken.2]
    cases m with
    | call c => rw [Move.after, perform_sandbox c level, regionsAfter]
    | enter name =>
      have h := unbroken.1
      rw [Move.fault?, openRegion_running running level] at h
      rw [Move.after, openRegion_running running level, regionsAfter]
      cases hc : s.registry.checkTarget name with
      | error e =>
        rw [hc] at h
        cases h
      | ok u => rfl
    | leave failure =>
      rw [Move.after, closeRegion_level level, regionsAfter]
      congr 1
      unfold Sandbox.pop Sandbox.regions
      cases hf : s.sandbox.frames <;> simp [hf]

end State

namespace Program

open State

variable {α : Type}

theorem run_level {p : Program α} {o : Outcome α} {s s' : State} (level : s.Level)
    (h : p.run s = (o, s')) : s'.Level := by
  have := run_preserves after_level p level
  rwa [h] at this

/-- A program that ends with an answer has closed every region that it opened. -/
theorem run_sandbox (p : Program α) {r : Except ExecutionError α} {s s' : State} (level : s.Level)
    (ended : p.run s = (.ofAnswer r, s')) : s'.sandbox = s.sandbox := by
  induction p generalizing s s' with
  | ret a => exact congrArg (fun o => o.2.sandbox) ended.symm
  | fail e => exact congrArg (fun o => o.2.sandbox) ended.symm
  | trap t => exact congrArg (fun o => o.2.sandbox) ended.symm
  | call c next ih =>
    rw [run_call] at ended
    rw [ih _ (perform_level c level) ended, perform_sandbox c level]
  | region name body next ihb ih =>
    rcases region_cases name body s with ⟨e, t, ho⟩ | ⟨t, a, t', ho, hb⟩ | ⟨t, x, t', ho, hb⟩
    · rw [run_region_refused ho] at ended
      rw [ih _ (openRegion_level level ho) ended, openRegion_refused level ho]
    · have level' := openRegion_level level ho
      have level'' := run_level level' hb
      rw [run_region_answered ho hb] at ended
      rw [ih _ (after_level (.leave _) t' level'') ended]
      exact closeRegion_opened_sandbox level'' ho (ihb level' hb) _
    · rw [run_region_trapped ho hb] at ended
      cases r <;> cases ended

/-- The regions that are open when a program starts are open until it ends. -/
theorem moves_within (p : Program α) {s : State} {outer : List Frame} (level : s.Level)
    (within : outer <:+ s.sandbox.frames) :
    s.Throughout (fun t => outer <:+ t.sandbox.frames) (p.moves s) := by
  induction p generalizing s with
  | ret a => exact within
  | fail e => exact within
  | trap t => exact within
  | call c next ih =>
    refine ⟨within, ih _ (perform_level c level) ?_⟩
    rw [Move.after, perform_sandbox c level]
    exact within
  | region name body next ihb ih =>
    rcases region_cases name body s with ⟨e, s', ho⟩ | ⟨s', a, s'', ho, hb⟩ | ⟨s', t, s'', ho, hb⟩
    · rw [moves_region_refused ho]
      refine ⟨within, ?_⟩
      rw [Move.after_enter ho]
      exact ih _ (openRegion_level level ho) (openRegion_refused level ho ▸ within)
    · have level' := openRegion_level level ho
      have level'' := run_level level' hb
      have within' := within.trans (openRegion_within ho)
      have same := run_sandbox body level' hb
      rw [moves_region_answered ho hb]
      refine ⟨within, ?_⟩
      rw [Move.after_enter ho, throughout_append, play_moves hb]
      refine ⟨ihb level' within', ?_, ih _ (after_level (.leave _) s'' level'') ?_⟩
      · show outer <:+ s''.sandbox.frames
        rw [same]
        exact within'
      · rw [Move.after, closeRegion_opened_sandbox level'' ho same]
        exact within
    · rw [moves_region_trapped ho hb]
      refine ⟨within, ?_⟩
      rw [Move.after_enter ho]
      exact ihb (openRegion_level level ho) (within.trans (openRegion_within ho))

end Program

section Region

open State

variable {β : Type} {name : String} {body : Program β} {r : Except ExecutionError β}
  {s s' t : State}

/-- A region that returned was opened, its body ran to an answer, and it was closed. -/
theorem region_returned (running : s.terminal = none) (level : s.Level)
    (designated : s.registry.checkTarget name = .ok ())
    (returned : (Program.region name body .ret).run s = (.returned r, s')) :
    ∃ t, s.openRegion name = (.ok (), t) ∧
      body.run t = (.ofAnswer r, t.play (body.moves t)) ∧
      s' = (t.play (body.moves t)).closeRegion (error? r) := by
  rcases Program.region_cases name body s with ⟨e, t, ho⟩ | ⟨t, a, t', ho, hb⟩ | ⟨t, x, t', ho, hb⟩
  · rw [openRegion_running running level, designated] at ho
    cases ho
  · have hp := Program.play_moves hb
    rw [Program.run_region_answered ho hb] at returned
    cases returned
    refine ⟨t, ho, ?_, ?_⟩
    · rw [hp, hb]
    · rw [hp]
  · rw [Program.run_region_trapped ho hb] at returned
    cases returned

/-- What a region changes, from before it is opened until it is closed. -/
theorem region_untouched (level : s.Level) (opened : s.openRegion name = (.ok (), t))
    (ended : body.run t = (.ofAnswer r, t.play (body.moves t)))
    (failure : Option ExecutionError) :
    ∃ step loads terminal, (t.play (body.moves t)).closeRegion failure =
      { s with step, terminal, memory := { s.memory with loads } } := by
  have level' := openRegion_level level opened
  have level'' := Program.run_level level' ended
  have begun : s.Untouched t := by
    rw [(openRegion_ok opened).1]
    exact ⟨s.step, s.memory.loads, s.terminal, _, rfl⟩
  have ran : t.Untouched (t.play (body.moves t)) :=
    play_untouched level' (openRegion_ok opened).2.2
      (Program.moves_within body level' List.suffix_rfl)
  have closed : (t.play (body.moves t)).Untouched ((t.play (body.moves t)).closeRegion failure) := by
    obtain ⟨terminal, sandbox, h⟩ := after_boundary level'' (m := .leave failure) rfl
    exact ⟨_, _, terminal, sandbox, h⟩
  have same := closeRegion_opened_sandbox level'' opened
    (Program.run_sandbox body level' ended) failure
  obtain ⟨step, loads, terminal, sandbox, h⟩ := (begun.trans ran).trans closed
  rw [h] at same
  obtain rfl : sandbox = s.sandbox := same
  exact ⟨step, loads, terminal, h⟩

/-- A call that fails while regions are open fails in the name of the innermost one. -/
theorem fault_inside {γ : Type} {c : Call γ} {e : ExecutionError} (running : s.terminal = none)
    (level : s.Level) (inside : s.sandbox.frames ≠ [])
    (fault : (Move.call c).fault? s = some e) :
    c.op ≠ .memoryLoad ∧ ∃ region outer, s.sandbox.regions = region :: outer ∧
      e = .phantomViolation region c.op := by
  cases perform_refused running level fault with
  | @inside γ c s f fs hf traced =>
    refine ⟨traced, f.region, fs.map Frame.region, ?_, rfl⟩
    rw [Sandbox.regions, hf, List.map_cons]
  | _ => exact absurd ‹_› inside

end Region

/-- For every region that is opened in a running state and comes back with an answer, however
its body went about it: behind it only the counters of steps and loads and the terminal error
may differ from before; the run has ended just if a move of the body failed or the body gave an
error; and if a call was the first to fail, then the run has ended with the violation of the
region that was the innermost one at that call. -/
theorem region_isolated {segmentId : UInt32} {position : Position} {slots : Slots}
    {registry : Registry} {input : SegmentInput} {context : List Word} {s₀ : State}
    (start : State.start segmentId position slots registry input context = .returned s₀)
    (ms : List Move) {β : Type} {name : String} {body : Program β} {r : Except ExecutionError β}
    {s' : State} (running : (s₀.play ms).terminal = none)
    (designated : (s₀.play ms).registry.checkTarget name = .ok ())
    (returned : (Program.region name body .ret).run (s₀.play ms) = (.returned r, s')) :
    let s := s₀.play ms
    let opened := (s.openRegion name).2
    let inside := body.moves opened
    (∃ step loads terminal, s' = { s with step, terminal, memory := { s.memory with loads } }) ∧
    (s'.terminal = none ↔ opened.Unbroken inside ∧ error? r = none) ∧
    ∀ before later e, ∀ {γ : Type} (c : Call γ), inside = before ++ .call c :: later →
      opened.Unbroken before → (Move.call c).fault? (opened.play before) = some e →
      c.op ≠ .memoryLoad ∧ ∃ region outer,
        regionsAfter (name :: s.sandbox.regions) before = region :: outer ∧
        s'.terminal = some (.phantomViolation region c.op) := by
  intro s opened inside
  have level : s.Level := State.play_preserves State.after_level (State.start_sound start).level ms
  obtain ⟨t, ho, ended, rfl⟩ := region_returned running level designated returned
  obtain rfl : opened = t := Move.after_enter ho
  obtain ⟨hopened, running', -⟩ := State.openRegion_ok ho
  have level' := State.openRegion_level level ho
  have level'' := Program.run_level level' ended
  have closed : ((opened.play inside).closeRegion (error? r)).terminal =
      ((opened.play inside).terminal <|> error? r) := by
    rw [State.closeRegion_level level'']
  refine ⟨region_untouched level ho ended _, ?_, ?_⟩
  · rw [closed]
    constructor
    · intro h
      cases ht : (opened.play inside).terminal with
      | some e =>
        rw [ht] at h
        cases h
      | none =>
        rw [ht] at h
        exact ⟨State.unbroken_of_running level' ht, h⟩
    · rintro ⟨unbroken, h⟩
      rw [unbroken.running running' level', h]
      rfl
  · intro before later e γ c split unbroken fault
    have running'' := unbroken.running running' level'
    have levelc : (opened.play before).Level := State.play_preserves State.after_level level' before
    have within := Program.moves_within body level' List.suffix_rfl
    rw [show body.moves opened = before ++ .call c :: later from split] at within
    obtain ⟨traced, region, outer, regions, rfl⟩ :=
      fault_inside running'' levelc (within.middle.ne_nil (State.openRegion_ok ho).2.2) fault
    refine ⟨traced, region, outer, ?_, ?_⟩
    · rw [← regions, State.play_regions running' level' unbroken, hopened]
      rfl
    · have ended' : ((Move.call c).after (opened.play before)).terminal =
          some (.phantomViolation region c.op) := by
        rw [State.after_fault running'' levelc fault, State.halted_terminal]
      rw [closed, split, State.play_append, State.play,
        State.play_ended ended' (State.after_level _ _ levelc)]
      rfl

/-- Publishes a word in a region of its own, stores another one and ends as if nothing was. -/
def meddling : Program Word :=
  .region "peek" (.call (.load 3) fun _ => .call (.output 5) fun _ => .ret ()) fun _ =>
    .call (.store 3 9) fun _ => .ret 7

/-- The word is not published, the memory stays as it was, and the run has ended with the
violation of the inner region, although the outer one has a value. -/
theorem region_isolated_meddling :
    let registry := ((Registry.empty fun _ => true).enter ⟨"search", false⟩).enter ⟨"peek", false⟩
    let ms : List Move := [.call .readContext, .call (.store 3 5)]
    ∃ s₀ s', State.start 0 .only ⟨1, 0⟩ registry ⟨[], []⟩ [7] = .returned s₀ ∧
      (s₀.play ms).terminal = none ∧ (s₀.play ms).registry.checkTarget "search" = .ok () ∧
      (Program.region "search" meddling .ret).run (s₀.play ms) = (.returned (.ok 7), s') ∧
      s'.outputs = [] ∧ s'.memory.image = (s₀.play ms).memory.image ∧
      s'.terminal = some (.phantomViolation "peek" .wasmOutput) := by
  intro registry ms
  obtain ⟨s₀, start⟩ : ∃ s₀, State.start 0 .only ⟨1, 0⟩ registry ⟨[], []⟩ [7] = .returned s₀ :=
    ⟨_, rfl⟩
  obtain ⟨s', running, designated, returned, untouched⟩ : ∃ s', (s₀.play ms).terminal = none ∧
      (s₀.play ms).registry.checkTarget "search" = .ok () ∧
      (Program.region "search" meddling .ret).run (s₀.play ms) = (.returned (.ok 7), s') ∧
      (s₀.play ms).outputs = [] := by
    cases start
    exact ⟨_, rfl, rfl, rfl, rfl⟩
  obtain ⟨⟨step, loads, terminal, h⟩, -, first⟩ := region_isolated start ms running designated returned
  refine ⟨s₀, s', start, running, designated, returned, ?_, ?_, ?_⟩
  · rw [h]
    exact untouched
  · rw [h]
  · obtain ⟨-, region, outer, stack, ended⟩ := first [.enter "peek", .call (.load 3)]
      [.leave none, .call (.store 3 9)] (.phantomViolation "peek" .wasmOutput) (.output 5)
      (by cases start; rfl) (by cases start; exact ⟨rfl, rfl, trivial⟩) (by cases start; rfl)
    cases stack
    exact ended

end SealedRun
