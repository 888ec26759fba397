import SealedRun.Proofs.Run.Gate
import SealedRun.Segment.Basic

/-! Phantom regions are transparent. A region whose body ends well leaves two counters
behind and nothing else, and no operation looks at these counters; so a guest that is given
the value of the region instead of the region runs the same way. -/
namespace SealedRun

namespace State

/-- The state with `k` more loads on its counters. -/
def afterLoads (s : State) (k : Nat) : State :=
  { s with step := s.step + k, memory := { s.memory with loads := s.memory.loads + k } }

variable {β : Type} {s : State}

theorem afterLoads_add (s : State) (j k : Nat) :
    (s.afterLoads j).afterLoads k = s.afterLoads (j + k) := by
  simp only [afterLoads, Nat.add_assoc]

/-- The operation does not see how many loads went before it. -/
def Blind (act : State → Answer β) : Prop :=
  ∀ s k, act (s.afterLoads k) = ((act s).1, (act s).2.afterLoads k)

theorem refuse_blind (e : ExecutionError) : Blind (β := β) (refuse · e) := by
  intro s k
  rfl

theorem record_afterLoads (s : State) (k : Nat) (op : HostOp) (args : List Word)
    (ret : Option Word) :
    (s.afterLoads k).record op args ret = (s.record op args ret).afterLoads k := by
  have hs : (s.afterLoads k).sandbox = s.sandbox := rfl
  rw [record, record, hs]
  cases s.sandbox.isOpen <;> rfl

theorem consume_afterLoads (v : Visibility) (s : State) (k : Nat) (w : Word) :
    consume v (s.afterLoads k) w = (consume v s w).afterLoads k := by
  cases v with
  | pub => exact record_afterLoads { s with instanceWords := s.instanceWords ++ [w] } k _ _ _
  | priv => exact record_afterLoads s k _ _ _

theorem foldl_consume_afterLoads (v : Visibility) (ws : List Word) (s : State) (k : Nat) :
    ws.foldl (consume v) (s.afterLoads k) = (ws.foldl (consume v) s).afterLoads k := by
  induction ws generalizing s with
  | nil => rfl
  | cons w ws ih => rw [List.foldl_cons, List.foldl_cons, consume_afterLoads, ih]

/-- The gate counts on top of whatever was counted before. -/
theorem enter_blind (op : HostOp) {act : State → Answer β} (h : Blind act) :
    Blind fun s => s.enter op act := by
  intro s k
  show (s.afterLoads k).enter op act = ((s.enter op act).1, (s.enter op act).2.afterLoads k)
  cases ht : s.terminal with
  | some e => rw [enter_ended ht, enter_ended (s := s.afterLoads k) ht]
  | none =>
    have hs : { s.afterLoads k with step := (s.afterLoads k).step + 1 } =
        { s with step := s.step + 1 }.afterLoads k := by
      simp only [afterLoads, Nat.add_right_comm s.step]
    have hc : (s.afterLoads k).sandbox.check op = s.sandbox.check op := rfl
    rw [enter_running ht, enter_running (s := s.afterLoads k) ht, hs, hc]
    cases s.sandbox.check op with
    | error e => exact refuse_blind e _ k
    | ok u => exact h _ k

theorem readInput_blind (v : Visibility) : Blind (readInput v) := by
  refine enter_blind _ fun s k => ?_
  have ht : (s.afterLoads k).tapes = s.tapes := rfl
  rw [ht]
  cases s.tapes.read v with
  | error e => rfl
  | ok r => exact Prod.ext rfl (consume_afterLoads v { s with tapes := r.2 } k r.1)

theorem readBytes_blind (v : Visibility) (n : Nat) : Blind (readBytes v n) := by
  refine enter_blind _ fun s k => ?_
  have ht : (s.afterLoads k).tapes = s.tapes := rfl
  rw [ht]
  cases s.tapes.readWords v (wordsFor n) with
  | error e => rfl
  | ok r => exact Prod.ext rfl (foldl_consume_afterLoads v r.1 { s with tapes := r.2 } k)

theorem writeOutput_blind (w : Word) : Blind (writeOutput w) :=
  enter_blind _ fun s k => Prod.ext rfl (record_afterLoads { s with
    instanceWords := s.instanceWords ++ [w]
    outputs := s.outputs ++ [w] } k _ _ _)

theorem require_blind (holds : Bool) : Blind (State.require holds) := by
  refine enter_blind _ fun s k => ?_
  cases holds with
  | false => rfl
  | true =>
    exact Prod.ext rfl (record_afterLoads { s with
      constraints := s.constraints.require true } k _ _ _)

theorem readContext_blind : Blind readContext := by
  refine enter_blind _ fun s k => ?_
  have hc : (s.afterLoads k).context = s.context := rfl
  rw [hc]
  cases s.context.read with
  | error e => rfl
  | ok r => exact Prod.ext rfl (record_afterLoads { s with context := r.2 } k _ _ _)

theorem writeContext_blind (w : Word) : Blind (writeContext w) := by
  refine enter_blind _ fun s k => ?_
  have hc : (s.afterLoads k).context = s.context := rfl
  rw [hc]
  cases s.context.write w with
  | error e => rfl
  | ok context => exact Prod.ext rfl (record_afterLoads { s with context } k _ _ _)

theorem load_blind (addr : UInt32) : Blind (load addr) := by
  intro s k
  cases ht : s.terminal with
  | some e => rw [load, load, ht, show (s.afterLoads k).terminal = some e from ht]
  | none =>
    have hs : { s.afterLoads k with
        step := (s.afterLoads k).step + 1
        memory := ((s.afterLoads k).memory.load addr).2 } =
        { s with step := s.step + 1, memory := (s.memory.load addr).2 }.afterLoads k := by
      simp only [afterLoads, Memory.load, Nat.add_right_comm]
    rw [load_running ht, load_running (s := s.afterLoads k) ht, hs, record_afterLoads]
    rfl

theorem store_blind (addr : UInt32) (w : Word) : Blind (store addr w) :=
  enter_blind _ fun s k => Prod.ext rfl (record_afterLoads { s with
    memory := s.memory.store addr w } k _ _ _)

theorem logWord_blind (w : Word) : Blind (logWord w) :=
  enter_blind _ fun s k => Prod.ext rfl (record_afterLoads s k _ _ _)

theorem perform_blind (c : Call β) : Blind c.perform := by
  cases c with
  | input v => exact readInput_blind v
  | readBytes v n => exact readBytes_blind v n
  | output w => exact writeOutput_blind w
  | require holds => exact require_blind holds
  | readContext => exact readContext_blind
  | writeContext w => exact writeContext_blind w
  | load addr => exact load_blind addr
  | store addr w => exact store_blind addr w
  | log w => exact logWord_blind w

theorem openRegion_blind (name : String) : Blind (openRegion name) := by
  intro s k
  have ht : (s.afterLoads k).terminal = s.terminal := rfl
  have hr : (s.afterLoads k).registry = s.registry := rfl
  rw [openRegion, openRegion, ht, hr]
  cases s.terminal with
  | some e => rfl
  | none => cases s.registry.checkTarget name <;> rfl

theorem closeRegion_afterLoads (failure : Option ExecutionError) (s : State) (k : Nat) :
    (s.afterLoads k).closeRegion failure = (s.closeRegion failure).afterLoads k := by
  cases failure <;> rfl

end State

namespace Program

/-- Loads made before a run do not show in it. -/
theorem run_blind {α : Type} (p : Program α) (s : State) (k : Nat) :
    p.run (s.afterLoads k) = ((p.run s).1, (p.run s).2.afterLoads k) := by
  induction p generalizing s with
  | ret a => rfl
  | fail e => rfl
  | trap t => rfl
  | call c next ih =>
    rw [run, run, State.perform_blind c s k]
    exact ih _ _
  | region name body next ihb ih =>
    have ho := State.openRegion_blind name s k
    rcases region_cases name body s with ⟨e, s', h⟩ | ⟨s', r, s'', h, hb⟩ | ⟨s', t, s'', h, hb⟩
    · rw [h] at ho
      rw [run_region_refused h, run_region_refused ho, ih]
    · rw [h] at ho
      have hb' := ihb s'
      rw [hb] at hb'
      rw [run_region_answered h hb, run_region_answered ho hb', State.closeRegion_afterLoads, ih]
    · rw [h] at ho
      have hb' := ihb s'
      rw [hb] at hb'
      rw [run_region_trapped h hb, run_region_trapped ho hb']

end Program

namespace State

variable {α β : Type} {s s' s'' : State}

/-- Inside a region a call that does not fail is a load. -/
theorem perform_unfailing (running : s.terminal = none) (inside : s.sandbox.frames ≠ [])
    {c : Call β} (h : error? (c.perform s).1 = none) :
    c.op = .memoryLoad ∧ (c.perform s).2 = s.afterLoads 1 := by
  obtain ⟨f, fs, hf⟩ := List.exists_cons_of_ne_nil inside
  cases c with
  | load addr =>
    refine ⟨rfl, ?_⟩
    rw [Call.perform, load_inside running hf]
    rfl
  | _ =>
    simp only [Call.perform, readInput, readBytes, writeOutput, require, readContext,
      writeContext, store, logWord, enter_inside running hf] at h
    cases h

/-- A region whose body only loaded leaves nothing but the loads. -/
theorem closeRegion_opened {name : String} (h : s.openRegion name = (.ok (), s')) (k : Nat) :
    (s'.afterLoads k).closeRegion none = s.afterLoads k := by
  obtain ⟨rfl, -⟩ := openRegion_ok h
  rfl

end State

namespace Program

/-- A body that ends inside a region without a failing move has only loaded. -/
theorem run_unbroken {α : Type} (p : Program α) {s : State} {r : Except ExecutionError α}
    (running : s.terminal = none) (inside : s.sandbox.frames ≠ [])
    (unbroken : s.Unbroken (p.moves s)) (ended : (p.run s).1 = .ofAnswer r) :
    (p.run s).2 = s.afterLoads (countOp .memoryLoad (p.moves s)) := by
  induction p generalizing s with
  | ret a => rfl
  | fail e => rfl
  | trap t => cases r <;> cases ended
  | call c next ih =>
    obtain ⟨hop, hs⟩ := State.perform_unfailing running inside unbroken.1
    have later : (c.perform s).2.Unbroken ((next (c.perform s).1).moves (c.perform s).2) :=
      unbroken.2
    change ((next (c.perform s).1).run (c.perform s).2).1 = _ at ended
    change ((next (c.perform s).1).run (c.perform s).2).2 = s.afterLoads (countOp .memoryLoad
      (.call c :: (next (c.perform s).1).moves (c.perform s).2))
    rw [hs] at later ended ⊢
    rw [ih (c.perform s).1 (s := s.afterLoads 1) running inside later ended,
      State.afterLoads_add, countOp_cons, Move.op?, hop, if_pos rfl, Nat.add_comm 1]
  | region name body next ihb ih =>
    rcases region_cases name body s with ⟨e, s', ho⟩ | ⟨s', a, s'', ho, hb⟩ | ⟨s', t, s'', ho, hb⟩
    · rw [moves_region_refused ho] at unbroken
      have fault : error? (s.openRegion name).1 = none := unbroken.1
      rw [ho] at fault
      cases fault
    · obtain ⟨⟨b, rfl⟩, hbody, hrest⟩ := unbroken_region ho hb unbroken
      obtain ⟨-, running', inside'⟩ := State.openRegion_ok ho
      have loaded := ihb running' inside' hbody (r := .ok b) (by rw [hb])
      rw [hb] at loaded
      simp only at loaded
      rw [run_region_answered ho hb] at ended ⊢
      rw [moves_region_answered ho hb, countOp_region]
      change ((next (.ok b)).run (s''.closeRegion none)).2 = s.afterLoads (_ +
        countOp .memoryLoad ((next (.ok b)).moves (s''.closeRegion none)))
      change ((next (.ok b)).run (s''.closeRegion none)).1 = _ at ended
      rw [loaded, State.closeRegion_opened ho] at hrest ended ⊢
      rw [ih (.ok b) (s := s.afterLoads _) running inside hrest ended, State.afterLoads_add]
    · rw [run_region_trapped ho hb] at ended
      cases r <;> cases ended

/-- What a region without a failing move comes to, seen from outside. -/
theorem closeRegion_unbroken {β : Type} {name : String} {body : Program β} {s s' s'' : State}
    {b : β} (opened : s.openRegion name = (.ok (), s'))
    (unbroken : s'.Unbroken (body.moves s')) (ended : body.run s' = (.returned b, s'')) :
    s''.closeRegion none = s.afterLoads (countOp .memoryLoad (body.moves s')) := by
  obtain ⟨-, running, inside⟩ := State.openRegion_ok opened
  have loaded := run_unbroken body running inside unbroken (r := .ok b) (by rw [ended]; rfl)
  rw [ended] at loaded
  rw [← State.closeRegion_opened opened, ← loaded]

/-- From the state on, the second program does what the first one does, except that it is given
the values of some regions instead of the regions: of regions that the run opens and whose
bodies return without a failing move, so that they consist of loads, regions of the same kind
and pure steps. The number counts the loads that are left out with them. -/
inductive Pruned : {α : Type} → State → Program α → Program α → Nat → Prop
  | same {α : Type} {s : State} {p : Program α} : Pruned s p p 0
  | call {α β : Type} {s : State} {c : Call β} {next next' : Except ExecutionError β → Program α}
      {n : Nat} (rest : Pruned (c.perform s).2 (next (c.perform s).1) (next' (c.perform s).1) n) :
      Pruned s (.call c next) (.call c next') n
  | refused {α β : Type} {s s' : State} {name : String} {body body' : Program β}
      {next next' : Except ExecutionError β → Program α} {e : ExecutionError} {n : Nat}
      (opened : s.openRegion name = (.error e, s'))
      (rest : Pruned s' (next (.error e)) (next' (.error e)) n) :
      Pruned s (.region name body next) (.region name body' next') n
  | kept {α β : Type} {s s' s'' : State} {name : String} {body body' : Program β}
      {next next' : Except ExecutionError β → Program α} {r : Except ExecutionError β} {m n : Nat}
      (opened : s.openRegion name = (.ok (), s')) (inner : Pruned s' body body' m)
      (ended : body.run s' = (.ofAnswer r, s''))
      (rest : Pruned (s''.closeRegion (error? r)) (next r) (next' r) n) :
      Pruned s (.region name body next) (.region name body' next') (m + n)
  | trapped {α β : Type} {s s' s'' : State} {name : String} {body body' : Program β}
      {next next' : Except ExecutionError β → Program α} {t : Trap} {n : Nat}
      (opened : s.openRegion name = (.ok (), s')) (inner : Pruned s' body body' n)
      (ended : body.run s' = (.trapped t, s'')) :
      Pruned s (.region name body next) (.region name body' next') n
  | replaced {α β : Type} {s s' s'' : State} {name : String} {body : Program β}
      {next : Except ExecutionError β → Program α} {p : Program α} {b : β} {n : Nat}
      (opened : s.openRegion name = (.ok (), s')) (unbroken : s'.Unbroken (body.moves s'))
      (ended : body.run s' = (.returned b, s''))
      (rest : Pruned (s''.closeRegion none) (next (.ok b)) p n) :
      Pruned s (.region name body next) p (countOp .memoryLoad (body.moves s') + n)

theorem Pruned.run_eq {α : Type} {s : State} {p p' : Program α} {n : Nat}
    (h : Pruned s p p' n) : p.run s = ((p'.run s).1, (p'.run s).2.afterLoads n) := by
  induction h with
  | same => rfl
  | call rest ih => exact ih
  | refused opened rest ih => rw [run_region_refused opened, run_region_refused opened, ih]
  | @kept α β s s' s'' name body body' next next' r m n opened inner ended rest ihb ih =>
    rw [ended] at ihb
    obtain ⟨ho, hs⟩ := Prod.mk.inj ihb
    have ended' : body'.run s' = (.ofAnswer r, (body'.run s').2) := Prod.ext ho.symm rfl
    rw [run_region_answered opened ended, ih, hs, State.closeRegion_afterLoads, run_blind,
      run_region_answered opened ended', State.afterLoads_add]
  | @trapped α β s s' s'' name body body' next next' t n opened inner ended ihb =>
    rw [ended] at ihb
    obtain ⟨ho, hs⟩ := Prod.mk.inj ihb
    have ended' : body'.run s' = (.trapped t, (body'.run s').2) := Prod.ext ho.symm rfl
    rw [run_region_trapped opened ended, run_region_trapped opened ended', hs]
  | @replaced α β s s' s'' name body next p b n opened unbroken ended rest ih =>
    have ended' : body.run s' = (.ofAnswer (.ok b), s'') := ended
    rw [run_region_answered opened ended']
    show (next (.ok b)).run (s''.closeRegion none) = _
    rw [ih, closeRegion_unbroken opened unbroken ended, run_blind, State.afterLoads_add]

end Program

namespace State

theorem seal_afterLoads (s : State) (k : Nat) (output : Bytes) (digest : Digest) :
    (s.afterLoads k).seal output digest = (s.seal output digest).map fun seg =>
      { seg with step := seg.step + UInt64.ofNat k } := by
  have ht : (s.afterLoads k).terminal = s.terminal := rfl
  have hv : (s.afterLoads k).constraints.violatedAt = s.constraints.violatedAt := rfl
  have hc : (s.afterLoads k).context.finalize = s.context.finalize := rfl
  have hn : UInt64.ofNat (s.afterLoads k).step = UInt64.ofNat s.step + UInt64.ofNat k :=
    UInt64.ofNat_add s.step k
  rw [State.seal, State.seal, ht, hv, hc, hn]
  cases s.terminal with
  | some e => rfl
  | none =>
    cases s.constraints.violatedAt with
    | some site => rfl
    | none => cases s.context.finalize <;> rfl

end State

/-- A guest that is given the values of regions instead of the regions ends with the same
outcome, and sealing fails for both with the same error or gives both the same segment, up to
the steps for the loads that were left out. -/
theorem phantom_regions_transparent {α : Type} {s : State} {p p' : Program α} {n : Nat}
    (pruned : Program.Pruned s p p' n) :
    (p.run s).1 = (p'.run s).1 ∧
    (p.run s).2 = (p'.run s).2.afterLoads n ∧
    ∀ output digest, (p.run s).2.seal output digest =
      ((p'.run s).2.seal output digest).map fun seg =>
        { seg with step := seg.step + UInt64.ofNat n } := by
  have h := pruned.run_eq
  rw [h]
  exact ⟨rfl, rfl, State.seal_afterLoads _ n⟩

/-- Looks two words up, the second one in a region of its own. -/
def lookUpTwo : Program Word := do
  let a ← .request (.load 3)
  let b ← .phantom "peek" (.request (.load 4))
  return a + b

/-- Publishes a sum. -/
def publishSum : Except ExecutionError Word → Program Word
  | .ok sum => do
    .request (.output sum)
    return sum
  | .error e => .fail e

/-- Handed the sum instead of the region, the guest leaves the same segment two steps shorter. -/
theorem phantom_regions_transparent_lookup :
    let registry := ((Registry.empty fun _ => true).enter ⟨"search", false⟩).enter ⟨"peek", false⟩
    let p : Program Word := .call (.store 3 5) fun _ => .region "search" lookUpTwo publishSum
    let p' : Program Word := .call (.store 3 5) fun _ => publishSum (.ok 5)
    ∃ s segment, State.start 0 .only ⟨0, 0⟩ registry ⟨[], []⟩ [] = .returned s ∧
      Program.Pruned s p p' 2 ∧
      (p'.run s).2.seal [] (contextDigest []) = .ok segment ∧ segment.step = 2 ∧
      (p.run s).2.seal [] (contextDigest []) = .ok { segment with step := segment.step + 2 } := by
  intro registry p p'
  obtain ⟨s, start, segment, step, sealed⟩ : ∃ s,
      State.start 0 .only ⟨0, 0⟩ registry ⟨[], []⟩ [] = .returned s ∧ ∃ segment,
      segment.step = 2 ∧ (p'.run s).2.seal [] (contextDigest []) = .ok segment :=
    ⟨_, rfl, _, rfl, rfl⟩
  obtain ⟨s₁, s₂, store, opened, ended, unbroken⟩ : ∃ s₁ s₂,
      ((Call.store 3 5).perform s).2 = s₁ ∧ s₁.openRegion "search" = (.ok (), s₂) ∧
      lookUpTwo.run s₂ = (.returned 5, s₂.afterLoads 2) ∧ s₂.Unbroken (lookUpTwo.moves s₂) := by
    cases start
    refine ⟨_, _, rfl, rfl, rfl, ?_⟩
    exact ⟨rfl, rfl, rfl, rfl, trivial⟩
  have loads : countOp .memoryLoad (lookUpTwo.moves s₂) = 2 := by
    have h := Program.closeRegion_unbroken opened unbroken ended
    rw [State.closeRegion_opened opened] at h
    exact (Nat.add_left_cancel (congrArg State.step h)).symm
  have replaced := (Program.Pruned.replaced opened unbroken ended .same :
    Program.Pruned s₁ (.region "search" lookUpTwo publishSum) (publishSum (.ok 5)) _)
  rw [loads] at replaced
  have pruned : Program.Pruned s p p' 2 := .call (store ▸ replaced)
  refine ⟨s, segment, start, pruned, sealed, step, ?_⟩
  rw [(phantom_regions_transparent pruned).2.2, sealed]
  rfl

end SealedRun
