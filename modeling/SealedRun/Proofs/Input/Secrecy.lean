import SealedRun.Proofs.Input.Consumption
import SealedRun.Proofs.Wire.Packing

/-! What does not depend on the private words. Masking a state puts zeros in place of the words
that are still on the private tape and of those that the trace shows as read from it. Every call
commutes with masking, so two runs that begin alike but for private words stay alike but for
private words, and what they publish, hand on and seal is the same. -/
namespace SealedRun

/-- The word of a private read is masked. -/
def Event.masked (e : Event) : Event :=
  if e.reads .priv then { e with ret := e.ret.map fun _ => 0 } else e

def Trace.masked (t : Trace) : Trace := ⟨t.events.map Event.masked⟩

def Tape.masked (t : Tape) : Tape := { t with remaining := t.remaining.map fun _ => 0 }

def Tapes.masked (t : Tapes) : Tapes := { t with priv := t.priv.masked }

def State.masked (s : State) : State := { s with tapes := s.tapes.masked, trace := s.trace.masked }

/-- The digest of the trace depends on every word in it, and so is that of the masked trace. -/
def Segment.masked (s : Segment) : Segment :=
  { s with trace := s.trace.masked, traceDigest := s.trace.masked.digest }

/-- What is seen of a word of the tape. -/
def Visibility.mask (v : Visibility) (w : Word) : Word := if v.isPublic then w else 0

/-- What is seen of a successful answer: all of it, unless it comes from the private tape. -/
def Call.mask {β : Type} : Call β → β → β
  | .input v => v.mask
  | .readBytes v _ => fun bs => if v.isPublic then bs else bs.map fun _ => 0
  | _ => id

/-- The answer is the same in both states, with the same error if it is one. -/
def Move.SameAnswer : Move → State → State → Prop
  | call c, s, t => (c.perform s).1.map c.mask = (c.perform t).1.map c.mask
  | enter name, s, t => (s.openRegion name).1 = (t.openRegion name).1
  | leave _, _, _ => True

/-- The program goes on in the same way whatever words it is given from the private tape. -/
def Program.Unseeing : {α : Type} → Program α → Prop
  | _, ret _ => True
  | _, fail _ => True
  | _, trap _ => True
  | _, call c next =>
    (∀ r r', r.map c.mask = r'.map c.mask → next r = next r') ∧ ∀ r, (next r).Unseeing
  | _, region _ body next => body.Unseeing ∧ ∀ r, (next r).Unseeing

theorem Visibility.mask_mask (v : Visibility) (w : Word) : v.mask (v.mask w) = v.mask w := by
  cases v <;> rfl

theorem wordBytes_masked (ws : List Word) :
    wordBytes (ws.map fun _ => 0) = (wordBytes ws).map fun _ => 0 := by
  induction ws with
  | nil => rfl
  | cons w ws ih =>
    have zeros : (0 : Word).toBytes = w.toBytes.map fun _ => 0 := by
      rw [List.map_const', Word.toBytes, Word.toBytes, length_leBytes]
      exact leBytes_zero 8
    simp only [wordBytes, List.map_cons, List.flatMap_cons, List.map_append, zeros] at ih ⊢
    rw [ih]

/-- The bytes of masked words are the masked bytes. -/
theorem firstBytes_mask (v : Visibility) (ws : List Word) (n : Nat) :
    firstBytes (ws.map v.mask) n = (Call.readBytes v n).mask (firstBytes ws n) := by
  cases v with
  | pub =>
    have same : ws.map (Visibility.mask .pub) = ws := List.map_id ws
    rw [same]
    rfl
  | priv =>
    show (wordBytes (ws.map fun _ => 0)).take n = ((wordBytes ws).take n).map fun _ => 0
    rw [wordBytes_masked, List.map_take]

theorem Call.mask_mask {β : Type} (c : Call β) (b : β) : c.mask (c.mask b) = c.mask b := by
  cases c with
  | input v => exact v.mask_mask b
  | readBytes v n => cases v <;> simp [Call.mask, Visibility.isPublic]
  | _ => rfl

namespace Trace

variable {t : Trace}

theorem length_masked (t : Trace) : t.masked.length = t.length := List.length_map ..

theorem rollback_masked (t : Trace) (mark : Nat) :
    t.masked.rollback mark = (t.rollback mark).masked := by
  simp only [rollback, masked, List.map_take]

theorem push_masked (t : Trace) {op : HostOp} {args : List Word} {ret ret' : Option Word}
    (seen : ∀ eid, Event.masked ⟨eid, op, args, ret⟩ = ⟨eid, op, args, ret'⟩) :
    t.masked.push op args ret' = (t.push op args ret).masked := by
  rw [push, push, length_masked]
  simp only [masked, List.map_append, List.map_singleton, seen]

end Trace

namespace Tapes

/-- A masked tape gives masked words, and gives none where the tape gives none. -/
theorem read_masked (t : Tapes) (v : Visibility) :
    t.masked.read v = (t.read v).map fun r => (v.mask r.1, r.2.masked) := by
  obtain ⟨⟨ps, m⟩, ⟨ws, n⟩⟩ := t
  cases v with
  | pub => cases ps <;> rfl
  | priv => cases ws <;> rfl

theorem readWords_masked (t : Tapes) (v : Visibility) (n : Nat) :
    t.masked.readWords v n = (t.readWords v n).map fun r => (r.1.map v.mask, r.2.masked) := by
  have length : (t.masked.tape v).remaining.length = (t.tape v).remaining.length := by
    cases v with
    | pub => rfl
    | priv => exact List.length_map ..
  by_cases enough : n ≤ (t.tape v).remaining.length
  · rw [readWords, readWords, Tape.take?, Tape.take?, if_pos (length ▸ enough), if_pos enough]
    cases v with
    | pub =>
      have same : (t.pub.remaining.take n).map (Visibility.mask .pub) = t.pub.remaining.take n :=
        List.map_id _
      simp only [Except.map, tape, same]
      rfl
    | priv =>
      simp only [Except.map, tape, masked, Tape.masked, setTape, List.map_take, List.map_drop]
      rfl
  · rw [readWords, readWords, Tape.take?, Tape.take?, if_neg (length ▸ enough), if_neg enough]
    cases v <;> rfl

end Tapes

namespace State

variable {β : Type} {s : State}

/-- In the masked state the operation does what it does in the state itself, and of its answer
`mask` is seen. -/
def Masks (mask : β → β) (act : State → Answer β) : Prop :=
  ∀ s, act s.masked = ((act s).1.map mask, (act s).2.masked)

theorem fail_masked (s : State) (e : ExecutionError) : s.masked.fail e = (s.fail e).masked := by
  have entry : s.masked.sandbox.entry? = s.sandbox.entry? := rfl
  rw [fail, fail, entry]
  cases s.sandbox.entry? with
  | none => rfl
  | some mark =>
    simp only [masked, Trace.rollback_masked]

theorem refuse_masks (mask : β → β) (e : ExecutionError) : Masks mask (refuse · e) := by
  intro s
  exact Prod.ext rfl (fail_masked s e)

theorem record_masked (s : State) {op : HostOp} {args : List Word} {ret ret' : Option Word}
    (seen : ∀ eid, Event.masked ⟨eid, op, args, ret⟩ = ⟨eid, op, args, ret'⟩) :
    s.masked.record op args ret' = (s.record op args ret).masked := by
  have sandbox : s.masked.sandbox = s.sandbox := rfl
  rw [record, record, sandbox]
  cases s.sandbox.isOpen with
  | true => rfl
  | false =>
    have trace := s.trace.push_masked seen
    simp only [masked, Bool.false_eq_true, ↓reduceIte, trace]

theorem consume_masked (v : Visibility) (s : State) (w : Word) :
    consume v s.masked (v.mask w) = (consume v s w).masked := by
  cases v with
  | pub =>
    exact record_masked { s with instanceWords := s.instanceWords ++ [w] } fun _ => rfl
  | priv => exact record_masked s fun _ => rfl

theorem foldl_consume_masked (v : Visibility) (ws : List Word) (s : State) :
    (ws.map v.mask).foldl (consume v) s.masked = (ws.foldl (consume v) s).masked := by
  induction ws generalizing s with
  | nil => rfl
  | cons w ws ih => rw [List.map_cons, List.foldl_cons, List.foldl_cons, consume_masked, ih]

/-- The gate looks neither at the tapes nor at the trace. -/
theorem enter_masks (op : HostOp) {mask : β → β} {act : State → Answer β} (h : Masks mask act) :
    Masks mask fun s => s.enter op act := by
  intro s
  show s.masked.enter op act = ((s.enter op act).1.map mask, (s.enter op act).2.masked)
  cases ht : s.terminal with
  | some e =>
    rw [enter_ended ht, enter_ended (s := s.masked) ht]
    rfl
  | none =>
    have hs : { s.masked with step := s.masked.step + 1 } =
        { s with step := s.step + 1 }.masked := rfl
    have hc : s.masked.sandbox.check op = s.sandbox.check op := rfl
    rw [enter_running ht, enter_running (s := s.masked) ht, hs, hc]
    cases s.sandbox.check op with
    | error e => exact refuse_masks mask e _
    | ok u => exact h _

theorem readInput_masks (v : Visibility) : Masks v.mask (readInput v) := by
  refine enter_masks _ fun s => ?_
  have ht : s.masked.tapes.read v = _ := s.tapes.read_masked v
  rw [ht]
  cases s.tapes.read v with
  | error e => exact refuse_masks v.mask e s
  | ok r => exact Prod.ext rfl (consume_masked v { s with tapes := r.2 } r.1)

theorem readBytes_masks (v : Visibility) (n : Nat) :
    Masks (Call.readBytes v n).mask (readBytes v n) := by
  refine enter_masks _ fun s => ?_
  have ht : s.masked.tapes.readWords v (wordsFor n) = _ := s.tapes.readWords_masked v (wordsFor n)
  rw [ht]
  cases s.tapes.readWords v (wordsFor n) with
  | error e => exact refuse_masks _ e s
  | ok r =>
    exact Prod.ext (congrArg Except.ok (firstBytes_mask v r.1 n))
      (foldl_consume_masked v r.1 { s with tapes := r.2 })

theorem writeOutput_masks (w : Word) : Masks id (writeOutput w) :=
  enter_masks _ fun s => Prod.ext rfl (record_masked { s with
    instanceWords := s.instanceWords ++ [w]
    outputs := s.outputs ++ [w] } fun _ => rfl)

theorem require_masks (holds : Bool) : Masks id (State.require holds) := by
  refine enter_masks _ fun s => ?_
  cases holds with
  | false => exact refuse_masks id _ { s with constraints := s.constraints.require false }
  | true =>
    exact Prod.ext rfl (record_masked { s with
      constraints := s.constraints.require true } fun _ => rfl)

theorem readContext_masks : Masks id readContext := by
  refine enter_masks _ fun s => ?_
  have hc : s.masked.context = s.context := rfl
  rw [hc]
  cases s.context.read with
  | error e => exact refuse_masks id e s
  | ok r => exact Prod.ext rfl (record_masked { s with context := r.2 } fun _ => rfl)

theorem writeContext_masks (w : Word) : Masks id (writeContext w) := by
  refine enter_masks _ fun s => ?_
  have hc : s.masked.context = s.context := rfl
  rw [hc]
  cases s.context.write w with
  | error e => exact refuse_masks id e s
  | ok context => exact Prod.ext rfl (record_masked { s with context } fun _ => rfl)

theorem load_masks (addr : UInt32) : Masks id (load addr) := by
  intro s
  cases ht : s.terminal with
  | some e =>
    rw [load, load, ht, show s.masked.terminal = some e from ht]
    rfl
  | none =>
    rw [load_running ht, load_running (s := s.masked) ht]
    exact Prod.ext rfl (record_masked { s with
      step := s.step + 1
      memory := (s.memory.load addr).2 } fun _ => rfl)

theorem store_masks (addr : UInt32) (w : Word) : Masks id (store addr w) :=
  enter_masks _ fun s => Prod.ext rfl (record_masked { s with
    memory := s.memory.store addr w } fun _ => rfl)

theorem logWord_masks (w : Word) : Masks id (logWord w) :=
  enter_masks _ fun s => Prod.ext rfl (record_masked s fun _ => rfl)

theorem perform_masks (c : Call β) : Masks c.mask c.perform := by
  cases c with
  | input v => exact readInput_masks v
  | readBytes v n => exact readBytes_masks v n
  | output w => exact writeOutput_masks w
  | require holds => exact require_masks holds
  | readContext => exact readContext_masks
  | writeContext w => exact writeContext_masks w
  | load addr => exact load_masks addr
  | store addr w => exact store_masks addr w
  | log w => exact logWord_masks w

theorem openRegion_masked (name : String) (s : State) :
    s.masked.openRegion name = ((s.openRegion name).1, (s.openRegion name).2.masked) := by
  have ht : s.masked.terminal = s.terminal := rfl
  have hr : s.masked.registry = s.registry := rfl
  rw [openRegion, openRegion, ht, hr]
  cases s.terminal with
  | some e => rfl
  | none =>
    cases s.registry.checkTarget name with
    | error e => exact Prod.ext rfl (fail_masked s e)
    | ok u =>
      simp only [masked, Trace.checkpoint, Trace.length_masked]

theorem closeRegion_masked (failure : Option ExecutionError) (s : State) :
    s.masked.closeRegion failure = (s.closeRegion failure).masked := by
  have sandbox : s.masked.sandbox = s.sandbox := rfl
  cases failure with
  | none => rfl
  | some e =>
    rw [closeRegion, closeRegion, sandbox]
    rcases s.sandbox.pop with ⟨_ | mark, rest⟩
    · rfl
    · simp only [masked, Trace.rollback_masked]

theorem after_masked (m : Move) (s : State) : m.after s.masked = (m.after s).masked := by
  cases m with
  | call c => exact congrArg Prod.snd (perform_masks c s)
  | enter name => exact congrArg Prod.snd (openRegion_masked name s)
  | leave failure => exact closeRegion_masked failure s

theorem play_masked (s : State) (ms : List Move) : s.masked.play ms = (s.play ms).masked := by
  induction ms generalizing s with
  | nil => rfl
  | cons m ms ih => rw [play, play, after_masked, ih]

theorem sameAnswer_masked (m : Move) (s : State) : m.SameAnswer s s.masked := by
  cases m with
  | call c =>
    have masks := congrArg Prod.fst (perform_masks c s)
    show (c.perform s).1.map c.mask = (c.perform s.masked).1.map c.mask
    rw [masks]
    cases (c.perform s).1 with
    | error e => rfl
    | ok b => exact congrArg Except.ok (c.mask_mask b).symm
  | enter name => exact (congrArg Prod.fst (openRegion_masked name s)).symm
  | leave failure => trivial

theorem seal_masked (s : State) (output : Bytes) (digest : Digest) :
    s.masked.seal output digest = (s.seal output digest).map Segment.masked := by
  have ht : s.masked.terminal = s.terminal := rfl
  have hv : s.masked.constraints = s.constraints := rfl
  have hc : s.masked.context = s.context := rfl
  rw [State.seal, State.seal, ht, hv, hc]
  cases s.terminal with
  | some e => rfl
  | none =>
    cases s.constraints.violatedAt with
    | some site => rfl
    | none => cases s.context.finalize <;> rfl

end State

theorem Move.SameAnswer.symm {m : Move} {s t : State} (h : m.SameAnswer s t) :
    m.SameAnswer t s := by
  cases m with
  | leave failure => trivial
  | _ => exact Eq.symm h

theorem Move.SameAnswer.trans {m : Move} {s t u : State} (h : m.SameAnswer s t)
    (h' : m.SameAnswer t u) : m.SameAnswer s u := by
  cases m with
  | leave failure => trivial
  | _ => exact Eq.trans h h'

/-- States that are alike answer alike. -/
theorem Move.sameAnswer_of_masked {s t : State} (alike : s.masked = t.masked) (m : Move) :
    m.SameAnswer s t := by
  have masked := State.sameAnswer_masked m s
  rw [alike] at masked
  exact masked.trans (State.sameAnswer_masked m t).symm

namespace Program

/-- Masked private words lead an unseeing program through the same moves to the same end. -/
theorem Unseeing.masked {α : Type} {p : Program α} (unseeing : p.Unseeing) (s : State) :
    p.moves s.masked = p.moves s ∧ p.run s.masked = ((p.run s).1, (p.run s).2.masked) := by
  induction p generalizing s with
  | ret a => exact ⟨rfl, rfl⟩
  | fail e => exact ⟨rfl, rfl⟩
  | trap t => exact ⟨rfl, rfl⟩
  | call c next ih =>
    obtain ⟨same, later⟩ := unseeing
    have masks := State.perform_masks c s
    have goes_on : next ((c.perform s).1.map c.mask) = next (c.perform s).1 := by
      apply same
      cases (c.perform s).1 with
      | error e => rfl
      | ok b => exact congrArg Except.ok (c.mask_mask b)
    obtain ⟨hm, hr⟩ := ih (c.perform s).1 (later _) (c.perform s).2
    constructor
    · show Move.call c :: (next (c.perform s.masked).1).moves (c.perform s.masked).2 =
        .call c :: (next (c.perform s).1).moves (c.perform s).2
      rw [masks, goes_on, hm]
    · rw [run_call, run_call, masks, goes_on, hr]
  | region name body next ihb ih =>
    obtain ⟨inner, later⟩ := unseeing
    have ho := State.openRegion_masked name s
    rcases region_cases name body s with ⟨e, s', h⟩ | ⟨s', r, s'', h, hb⟩ | ⟨s', t, s'', h, hb⟩
    · rw [h] at ho
      obtain ⟨hm, hr⟩ := ih (.error e) (later _) s'
      rw [moves_region_refused h, moves_region_refused ho, run_region_refused h,
        run_region_refused ho, hm, hr]
      exact ⟨rfl, rfl⟩
    · rw [h] at ho
      obtain ⟨hbm, hbr⟩ := ihb inner s'
      rw [hb] at hbr
      obtain ⟨hm, hr⟩ := ih r (later r) (s''.closeRegion (error? r))
      rw [moves_region_answered h hb, moves_region_answered ho hbr, run_region_answered h hb,
        run_region_answered ho hbr, hbm, State.closeRegion_masked, hm, hr]
      exact ⟨rfl, rfl⟩
    · rw [h] at ho
      obtain ⟨hbm, hbr⟩ := ihb inner s'
      rw [hb] at hbr
      rw [moves_region_trapped h hb, moves_region_trapped ho hbr, run_region_trapped h hb,
        run_region_trapped ho hbr, hbm]
      exact ⟨rfl, rfl⟩

end Program

/-- Runs that are given as many private words start alike. -/
theorem State.start_alike {segmentId : UInt32} {position : Position} {slots : Slots}
    {registry : Registry} {pub priv priv' : List Word} {context : List Word} {s : State}
    (start : State.start segmentId position slots registry ⟨pub, priv⟩ context = .returned s)
    (same : priv.length = priv'.length) :
    ∃ t, State.start segmentId position slots registry ⟨pub, priv'⟩ context = .returned t ∧
      s.masked = t.masked := by
  have masked : (Tape.ofWords priv).masked = (Tape.ofWords priv').masked := by
    simp only [Tape.masked, Tape.ofWords, List.map_const', same]
  unfold State.start at start ⊢
  cases cursor : ContextCursor.start position slots context with
  | returned c =>
    rw [cursor] at start
    cases start
    refine ⟨_, rfl, ?_⟩
    simp only [State.masked, Tapes.masked, Tapes.ofWords, masked]
  | failed e => rw [cursor] at start; cases start
  | trapped t => rw [cursor] at start; cases start

/-- From states that differ only in words still on the private tape, or read from it before, and
not in the number of these words, the same calls get the same answers: the same errors, and the
same values except for what private reads give. The states behind them, and the segments they are
sealed into, differ again only in private words. A program that goes on in the same way whatever
private words it is given makes the same calls from both states, and comes to the same end. -/
theorem private_words_unseen {s t : State} (alike : s.masked = t.masked) :
    (∀ ms : List Move,
      (∀ before m later, ms = before ++ m :: later →
        m.SameAnswer (s.play before) (t.play before)) ∧
      (s.play ms).masked = (t.play ms).masked ∧
      ∀ output digest, ((s.play ms).seal output digest).map Segment.masked =
        ((t.play ms).seal output digest).map Segment.masked) ∧
    ∀ {α : Type} (p : Program α), p.Unseeing →
      p.moves s = p.moves t ∧ (p.run s).1 = (p.run t).1 ∧
        (p.run s).2 = s.play (p.moves s) ∧ (p.run t).2 = t.play (p.moves t) := by
  have played (ms : List Move) : (s.play ms).masked = (t.play ms).masked := by
    rw [← State.play_masked, ← State.play_masked, alike]
  refine ⟨fun ms => ⟨?_, played ms, ?_⟩, fun p unseeing => ⟨?_, ?_, p.run_eq_play s,
    p.run_eq_play t⟩⟩
  · rintro before m later -
    exact Move.sameAnswer_of_masked (played before) m
  · intro output digest
    rw [← State.seal_masked, ← State.seal_masked, played]
  · rw [← (unseeing.masked s).1, ← (unseeing.masked t).1, alike]
  · have run_s := congrArg Prod.fst (unseeing.masked s).2
    have run_t := congrArg Prod.fst (unseeing.masked t).2
    rw [alike] at run_s
    exact run_s.symm.trans run_t

/-- Nine private bytes that nobody looks at, two words of them in each run, a look into memory and
an output. The traces of the two segments differ, and they differ only in the words read. -/
theorem private_words_unseen_search :
    let registry := (Registry.empty fun _ => true).enter ⟨"search", false⟩
    let p : Program (Except ExecutionError Word) :=
      .call (.readBytes .priv 9) fun _ =>
        .region "search" (.request (.load 3)) fun r => .call (.output 5) fun _ => .ret r
    ∃ s t segment segment',
      State.start 0 .only ⟨0, 0⟩ registry ⟨[], [1, 2]⟩ [] = .returned s ∧
      State.start 0 .only ⟨0, 0⟩ registry ⟨[], [3, 4]⟩ [] = .returned t ∧
      s.masked = t.masked ∧ p.Unseeing ∧ (p.run s).1 = (p.run t).1 ∧
      (p.run s).2.seal [] (contextDigest []) = .ok segment ∧
      (p.run t).2.seal [] (contextDigest []) = .ok segment' ∧
      segment.masked = segment'.masked ∧ segment.trace ≠ segment'.trace := by
  intro registry p
  obtain ⟨s, start⟩ : ∃ s,
    State.start 0 .only ⟨0, 0⟩ registry ⟨[], [1, 2]⟩ [] = .returned s := ⟨_, rfl⟩
  obtain ⟨t, start', alike⟩ : ∃ t,
    State.start 0 .only ⟨0, 0⟩ registry ⟨[], [3, 4]⟩ [] = .returned t ∧ s.masked = t.masked :=
    State.start_alike start rfl
  have unseeing : p.Unseeing := by
    refine ⟨fun _ _ _ => rfl, fun _ => ⟨⟨fun r r' same => ?_, fun r => ?_⟩, fun r => ?_⟩⟩
    · have same : r = r' := by simpa [Call.mask] using same
      rw [same]
    · cases r <;> trivial
    · exact ⟨fun _ _ _ => rfl, fun _ => trivial⟩
  obtain ⟨played, programs⟩ := private_words_unseen alike
  obtain ⟨moves, outcome, run_s, run_t⟩ := programs p unseeing
  have sealed := (played (p.moves s)).2.2 [] (contextDigest [])
  rw [← run_s, moves, ← run_t] at sealed
  obtain ⟨segment, segment', h, h', differ⟩ : ∃ segment segment',
      (p.run s).2.seal [] (contextDigest []) = .ok segment ∧
      (p.run t).2.seal [] (contextDigest []) = .ok segment' ∧
      segment.trace ≠ segment'.trace := by
    cases start
    cases start'
    exact ⟨_, _, rfl, rfl, by decide⟩
  rw [h, h'] at sealed
  exact ⟨s, t, segment, segment', start, start', alike, unseeing, outcome, h, h',
    Except.ok.inj sealed, differ⟩

end SealedRun
