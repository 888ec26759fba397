import SealedRun.Proofs.Context.Cursor
import SealedRun.Proofs.Run.Gate

/-! Reads before writes. Whatever is asked of a context, and however its errors are taken, the
calls that succeed are reads of the incoming slots in order and then writes of the outgoing ones;
how far they got decides what succeeds next, and the slots are handed on when they got to the end.
-/
namespace SealedRun

/-- What can be asked of a context. -/
inductive SlotCall
  | read
  | write (w : Word)
deriving DecidableEq

namespace SlotCall

/-- The word that a write is given. -/
def word? : SlotCall → Option Word
  | read => none
  | write w => some w

/-- The answer, with the word of a read, and the cursor behind the call. -/
def perform : SlotCall → ContextCursor → Except ExecutionError (Option Word) × ContextCursor
  | read, c =>
    match c.read with
    | .ok (w, c') => (.ok (some w), c')
    | .error e => (.error e, c)
  | write w, c =>
    match c.write w with
    | .ok c' => (.ok none, c')
    | .error e => (.error e, c)

/-- The call as a guest makes it. -/
def ask : SlotCall → State → Answer (Option Word)
  | read, s => (s.readContext.1.map some, s.readContext.2)
  | write w, s => ((s.writeContext w).1.map fun _ => none, (s.writeContext w).2)

/-- A run that goes on hands the call to its cursor and keeps what is left of it. -/
theorem ask_eq {s : State} (running : s.terminal = none) (outside : s.sandbox.frames = [])
    (call : SlotCall) :
    (call.ask s).1 = (call.perform s.context).1 ∧
      (call.ask s).2.context = (call.perform s.context).2 := by
  cases call with
  | read =>
    rw [ask, perform, State.readContext_outside running outside]
    cases s.context.read <;> exact ⟨rfl, rfl⟩
  | write w =>
    rw [ask, perform, State.writeContext_outside running outside]
    cases s.context.write w <;> exact ⟨rfl, rfl⟩

variable {c : ContextCursor}

theorem perform_read_ok :
    (∃ answer, (read.perform c).1 = .ok answer) ↔ ∃ r, c.read = .ok r := by
  rw [perform]
  cases c.read with
  | error e => exact iff_of_false nofun nofun
  | ok r => exact iff_of_true ⟨_, rfl⟩ ⟨_, rfl⟩

theorem perform_write_ok {w : Word} :
    (∃ answer, ((write w).perform c).1 = .ok answer) ↔ ∃ c', c.write w = .ok c' := by
  rw [perform]
  cases c.write w with
  | error e => exact iff_of_false nofun nofun
  | ok c' => exact iff_of_true ⟨_, rfl⟩ ⟨_, rfl⟩

end SlotCall

namespace ContextCursor

/-- The cursor behind calls, whatever came of them. -/
def after (c : ContextCursor) : List SlotCall → ContextCursor
  | [] => c
  | call :: calls => (call.perform c).2.after calls

/-- The calls in order, each with its answer. -/
def log (c : ContextCursor) :
    List SlotCall → List (SlotCall × Except ExecutionError (Option Word))
  | [] => []
  | call :: calls => (call, (call.perform c).1) :: (call.perform c).2.log calls

/-- The calls that succeed. -/
def succeeded (c : ContextCursor) (calls : List SlotCall) : List SlotCall :=
  ((c.log calls).filter fun entry => entry.2.isOk).map Prod.fst

/-- The words that reads give. -/
def wordsRead (c : ContextCursor) (calls : List SlotCall) : List Word :=
  (c.log calls).filterMap fun entry => entry.2.toOption.join

/-- The outgoing slots as they stand; one that is not written yet holds zero. -/
def held (c : ContextCursor) : List Word :=
  c.outputs ++ List.replicate (c.slots.writes - c.writes) 0

variable {c c' : ContextCursor} {position : Position} {slots : Slots} {inputs : List Word}
  {done : List SlotCall}

/-- A write puts its word into the next slot that is held. -/
theorem held_write {w : Word} (h : c.write w = .ok c') :
    c.outputs.length < c.held.length ∧ c'.held = c.held.set c.outputs.length w := by
  obtain ⟨rfl, left⟩ := write_ok h
  obtain ⟨rest, hrest⟩ : ∃ rest, c.slots.writes - c.outputs.length = rest + 1 :=
    ⟨c.slots.writes - c.outputs.length - 1, by omega⟩
  have behind : c.slots.writes - (c.outputs.length + 1) = rest := by omega
  constructor
  · simp only [held, writes, List.length_append, List.length_replicate]
    omega
  · simp only [held, writes, hrest, List.length_append, List.length_singleton, behind,
      List.replicate_succ, List.set_append_right _ _ (Nat.le_refl _), Nat.sub_self,
      List.set_cons_zero, List.append_assoc, List.singleton_append]

/-- The calls `done`, none of which failed, lead to this cursor. -/
structure Reached (position : Position) (slots : Slots) (inputs : List Word)
    (done : List SlotCall) (c : ContextCursor) : Prop where
  position_eq : c.position = position
  slots_eq : c.slots = slots
  inputs_eq : c.inputs = inputs
  done_eq : done = List.replicate c.reads .read ++ c.outputs.map .write
  reads_le : c.reads ≤ slots.reads
  writes_le : c.outputs.length ≤ slots.writes

/-- Reads and then writes tell how many and which they are. -/
theorem ordered_count (n : Nat) (ws : List Word) :
    (List.replicate n SlotCall.read ++ ws.map SlotCall.write).count .read = n ∧
      (List.replicate n SlotCall.read ++ ws.map SlotCall.write).filterMap SlotCall.word? = ws := by
  have no_read : (ws.map SlotCall.write).count .read = 0 := by
    rw [List.count_eq_zero]
    simp
  have no_word : (List.replicate n SlotCall.read).filterMap SlotCall.word? = [] := by
    rw [List.filterMap_eq_nil_iff]
    intro call h
    rw [List.eq_of_mem_replicate h]
    rfl
  have words : (ws.map SlotCall.write).filterMap SlotCall.word? = ws := by
    rw [List.filterMap_map]
    exact List.filterMap_some
  constructor
  · rw [List.count_append, List.count_replicate_self, no_read, Nat.add_zero]
  · rw [List.filterMap_append, no_word, words, List.nil_append]

namespace Reached

theorem count_read (h : Reached position slots inputs done c) : done.count .read = c.reads := by
  rw [h.done_eq]
  exact (ordered_count _ _).1

theorem written (h : Reached position slots inputs done c) :
    done.filterMap SlotCall.word? = c.outputs := by
  rw [h.done_eq]
  exact (ordered_count _ _).2

/-- A call fails and changes nothing, or it is one more of those that succeeded. -/
theorem step (h : Reached position slots inputs done c) (call : SlotCall) :
    (∃ e, call.perform c = (.error e, c)) ∨
    ∃ answer c', call.perform c = (.ok answer, c') ∧
      Reached position slots inputs (done ++ [call]) c' ∧
      inputs.take c'.reads = inputs.take c.reads ++ answer.toList := by
  obtain ⟨rfl, rfl, rfl, hd, hr, hw⟩ := h
  cases call with
  | read =>
    cases hc : c.read with
    | error e => exact .inl ⟨e, by rw [SlotCall.perform, hc]⟩
    | ok r =>
      obtain ⟨w, c'⟩ := r
      obtain ⟨rfl, next, unwritten, left⟩ := read_ok hc
      refine .inr ⟨some w, { c with reads := c.reads + 1 }, by rw [SlotCall.perform, hc],
        ⟨rfl, rfl, rfl, ?_, left, hw⟩, ?_⟩
      · rw [hd, unwritten, List.replicate_succ', List.map_nil, List.append_nil, List.append_nil]
      · rw [List.take_add_one, next]
  | write w =>
    cases hc : c.write w with
    | error e => exact .inl ⟨e, by rw [SlotCall.perform, hc]⟩
    | ok c' =>
      obtain ⟨rfl, left⟩ := write_ok hc
      refine .inr ⟨none, { c with outputs := c.outputs ++ [w] }, by rw [SlotCall.perform, hc],
        ⟨rfl, rfl, rfl, ?_, hr, ?_⟩, ?_⟩
      · rw [hd, List.map_append, List.append_assoc]
        rfl
      · rw [List.length_append]
        exact left
      · exact (List.append_nil _).symm

theorem after (h : Reached position slots inputs done c) (calls : List SlotCall) :
    Reached position slots inputs (done ++ c.succeeded calls) (c.after calls) ∧
      inputs.take (c.after calls).reads = inputs.take c.reads ++ c.wordsRead calls := by
  induction calls generalizing c done with
  | nil =>
    rw [succeeded, wordsRead, log]
    exact ⟨(List.append_nil done).symm ▸ h, (List.append_nil _).symm⟩
  | cons call calls ih =>
    rcases h.step call with ⟨e, failed⟩ | ⟨answer, c', performed, ahead, words⟩
    · have log_eq : c.log (call :: calls) = (call, .error e) :: c.log calls := by
        rw [log, failed]
      have same : c.after (call :: calls) = c.after calls := by
        rw [ContextCursor.after, failed]
      rw [succeeded, wordsRead, log_eq, same]
      exact ih h
    · have log_eq : c.log (call :: calls) = (call, .ok answer) :: c'.log calls := by
        rw [log, performed]
      have behind : c.after (call :: calls) = c'.after calls := by
        rw [ContextCursor.after, performed]
      obtain ⟨reached, all⟩ := ih ahead
      have done_eq : c.succeeded (call :: calls) = call :: c'.succeeded calls := by
        rw [succeeded, log_eq]
        rfl
      have words_eq : c.wordsRead (call :: calls) = answer.toList ++ c'.wordsRead calls := by
        rw [wordsRead, log_eq, List.filterMap_cons]
        cases answer <;> rfl
      rw [behind, done_eq, words_eq]
      rw [List.append_assoc] at reached
      rw [words, List.append_assoc] at all
      exact ⟨reached, all⟩

/-- The calls that succeeded fill the whole schema just if the slots can be handed on. -/
theorem finalize_ok_iff (h : Reached position slots inputs done c) {ws : List Word} :
    c.finalize = .ok ws ↔ ws.length = slots.writes ∧
      done = List.replicate slots.reads .read ++ ws.map .write := by
  rw [finalize_ok, h.slots_eq]
  constructor
  · rintro ⟨all_read, all_written, rfl⟩
    exact ⟨all_written, all_read ▸ h.done_eq⟩
  · rintro ⟨long, all⟩
    have same := h.done_eq.symm.trans all
    have read := congrArg (List.count .read) same
    have words := congrArg (List.filterMap SlotCall.word?) same
    rw [(ordered_count _ _).1, (ordered_count _ _).1] at read
    rw [(ordered_count _ _).2, (ordered_count _ _).2] at words
    exact ⟨read, words ▸ long, words⟩

theorem finalize_error_iff (h : Reached position slots inputs done c) {e : ExecutionError} :
    c.finalize = .error e ↔
      (c.reads < slots.reads ∧ e = .contextMismatch position .read slots.reads c.reads) ∨
      (c.reads = slots.reads ∧ c.outputs.length < slots.writes ∧
        e = .contextMismatch position .write slots.writes c.outputs.length) := by
  obtain ⟨rfl, rfl, rfl, -, hr, hw⟩ := h
  constructor
  · intro failed
    rcases finalize_error failed with ⟨short, he⟩ | ⟨full, short, he⟩
    · exact .inl ⟨Nat.lt_of_le_of_ne hr short, he⟩
    · exact .inr ⟨full, Nat.lt_of_le_of_ne hw short, he⟩
  · rintro (⟨short, rfl⟩ | ⟨full, short, rfl⟩)
    · rw [finalize, if_pos (Nat.ne_of_lt short)]
      rfl
    · rw [finalize, if_neg (not_not_intro full), writes, if_pos (Nat.ne_of_lt short)]
      rfl

end Reached

/-- For any calls on a context, whatever their order and whatever is made of their errors: the words
that were read are the incoming slots from the first on; a read succeeds just if nothing was written
and a slot is left to read, and a write just if a slot is left to write; each works on a slot that
there is, and a call that fails changes nothing. The slots are handed on just if the calls that
succeeded are all reads and then all writes, and then they are the words written; otherwise missing
reads are reported, and if there are none missing writes. Calls of a guest are such calls. -/
theorem reads_then_writes {position : Position} {slots : Slots} {inputs : List Word}
    (fits : inputs.length = slots.reads) (calls : List SlotCall) :
    let c₀ : ContextCursor := ⟨position, slots, inputs, 0, [], fits⟩
    let c := c₀.after calls
    let done := c₀.succeeded calls
    let reads := done.count .read
    let written := done.filterMap SlotCall.word?
    (start position slots inputs =
      if slots.writes ≤ maxWrites then .returned c₀ else .trapped .capacityOverflow) ∧
    c₀.wordsRead calls = inputs.take reads ∧
    ((∃ answer, (SlotCall.read.perform c).1 = .ok answer) ↔
      written = [] ∧ reads < slots.reads) ∧
    (∀ w, (∃ answer, ((SlotCall.write w).perform c).1 = .ok answer) ↔
      written.length < slots.writes) ∧
    (∀ answer, (SlotCall.read.perform c).1 = .ok answer →
      ∃ h : reads < inputs.length, answer = some inputs[reads]) ∧
    (∀ w answer, ((SlotCall.write w).perform c).1 = .ok answer →
      written.length < c.held.length ∧
        ((SlotCall.write w).perform c).2.held = c.held.set written.length w) ∧
    (∀ (call : SlotCall) e, (call.perform c).1 = .error e → (call.perform c).2 = c) ∧
    (∀ ws, c.finalize = .ok ws ↔ ws.length = slots.writes ∧
      done = List.replicate slots.reads .read ++ ws.map .write) ∧
    (∀ e, c.finalize = .error e ↔
      (reads < slots.reads ∧ e = .contextMismatch position .read slots.reads reads) ∨
      (reads = slots.reads ∧ written.length < slots.writes ∧
        e = .contextMismatch position .write slots.writes written.length)) ∧
    ∀ s : State, s.terminal = none → s.sandbox.frames = [] → s.context = c → ∀ call : SlotCall,
      (call.ask s).1 = (call.perform c).1 ∧ (call.ask s).2.context = (call.perform c).2 := by
  intro c₀ c done reads written
  have began : Reached position slots inputs [] c₀ :=
    ⟨rfl, rfl, rfl, rfl, Nat.zero_le _, Nat.zero_le _⟩
  obtain ⟨reached, words⟩ := began.after calls
  change Reached position slots inputs done c at reached
  have counted : reads = c.reads := reached.count_read
  have outputs : written = c.outputs := reached.written
  rw [counted, outputs]
  refine ⟨?_, words.symm, ?_, fun w => ?_, fun answer ok => ?_, fun w answer ok => ?_,
    fun call e failed => ?_, fun ws => reached.finalize_ok_iff,
    fun e => reached.finalize_error_iff, ?_⟩
  · exact dif_pos fits
  · rw [SlotCall.perform_read_ok, read_ok_iff, reached.slots_eq]
  · rw [SlotCall.perform_write_ok, write_ok_iff, reached.slots_eq]
  · obtain ⟨r, hr⟩ := SlotCall.perform_read_ok.mp ⟨answer, ok⟩
    obtain ⟨-, next, -⟩ := read_ok hr
    rw [SlotCall.perform, hr] at ok
    cases ok
    rw [reached.inputs_eq] at next
    obtain ⟨inside, here⟩ := List.getElem?_eq_some_iff.mp next
    exact ⟨inside, congrArg some here.symm⟩
  · obtain ⟨c', hc⟩ := SlotCall.perform_write_ok.mp ⟨answer, ok⟩
    rw [SlotCall.perform, hc]
    exact held_write hc
  · rcases reached.step call with ⟨e', same⟩ | ⟨answer, c', performed, -⟩
    · rw [same]
    · rw [performed] at failed
      cases failed
  · intro s running outside same call
    rw [← same]
    exact SlotCall.ask_eq running outside call

/-- Two slots in and two out, with a read too early for a write to be followed by it. -/
theorem reads_then_writes_early :
    let calls : List SlotCall := [.read, .write 9, .read, .write 4, .write 5]
    let c : ContextCursor := after ⟨.middle, ⟨2, 2⟩, [1, 7], 0, [], rfl⟩ calls
    (ContextCursor.mk .middle ⟨2, 2⟩ [1, 7] 0 [] rfl).wordsRead calls = [1] ∧
      (SlotCall.read.perform c).2 = c ∧
      c.finalize = .error (.contextMismatch .middle .read 2 1) := by
  intro calls c
  obtain ⟨-, words, -, -, -, -, same, -, missing, -⟩ :=
    @reads_then_writes .middle ⟨2, 2⟩ [1, 7] rfl calls
  refine ⟨words.trans (by decide), same .read (.contextMismatch .middle .readAfterWrite 0 2) rfl, ?_⟩
  exact (missing _).mpr (.inl ⟨by decide, rfl⟩)

end ContextCursor

end SealedRun
