import SealedRun.Proofs.Continuation.Provision
import SealedRun.Proofs.Guest.Decoding
import SealedRun.Proofs.Phantom.Designation
import SealedRun.Proofs.Programs.LowerBound

/-! A search that nobody has to trust. It runs in a phantom region, so a proof does not see it; but
the place that it gives is looked up once more in front of everybody, and this alone decides. With
any other body in the region that only loads, the guest accepts the place or rejects it by what
stands there, and the trace of an accepted run tells nothing of how the place was found. -/
namespace SealedRun

namespace PhantomSearch

open Program (Loads)

/-- The guest with another way of finding a place. -/
def asking (find : Word → Program Word) : Guest Word :=
  { guest with main := fun _ => mainWith find }

example : asking search = guest := rfl

/-- The trace of a run that accepts the place `place` of `v`. -/
def accepted (v place : Word) : List Event :=
  Trace.storeEvents base 0 0 array ++
    [⟨8, .wasmInput, [1], some v⟩, ⟨9, .require, [1], none⟩,
      ⟨10, .memoryLoad, [(base + place.toUInt32).toUInt64], some v⟩, ⟨11, .require, [1], none⟩]

/-- What the guest does in front of everybody once it is given a place. -/
def check (v place : Word) : Program Word := do
  Program.request (.require (place < UInt64.ofNat array.length))
  let found ← loadAt place
  Program.request (.require (found == v))
  return place

theorem mainWith_eq (find : Word → Program Word) : mainWith find = (do
    Program.storeWords base array
    let v ← Program.request (.input .pub)
    let place ← Program.phantom "search" (find v)
    check v place) := rfl

/-- The state in which the guest is given a place for `v`. -/
structure Prepared (v : Word) (s : State) : Prop where
  running : s.terminal = none
  outside : s.sandbox.frames = []
  memory_eq : s.memory.word = stored
  constraints_eq : s.constraints = .none
  handed_out : s.context.finalize = .ok []
  trace_eq : s.trace = (Trace.empty.pushStores base 0 array).push .wasmInput [1] (some v)

theorem accepted_eq (v place : Word) : accepted v place =
    (((((Trace.empty.pushStores base 0 array).push .wasmInput [1] (some v)).push
      .require [1] none).push .memoryLoad [(base + place.toUInt32).toUInt64] (some v)).push
      .require [1] none).events := by
  simp only [Trace.push, Trace.events_pushStores, List.append_assoc]
  rfl

namespace Prepared

variable {v place : Word} {s : State}

theorem run_beyond (h : Prepared v s) (beyond : array.length ≤ place.toNat) :
    ((check v place).run s).1 = .failed (.violated 0) := by
  have out : decide (place < UInt64.ofNat array.length) = false := by
    rw [decide_eq_false_iff_not, UInt64.not_lt, UInt64.le_iff_toNat_le]
    exact beyond
  rw [check, out, Program.run_bind_failed (Program.run_require_false h.running h.outside),
    h.constraints_eq]
  rfl

/-- A place of the array is looked up without any trouble. -/
theorem run_within (h : Prepared v s) (inside : place.toNat < array.length) :
    (check v place).run s = (do
      Program.request (.require (array[place.toNat] == v))
      return place : Program Word).run (s.afterRequiring.afterLoading (base + place.toUInt32)) := by
  have within : decide (place < UInt64.ofNat array.length) = true := by
    rw [decide_eq_true_iff, UInt64.lt_iff_toNat_lt]
    exact inside
  have look := Program.run_load (s := s.afterRequiring) h.running h.outside
    (base + place.toUInt32)
  rw [show s.afterRequiring.memory.word = stored from h.memory_eq, stored_place inside] at look
  rw [check, within, Program.run_bind_returned (Program.run_require_true h.running h.outside),
    loadAt_eq inside, Program.run_bind_returned look]

theorem run_other (h : Prepared v s) (inside : place.toNat < array.length)
    (other : array[place.toNat] ≠ v) :
    ((check v place).run s).1 = .failed (.violated 1) := by
  have refused := Program.run_require_false
    (s := s.afterRequiring.afterLoading (base + place.toUInt32)) h.running h.outside
  have counted : (s.afterRequiring.afterLoading (base + place.toUInt32)).constraints.checked = 1 :=
    congrArg (·.checked + 1) h.constraints_eq
  rw [h.run_within inside, beq_false_of_ne other, Program.run_bind_failed refused, counted]

theorem run_found (h : Prepared v s) (inside : place.toNat < array.length)
    (found : array[place.toNat] = v) :
    ∃ s', (check v place).run s = (.returned place, s') ∧ s'.terminal = none ∧
      s'.constraints.violatedAt = none ∧ s'.context.finalize = .ok [] ∧
      s'.trace.events = accepted v place := by
  have held := Program.run_require_true
    (s := s.afterRequiring.afterLoading (base + place.toUInt32)) h.running h.outside
  have seen : s.memory.word (base + place.toUInt32) = v := by
    rw [h.memory_eq, stored_place inside, found]
  refine ⟨(s.afterRequiring.afterLoading (base + place.toUInt32)).afterRequiring, ?_, h.running,
    ?_, h.handed_out, ?_⟩
  · rw [h.run_within inside, beq_iff_eq.mpr found, Program.run_bind_returned held]
    rfl
  · simp only [State.afterRequiring, State.afterLoading, h.constraints_eq]
    rfl
  · rw [accepted_eq, ← h.trace_eq]
    simp only [State.afterRequiring, State.afterLoading, seen]

end Prepared

theorem run_mainWith {find : Word → Program Word} {segmentId : UInt32} {position : Position}
    {registry : Registry} {v place : Word} {pub priv : List Word} {s : State}
    (start : State.start segmentId position ⟨0, 0⟩ registry ⟨v :: pub, priv⟩ [] = .returned s)
    (target : registry.checkTarget "search" = .ok ()) (loads : (find v).Loads stored place) :
    ∃ s', Prepared v s' ∧ (mainWith find).run s = (check v place).run s' := by
  obtain ⟨fits, hs⟩ := State.start_eq start
  have memory : s.memory = .empty := by rw [hs]
  have word : (s.memory.storeFrom base 0 array).word = stored := by
    rw [memory, word_storeFrom_empty]
  have tape : (s.tapes.tape .pub).remaining = v :: pub := by
    rw [hs]
    rfl
  obtain ⟨s', asked, running', outside', memory', constraints', context', trace'⟩ :=
    Program.run_asking (f := check) (by rw [hs]) (by rw [hs]; rfl) (by decide) tape
      (by rw [hs]; exact target) (word.symm ▸ loads)
  refine ⟨s', ?_, mainWith_eq find ▸ asked⟩
  exact {
    running := running'
    outside := outside'
    memory_eq := memory'.trans word
    constraints_eq := by rw [constraints', hs]
    handed_out := by rw [context', hs]; rfl
    trace_eq := by rw [trace', hs] }

/-- The guest's own configuration lets its function be a phantom. -/
theorem configured : ∃ h marked, Host.ofConfig config = .ok h ∧ h.config = config ∧
    h.registry = .empty marked ∧ marked "search" = true := by
  obtain ⟨p, parsed, hit⟩ : ∃ p, Pattern.parse "^search$" = .ok p ∧ p.isMatch "search" = true :=
    ⟨_, rfl, by decide +kernel⟩
  have read : Registry.ofPatterns config.patterns =
      .ok (.empty fun name => [p].any (·.isMatch name)) := by
    rw [Registry.ofPatterns, config, List.mapM_cons, parsed]
    rfl
  refine ⟨⟨config, _⟩, _, by rw [Host.ofConfig, read]; rfl, rfl, rfl, ?_⟩
  rw [List.any_cons, hit]
  rfl

theorem slots_empty (position : Position) : ContextSchema.empty.slots position = ⟨0, 0⟩ := by
  cases position <;> rfl

theorem registered {h : Host} {marked : String → Bool} (registry_eq : h.registry = .empty marked)
    (hit : marked "search" = true) (find : Word → Program Word) :
    ∃ registry, h.registryFor (asking find) = .ok registry ∧
      registry.checkTarget "search" = .ok () := by
  have holds : h.registry.Holds marked [] := registry_eq ▸ Registry.holds_empty
  obtain ⟨known, answer⟩ := holds.register (asking find).functions
  -- No function of the table is inlined, so nothing stops the registration.
  have passed : (asking find).functions.find? (·.stops marked) = none := by
    simp [asking, guest, Guest.table, FunctionEntry.stops]
  have whole : (asking find).functions.takeWhile (fun f => !f.stops marked) =
      [⟨"zkmain", false⟩, ⟨"search", false⟩] := by
    simp [asking, guest, Guest.table, Guest.entry, FunctionEntry.stops]
  rw [passed] at answer
  rw [whole, List.nil_append] at known
  have taken : h.registry.register (asking find).functions =
      (.ok (), (h.registry.register (asking find).functions).2) := Prod.ext answer rfl
  refine ⟨(h.registry.register (asking find).functions).2, by rw [Host.registryFor, taken], ?_⟩
  rw [known.checkTarget_eq, hit]
  rfl

/-- What comes of a segment in which `place` is given for the public word `v`. -/
structure Judged (v place : Word) (result : Outcome (Finished Word)) : Prop where
  returned_iff : (∃ f, result = .returned f) ↔ array[place.toNat]? = some v
  of_returned : ∀ f, result = .returned f →
    f.output = place ∧ f.segment.trace.events = accepted v place
  beyond : array.length ≤ place.toNat → result = .failed (.violated 0)
  other : place.toNat < array.length → array[place.toNat]? ≠ some v →
    result = .failed (.violated 1)

/-- A computation of the guest with `find` that goes on. -/
structure Computes (find : Word → Program Word) (c : Continuation Word) : Prop where
  guest_eq : c.guest = asking find
  schema_eq : c.schema = .empty
  context_eq : c.context = []
  target : c.registry.checkTarget "search" = .ok ()
  unfinished : c.next ≠ c.total

theorem open_asking {h : Host} {marked : String → Bool} (config_eq : h.config = config)
    (registry_eq : h.registry = .empty marked) (hit : marked "search" = true)
    (find : Word → Program Word) (total : Nat) :
    ∃ c₀, Continuation.open? h (asking find) total [] = .ok c₀ ∧
      ∀ earlier, (c₀.afterAll earlier).next < total → Computes find (c₀.afterAll earlier) := by
  have schema : h.config.schema = .empty := congrArg Config.schema config_eq
  have valid : h.config.schema.validateSequence total = .ok () := by
    refine ContextSchema.validateSequence_ok.mpr fun i _ _ => ?_
    rw [schema, slots_empty, slots_empty]
  obtain ⟨registry, taken, target⟩ := registered registry_eq hit find
  obtain ⟨c₀, opened, guest_eq, known⟩ : ∃ c₀ : Continuation Word,
      Continuation.open? h (asking find) total [] = .ok c₀ ∧ c₀.guest = asking find ∧
      c₀.registry = registry := by
    rw [Continuation.open?, valid, taken]
    exact ⟨_, rfl, rfl, rfl⟩
  refine ⟨c₀, opened, fun earlier unfinished => ?_⟩
  obtain ⟨same_guest, same_registry⟩ := c₀.afterAll_fixed earlier
  have provided := (Continuation.open_provided opened).2.afterAll valid earlier
  have empty : (c₀.afterAll earlier).context = [] := by
    rcases Nat.eq_zero_or_pos (c₀.afterAll earlier).next with first | behind
    · exact provided.first first
    · rw [← List.length_eq_zero_iff, provided.later behind unfinished, schema, slots_empty]
  exact {
    guest_eq := same_guest.trans guest_eq
    schema_eq := provided.schema_eq.trans schema
    context_eq := empty
    target := by rw [same_registry, known, target]
    unfinished := provided.total_eq ▸ Nat.ne_of_lt unfinished }

namespace Computes

variable {find : Word → Program Word} {c : Continuation Word} {v place : Word}

theorem start_prepared (computes : Computes find c) (loads : (find v).Loads stored place)
    (pub priv : List Word) :
    ∃ s s', c.start ⟨v :: pub, priv⟩ = .returned s ∧ Prepared v s' ∧
      (c.guest.main s.segmentId).run s = (check v place).run s' := by
  let position := Position.ofIndex c.next c.total
  obtain ⟨s, start⟩ : ∃ s, State.start (UInt32.ofNat c.next) position ⟨0, 0⟩ c.registry
      ⟨v :: pub, priv⟩ [] = .returned s :=
    (State.start_returned_iff rfl).mpr (Nat.zero_le _)
  obtain ⟨s', prepared, ran⟩ := run_mainWith start computes.target loads
  refine ⟨s, s', ?_, prepared, ?_⟩
  · rw [← start, ← slots_empty position, ← computes.schema_eq, ← computes.context_eq]
    rfl
  · rw [computes.guest_eq]
    exact ran

variable (computes : Computes find c) (loads : (find v).Loads stored place) (pub priv : List Word)
include computes loads

theorem rejects_beyond (beyond : array.length ≤ place.toNat) :
    (c.runSegment ⟨v :: pub, priv⟩).1 = .failed (.violated 0) := by
  obtain ⟨s, s', start, prepared, ran⟩ := computes.start_prepared loads pub priv
  rw [Continuation.runSegment_unfinished computes.unfinished]
  apply Continuation.attempt_failed start
  rw [ran, prepared.run_beyond beyond]

theorem rejects_other (inside : place.toNat < array.length) (other : array[place.toNat] ≠ v) :
    (c.runSegment ⟨v :: pub, priv⟩).1 = .failed (.violated 1) := by
  obtain ⟨s, s', start, prepared, ran⟩ := computes.start_prepared loads pub priv
  rw [Continuation.runSegment_unfinished computes.unfinished]
  apply Continuation.attempt_failed start
  rw [ran, prepared.run_other inside other]

theorem accepts (inside : place.toNat < array.length) (found : array[place.toNat] = v) :
    ∃ segment, (c.runSegment ⟨v :: pub, priv⟩).1 = .returned ⟨place, segment⟩ ∧
      segment.trace.events = accepted v place := by
  obtain ⟨s, s', start, prepared, ran⟩ := computes.start_prepared loads pub priv
  obtain ⟨s'', ended, running, held, handed, trace⟩ := prepared.run_found inside found
  obtain ⟨segment, sealed, kept⟩ := State.seal_held running held handed
    (c.guest.codec.encode place) c.preContextDigest
  refine ⟨segment, ?_, by rw [kept, trace]⟩
  rw [Continuation.runSegment_unfinished computes.unfinished]
  exact Continuation.attempt_sealed start (ran.trans ended) sealed

theorem judged : Judged v place (c.runSegment ⟨v :: pub, priv⟩).1 := by
  rcases Nat.lt_or_ge place.toNat array.length with inside | beyond
  · have at_place : array[place.toNat]? = some array[place.toNat] := List.getElem?_eq_getElem inside
    by_cases found : array[place.toNat] = v
    · obtain ⟨segment, returned, trace⟩ := computes.accepts loads pub priv inside found
      rw [found] at at_place
      rw [returned]
      exact {
        returned_iff := iff_of_true ⟨_, rfl⟩ at_place
        of_returned := by
          rintro f ⟨⟩
          exact ⟨rfl, trace⟩
        beyond := fun beyond => absurd inside (Nat.not_lt_of_le beyond)
        other := fun _ other => absurd at_place other }
    · rw [computes.rejects_other loads pub priv inside found]
      exact {
        returned_iff := iff_of_false nofun fun h => found (Option.some.inj (at_place.symm.trans h))
        of_returned := nofun
        beyond := fun beyond => absurd inside (Nat.not_lt_of_le beyond)
        other := fun _ _ => rfl }
  · rw [computes.rejects_beyond loads pub priv beyond]
    exact {
      returned_iff := iff_of_false nofun fun h => by
        rw [List.getElem?_eq_none beyond] at h
        cases h
      of_returned := nofun
      beyond := fun _ => rfl
      other := fun inside => absurd inside (Nat.not_lt_of_le beyond) }

end Computes

/-- The guest's own host opens every computation, and each of its segments is judged by the traced
part alone. Whatever only loads in the region and returns a place for the public word `v`: there is
a segment just if `v` is at that place, its trace is the one of `accepted`, a place behind the array
fails the first requirement and a place with another word the second. The guest's own search gives
every word of the array its place, and has every other word fail the first requirement. -/
theorem checked_search_sound :
    ∃ h, Host.ofConfig config = .ok h ∧ ∀ find total, ∃ c₀,
      Continuation.open? h (asking find) total [] = .ok c₀ ∧ ∀ earlier,
      let c := c₀.afterAll earlier
      c.next < total → ∀ v pub priv,
      let result := (c.runSegment ⟨v :: pub, priv⟩).1
      (∀ place, (find v).Loads stored place → Judged v place result) ∧
      (find = search →
        (∀ i (h : i < array.length), array[i] = v →
          ∃ f, result = .returned f ∧ f.output = UInt64.ofNat i) ∧
        (v ∉ array → result = .failed (.violated 0))) := by
  obtain ⟨h, marked, read, config_eq, registry_eq, hit⟩ := configured
  refine ⟨h, read, fun find total => ?_⟩
  obtain ⟨c₀, opened, computing⟩ := open_asking config_eq registry_eq hit find total
  refine ⟨c₀, opened, ?_⟩
  intro earlier c unfinished v pub priv result
  have computes : Computes find c := computing earlier unfinished
  refine ⟨fun place loads => computes.judged loads pub priv, ?_⟩
  rintro rfl
  obtain ⟨place, loads, known, unknown⟩ := loads_search v
  have judged : Judged v place result := computes.judged loads pub priv
  constructor
  · intro i hi here
    have small : (UInt64.ofNat i).toNat = i :=
      UInt64.toNat_ofNat_of_lt' (Nat.lt_trans hi (by decide))
    obtain rfl := known i hi here
    have found : array[(UInt64.ofNat i).toNat]? = some v := by
      rw [small]
      exact List.getElem?_eq_some_iff.mpr ⟨hi, here⟩
    obtain ⟨f, returned⟩ := judged.returned_iff.mpr found
    exact ⟨f, returned, (judged.of_returned f returned).1⟩
  · intro missing
    obtain rfl := unknown missing
    exact judged.beyond (by decide)

/-- A body that gives the place 3 whatever is asked for serves for the word 8 and for no other. A
place that has an address only if its higher half is dropped is behind the array. -/
theorem checked_search_sound_lying :
    ∃ h, Host.ofConfig config = .ok h ∧
      (∃ f, h.execute (asking fun _ => .ret 3) ⟨[8], []⟩ [] = .returned f ∧
        f.output = 3 ∧ f.segment.trace.events = accepted 8 3) ∧
      h.execute (asking fun _ => .ret 3) ⟨[5], []⟩ [] = .failed (.violated 1) ∧
      h.execute (asking fun _ => .ret 0x100000003) ⟨[8], []⟩ [] = .failed (.violated 0) := by
  obtain ⟨h, read, sound⟩ := checked_search_sound
  have alone (v place : Word) :
      Judged v place (h.execute (asking fun _ => .ret place) ⟨[v], []⟩ []) := by
    obtain ⟨c₀, opened, judged⟩ := sound (fun _ => .ret place) 1
    obtain ⟨-, -, first, -⟩ := Continuation.open_ready (by decide) opened
    have unfinished : (c₀.afterAll []).next < 1 :=
      Nat.lt_of_le_of_lt (Nat.le_of_eq first) Nat.zero_lt_one
    rw [Host.execute, opened]
    exact (judged [] unfinished v [] []).1 place .ret
  obtain ⟨f, returned⟩ := (alone 8 3).returned_iff.mpr rfl
  exact ⟨h, read, ⟨f, returned, (alone 8 3).of_returned f returned⟩,
    (alone 5 3).other (by decide) (by decide), (alone 8 0x100000003).beyond (by decide)⟩

end PhantomSearch

end SealedRun
