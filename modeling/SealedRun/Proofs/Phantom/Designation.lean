import SealedRun.Continuation

/-! Which functions are phantoms, read off the history of registrations. A registry keeps the
entries and the designated names apart, and a registration that fails keeps what it took in before;
still the two agree: the last entry taken in of a name and the mark of the name decide together. -/
namespace SealedRun

/-- Whether the entry stops a registration. -/
def FunctionEntry.stops (marked : String → Bool) (f : FunctionEntry) : Bool :=
  marked f.name && f.inlined

namespace Registry

/-- The registry behind registrations, one for each table, whatever came of them. -/
def registerAll (r : Registry) : List (List FunctionEntry) → Registry
  | [] => r
  | table :: tables => (r.register table).2.registerAll tables

/-- What registrations take in: of each table the entries in front of the first that stops it. -/
def processed (marked : String → Bool) (tables : List (List FunctionEntry)) :
    List FunctionEntry :=
  tables.flatMap fun table => table.takeWhile fun f => !f.stops marked

variable {marked : String → Bool} {r : Registry} {entries : List FunctionEntry}
  {f : FunctionEntry} {name : String}

/-- What a registry holds once the entries are taken in. -/
structure Holds (marked : String → Bool) (entries : List FunctionEntry) (r : Registry) :
    Prop where
  marked_eq : r.marked = marked
  functions_eq : r.functions = entries.reverse
  designated_iff : ∀ name, r.isPhantom name = true ↔
    marked name = true ∧ ∃ f ∈ entries, f.name = name
  fit : ∀ f ∈ entries, f.stops marked = false

theorem holds_empty : Holds marked [] (empty marked) where
  marked_eq := rfl
  functions_eq := rfl
  designated_iff _ := iff_of_false nofun fun h => by simp at h
  fit := nofun

namespace Holds

theorem enter (h : Holds marked entries r) (fit : f.stops marked = false) :
    Holds marked (entries ++ [f]) (r.enter f) where
  marked_eq := h.marked_eq
  functions_eq := by rw [Registry.enter, h.functions_eq, List.reverse_concat]
  designated_iff name := by
    have old := h.designated_iff name
    have taken : (∃ g ∈ entries ++ [f], g.name = name) ↔
        (∃ g ∈ entries, g.name = name) ∨ f.name = name := by
      simp [or_and_right, exists_or]
    rw [isPhantom, List.contains_iff_mem] at old ⊢
    rw [taken, Registry.enter, h.marked_eq]
    by_cases hm : marked f.name = true
    · rw [if_pos hm, List.mem_cons, old]
      constructor
      · rintro (rfl | ⟨known, earlier⟩)
        · exact ⟨hm, .inr rfl⟩
        · exact ⟨known, .inl earlier⟩
      · rintro ⟨known, earlier | rfl⟩
        · exact .inr ⟨known, earlier⟩
        · exact .inl rfl
    · rw [if_neg hm, old]
      constructor
      · rintro ⟨known, earlier⟩
        exact ⟨known, .inl earlier⟩
      · rintro ⟨known, earlier | rfl⟩
        · exact ⟨known, earlier⟩
        · exact absurd known hm
  fit g hg := by
    rcases List.mem_append.mp hg with earlier | last
    · exact h.fit g earlier
    · rw [List.mem_singleton.mp last]
      exact fit

/-- A registration takes in what stands in front of the first entry that stops it, and fails for
that entry if there is one. -/
theorem register (h : Holds marked entries r) (table : List FunctionEntry) :
    Holds marked (entries ++ table.takeWhile fun f => !f.stops marked) (r.register table).2 ∧
      (r.register table).1 = match table.find? (·.stops marked) with
        | none => .ok ()
        | some f => .error (.invalidTarget f.name .inlined) := by
  induction table generalizing r entries with
  | nil => exact ⟨(List.append_nil entries).symm ▸ h, rfl⟩
  | cons f table ih =>
    cases hs : f.stops marked with
    | true =>
      have stopped : (r.marked f.name && f.inlined) = true := h.marked_eq ▸ hs
      rw [Registry.register, if_pos stopped, List.takeWhile_cons_of_neg (by simp [hs]),
        List.append_nil, List.find?_cons_of_pos hs]
      exact ⟨h, rfl⟩
    | false =>
      have passed : ¬ (r.marked f.name && f.inlined) = true := by
        rw [h.marked_eq]
        exact ne_true_of_eq_false hs
      have later := ih (h.enter hs)
      rw [List.append_assoc] at later
      rw [Registry.register, if_neg passed, List.takeWhile_cons_of_pos (by simp [hs]),
        List.find?_cons_of_neg (by simp [hs])]
      exact later

theorem registerAll (h : Holds marked entries r) (tables : List (List FunctionEntry)) :
    Holds marked (entries ++ processed marked tables) (r.registerAll tables) := by
  induction tables generalizing r entries with
  | nil => exact (List.append_nil entries).symm ▸ h
  | cons table tables ih =>
    have later := ih (h.register table).1
    rw [List.append_assoc] at later
    exact later

/-- The entry that counts is the last one of its name. -/
theorem find?_eq (h : Holds marked entries r) (name : String) :
    r.find? name = (entries.filter (·.name == name)).getLast? := by
  rw [find?, h.functions_eq, ← List.head?_filter, List.filter_reverse, List.head?_reverse]

theorem checkTarget_eq (h : Holds marked entries r) (name : String) :
    r.checkTarget name = match (entries.filter (·.name == name)).getLast? with
      | none => .error (.invalidTarget name .unknown)
      | some f => if marked name then .ok ()
        else .error (.invalidTarget name (if f.inlined then .inlined else .notDesignated)) := by
  rw [checkTarget, h.find?_eq]
  cases hf : (entries.filter (·.name == name)).getLast? with
  | none => rfl
  | some f =>
    obtain ⟨known, named⟩ := List.mem_filter.mp (List.mem_of_getLast? hf)
    have named : f.name = name := beq_iff_eq.mp named
    have designated := h.designated_iff name
    by_cases hm : marked name = true
    · have fit : f.inlined = false := by
        have := h.fit f known
        rwa [FunctionEntry.stops, named, hm, Bool.true_and] at this
      have phantom := designated.mpr ⟨hm, f, known, named⟩
      simp only [fit, phantom, hm, Bool.false_eq_true, ↓reduceIte]
    · have plain : ¬ r.isPhantom name = true := fun phantom => hm (designated.mp phantom).1
      simp only [hm, plain, Bool.false_eq_true, ↓reduceIte]
      cases f.inlined <;> rfl

theorem isPhantom_iff (h : Holds marked entries r) (name : String) :
    r.isPhantom name = true ↔ r.checkTarget name = .ok () := by
  rw [h.checkTarget_eq, h.designated_iff]
  cases hf : (entries.filter (·.name == name)).getLast? with
  | none =>
    have unknown := List.getLast?_eq_none_iff.mp hf
    refine iff_of_false ?_ nofun
    rintro ⟨-, f, known, named⟩
    exact List.filter_eq_nil_iff.mp unknown f known (beq_iff_eq.mpr named)
  | some f =>
    obtain ⟨known, named⟩ := List.mem_filter.mp (List.mem_of_getLast? hf)
    by_cases hm : marked name = true
    · simp only [hm, ↓reduceIte, iff_true]
      exact ⟨trivial, f, known, beq_iff_eq.mp named⟩
    · simp [hm]

end Holds

end Registry

namespace Host

variable {α : Type} {h : Host} {g : Guest α} {f : FunctionEntry}

/-- An entry that stops the registration of a guest's table ends the computation there. -/
theorem open?_stopped {entries : List FunctionEntry} {marked : String → Bool}
    (holds : h.registry.Holds marked entries)
    (stopped : g.functions.find? (·.stops marked) = some f) (total : Nat) (context : List Word) :
    Continuation.open? h g total context = match h.config.schema.validateSequence total with
      | .error e => .error e
      | .ok () => .error (.invalidTarget f.name .inlined) := by
  have failed := (holds.register g.functions).2
  rw [stopped] at failed
  have whole : h.registry.register g.functions =
      (.error (.invalidTarget f.name .inlined), (h.registry.register g.functions).2) :=
    Prod.ext failed rfl
  have refused : h.registryFor g = .error (.invalidTarget f.name .inlined) := by
    rw [registryFor, whole]
  cases valid : h.config.schema.validateSequence total with
  | error e => simp only [Continuation.open?, valid]
  | ok u => simp only [Continuation.open?, valid, refused]

theorem execute_refused {e : ExecutionError} {context : List Word}
    (refused : Continuation.open? h g 1 context = .error e) (input : SegmentInput) :
    h.execute g input context = .failed e := by
  rw [execute, refused]

theorem executeSegments_refused {e : ExecutionError} {context : List Word}
    {inputs : List SegmentInput}
    (refused : Continuation.open? h g inputs.length context = .error e) :
    h.executeSegments g context inputs = .failed e := by
  rw [executeSegments, refused]

end Host

/-- Behind any registrations, with names that come again and with failures: a registration fails
just for the first entry of its table that is marked and inlined; a name is a target according to
its mark and the last entry of the name that was taken in; the designated names are the targets; and
a guest whose own table has an entry that stops it is refused at the opening of its computation, so
that it does not matter what it would do. -/
theorem designated_by_history (marked : String → Bool) (tables : List (List FunctionEntry)) :
    let r := (Registry.empty marked).registerAll tables
    let entries := Registry.processed marked tables
    (∀ table, (r.register table).1 = match table.find? (·.stops marked) with
      | none => .ok ()
      | some f => .error (.invalidTarget f.name .inlined)) ∧
    (∀ name, r.checkTarget name = match (entries.filter (·.name == name)).getLast? with
      | none => .error (.invalidTarget name .unknown)
      | some f => if marked name then .ok ()
        else .error (.invalidTarget name (if f.inlined then .inlined else .notDesignated))) ∧
    (∀ name, r.isPhantom name = true ↔ r.checkTarget name = .ok ()) ∧
    ∀ {α : Type} (h : Host) (g : Guest α) (f : FunctionEntry), h.registry = r →
      g.functions.find? (·.stops marked) = some f → ∀ context,
      (∀ main total, Continuation.open? h { g with main } total context =
        match h.config.schema.validateSequence total with
        | .error e => .error e
        | .ok () => .error (.invalidTarget f.name .inlined)) ∧
      (∃ e, ∀ main input, h.execute { g with main } input context = .failed e) ∧
      ∀ inputs, ∃ e, ∀ main, h.executeSegments { g with main } context inputs = .failed e := by
  intro r entries
  have holds : r.Holds marked entries := Registry.holds_empty.registerAll tables
  refine ⟨fun table => (holds.register table).2, holds.checkTarget_eq, holds.isPhantom_iff, ?_⟩
  intro α h g f same stopped context
  have holds' : h.registry.Holds marked entries := same ▸ holds
  have refused (total : Nat) : ∃ e, ∀ main,
      Continuation.open? h { g with main } total context = .error e := by
    have opening (main : UInt32 → Program α) :=
      Host.open?_stopped (g := { g with main }) holds' stopped total context
    cases hv : h.config.schema.validateSequence total with
    | error e =>
      rw [hv] at opening
      exact ⟨e, opening⟩
    | ok u =>
      rw [hv] at opening
      exact ⟨_, opening⟩
  refine ⟨fun main total => Host.open?_stopped (g := { g with main }) holds' stopped total context,
    ?_, fun inputs => ?_⟩
  · obtain ⟨e, he⟩ := refused 1
    exact ⟨e, fun main input => Host.execute_refused (he main) input⟩
  · obtain ⟨e, he⟩ := refused inputs.length
    exact ⟨e, fun main => Host.executeSegments_refused (he main)⟩

/-- A registration that fails for `"inner"` has taken in `"search"` and not `"late"`; `"plain"` is
registered twice, and the second time counts. -/
theorem designated_by_history_failing :
    let marked : String → Bool := fun name => name == "search" || name == "inner"
    let tables : List (List FunctionEntry) :=
      [[⟨"search", false⟩, ⟨"plain", true⟩, ⟨"inner", true⟩, ⟨"late", false⟩], [⟨"plain", false⟩]]
    let r := (Registry.empty marked).registerAll tables
    (r.register [⟨"late", false⟩, ⟨"inner", true⟩]).1 = .error (.invalidTarget "inner" .inlined) ∧
      r.checkTarget "search" = .ok () ∧ r.isPhantom "search" = true ∧
      r.checkTarget "plain" = .error (.invalidTarget "plain" .notDesignated) ∧
      r.checkTarget "late" = .error (.invalidTarget "late" .unknown) ∧
      ∀ main, Continuation.open? ⟨.empty, r⟩ ⟨"Inner", [⟨"inner", true⟩], .uint64, main⟩ 1 [] =
        .error (.invalidTarget "inner" .inlined) := by
  intro marked tables r
  obtain ⟨answers, targets, phantoms, opening⟩ := designated_by_history marked tables
  have search : r.checkTarget "search" = .ok () := targets "search"
  refine ⟨answers _, search, (phantoms "search").mpr search, targets "plain", targets "late",
    fun main => ?_⟩
  exact (opening ⟨.empty, r⟩ ⟨"Inner", [⟨"inner", true⟩], .uint64, main⟩ ⟨"inner", true⟩ rfl rfl
    []).1 main 1

end SealedRun
