import SealedRun.Proofs.Files.Places

/-! New directories. To make directories adds directories where nothing was and changes nothing
else; and a file in a place that they do not need does not keep them from being made. -/
namespace SealedRun.Files

/-- From `fs` to `fs'` only by new directories. -/
def Grown (fs fs' : Files) : Prop :=
  ∀ q, fs'.get? q = fs.get? q ∨ fs.get? q = none ∧ fs'.get? q = some .directory

/-- The two differ at most in one place, where `fs'` has this file. -/
structure Beside (p : Place) (bytes : Bytes) (fs fs' : Files) : Prop where
  same : ∀ q, q ≠ p → fs'.get? q = fs.get? q
  here : fs'.get? p = some (.file bytes)

section Grown

variable {fs fs' fs'' : Files} {p : Path} {q : Place} {bytes : Bytes}

theorem Grown.refl (fs : Files) : Grown fs fs := fun _ => .inl rfl

theorem Grown.trans (h : Grown fs fs') (h' : Grown fs' fs'') : Grown fs fs'' := fun q => by
  rcases h q with same | ⟨new, made⟩
  · rcases h' q with same' | ⟨new', made'⟩
    · exact .inl (same'.trans same)
    · exact .inr ⟨same ▸ new', made'⟩
  · rcases h' q with same' | ⟨new', -⟩
    · exact .inr ⟨new, same'.trans made⟩
    · rw [made] at new'
      cases new'

theorem Grown.file_iff (h : Grown fs fs') :
    fs'.get? q = some (.file bytes) ↔ fs.get? q = some (.file bytes) := by
  rcases h q with same | ⟨new, made⟩
  · rw [same]
  · rw [new, made]
    exact ⟨nofun, nofun⟩

theorem Grown.directory (h : Grown fs fs') (there : fs.get? q = some .directory) :
    fs'.get? q = some .directory := by
  rcases h q with same | ⟨new, -⟩
  · exact same.trans there
  · rw [there] at new
    cases new

/-- A directory that is made was missing before, or nothing is done. -/
theorem makeDirectory_cases (h : fs.makeDirectory p = .ok fs') :
    (∃ place, fs.resolve p = .ok (place, some .directory) ∧ fs' = fs) ∨
    (p.parts ≠ [] ∧ fs.resolve p = .ok (p.place, none) ∧ fs.get? p.place = none ∧
      fs' = fs.set p.place .directory) := by
  unfold makeDirectory at h
  split at h
  · cases h
  case h_2 place resolved =>
    cases h
    have named : p.parts ≠ [] := by
      intro root
      rw [resolve, root, find] at resolved
      cases resolved
    obtain ⟨-, -, rfl, missing⟩ := (resolve_ok_iff named).mp resolved
    exact .inr ⟨named, resolved, missing.symm, rfl⟩
  case h_3 place resolved =>
    cases h
    exact .inl ⟨place, resolved, rfl⟩
  · cases h

theorem makeDirectory_grown (h : fs.makeDirectory p = .ok fs') : Grown fs fs' := by
  obtain ⟨-, -, rfl⟩ | ⟨-, -, missing, rfl⟩ := makeDirectory_cases h
  · exact .refl fs'
  · intro q
    by_cases same : q = p.place
    · have closed : fs.get? p.place ≠ some .directory := by rw [missing]; nofun
      rw [same]
      exact .inr ⟨missing, get?_set_self closed⟩
    · exact .inl (get?_set_other fs _ same)

/-- The places that a path needs as directories if it is to be one itself. -/
def needed (p : Path) : List Place := p.place :: passed (.ofPath p) p.parts

/-- A directory that was made is there, and so is all above it. -/
theorem makeDirectory_reached (h : fs.makeDirectory p = .ok fs') (named : p.parts ≠ []) :
    ∀ q ∈ needed p, fs'.get? q = some .directory := by
  have grown := makeDirectory_grown h
  rw [needed, List.forall_mem_cons]
  obtain ⟨place, resolved, rfl⟩ | ⟨-, resolved, missing, rfl⟩ := makeDirectory_cases h
  · obtain ⟨-, way, rfl, here⟩ := (resolve_ok_iff named).mp resolved
    exact ⟨here.symm, way⟩
  · obtain ⟨-, way, -⟩ := (resolve_ok_iff named).mp resolved
    have closed : fs.get? p.place ≠ some .directory := by rw [missing]; nofun
    exact ⟨get?_set_self closed, fun q hq => grown.directory (way q hq)⟩

/-- The last directory is made on its own, or after those above it. -/
theorem makeDirectories_cases (h : fs.makeDirectories p = .ok fs') (named : p.parts ≠ []) :
    fs.makeDirectory p = .ok fs' ∨
    fs.makeDirectory p = .error .notFound ∧
      ∃ above, fs.makeDirectories p.above = .ok above ∧ above.makeDirectory p = .ok fs' := by
  rw [makeDirectories, dif_neg named] at h
  split at h
  case h_1 missing =>
    split at h
    · cases h
    case h_2 above made => exact .inr ⟨missing, above, made, h⟩
  · exact .inl h

theorem makeDirectories_grown {fs fs' : Files} {p : Path} (h : fs.makeDirectories p = .ok fs') :
    Grown fs fs' := by
  by_cases root : p.parts = []
  · rw [makeDirectories, dif_pos root] at h
    cases h
    exact .refl fs
  · obtain made | ⟨-, above, made, last⟩ := makeDirectories_cases h root
    · exact makeDirectory_grown made
    · have := p.length_above_lt root
      exact (makeDirectories_grown made).trans (makeDirectory_grown last)
termination_by p.parts.length

theorem makeDirectories_reached (h : fs.makeDirectories p = .ok fs') (named : p.parts ≠ []) :
    ∀ q ∈ needed p, fs'.get? q = some .directory := by
  obtain made | ⟨-, above, -, last⟩ := makeDirectories_cases h named
  · exact makeDirectory_reached made named
  · exact makeDirectory_reached last named

theorem createDirectories_grown {path : String} (h : fs.createDirectories path = .ok fs') :
    Grown fs fs' := by
  unfold createDirectories at h
  split at h
  · cases h
    exact .refl fs
  · cases readable : Path.ofText path with
    | error e => rw [readable] at h; cases h
    | ok p =>
      rw [readable] at h
      exact makeDirectories_grown h

end Grown

section Beside

variable {fs fs₁ fs' : Files} {p : Path} {q : Place} {bytes : Bytes}

theorem Beside.set {r : Place} (beside : Beside q bytes fs fs') (apart : q ≠ r) (e : Entry) :
    Beside q bytes (fs.set r e) (fs'.set r e) := by
  refine ⟨fun t other => ?_, ?_⟩
  · by_cases set_there : t = r
    · rw [set_there, get?, get?, Files.set, Files.set, List.lookup_cons, List.lookup_cons,
        beq_self_eq_true]
    · rw [get?_set_other fs _ set_there, get?_set_other fs' _ set_there, beside.same t other]
  · rw [get?_set_other fs' _ apart]
    exact beside.here

theorem resolve_beside (beside : Beside q bytes fs fs') (apart : q ∉ needed p) :
    fs'.resolve p = fs.resolve p := by
  rw [needed, List.mem_cons, not_or] at apart
  refine find_congr (fun r hr => beside.same r ?_) (beside.same _ (Ne.symm apart.1))
  rintro rfl
  exact apart.2 hr

/-- A place that is no directory in the end was not needed. -/
theorem not_needed (reached : ∀ r ∈ needed p, fs₁.get? r = some .directory)
    (free : fs₁.get? q ≠ some .directory) : q ∉ needed p := fun h => free (reached q h)

theorem makeDirectory_beside (beside : Beside q bytes fs fs') (h : fs.makeDirectory p = .ok fs₁)
    (apart : q ∉ needed p) : ∃ fs₁', fs'.makeDirectory p = .ok fs₁' ∧ Beside q bytes fs₁ fs₁' := by
  have alike := resolve_beside beside apart
  obtain ⟨place, resolved, rfl⟩ | ⟨-, resolved, -, rfl⟩ := makeDirectory_cases h
  · exact ⟨fs', by rw [makeDirectory, alike, resolved], beside⟩
  · have other : q ≠ p.place := fun same => apart (same ▸ List.mem_cons_self ..)
    exact ⟨fs'.set p.place .directory, by rw [makeDirectory, alike, resolved],
      beside.set other .directory⟩

theorem makeDirectory_error {e : FileError} (alike : fs'.resolve p = fs.resolve p)
    (h : fs.makeDirectory p = .error e) : fs'.makeDirectory p = .error e := by
  rw [makeDirectory] at h ⊢
  rw [alike]
  split at h <;> cases h <;> rfl

theorem makeDirectories_beside {fs fs₁ fs' : Files} {p : Path} (beside : Beside q bytes fs fs')
    (h : fs.makeDirectories p = .ok fs₁) (free : fs₁.get? q ≠ some .directory) :
    ∃ fs₁', fs'.makeDirectories p = .ok fs₁' ∧ Beside q bytes fs₁ fs₁' := by
  by_cases root : p.parts = []
  · rw [makeDirectories, dif_pos root] at h ⊢
    cases h
    exact ⟨fs', rfl, beside⟩
  · have apart := not_needed (makeDirectories_reached h root) free
    rw [makeDirectories, dif_neg root]
    obtain made | ⟨missing, above, made, last⟩ := makeDirectories_cases h root
    · obtain ⟨fs₁', made', beside'⟩ := makeDirectory_beside beside made apart
      exact ⟨fs₁', by rw [made'], beside'⟩
    · have free' : above.get? q ≠ some .directory := fun there =>
        free ((makeDirectory_grown last).directory there)
      have := p.length_above_lt root
      obtain ⟨above', made', beside'⟩ := makeDirectories_beside beside made free'
      obtain ⟨fs₁', last', beside''⟩ := makeDirectory_beside beside' last apart
      refine ⟨fs₁', ?_, beside''⟩
      rw [makeDirectory_error (resolve_beside beside apart) missing, made']
      exact last'
termination_by p.parts.length

/-- Directories can be made beside a file that is not in their way. -/
theorem createDirectories_beside {path : String} (beside : Beside q bytes fs fs')
    (h : fs.createDirectories path = .ok fs₁) (free : fs₁.get? q ≠ some .directory) :
    ∃ fs₁', fs'.createDirectories path = .ok fs₁' ∧ Beside q bytes fs₁ fs₁' := by
  unfold createDirectories at h ⊢
  split at h
  case isTrue named =>
    cases h
    exact ⟨fs', by rw [if_pos named], beside⟩
  case isFalse named =>
    rw [if_neg named]
    cases readable : Path.ofText path with
    | error e => rw [readable] at h; cases h
    | ok p =>
      rw [readable] at h
      exact makeDirectories_beside beside h free

theorem Beside.of_set (closed : fs.get? q ≠ some .directory) :
    Beside q bytes fs (fs.set q (.file bytes)) :=
  ⟨fun _ other => get?_set_other fs _ other, get?_set_self closed⟩

/-- A file makes no difference to what else can be written, also to itself. -/
theorem Beside.writable {path : String} (beside : Beside q bytes fs fs')
    (free : fs.get? q ≠ some .directory) (h : fs.Writable path) : fs'.Writable path := by
  refine h.congr fun r => ?_
  by_cases same : r = q
  · rw [same, beside.here]
    exact ⟨nofun, fun there => absurd there free⟩
  · rw [beside.same r same]

end Beside

end SealedRun.Files
