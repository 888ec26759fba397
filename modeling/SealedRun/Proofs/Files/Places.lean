import SealedRun.Files

/-! Where paths lead. A path leads to one place, known without the files, if its names are short and
everything it passes on the way is a directory. So a file that was written is read back, and what
leaves directories where they are leaves every other path where it led. -/
namespace SealedRun

/-- Two steps in a row succeed if both do. -/
theorem bind_ok_iff {ε α β : Type} {x : Except ε α} {next : α → Except ε β} {b : β} :
    x >>= next = .ok b ↔ ∃ a, x = .ok a ∧ next a = .ok b := by
  cases x with
  | error e =>
    constructor
    · intro h
      cases h
    · rintro ⟨a, h, -⟩
      cases h
  | ok a =>
    constructor
    · exact fun h => ⟨a, rfl, h⟩
    · rintro ⟨_, h, h'⟩
      cases h
      exact h'

/-- The place a path stands for. -/
def Path.place (p : Path) : Place := p.parts.foldl Place.step (.ofPath p)

/-- The place the text of a path stands for. -/
def Place.ofText (path : String) : Place := (Path.ofString path).place

section Names

theorem pieces_slash (piece cs ds : List Char) :
    Path.pieces piece (cs ++ '/' :: ds) = Path.pieces piece cs ++ Path.pieces [] ds := by
  induction cs generalizing piece with
  | nil => simp [Path.pieces]
  | cons c cs ih =>
    by_cases slash : c = '/'
    · simp only [List.cons_append, Path.pieces, if_pos slash, ih]
    · simp only [List.cons_append, Path.pieces, if_neg slash, ih]

theorem pieces_of_no_slash (piece : List Char) {cs : List Char} (h : '/' ∉ cs) :
    Path.pieces piece cs = [String.ofList (piece.reverse ++ cs)] := by
  induction cs generalizing piece with
  | nil => rw [Path.pieces, List.append_nil]
  | cons c cs ih =>
    rw [List.mem_cons, not_or] at h
    rw [Path.pieces, if_neg (Ne.symm h.1), ih (c :: piece) h.2, List.reverse_cons,
      List.append_assoc]
    rfl

/-- The name of something in a directory: no dots for the directory itself or the one above. -/
structure PlainName (name : String) : Prop where
  nonempty : name ≠ ""
  undotted : name ≠ "." ∧ name ≠ ".."
  unslashed : '/' ∉ name.toList

/-- A plain name in a directory is one part more, and means no directory itself. -/
theorem Path.ofString_inside (directory : String) {name : String} (plain : PlainName name) :
    Path.ofString (directory ++ "/" ++ name) =
      ⟨(Path.ofString (directory ++ "/")).absolute,
        (Path.ofString (directory ++ "/")).parts ++ [name], false⟩ := by
  have text : (directory ++ "/" ++ name).toList = directory.toList ++ '/' :: name.toList := by
    simp [String.toList_append]
  have shorter : (directory ++ "/").toList = directory.toList ++ '/' :: [] := by
    simp [String.toList_append]
  have absolute : (Path.ofString (directory ++ "/" ++ name)).absolute =
      (Path.ofString (directory ++ "/")).absolute := by
    simp only [Path.ofString, text, shorter, List.head?_append, List.head?_cons]
  have parts : (Path.ofString (directory ++ "/" ++ name)).parts =
      (Path.ofString (directory ++ "/")).parts ++ [name] := by
    simp only [Path.ofString, text, shorter, pieces_slash,
      pieces_of_no_slash [] plain.unslashed, pieces_of_no_slash [] (List.not_mem_nil),
      List.filter_append]
    simp [plain.nonempty]
  have slashed : (Path.ofString (directory ++ "/" ++ name)).slashed = false := by
    have some_char : name.toList ≠ [] := fun none =>
      plain.nonempty (String.toList_inj.mp (none.trans String.toList_empty.symm))
    have last : (directory.toList ++ '/' :: name.toList).getLast? =
        some (name.toList.getLast some_char) := by
      rw [List.getLast?_append, List.getLast?_cons_of_ne_nil some_char,
        List.getLast?_eq_some_getLast some_char, Option.some_or]
    have other : name.toList.getLast some_char ≠ '/' := fun slash =>
      plain.unslashed (slash ▸ List.getLast_mem some_char)
    simp only [Path.ofString, text, last, Option.some.injEq, other, decide_false]
  rw [← absolute, ← parts, ← slashed]

theorem Place.ofText_inside (directory : String) {name : String} (plain : PlainName name) :
    Place.ofText (directory ++ "/" ++ name) = Place.ofText (directory ++ "/") ++ [name] := by
  rw [Place.ofText, Place.ofText, Path.place, Path.place, Path.ofString_inside directory plain,
    List.foldl_append, List.foldl_cons, List.foldl_nil, Place.step, if_neg plain.undotted.1,
    if_neg plain.undotted.2]
  rfl

theorem isDigit_of_mem_repr {n : Nat} {c : Char} (hc : c ∈ n.repr.toList) : c.isDigit = true :=
  Nat.isDigit_of_mem_toDigits (by decide) (by decide) (Nat.toList_repr ▸ hc)

theorem plainName_repr (n : Nat) : PlainName n.repr := by
  have no_dot (name : String) (dot : '.' ∈ name.toList) : n.repr ≠ name := by
    rintro rfl
    exact absurd (isDigit_of_mem_repr dot) (by decide)
  refine ⟨Nat.repr_ne_empty, ⟨no_dot "." (by decide), no_dot ".." (by decide)⟩, fun slash => ?_⟩
  exact absurd (isDigit_of_mem_repr slash) (by decide)

theorem utf8ByteSize_le (s : String) : s.utf8ByteSize ≤ 4 * s.length := by
  rw [← String.ofList_toList (s := s), String.length_ofList]
  induction s.toList with
  | nil => exact Nat.le_refl 0
  | cons c cs ih =>
    have size := c.utf8Size_le_four
    rw [← List.singleton_append, String.ofList_append, String.utf8ByteSize_append,
      ← String.singleton_eq_ofList, String.utf8ByteSize_singleton, List.singleton_append,
      List.length_cons]
    omega

end Names

namespace Files

/-- The places that a path passes before the last one. -/
def passed : Place → List String → List Place
  | here, part :: next :: rest => here.step part :: passed (here.step part) (next :: rest)
  | _, _ => []

section Get

variable {fs : Files} {p q : Place} {e : Entry}

theorem lookup_filter_ne (entries : List (Place × Entry)) (other : q ≠ p) :
    (entries.filter fun entry => entry.1 != p).lookup q = entries.lookup q := by
  induction entries with
  | nil => rfl
  | cons entry entries ih =>
    by_cases removed : entry.1 = p
    · have different : (q == entry.1) = false := by simpa [removed] using other
      rw [List.filter_cons_of_neg (by simpa using removed), ih, List.lookup_cons, different]
    · rw [List.filter_cons_of_pos (by simpa using removed), List.lookup_cons, List.lookup_cons, ih]

theorem get?_set_other (fs : Files) (e : Entry) (other : q ≠ p) :
    (fs.set p e).get? q = fs.get? q := by
  have different : (q == p) = false := by simpa using other
  simp only [get?, set, List.lookup_cons, different, lookup_filter_ne _ other]

/-- What is set is there, unless the place is above the working directory. -/
theorem get?_set_self (closed : fs.get? p ≠ some .directory) :
    (fs.set p e).get? p = some e := by
  have below : ¬ p.all (· = "..") = true := fun h => closed (if_pos h)
  rw [get?, if_neg below, set, List.lookup_cons, beq_self_eq_true]

/-- A file in a place where no directory is leaves the directories as they are. -/
theorem get?_set_file_iff {bytes : Bytes} (closed : fs.get? p ≠ some .directory) :
    (fs.set p (.file bytes)).get? q = some .directory ↔ fs.get? q = some .directory := by
  by_cases same : q = p
  · subst same
    rw [get?_set_self closed]
    exact ⟨nofun, fun there => absurd there closed⟩
  · rw [get?_set_other fs _ same]

end Get

section Find

variable {fs fs' : Files}

theorem lookUp_short {here : Place} {part : String} (short : part.utf8ByteSize ≤ Path.maxPartSize) :
    fs.lookUp here part = .ok (here.step part, fs.get? (here.step part)) :=
  if_neg (Nat.not_lt.mpr short)

theorem lookUp_long {here : Place} {part : String} (long : Path.maxPartSize < part.utf8ByteSize) :
    fs.lookUp here part = .error .nameTooLong := if_pos long

/-- What several parts lead to is decided by what the first one leads to. -/
theorem find_cons (fs : Files) (here : Place) (part next : String) (rest : List String) :
    fs.find here (part :: next :: rest) =
      if Path.maxPartSize < part.utf8ByteSize then .error .nameTooLong
      else match fs.get? (here.step part) with
        | none => .error .notFound
        | some (.file _) => .error .notDirectory
        | some .directory => fs.find (here.step part) (next :: rest) := by
  by_cases long : Path.maxPartSize < part.utf8ByteSize
  · rw [find, lookUp_long long, if_pos long]
    exact List.cons_ne_nil next rest
  · rw [find, lookUp_short (Nat.not_lt.mp long), if_neg long]
    · cases fs.get? (here.step part) with
      | none => rfl
      | some e => cases e <;> rfl
    · exact List.cons_ne_nil next rest

/-- A path leads somewhere exactly if its names are short and all it passes are directories. -/
theorem find_ok_iff {here : Place} {parts : List String} (some_part : parts ≠ []) {place : Place}
    {e : Option Entry} : fs.find here parts = .ok (place, e) ↔
      (∀ part ∈ parts, part.utf8ByteSize ≤ Path.maxPartSize) ∧
      (∀ q ∈ passed here parts, fs.get? q = some .directory) ∧
      place = parts.foldl Place.step here ∧ e = fs.get? place := by
  induction parts generalizing here with
  | nil => exact absurd rfl some_part
  | cons part rest ih =>
    cases rest with
    | nil =>
      rw [find, lookUp]
      by_cases long : Path.maxPartSize < part.utf8ByteSize
      · rw [if_pos long]
        simp only [reduceCtorEq, List.mem_singleton, forall_eq, false_iff, not_and]
        omega
      · rw [if_neg long]
        simp only [passed, List.foldl_cons, List.foldl_nil, List.mem_singleton, forall_eq,
          Nat.not_lt.mp long, List.not_mem_nil, false_imp_iff, implies_true, true_and,
          Except.ok.injEq, Prod.mk.injEq]
        constructor
        · rintro ⟨rfl, rfl⟩
          exact ⟨rfl, rfl⟩
        · rintro ⟨rfl, rfl⟩
          exact ⟨rfl, rfl⟩
    | cons next rest =>
      rw [find_cons, passed, List.forall_mem_cons, List.forall_mem_cons, List.foldl_cons]
      by_cases long : Path.maxPartSize < part.utf8ByteSize
      · rw [if_pos long]
        simp only [reduceCtorEq, false_iff, not_and]
        omega
      · rw [if_neg long]
        have later : fs.find (here.step part) (next :: rest) = .ok (place, e) ↔ _ :=
          ih (List.cons_ne_nil next rest)
        cases way : fs.get? (here.step part) with
        | none => simp [way]
        | some entry =>
          cases entry with
          | file bytes => simp [way]
          | directory => simp [way, later, Nat.not_lt.mp long]

/-- The files are looked at nowhere but on the way and at its end. -/
theorem find_congr {here : Place} {parts : List String}
    (way : ∀ q ∈ passed here parts, fs'.get? q = fs.get? q)
    (last : fs'.get? (parts.foldl Place.step here) = fs.get? (parts.foldl Place.step here)) :
    fs'.find here parts = fs.find here parts := by
  induction parts generalizing here with
  | nil => rfl
  | cons part rest ih =>
    cases rest with
    | nil =>
      rw [List.foldl_cons, List.foldl_nil] at last
      rw [find, find, lookUp, lookUp, last]
    | cons next rest =>
      rw [passed, List.forall_mem_cons] at way
      rw [find_cons, find_cons, way.1, ih way.2 last]

end Find

/-- The text is a path to a file, and all that the path passes are directories. -/
structure Admits (fs : Files) (path : String) : Prop where
  readable : Path.ofText path = .ok (.ofString path)
  named : (Path.ofString path).parts ≠ []
  unslashed : (Path.ofString path).slashed = false
  short : ∀ part ∈ (Path.ofString path).parts, part.utf8ByteSize ≤ Path.maxPartSize
  way : ∀ q ∈ passed (.ofPath (.ofString path)) (Path.ofString path).parts,
    fs.get? q = some .directory

theorem ofText_ok_iff {path : String} {p : Path} :
    Path.ofText path = .ok p ↔ '\x00' ∉ path.toList ∧ path.utf8ByteSize ≤ Path.maxSize ∧
      path ≠ "" ∧ p = .ofString path := by
  unfold Path.ofText
  split
  case isTrue zero =>
    exact iff_of_false nofun fun h => h.1 (List.contains_iff_mem.mp zero)
  case isFalse no_zero =>
    rw [and_iff_right (mt List.contains_iff_mem.mpr no_zero)]
    split
    case isTrue long => exact iff_of_false nofun fun h => Nat.not_lt.mpr h.1 long
    case isFalse fits =>
      rw [and_iff_right (Nat.not_lt.mp fits)]
      split
      case isTrue none => exact iff_of_false nofun fun h => h.1 none
      case isFalse some_char =>
        rw [and_iff_right some_char]
        exact ⟨fun h => (Except.ok.inj h).symm, fun h => congrArg Except.ok h.symm⟩

section ReadWrite

variable {fs fs' : Files} {path path' : String} {bytes bytes' : Bytes} {place : Place}

theorem resolve_ok_iff {p : Path} (named : p.parts ≠ []) {e : Option Entry} :
    fs.resolve p = .ok (place, e) ↔
      (∀ part ∈ p.parts, part.utf8ByteSize ≤ Path.maxPartSize) ∧
      (∀ q ∈ passed (.ofPath p) p.parts, fs.get? q = some .directory) ∧
      place = p.place ∧ e = fs.get? place :=
  find_ok_iff named

theorem Admits.resolve (h : fs.Admits path) :
    fs.resolve (.ofString path) = .ok (.ofText path, fs.get? (.ofText path)) :=
  (resolve_ok_iff h.named).mpr ⟨h.short, h.way, rfl, rfl⟩

/-- A path that leads to no directory, and does not ask for one, is a path to a file. -/
theorem admits_of_resolve {e : Option Entry} (readable : Path.ofText path = .ok (.ofString path))
    (unslashed : (Path.ofString path).slashed = false)
    (resolved : fs.resolve (.ofString path) = .ok (place, e)) (closed : e ≠ some .directory) :
    fs.Admits path ∧ place = .ofText path ∧ e = fs.get? (.ofText path) := by
  have named : (Path.ofString path).parts ≠ [] := by
    intro root
    rw [Files.resolve, root, find] at resolved
    cases resolved
    exact closed rfl
  obtain ⟨short, way, rfl, rfl⟩ := (resolve_ok_iff named).mp resolved
  exact ⟨⟨readable, named, unslashed, short, way⟩, rfl, rfl⟩

theorem read_ok_iff : fs.read path = .ok bytes ↔
    fs.Admits path ∧ fs.get? (.ofText path) = some (.file bytes) := by
  simp only [Files.read, bind_ok_iff]
  constructor
  · rintro ⟨p, readable, ⟨place, e⟩, resolved, h⟩
    obtain rfl := (ofText_ok_iff.mp readable).2.2.2
    split at h
    · cases h
    · cases h
    case h_3 same =>
      cases same
      split at h
      · cases h
      case isFalse unslashed =>
        cases h
        obtain ⟨admits, rfl, here⟩ := admits_of_resolve readable
          (Bool.not_eq_true _ ▸ unslashed) resolved nofun
        exact ⟨admits, here.symm⟩
  · rintro ⟨admits, here⟩
    refine ⟨_, admits.readable, _, admits.resolve, ?_⟩
    have unslashed : ¬ (Path.ofString path).slashed = true := by rw [admits.unslashed]; nofun
    simp only [here, if_neg unslashed]

theorem write_ok_iff : fs.write path bytes = .ok fs' ↔
    fs.Admits path ∧ fs.get? (.ofText path) ≠ some .directory ∧
      fs' = fs.set (.ofText path) (.file bytes) := by
  simp only [Files.write, bind_ok_iff]
  constructor
  · rintro ⟨p, readable, ⟨place, e⟩, resolved, h⟩
    obtain rfl := (ofText_ok_iff.mp readable).2.2.2
    split at h
    · cases h
    case h_2 closed same =>
      cases same
      split at h
      · cases h
      case isFalse unslashed =>
        cases h
        obtain ⟨admits, rfl, rfl⟩ := admits_of_resolve readable
          (Bool.not_eq_true _ ▸ unslashed) resolved closed
        exact ⟨admits, closed, rfl⟩
  · rintro ⟨admits, closed, rfl⟩
    refine ⟨_, admits.readable, _, admits.resolve, ?_⟩
    have unslashed : ¬ (Path.ofString path).slashed = true := by rw [admits.unslashed]; nofun
    simp only [if_neg unslashed]

/-- What a path admits depends on nothing but the directories. -/
theorem Admits.congr (same : ∀ q, fs'.get? q = some .directory ↔ fs.get? q = some .directory)
    (h : fs.Admits path) : fs'.Admits path :=
  { h with way := fun q hq => (same q).mpr (h.way q hq) }

theorem Admits.set {q : Place} (closed : fs.get? q ≠ some .directory) (h : fs.Admits path) :
    (fs.set q (.file bytes)).Admits path :=
  h.congr fun _ => get?_set_file_iff closed

/-- What was written is read back. -/
theorem read_write (h : fs.write path bytes = .ok fs') : fs'.read path = .ok bytes := by
  obtain ⟨admits, closed, rfl⟩ := write_ok_iff.mp h
  exact read_ok_iff.mpr ⟨admits.set closed, get?_set_self closed⟩

/-- A file in another place is read as before. -/
theorem read_write_other (h : fs.write path bytes = .ok fs')
    (other : Place.ofText path' ≠ .ofText path) (before : fs.read path' = .ok bytes') :
    fs'.read path' = .ok bytes' := by
  obtain ⟨-, closed, rfl⟩ := write_ok_iff.mp h
  obtain ⟨admits, here⟩ := read_ok_iff.mp before
  refine read_ok_iff.mpr ⟨admits.set closed, ?_⟩
  rw [get?_set_other fs _ other, here]

/-- A path that any file can be written to. -/
def Writable (fs : Files) (path : String) : Prop := ∀ bytes, ∃ fs', fs.write path bytes = .ok fs'

theorem writable_iff :
    fs.Writable path ↔ fs.Admits path ∧ fs.get? (.ofText path) ≠ some .directory := by
  constructor
  · intro h
    obtain ⟨fs', written⟩ := h []
    obtain ⟨admits, closed, -⟩ := write_ok_iff.mp written
    exact ⟨admits, closed⟩
  · rintro ⟨admits, closed⟩ bytes
    exact ⟨_, write_ok_iff.mpr ⟨admits, closed, rfl⟩⟩

theorem Writable.write (h : fs.Writable path) (bytes : Bytes) :
    fs.write path bytes = .ok (fs.set (.ofText path) (.file bytes)) := by
  obtain ⟨admits, closed⟩ := writable_iff.mp h
  exact write_ok_iff.mpr ⟨admits, closed, rfl⟩

theorem Writable.congr (same : ∀ q, fs'.get? q = some .directory ↔ fs.get? q = some .directory)
    (h : fs.Writable path) : fs'.Writable path := by
  obtain ⟨admits, closed⟩ := writable_iff.mp h
  exact writable_iff.mpr ⟨admits.congr same, fun there => closed ((same _).mp there)⟩

theorem Writable.set {q : Place} (closed : fs.get? q ≠ some .directory) (h : fs.Writable path) :
    (fs.set q (.file bytes)).Writable path :=
  h.congr fun _ => get?_set_file_iff closed

end ReadWrite

end Files

end SealedRun
