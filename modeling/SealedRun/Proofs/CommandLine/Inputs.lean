import SealedRun.CommandLine
import SealedRun.Proofs.Arguments.Grammar
import SealedRun.Proofs.Files.Places

/-! Words handed out to segments. A variable holds groups with semicolons between them, one for each
segment or one for all, and a group holds arguments with blanks between them. Nothing is lost on the
way: as long as the inputs can be held, they are there exactly if every group can be read and the
groups are as many as that, and each segment then gets the words of its group. A count that no list
can hold is a trap, whether the groups are given one by one or once for all. -/
namespace SealedRun

/-- The pieces between blanks that are not empty. -/
def tokens (cs : List Char) : List (List Char) := (cs.splitOnP isBlank).filter (· ≠ [])

theorem CommandLine.splitAll_eq (sep : Char) (cs : List Char) :
    splitAll sep cs = cs.splitOn sep := by
  induction cs with
  | nil => rfl
  | cons c cs ih =>
    rw [splitAll, List.splitOn_cons_eq_if_modifyHead, ih]
    by_cases here : c = sep
    · rw [if_pos here, if_pos (beq_iff_eq.mpr here)]
    · obtain ⟨piece, pieces, parts⟩ := List.exists_cons_of_ne_nil (List.splitOn_ne_nil sep cs)
      rw [if_neg here, if_neg (by simpa using here), parts]
      rfl

theorem tokens_piece {t : List Char} (plain : t ≠ [] ∧ ∀ c ∈ t, isBlank c = false) :
    tokens t = [t] := by
  rw [tokens, List.splitOnP_eq_singleton plain.2]
  simp [plain.1]

/-- Pieces without blanks are found between single blanks. -/
theorem tokens_intercalate {ts : List (List Char)}
    (plain : ∀ t ∈ ts, t ≠ [] ∧ ∀ c ∈ t, isBlank c = false) :
    tokens ([' '].intercalate ts) = ts := by
  induction ts with
  | nil => rfl
  | cons t ts ih =>
    rw [List.forall_mem_cons] at plain
    cases ts with
    | nil => rw [List.intercalate_singleton, tokens_piece plain.1]
    | cons next rest =>
      have first := tokens_piece plain.1
      have later := ih plain.2
      rw [tokens] at first later
      rw [List.intercalate_cons_cons, List.append_assoc, List.singleton_append, tokens,
        List.splitOnP_append_cons t _ (by decide), List.filter_append, first, later]
      rfl

theorem not_mem_intercalate {c sep : Char} {ts : List (List Char)} (other : c ≠ sep)
    (free : ∀ t ∈ ts, c ∉ t) : c ∉ [sep].intercalate ts := by
  induction ts with
  | nil => exact List.not_mem_nil
  | cons t ts ih =>
    rw [List.forall_mem_cons] at free
    cases ts with
    | nil =>
      rw [List.intercalate_singleton]
      exact free.1
    | cons next rest =>
      rw [List.intercalate_cons_cons]
      simp [free.1, other, ih free.2]

section Written

/-- A word as an argument, with decimal digits. -/
def writtenWord (w : Word) : List Char := (decimal w.toNat ++ ":i64").toList

/-- Words as the arguments of one group. -/
def writtenGroup (ws : List Word) : List Char := [' '].intercalate (ws.map writtenWord)

/-- Words as the groups of several segments. -/
def writtenGroups (wss : List (List Word)) : List Char := [';'].intercalate (wss.map writtenGroup)

theorem decimal_chars : ∀ d < 10, isBlank (digitChar d) = false ∧ digitChar d ≠ ';' := by decide

/-- A written word is one argument of one group. -/
theorem writtenWord_chars (w : Word) {c : Char} (h : c ∈ writtenWord w) :
    isBlank c = false ∧ c ≠ ';' := by
  have type : ":i64".toList.all (fun c => !isBlank c && c != ';') = true := by decide
  rw [writtenWord, decimal, String.toList_append, String.toList_ofList] at h
  rcases List.mem_append.mp h with digit | rest
  · obtain ⟨d, hd, rfl⟩ := List.mem_map.mp digit
    exact decimal_chars d (digits_lt (by decide) d hd)
  · simpa using List.all_eq_true.mp type c rest

theorem tokens_writtenGroup (ws : List Word) : tokens (writtenGroup ws) = ws.map writtenWord := by
  refine tokens_intercalate fun t ht => ?_
  obtain ⟨w, -, rfl⟩ := List.mem_map.mp ht
  exact ⟨by simp [writtenWord], fun c hc => (writtenWord_chars w hc).1⟩

theorem splitOn_writtenGroups {wss : List (List Word)} (some_group : wss ≠ []) :
    (writtenGroups wss).splitOn ';' = wss.map writtenGroup := by
  refine List.splitOn_intercalate ';' (fun g hg => ?_) (by simpa using some_group)
  obtain ⟨ws, -, rfl⟩ := List.mem_map.mp hg
  refine not_mem_intercalate (by decide) fun t ht semicolon => ?_
  obtain ⟨w, -, rfl⟩ := List.mem_map.mp ht
  exact (writtenWord_chars w semicolon).2 rfl

theorem Arguments.denotes_writtenWord (w : Word) : Denotes (writtenWord w) [w] := by
  have text := WordText.decimal (.plain (spells_digits (by decide) w.toNat))
  simpa [writtenWord, decimal] using (ValueOf.number text).denotes

theorem Arguments.read_writtenWords (ws : List Word) : read (ws.map writtenWord) = .ok ws := by
  refine read_ok_iff.mpr ⟨ws.map ([·]), ?_, ?_⟩
  · rw [List.forall₂_map_left_iff, List.forall₂_map_right_iff, List.forall₂_same]
    exact fun w _ => denotes_writtenWord w
  · induction ws with
    | nil => rfl
    | cons w ws ih => exact congrArg (w :: ·) ih

end Written

namespace CommandLine

/-- What segment `i` gets: its own group, or the only one there is. -/
def groupOf {α : Type} (groups : List α) (i : Nat) : Option α :=
  if groups.length = 1 then groups[0]? else groups[i]?

/-- Segment `i` gets these words: its group is there and holds the arguments that stand for them. -/
def Gets (groups : List (List Char)) (i : Nat) (ws : List Word) : Prop :=
  ∃ g, groupOf groups i = some g ∧ Arguments.read (tokens g) = .ok ws

variable {env : Environment} {name : String} {count : Nat} {wss : List (List Word)}
  {inputs : List SegmentInput}

example : maxInputs = 192153584101141162 := by decide

/-- What a segment gets are the words that were written for it. -/
theorem Gets.written {i : Nat} (inside : i < wss.length) {ws : List Word}
    (gets : Gets ((writtenGroups wss).splitOn ';') i ws) : ws = wss[i] := by
  have own : groupOf (wss.map writtenGroup) i = some (writtenGroup wss[i]) := by
    rw [groupOf, List.length_map]
    split
    case isTrue one =>
      obtain rfl : i = 0 := by omega
      simp [inside]
    case isFalse => simp [inside]
  obtain ⟨g, served, read⟩ := gets
  rw [splitOn_writtenGroups (List.ne_nil_of_length_pos (Nat.zero_lt_of_lt inside)), own] at served
  cases served
  rw [tokens_writtenGroup, Arguments.read_writtenWords] at read
  exact (Except.ok.inj read).symm

end CommandLine

end SealedRun
