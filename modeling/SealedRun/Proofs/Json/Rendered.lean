import SealedRun.Json.Reader
import SealedRun.Proofs.Json.Literals

/-! Documents read back. A document made of decimal numbers and escaped strings is found again at
the front of a text that begins with its shortest form, whatever follows that does not go on with
a number. The reader needs no more fuel than twice the length of that form. -/
namespace SealedRun.Json.Document

/-- Numbers are natural numbers in decimal, and the bodies of strings and names are escaped. -/
inductive Written : Document → Prop
  | null : Written .null
  | bool (b : Bool) : Written (.bool b)
  | number (n : Nat) : Written (.number (decimalBytes n))
  | text (bs : Bytes) : Written (.text (escape bs))
  | array {items : List Document} (items_written : ∀ d ∈ items, Written d) :
      Written (.array items)
  | object {members : List (Bytes × Document)}
      (names_escaped : ∀ m ∈ members, ∃ bs, m.1 = escape bs)
      (values_written : ∀ m ∈ members, Written m.2) : Written (.object members)

/-- What a reader looks at first. -/
def IsMark (b : UInt8) : Prop := b ≠ byte ' ' ∧ b ≠ byte '\t' ∧ b ≠ byte '\n' ∧ b ≠ byte '\r'

instance (b : UInt8) : Decidable (IsMark b) := inferInstanceAs (Decidable (_ ∧ _))

theorem skipBlanks_cons {b : UInt8} (mark : IsMark b) (r : Bytes) : skipBlanks (b :: r) = b :: r := by
  obtain ⟨space, tab, line, ret⟩ := mark
  simp [skipBlanks, space, tab, line, ret]

theorem dropWord?_append (word r : Bytes) : dropWord? word (word ++ r) = some r := by
  simp [dropWord?]

theorem quote_append (raw r : Bytes) :
    quote raw ++ r = byte '"' :: (raw ++ byte '"' :: r) := by
  rw [quote, List.cons_append, List.cons_append, List.append_assoc]
  rfl

theorem digit_ne {b c : UInt8} (digit : isDigit b = true) (other : isDigit c = false) : b ≠ c := by
  rintro rfl
  rw [digit] at other
  cases other

/-- A document begins with a byte that is no blank and closes no array. -/
theorem Written.render_cons {d : Document} (h : d.Written) :
    ∃ b r, d.render = b :: r ∧ IsMark b ∧ b ≠ byte ']' := by
  cases h with
  | null => exact ⟨byte 'n', _, rfl, by decide⟩
  | bool b =>
    cases b with
    | true => exact ⟨byte 't', _, rfl, by decide⟩
    | false => exact ⟨byte 'f', _, rfl, by decide⟩
  | number n =>
    cases bytes : decimalBytes n with
    | nil => exact absurd (List.map_eq_nil_iff.mp bytes) (digits_ne_nil 10 n)
    | cons b r =>
      have digit := isDigit_decimalBytes n b (bytes ▸ List.mem_cons_self ..)
      refine ⟨b, r, by rw [render], ⟨?_, ?_, ?_, ?_⟩, ?_⟩ <;>
        exact digit_ne digit (by decide)
  | text bs => exact ⟨byte '"', _, rfl, by decide⟩
  | @array items _ => cases items <;> exact ⟨byte '[', _, rfl, by decide⟩
  | @object members _ _ => cases members <;> exact ⟨byte '\x7b', _, rfl, by decide⟩

/-- The reader finds the document, given `fuel`, whatever follows it. -/
def Found (d : Document) : Prop :=
  ∀ fuel rest, 2 * d.render.length ≤ fuel → Ends rest →
    parseValue fuel (d.render ++ rest) = some (d, rest)

theorem found_null : Found .null := by
  intro fuel rest enough _
  obtain ⟨fuel, rfl⟩ := Nat.exists_eq_add_of_le' (Nat.le_trans (by decide : 1 ≤ 8) enough)
  rw [parseValue]
  rfl

theorem found_bool (b : Bool) : Found (.bool b) := by
  intro fuel rest enough _
  cases b with
  | true =>
    obtain ⟨fuel, rfl⟩ := Nat.exists_eq_add_of_le' (Nat.le_trans (by decide : 1 ≤ 8) enough)
    rw [parseValue]
    rfl
  | false =>
    obtain ⟨fuel, rfl⟩ := Nat.exists_eq_add_of_le' (Nat.le_trans (by decide : 1 ≤ 10) enough)
    rw [parseValue]
    rfl

theorem found_number (n : Nat) : Found (.number (decimalBytes n)) := by
  intro fuel rest enough ends
  have scanned := scanNumber_decimalBytes n ends
  rw [render] at enough ⊢
  cases bytes : decimalBytes n with
  | nil => exact absurd (List.map_eq_nil_iff.mp bytes) (digits_ne_nil 10 n)
  | cons b r =>
    have digit := isDigit_decimalBytes n b (bytes ▸ List.mem_cons_self ..)
    have ne {c : UInt8} (other : isDigit c = false) : b ≠ c := digit_ne digit other
    have mark : IsMark b :=
      ⟨ne (by decide), ne (by decide), ne (by decide), ne (by decide)⟩
    rw [bytes, List.length_cons] at enough
    obtain ⟨fuel, rfl⟩ : ∃ k, fuel = k + 1 := Nat.exists_eq_add_of_le' (by omega)
    rw [bytes, List.cons_append] at scanned
    rw [List.cons_append, parseValue, skipBlanks_cons mark]
    simp only [if_neg (ne (by decide : isDigit (byte '"') = false)),
      if_neg (ne (by decide : isDigit (byte '[') = false)),
      if_neg (ne (by decide : isDigit (byte '\x7b') = false)),
      if_neg (ne (by decide : isDigit (byte 'n') = false)),
      if_neg (ne (by decide : isDigit (byte 't') = false)),
      if_neg (ne (by decide : isDigit (byte 'f') = false)), scanned]
    rfl

theorem found_text (bs : Bytes) : Found (.text (escape bs)) := by
  intro fuel rest enough _
  have long : 1 ≤ fuel := by
    rw [render, quote, List.length_append, List.length_cons] at enough
    omega
  obtain ⟨fuel, rfl⟩ := Nat.exists_eq_add_of_le' long
  rw [render, quote_append, parseValue, skipBlanks_cons (by decide)]
  simp only [if_true, scanString_escape]
  rfl

theorem ends_renderItems (ds : List Document) (rest : Bytes) : Ends (renderItems ds ++ rest) := by
  cases ds <;> exact Ends.cons (by decide)

theorem ends_renderMembers (ms : List (Bytes × Document)) (rest : Bytes) :
    Ends (renderMembers ms ++ rest) := by
  cases ms with
  | nil => exact Ends.cons (by decide)
  | cons m ms => exact Ends.cons (by decide)

/-- Items are read one by one up to the bracket. -/
theorem parseItems_render {d : Document} {ds : List Document} (first : d.Found)
    (later : ∀ e ∈ ds, e.Found) (fuel : Nat) (rest : Bytes)
    (enough : 2 * (d.render ++ renderItems ds).length ≤ fuel) :
    parseItems fuel (d.render ++ (renderItems ds ++ rest)) = some (d :: ds, rest) := by
  induction ds generalizing d fuel with
  | nil =>
    rw [renderItems, List.length_append, List.length_singleton] at enough
    obtain ⟨fuel, rfl⟩ : ∃ k, fuel = k + 1 := Nat.exists_eq_add_of_le' (by omega)
    rw [parseItems, first fuel _ (by omega) (ends_renderItems [] rest)]
    rfl
  | cons e ds ih =>
    rw [renderItems, List.length_append, List.length_append, List.length_cons] at enough
    obtain ⟨fuel, rfl⟩ : ∃ k, fuel = k + 1 := Nat.exists_eq_add_of_le' (by omega)
    have tail := ih (later e (List.mem_cons_self ..))
      (fun e' h => later e' (List.mem_cons_of_mem e h)) fuel
      (by rw [List.length_append]; omega)
    have shape : renderItems (e :: ds) ++ rest =
        byte ',' :: (e.render ++ (renderItems ds ++ rest)) := by
      rw [renderItems, List.append_assoc, List.cons_append]
    rw [parseItems, first fuel _ (by omega) (ends_renderItems (e :: ds) rest), shape]
    simp only [skipBlanks_cons (by decide : IsMark (byte ',')), if_true, tail]
    rfl

theorem found_array {items : List Document} (written : ∀ d ∈ items, d.Written)
    (found : ∀ d ∈ items, d.Found) : Found (.array items) := by
  intro fuel rest enough _
  cases items with
  | nil =>
    obtain ⟨fuel, rfl⟩ := Nat.exists_eq_add_of_le' (Nat.le_trans (by decide : 1 ≤ 4) enough)
    rw [parseValue]
    rfl
  | cons d ds =>
    obtain ⟨b, r, front, mark, open_⟩ := (written d (List.mem_cons_self ..)).render_cons
    rw [render, List.length_append, List.length_cons] at enough
    obtain ⟨fuel, rfl⟩ : ∃ k, fuel = k + 1 := Nat.exists_eq_add_of_le' (by omega)
    have items := parseItems_render (found d (List.mem_cons_self ..))
      (fun e h => found e (List.mem_cons_of_mem d h)) fuel rest
      (by rw [List.length_append]; omega)
    have shape : (Document.array (d :: ds)).render ++ rest =
        byte '[' :: (d.render ++ (renderItems ds ++ rest)) := by
      rw [render, List.append_assoc, List.cons_append]
    rw [shape, parseValue, skipBlanks_cons (by decide)]
    rw [front] at items ⊢
    simp only [if_neg (by decide : byte '[' ≠ byte '"'), if_true, List.cons_append,
      skipBlanks_cons mark, if_neg open_] at items ⊢
    rw [items]
    rfl

/-- A member is read up to the end of its value. -/
theorem parseMembers_member (bs : Bytes) {d : Document} (found : d.Found) {fuel : Nat}
    (enough : 2 * d.render.length ≤ fuel) {tail : Bytes} (ends : Ends tail) :
    parseMembers (fuel + 1) (quote (escape bs) ++ byte ':' :: (d.render ++ tail)) =
      match skipBlanks tail with
      | [] => none
      | c :: r =>
        if c = byte ',' then (parseMembers fuel r).map fun p => ((escape bs, d) :: p.1, p.2)
        else if c = byte '\x7d' then some ([(escape bs, d)], r)
        else none := by
  have name := scanString_escape (byte ':' :: (d.render ++ tail)) bs
  have value := found fuel tail enough ends
  have mark : skipBlanks (byte ':' :: (d.render ++ tail)) = byte ':' :: (d.render ++ tail) :=
    skipBlanks_cons (by decide) _
  have opened : dropWord? [byte '"'] (byte '"' :: (escape bs ++ byte '"' :: byte ':' ::
      (d.render ++ tail))) = some (escape bs ++ byte '"' :: byte ':' :: (d.render ++ tail)) :=
    dropWord?_append [byte '"'] _
  have colon : dropWord? [byte ':'] (byte ':' :: (d.render ++ tail)) = some (d.render ++ tail) :=
    dropWord?_append [byte ':'] _
  rw [parseMembers, quote_append, skipBlanks_cons (by decide), opened]
  cases follows : skipBlanks tail with
  | nil => simp only [Option.bind_some, name, mark, colon, value, follows]
  | cons c r => simp only [Option.bind_some, name, mark, colon, value, follows]

/-- Members are read one by one up to the brace. -/
theorem parseMembers_render (bs : Bytes) {d : Document} {ms : List (Bytes × Document)}
    (first : d.Found) (names : ∀ m ∈ ms, ∃ bs, m.1 = escape bs) (later : ∀ m ∈ ms, m.2.Found)
    (fuel : Nat) (rest : Bytes)
    (enough : 2 * (1 + d.render.length + (renderMembers ms).length) ≤ fuel) :
    parseMembers fuel (quote (escape bs) ++ byte ':' :: (d.render ++ (renderMembers ms ++ rest))) =
      some ((escape bs, d) :: ms, rest) := by
  induction ms generalizing bs d fuel with
  | nil =>
    obtain ⟨fuel, rfl⟩ : ∃ k, fuel = k + 1 := Nat.exists_eq_add_of_le' (by omega)
    rw [parseMembers_member bs first (by omega) (ends_renderMembers [] rest)]
    rfl
  | cons m ms ih =>
    obtain ⟨key, value⟩ := m
    obtain ⟨name, rfl⟩ := names _ (List.mem_cons_self ..)
    simp only [renderMembers, quote, List.length_append, List.length_cons] at enough
    obtain ⟨fuel, rfl⟩ : ∃ k, fuel = k + 1 := Nat.exists_eq_add_of_le' (by omega)
    have second : value.Found := later _ (List.mem_cons_self ..)
    have tail := ih name second
      (fun m' h => names m' (List.mem_cons_of_mem _ h))
      (fun m' h => later m' (List.mem_cons_of_mem _ h)) fuel (by omega)
    have shape : renderMembers ((escape name, value) :: ms) ++ rest =
        byte ',' :: (quote (escape name) ++ byte ':' ::
          (value.render ++ (renderMembers ms ++ rest))) := by
      simp only [renderMembers, List.append_assoc, List.cons_append]
    rw [parseMembers_member bs first (by omega) (ends_renderMembers _ rest), shape,
      skipBlanks_cons (by decide)]
    simp only [if_true, tail]
    rfl

theorem found_object {members : List (Bytes × Document)}
    (names : ∀ m ∈ members, ∃ bs, m.1 = escape bs) (found : ∀ m ∈ members, m.2.Found) :
    Found (.object members) := by
  intro fuel rest enough _
  cases members with
  | nil =>
    obtain ⟨fuel, rfl⟩ := Nat.exists_eq_add_of_le' (Nat.le_trans (by decide : 1 ≤ 4) enough)
    rw [parseValue]
    rfl
  | cons m ms =>
    obtain ⟨key, d⟩ := m
    obtain ⟨name, rfl⟩ := names _ (List.mem_cons_self ..)
    simp only [render, quote, List.length_append, List.length_cons] at enough
    obtain ⟨fuel, rfl⟩ : ∃ k, fuel = k + 1 := Nat.exists_eq_add_of_le' (by omega)
    have first : d.Found := found _ (List.mem_cons_self ..)
    have members := parseMembers_render name first
      (fun m' h => names m' (List.mem_cons_of_mem _ h))
      (fun m' h => found m' (List.mem_cons_of_mem _ h)) fuel rest (by omega)
    have shape : (Document.object ((escape name, d) :: ms)).render ++ rest =
        byte '\x7b' :: (quote (escape name) ++ byte ':' ::
          (d.render ++ (renderMembers ms ++ rest))) := by
      simp only [render, List.append_assoc, List.cons_append]
    rw [shape, parseValue, skipBlanks_cons (by decide)]
    rw [quote_append] at members ⊢
    simp only [if_neg (by decide : byte '\x7b' ≠ byte '"'),
      if_neg (by decide : byte '\x7b' ≠ byte '['), if_true,
      skipBlanks_cons (by decide : IsMark (byte '"')),
      if_neg (by decide : byte '"' ≠ byte '\x7d'), members]
    rfl

theorem Written.found {d : Document} (h : d.Written) : d.Found := by
  induction h with
  | null => exact found_null
  | bool b => exact found_bool b
  | number n => exact found_number n
  | text bs => exact found_text bs
  | array written found => exact found_array written found
  | object names _ found => exact found_object names found

/-- What was written is read back. -/
theorem parse?_render {d : Document} (h : d.Written) : parse? d.render = some d := by
  have read := h.found (2 * d.render.length + 2) [] (by omega) nofun
  rw [List.append_nil] at read
  rw [parse?, read]
  rfl

end SealedRun.Json.Document
