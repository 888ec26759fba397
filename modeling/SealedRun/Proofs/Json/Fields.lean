import SealedRun.Segment.Document
import SealedRun.Proofs.Json.Rendered

/-! The parts of a document mean what they were made of: numbers, strings, lists and the members of
a record give back the values that they were written for. -/
namespace SealedRun.Json.Document

/-- A list is read item by item. -/
theorem mapM_map {α β : Type} {write : α → β} {read : β → Option α} {as : List α}
    (items : ∀ a ∈ as, read (write a) = some a) : (as.map write).mapM read = some as := by
  induction as with
  | nil => rfl
  | cons a as ih =>
    have first := items a (List.mem_cons_self ..)
    have later := ih fun a' h => items a' (List.mem_cons_of_mem a h)
    rw [List.map_cons, List.mapM_cons, first, later]
    rfl

theorem nat?_ofNat {n limit : Nat} (h : n < limit) : (ofNat n).nat? limit = some n := by
  have digits : (decimalBytes n).all isDigit = true :=
    List.all_eq_true.mpr (isDigit_decimalBytes n)
  show (Document.number (decimalBytes n)).nat? limit = some n
  simp only [nat?, digits, ofDigits_decimalBytes, h, if_true]

theorem word?_ofNat (w : Word) : (ofNat w.toNat).word? = some w := by
  rw [word?, nat?_ofNat w.toNat_lt_size, Option.map_some, UInt64.ofNat_toNat]

theorem string?_ofString (s : String) : (ofString s).string? = some s := by
  rw [ofString, string?, unescape_escape, Option.bind_some, utf8String?_utf8Bytes]

theorem unitName?_ofString (s : String) : (ofString s).unitName? = some s := string?_ofString s

theorem words?_ofWords (ws : List Word) : (ofWords ws).words? = some ws := by
  rw [ofWords, ofNats, List.map_map]
  exact mapM_map fun w _ => word?_ofNat w

theorem bytes?_ofBytes (bs : Bytes) : (ofBytes bs).bytes? = some bs := by
  have numbers : (ofBytes bs).list? (nat? 256) = some (bs.map UInt8.toNat) := by
    refine mapM_map fun n hn => nat?_ofNat ?_
    obtain ⟨b, -, rfl⟩ := List.mem_map.mp hn
    exact b.toNat_lt
  rw [bytes?, numbers, Option.map_some, List.map_map]
  exact congrArg some ((List.map_congr_left fun b _ => UInt8.ofNat_toNat).trans (List.map_id bs))

theorem digest?_ofDigest (g : Digest) : (ofDigest g).digest? = some g := by
  have size : g.toList.length = 32 := g.length_toList
  rw [ofDigest, digest?, bytes?_ofBytes, Option.bind_some, dif_pos size]
  exact congrArg some (Vector.toArray_inj.mp Vector.toArray_toList)

/-- Among distinct names each has its own place. -/
theorem idxOf?_append_cons {before behind : List String} {name : String}
    (distinct : (before ++ name :: behind).Nodup) :
    (before ++ name :: behind).idxOf? name = some before.length := by
  have inside : before.length < (before ++ name :: behind).length := by simp
  have here : (before ++ name :: behind)[before.length] = name := by simp
  refine List.idxOf?_eq_some_iff.mpr ⟨inside, here, fun j hj same => ?_⟩
  rw [List.getElem_append_left hj] at same
  exact (List.nodup_append.mp distinct).2.2 _ (List.getElem_mem hj) name (List.mem_cons_self ..) same

/-- Members that come in the order of their names are put into the places of these names. -/
theorem placeMembers_record {names : List String} (distinct : names.Nodup)
    (done todo : List (String × Document)) (ordered : names = (done ++ todo).map Prod.fst) :
    placeMembers names (todo.map fun f => (escape (utf8Bytes f.1), f.2))
      (done.map (fun f => some f.2) ++ todo.map fun _ => none) =
        some ((done ++ todo).map fun f => some f.2) := by
  induction todo generalizing done with
  | nil => simp [placeMembers]
  | cons f todo ih =>
    have name : (Document.text (escape (utf8Bytes f.1))).string? = some f.1 := string?_ofString f.1
    have place : names.idxOf? f.1 = some done.length := by
      rw [List.map_append, List.map_cons] at ordered
      rw [ordered, idxOf?_append_cons (ordered ▸ distinct), List.length_map]
    have next := ih (done ++ [f]) (by rw [ordered, List.append_assoc]; rfl)
    simp only [List.map_cons, placeMembers, name, place, bind, Option.bind]
    rw [List.getElem?_append_right (by simp), List.set_append_right _ _ (by simp)]
    simpa using next

/-- A record gives each of its members under its name. -/
theorem record?_record (fields : List (String × Document)) {names : List String}
    (ordered : names = fields.map Prod.fst) (distinct : names.Nodup) :
    (record fields).record? names = some (fields.map fun f => some f.2) := by
  have placed := placeMembers_record distinct [] fields ordered
  have places : names.map (fun _ => (none : Option Document)) = fields.map fun _ => none := by
    rw [ordered, List.map_map]
    rfl
  rw [record, record?, named?, places]
  exact placed

theorem written_ofNats (ns : List Nat) : (ofNats ns).Written := by
  refine .array fun d hd => ?_
  obtain ⟨n, -, rfl⟩ := List.mem_map.mp hd
  exact .number n

theorem written_record {fields : List (String × Document)} (written : ∀ f ∈ fields, f.2.Written) :
    (record fields).Written := by
  refine .object (fun m hm => ?_) fun m hm => ?_
  · obtain ⟨f, -, rfl⟩ := List.mem_map.mp hm
    exact ⟨utf8Bytes f.1, rfl⟩
  · obtain ⟨f, hf, rfl⟩ := List.mem_map.mp hm
    exact written f hf

end SealedRun.Json.Document
