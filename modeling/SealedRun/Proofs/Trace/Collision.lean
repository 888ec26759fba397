import SealedRun.Proofs.Trace.Bytes

/-! What is behind a digest. The events of a trace, and the slots of a context, are hashed one
behind the other, with no count in front and nothing between them. Still a hashed byte string goes
on another only if its events, or its slots, go on those of the other; so it tells all of them, and
two traces or contexts under one digest are a collision of the hash. -/
namespace SealedRun

/-- Two messages with one digest. -/
def Sha256.Collision (m m' : Bytes) : Prop := m ≠ m' ∧ sha256 m = sha256 m'

theorem Sha256.same_or_collision {m m' : Bytes} (h : sha256 m = sha256 m') :
    m = m' ∨ Collision m m' := by
  by_cases same : m = m'
  · exact .inl same
  · exact .inr ⟨same, h⟩

theorem Trace.bytes_prefix {t u : Trace} (ht : t.Countable) (hu : u.Countable) :
    t.bytes <+: u.bytes ↔ t.events <+: u.events := by
  constructor
  · intro front
    apply Codec.event_lawful.flatMap_prefix (fun _ => List.cons_ne_nil _ _) _ _ front
    · exact fun e he => (ht e he).fits
    · exact fun e he => (hu e he).fits
  · rintro ⟨later, same⟩
    exact ⟨later.flatMap Codec.event.encode, by simp [Trace.bytes, ← same]⟩

theorem contextBytes_prefix {ws us : List Word} :
    contextBytes ws <+: contextBytes us ↔ ws <+: us := by
  constructor
  · intro front
    apply Codec.uint64_lawful.flatMap_prefix (fun _ => List.cons_ne_nil _ _) _ _ front
    · exact fun w _ => Codec.uint64_fits w
    · exact fun w _ => Codec.uint64_fits w
  · rintro ⟨later, rfl⟩
    exact ⟨contextBytes later, by simp [contextBytes, wordBytes]⟩

/-- A hashed byte string says which events, or which slots, were hashed, and already its beginnings
do. So one digest for two traces that differ, or for two contexts, takes two messages on which the
hash collides, and these are the two messages. -/
theorem hashed_bytes_injective {t u : Trace} (ht : t.Countable) (hu : u.Countable)
    (ws us : List Word) :
    ((t.bytes <+: u.bytes ↔ t.events <+: u.events) ∧
      (t.bytes = u.bytes → t = u) ∧
      (t.digest = u.digest → t = u ∨ Sha256.Collision t.bytes u.bytes)) ∧
    (contextBytes ws <+: contextBytes us ↔ ws <+: us) ∧
      (contextBytes ws = contextBytes us → ws = us) ∧
      (contextDigest ws = contextDigest us →
        ws = us ∨ Sha256.Collision (contextBytes ws) (contextBytes us)) := by
  have traces : t.bytes = u.bytes → t = u := Trace.bytes_injective ht hu
  have slots : contextBytes ws = contextBytes us → ws = us := wordBytes_injective
  refine ⟨⟨Trace.bytes_prefix ht hu, traces, ?_⟩, contextBytes_prefix, slots, ?_⟩
  · intro same
    rcases Sha256.same_or_collision same with bytes | collision
    · exact .inl (traces bytes)
    · exact .inr collision
  · intro same
    rcases Sha256.same_or_collision same with bytes | collision
    · exact .inl (slots bytes)
    · exact .inr collision

/-- A word can be the argument of an event or its answer: it is hashed with as many bytes, and the
two traces are still told apart. A slot with nothing in it counts as well. -/
theorem hashed_bytes_injective_argument :
    let t : Trace := Trace.empty.push .log [5] none
    let u : Trace := Trace.empty.push .log [] (some 5)
    t.Countable ∧ u.Countable ∧ t.bytes.length = u.bytes.length ∧ t.bytes ≠ u.bytes ∧
      ¬ t.bytes <+: u.bytes ∧ contextBytes [7] <+: contextBytes [7, 0] ∧
      contextBytes [7] ≠ contextBytes [7, 0] := by
  intro t u
  have ht : t.Countable := by
    intro e he
    rw [List.mem_singleton.mp he]
    show 1 < UInt64.size
    decide
  have hu : u.Countable := by
    intro e he
    rw [List.mem_singleton.mp he]
    show 0 < UInt64.size
    decide
  obtain ⟨⟨front, traces, -⟩, slotFront, slots, -⟩ := hashed_bytes_injective ht hu [7] [7, 0]
  refine ⟨ht, hu, by decide, ?_, ?_, ?_, ?_⟩
  · exact fun same => absurd (traces same) (by decide)
  · exact fun before => absurd (front.mp before) (by decide)
  · exact slotFront.mpr (by decide)
  · exact fun same => absurd (slots same) (by decide)

end SealedRun
