import SealedRun.Proofs.Wire.Lawful
import SealedRun.Segment.Basic

/-! The byte strings under the digests. What is hashed for a list of context slots or for a trace
is several encodings without anything between them, and yet it determines the slots and the
events: two lists of slots, or two traces, that differ are hashed as different byte strings. -/
namespace SealedRun

theorem Codec.uint64_fits (w : Word) : uint64.fits w :=
  ⟨w.toNat_lt, congrArg some (UInt64.ofNat_toNat)⟩

theorem HostOp.index_lt (op : HostOp) : op.index < byteRange 4 := by
  cases op <;> decide

theorem wordBytes_injective {ws us : List Word} (same : wordBytes ws = wordBytes us) : ws = us :=
  Codec.uint64_lawful.flatMap_inj (fun _ => List.cons_ne_nil _ _) (fun w _ => Codec.uint64_fits w)
    (fun w _ => Codec.uint64_fits w) same

/-- The number of arguments can be counted in a word, as it is in memory. -/
def Event.Countable (e : Event) : Prop := e.args.length < UInt64.size

/-- Every event can be held in memory. -/
def Trace.Countable (t : Trace) : Prop := ∀ e ∈ t.events, e.Countable

theorem Event.Countable.fits {e : Event} (h : e.Countable) : Codec.event.fits e := by
  have op : Codec.hostOp.fits e.op := ⟨e.op.index_lt, HostOp.ofIndex?_index e.op⟩
  have args : (Codec.list Codec.uint64).fits e.args := ⟨h, fun w _ => Codec.uint64_fits w⟩
  have ret : (Codec.option Codec.uint64).fits e.ret := fun w _ => Codec.uint64_fits w
  exact ⟨⟨Codec.uint64_fits e.eid, op, args, ret⟩, rfl⟩

theorem Trace.bytes_injective {t u : Trace} (ht : t.Countable) (hu : u.Countable)
    (same : t.bytes = u.bytes) : t = u := by
  have events : t.events = u.events :=
    Codec.event_lawful.flatMap_inj (fun _ => List.cons_ne_nil _ _) (fun e he => (ht e he).fits)
      (fun e he => (hu e he).fits) same
  cases t
  cases u
  exact congrArg Trace.mk events

end SealedRun
