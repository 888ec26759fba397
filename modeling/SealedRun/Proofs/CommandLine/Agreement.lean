import SealedRun.Proofs.CommandLine.Effects
import SealedRun.Proofs.CommandLine.Inputs
import SealedRun.Proofs.Continuation.Splitting

/-! One segment by either command. A run and a split prepare the same computation, although they
read their input in different ways. The one hands the context over before it makes directories and
keeps the segment, the other does so last; neither order is in the way of the other files. -/
namespace SealedRun

theorem CommandLine.wordGroups_single {env : Environment} {name : String}
    {groups : List (List Word)} (ungrouped : ';' ∉ env.text name) :
    wordGroups env name 1 = .ok groups ↔
      ∃ words, Arguments.readLine (env.text name) = .ok words ∧ groups = [words] := by
  have all : wordGroups env name 1 = (Arguments.readLine (env.text name)).map ([·]) := by
    rw [wordGroups, splitAll_eq, List.splitOn_eq_singleton ungrouped, List.mapM_cons, List.mapM_nil]
    cases Arguments.readLine (env.text name) <;> rfl
  rw [all]
  cases Arguments.readLine (env.text name) <;> simp [Except.map, eq_comm]

/-- Without separators there is one group of each kind, and one segment gets both. -/
theorem CommandLine.segmentInputs_single {env : Environment} {inputs : List SegmentInput}
    (ungrouped : ';' ∉ env.text "PUBLIC_INPUT") (ungrouped' : ';' ∉ env.text "PRIVATE_INPUT") :
    segmentInputs env 1 = .ok inputs ↔ ∃ publicWords privateWords,
      Arguments.readLine (env.text "PUBLIC_INPUT") = .ok publicWords ∧
      Arguments.readLine (env.text "PRIVATE_INPUT") = .ok privateWords ∧
      inputs = [⟨publicWords, privateWords⟩] := by
  simp only [segmentInputs, bind_ok_iff, wordGroups_single ungrouped, wordGroups_single ungrouped']
  constructor
  · rintro ⟨_, ⟨publicWords, read, rfl⟩, _, ⟨privateWords, read', rfl⟩, made⟩
    cases made
    exact ⟨publicWords, privateWords, read, read', rfl⟩
  · rintro ⟨publicWords, privateWords, read, read', rfl⟩
    exact ⟨_, ⟨publicWords, read, rfl⟩, _, ⟨privateWords, read', rfl⟩, rfl⟩

theorem Continuation.writeAll_single {α : Type} {c : Continuation α} {directory : String}
    {input : SegmentInput} {fs fs' : Files} {done : List (Finished α)} :
    c.writeAll directory fs [input] = (.ok done, fs') ↔ ∃ f,
      (c.runSegment input).1 = .returned f ∧ writeSegment fs directory f.segment = .ok fs' ∧
      done = [f] := by
  rcases call : c.runSegment input with ⟨f | e | t, c'⟩
  case failed | trapped =>
    simp only [writeAll, call]
    constructor
    · intro h
      cases h
    · rintro ⟨f, returned, -⟩
      cases returned
  case returned =>
    cases written : writeSegment fs directory f.segment with
    | error failure =>
      simp only [writeAll, call, written]
      constructor
      · intro h
        cases h
      · rintro ⟨f', returned, written', -⟩
        cases returned
        rw [written] at written'
        cases written'
    | ok fs₁ =>
      simp only [writeAll, call, written]
      constructor
      · intro h
        cases h
        exact ⟨f, rfl, written, rfl⟩
      · rintro ⟨f', returned, written', rfl⟩
        cases returned
        rw [written] at written'
        cases written'
        rfl

theorem Host.split_single {α : Type} {h : Host} {g : Guest α} {directory : String}
    {context : List Word} {input : SegmentInput} {fs fs' : Files} {done : List (Finished α)} :
    h.split g directory context [input] fs = (.ok done, fs') ↔ ∃ f fs₁,
      h.execute g input context = .returned f ∧ fs.createDirectories directory = .ok fs₁ ∧
      writeSegment fs₁ directory f.segment = .ok fs' ∧ done = [f] := by
  rw [split, if_neg (List.cons_ne_nil _ _), execute, List.length_singleton]
  cases fs.createDirectories directory with
  | error e =>
    constructor
    · intro h
      cases h
    · rintro ⟨f, fs₁, -, created, -⟩
      cases created
  | ok fs₁ =>
    cases Continuation.open? h g 1 context with
    | error e =>
      constructor
      · intro h
        cases h
      · rintro ⟨f, fs₁, returned, -⟩
        cases returned
    | ok c =>
      refine Continuation.writeAll_single.trans ⟨?_, ?_⟩
      · rintro ⟨f, returned, kept⟩
        exact ⟨f, fs₁, returned, rfl, kept⟩
      · rintro ⟨f, fs₂, returned, created, kept⟩
        cases created
        exact ⟨f, returned, kept⟩

/-- A segment that is alone is a chain. -/
theorem Host.execute_placed {α : Type} {h : Host} {g : Guest α} {context : List Word}
    {input : SegmentInput} {f : Finished α} (returned : h.execute g input context = .returned f) :
    f.segment.segmentId = 0 ∧ f.segment.position = .only ∧ verifyChain [f.segment] = .ok () := by
  rw [execute] at returned
  cases opened : Continuation.open? h g 1 context with
  | error e =>
    rw [opened] at returned
    cases returned
  | ok c =>
    rw [opened] at returned
    obtain ⟨ready, total, next, -⟩ := Continuation.open_ready (by decide) opened
    obtain ⟨-, -, placed⟩ := Continuation.runSegment_returned ready
      (congrArg Outcome.returned? returned)
    rw [total, next] at placed
    have linked : Chain.Linked 1 0 c.context [f.segment] := ⟨placed, trivial⟩
    exact ⟨UInt32.toNat_inj.mp placed.segmentId, placed.position,
      by rw [verifyChain, Chain.verify_ok linked]⟩

namespace CommandLine

/-- What comes of the program as one segment, in the files that it starts from. -/
def Single (env : Environment) (entry : ShelfEntry) (fs : Files)
    (f : Finished entry.program.Output) : Prop :=
  ∃ host publicWords privateWords context, hostFor env entry fs = .ok host ∧
    Arguments.readLine (env.text "PUBLIC_INPUT") = .ok publicWords ∧
    Arguments.readLine (env.text "PRIVATE_INPUT") = .ok privateWords ∧
    contextFor env fs = .ok context ∧
    host.execute entry.program.guest ⟨publicWords, privateWords⟩ context = .returned f

/-- What a run notes, and what a split in one segment does. -/
def runNotes (env : Environment) (entry : ShelfEntry) (f : Finished entry.program.Output) :
    List String :=
  let shown := ", ".intercalate (f.segment.instanceWords.map toString)
  [s!"{entry.name} returned {entry.program.value f.output}", s!"instance: [{shown}]"] ++
    handOverNotes env

def splitNotes (env : Environment) (entry : ShelfEntry) (directory : String)
    (f : Finished entry.program.Output) : List String :=
  let value := entry.program.value f.output
  let count := [f].length
  [s!"segment {f.segment.segmentId} ({f.segment.position.name}) returned {value}"] ++
    handOverNotes env ++ [s!"{count} segments written to {directory}"]

theorem Single.placed {env : Environment} {entry : ShelfEntry} {fs : Files}
    {f : Finished entry.program.Output} (h : Single env entry fs f) :
    f.segment.segmentId = 0 ∧ f.segment.position = .only := by
  obtain ⟨host, publicWords, privateWords, context, -, -, -, -, returned⟩ := h
  obtain ⟨first, position, -⟩ := Host.execute_placed returned
  exact ⟨first, position⟩

section Steps

variable {env : Environment} {entry : ShelfEntry} {s s' : Session} {fs fs' : Files} {u : Unit}

/-- A run hands the context over and then keeps the segment. -/
theorem ends_runProgram {directory : String} (output : env.get? "SEG_OUTPUT" = some directory) :
    Ends (runProgram env entry) s u s' ↔ ∃ f, Single env entry s.files f ∧ ∃ fs₁ fs₂ fs₃,
      handOver env f.segment.contextOutputs s.files = .ok fs₁ ∧
      fs₁.createDirectories directory = .ok fs₂ ∧
      writeSegment fs₂ directory f.segment = .ok fs₃ ∧
      s' = ⟨fs₃, s.log ++ runNotes env entry f⟩ := by
  unfold runProgram
  simp only [ends_bind, ends_loadHost, ends_lift, ends_contextInputs, ends_note, output, and_assoc,
    exists_and_left, exists_eq_left, exists_const, ends_writeContext, ends_makeDirectories,
    ends_change, Outcome.toExcept_ok]
  constructor
  · rintro ⟨host, hosted, publicWords, words, privateWords, words', context, read, f, returned, _,
      ⟨fs₁, handed, rfl⟩, _, ⟨fs₂, made, rfl⟩, fs₃, kept, rfl⟩
    exact ⟨f, ⟨host, publicWords, privateWords, context, hosted, words, words', read, returned⟩,
      fs₁, handed, fs₂, made, fs₃, kept, by simp [runNotes]⟩
  · rintro ⟨f, ⟨host, publicWords, privateWords, context, hosted, words, words', read, returned⟩,
      fs₁, handed, fs₂, made, fs₃, kept, rfl⟩
    exact ⟨host, hosted, publicWords, words, privateWords, words', context, read, f, returned, _,
      ⟨fs₁, handed, rfl⟩, _, ⟨fs₂, made, rfl⟩, fs₃, kept, by simp [runNotes]⟩

/-- A split keeps the segment and then hands the context over. -/
theorem ends_splitProgram {directory : String} (output : env.get? "SEG_OUTPUT" = some directory)
    (single : segmentCount env = .ok 1) (ungrouped : ';' ∉ env.text "PUBLIC_INPUT")
    (ungrouped' : ';' ∉ env.text "PRIVATE_INPUT") :
    Ends (splitProgram env entry) s u s' ↔ ∃ f, Single env entry s.files f ∧ ∃ fs₁ fs₂ fs₃,
      s.files.createDirectories directory = .ok fs₁ ∧
      writeSegment fs₁ directory f.segment = .ok fs₂ ∧
      handOver env f.segment.contextOutputs fs₂ = .ok fs₃ ∧
      s' = ⟨fs₃, s.log ++ splitNotes env entry directory f⟩ := by
  unfold splitProgram
  simp only [output, Option.getD_some, ends_bind, ends_loadHost, ends_lift, ends_contextInputs,
    ends_get, ends_modify, ends_forIn_note, and_assoc, exists_and_left, exists_eq_left,
    exists_const, single, Except.ok.injEq, exists_eq_left',
    segmentInputs_single ungrouped ungrouped']
  constructor
  · rintro ⟨host, hosted, context, read, _, ⟨publicWords, words, privateWords, words', rfl⟩, done,
      split, -, -, written⟩
    obtain ⟨f, fs₁, returned, made, kept, rfl⟩ := Host.split_single.mp (Prod.ext split rfl)
    simp only [List.getLast?_singleton, ends_bind, ends_note, ends_writeContext] at written
    obtain ⟨-, _, ⟨fs₃, handed, rfl⟩, rfl⟩ := written
    exact ⟨f, ⟨host, publicWords, privateWords, context, hosted, words, words', read, returned⟩,
      fs₁, made, _, kept, fs₃, handed, by simp [splitNotes]⟩
  · rintro ⟨f, ⟨host, publicWords, privateWords, context, hosted, words, words', read, returned⟩,
      fs₁, made, fs₂, kept, fs₃, handed, rfl⟩
    have split := Host.split_single.mpr ⟨f, fs₁, returned, made, kept, rfl⟩
    refine ⟨host, hosted, context, read, _, ⟨publicWords, words, privateWords, words', rfl⟩, [f],
      by rw [split], (), (Host.execute_placed returned).2.2, ?_⟩
    rw [split]
    simp only [List.getLast?_singleton, ends_bind, ends_note, ends_writeContext, exists_const]
    exact ⟨_, ⟨fs₃, handed, rfl⟩, by simp [splitNotes]⟩

end Steps

section Reports

variable {c : Command Unit} {fs : Files} {s' : Session}

theorem ofCommand_ends (h : Ends c ⟨fs, []⟩ () s') :
    Report.ofCommand c fs = ⟨0, [], s'.log, none, s'.files⟩ := by
  unfold Ends at h
  rw [Report.ofCommand, h]

theorem ends_of_exitCode (h : (Report.ofCommand c fs).exitCode = 0) :
    ∃ s', Ends c ⟨fs, []⟩ () s' := by
  rw [Report.ofCommand] at h
  rcases ended : c.run.run ⟨fs, []⟩ with ⟨f | u, s'⟩
  · rw [ended] at h
    cases f <;> cases h
  · exact ⟨s', ended⟩

end Reports

/-- The files hold the segment, and the context where it is to be handed over. -/
structure Holds (env : Environment) (directory : String) (seg : Segment) (fs : Files) : Prop where
  segment : fs.read s!"{directory}/0" = .ok seg.fileBytes
  context : ∀ out, env.get? "CONTEXT_OUT" = some out →
    fs.read out = .ok (wordBytes seg.contextOutputs)

section Orders

variable {env : Environment} {directory : String} {seg : Segment} {fs fs₀ fs' : Files}

theorem writeSegment_first (first : seg.segmentId = 0)
    (written : fs.write s!"{directory}/0" seg.fileBytes = .ok fs') :
    writeSegment fs directory seg = .ok fs' := by
  have path : segmentPath directory seg.segmentId = s!"{directory}/0" := by
    rw [first]
    exact String.append_assoc
  simp only [writeSegment, path, written]

theorem handOver_some {out : String} {ws : List Word} (named : env.get? "CONTEXT_OUT" = some out)
    (written : fs.write out (wordBytes ws) = .ok fs') : handOver env ws fs = .ok fs' := by
  simp only [handOver, named, writeWordFile, written]

/-- The context first: a file in its place does not keep the directories from being made. -/
theorem context_first (first : seg.segmentId = 0)
    (created : fs.createDirectories directory = .ok fs₀)
    (writable : fs₀.Writable s!"{directory}/0")
    (handed : ∀ out, env.get? "CONTEXT_OUT" = some out → fs.Writable out ∧ fs₀.Writable out ∧
      Place.ofText out ≠ .ofText s!"{directory}/0") :
    ∃ fs₁ fs₂ fs₃, handOver env seg.contextOutputs fs = .ok fs₁ ∧
      fs₁.createDirectories directory = .ok fs₂ ∧ writeSegment fs₂ directory seg = .ok fs₃ ∧
      Holds env directory seg fs₃ := by
  cases named : env.get? "CONTEXT_OUT" with
  | none =>
    have written := writable.write seg.fileBytes
    exact ⟨fs, fs₀, _, by rw [handOver, named], created, writeSegment_first first written,
      Files.read_write written, fun out h => absurd (named.symm.trans h) nofun⟩
  | some out =>
    obtain ⟨before, after, apart⟩ := handed out named
    have free := (Files.writable_iff.mp after).2
    have closed := (Files.writable_iff.mp before).2
    have context_beside : Files.Beside (.ofText out) (wordBytes seg.contextOutputs) fs _ :=
      .of_set closed
    obtain ⟨fs₂, made, beside⟩ := Files.createDirectories_beside context_beside created free
    have written := (beside.writable free writable).write seg.fileBytes
    have context : fs₂.read out = .ok (wordBytes seg.contextOutputs) :=
      Files.read_ok_iff.mpr ⟨(Files.writable_iff.mp (beside.writable free after)).1, beside.here⟩
    refine ⟨_, fs₂, _, handOver_some named (before.write _), made,
      writeSegment_first first written, Files.read_write written, fun out' h => ?_⟩
    cases named.symm.trans h
    exact Files.read_write_other written apart context

/-- The segment first. -/
theorem segment_first (first : seg.segmentId = 0)
    (created : fs.createDirectories directory = .ok fs₀)
    (writable : fs₀.Writable s!"{directory}/0")
    (handed : ∀ out, env.get? "CONTEXT_OUT" = some out → fs₀.Writable out ∧
      Place.ofText out ≠ .ofText s!"{directory}/0") :
    ∃ fs₁ fs₂ fs₃, fs.createDirectories directory = .ok fs₁ ∧
      writeSegment fs₁ directory seg = .ok fs₂ ∧ handOver env seg.contextOutputs fs₂ = .ok fs₃ ∧
      Holds env directory seg fs₃ := by
  have kept := writable.write seg.fileBytes
  cases named : env.get? "CONTEXT_OUT" with
  | none =>
    exact ⟨fs₀, _, _, created, writeSegment_first first kept, by rw [handOver, named],
      Files.read_write kept, fun out h => absurd (named.symm.trans h) nofun⟩
  | some out =>
    obtain ⟨free, apart⟩ := handed out named
    have still_free : (fs₀.set (.ofText s!"{directory}/0") (.file seg.fileBytes)).Writable out :=
      free.set (Files.writable_iff.mp writable).2
    have written := still_free.write (wordBytes seg.contextOutputs)
    refine ⟨fs₀, _, _, created, writeSegment_first first kept, handOver_some named written,
      Files.read_write_other written (Ne.symm apart) (Files.read_write kept), fun out' h => ?_⟩
    cases named.symm.trans h
    exact Files.read_write written

end Orders

section Single

variable {env : Environment} {entry : ShelfEntry} {directory : String} {fs fs₀ : Files}
  {f : Finished entry.program.Output}

theorem single_of_run (output : env.get? "SEG_OUTPUT" = some directory)
    (zero : (Report.ofCommand (runProgram env entry) fs).exitCode = 0) :
    ∃ f, Single env entry fs f := by
  obtain ⟨s', ended⟩ := ends_of_exitCode zero
  obtain ⟨f, one, -⟩ := (ends_runProgram output).mp ended
  exact ⟨f, one⟩

theorem run_of_single (output : env.get? "SEG_OUTPUT" = some directory)
    (created : fs.createDirectories directory = .ok fs₀)
    (writable : fs₀.Writable s!"{directory}/0")
    (handed : ∀ out, env.get? "CONTEXT_OUT" = some out → fs.Writable out ∧ fs₀.Writable out ∧
      Place.ofText out ≠ .ofText s!"{directory}/0") (one : Single env entry fs f) :
    (Report.ofCommand (runProgram env entry) fs).exitCode = 0 ∧
      Holds env directory f.segment (Report.ofCommand (runProgram env entry) fs).files := by
  obtain ⟨fs₁, fs₂, fs₃, handed, made, kept, holds⟩ :=
    context_first one.placed.1 created writable handed
  have ended : Ends (runProgram env entry) ⟨fs, []⟩ () _ := (ends_runProgram output).mpr
    ⟨f, one, fs₁, fs₂, fs₃, handed, made, kept, rfl⟩
  rw [ofCommand_ends ended]
  exact ⟨rfl, holds⟩

variable (output : env.get? "SEG_OUTPUT" = some directory) (count : segmentCount env = .ok 1)
  (ungrouped : ';' ∉ env.text "PUBLIC_INPUT") (ungrouped' : ';' ∉ env.text "PRIVATE_INPUT")

include output count ungrouped ungrouped'

theorem single_of_split (zero : (Report.ofCommand (splitProgram env entry) fs).exitCode = 0) :
    ∃ f, Single env entry fs f := by
  obtain ⟨s', ended⟩ := ends_of_exitCode zero
  obtain ⟨f, one, -⟩ := (ends_splitProgram output count ungrouped ungrouped').mp ended
  exact ⟨f, one⟩

theorem split_of_single (created : fs.createDirectories directory = .ok fs₀)
    (writable : fs₀.Writable s!"{directory}/0")
    (handed : ∀ out, env.get? "CONTEXT_OUT" = some out → fs₀.Writable out ∧
      Place.ofText out ≠ .ofText s!"{directory}/0") (one : Single env entry fs f) :
    (Report.ofCommand (splitProgram env entry) fs).exitCode = 0 ∧
      Holds env directory f.segment (Report.ofCommand (splitProgram env entry) fs).files := by
  obtain ⟨fs₁, fs₂, fs₃, made, kept, handed, holds⟩ :=
    segment_first one.placed.1 created writable handed
  have ended : Ends (splitProgram env entry) ⟨fs, []⟩ () _ :=
    (ends_splitProgram output count ungrouped ungrouped').mpr
      ⟨f, one, fs₁, fs₂, fs₃, made, kept, handed, rfl⟩
  rw [ofCommand_ends ended]
  exact ⟨rfl, holds⟩

end Single

/-- With one segment it makes no difference by which command a program is run, although the two
read their input, make their files and hand the context over in orders of their own: they succeed
together, and then they leave the same segment and the same context. -/
theorem commands_agree (self name : String) {env : Environment} {fs fs₀ : Files}
    {directory : String} (output : env.get? "SEG_OUTPUT" = some directory)
    (single : env.get? "SEG_NUM" = none ∨ env.get? "SEG_NUM" = some "1")
    (ungrouped : ';' ∉ env.text "PUBLIC_INPUT") (ungrouped' : ';' ∉ env.text "PRIVATE_INPUT")
    (created : fs.createDirectories directory = .ok fs₀)
    (writable : fs₀.Writable s!"{directory}/0")
    (handed : ∀ out, env.get? "CONTEXT_OUT" = some out → fs.Writable out ∧ fs₀.Writable out ∧
      Place.ofText out ≠ .ofText s!"{directory}/0") :
    let ran := run self ["run", name] env fs
    let split := run self ["split", name] env fs
    (ran.exitCode = 0 ↔ split.exitCode = 0) ∧
    (ran.exitCode = 0 → ∃ seg : Segment, seg.segmentId = 0 ∧ seg.position = .only ∧
      ran.files.read s!"{directory}/0" = .ok seg.fileBytes ∧
      split.files.read s!"{directory}/0" = .ok seg.fileBytes ∧
      ∀ out, env.get? "CONTEXT_OUT" = some out →
        ran.files.read out = .ok (wordBytes seg.contextOutputs) ∧
        split.files.read out = .ok (wordBytes seg.contextOutputs)) := by
  intro ran split
  have count : segmentCount env = .ok 1 := by
    rcases single with unset | one
    · rw [segmentCount, unset]
      rfl
    · rw [segmentCount, one]
      rfl
  cases found : Shelf.find? name with
  | none =>
    have ran_fails : ran.exitCode = 1 := by simp only [ran, run, withProgram, found]; rfl
    have split_fails : split.exitCode = 1 := by simp only [split, run, withProgram, found]; rfl
    rw [ran_fails, split_fails]
    exact ⟨Iff.rfl, nofun⟩
  | some entry =>
    have ran_eq : ran = .ofCommand (runProgram env entry) fs := by
      simp only [ran, run, withProgram, found]
    have split_eq : split = .ofCommand (splitProgram env entry) fs := by
      simp only [split, run, withProgram, found]
    rw [ran_eq, split_eq]
    have after_run {f} (one : Single env entry fs f) :=
      run_of_single output created writable handed one
    have after_split {f} (one : Single env entry fs f) :=
      split_of_single output count ungrouped ungrouped' created writable
        (fun out h => (handed out h).2) one
    refine ⟨⟨?_, ?_⟩, ?_⟩
    · intro zero
      obtain ⟨f, one⟩ := single_of_run output zero
      exact (after_split one).1
    · intro zero
      obtain ⟨f, one⟩ := single_of_split output count ungrouped ungrouped' zero
      exact (after_run one).1
    · intro zero
      obtain ⟨f, one⟩ := single_of_run output zero
      obtain ⟨first, position⟩ := one.placed
      have ran_holds := (after_run one).2
      have split_holds := (after_split one).2
      refine ⟨f.segment, first, position, ran_holds.segment, split_holds.segment, ?_⟩
      intro out named
      exact ⟨ran_holds.context out named, split_holds.context out named⟩

/-- Two words are added and the sum is handed on, whichever command it is done by. -/
theorem commands_agree_sum :
    let env : Environment :=
      ⟨[("SEG_OUTPUT", "/tmp"), ("CONTEXT_IN", "in"), ("CONTEXT_OUT", "out")]⟩
    let fs := Files.empty.set ["in"] (.file (wordBytes [2, 40]))
    (run "zkhost" ["run", "context"] env fs).exitCode = 0 ∧
      (run "zkhost" ["split", "context"] env fs).exitCode = 0 ∧
      ∃ seg : Segment,
        (run "zkhost" ["run", "context"] env fs).files.read "/tmp/0" = .ok seg.fileBytes ∧
        (run "zkhost" ["split", "context"] env fs).files.read "/tmp/0" = .ok seg.fileBytes ∧
        (run "zkhost" ["run", "context"] env fs).files.read "out" =
          .ok (wordBytes seg.contextOutputs) ∧
        (run "zkhost" ["split", "context"] env fs).files.read "out" =
          .ok (wordBytes seg.contextOutputs) := by
  intro env fs
  have zero : (run "zkhost" ["run", "context"] env fs).exitCode = 0 := by decide +kernel
  have output : env.get? "SEG_OUTPUT" = some "/tmp" := rfl
  have created : fs.createDirectories "/tmp" = .ok fs := by decide +kernel
  have path : toString "/tmp" ++ toString "/0" = "/tmp/0" := rfl
  have writable : fs.Writable (toString "/tmp" ++ toString "/0") := fun _ => ⟨_, rfl⟩
  have handed : ∀ out, env.get? "CONTEXT_OUT" = some out → fs.Writable out ∧ fs.Writable out ∧
      Place.ofText out ≠ .ofText (toString "/tmp" ++ toString "/0") := by
    intro out named
    obtain rfl : "out" = out := Option.some.inj named
    exact ⟨fun _ => ⟨_, rfl⟩, fun _ => ⟨_, rfl⟩, by decide +kernel⟩
  obtain ⟨together, same⟩ := commands_agree "zkhost" "context" output (.inl rfl) (by decide)
    (by decide) created writable handed
  obtain ⟨seg, -, -, kept, kept', context⟩ := same zero
  rw [path] at kept kept'
  exact ⟨zero, together.mp zero, seg, kept, kept', context "out" rfl⟩

end CommandLine

end SealedRun
