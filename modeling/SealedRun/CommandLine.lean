import SealedRun.Arguments
import SealedRun.Artifacts
import SealedRun.Programs.Shelf

/-! The command line: one program run as a single segment or as several, with everything
else told by environment variables. A command keeps its log and the files it wrote even if
it fails later. -/
namespace SealedRun

structure Environment where
  bindings : List (String × String)
deriving DecidableEq, Repr

namespace Environment

def get? (env : Environment) (name : String) : Option String := env.bindings.lookup name

/-- A variable that is not set counts as empty. -/
def text (env : Environment) (name : String) : List Char := ((env.get? name).getD "").toList

end Environment

/-- The configuration file of the environment, and the patterns it adds. -/
def Config.ofEnvironment (env : Environment) (fs : Files) : Except Failure Config := do
  let config ← match env.get? "ZKHOST_CONFIG" with
    | some path => readConfigFile fs path
    | none => .ok .empty
  let added := (blankSeparated (env.text "PHANTOM")).map String.ofList
  return { config with patterns := config.patterns ++ added }

namespace CommandLine

/-- What a command has done so far. -/
structure Session where
  files : Files
  log : List String

abbrev Command := ExceptT Failure (StateM Session)

def note (line : String) : Command Unit := modify fun s => { s with log := s.log ++ [line] }

def lift {α : Type} : Except Failure α → Command α
  | .ok a => pure a
  | .error f => throw f

/-- A change of the files. -/
def change (f : Files → Except Failure Files) : Command Unit := do
  let files ← lift (f (← get).files)
  modify fun s => { s with files }

def loadHost (env : Environment) (entry : ShelfEntry) : Command Host := do
  let config ←
    if (env.get? "ZKHOST_CONFIG").isSome || (env.get? "PHANTOM").isSome then
      lift (Config.ofEnvironment env (← get).files)
    else pure entry.config
  match Host.ofConfig config with
  | .ok host => return host
  | .error f => throw (.pattern f)

def contextInputs (env : Environment) : Command (List Word) := do
  match env.get? "CONTEXT_IN" with
  | some path => lift (readWordFile (← get).files path)
  | none => return []

def writeContext (env : Environment) (ws : List Word) : Command Unit := do
  match env.get? "CONTEXT_OUT" with
  | some path =>
    change (writeWordFile · path ws)
    note s!"context written to {path}"
  | none => return

def makeDirectories (path : String) : Command Unit :=
  change fun fs => match fs.createDirectories path with
    | .ok fs => .ok fs
    | .error e => .error (.file e)

/-- The pieces between separators, of which there is at least one. -/
def splitAll (sep : Char) : List Char → List (List Char)
  | [] => [[]]
  | c :: cs =>
    if c = sep then [] :: splitAll sep cs
    else
      match splitAll sep cs with
      | [] => [[c]]
      | piece :: pieces => (c :: piece) :: pieces

/-- The lists of words that can be held in a list, with the 24 bytes that each takes there. -/
def maxGroups : Nat := maxEntries 24

/-- The inputs that can be held in a list, each with two lists of words. -/
def maxInputs : Nat := maxEntries 48

/-- One list of words for each of `count` segments: given one by one, or once for all. -/
def wordGroups (env : Environment) (name : String) (count : Nat) :
    Except Failure (List (List Word)) := do
  match ← (splitAll ';' (env.text name)).mapM Arguments.readLine with
  | [ws] =>
    if count ≤ maxGroups then return List.replicate count ws
    else throw (.trap .capacityOverflow)
  | groups =>
    if groups.length = count then return groups
    else throw (.groupCount name groups.length count)

/-- The inputs of `count` segments. Room for all of them is asked for before the first is made. -/
def segmentInputs (env : Environment) (count : Nat) : Except Failure (List SegmentInput) := do
  let publicWords ← wordGroups env "PUBLIC_INPUT" count
  let privateWords ← wordGroups env "PRIVATE_INPUT" count
  if count ≤ maxInputs then return List.zipWith SegmentInput.mk publicWords privateWords
  else throw (.trap .capacityOverflow)

def segmentCount (env : Environment) : Except Failure Nat :=
  let text := (env.get? "SEG_NUM").getD "1"
  match readNumber 10 UInt64.size text.toList with
  | .error _ => .error (.segmentCount text)
  | .ok 0 => .error .noSegments
  | .ok n => .ok n

/-- One segment, with all its input. -/
def runProgram (env : Environment) (entry : ShelfEntry) : Command Unit := do
  let host ← loadHost env entry
  let publicWords ← lift (Arguments.readLine (env.text "PUBLIC_INPUT"))
  let privateWords ← lift (Arguments.readLine (env.text "PRIVATE_INPUT"))
  let context ← contextInputs env
  let finished ← lift
    (host.execute entry.program.guest ⟨publicWords, privateWords⟩ context).toExcept
  note s!"{entry.name} returned {entry.program.value finished.output}"
  let shown := ", ".intercalate (finished.segment.instanceWords.map toString)
  note s!"instance: [{shown}]"
  writeContext env finished.segment.contextOutputs
  match env.get? "SEG_OUTPUT" with
  | some directory =>
    makeDirectories directory
    change (writeSegment · directory finished.segment)
  | none => return

/-- Several segments in a row, each kept in a file of its own. -/
def splitProgram (env : Environment) (entry : ShelfEntry) : Command Unit := do
  let directory := (env.get? "SEG_OUTPUT").getD s!"/tmp/zkhost/{entry.name}"
  let count ← lift (segmentCount env)
  let host ← loadHost env entry
  let context ← contextInputs env
  let inputs ← lift (segmentInputs env count)
  let (result, files) := host.split entry.program.guest directory context inputs (← get).files
  modify fun s => { s with files }
  let finished ← lift result
  lift (verifyChain (finished.map (·.segment)))
  for f in finished do
    let value := entry.program.value f.output
    note s!"segment {f.segment.segmentId} ({f.segment.position.name}) returned {value}"
  match finished.getLast? with
  | some f => writeContext env f.segment.contextOutputs
  | none => pure ()
  note s!"{finished.length} segments written to {directory}"

/-- What a command leaves behind. -/
structure Report where
  exitCode : Nat
  out : List String
  log : List String
  /-- The failure that is reported as an error. -/
  failure : Option Failure
  files : Files

/-- A trap ends the whole program, with an exit code of its own and no report of an error. -/
def Report.ofCommand (command : Command Unit) (fs : Files) : Report :=
  match command.run.run ⟨fs, []⟩ with
  | (.ok (), s) => ⟨0, [], s.log, none, s.files⟩
  | (.error (.trap _), s) => ⟨101, [], s.log, none, s.files⟩
  | (.error f, s) => ⟨1, [], s.log, some f, s.files⟩

def help (self : String) : String :=
  s!"Help: {self} run <program> | split <program> | list\n" ++
    "env: PUBLIC_INPUT PRIVATE_INPUT CONTEXT_IN CONTEXT_OUT SEG_OUTPUT SEG_NUM ZKHOST_CONFIG PHANTOM"

def withProgram (name : String) (command : ShelfEntry → Command Unit) : Command Unit :=
  match Shelf.find? name with
  | some entry => command entry
  | none => throw (.unknownProgram name Shelf.names)

/-- Runs the arguments behind the program's own name. -/
def run (self : String) (args : List String) (env : Environment) (fs : Files) : Report :=
  match args with
  | "run" :: name :: _ => .ofCommand (withProgram name (runProgram env)) fs
  | "split" :: name :: _ => .ofCommand (withProgram name (splitProgram env)) fs
  | "list" :: _ => ⟨0, Shelf.names, [], none, fs⟩
  | _ => ⟨255, [], [help self], none, fs⟩

private def indented (line : String) : String :=
  String.ofList (line.toList.flatMap fun c => if c = '\n' then "\n    ".toList else [c]) ++ "\n"

/-- The lines printed as the result. -/
def Report.outText (r : Report) : String := String.join (r.out.map (· ++ "\n"))

/-- The log, with further lines of a message indented. -/
def Report.logText (r : Report) : String := String.join (r.log.map indented)

end CommandLine

end SealedRun
