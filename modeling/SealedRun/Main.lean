import SealedRun.CommandLine

/-! The program itself. It looks up the variables and the files a command can touch, lets the
command work on what it found, and writes back what the command changed. -/
namespace SealedRun.CommandLine

/-- The variables that name a file or a directory. -/
def pathVariables : List String := ["ZKHOST_CONFIG", "CONTEXT_IN", "CONTEXT_OUT", "SEG_OUTPUT"]

def knownVariables : List String :=
  pathVariables ++ ["PHANTOM", "PUBLIC_INPUT", "PRIVATE_INPUT", "SEG_NUM"]

def readEnvironment : IO Environment := do
  let found ← knownVariables.filterMapM fun name => do
    return (← IO.getEnv name).map (name, ·)
  return ⟨found⟩

/-- What was opened; a directory has no contents. -/
def readEntry (handle : IO.FS.Handle) : IO Entry := do
  try return .file (← handle.readBinToEnd).data.toList
  catch _ => return .directory

/-- What is at a path, if it can be opened. -/
def probe (path : String) : IO (Option Entry) := do
  try
    let handle ← IO.FS.Handle.mk path .read
    return some (← readEntry handle)
  catch _ => return none

def probePlace (fs : Files) (p : Place) : IO Files := do
  match ← probe p.toText with
  | some e => return fs.set p e
  | none => return fs

/-- Adds what is found on the way along a path. -/
def survey (fs : Files) (text : String) : IO Files := do
  let path := Path.ofString text
  let places := (List.range path.parts.length).map fun n =>
    (path.parts.take (n + 1)).foldl Place.step (Place.ofPath path)
  places.foldlM probePlace fs

/-- Writes what is new, directories first. -/
def writeBack (old new : Files) : IO Unit := do
  let changed := new.entries.reverse.filter fun entry => !old.entries.contains entry
  for (p, e) in changed do
    if e = .directory then IO.FS.createDirAll p.toText
  for (p, e) in changed do
    match e with
    | .directory => pure ()
    | .file bytes => IO.FS.writeBinFile p.toText ⟨bytes.toArray⟩

end SealedRun.CommandLine

open SealedRun SealedRun.CommandLine in
/-- A first pass on what the variables name shows which other files would be written; these
are looked up too before the command runs. -/
def main (args : List String) : IO UInt32 := do
  let env ← readEnvironment
  let found ← (pathVariables.filterMap env.get?).foldlM survey Files.empty
  let draft := CommandLine.run "zkhost" args env found
  let found ← (draft.files.entries.map Prod.fst).foldlM probePlace found
  let report := CommandLine.run "zkhost" args env found
  writeBack found report.files
  IO.print report.outText
  IO.eprint report.logText
  match report.failure with
  | some f => IO.eprintln s!"Error: {f.message}"
  | none => pure ()
  return UInt32.ofNat report.exitCode
