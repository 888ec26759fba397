import SealedRun.Path

/-! A file system seen from a working directory. A path is looked up part by part, every part
but the last has to be a directory, and a missing last part can be created. -/
namespace SealedRun

inductive Entry
  | file (bytes : Bytes)
  | directory
deriving DecidableEq, Repr

/-- A place below the working directory. The places above it begin with two dots, and those
told from the root with a slash. -/
abbrev Place := List String

structure Files where
  entries : List (Place × Entry)
deriving DecidableEq, Repr

namespace Place

def ofPath (p : Path) : Place := if p.absolute then ["/"] else []

/-- The directory above; above the root there is none. -/
def above (p : Place) : Place :=
  if p = ["/"] then p else if p.all (· = "..") then ".." :: p else p.dropLast

def step (here : Place) (part : String) : Place :=
  if part = "." then here else if part = ".." then here.above else here ++ [part]

/-- The path of a place. -/
def toText : Place → String
  | "/" :: parts => "/" ++ "/".intercalate parts
  | parts => "/".intercalate parts

end Place

namespace Files

/-- An empty working directory; there is a root and a directory for temporary files. -/
def empty : Files := ⟨[(["/"], .directory), (["/", "tmp"], .directory)]⟩

/-- The working directory and those above it are always there. -/
def get? (fs : Files) (p : Place) : Option Entry :=
  if p.all (· = "..") then some .directory else fs.entries.lookup p

def set (fs : Files) (p : Place) (e : Entry) : Files :=
  ⟨(p, e) :: fs.entries.filter fun entry => entry.1 != p⟩

/-- What one part leads to from a directory. -/
def lookUp (fs : Files) (here : Place) (part : String) :
    Except FileError (Place × Option Entry) :=
  if Path.maxPartSize < part.utf8ByteSize then .error .nameTooLong
  else .ok (here.step part, fs.get? (here.step part))

/-- What several parts lead to from a directory. -/
def find (fs : Files) : Place → List String → Except FileError (Place × Option Entry)
  | here, [] => .ok (here, some .directory)
  | here, [part] => fs.lookUp here part
  | here, part :: rest =>
    match fs.lookUp here part with
    | .error e => .error e
    | .ok (_, none) => .error .notFound
    | .ok (_, some (.file _)) => .error .notDirectory
    | .ok (next, some .directory) => find fs next rest

/-- What a path leads to. -/
def resolve (fs : Files) (p : Path) : Except FileError (Place × Option Entry) :=
  fs.find (.ofPath p) p.parts

def read (fs : Files) (path : String) : Except FileError Bytes := do
  let p ← Path.ofText path
  match ← fs.resolve p with
  | (_, none) => .error .notFound
  | (_, some .directory) => .error .isDirectory
  | (_, some (.file bytes)) => if p.slashed then .error .notDirectory else .ok bytes

/-- A file with these contents, in place of the one that was there. -/
def write (fs : Files) (path : String) (bytes : Bytes) : Except FileError Files := do
  let p ← Path.ofText path
  match ← fs.resolve p with
  | (_, some .directory) => .error .isDirectory
  | (place, _) => if p.slashed then .error .isDirectory else .ok (fs.set place (.file bytes))

/-- A new directory, unless there is one already. -/
def makeDirectory (fs : Files) (p : Path) : Except FileError Files :=
  match fs.resolve p with
  | .error e => .error e
  | .ok (place, none) => .ok (fs.set place .directory)
  | .ok (_, some .directory) => .ok fs
  | .ok (_, some (.file _)) => .error .alreadyExists

/-- A directory, and first those above it if it cannot be made without them. -/
def makeDirectories (fs : Files) (p : Path) : Except FileError Files :=
  if _h : p.parts = [] then .ok fs
  else
    match fs.makeDirectory p with
    | .error .notFound =>
      match makeDirectories fs p.above with
      | .error e => .error e
      | .ok fs => fs.makeDirectory p
    | r => r
termination_by p.parts.length
decreasing_by exact p.length_above_lt _h

/-- A directory with all above it. The empty path names one that is there. -/
def createDirectories (fs : Files) (path : String) : Except FileError Files :=
  if path = "" then .ok fs else (Path.ofText path).bind fs.makeDirectories

/-- The files below the working directory. -/
def toList (fs : Files) : List (String × Bytes) :=
  fs.entries.filterMap fun
    | ("/" :: _, _) | (".." :: _, _) | (_, .directory) => none
    | (p, .file bytes) => some (p.toText, bytes)

end Files

end SealedRun
