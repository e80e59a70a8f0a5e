import ControlRelay.Storage.Path

/-!
# Files and directories

A `FileSystem` says what stands at each path: a file with its bytes, a directory, or nothing.
The operations fail where those of an operating system do; the root and the working directory
always exist.
-/

namespace ControlRelay.Storage

/-- What stands at a path. -/
inductive Entry where
  | file (bytes : List UInt8)
  | directory
  deriving DecidableEq

/-- Why an operation on files fails. -/
inductive IoError where
  | notFound
  | isDirectory
  | notDirectory
  | notText
  deriving DecidableEq, Repr

/-- What the operating system says of the failure. -/
def IoError.message : IoError → String
  | notFound => "No such file or directory (os error 2)"
  | isDirectory => "Is a directory (os error 21)"
  | notDirectory => "Not a directory (os error 20)"
  | notText => "stream did not contain valid UTF-8"

/-- The entries of all paths that have one. -/
structure FileSystem where
  entries : List (Path × Entry) := []

namespace FileSystem

instance : Inhabited FileSystem := ⟨{}⟩

/-- Whether something stands below a path. -/
def hasBelow (fs : FileSystem) (p : Path) : Bool :=
  fs.entries.any fun (q, _) => q.rooted = p.rooted && p.names.isPrefixOf q.names && q ≠ p

/-- What stands at a path.  Where something stands below it there is a directory, and a path
that ends in no name, or by leading upwards, ends in one. -/
def entry? (fs : FileSystem) (p : Path) : Option Entry :=
  if p.names.getLast?.all (· = "..") then some .directory
  else
    match fs.entries.find? (·.1 = p) with
    | some (_, e) => some e
    | none => if fs.hasBelow p then some .directory else none

/-- Whether the way to a path leads through a file. -/
def isThroughFile (fs : FileSystem) (p : Path) : Bool :=
  (List.range p.names.length).any fun i =>
    match fs.entry? { p with names := p.names.take i } with
    | some (.file _) => true
    | _ => false

/-- Puts an entry at a path, in place of what stood there. -/
def put (fs : FileSystem) (p : Path) (e : Entry) : FileSystem :=
  ⟨(p, e) :: fs.entries.filter (·.1 ≠ p)⟩

/-- Takes away what stands at a path. -/
def remove (fs : FileSystem) (p : Path) : FileSystem :=
  ⟨fs.entries.filter (·.1 ≠ p)⟩

/-- The bytes of a file. -/
def read (fs : FileSystem) (p : Path) : Except IoError (List UInt8) :=
  match fs.entry? p with
  | some (.file bytes) => .ok bytes
  | some .directory => .error .isDirectory
  | none => .error (if fs.isThroughFile p then .notDirectory else .notFound)

/-- The text of a file. -/
def readText (fs : FileSystem) (p : Path) : Except IoError String := do
  let bytes ← fs.read p
  match String.fromUTF8? ⟨bytes.toArray⟩ with
  | some text => .ok text
  | none => .error .notText

/-- Makes the directories at the given ancestors that are missing, from the top. -/
def makeDirectories (fs : FileSystem) (rooted : Bool) :
    List String → List String → Except IoError FileSystem
  | _, [] => .ok fs
  | above, name :: below =>
    let p : Path := ⟨rooted, above ++ [name]⟩
    match fs.entry? p with
    | some .directory => makeDirectories fs rooted (above ++ [name]) below
    | some (.file _) => .error .notDirectory
    | none => makeDirectories (fs.put p .directory) rooted (above ++ [name]) below

/-- Makes a directory and all above it. -/
def makeDirectory (fs : FileSystem) (p : Path) : Except IoError FileSystem :=
  fs.makeDirectories p.rooted [] p.names

/-- Whether a new file can stand at a path. -/
def checkPlace (fs : FileSystem) (p : Path) : Except IoError Unit :=
  match p.parent? with
  | none => .error .isDirectory
  | some parent =>
    match fs.entry? parent with
    | some .directory => .ok ()
    | some (.file _) => .error .notDirectory
    | none => .error .notFound

/-- Makes a file of these bytes, or replaces the one that is there. -/
def write (fs : FileSystem) (p : Path) (bytes : List UInt8) : Except IoError FileSystem := do
  fs.checkPlace p
  match fs.entry? p with
  | some .directory => .error .isDirectory
  | _ => .ok (fs.put p (.file bytes))

/-- Moves a file to another path, in place of the file that is there. -/
def rename (fs : FileSystem) (source target : Path) : Except IoError FileSystem := do
  let bytes ← fs.read source
  fs.checkPlace target
  match fs.entry? target with
  | some .directory => .error .isDirectory
  | _ => .ok ((fs.remove source).put target (.file bytes))

end FileSystem

end ControlRelay.Storage
