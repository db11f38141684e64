import ScrobbleRelay.Files.Path
import ScrobbleRelay.Task

/-!
# Files

A file system holds files and directories at places below a root that is always there.  Reading and
looking change nothing; writing a file makes or empties the one file at the place that the path
leads to and then gives it its bytes, and making a directory adds one place.  Each operation first
follows the path to its last part, and fails where the path leads through something that is missing
or no directory.  A change that the tree allows may still be refused by the device, and a file that
was opened may take only the first of its bytes.
-/

namespace ScrobbleRelay.Files

/-- Why a device refused a change. -/
inductive DeviceError
  | inputOutput
  | denied
  | tooLarge
  | full
  | readOnly
  | overQuota
  deriving Repr, DecidableEq

def DeviceError.message : DeviceError → String
  | inputOutput => "Input/output error (os error 5)"
  | denied => "Permission denied (os error 13)"
  | tooLarge => "File too large (os error 27)"
  | full => "No space left on device (os error 28)"
  | readOnly => "Read-only file system (os error 30)"
  | overQuota => "Disk quota exceeded (os error 122)"

/-- Why an operation on files failed. -/
inductive FileError
  | notFound
  | alreadyThere
  | notDirectory
  | isDirectory
  | nameTooLong
  | nulInPath
  | notText
  | device (cause : DeviceError)
  deriving Repr, DecidableEq

def FileError.message : FileError → String
  | notFound => "No such file or directory (os error 2)"
  | alreadyThere => "File exists (os error 17)"
  | notDirectory => "Not a directory (os error 20)"
  | isDirectory => "Is a directory (os error 21)"
  | nameTooLong => "File name too long (os error 36)"
  | nulInPath => "file name contained an unexpected NUL byte"
  | notText => "stream did not contain valid UTF-8"
  | device cause => cause.message

/-- A place in a file system: the names from the innermost to the outermost. -/
abbrev Place := List String

/-- What is at a place. -/
inductive Entry
  | file (bytes : ByteArray)
  | directory

/-- A change that the device does not make; of the bytes for a file it takes so many before. -/
structure Fault where
  taken : Nat
  cause : DeviceError

end ScrobbleRelay.Files

namespace ScrobbleRelay

open Files (Place Entry Fault FileError)

/-- A file system, the working directory, and what becomes of the changes to come, in their order;
those beyond the list are made. -/
structure Files where
  entries : List (Place × Entry)
  here : Place
  faults : List (Option Fault)

namespace Files

/-- A file system that holds nothing. -/
def empty : Files := ⟨[], [], []⟩

/-- What is at a place; the root is a directory. -/
def at? (fs : Files) : Place → Option Entry
  | [] => some .directory
  | place => fs.entries.lookup place

/-- The file system with something at a place. -/
def put (fs : Files) (place : Place) (entry : Entry) : Files :=
  { fs with entries := (place, entry) :: fs.entries }

/-- The greatest length of a name, and of a path with its end mark, in bytes. -/
def greatestName : Nat := 255

/-- The greatest length of a path in bytes. -/
def greatestPath : Nat := 4095

def checkPath (path : String) : Except FileError Unit :=
  if path.contains '\x00' then .error .nulInPath
  else if path.isEmpty then .error .notFound
  else if greatestPath < path.utf8ByteSize then .error .nameTooLong
  else .ok ()

/-- What a name leads to from a directory. -/
def child? (fs : Files) (place : Place) (name : String) : Except FileError (Option Entry) :=
  if greatestName < name.utf8ByteSize then .error .nameTooLong
  else .ok (fs.at? (name :: place))

/-- The directory that one part of a path leads to. -/
def enter (fs : Files) (place : Place) (part : String) : Except FileError Place :=
  if part = "." then .ok place
  else if part = ".." then .ok place.tail
  else
    match fs.child? place part with
    | .error e => .error e
    | .ok none => .error .notFound
    | .ok (some (.file _)) => .error .notDirectory
    | .ok (some .directory) => .ok (part :: place)

/-- The directory in which a path starts. -/
def start (fs : Files) (path : String) : Place := if isAbsolute path then [] else fs.here

/-- Where a path ends: in a directory by dots alone, or at a name in a directory. -/
inductive Target
  | directory (place : Place)
  | name (place : Place) (name : String)

/-- Follow a path up to its last part. -/
def target (fs : Files) (path : String) : Except FileError Target := do
  checkPath path
  let parts := partsOf path
  let place ← parts.dropLast.foldlM fs.enter (fs.start path)
  match parts.getLast? with
  | none => return .directory place
  | some last =>
    if last = "." || last = ".." then return .directory (← fs.enter place last)
    else return .name place last

/-- What a path leads to. -/
def find (fs : Files) (path : String) : Except FileError Entry := do
  match ← fs.target path with
  | .directory _ => return .directory
  | .name place name =>
    match ← fs.child? place name with
    | none => .error .notFound
    | some .directory => return .directory
    | some (.file bytes) =>
      if endsInSlash path then .error .notDirectory else return .file bytes

/-- Whether a path leads to anything. -/
def isThere (fs : Files) (path : String) : Bool := (fs.find path).isOk

def isDirectory (fs : Files) (path : String) : Bool :=
  match fs.find path with
  | .ok .directory => true
  | _ => false

/-- The text of the file at a path. -/
def read (fs : Files) (path : String) : Except FileError String := do
  match ← fs.find path with
  | .directory => .error .isDirectory
  | .file bytes =>
    match String.fromUTF8? bytes with
    | some s => return s
    | none => .error .notText

/-- The place of the file that is at a path or can be made there. -/
def fileSpot (fs : Files) (path : String) : Except FileError Place := do
  match ← fs.target path with
  | .directory _ => .error .isDirectory
  | .name place name =>
    if endsInSlash path then .error .isDirectory
    else
      match ← fs.child? place name with
      | some .directory => .error .isDirectory
      | _ => return name :: place

/-- The place of the directory that can be made at a path. -/
def freeSpot (fs : Files) (path : String) : Except FileError Place := do
  match ← fs.target path with
  | .directory _ => .error .alreadyThere
  | .name place name =>
    match ← fs.child? place name with
    | some _ => .error .alreadyThere
    | none => return name :: place

/-- What becomes of the next change. -/
def nextFault : Task FileError Files (Option Fault) := do
  let fs ← Task.world
  Task.change fun fs => { fs with faults := fs.faults.tail }
  return fs.faults.head?.join

/-- Make a file or a directory at a place, unless the device refuses that. -/
def make (spot : Place) (entry : Entry) : Task FileError Files Unit := do
  match ← nextFault with
  | none => Task.change (·.put spot entry)
  | some fault => Task.fail (.device fault.cause)

/-- Give an empty file its bytes.  A fault that would come after the last of them does not come. -/
def fill (spot : Place) (bytes : ByteArray) : Task FileError Files Unit := do
  match ← nextFault with
  | none => Task.change (·.put spot (.file bytes))
  | some fault =>
    if fault.taken < bytes.size then
      Task.change (·.put spot (.file (bytes.extract 0 fault.taken)))
      Task.fail (.device fault.cause)
    else Task.change (·.put spot (.file bytes))

/-- Write a file: it is made, or the one that is there is emptied, and then it is given the bytes. -/
def write (path : String) (bytes : ByteArray) : Task FileError Files Unit := do
  let fs ← Task.world
  let spot ← Task.ofExcept (fs.fileSpot path)
  make spot (.file .empty)
  fill spot bytes

/-- Make one directory; one that is there already will do. -/
def makeDirectory (path : String) : Task FileError Files Unit := do
  let fs ← Task.world
  match fs.freeSpot path with
  | .ok spot => make spot .directory
  | .error e => if fs.isDirectory path then pure () else Task.fail e

/-- Make a directory and, where they are missing, at most `above` of those above it. -/
def makeDirectoriesFrom (above : Nat) (path : String) : Task FileError Files Unit :=
  if path.isEmpty then pure ()
  else do
    match ← (makeDirectory path).caught with
    | .ok () => pure ()
    | .error .notFound =>
      match above, parent? path with
      | above + 1, some parent =>
        makeDirectoriesFrom above parent
        makeDirectory path
      | _, _ => Task.fail .notFound
    | .error e => Task.fail e

/-- Make a directory and all that are missing above it. -/
def makeDirectories (path : String) : Task FileError Files Unit :=
  makeDirectoriesFrom (partsOf path).length path

end Files

end ScrobbleRelay
