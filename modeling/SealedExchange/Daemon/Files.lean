import SealedExchange.Daemon.Path
import SealedExchange.Daemon.System

/-! # A system made of files

A system for a single daemon: files in directories, some variables of the environment and a source
of random bytes. Nobody else listens on it. Every path is seen from one directory, which all other
directories are in.
-/

namespace SealedExchange

/-- The names of the directories around a file, outermost first, and of the file itself. -/
abbrev Place := List String

/-- Files and directories by place. The directories that a file is in need not be listed. -/
structure Files where
  directories : List Place := []
  contents : List (Place × Bytes) := []

/-- Where a path leads. -/
inductive Spot
  | directory (place : Place)
  | file (place : Place) (bytes : Bytes)
  /-- A file could be made here. -/
  | vacant (place : Place)
  | nowhere

namespace Files

/-- Tests for a directory: one that was made, or one that holds something. -/
def isDirectory (f : Files) (place : Place) : Bool :=
  place.isEmpty || f.directories.any (place.isPrefixOf ·) ||
    f.contents.any fun entry => place.isPrefixOf entry.1 && place ≠ entry.1

/-- Tests for a file. -/
def isFile (f : Files) (place : Place) : Bool := (f.contents.lookup place).isSome

/-- Goes from a directory along the parts of a path. Only from a directory can one go on, even to
where one is already. -/
def follow (f : Files) (place : Place) : (steps : List String) → Spot
  | [] => .directory place
  | part :: rest =>
    if Path.isIdle part then follow f place rest
    else if part = Path.back then follow f place.dropLast rest
    else if ¬Path.isName part then .nowhere
    else
      let place := place ++ [part]
      if f.isDirectory place then follow f place rest
      else if ¬rest.isEmpty then .nowhere
      else (f.contents.lookup place).elim (.vacant place) (.file place)

/-- Where a path leads. -/
def find (f : Files) (path : String) : Spot :=
  if Path.isPath path then f.follow [] (Path.steps path) else .nowhere

/-- What is found under a path. -/
def read (f : Files) (path : String) : FileState :=
  match f.find path with
  | .directory _ => .unreadable "is a directory"
  | .file _ bytes => .contents bytes
  | _ => .absent

/-- Removes a file. -/
def remove (f : Files) (place : Place) : Files :=
  { f with contents := f.contents.filter (·.1 ≠ place) }

/-- Puts a file in place. -/
def put (f : Files) (place : Place) (bytes : Bytes) : Files :=
  { f.remove place with contents := (place, bytes) :: (f.remove place).contents }

/-- A change of files, which may fail halfway. -/
abbrev Change := ExceptT String (StateM Files)

/-- Goes from a directory into the one with some name, which is made if nothing has the name. -/
def enter (place : Place) (part : String) : Change Place := do
  let f ← get
  let inner := place ++ [part]
  if part = Path.back then pure place.dropLast
  else if f.isDirectory inner then pure inner
  else if f.isFile inner then throw "not a directory"
  else if ¬Path.isName part then throw "not a name"
  else do
    set { f with directories := inner :: f.directories }
    pure inner

/-- Makes a directory and those that it is in. -/
def makeDirectory (parts : List String) : Change Place := parts.foldlM enter []

/-- Writes a file whose directory is there. -/
def save (path : String) (bytes : Bytes) : Change Place := do
  let f ← get
  match f.find path with
  | .vacant place | .file place _ => do
    set (f.put place bytes)
    pure place
  | .directory _ => throw "is a directory"
  | .nowhere => throw "not found"

/-- Writes a file, and makes the directories that it is in. -/
def write (path : String) (bytes : Bytes) : Change Unit := do
  let _ ← makeDirectory (Path.parent path)
  let _ ← save path bytes

/-- Writes a file under another name first and then gives it its own. -/
def replace (path : String) (bytes : Bytes) : Change Unit := do
  let _ ← makeDirectory (Path.parent path)
  let draft ← save (Path.draft path) bytes
  let f ← get
  match f.find path with
  | .vacant place | .file place _ => set ((f.remove draft).put place bytes)
  | .directory _ => throw "is a directory"
  | .nowhere => throw "not found"

/-- The files of a database that must not be directories. -/
def databaseFiles : List String := ["db", "conf"]

/-- Opens a database, whose directory is made if it is not there. -/
def openDatabase (path : String) : Change Unit := do
  let place ← makeDirectory (Path.parts path)
  let f ← get
  if databaseFiles.any fun name => f.isDirectory (place ++ [name]) then throw "is a directory"

/-- Changes the files of a system. -/
def perform (change : Change Unit) : StateM (Files × Entropy) (Except String Unit) :=
  fun (files, entropy) =>
    let (result, files) := change.run files
    (result, (files, entropy))

/-- The system of some files. -/
def system (home : String) (settings : List (String × String)) :
    System (StateM (Files × Entropy)) where
  home
  environment name := pure (settings.reverse.lookup name)
  read path := fun (files, entropy) => (files.read path, (files, entropy))
  write path bytes := perform (write path bytes)
  replace path bytes := perform (replace path bytes)
  openDatabase path := perform (openDatabase path)
  listen address :=
    pure (if (Http.Socket.ofAddress? address).isSome then .ok ()
      else .error "invalid address")
  draw act := fun (files, entropy) =>
    let (a, entropy) := act entropy
    (a, (files, entropy))

end Files

end SealedExchange
