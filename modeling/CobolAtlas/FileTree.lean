import CobolAtlas.Disk
import CobolAtlas.Text

/-!
# File trees

A disk in memory: files and directories by their place, which is the list of names on the way from
the root. A path is walked name by name from the root or from the working directory; every name
but the last must lead to a directory. A name is judged when the walk comes to it: of two bad names
the first one counts.
-/

namespace CobolAtlas

inductive FileEntry where
  | file (bytes : Charset.Bytes)
  | directory
  deriving DecidableEq, Repr

/-- A place in a tree: the names on the way from the root. -/
abbrev Place := List String

structure FileTree where
  /-- The entries; of two for one place the first counts. -/
  entries : List (Place × FileEntry) := []
  workingDirectory : Place := []
  deriving DecidableEq, Repr

namespace FileTree

/-- What stands at a place. The root is always a directory. -/
def entryAt (tree : FileTree) (place : Place) : Option FileEntry :=
  if place = [] then some .directory
  else (tree.entries.find? fun entry => entry.1 = place).map Prod.snd

def put (tree : FileTree) (place : Place) (entry : FileEntry) : FileTree :=
  { tree with entries := (place, entry) :: tree.entries.filter (fun old => old.1 ≠ place) }

/-- Makes a directory at a place and on the way to it. -/
def putDirectory (tree : FileTree) (place : Place) : FileTree :=
  ((List.range place.length).map fun n => place.take (n + 1)).foldl
    (fun tree place => if (tree.entryAt place).isSome then tree else tree.put place .directory)
    tree

/-- All files, the last one put first. -/
def files (tree : FileTree) : List (Place × Charset.Bytes) :=
  tree.entries.filterMap fun entry =>
    match entry.2 with
    | .file bytes => some (entry.1, bytes)
    | .directory => none

/-! ### Paths -/

def maxPathSize : Nat := 4095

def maxNameSize : Nat := 255

def stepsOf (path : String) : List String :=
  (Text.fields '/' path).filter (· ≠ "")

/-- Whether a slash ends a path, so that only a directory can be there. -/
def endsWithSlash (path : String) : Bool :=
  path.toList.getLast? = some '/'

def child (tree : FileTree) (directory : Place) (name : String) :
    Except DiskFault (Option FileEntry) :=
  if name.utf8ByteSize > maxNameSize then .error .nameTooLong
  else .ok (tree.entryAt (directory ++ [name]))

def walk (tree : FileTree) (directory : Place) : List String → Except DiskFault Place
  | [] => .ok directory
  | "." :: rest => walk tree directory rest
  | ".." :: rest => walk tree directory.dropLast rest
  | name :: rest =>
    match tree.child directory name with
    | .error fault => .error fault
    | .ok (some .directory) => walk tree (directory ++ [name]) rest
    | .ok (some (.file _)) => .error .notDirectory
    | .ok none => .error .notFound

inductive Target where
  /-- A directory that the path reaches without a name of its own. -/
  | directory (place : Place)
  /-- A name in a directory, where there may be anything or nothing. -/
  | name (directory : Place) (name : String)
  deriving DecidableEq, Repr

def target (tree : FileTree) (path : String) : Except DiskFault Target :=
  if path.toList.contains '\x00' then .error .nulInName
  else if path = "" then .error .notFound
  else if path.utf8ByteSize > maxPathSize then .error .nameTooLong
  else
    let start := if path.toList.head? = some '/' then [] else tree.workingDirectory
    let steps := stepsOf path
    match steps.getLast? with
    | none => .ok (.directory start)
    | some last =>
      if last = "." || last = ".." then (tree.walk start steps).map .directory
      else (tree.walk start steps.dropLast).map (.name · last)

def lookup (tree : FileTree) (path : String) : Except DiskFault FileEntry :=
  match tree.target path with
  | .error fault => .error fault
  | .ok (.directory _) => .ok .directory
  | .ok (.name directory name) =>
    match tree.child directory name with
    | .error fault => .error fault
    | .ok none => .error .notFound
    | .ok (some .directory) => .ok .directory
    | .ok (some (.file bytes)) =>
      if endsWithSlash path then .error .notDirectory else .ok (.file bytes)

/-! ### Questions of a disk -/

def isFile (tree : FileTree) (path : String) : Bool :=
  match tree.lookup path with
  | .ok (.file _) => true
  | _ => false

def isDirectory (tree : FileTree) (path : String) : Bool :=
  match tree.lookup path with
  | .ok .directory => true
  | _ => false

def read (tree : FileTree) (path : String) : Except DiskFault Charset.Bytes :=
  match tree.lookup path with
  | .error fault => .error fault
  | .ok .directory => .error .isDirectory
  | .ok (.file bytes) => .ok bytes

def checkWritable (tree : FileTree) (path : String) : Except DiskFault Unit :=
  match tree.lookup path with
  | .error fault => .error fault
  | .ok .directory => .error .isDirectory
  | .ok (.file _) => .ok ()

/-- The tree with a text as the whole content of the file at a path. The directory of the file must
be there, and no slash may end the path. -/
def write (tree : FileTree) (path text : String) : Except DiskFault FileTree :=
  match tree.target path with
  | .error fault => .error fault
  | .ok (.directory _) => .error .isDirectory
  | .ok (.name directory name) =>
    if endsWithSlash path then .error .isDirectory
    else
      match tree.child directory name with
      | .error fault => .error fault
      | .ok (some .directory) => .error .isDirectory
      | .ok _ => .ok (tree.put (directory ++ [name]) (.file text.toUTF8.toList))

/-- The tree of the state as a disk. -/
def disk : Disk (StateM FileTree) where
  isFile path := return (← get).isFile path
  isDirectory path := return (← get).isDirectory path
  read path := return (← get).read path
  checkWritable path := return (← get).checkWritable path
  write path text := do
    match (← get).write path text with
    | .ok tree =>
      set tree
      return .ok ()
    | .error fault => return .error fault

end FileTree

end CobolAtlas
