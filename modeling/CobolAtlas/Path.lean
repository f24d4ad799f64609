import CobolAtlas.Text

/-!
# Paths

A path is a text of names between slashes. Empty names and single dots count for nothing, except
that a path may start with a dot.
-/

namespace CobolAtlas.Path

def isAbsolute (path : String) : Bool :=
  path.toList.head? = some '/'

/-- Whether a name counts for nothing inside a path. -/
def isVoid (name : String) : Bool :=
  name = "" || name = "."

/-- Drops the void names at the end of a relative path, whose names are given last first. The first
name of the path is void only if it is empty. -/
def dropVoid : List String → List String
  | [] => []
  | [name] => if name = "" then [] else [name]
  | name :: next :: rest =>
    if isVoid name then dropVoid (next :: rest) else name :: next :: rest

/-- The names of a path, last first and from the last one that counts. -/
def namesBackward (path : String) : List String :=
  if isAbsolute path then ((Text.fields '/' path).tail.reverse).dropWhile isVoid
  else dropVoid (Text.fields '/' path).reverse

/-- The path of the directory that holds a path; a root and an empty path have none. -/
def parent? (path : String) : Option String :=
  match namesBackward path with
  | [] => none
  | _ :: front =>
    if isAbsolute path then
      some ("/" ++ "/".intercalate (front.dropWhile isVoid).reverse)
    else some ("/".intercalate (dropVoid front).reverse)

def fileName? (path : String) : Option String :=
  match namesBackward path with
  | name :: _ => if name = "." || name = ".." then none else some name
  | [] => none

/-- A file name up to its last dot, if that dot is not the first character. -/
def stem (name : String) : String :=
  match name.toList.reverse.dropWhile (· ≠ '.') with
  | _ :: c :: front => String.ofList (c :: front).reverse
  | _ => name

/-- The stem of the file at a path, empty if the path names no file. -/
def fileStem (path : String) : String :=
  ((fileName? path).map stem).getD ""

def join (directory name : String) : String :=
  if directory = "" then name
  else if directory.toList.getLast? = some '/' then directory ++ name
  else directory ++ "/" ++ name

end CobolAtlas.Path
