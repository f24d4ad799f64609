import CobolAtlas.Command

/-!
# The program

Runs the command on the disk of the machine.
-/

namespace CobolAtlas.Main

def faultOf : IO.Error → DiskFault
  | .noFileOrDirectory .. => .notFound
  | .inappropriateType _ 20 _ => .notDirectory
  | .inappropriateType _ 21 _ => .isDirectory
  | .invalidArgument _ 36 _ => .nameTooLong
  | .inappropriateType _ code text => .other code.toNat text
  | .permissionDenied _ code text => .other code.toNat text
  | fault => .other 5 (toString fault)

/-- An action on a path whose error is a fault. -/
def attempt {α : Type} (path : String) (action : IO α) : IO (Except DiskFault α) := do
  if path.toList.contains '\x00' then return .error .nulInName
  try
    return .ok (← action)
  catch fault =>
    return .error (faultOf fault)

def isDirectory (path : String) : IO Bool := do
  try
    (← IO.FS.realPath path).isDir
  catch _ =>
    return false

def isFile (path : String) : IO Bool := do
  try
    let place ← IO.FS.realPath path
    if ← place.isDir then return false
    place.pathExists
  catch _ =>
    return false

def disk : Disk IO where
  isFile := isFile
  isDirectory := isDirectory
  read path := attempt path do
    if ← isDirectory path then throw (.inappropriateType none 21 "Is a directory")
    return (← IO.FS.readBinFile path).toList
  checkWritable path := attempt path do
    discard (IO.FS.Handle.mk path .append)
  write path text := attempt path (IO.FS.writeFile path text)

def isShown (verbose : Bool) (event : Event) : Bool :=
  match event.level with
  | .debug => false
  | .info => verbose
  | .warn => true

def asksVerbose (arguments : List String) : Bool :=
  match Arguments.parse arguments with
  | .analyze arguments => arguments.verbose
  | _ => false

end CobolAtlas.Main

def main (arguments : List String) : IO UInt32 := do
  let outcome ← CobolAtlas.Command.run CobolAtlas.Main.disk arguments
  let verbose := CobolAtlas.Main.asksVerbose arguments
  for event in outcome.events.filter (CobolAtlas.Main.isShown verbose) do
    IO.eprintln (event.level.name ++ " " ++ event.message)
  IO.eprint outcome.stderr
  IO.print outcome.stdout
  return outcome.code.toUInt32
