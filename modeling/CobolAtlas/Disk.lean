import CobolAtlas.Charset.Decoder

/-!
# Disks

What the program asks of a disk. The same program runs on any disk that answers these questions:
on the real one, and on a `FileTree`, where it can be reasoned about.
-/

namespace CobolAtlas

inductive DiskFault where
  | notFound
  | notDirectory
  | isDirectory
  | nameTooLong
  | nulInName
  | other (code : Nat) (text : String)
  deriving DecidableEq, Repr

namespace DiskFault

def message : DiskFault → String
  | notFound => "No such file or directory (os error 2)"
  | notDirectory => "Not a directory (os error 20)"
  | isDirectory => "Is a directory (os error 21)"
  | nameTooLong => "File name too long (os error 36)"
  | nulInName => "file name contained an unexpected NUL byte"
  | other code text => text ++ " (os error " ++ toString code ++ ")"

end DiskFault

/-- A disk. Only `write` changes it, and a refused write changes nothing. -/
structure Disk (m : Type → Type) where
  /-- Whether there is a file at a path. -/
  isFile : String → m Bool
  /-- Whether there is a directory at a path. -/
  isDirectory : String → m Bool
  /-- The bytes of the file at a path. -/
  read : String → m (Except DiskFault Charset.Bytes)
  /-- Whether what is at a path can be opened for writing. -/
  checkWritable : String → m (Except DiskFault Unit)
  /-- Makes a text the whole content of the file at a path. -/
  write : String → String → m (Except DiskFault Unit)

namespace Disk

variable {m : Type → Type} [Monad m]

def isPresent (disk : Disk m) (path : String) : m Bool := do
  if ← disk.isFile path then return true
  disk.isDirectory path

end Disk

end CobolAtlas
