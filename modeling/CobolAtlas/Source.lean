import CobolAtlas.Line
import CobolAtlas.Path

/-!
# Program sources

The lines of a program and the look at the comments above a line. Lines count from one, and a line
outside the program is empty. Besides its own lines a program has those of the members that it
copies, each with the comment above its first use.
-/

namespace CobolAtlas

structure Source where
  path : String
  lines : List String
  deriving DecidableEq, Repr

namespace Source

def ofChars (path : String) (chars : List Char) : Source :=
  ⟨path, (Chars.lines chars).map String.ofList⟩

def ofText (path text : String) : Source :=
  ofChars path text.toList

def program (source : Source) : String :=
  Path.fileStem source.path

def line (source : Source) : Nat → String
  | 0 => ""
  | n + 1 => source.lines.getD n ""

/-- The comment at a line, empty if there is none. -/
def commentAt (source : Source) (n : Nat) : String :=
  Line.comment (source.line n)

def commentAbove (source : Source) (n distance : Nat) : String :=
  source.commentAt (n - distance)

end Source

/-! ### Copied members -/

structure CopyMember where
  name : String
  comment : String
  deriving DecidableEq, Repr

/-- The copied members in the order of their first use. -/
abbrev CopyMembers := List CopyMember

namespace CopyMembers

def has (members : CopyMembers) (name : String) : Bool :=
  members.any (fun member => member.name = name)

def comment? (members : CopyMembers) (name : String) : Option String :=
  (members.find? (fun member => member.name = name)).map CopyMember.comment

/-- The members after one more use; only the first use of a member counts. -/
def add (members : CopyMembers) (name comment : String) : CopyMembers :=
  if members.has name then members else members ++ [⟨name, comment⟩]

end CopyMembers

end CobolAtlas
