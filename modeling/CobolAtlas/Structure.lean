import CobolAtlas.Section

/-!
# The structure of a program

The calls of a program as a tree: the first section at the root, and below a section its calls in
source order. A section that is already on the way from the root is not unfolded again, so the
tree is finite; each level takes one more section of the program onto the way.
-/

namespace CobolAtlas

inductive NodeKind where
  /-- A section whose calls are below. -/
  | unfolded
  /-- Another module. -/
  | external
  /-- A target that is no section. -/
  | unknown
  /-- A section that is already on the way. -/
  | recursive
  deriving DecidableEq, Repr

namespace NodeKind

def name : NodeKind → String
  | unfolded => "procedure"
  | external => "module"
  | unknown => "invalid_target"
  | recursive => "recursive"

def mark : NodeKind → String
  | unfolded => ""
  | external => " <module>"
  | unknown => " <invalid target>"
  | recursive => " <recursive>"

end NodeKind

structure Node where
  name : String
  title : String
  /-- The conditions at the call, empty at the root. -/
  guard : String
  kind : NodeKind
  children : List Node
  deriving Repr

namespace Structure

/-- The number of sections that are not on the way. -/
def freeSections (sections : List Section) (path : List Nat) : Nat :=
  ((List.range sections.length).filter fun i => !path.contains i).length

theorem freeSections_cons_lt {sections : List Section} {path : List Nat} {i : Nat}
    (hi : i < sections.length) (hp : path.contains i = false) :
    freeSections sections (i :: path) < freeSections sections path := by
  have hsplit : ((List.range sections.length).filter fun j => !(i :: path).contains j)
      = ((List.range sections.length).filter fun j => !path.contains j).filter (· ≠ i) := by
    rw [List.filter_filter]
    congr 1
    funext j
    by_cases h : j = i <;> simp [h]
  unfold freeSections
  rw [hsplit]
  refine List.length_filter_lt_length_iff_exists.2 ⟨i, ?_, by simp⟩
  exact List.mem_filter.2 ⟨List.mem_range.2 hi, by simpa using hp⟩

/-- The section that a call leads to. An index outside of the program leads nowhere. -/
def callee? (sections : List Section) (call : Call) : Option (Fin sections.length) :=
  call.resolved.bind fun i => if h : i < sections.length then some ⟨i, h⟩ else none

def leaf (call : Call) (kind : NodeKind) (title : String) : Node :=
  ⟨call.target, title, call.guard, kind, []⟩

/-- The nodes of calls, made by `caller` at the end of `path`. A call that leads nowhere is a call
of the caller itself if it has its name. -/
def nodes (sections : List Section) (path : List Nat) (caller : Section) :
    List Call → List Node
  | [] => []
  | call :: rest =>
    let node :=
      if call.isModule then leaf call .external ""
      else
        match callee? sections call with
        | none => leaf call (if call.target = caller.name then .recursive else .unknown) ""
        | some i =>
          let callee := sections[i]
          if _h : path.contains i.val then leaf call .recursive callee.title
          else
            ⟨call.target, callee.title, call.guard, .unfolded,
              nodes sections (i.val :: path) callee callee.calls⟩
    node :: nodes sections path caller rest
termination_by calls => (freeSections sections path, calls.length)
decreasing_by
  · exact Prod.Lex.left _ _ (freeSections_cons_lt i.isLt (by simpa using _h))
  · exact Prod.Lex.right _ (by simp)

def tree? (sections : List Section) : Option Node :=
  match sections with
  | [] => none
  | entry :: _ =>
    some ⟨entry.name, entry.title, "", .unfolded, nodes sections [0] entry entry.calls⟩

end Structure

end CobolAtlas
