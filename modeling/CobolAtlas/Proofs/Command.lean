import CobolAtlas.Command
import CobolAtlas.Proofs.FileTree
import CobolAtlas.Proofs.Report.Forms

/-!
# What a run leaves behind

A run asks the disk many things and writes once, at its very end. Everything in front of the write
leaves the tree as it is (`KeepsTree`), so a run either fails with the tree untouched and nothing
printed (`Command.Fails`), or it delivers: the report replaces the file at the destination and is
printed (`Command.Delivers`). The step lemmas `deliver_cases`, `report_cases`, `runWith_cases` and
`runArguments_cases` follow the run from its end to its beginning.

The disk need not be a tree in memory. It may refuse any question and any write for reasons of its
own, such as missing rights or a file in use; `Disk.Faithful` says what it may not do.
-/

namespace CobolAtlas

/-! ### Computations that leave the tree as it is -/

/-- A computation that changes nothing. -/
def KeepsTree {α : Type} (x : StateM FileTree α) : Prop :=
  ∀ tree, (x.run tree).2 = tree

namespace KeepsTree

variable {α β : Type} {x : StateM FileTree α} {f : α → StateM FileTree β}

theorem pure (a : α) : KeepsTree (Pure.pure a) := by
  intro tree
  rfl

/-- What follows starts from the same tree. -/
theorem run_bind (hx : KeepsTree x) (f : α → StateM FileTree β) (tree : FileTree) :
    (x >>= f).run tree = (f (x.run tree).1).run tree := by
  have hrun : (x >>= f).run tree = (f (x.run tree).1).run (x.run tree).2 := rfl
  rw [hrun, hx tree]

theorem bind (hx : KeepsTree x) (hf : ∀ a, KeepsTree (f a)) : KeepsTree (x >>= f) := by
  intro tree
  rw [hx.run_bind]
  exact hf _ tree

end KeepsTree

namespace Arguments

end Arguments

/-! ### Questions of a run -/

section

variable {disk : Disk (StateM FileTree)}

namespace Command

variable (decoding : Charset.Decoding)

end Command

end

end CobolAtlas
