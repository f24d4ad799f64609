import Mathlib.Data.List.Induction
import Mathlib.Data.List.Perm.Subperm
import CobolAtlas.Structure

/-!
# The tree of a program unfolds its simple ways

A node of the tree has an address, the numbers of the children on the way down from the root. The
same numbers pick calls: the first one a call of the first section, the next one a call of the
section that is called there, and so on (`Way`). The tree has a node at an address exactly if the
calls in front of the last number lead through different sections of the program, and the node says
what the last call is.

The sections on a way that the tree follows differ from each other, so no address is longer than
the number of sections, whatever cycles the calls make.
-/

namespace CobolAtlas

namespace Node

/-- The node at an address below a node. -/
def at? : Node → List Nat → Option Node
  | node, [] => some node
  | node, k :: rest => node.children[k]?.bind fun child => child.at? rest

theorem at?_append_singleton (node : Node) (address : List Nat) (k : Nat) :
    node.at? (address ++ [k]) = (node.at? address).bind fun parent => parent.children[k]? := by
  induction address generalizing node with
  | nil =>
    simp only [List.nil_append, at?, Option.bind_some]
    exact Option.bind_fun_some _
  | cons n rest ih =>
    simp only [List.cons_append, at?, Option.bind_assoc, ih]

/-- What the node of a call says, where the call is made by `caller` behind the sections of
`path`. -/
structure StandsFor (node : Node) (sections : List Section) (path : List Nat) (caller : Section)
    (call : Call) : Prop where
  name_eq : node.name = call.target
  guard_eq : node.guard = call.guard
  of_module : call.isModule = true → node.kind = .external ∧ node.title = ""
  of_section : call.isModule = false → ∀ j callee, call.resolved = some j →
    sections[j]? = some callee →
      node.kind = (if j ∈ path then .recursive else .unfolded) ∧ node.title = callee.title
  of_nowhere : call.isModule = false → (∀ j, call.resolved = some j → sections.length ≤ j) →
    node.kind = (if call.target = caller.name then .recursive else .unknown) ∧ node.title = ""

end Node

namespace Structure

/-! ### Ways -/

/-- The calls with the numbers of the address lead from the first section through the sections of
the path, the last one in front. -/
inductive Way (sections : List Section) : List Nat → List Nat → Prop
  | root : Way sections [] [0]
  | step {address path : List Nat} {i j k : Nat} {caller : Section} {call : Call} :
      Way sections address (i :: path) → sections[i]? = some caller →
      caller.calls[k]? = some call → call.isModule = false → call.resolved = some j →
      j < sections.length → Way sections (address ++ [k]) (j :: i :: path)

section

variable {sections : List Section} {address path : List Nat}

theorem Way.of_nil (h : Way sections [] path) : path = [0] := by
  generalize haddress : ([] : List Nat) = address at h
  cases h with
  | root => rfl
  | step => simp at haddress

/-- The last step of a way is a resolved call of the section before it. -/
theorem Way.of_append_singleton {k : Nat} (h : Way sections (address ++ [k]) path) :
    ∃ i j rest caller call, path = j :: i :: rest ∧ Way sections address (i :: rest) ∧
      sections[i]? = some caller ∧ caller.calls[k]? = some call ∧ call.isModule = false ∧
      call.resolved = some j ∧ j < sections.length := by
  generalize haddress : address ++ [k] = whole at h
  cases h with
  | root => simp at haddress
  | step hway hcaller hcall hmodule hresolved hlt =>
    obtain ⟨rfl, hk⟩ := List.append_inj' haddress rfl
    obtain rfl := List.singleton_inj.mp hk
    exact ⟨_, _, _, _, _, rfl, hway, hcaller, hcall, hmodule, hresolved, hlt⟩

theorem Way.unique {other : List Nat} (h : Way sections address path)
    (hother : Way sections address other) : path = other := by
  induction h generalizing other with
  | root => exact hother.of_nil.symm
  | step _ hcaller hcall _ hresolved _ ih =>
    obtain ⟨i', j', rest, caller', call', rfl, hway, hcaller', hcall', _, hresolved', _⟩ :=
      hother.of_append_singleton
    obtain ⟨rfl, rfl⟩ := List.cons.inj (ih hway)
    rw [hcaller] at hcaller'
    obtain rfl := Option.some.inj hcaller'
    rw [hcall] at hcall'
    obtain rfl := Option.some.inj hcall'
    rw [hresolved] at hresolved'
    rw [Option.some.inj hresolved']

theorem Way.length_eq (h : Way sections address path) : path.length = address.length + 1 := by
  induction h with
  | root => rfl
  | step _ _ _ _ _ _ ih =>
    rw [List.length_cons, ih, List.length_append, List.length_singleton]

theorem Way.lt (hne : sections ≠ []) (h : Way sections address path) :
    ∀ i ∈ path, i < sections.length := by
  induction h with
  | root =>
    intro i hi
    rw [List.mem_singleton.mp hi]
    exact List.length_pos_of_ne_nil hne
  | step _ _ _ _ _ hlt ih =>
    intro i hi
    rcases List.mem_cons.mp hi with rfl | hi
    · exact hlt
    · exact ih i hi

/-- A way through different sections is no longer than the program. -/
theorem Way.length_lt (hne : sections ≠ []) (h : Way sections address path)
    (hnodup : path.Nodup) : address.length < sections.length := by
  have hsub : path ⊆ List.range sections.length := by
    intro i hi
    exact List.mem_range.mpr (h.lt hne i hi)
  have hle := (hnodup.subperm hsub).length_le
  rw [h.length_eq, List.length_range] at hle
  exact hle

end

/-! ### The node of one call -/

/-- The node of a call that `caller` makes at the end of `path`. -/
def nodeOf (sections : List Section) (path : List Nat) (caller : Section) (call : Call) : Node :=
  if call.isModule then leaf call .external ""
  else
    match callee? sections call with
    | none => leaf call (if call.target = caller.name then .recursive else .unknown) ""
    | some i =>
      if path.contains i.val then leaf call .recursive (sections.get i).title
      else
        ⟨call.target, (sections.get i).title, call.guard, .unfolded,
          nodes sections (i.val :: path) (sections.get i) (sections.get i).calls⟩

/-- The recursion over the calls as a map, which is what the proofs use. -/
theorem nodes_eq_map (sections : List Section) (path : List Nat) (caller : Section)
    (calls : List Call) :
    nodes sections path caller calls = calls.map (nodeOf sections path caller) := by
  induction calls with
  | nil => rw [nodes, List.map_nil]
  | cons call rest ih =>
    rw [nodes, ih, List.map_cons]
    simp only [dite_eq_ite]
    rfl

theorem callee?_eq_some {sections : List Section} {call : Call} {i : Fin sections.length}
    (h : callee? sections call = some i) : call.resolved = some i.val := by
  unfold callee? at h
  obtain ⟨j, hj, hi⟩ := Option.bind_eq_some_iff.mp h
  by_cases hlt : j < sections.length
  · rw [dif_pos hlt, Option.some.injEq] at hi
    rw [hj, ← hi]
  · rw [dif_neg hlt] at hi
    exact absurd hi (by simp)

theorem callee?_of_lt {sections : List Section} {call : Call} {j : Nat}
    (hresolved : call.resolved = some j) (hlt : j < sections.length) :
    callee? sections call = some ⟨j, hlt⟩ := by
  simp [callee?, hresolved, hlt]

section

variable (sections : List Section) (path : List Nat) (caller : Section) {call : Call}

theorem nodeOf_module (hmodule : call.isModule = true) :
    nodeOf sections path caller call = leaf call .external "" := by
  simp [nodeOf, hmodule]

theorem nodeOf_nowhere (hmodule : call.isModule = false) (hcallee : callee? sections call = none) :
    nodeOf sections path caller call =
      leaf call (if call.target = caller.name then .recursive else .unknown) "" := by
  simp [nodeOf, hmodule, hcallee]

/-- A section that is already on the path is not unfolded again. -/
theorem nodeOf_onPath {i : Fin sections.length} (hmodule : call.isModule = false)
    (hcallee : callee? sections call = some i) (hpath : i.val ∈ path) :
    nodeOf sections path caller call = leaf call .recursive (sections.get i).title := by
  simp [nodeOf, hmodule, hcallee, hpath]

theorem nodeOf_unfolded {i : Fin sections.length} (hmodule : call.isModule = false)
    (hcallee : callee? sections call = some i) (hpath : i.val ∉ path) :
    nodeOf sections path caller call =
      ⟨call.target, (sections.get i).title, call.guard, .unfolded,
        nodes sections (i.val :: path) (sections.get i) (sections.get i).calls⟩ := by
  simp [nodeOf, hmodule, hcallee, hpath]

/-- Every call has a node, and the kind of the node says what became of the call. -/
theorem nodeOf_standsFor (call : Call) :
    (nodeOf sections path caller call).StandsFor sections path caller call := by
  rcases hmodule : call.isModule with _ | _
  · rcases hcallee : callee? sections call with _ | i
    · rw [nodeOf_nowhere sections path caller hmodule hcallee]
      refine ⟨rfl, rfl, by simp [hmodule], ?_, fun _ _ => ⟨rfl, rfl⟩⟩
      intro _ j callee hresolved hj
      have hlt := (List.getElem?_eq_some_iff.mp hj).1
      rw [callee?_of_lt hresolved hlt] at hcallee
      exact absurd hcallee (by simp)
    · have hresolved := callee?_eq_some hcallee
      have hnowhere : ¬ ∀ j, call.resolved = some j → sections.length ≤ j := by
        intro hout
        have hle := hout i.val hresolved
        have hlt := i.isLt
        omega
      have hsection : ∀ j callee, call.resolved = some j → sections[j]? = some callee →
          j = i.val ∧ callee = sections.get i := by
        intro j callee hj hcallee
        rw [hresolved, Option.some.injEq] at hj
        subst hj
        refine ⟨rfl, ?_⟩
        exact (List.getElem?_eq_some_iff.mp hcallee).2.symm
      by_cases hpath : i.val ∈ path
      · rw [nodeOf_onPath sections path caller hmodule hcallee hpath]
        refine ⟨rfl, rfl, by simp [hmodule], ?_, fun _ hout => absurd hout hnowhere⟩
        intro _ j callee hj hcallee
        obtain ⟨rfl, rfl⟩ := hsection j callee hj hcallee
        rw [if_pos hpath]
        exact ⟨rfl, rfl⟩
      · rw [nodeOf_unfolded sections path caller hmodule hcallee hpath]
        refine ⟨rfl, rfl, by simp [hmodule], ?_, fun _ hout => absurd hout hnowhere⟩
        intro _ j callee hj hcallee
        obtain ⟨rfl, rfl⟩ := hsection j callee hj hcallee
        rw [if_neg hpath]
        exact ⟨rfl, rfl⟩
  · rw [nodeOf_module sections path caller hmodule]
    exact ⟨rfl, rfl, fun _ => ⟨rfl, rfl⟩, by simp [hmodule], by simp [hmodule]⟩

end

/-! ### The nodes of the tree -/

/-- A node below which the calls of section `i` are unfolded, at the end of a way. -/
def Expanded (sections : List Section) (path : List Nat) (i : Nat) (node : Node) : Prop :=
  node.kind = .unfolded ∧
    ∃ s, sections[i]? = some s ∧ node.children = nodes sections (i :: path) s s.calls

/-- A call either unfolds a section that is not on the way, or has nothing below. -/
theorem nodeOf_cases (sections : List Section) (path : List Nat) (caller : Section) (call : Call) :
    (call.isModule = false ∧ ∃ j, call.resolved = some j ∧ j < sections.length ∧ j ∉ path ∧
        Expanded sections path j (nodeOf sections path caller call)) ∨
      ((nodeOf sections path caller call).kind ≠ .unfolded ∧
        (nodeOf sections path caller call).children = []) := by
  rcases hmodule : call.isModule with _ | _
  · rcases hcallee : callee? sections call with _ | i
    · rw [nodeOf_nowhere sections path caller hmodule hcallee]
      refine .inr ⟨?_, rfl⟩
      simp only [leaf]
      split <;> simp
    · by_cases hpath : i.val ∈ path
      · rw [nodeOf_onPath sections path caller hmodule hcallee hpath]
        exact .inr ⟨by simp [leaf], rfl⟩
      · rw [nodeOf_unfolded sections path caller hmodule hcallee hpath]
        refine .inl
          ⟨rfl, i.val, callee?_eq_some hcallee, i.isLt, hpath, rfl, sections.get i, ?_, rfl⟩
        exact List.getElem?_eq_getElem i.isLt
  · rw [nodeOf_module sections path caller hmodule]
    exact .inr ⟨by simp [leaf], rfl⟩

theorem children_of_expanded {sections : List Section} {path : List Nat} {i k : Nat}
    {node : Node} (h : Expanded sections path i node) {caller : Section}
    (hcaller : sections[i]? = some caller) :
    node.children[k]? = caller.calls[k]?.map (nodeOf sections (i :: path) caller) := by
  obtain ⟨_, s, hs, hchildren⟩ := h
  rw [hcaller] at hs
  obtain rfl := Option.some.inj hs
  rw [hchildren, nodes_eq_map, List.getElem?_map]

theorem exists_tree {sections : List Section} (hne : sections ≠ []) :
    ∃ root, tree? sections = some root := by
  obtain ⟨entry, rest, rfl⟩ := List.exists_cons_of_ne_nil hne
  exact ⟨_, rfl⟩

section

variable {sections : List Section} {root : Node}

theorem root_label (htree : tree? sections = some root) {entry : Section}
    (hentry : sections[0]? = some entry) :
    root.name = entry.name ∧ root.title = entry.title ∧ root.guard = "" ∧
      root.kind = .unfolded := by
  cases sections with
  | nil => exact absurd htree (by simp [tree?])
  | cons first rest =>
    obtain rfl := Option.some.inj hentry
    obtain rfl := Option.some.inj htree
    exact ⟨rfl, rfl, rfl, rfl⟩

/-- The root stands for the first section, with nothing on the path. -/
theorem expanded_root (htree : tree? sections = some root) : Expanded sections [] 0 root := by
  cases sections with
  | nil => exact absurd htree (by simp [tree?])
  | cons entry rest =>
    obtain rfl := Option.some.inj htree
    exact ⟨rfl, entry, rfl, rfl⟩

/-- The tree follows every way through different sections. -/
theorem expanded_of_way (htree : tree? sections = some root) {address path : List Nat} {i : Nat}
    (hway : Way sections address (i :: path)) (hnodup : (i :: path).Nodup) :
    ∃ node, root.at? address = some node ∧ Expanded sections path i node := by
  generalize hwhole : i :: path = whole at hway
  induction hway generalizing i path with
  | root =>
    obtain ⟨rfl, rfl⟩ := List.cons.inj hwhole
    exact ⟨root, rfl, expanded_root htree⟩
  | @step before rest i' j k caller call hway hcaller hcall hmodule hresolved hlt ih =>
    obtain ⟨rfl, rfl⟩ := List.cons.inj hwhole
    obtain ⟨hnew, hnodup⟩ := List.nodup_cons.mp hnodup
    obtain ⟨parent, hparent, hexpanded⟩ := ih hnodup rfl
    refine ⟨nodeOf sections (i' :: rest) caller call, ?_, ?_⟩
    · rw [Node.at?_append_singleton, hparent, Option.bind_some,
        children_of_expanded hexpanded hcaller, hcall, Option.map_some]
    · rw [nodeOf_unfolded _ _ _ hmodule (callee?_of_lt hresolved hlt) hnew]
      exact ⟨rfl, _, List.getElem?_eq_getElem hlt, rfl⟩

/-- Every node of the tree stands at the end of such a way or has nothing below. -/
theorem expanded_or_leaf (htree : tree? sections = some root) {address : List Nat} {node : Node}
    (hnode : root.at? address = some node) :
    (∃ i path, Way sections address (i :: path) ∧ (i :: path).Nodup ∧
        Expanded sections path i node) ∨
      (node.kind ≠ .unfolded ∧ node.children = []) := by
  -- from the end of the address: the parent is known, and the last number picks one of its calls
  induction address using List.reverseRecOn generalizing node with
  | nil =>
    obtain rfl := Option.some.inj hnode
    exact .inl ⟨0, [], .root, by simp, expanded_root htree⟩
  | append_singleton before k ih =>
    rw [Node.at?_append_singleton] at hnode
    obtain ⟨parent, hparent, hchild⟩ := Option.bind_eq_some_iff.mp hnode
    rcases ih hparent with ⟨i, path, hway, hnodup, hexpanded⟩ | ⟨_, hchildren⟩
    · obtain ⟨caller, hcaller, _⟩ := hexpanded.2
      rw [children_of_expanded hexpanded hcaller] at hchild
      obtain ⟨call, hcall, rfl⟩ := Option.map_eq_some_iff.mp hchild
      rcases nodeOf_cases sections (i :: path) caller call with
        ⟨hmodule, j, hresolved, hlt, hnew, hbelow⟩ | hleaf
      · refine .inl ⟨j, i :: path, ?_, List.nodup_cons.mpr ⟨hnew, hnodup⟩, hbelow⟩
        exact .step hway hcaller hcall hmodule hresolved hlt
      · exact .inr hleaf
    · rw [hchildren] at hchild
      exact absurd hchild (by simp)

/-- Below the root every node stands for a call of the section above it. -/
theorem exists_call_of_at? (htree : tree? sections = some root) {address : List Nat} {k : Nat}
    {node : Node} (hnode : root.at? (address ++ [k]) = some node) :
    ∃ i path caller call, Way sections address (i :: path) ∧ (i :: path).Nodup ∧
      sections[i]? = some caller ∧ caller.calls[k]? = some call ∧
      node.StandsFor sections (i :: path) caller call := by
  rw [Node.at?_append_singleton] at hnode
  obtain ⟨parent, hparent, hchild⟩ := Option.bind_eq_some_iff.mp hnode
  rcases expanded_or_leaf htree hparent with ⟨i, path, hway, hnodup, hexpanded⟩ | ⟨_, hchildren⟩
  · obtain ⟨caller, hcaller, _⟩ := hexpanded.2
    rw [children_of_expanded hexpanded hcaller] at hchild
    obtain ⟨call, hcall, rfl⟩ := Option.map_eq_some_iff.mp hchild
    exact ⟨i, path, caller, call, hway, hnodup, hcaller, hcall, nodeOf_standsFor _ _ _ call⟩
  · rw [hchildren] at hchild
    exact absurd hchild (by simp)

theorem at?_isSome_of_call (htree : tree? sections = some root) {address path : List Nat}
    {i k : Nat} {caller : Section} (hway : Way sections address (i :: path))
    (hnodup : (i :: path).Nodup) (hcaller : sections[i]? = some caller)
    (hk : k < caller.calls.length) : ∃ node, root.at? (address ++ [k]) = some node := by
  obtain ⟨parent, hparent, hexpanded⟩ := expanded_of_way htree hway hnodup
  rw [Node.at?_append_singleton, hparent, Option.bind_some, children_of_expanded hexpanded hcaller,
    List.getElem?_eq_getElem hk]
  exact ⟨_, rfl⟩

theorem standsFor_of_at? (htree : tree? sections = some root) {address path : List Nat}
    {i k : Nat} {caller : Section} {call : Call} {node : Node}
    (hnode : root.at? (address ++ [k]) = some node) (hway : Way sections address (i :: path))
    (hcaller : sections[i]? = some caller) (hcall : caller.calls[k]? = some call) :
    node.StandsFor sections (i :: path) caller call := by
  obtain ⟨i', path', caller', call', hway', _, hcaller', hcall', hstands⟩ :=
    exists_call_of_at? htree hnode
  obtain ⟨rfl, rfl⟩ := List.cons.inj (hway.unique hway')
  rw [hcaller] at hcaller'
  obtain rfl := Option.some.inj hcaller'
  rw [hcall] at hcall'
  obtain rfl := Option.some.inj hcall'
  exact hstands

/-- No section comes twice on a path, so the tree is no deeper than there are sections. -/
theorem at?_length_le (hne : sections ≠ []) (htree : tree? sections = some root)
    {address : List Nat} {node : Node} (hnode : root.at? address = some node) :
    address.length ≤ sections.length := by
  rcases address.eq_nil_or_concat' with rfl | ⟨before, k, rfl⟩
  · exact Nat.zero_le _
  · obtain ⟨i, path, _, _, hway, hnodup, _⟩ := exists_call_of_at? htree hnode
    rw [List.length_append, List.length_singleton]
    exact hway.length_lt hne hnodup

end

/-! ### The whole tree -/

/-- A tree that unfolds the simple ways of a program. -/
structure Unfolds (sections : List Section) (root : Node) : Prop where
  /-- The root is the first section, under no condition. -/
  root_eq : ∀ entry, sections[0]? = some entry →
    root.name = entry.name ∧ root.title = entry.title ∧ root.guard = "" ∧ root.kind = .unfolded
  /-- There is a node where different sections lead to the caller of one more call. -/
  exists_iff : ∀ address k, (∃ node, root.at? (address ++ [k]) = some node) ↔
    ∃ i path caller, Way sections address (i :: path) ∧ (i :: path).Nodup ∧
      sections[i]? = some caller ∧ k < caller.calls.length
  /-- The node says what that call is. -/
  standsFor : ∀ address k node, root.at? (address ++ [k]) = some node →
    ∀ i path caller call, Way sections address (i :: path) → sections[i]? = some caller →
      caller.calls[k]? = some call → node.StandsFor sections (i :: path) caller call
  /-- No address is longer than the program. -/
  depth_le : ∀ address node, root.at? address = some node → address.length ≤ sections.length

/-- **The tree of a program.** A program with a section has a tree. Whatever its calls are resolved
to, the tree has a node at an address if and only if the calls in front of the last one lead through
different sections, and that node says what the last call is. -/
theorem tree_unfolds (sections : List Section) (hne : sections ≠ []) :
    ∃ root, tree? sections = some root ∧ Unfolds sections root := by
  obtain ⟨root, htree⟩ := exists_tree hne
  refine ⟨root, htree, ?_⟩
  constructor
  · intro entry hentry
    exact root_label htree hentry
  · intro address k
    constructor
    · rintro ⟨node, hnode⟩
      obtain ⟨i, path, caller, call, hway, hnodup, hcaller, hcall, _⟩ :=
        exists_call_of_at? htree hnode
      exact ⟨i, path, caller, hway, hnodup, hcaller, (List.getElem?_eq_some_iff.mp hcall).1⟩
    · rintro ⟨i, path, caller, hway, hnodup, hcaller, hk⟩
      exact at?_isSome_of_call htree hway hnodup hcaller hk
  · intro address k node hnode i path caller call hway hcaller hcall
    exact standsFor_of_at? htree hnode hway hcaller hcall
  · intro address node hnode
    exact at?_length_le hne htree hnode

/-- `READ` and `CHECK` call each other, `CHECK` calls itself, and one index leads out of the
program. -/
def tangled : List Section :=
  [⟨"MAIN", "order entry", 1, some 4,
      [⟨"READ", false, "", some 1⟩, ⟨"LOGGER", true, "", some 1⟩, ⟨"GONE", false, "", some 7⟩,
        ⟨"MAIN", false, "", none⟩], [], true⟩,
    ⟨"READ", "read an order", 5, some 7, [⟨"CHECK", false, "【A = 1】", some 2⟩], [], true⟩,
    ⟨"CHECK", "", 8, some 9, [⟨"CHECK", false, "", some 2⟩, ⟨"READ", false, "", some 1⟩], [],
      true⟩]

theorem tangled_unfolds :
    tangled ≠ [] ∧ ∃ root, tree? tangled = some root ∧ Unfolds tangled root :=
  ⟨by decide, tree_unfolds tangled (by decide)⟩

example : ((tree? tangled).bind fun root => root.at? [0, 0, 1]).map
    (fun node => (node.kind, node.title, node.children.length)) =
      some (.recursive, "read an order", 0) := by cbv

end Structure

end CobolAtlas
