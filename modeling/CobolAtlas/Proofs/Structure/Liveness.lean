import CobolAtlas.Proofs.Resolution
import CobolAtlas.Proofs.Structure.Unfolding

/-!
# The tree of an analysed program

The marks of sections come from a search over names, the tree of a program from unfolding resolved
calls along simple ways. Both speak of the same calls: every section that the tree unfolds is
marked, and where names occur once every marked section is unfolded somewhere. For the latter a
chain of calls is cut short whenever it comes back to a section (`Way.cut`), which leaves a way that
the tree follows to its end.
-/

namespace CobolAtlas.Structure

open CallGraph

/-- The call that the node at an address stands for. -/
def CallAt (sections : List Section) (address : List Nat) (call : Call) : Prop :=
  ∃ before k i path caller, address = before ++ [k] ∧ Way sections before (i :: path) ∧
    sections[i]? = some caller ∧ caller.calls[k]? = some call

/-- A way to a section passes every section on it. -/
theorem Way.cut {sections : List Section} {address path : List Nat}
    (h : Way sections address path) {j : Nat} (hj : j ∈ path) :
    ∃ before rest, Way sections before (j :: rest) ∧ (j :: rest) <:+ path := by
  induction h with
  | root =>
    obtain rfl := List.mem_singleton.mp hj
    exact ⟨[], [], .root, List.suffix_refl _⟩
  | step hway hcaller hcall hmodule hresolved hlt ih =>
    rcases List.mem_cons.mp hj with rfl | hj
    · exact ⟨_, _, .step hway hcaller hcall hmodule hresolved hlt, List.suffix_refl _⟩
    · obtain ⟨before, rest, hbefore, hsuffix⟩ := ih hj
      exact ⟨before, rest, hbefore, hsuffix.trans (List.suffix_cons _ _)⟩

section

variable {sections : List Section}
  (hunresolved : ∀ s ∈ sections, ∀ call ∈ s.calls, call.resolved = none)

include hunresolved

/-- A way through the tree is a way through the calls. -/
theorem reached_of_way {address path : List Nat} {i : Nat}
    (h : Way (analyze sections).value.1 address (i :: path)) : Reached sections i := by
  generalize hwhole : i :: path = whole at h
  induction h generalizing i path with
  | root =>
    obtain ⟨rfl, _⟩ := List.cons.inj hwhole
    exact .entry
  | step _ hcaller hcall hmodule hresolved _ ih =>
    obtain ⟨rfl, _⟩ := List.cons.inj hwhole
    apply Reached.step (ih rfl)
    exact (performs_of_resolved hunresolved hcaller (List.mem_of_getElem? hcall) hmodule
      hresolved).1

/-- Where names occur once, a simple way leads to every reached section. -/
theorem exists_simple_way (hnames : (sections.map Section.name).Nodup) {i : Nat}
    (h : Reached sections i) :
    ∃ address path, Way (analyze sections).value.1 address (i :: path) ∧ (i :: path).Nodup := by
  induction h with
  | entry => exact ⟨[], [], .root, by simp⟩
  | @step i j _ hperforms ih =>
    obtain ⟨address, path, hway, hnodup⟩ := ih
    by_cases hback : j ∈ i :: path
    · -- the way comes back to a section: it is cut at the first time it was there
      obtain ⟨before, rest, hbefore, hsuffix⟩ := hway.cut hback
      exact ⟨before, rest, hbefore, hnodup.sublist hsuffix.sublist⟩
    · obtain ⟨caller, k, call, hcaller, hcall, hmodule, hresolved⟩ :=
        exists_resolved_of_performs hunresolved hnames hperforms
      refine ⟨address ++ [k], i :: path, ?_, List.nodup_cons.mpr ⟨hback, hnodup⟩⟩
      apply Way.step hway hcaller hcall hmodule hresolved
      rw [length_analyze]
      exact hperforms.callee_lt

variable {root : Node} (htree : tree? (analyze sections).value.1 = some root)

include htree

/-- A node carries the name and the title of the section it leads to. -/
theorem label_of_way {address path : List Nat} {i : Nat} {node : Node} {s : Section}
    (hnode : root.at? address = some node)
    (hway : Way (analyze sections).value.1 address (i :: path))
    (hs : (analyze sections).value.1[i]? = some s) : node.name = s.name ∧ node.title = s.title := by
  rcases address.eq_nil_or_concat' with rfl | ⟨before, k, rfl⟩
  · obtain ⟨rfl, _⟩ := List.cons.inj hway.of_nil
    obtain rfl := Option.some.inj hnode
    obtain ⟨hname, htitle, _⟩ := root_label htree hs
    exact ⟨hname, htitle⟩
  · obtain ⟨i', j, rest, caller, call, hwhole, hbefore, hcaller, hcall, hmodule, hresolved, _⟩ :=
      hway.of_append_singleton
    obtain ⟨rfl, _⟩ := List.cons.inj hwhole
    have hstands := standsFor_of_at? htree hnode hbefore hcaller hcall
    obtain ⟨_, callee, hcallee, hname⟩ :=
      performs_of_resolved hunresolved hcaller (List.mem_of_getElem? hcall) hmodule hresolved
    obtain ⟨old, hold, hsname, _⟩ := exists_of_analyzed hs
    rw [hcallee] at hold
    obtain rfl := Option.some.inj hold
    refine ⟨?_, (hstands.of_section hmodule i s hresolved hs).2⟩
    rw [hstands.name_eq, ← hname, hsname]

/-- A call of a section leads nowhere and is no call of the caller itself exactly if no section has
the name of its target. -/
theorem unknown_iff_of_call {address : List Nat} {node : Node} {call : Call}
    (hnode : root.at? address = some node)
    (hcallAt : CallAt (analyze sections).value.1 address call) :
    node.kind = .unknown ↔ call.isModule = false ∧ ∀ s ∈ sections, s.name ≠ call.target := by
  obtain ⟨before, k, i, path, caller, rfl, hway, hcaller, hcall⟩ := hcallAt
  have hstands := standsFor_of_at? htree hnode hway hcaller hcall
  obtain ⟨old, hold, hname, _⟩ := exists_of_analyzed hcaller
  rcases hmodule : call.isModule with _ | _
  · have hresolved :=
      resolved_eq_of_analyzed hunresolved hcaller (List.mem_of_getElem? hcall) hmodule
    rcases hfound : resolve? sections i call.target with _ | j
    · rw [hfound] at hresolved
      rw [(hstands.of_nowhere hmodule (by simp [hresolved])).1]
      by_cases hself : call.target = caller.name
      · -- the caller itself has the name
        rw [if_pos hself]
        refine ⟨fun hkind => by simp at hkind, ?_⟩
        rintro ⟨_, hnone⟩
        exact absurd (hname.symm.trans hself.symm) (hnone old (List.mem_of_getElem? hold))
      · rw [if_neg hself]
        refine ⟨fun _ => ⟨rfl, ?_⟩, fun _ => rfl⟩
        intro s hs htarget
        obtain ⟨j, hj⟩ := List.mem_iff_getElem?.mp hs
        obtain rfl := resolve?_eq_none hfound hj htarget
        rw [hold] at hj
        obtain rfl := Option.some.inj hj
        exact hself (htarget.symm.trans hname.symm)
    · rw [hfound] at hresolved
      obtain ⟨_, callee, hcallee, htarget⟩ := resolve?_eq_some hfound
      obtain ⟨s, hs, _⟩ := exists_analyzed hcallee
      rw [(hstands.of_section hmodule j s hresolved hs).1]
      constructor
      · intro hkind
        split at hkind <;> simp at hkind
      · rintro ⟨_, hnone⟩
        exact absurd htarget (hnone callee (List.mem_of_getElem? hcallee))
  · rw [(hstands.of_module hmodule).1]
    simp

end

/-! ### Marks and nodes -/

/-- The tree of an analysed program and the marks of its sections agree. -/
structure AgreesWithMarks (sections marked : List Section) (root : Node) : Prop where
  /-- Every section that is unfolded somewhere is marked. -/
  unfolded_marked : ∀ address node, root.at? address = some node → node.kind = .unfolded →
    ∃ i path s, Way marked address (i :: path) ∧ marked[i]? = some s ∧ node.name = s.name ∧
      node.title = s.title ∧ s.reachable = true
  /-- Every marked section is unfolded somewhere, if names occur once. -/
  marked_unfolded : (sections.map Section.name).Nodup →
    ∀ i s, marked[i]? = some s → s.reachable = true →
      ∃ address node path, root.at? address = some node ∧ node.kind = .unfolded ∧
        Way marked address (i :: path)
  /-- Unknown targets are the targets of calls of sections that are no section. -/
  unknown_iff : ∀ address node, root.at? address = some node →
    (node.kind = .unknown ↔ ∃ call, CallAt marked address call ∧ call.isModule = false ∧
      ∀ s ∈ sections, s.name ≠ call.target)

/-- **The tree agrees with the marks.** After the analysis of a program whose calls were not
resolved before, the tree unfolds marked sections only and, where names occur once, all of them; and
it shows a target as unknown exactly if a section is to be called and none has that name. -/
theorem tree_agreesWithMarks (sections : List Section) (hne : sections ≠ [])
    (hunresolved : ∀ s ∈ sections, ∀ call ∈ s.calls, call.resolved = none) :
    ∃ root, tree? (analyze sections).value.1 = some root ∧
      AgreesWithMarks sections (analyze sections).value.1 root := by
  obtain ⟨root, htree⟩ := exists_tree (analyze_ne_nil hne)
  refine ⟨root, htree, ?_⟩
  constructor
  · intro address node hnode hkind
    rcases expanded_or_leaf htree hnode with ⟨i, path, hway, _, hexpanded⟩ | ⟨hleaf, _⟩
    · obtain ⟨s, hs, _⟩ := hexpanded.2
      obtain ⟨hname, htitle⟩ := label_of_way hunresolved htree hnode hway hs
      refine ⟨i, path, s, hway, hs, hname, htitle, ?_⟩
      exact (reachable_iff hne hs).mpr (reached_of_way hunresolved hway)
    · exact absurd hkind hleaf
  · intro hnames i s hs hreachable
    obtain ⟨address, path, hway, hnodup⟩ :=
      exists_simple_way hunresolved hnames ((reachable_iff hne hs).mp hreachable)
    obtain ⟨node, hnode, hexpanded⟩ := expanded_of_way htree hway hnodup
    exact ⟨address, node, path, hnode, hexpanded.1, hway⟩
  · intro address node hnode
    constructor
    · intro hkind
      rcases address.eq_nil_or_concat' with rfl | ⟨before, k, rfl⟩
      · obtain rfl := Option.some.inj hnode
        rw [(expanded_root htree).1] at hkind
        exact absurd hkind (by simp)
      · obtain ⟨i, path, caller, call, hway, _, hcaller, hcall, _⟩ :=
          exists_call_of_at? htree hnode
        have hcallAt : CallAt (analyze sections).value.1 (before ++ [k]) call :=
          ⟨before, k, i, path, caller, rfl, hway, hcaller, hcall⟩
        exact ⟨call, hcallAt, (unknown_iff_of_call hunresolved htree hnode hcallAt).mp hkind⟩
    · rintro ⟨call, hcallAt, hnone⟩
      exact (unknown_iff_of_call hunresolved htree hnode hcallAt).mpr hnone

/-- `MAIN` and `READ` call each other, `READ` also itself and a section that is not there, and
nothing calls `OLD`. -/
def orderCalls : List Section :=
  [⟨"MAIN", "order entry", 1, some 3, [.perform "READ" "", .toModule "OLD" ""], [], false⟩,
    ⟨"READ", "read an order", 4, some 8,
      [.perform "READ" "", .perform "MAIN" "", .perform "GONE" ""], [], false⟩,
    ⟨"OLD", "", 9, some 10, [.perform "READ" ""], [], true⟩]

theorem orderCalls_agreesWithMarks :
    orderCalls ≠ [] ∧ (∀ s ∈ orderCalls, ∀ call ∈ s.calls, call.resolved = none) ∧
      (orderCalls.map Section.name).Nodup ∧
      ∃ root, tree? (analyze orderCalls).value.1 = some root ∧
        AgreesWithMarks orderCalls (analyze orderCalls).value.1 root :=
  ⟨by decide, by decide, by decide,
    tree_agreesWithMarks orderCalls (by decide) (by decide)⟩

end CobolAtlas.Structure
