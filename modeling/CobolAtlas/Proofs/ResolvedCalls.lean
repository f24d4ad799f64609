import CobolAtlas.Proofs.Resolution

/-!
# Resolved calls

The analysis writes two things into the sections, the index on each call and the mark on each
section, and both come from the same names: the index is that of the first section with the name of
the target other than the caller (`resolve?_firstOther`), and a call that has an index is one of
those along which marks spread. So a marked section never leads to one without a mark
(`ResolvedCalls.callee`), although the marks come from a second pass over the names.
-/

namespace CobolAtlas

def Call.unresolved (call : Call) : Call :=
  { call with resolved := none }

/-- A section without what the analysis writes into it. -/
def Section.unanalyzed (s : Section) : Section :=
  { s with calls := s.calls.map Call.unresolved, reachable := false }

namespace CallGraph

/-- A section other than the caller has a name. -/
def Other (sections : List Section) (caller : Nat) (name : String) (j : Nat) : Prop :=
  j ≠ caller ∧ ∃ s, sections[j]? = some s ∧ s.name = name

/-- The first section with a name other than the caller, or none if there is no such section. -/
def FirstOther (sections : List Section) (caller : Nat) (name : String) : Option Nat → Prop
  | some j => Other sections caller name j ∧ ∀ k, Other sections caller name k → j ≤ k
  | none => ∀ k, ¬ Other sections caller name k

/-- The search finds the first section with the name, not counting the caller. -/
theorem resolve?_firstOther (sections : List Section) (caller : Nat) (name : String) :
    FirstOther sections caller name (resolve? sections caller name) := by
  cases hfound : resolve? sections caller name with
  | none =>
    rintro k ⟨hne, s, hs, hname⟩
    exact hne (resolve?_eq_none hfound hs hname)
  | some j =>
    refine ⟨resolve?_eq_some hfound, ?_⟩
    rintro k ⟨hne, s, hs, hname⟩
    -- the search goes up from the first section, so it would have stopped at `k`
    obtain ⟨_, _, hearlier⟩ := List.find?_range_eq_some.mp hfound
    apply Nat.le_of_not_lt
    intro hlt
    have hnot := hearlier k hlt
    simp [hne, hs, hname] at hnot

@[simp] theorem unresolved_resolveCall (sections : List Section) (caller : Nat) (call : Call) :
    (resolveCall sections caller call).unresolved = call.unresolved := by
  unfold resolveCall
  split <;> rfl

/-- A change section by section that touches only the analysis is invisible once the analysis is
taken away. -/
theorem map_unanalyzed_mapIdx {f : Nat → Section → Section}
    (hf : ∀ i s, (f i s).unanalyzed = s.unanalyzed) (sections : List Section) :
    (sections.mapIdx f).map Section.unanalyzed = sections.map Section.unanalyzed := by
  apply List.ext_getElem?
  intro i
  rw [List.getElem?_map, List.getElem?_mapIdx, Option.map_map, List.getElem?_map]
  congr 1
  funext s
  exact hf i s

theorem map_unanalyzed_markCalled (sections : List Section) :
    (markCalled sections).map Section.unanalyzed = sections.map Section.unanalyzed := by
  apply map_unanalyzed_mapIdx
  intro i s
  simp [Section.unanalyzed, Function.comp_def]

/-- The analysis adds to the sections and changes nothing in them. -/
theorem map_unanalyzed_analyze (sections : List Section) :
    (analyze sections).value.1.map Section.unanalyzed = sections.map Section.unanalyzed := by
  rw [analyze_sections, clearMarks, map_unanalyzed_mapIdx, map_unanalyzed_markCalled]
  intro i s
  rfl

theorem resolveCall_of_isModule (sections : List Section) (caller : Nat) {call : Call}
    (h : call.isModule = true) : resolveCall sections caller call = call := by
  simp [resolveCall, h]

/-- What the analysis says about calls, and how that fits with the marks. -/
structure ResolvedCalls (sections analyzed : List Section) : Prop where
  /-- The analysis writes indices and marks only. -/
  unchanged : analyzed.map Section.unanalyzed = sections.map Section.unanalyzed
  ofModule : ∀ s ∈ analyzed, ∀ call ∈ s.calls, call.isModule = true → call.resolved = none
  ofSection : ∀ (i : Nat) (caller : Section), analyzed[i]? = some caller → ∀ call ∈ caller.calls,
    call.isModule = false → FirstOther sections i call.target call.resolved
  /-- An index is that of another section with the name of the target, and marks follow it. -/
  callee : ∀ (i : Nat) (caller : Section), analyzed[i]? = some caller → ∀ call ∈ caller.calls,
    ∀ j : Nat, call.resolved = some j → j ≠ i ∧ ∃ callee, analyzed[j]? = some callee ∧
      callee.name = call.target ∧ (caller.reachable = true → callee.reachable = true)

section

variable {sections : List Section}
  (hunresolved : ∀ s ∈ sections, ∀ call ∈ s.calls, call.resolved = none)

include hunresolved

theorem resolved_of_isModule {s : Section} {call : Call} (hs : s ∈ (analyze sections).value.1)
    (hcall : call ∈ s.calls) (hmodule : call.isModule = true) : call.resolved = none := by
  obtain ⟨i, hi⟩ := List.mem_iff_getElem?.mp hs
  obtain ⟨before, hbefore, _, _, hcalls⟩ := exists_of_analyzed hi
  rw [hcalls] at hcall
  obtain ⟨old, hold, rfl⟩ := List.mem_map.mp hcall
  rw [resolveCall_isModule] at hmodule
  rw [resolveCall_of_isModule sections i hmodule]
  exact hunresolved before (List.mem_of_getElem? hbefore) old hold

/-- A resolved call leads to another section, one that has the called name. -/
theorem callee_of_resolved {i j : Nat} {caller : Section} {call : Call}
    (hcaller : (analyze sections).value.1[i]? = some caller) (hcall : call ∈ caller.calls)
    (hresolved : call.resolved = some j) :
    j ≠ i ∧ ∃ callee, (analyze sections).value.1[j]? = some callee ∧
      callee.name = call.target ∧ (caller.reachable = true → callee.reachable = true) := by
  have hmodule : call.isModule = false := by
    rw [← Bool.not_eq_true]
    intro hmodule
    have hnone := resolved_of_isModule hunresolved (List.mem_of_getElem? hcaller) hcall hmodule
    exact absurd (hnone.symm.trans hresolved) nofun
  obtain ⟨hperforms, s, hs, hname⟩ :=
    performs_of_resolved hunresolved hcaller hcall hmodule hresolved
  obtain ⟨callee, hcallee, hcalleeName, _⟩ := exists_analyzed hs
  have hne : sections ≠ [] := by
    rintro rfl
    simp at hs
  refine ⟨hperforms.1.symm, callee, hcallee, hcalleeName.trans hname, ?_⟩
  rw [reachable_iff hne hcaller, reachable_iff hne hcallee]
  intro hreached
  exact hreached.step hperforms

/-- **Calls are resolved.** Behind the analysis of sections whose calls were not resolved, a call of
a module has no index, any other call has the index of the first section with the name of its target
other than the caller, and marks follow the indices. Nothing else in the sections has changed. -/
theorem analyze_resolvedCalls : ResolvedCalls sections (analyze sections).value.1 where
  unchanged := map_unanalyzed_analyze sections
  ofModule := by
    intro s hs call hcall hmodule
    exact resolved_of_isModule hunresolved hs hcall hmodule
  ofSection := by
    intro i caller hcaller call hcall hmodule
    rw [resolved_eq_of_analyzed hunresolved hcaller hcall hmodule]
    exact resolve?_firstOther sections i call.target
  callee := by
    intro i caller hcaller call hcall j hresolved
    exact callee_of_resolved hunresolved hcaller hcall hresolved

end

/-- Two sections have the name `COPY`. The call of the first one leads to the second, and that of
`MAIN` to the first. -/
def twinSections : List Section :=
  [⟨"MAIN", "", 1, some 2, [.perform "COPY" "", .toModule "COPY" ""], [], false⟩,
    ⟨"COPY", "", 3, some 4, [.perform "COPY" "", .perform "NOWHERE" ""], [], false⟩,
    ⟨"COPY", "", 5, some 6, [], [], true⟩]

theorem twinSections_resolvedCalls :
    (∀ s ∈ twinSections, ∀ call ∈ s.calls, call.resolved = none) ∧
      ResolvedCalls twinSections (analyze twinSections).value.1 :=
  ⟨by decide, analyze_resolvedCalls (by decide)⟩

example :
    (analyze twinSections).value.1.map (fun s => s.calls.map Call.resolved) =
      [[some 1, none], [some 2, none], []] := by
  cbv

end CallGraph

end CobolAtlas
