import CobolAtlas.Proofs.Reachability

/-!
# Where calls lead

The analysis gives every call of a section the index of the section that it leads to: the first one
of that name other than the caller. A call that was not resolved before leads nowhere exactly if
there is no such section, and if it leads somewhere then the caller performs that section.
-/

namespace CobolAtlas.CallGraph

/-- The analysis changes the resolved indices and the marks of sections and nothing else. -/
theorem analyze_getElem? (sections : List Section) (i : Nat) :
    (analyze sections).value.1[i]? = sections[i]?.map fun s =>
      { s with
        calls := s.calls.map (resolveCall sections i)
        reachable :=
          (i = 0 || isCalled sections i) && (live (markCalled sections)).contains i } := by
  rw [analyze_sections, clearMarks, List.getElem?_mapIdx, markCalled, List.getElem?_mapIdx,
    Option.map_map]
  rfl

/-- A section of the result comes from the one at the same place. Only its marks and its calls are
new. -/
theorem exists_of_analyzed {sections : List Section} {i : Nat} {s : Section}
    (h : (analyze sections).value.1[i]? = some s) :
    ∃ before, sections[i]? = some before ∧ s.name = before.name ∧ s.title = before.title ∧
      s.calls = before.calls.map (resolveCall sections i) := by
  rw [analyze_getElem?] at h
  obtain ⟨before, hbefore, rfl⟩ := Option.map_eq_some_iff.mp h
  exact ⟨before, hbefore, rfl, rfl, rfl⟩

theorem exists_analyzed {sections : List Section} {i : Nat} {before : Section}
    (h : sections[i]? = some before) :
    ∃ s, (analyze sections).value.1[i]? = some s ∧ s.name = before.name ∧
      s.calls = before.calls.map (resolveCall sections i) := by
  rw [analyze_getElem?, h]
  exact ⟨_, rfl, rfl, rfl⟩

@[simp] theorem length_analyze (sections : List Section) :
    (analyze sections).value.1.length = sections.length := by
  rw [analyze_sections, length_clearMarks, length_markCalled]

theorem analyze_ne_nil {sections : List Section} (hne : sections ≠ []) :
    (analyze sections).value.1 ≠ [] := by
  rw [← List.length_pos_iff, length_analyze]
  exact List.length_pos_of_ne_nil hne

/-! ### The section of a name -/

theorem resolve?_eq_some {sections : List Section} {caller j : Nat} {name : String}
    (h : resolve? sections caller name = some j) :
    j ≠ caller ∧ ∃ s, sections[j]? = some s ∧ s.name = name := by
  have hfound := List.find?_some h
  simp only [Bool.and_eq_true, decide_eq_true_eq, Option.map_eq_some_iff] at hfound
  exact hfound

/-- A name stays unresolved only when at most the caller itself has it. -/
theorem resolve?_eq_none {sections : List Section} {caller : Nat} {name : String}
    (h : resolve? sections caller name = none) {j : Nat} {s : Section}
    (hs : sections[j]? = some s) (hname : s.name = name) : j = caller := by
  have hlt := (List.getElem?_eq_some_iff.mp hs).1
  have hother := List.find?_eq_none.mp h j (List.mem_range.mpr hlt)
  simp only [hs, Option.map_some, hname, Bool.and_eq_true, decide_eq_true_eq, and_true] at hother
  exact Decidable.not_not.mp hother

/-- Where names occur once, a name leads to the section that has it. -/
theorem resolve?_of_name {sections : List Section} (hnames : (sections.map Section.name).Nodup)
    {caller j : Nat} {s : Section} (hs : sections[j]? = some s) (hne : j ≠ caller) :
    resolve? sections caller s.name = some j := by
  rcases hfound : resolve? sections caller s.name with _ | j'
  · exact absurd (resolve?_eq_none hfound hs rfl) hne
  · obtain ⟨_, t, ht, hname⟩ := resolve?_eq_some hfound
    have hlt : j' < (sections.map Section.name).length := by
      rw [List.length_map]
      exact (List.getElem?_eq_some_iff.mp ht).1
    have hsame : (sections.map Section.name)[j']? = (sections.map Section.name)[j]? := by
      rw [List.getElem?_map, List.getElem?_map, ht, hs, Option.map_some, Option.map_some, hname]
    rw [(List.getElem?_inj hlt hnames).mp hsame]

/-! ### Calls -/

/-- A call of a section that was not resolved before leads to the section of its target. -/
theorem resolveCall_resolved (sections : List Section) (caller : Nat) {call : Call}
    (hnone : call.resolved = none) (hmodule : call.isModule = false) :
    (resolveCall sections caller call).resolved = resolve? sections caller call.target := by
  unfold resolveCall
  by_cases hany : sections.any (fun s => s.name = call.target) = true
  · rw [if_pos (by simp [hmodule, hany])]
  · rw [if_neg (by simp [hany]), hnone]
    rcases hfound : resolve? sections caller call.target with _ | j
    · rfl
    · obtain ⟨_, s, hs, hname⟩ := resolve?_eq_some hfound
      refine absurd ?_ hany
      exact List.any_eq_true.mpr ⟨s, List.mem_of_getElem? hs, by simpa using hname⟩

section

variable {sections : List Section}
  (hunresolved : ∀ s ∈ sections, ∀ call ∈ s.calls, call.resolved = none)

include hunresolved

theorem resolved_eq_of_analyzed {i : Nat} {caller : Section} {call : Call}
    (hcaller : (analyze sections).value.1[i]? = some caller) (hcall : call ∈ caller.calls)
    (hmodule : call.isModule = false) : call.resolved = resolve? sections i call.target := by
  obtain ⟨before, hbefore, _, _, hcalls⟩ := exists_of_analyzed hcaller
  rw [hcalls] at hcall
  obtain ⟨old, hold, rfl⟩ := List.mem_map.mp hcall
  have hnone := hunresolved before (List.mem_of_getElem? hbefore) old hold
  rw [resolveCall_isModule] at hmodule
  rw [resolveCall_resolved sections i hnone hmodule, resolveCall_target]

/-- A resolved call is a step of the call graph. -/
theorem performs_of_resolved {i j : Nat} {caller : Section} {call : Call}
    (hcaller : (analyze sections).value.1[i]? = some caller) (hcall : call ∈ caller.calls)
    (hmodule : call.isModule = false) (hresolved : call.resolved = some j) :
    Performs sections i j ∧ ∃ s, sections[j]? = some s ∧ s.name = call.target := by
  rw [resolved_eq_of_analyzed hunresolved hcaller hcall hmodule] at hresolved
  obtain ⟨hne, callee, hcallee, hname⟩ := resolve?_eq_some hresolved
  refine ⟨⟨hne.symm, ?_⟩, callee, hcallee, hname⟩
  obtain ⟨before, hbefore, _, _, hcalls⟩ := exists_of_analyzed hcaller
  rw [hcalls] at hcall
  obtain ⟨old, hold, rfl⟩ := List.mem_map.mp hcall
  rw [resolveCall_isModule] at hmodule
  rw [resolveCall_target] at hname
  exact ⟨before, callee, hbefore, hcallee, old, hold, hmodule, hname.symm⟩

/-- Where names occur once, every section that is performed is one that a call leads to. -/
theorem exists_resolved_of_performs (hnames : (sections.map Section.name).Nodup) {i j : Nat}
    (h : Performs sections i j) :
    ∃ (caller : Section) (k : Nat) (call : Call), (analyze sections).value.1[i]? = some caller ∧
      caller.calls[k]? = some call ∧ call.isModule = false ∧ call.resolved = some j := by
  obtain ⟨hne, before, callee, hbefore, hcallee, old, hold, hmodule, htarget⟩ := h
  obtain ⟨caller, hcaller, _, hcalls⟩ := exists_analyzed hbefore
  have hcall : resolveCall sections i old ∈ caller.calls := by
    rw [hcalls]
    exact List.mem_map_of_mem hold
  obtain ⟨k, hk⟩ := List.mem_iff_getElem?.mp hcall
  have hmodule' : (resolveCall sections i old).isModule = false := by
    rw [resolveCall_isModule]
    exact hmodule
  refine ⟨caller, k, _, hcaller, hk, hmodule', ?_⟩
  rw [resolved_eq_of_analyzed hunresolved hcaller hcall hmodule', resolveCall_target, htarget]
  exact resolve?_of_name hnames hcallee hne.symm

end

end CobolAtlas.CallGraph
