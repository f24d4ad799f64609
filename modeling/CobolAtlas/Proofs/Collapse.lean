import CobolAtlas.Proofs.Distinct
import CobolAtlas.Proofs.Resolution

/-!
# Collapsed calls and reachability

A section that ends keeps the first call of each target, whether it calls a section or a module. So
a section that calls a module and performs a section of the same name later on loses the second
call (`PerformsBehindModule`), and what it performs there may look dead. This is the only way in
which the end of sections changes the marks of the analysis.
-/

namespace CobolAtlas.CallGraph

/-- All sections end, each at its own line. -/
def closeAll (ends : Nat → Nat) (sections : List Section) : List Section :=
  sections.mapIdx fun i s => s.close (ends i)

/-- The marks of an analysis, section by section. -/
def marks (sections : List Section) : List Bool :=
  (analyze sections).value.1.map Section.reachable

/-- Section `i` performs another section `j`, but calls a module of that name first. -/
def PerformsBehindModule (sections : List Section) (i j : Nat) : Prop :=
  i ≠ j ∧ ∃ caller callee, sections[i]? = some caller ∧ sections[j]? = some callee ∧
    (∃ call ∈ caller.calls, call.isModule = false ∧ call.target = callee.name) ∧
    ∃ first, caller.calls.find? (fun call => call.target = callee.name) = some first ∧
      first.isModule = true

theorem PerformsBehindModule.performs {sections : List Section} {i j : Nat}
    (h : PerformsBehindModule sections i j) : Performs sections i j := by
  obtain ⟨hne, caller, callee, hcaller, hcallee, hcall, _⟩ := h
  exact ⟨hne, caller, callee, hcaller, hcallee, hcall⟩

theorem Reached.mono {sections others : List Section}
    (hsub : ∀ i j, Performs sections i j → Performs others i j) {i : Nat}
    (h : Reached sections i) : Reached others i := by
  induction h with
  | entry => exact .entry
  | step _ hperforms ih => exact .step ih (hsub _ _ hperforms)

section

variable (ends : Nat → Nat) {sections : List Section} {i j : Nat}

@[simp] theorem length_closeAll : (closeAll ends sections).length = sections.length := by
  rw [closeAll, List.length_mapIdx]

theorem closeAll_getElem? :
    (closeAll ends sections)[i]? = sections[i]?.map (fun s => s.close (ends i)) := by
  rw [closeAll, List.getElem?_mapIdx]

/-- No section calls more after its end than before. -/
theorem performs_of_closeAll (h : Performs (closeAll ends sections) i j) :
    Performs sections i j := by
  obtain ⟨hne, closed, closed', hi, hj, call, hcall, hmodule, htarget⟩ := h
  rw [closeAll_getElem?] at hi hj
  obtain ⟨caller, hcaller, rfl⟩ := Option.map_eq_some_iff.mp hi
  obtain ⟨callee, hcallee, rfl⟩ := Option.map_eq_some_iff.mp hj
  have hmem : call ∈ caller.calls := (keepFirst_sublist Call.target caller.calls).subset hcall
  exact ⟨hne, caller, callee, hcaller, hcallee, call, hmem, hmodule, htarget⟩

/-- The first call of the name of a section decides whether the section is still performed. -/
theorem Performs.closeAll_or (h : Performs sections i j) :
    Performs (closeAll ends sections) i j ∨ PerformsBehindModule sections i j := by
  obtain ⟨hne, caller, callee, hcaller, hcallee, call, hcall, hmodule, htarget⟩ := h
  rcases hfirst : caller.calls.find? (fun call => call.target = callee.name) with _ | first
  · have hnone := List.find?_eq_none.mp hfirst call hcall
    exact absurd (decide_eq_true htarget) hnone
  · have hname : first.target = callee.name := by simpa using List.find?_some hfirst
    rcases hkind : first.isModule with _ | _
    · refine .inl ⟨hne, caller.close (ends i), callee.close (ends j), ?_, ?_, first, ?_, hkind,
        hname⟩
      · rw [closeAll_getElem?, hcaller, Option.map_some]
      · rw [closeAll_getElem?, hcallee, Option.map_some]
      · apply (mem_keepFirst_iff Call.target caller.calls first).mpr
        rw [hname]
        exact hfirst
    · exact .inr ⟨hne, caller, callee, hcaller, hcallee, ⟨call, hcall, hmodule, htarget⟩, first,
        hfirst, hkind⟩

theorem reached_of_closeAll (h : Reached (closeAll ends sections) i) : Reached sections i :=
  h.mono fun _ _ => performs_of_closeAll ends

/-- Closing drops the repeated calls. Nothing reached is lost as long as the sections performed
behind a module of the same name are reached anyway. -/
theorem Reached.closeAll
    (hbehind : ∀ i j, Reached (closeAll ends sections) i → PerformsBehindModule sections i j →
      Reached (closeAll ends sections) j)
    (h : Reached sections i) : Reached (closeAll ends sections) i := by
  induction h with
  | entry => exact .entry
  | step _ hperforms ih =>
    rcases hperforms.closeAll_or ends with hstill | hlost
    · exact .step ih hstill
    · exact hbehind _ _ ih hlost

end

/-! ### Marks -/

/-- The mark of a section says whether it is reached. -/
theorem marks_getElem? (sections : List Section) (i : Nat) (hi : i < sections.length) :
    ∃ mark, (marks sections)[i]? = some mark ∧ (mark = true ↔ Reached sections i) := by
  have hne : sections ≠ [] := List.ne_nil_of_length_pos (Nat.zero_lt_of_lt hi)
  obtain ⟨s, hs, _⟩ := exists_analyzed (List.getElem?_eq_getElem hi)
  refine ⟨s.reachable, ?_, reachable_iff hne hs⟩
  rw [marks, List.getElem?_map, hs, Option.map_some]

@[simp] theorem length_marks (sections : List Section) :
    (marks sections).length = sections.length := by
  rw [marks, List.length_map, length_analyze]

/-- Marks are the same if the same sections are reached. -/
theorem marks_eq_iff {sections others : List Section} (hlen : sections.length = others.length) :
    marks sections = marks others ↔
      ∀ i < sections.length, (Reached sections i ↔ Reached others i) := by
  constructor
  · intro heq i hi
    obtain ⟨mark, hmark, hreached⟩ := marks_getElem? sections i hi
    obtain ⟨mark', hmark', hreached'⟩ := marks_getElem? others i (hlen ▸ hi)
    rw [heq, hmark'] at hmark
    obtain rfl := Option.some.inj hmark
    exact hreached.symm.trans hreached'
  · intro hiff
    apply List.ext_getElem?
    intro i
    by_cases hi : i < sections.length
    · obtain ⟨mark, hmark, hreached⟩ := marks_getElem? sections i hi
      obtain ⟨mark', hmark', hreached'⟩ := marks_getElem? others i (hlen ▸ hi)
      rw [hmark, hmark', Bool.eq_iff_iff.mpr (hreached.trans ((hiff i hi).trans hreached'.symm))]
    · rw [List.getElem?_eq_none (by simpa using hi),
        List.getElem?_eq_none (by simpa [← hlen] using hi)]

/-- **Collapsed calls and marks.** The end of sections never marks a section that was not marked on
the calls as they were made. The marks stay the same if and only if every section that a section
which stays reached performs behind a call of a module of that name stays reached as well. -/
theorem marks_closeAll (sections : List Section) (ends : Nat → Nat) :
    (∀ i : Nat, (marks (closeAll ends sections))[i]? = some true →
      (marks sections)[i]? = some true) ∧
    (marks (closeAll ends sections) = marks sections ↔
      ∀ i j, Reached (closeAll ends sections) i → PerformsBehindModule sections i j →
        Reached (closeAll ends sections) j) := by
  refine ⟨?_, ?_⟩
  · intro i hmarked
    have hi : i < sections.length := by
      simpa using (List.getElem?_eq_some_iff.mp hmarked).1
    obtain ⟨mark, hmark, hreached⟩ := marks_getElem? (closeAll ends sections) i (by simpa using hi)
    obtain ⟨mark', hmark', hreached'⟩ := marks_getElem? sections i hi
    rw [hmark] at hmarked
    obtain rfl := Option.some.inj hmarked
    rw [hmark', hreached'.mpr (reached_of_closeAll ends (hreached.mp rfl))]
  · rw [marks_eq_iff (length_closeAll ends), length_closeAll]
    constructor
    · intro hsame i j hi hbehind
      have hperforms := hbehind.performs
      apply (hsame j hperforms.callee_lt).mpr
      exact .step (reached_of_closeAll ends hi) hperforms
    · intro hbehind i _
      exact ⟨reached_of_closeAll ends, Reached.closeAll ends hbehind⟩

/-- `MAIN` calls the module `UTIL` and performs the section `UTIL`, in this order. -/
def moduleFirst : List Section :=
  [⟨"MAIN", "", 1, none, [.toModule "UTIL" "", .perform "UTIL" ""], [], false⟩,
    ⟨"UTIL", "", 4, none, [], [], false⟩]

/-- A module called before the section of its name hides the call of the section. -/
theorem moduleFirst_loses_mark :
    moduleFirst ≠ [] ∧ marks (closeAll (fun i => 3 * i + 3) moduleFirst) ≠ marks moduleFirst := by
  have hclosed : marks (closeAll (fun i => 3 * i + 3) moduleFirst) = [true, false] := by cbv
  have hopen : marks moduleFirst = [true, true] := by cbv
  rw [hclosed, hopen]
  decide

end CobolAtlas.CallGraph
