import Mathlib.Data.List.Perm.Subperm
import CobolAtlas.CallGraph

/-!
# Reachability of sections

A section is reached if a chain of calls leads to it from the first section (`Reached`). The
analysis marks in two phases: first every section that any other section calls, then it takes the
mark from those that the closure of the first section does not hold. Both phases together mark
exactly the reached sections.

* `mem_live_iff`: the closure is the set of reached sections. The search is sound because every
  expansion only adds what a found section calls, and complete because it only stops at a set that
  is closed under calls.
* `Reached.marked`: the first phase never misses a reached section, since the last call of its
  chain marks it.
-/

namespace CobolAtlas.CallGraph

/-- Section `i` performs another section `j`: one of its calls of sections has the name of `j`. -/
def Performs (sections : List Section) (i j : Nat) : Prop :=
  i ≠ j ∧ ∃ caller callee, sections[i]? = some caller ∧ sections[j]? = some callee ∧
    ∃ call ∈ caller.calls, call.isModule = false ∧ call.target = callee.name

/-- A chain of calls leads to a section from the first one. -/
inductive Reached (sections : List Section) : Nat → Prop
  | entry : Reached sections 0
  | step {i j : Nat} : Reached sections i → Performs sections i j → Reached sections j

/-- The test of the program and the relation say the same. -/
theorem calls_iff_performs (sections : List Section) (i j : Nat) :
    calls sections i j = true ↔ Performs sections i j := by
  unfold calls Performs Section.internalCalls
  rcases hi : sections[i]? with _ | caller
  · simp
  · rcases hj : sections[j]? with _ | callee
    · simp
    · simp

theorem Performs.callee_lt {sections : List Section} {i j : Nat} (h : Performs sections i j) :
    j < sections.length := by
  obtain ⟨_, _, callee, _, hj, _⟩ := h
  exact (List.getElem?_eq_some_iff.mp hj).1

theorem Performs.caller_lt {sections : List Section} {i j : Nat} (h : Performs sections i j) :
    i < sections.length := by
  obtain ⟨_, caller, _, hi, _⟩ := h
  exact (List.getElem?_eq_some_iff.mp hi).1

theorem isCalled_iff (sections : List Section) (j : Nat) :
    isCalled sections j = true ↔ ∃ i, Performs sections i j := by
  simp only [isCalled, List.any_eq_true, List.mem_range, calls_iff_performs]
  constructor
  · rintro ⟨i, _, h⟩
    exact ⟨i, h⟩
  · rintro ⟨i, h⟩
    exact ⟨i, h.caller_lt, h⟩

/-! ### The closure of a set of sections -/

/-- One round adds the sections called from those found so far. -/
theorem mem_expand_iff (sections : List Section) (found : List Nat) (j : Nat) :
    j ∈ expand sections found ↔
      j < sections.length ∧ (j ∈ found ∨ ∃ i ∈ found, Performs sections i j) := by
  simp [expand, List.mem_filter, calls_iff_performs]

theorem expand_nodup (sections : List Section) (found : List Nat) :
    (expand sections found).Nodup :=
  List.nodup_range.filter _

theorem expand_lt (sections : List Section) (found : List Nat) :
    ∀ j ∈ expand sections found, j < sections.length := by
  intro j hj
  exact ((mem_expand_iff sections found j).mp hj).1

theorem subset_expand {sections : List Section} {found : List Nat}
    (hlt : ∀ i ∈ found, i < sections.length) : found ⊆ expand sections found := by
  intro i hi
  exact (mem_expand_iff sections found i).mpr ⟨hlt i hi, .inl hi⟩

/-- The search is sound: it only finds what is reached from what it starts with. -/
theorem closure_reached (sections : List Section) (found : List Nat)
    (hfound : ∀ i ∈ found, Reached sections i) :
    ∀ i ∈ closure sections found, Reached sections i := by
  fun_induction closure sections found with
  | case1 found _ ih =>
    apply ih
    intro j hj
    rcases ((mem_expand_iff sections found j).mp hj).2 with hj | ⟨i, hi, hperf⟩
    · exact hfound j hj
    · exact .step (hfound i hi) hperf
  | case2 found _ => exact hfound

theorem subset_closure {sections : List Section} {found : List Nat}
    (hlt : ∀ i ∈ found, i < sections.length) : found ⊆ closure sections found := by
  fun_induction closure sections found with
  | case1 found _ ih =>
    intro i hi
    exact ih (expand_lt sections found) (subset_expand hlt hi)
  | case2 found _ => exact fun _ hi => hi

/-- An expansion that is not longer found nothing new. Neither list has repetitions, so the lengths
decide. -/
theorem mem_of_mem_expand {sections : List Section} {found : List Nat} (hnodup : found.Nodup)
    (hlt : ∀ i ∈ found, i < sections.length)
    (hlen : (expand sections found).length ≤ found.length) {j : Nat}
    (hj : j ∈ expand sections found) : j ∈ found := by
  have hsub : found.Subperm (expand sections found) := hnodup.subperm (subset_expand hlt)
  exact (hsub.perm_of_length_le hlen).mem_iff.mpr hj

/-- The search is complete: it only stops at a set that is closed under calls. -/
theorem closure_closed (sections : List Section) (found : List Nat) (hnodup : found.Nodup)
    (hlt : ∀ i ∈ found, i < sections.length) {i j : Nat} (hi : i ∈ closure sections found)
    (hperf : Performs sections i j) : j ∈ closure sections found := by
  fun_induction closure sections found with
  | case1 found _ ih => exact ih (expand_nodup sections found) (expand_lt sections found) hi
  | case2 found hstop =>
    have hj : j ∈ expand sections found :=
      (mem_expand_iff sections found j).mpr ⟨hperf.callee_lt, .inr ⟨i, hi, hperf⟩⟩
    exact mem_of_mem_expand hnodup hlt (Nat.le_of_not_lt hstop) hj

/-- **The live sections are the reached ones.** -/
theorem mem_live_iff {sections : List Section} (hne : sections ≠ []) (i : Nat) :
    i ∈ live sections ↔ Reached sections i := by
  have hlt : ∀ i ∈ [0], i < sections.length := by
    intro i hi
    rw [List.mem_singleton.mp hi]
    exact List.length_pos_of_ne_nil hne
  constructor
  · apply closure_reached
    intro j hj
    rw [List.mem_singleton.mp hj]
    exact .entry
  · intro hreached
    induction hreached with
    | entry => exact subset_closure hlt (List.mem_singleton.mpr rfl)
    | step _ hperf ih => exact closure_closed sections [0] (by simp) hlt ih hperf

/-! ### Marks -/

@[simp] theorem resolveCall_target (sections : List Section) (caller : Nat) (call : Call) :
    (resolveCall sections caller call).target = call.target := by
  unfold resolveCall
  split <;> rfl

@[simp] theorem resolveCall_isModule (sections : List Section) (caller : Nat) (call : Call) :
    (resolveCall sections caller call).isModule = call.isModule := by
  unfold resolveCall
  split <;> rfl

@[simp] theorem length_markCalled (sections : List Section) :
    (markCalled sections).length = sections.length := by
  simp [markCalled]

/-- Marks and resolved indices are no part of the call graph. -/
@[simp] theorem performs_markCalled (sections : List Section) (i j : Nat) :
    Performs (markCalled sections) i j ↔ Performs sections i j := by
  unfold Performs markCalled
  rcases hi : sections[i]? with _ | caller
  · simp [hi]
  · rcases hj : sections[j]? with _ | callee
    · simp [hj]
    · simp [hi, hj]

/-- Resolving the calls changes no name, so the same sections are reached. -/
theorem reached_markCalled (sections : List Section) (i : Nat) :
    Reached (markCalled sections) i ↔ Reached sections i := by
  constructor
  · intro h
    induction h with
    | entry => exact .entry
    | step _ hperf ih => exact .step ih ((performs_markCalled sections _ _).mp hperf)
  · intro h
    induction h with
    | entry => exact .entry
    | step _ hperf ih => exact .step ih ((performs_markCalled sections _ _).mpr hperf)

/-- The first phase never misses a reached section: it is the first one, or the last call of its
chain marks it. -/
theorem Reached.marked {sections : List Section} {i : Nat} (h : Reached sections i) :
    i = 0 ∨ isCalled sections i = true := by
  cases h with
  | entry => exact .inl rfl
  | step _ hperf => exact .inr ((isCalled_iff sections i).mpr ⟨_, hperf⟩)

/-- The sections found are those reached from the entry. -/
theorem mem_live_markCalled {sections : List Section} (hne : sections ≠ []) (i : Nat) :
    i ∈ live (markCalled sections) ↔ Reached sections i := by
  have hne' : markCalled sections ≠ [] := by
    rw [← List.length_pos_iff, length_markCalled]
    exact List.length_pos_of_ne_nil hne
  rw [mem_live_iff hne', reached_markCalled]

/-- The sections that the analysis returns. -/
theorem analyze_sections (sections : List Section) :
    (analyze sections).value.1 = clearMarks (markCalled sections) := rfl

/-- The mark of a section after both phases. -/
theorem reachable_iff {sections : List Section} (hne : sections ≠ []) {i : Nat} {s : Section}
    (hs : (clearMarks (markCalled sections))[i]? = some s) :
    s.reachable = true ↔ Reached sections i := by
  simp only [clearMarks, markCalled, List.getElem?_mapIdx, Option.map_map,
    Option.map_eq_some_iff, Function.comp_apply] at hs
  obtain ⟨before, _, rfl⟩ := hs
  simp only [Bool.and_eq_true, Bool.or_eq_true, decide_eq_true_eq, List.contains_iff_mem]
  constructor
  · rintro ⟨_, hlive⟩
    exact (mem_live_markCalled hne i).mp hlive
  · intro hreached
    exact ⟨hreached.marked, (mem_live_markCalled hne i).mpr hreached⟩

theorem length_clearMarks (sections : List Section) :
    (clearMarks sections).length = sections.length := by
  simp [clearMarks]

theorem mem_unmarked_iff (sections : List Section) (i : Nat) :
    i ∈ unmarked sections ↔ ∃ s, sections[i]? = some s ∧ s.reachable = false := by
  simp only [unmarked, List.mem_filter, List.mem_range, decide_eq_true_eq, Option.map_eq_some_iff]
  constructor
  · rintro ⟨_, h⟩
    exact h
  · rintro ⟨s, hs, hr⟩
    exact ⟨(List.getElem?_eq_some_iff.mp hs).1, s, hs, hr⟩

/-- A section is left without a mark exactly when nothing leads to it. -/
theorem mem_dead_iff {sections : List Section} (hne : sections ≠ []) (i : Nat) :
    i ∈ unmarked (clearMarks (markCalled sections)) ↔
      i < sections.length ∧ ¬ Reached sections i := by
  rw [mem_unmarked_iff]
  constructor
  · rintro ⟨s, hs, hr⟩
    refine ⟨?_, ?_⟩
    · have hlt := (List.getElem?_eq_some_iff.mp hs).1
      simpa [length_clearMarks] using hlt
    · rw [← reachable_iff hne hs, hr]
      exact Bool.false_ne_true
  · rintro ⟨hlt, hdead⟩
    have hlt' : i < (clearMarks (markCalled sections)).length := by
      simpa [length_clearMarks] using hlt
    refine ⟨_, List.getElem?_eq_getElem hlt', ?_⟩
    rw [← reachable_iff hne (List.getElem?_eq_getElem hlt')] at hdead
    exact Bool.not_eq_true _ ▸ hdead

/-- A section loses its mark if it is not reached and some section calls it. -/
theorem mem_falselyMarked_iff {sections : List Section} (hne : sections ≠ []) (i : Nat) :
    i ∈ falselyMarked (markCalled sections) ↔
      (i < sections.length ∧ ¬ Reached sections i) ∧ ∃ j, Performs sections j i := by
  have hmark : (((markCalled sections)[i]?.map Section.reachable).getD false) = true ↔
      i < sections.length ∧ (i = 0 ∨ ∃ j, Performs sections j i) := by
    rcases hi : sections[i]? with _ | s
    · have hle := List.getElem?_eq_none_iff.mp hi
      simp only [markCalled, List.getElem?_mapIdx, hi, Option.map_none, Option.getD_none]
      constructor
      · intro h
        exact absurd h Bool.false_ne_true
      · rintro ⟨hlt, _⟩
        omega
    · have hlt := (List.getElem?_eq_some_iff.mp hi).1
      simp [markCalled, hlt, isCalled_iff]
  simp only [falselyMarked, List.mem_filter, List.mem_range, length_markCalled, Bool.and_eq_true,
    hmark, Bool.not_eq_true', ← Bool.not_eq_true, List.contains_iff_mem, mem_live_markCalled hne]
  constructor
  · rintro ⟨hlt, ⟨_, hcalled⟩, hdead⟩
    refine ⟨⟨hlt, hdead⟩, ?_⟩
    rcases hcalled with rfl | hcalled
    · exact absurd Reached.entry hdead
    · exact hcalled
  · rintro ⟨⟨hlt, hdead⟩, hcalled⟩
    exact ⟨hlt, ⟨hlt, .inr hcalled⟩, hdead⟩

/-! ### The analysis -/

/-- The marks and the report of an analysis are those of the reached sections. -/
structure ExactMarks (sections marked : List Section) (report : Reachability) : Prop where
  length_eq : marked.length = sections.length
  /-- The marked sections are the reached ones. -/
  reachable_iff : ∀ i s, marked[i]? = some s → (s.reachable = true ↔ Reached sections i)
  dead_ascending : report.dead.Pairwise (· < ·)
  /-- The dead sections are the other ones. -/
  mem_dead_iff : ∀ i, i ∈ report.dead ↔ i < sections.length ∧ ¬ Reached sections i
  cleared_ascending : report.cleared.Pairwise (· < ·)
  /-- The cleared sections are the dead ones that another section calls. -/
  mem_cleared_iff : ∀ i, i ∈ report.cleared ↔ i ∈ report.dead ∧ ∃ j, Performs sections j i

/-- **Reachability is exact.** Whatever the marks were before, the analysis marks a section if and
only if a chain of calls leads to it from the first section, and reports the other ones. -/
theorem analyze_exactMarks (sections : List Section) (hne : sections ≠ []) :
    ExactMarks sections (analyze sections).value.1 (analyze sections).value.2 where
  length_eq := by simp [analyze_sections, length_clearMarks]
  reachable_iff := by
    intro i s hs
    exact reachable_iff hne hs
  dead_ascending := List.pairwise_lt_range.filter _
  mem_dead_iff := mem_dead_iff hne
  cleared_ascending := List.pairwise_lt_range.filter _
  mem_cleared_iff := by
    intro i
    exact (mem_falselyMarked_iff hne i).trans (and_congr_left' (mem_dead_iff hne i).symm)

/-- `READ` only calls a module that happens to have the name of a section, so `LOG` and `WRITE`
call each other and are not reached. -/
def deadLoop : List Section :=
  [⟨"MAIN", "", 1, some 2, [.perform "READ" "", .perform "MAIN" ""], [], false⟩,
    ⟨"READ", "", 3, some 4, [.toModule "LOG" ""], [], false⟩,
    ⟨"LOG", "", 5, some 6, [.perform "WRITE" ""], [], true⟩,
    ⟨"WRITE", "", 7, some 8, [.perform "LOG" ""], [], true⟩]

theorem deadLoop_exactMarks :
    deadLoop ≠ [] ∧
      ExactMarks deadLoop (analyze deadLoop).value.1 (analyze deadLoop).value.2 :=
  ⟨by decide, analyze_exactMarks deadLoop (by decide)⟩

example : (analyze deadLoop).value.2 = ⟨[2, 3], [2, 3]⟩ := by cbv

end CobolAtlas.CallGraph
