import CobolAtlas.Proofs.ResolvedCalls

/-!
# Marks from an earlier run

The call graph is a matter of names and calls. The search for the live sections reads neither the
marks nor the indices that the analysis writes (`live_congr`), so marks from an earlier run have no
effect (`analyze_withMarks`), and a second run writes the same indices and the same marks again.
Taking marks away is stable for another reason: what is left are marks of live sections.
-/

namespace CobolAtlas.CallGraph

def withMarks (marks : Nat → Bool) (sections : List Section) : List Section :=
  sections.mapIdx fun i s => { s with reachable := marks i }

def Marked (sections : List Section) (i : Nat) : Prop :=
  ∃ s, sections[i]? = some s ∧ s.reachable = true

/-! ### The graph of sections that differ in what the analysis writes -/

theorem calls_map_unanalyzed (sections : List Section) :
    calls (sections.map Section.unanalyzed) = calls sections := by
  funext i j
  rw [Bool.eq_iff_iff, calls_iff_performs, calls_iff_performs]
  unfold Performs
  rcases hi : sections[i]? with _ | caller
  · simp [hi]
  · rcases hj : sections[j]? with _ | callee
    · simp [hj]
    · simp [hi, hj, Section.unanalyzed, Call.unresolved]

section

variable {sections others : List Section}
  (hsame : sections.map Section.unanalyzed = others.map Section.unanalyzed)

include hsame

theorem length_congr : sections.length = others.length := by
  have hlength := congrArg List.length hsame
  rwa [List.length_map, List.length_map] at hlength

theorem map_name_congr : sections.map Section.name = others.map Section.name := by
  have hnames := congrArg (List.map Section.name) hsame
  rwa [List.map_map, List.map_map] at hnames

theorem calls_congr : calls sections = calls others := by
  rw [← calls_map_unanalyzed sections, hsame, calls_map_unanalyzed]

theorem isCalled_congr (j : Nat) : isCalled sections j = isCalled others j := by
  rw [isCalled, isCalled, calls_congr hsame, length_congr hsame]

theorem expand_congr (found : List Nat) : expand sections found = expand others found := by
  rw [expand, expand, calls_congr hsame, length_congr hsame]

theorem closure_congr (found : List Nat) : closure sections found = closure others found := by
  fun_induction closure sections found with
  | case1 found hmore ih =>
    rw [ih]
    conv => rhs; rw [closure, ← expand_congr hsame, if_pos hmore]
  | case2 found hstop =>
    rw [closure, ← expand_congr hsame, if_neg hstop]

theorem live_congr : live sections = live others :=
  closure_congr hsame [0]

theorem resolve?_congr (caller : Nat) (name : String) :
    resolve? sections caller name = resolve? others caller name := by
  unfold resolve?
  rw [length_congr hsame]
  congr 1
  funext i
  rw [← List.getElem?_map, ← List.getElem?_map, map_name_congr hsame]

theorem resolveCall_congr (caller : Nat) :
    resolveCall sections caller = resolveCall others caller := by
  funext call
  have hany (these : List Section) : these.any (fun s => s.name = call.target) =
      (these.map Section.name).any (fun name => name = call.target) := by
    rw [List.any_map]
    rfl
  rw [resolveCall, resolveCall, resolve?_congr hsame, hany sections, hany others,
    map_name_congr hsame]

end

/-! ### A second run -/

theorem map_unanalyzed_withMarks (marks : Nat → Bool) (sections : List Section) :
    (withMarks marks sections).map Section.unanalyzed = sections.map Section.unanalyzed := by
  apply map_unanalyzed_mapIdx
  intro i s
  rfl

/-- Resolving twice is resolving once. -/
theorem resolveCall_resolveCall (sections : List Section) (caller : Nat) (call : Call) :
    resolveCall sections caller (resolveCall sections caller call) =
      resolveCall sections caller call := by
  rw [resolveCall, resolveCall_isModule, resolveCall_target]
  split
  · rename_i hknown
    rw [resolveCall, if_pos hknown]
  · rfl

theorem markCalled_withMarks (marks : Nat → Bool) (sections : List Section) :
    markCalled (withMarks marks sections) = markCalled sections := by
  have hsame := map_unanalyzed_withMarks marks sections
  apply List.ext_getElem?
  intro i
  rw [markCalled, List.getElem?_mapIdx, resolveCall_congr hsame, isCalled_congr hsame, withMarks,
    List.getElem?_mapIdx, Option.map_map, markCalled, List.getElem?_mapIdx]
  rfl

theorem markCalled_markCalled (sections : List Section) :
    markCalled (markCalled sections) = markCalled sections := by
  have hsame := map_unanalyzed_markCalled sections
  apply List.ext_getElem?
  intro i
  rw [markCalled, List.getElem?_mapIdx, resolveCall_congr hsame, isCalled_congr hsame, markCalled,
    List.getElem?_mapIdx, Option.map_map]
  congr 1
  funext s
  simp [resolveCall_resolveCall]

/-- The second phase and the report only look at what the first phase leaves. -/
theorem analyze_eq_of_markCalled {sections others : List Section}
    (h : markCalled sections = markCalled others) : analyze sections = analyze others := by
  rw [analyze, analyze, h]

/-- Marks from an earlier run have no influence. -/
theorem analyze_withMarks (marks : Nat → Bool) (sections : List Section) :
    analyze (withMarks marks sections) = analyze sections :=
  analyze_eq_of_markCalled (markCalled_withMarks marks sections)

theorem exists_clearMarks_eq_withMarks (sections : List Section) :
    ∃ marks, clearMarks sections = withMarks marks sections := by
  refine ⟨fun i =>
    (sections[i]?.map Section.reachable).getD false && (live sections).contains i, ?_⟩
  apply List.ext_getElem?
  intro i
  rw [clearMarks, List.getElem?_mapIdx, withMarks, List.getElem?_mapIdx]
  rcases sections[i]? with _ | s
  · rfl
  · simp

/-- The analysis can be run again on its own result. -/
theorem analyze_analyze (sections : List Section) :
    analyze (analyze sections).value.1 = analyze sections := by
  obtain ⟨marks, hmarks⟩ := exists_clearMarks_eq_withMarks (markCalled sections)
  rw [analyze_sections, hmarks, analyze_withMarks]
  exact analyze_eq_of_markCalled (markCalled_markCalled sections)

/-! ### Taking marks away -/

/-- Clearing takes the marks of sections that are not reached, and no others. -/
theorem marked_clearMarks_iff (sections : List Section) (i : Nat) :
    Marked (clearMarks sections) i ↔ Marked sections i ∧ Reached sections i := by
  rcases hi : sections[i]? with _ | s
  · simp [Marked, clearMarks, hi]
  · have hne : sections ≠ [] := by
      rintro rfl
      simp at hi
    simp [Marked, clearMarks, hi, mem_live_iff hne]

theorem mem_falselyMarked (sections : List Section) (i : Nat) :
    i ∈ falselyMarked sections ↔ Marked sections i ∧ ¬ Reached sections i := by
  rcases hi : sections[i]? with _ | s
  · simp [falselyMarked, Marked, hi]
  · have hlt := (List.getElem?_eq_some_iff.mp hi).1
    have hne : sections ≠ [] := List.ne_nil_of_length_pos (Nat.zero_lt_of_lt hlt)
    simp [falselyMarked, Marked, hlt, mem_live_iff hne]

theorem live_clearMarks (sections : List Section) : live (clearMarks sections) = live sections := by
  obtain ⟨marks, hmarks⟩ := exists_clearMarks_eq_withMarks sections
  rw [hmarks]
  exact live_congr (map_unanalyzed_withMarks marks sections)

theorem clearMarks_clearMarks (sections : List Section) :
    clearMarks (clearMarks sections) = clearMarks sections := by
  apply List.ext_getElem?
  intro i
  rw [clearMarks, live_clearMarks, List.getElem?_mapIdx, clearMarks, List.getElem?_mapIdx,
    Option.map_map]
  congr 1
  funext s
  simp

/-- After clearing there is nothing left to clear. -/
theorem falselyMarked_clearMarks (sections : List Section) :
    falselyMarked (clearMarks sections) = [] := by
  rw [falselyMarked, live_clearMarks, List.filter_eq_nil_iff]
  intro i _
  rcases hi : sections[i]? with _ | s
  · simp [clearMarks, hi]
  · simp [clearMarks, hi]

theorem clearDead_clearMarks (sections : List Section) :
    clearDead (clearMarks sections) = pure (clearMarks sections, []) := by
  rw [clearDead, falselyMarked_clearMarks, clearMarks_clearMarks]
  rfl

/-- What taking marks away does, whatever the marks are. -/
structure MarksTaken (sections after : List Section) (cleared : List Nat) : Prop where
  onlyMarks : ∃ marks, after = withMarks marks sections
  neverSets : ∀ i, Marked after i → Marked sections i
  keeps_iff : ∀ i, Marked sections i → (Marked after i ↔ Reached sections i)
  ascending : cleared.Pairwise (· < ·)
  mem_cleared_iff : ∀ i, i ∈ cleared ↔ Marked sections i ∧ ¬ Marked after i
  again : clearDead after = pure (after, [])

theorem clearDead_marksTaken (sections : List Section) :
    MarksTaken sections (clearDead sections).value.1 (clearDead sections).value.2 where
  onlyMarks := exists_clearMarks_eq_withMarks sections
  neverSets := by
    intro i hmarked
    exact ((marked_clearMarks_iff sections i).mp hmarked).1
  keeps_iff := by
    intro i hmarked
    apply (marked_clearMarks_iff sections i).trans
    exact and_iff_right hmarked
  ascending := List.pairwise_lt_range.filter _
  mem_cleared_iff := by
    intro i
    apply (mem_falselyMarked sections i).trans
    apply and_congr_right
    intro hmarked
    exact not_congr ((marked_clearMarks_iff sections i).trans (and_iff_right hmarked)).symm
  again := clearDead_clearMarks sections

/-- **The analysis can be repeated.** A second run returns the sections, the report and the events
of the first one, and so does a run that starts with any other marks. Taking marks away, whatever
the marks are, sets none, tells which ones it took, and does nothing the second time. -/
theorem analyze_repeatable (sections : List Section) :
    analyze (analyze sections).value.1 = analyze sections ∧
      (∀ marks, analyze (withMarks marks sections) = analyze sections) ∧
      ∀ marks, MarksTaken (withMarks marks sections) (clearDead (withMarks marks sections)).value.1
        (clearDead (withMarks marks sections)).value.2 := by
  refine ⟨analyze_analyze sections, ?_, ?_⟩
  · intro marks
    exact analyze_withMarks marks sections
  · intro marks
    exact clearDead_marksTaken (withMarks marks sections)

end CobolAtlas.CallGraph
