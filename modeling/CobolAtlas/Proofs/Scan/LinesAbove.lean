import CobolAtlas.Proofs.Scan.Action

/-!
# The lines above

A scan keeps the two lines above the next one. It looks at them for comments, which name what
follows, and a `WHEN` looks at the line above it, which may be a label of the same arm. Lines that
are the same in these respects (`SameBelow`) can stand for each other: what is found behind them is
the same (`findings_eq_of_readLine`).
-/

namespace CobolAtlas

/-- Only a line with a `WHEN` looks at the line above. -/
theorem Conditions.read_congr (conditions : Conditions) {words : List String}
    {previous other : Option String}
    (h : "WHEN" ∈ words → labelAbove other = labelAbove previous) :
    conditions.read words other = conditions.read words previous := by
  have hevaluate : conditions.readEvaluate? words other =
      conditions.readEvaluate? words previous := by
    by_cases hwhen : "WHEN" ∈ words
    · have harm : ∀ evaluation, armGuard evaluation words other =
          armGuard evaluation words previous := by
        intro evaluation
        rw [armGuard, armGuard, h hwhen]
      simp only [readEvaluate?, harm]
    · have hno : words.contains "WHEN" = false := by simpa using hwhen
      simp only [readEvaluate?, hno, Bool.false_eq_true, if_false]
  rw [read, read, read?, read?, hevaluate]

namespace Scan

/-- The state with other lines above the next one. -/
def withLines (scan : Scan) (above twoAbove : String) : Scan :=
  { scan with above := above, twoAbove := twoAbove }

theorem passed_withLines (scan : Scan) (raw wide : String) (after : Scan) :
    (scan.passed raw after).withLines wide scan.above = scan.passed wide after := rfl

section

variable (options : ScanOptions) (scan : Scan) (above twoAbove : String)

theorem alike_withLines : Alike (scan.withLines above twoAbove) scan :=
  ⟨rfl, rfl, rfl, rfl⟩

theorem withLines_passed (raw : String) (after : Scan) :
    (scan.withLines above twoAbove).passed raw (after.withLines above twoAbove) =
      (scan.passed raw after).withLines raw above := rfl

theorem fetched_withLines (words : List String) :
    (scan.withLines above twoAbove).fetched words =
      (scan.fetched words).withLines above twoAbove := by
  have hsame : (scan.withLines above twoAbove).fetchOf? words = scan.fetchOf? words := rfl
  rcases hfetch : scan.fetchOf? words with _ | cursor
  · rw [fetched_of_none hfetch, fetched_of_none (hsame.trans hfetch)]
  · rw [fetched_of_some hfetch, fetched_of_some (hsame.trans hfetch)]
    rfl

theorem afterBlockLine_withLines (line : Sql.BlockLine) :
    (scan.withLines above twoAbove).afterBlockLine line =
      (scan.afterBlockLine line).withLines above twoAbove := by
  cases line with
  | goesOn block => rfl
  | closed statement => rfl

theorem readOpenBlock_withLines (raw : String) :
    (scan.withLines above twoAbove).readOpenBlock options raw =
      (scan.readOpenBlock options raw).withLines above twoAbove := by
  have hsame : (scan.withLines above twoAbove).block = scan.block := rfl
  unfold readOpenBlock
  rw [hsame, (scan.alike_withLines above twoAbove).wordsOf_eq]
  cases scan.block with
  | none => rfl
  | some block =>
    simp only [fetched_withLines, afterBlockLine_withLines]
    rfl

end

/-- The two lines are the same to what is below: they have the same comment, and the same label if
the next line has a `WHEN`. -/
structure SameBelow (above other : String) (below : List String) : Prop where
  comment_eq : Line.comment other = Line.comment above
  label_eq : ∀ raw, below.head? = some raw → "WHEN" ∈ Line.codeWords raw →
    Conditions.labelAbove (some (Text.without '.' (Line.format .code other))) =
      Conditions.labelAbove (some (Text.without '.' (Line.format .code above)))

theorem SameBelow.refl (above : String) (below : List String) : SameBelow above above below :=
  ⟨rfl, fun _ _ _ => rfl⟩

section

variable {options : ScanOptions} {scan : Scan} {above twoAbove raw : String} {below : List String}

/-- Only a `WHEN` looks at the line above, and only for its label. -/
theorem readCondition_withLines {words : List String}
    (h : "WHEN" ∈ words →
      Conditions.labelAbove (some (Text.without '.' (Line.format .code above))) =
        Conditions.labelAbove (some (Text.without '.' (Line.format .code scan.above)))) :
    (scan.withLines above twoAbove).readCondition words =
      (scan.readCondition words).withLines above twoAbove := by
  have habove : (scan.withLines above twoAbove).above = above := rfl
  have hconditions : (scan.withLines above twoAbove).conditions = scan.conditions := rfl
  simp only [readCondition, habove, hconditions, scan.conditions.read_congr h]
  rfl

theorem perform_withLines (options : ScanOptions) (scan : Scan)
    (habove : SameBelow scan.above above (raw :: below))
    (htwoAbove : Line.comment twoAbove = Line.comment scan.twoAbove) (action : Action)
    (hcondition : action = .condition → scan.block = none) :
    (scan.withLines above twoAbove).perform options raw action =
      (scan.perform options raw action).withLines above twoAbove := by
  have hwords := (scan.alike_withLines above twoAbove).wordsOf_eq raw
  cases action with
  | blockLine => exact readOpenBlock_withLines options scan above twoAbove raw
  | copyMember name =>
    have hcomment : Line.comment (scan.withLines above twoAbove).above = Line.comment scan.above :=
      habove.comment_eq
    rw [perform, hcomment]
    rfl
  | openSection =>
    have hcomment : Line.comment (scan.withLines above twoAbove).twoAbove =
        Line.comment scan.twoAbove := htwoAbove
    rw [perform, hcomment, hwords]
    rfl
  | condition =>
    rw [perform, perform, hwords, wordsOf_of_code (hcondition rfl)]
    exact readCondition_withLines (habove.label_eq raw rfl)
  | skip => rfl
  | openBlock => rfl
  | closeSection => rfl
  | call call => rfl

/-- Step lemma: other lines above that show the same below are not noticed. -/
theorem readLine_withLines (options : ScanOptions)
    (habove : SameBelow scan.above above (raw :: below))
    (htwoAbove : Line.comment twoAbove = Line.comment scan.twoAbove) :
    ((scan.withLines above twoAbove).readLine options raw).value =
      (scan.readLine options raw).value.withLines raw above := by
  have halike := scan.alike_withLines above twoAbove
  have hentered : (scan.withLines above twoAbove).entered raw =
      (scan.entered raw).withLines above twoAbove := by
    rw [entered, entered, halike.division_eq, halike.wordsOf_eq]
    rfl
  have haction : ((scan.entered raw).withLines above twoAbove).action options (scan.wordsOf raw) =
      (scan.entered raw).action options (scan.wordsOf raw) :=
    ((scan.entered raw).alike_withLines above twoAbove).action_eq rfl _
  have hcondition : (scan.entered raw).action options (scan.wordsOf raw) = .condition →
      (scan.entered raw).block = none := by
    intro hcondition
    cases hblock : (scan.entered raw).block with
    | none => rfl
    | some block =>
      have hopen : (scan.entered raw).block ≠ none := by simp [hblock]
      rcases action_of_block options hopen (scan.wordsOf raw) with hskip | hline
      · exact absurd (hcondition.symm.trans hskip) (by simp)
      · exact absurd (hcondition.symm.trans hline) (by simp)
  have hcomments : Line.comment twoAbove = Line.comment (scan.entered raw).twoAbove := by
    rw [entered_twoAbove]
    exact htwoAbove
  rw [← entered_above scan raw] at habove
  have hperform := perform_withLines options (scan.entered raw) habove hcomments _ hcondition
  rw [readLine_perform, readLine_perform, hentered, halike.wordsOf_eq, haction, hperform,
    withLines_passed]

/-- **The findings** are the same under two lines that are the same to what is below. -/
theorem findings_withLines (options : ScanOptions) (lines : List String)
    (habove : SameBelow scan.above above lines)
    (htwoAbove : Line.comment twoAbove = Line.comment scan.twoAbove) :
    (readLines options (scan.withLines above twoAbove) lines).value.finish.value =
      (readLines options scan lines).value.finish.value := by
  induction lines generalizing scan above twoAbove with
  | nil =>
    rw [readLines_nil_value, readLines_nil_value, finish_value, finish_value]
    rfl
  | cons raw rest ih =>
    have hread := readLine_withLines options habove htwoAbove
    rw [readLines_cons_value, readLines_cons_value, hread]
    apply ih
    · rw [above_readLine]
      exact .refl raw rest
    · rw [twoAbove_readLine]
      exact habove.comment_eq

end

/-- The findings behind a line that stands for another one. -/
theorem findings_eq_of_readLine {options : ScanOptions} {scan : Scan} {raw wide : String}
    {after : List String} (hbelow : SameBelow raw wide after)
    (hread : (scan.readLine options wide).value =
      (scan.readLine options raw).value.withLines wide scan.above) :
    (readLines options scan (wide :: after)).value.finish.value =
      (readLines options scan (raw :: after)).value.finish.value := by
  rw [readLines_cons_value, readLines_cons_value, hread]
  apply findings_withLines
  · rw [above_readLine]
    exact hbelow
  · rw [twoAbove_readLine]

end Scan

end CobolAtlas
