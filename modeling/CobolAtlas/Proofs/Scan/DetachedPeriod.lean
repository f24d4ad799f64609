import CobolAtlas.Proofs.EmptyWord
import CobolAtlas.Proofs.Scan.Layout
import CobolAtlas.Proofs.Scan.LinesAbove

/-!
# Detached periods

A period with spaces in front of it leaves an empty word at the end of its line. Most lines are read
as without it, but a header is told by its last word, the start of a block and the start of a loop
by all of their words, and the texts of conditions are made of them. `showsPeriod` lists the lines
where the empty word is seen, and `readLine_detached_iff` says that there are no others.

What is found in a program stays the same if the period of any other line is detached, as long as a
label has no `WHEN` below it. A header is lost: no section starts at its line
(`startLines_of_header`). How many spaces there are never matters.
-/

namespace CobolAtlas

/-! ### What a line does -/

namespace Scan

/-- Whether an empty word at the end of a line with this action shows in the state behind the line.
A header and the start of a block are told by all of their words, and `PERFORM` on its own is the
start of a loop, but a call with one more word. -/
def Action.showsPeriod (conditions : Conditions) (words : List String) : Action → Bool
  | .openSection => true
  | .openBlock => true
  | .condition =>
    (words = ["PERFORM"] && !conditions.isReading) || conditions.showsPeriod words
  | _ => false

/-- Whether an empty word at the end of a line of the procedure division shows in the state behind
the line. -/
def showsPeriod (options : ScanOptions) (scan : Scan) (words : List String) : Bool :=
  (scan.action options words).showsPeriod scan.conditions words

section

variable {options : ScanOptions} {scan : Scan} {words : List String}

theorem isHeader_concat_empty (words : List String) : isHeader (words ++ [""]) = false := by
  simp [isHeader]

theorem opensBlock_concat_empty (words : List String) : Sql.opensBlock (words ++ [""]) = false := by
  have hne : words ++ [""] ≠ ["EXEC", "SQL"] := by
    intro hsame
    have hlast := congrArg List.getLast? hsame
    rw [List.getLast?_concat] at hlast
    exact absurd hlast (by decide)
  simpa [Sql.opensBlock] using hne

theorem second_concat_empty (hne : words ≠ []) :
    Text.second (words ++ [""]) = Text.second words := by
  match words, hne with
  | [_], _ => rfl
  | _ :: _ :: _, _ => rfl

theorem isStructural_concat_empty (hne : words ≠ []) (division : Division) :
    division.isStructural (words ++ [""]) = division.isStructural words := by
  rw [Division.isStructural, Division.isStructural, Text.head_append hne]

theorem isExit_concat_empty (hne : words ≠ []) (s : Section) :
    isExit options s (words ++ [""]) = isExit options s words := by
  rw [isExit, isExit, Text.head_append hne, second_concat_empty hne]

theorem callOf?_concat_empty (hne : words ≠ []) (hperform : words ≠ ["PERFORM"])
    (conditions : Conditions) :
    callOf? conditions (words ++ [""]) = callOf? conditions words := by
  have hlength : Text.head words = "PERFORM" → words.length > 1 := by
    intro hhead
    match words, hne with
    | [first], _ => exact absurd (congrArg (fun w => [w]) hhead) hperform
    | _ :: _ :: _, _ => simp
  rw [callOf?, callOf?, Text.head_append hne, second_concat_empty hne]
  split
  · rename_i hhead
    have hmore : (words ++ [""]).length > 1 := by
      rw [List.length_append]
      exact Nat.lt_add_right _ (hlength hhead)
    simp only [hlength hhead, hmore]
  · rfl
  · rfl

/-- The actions that neither start a section nor have to do with blocks. -/
inductive Action.Ordinary : Action → Prop
  | skip : Ordinary .skip
  | copyMember (name : String) : Ordinary (.copyMember name)
  | closeSection : Ordinary .closeSection
  | call (call : Call) : Ordinary (.call call)
  | condition : Ordinary .condition

theorem Action.Ordinary.ne_openSection {action : Action} (h : action.Ordinary) :
    action ≠ .openSection := by
  rintro rfl
  cases h

theorem Action.Ordinary.showsPeriod_eq {action : Action} (h : action.Ordinary)
    (hcondition : action ≠ .condition) (conditions : Conditions) (words : List String) :
    action.showsPeriod conditions words = false := by
  cases h with
  | condition => exact absurd rfl hcondition
  | skip => rfl
  | copyMember name => rfl
  | closeSection => rfl
  | call call => rfl

/-- What an empty word at the end of a line does to the action of the line: nothing; or a section is
not started, or a block not opened; or a loop becomes a call. -/
inductive Detached (scan : Scan) (words : List String) : Action → Action → Prop
  | same {action : Action} (hordinary : action.Ordinary)
      (hloop : action = .condition → words = ["PERFORM"] → scan.conditions.isReading = true) :
      Detached scan words action action
  | lost {action other : Action} (h : action = .openSection ∨ action = .openBlock)
      (hordinary : other.Ordinary) : Detached scan words action other
  | loop (hwords : words = ["PERFORM"]) (hreading : scan.conditions.isReading = false)
      (hcurrent : scan.current ≠ none) :
      Detached scan words .condition (.call (.perform "" scan.conditions.shown))

theorem Detached.ordinary {action other : Action} (h : Detached scan words action other) :
    other.Ordinary := by
  cases h with
  | same hordinary => exact hordinary
  | lost _ hordinary => exact hordinary
  | loop => exact .call _

/-- Inside a section the empty word keeps a block from opening and turns a lone `PERFORM` into a
call. Any other line does what it did. -/
theorem bodyAction_detached (options : ScanOptions) {s : Section}
    (hcurrent : scan.current = some s) (hne : words ≠ []) :
    Detached scan words (bodyAction options s scan.conditions words)
      (bodyAction options s scan.conditions (words ++ [""])) := by
  unfold bodyAction
  rw [isExit_concat_empty hne, opensBlock_concat_empty]
  by_cases hexit : isExit options s words = true
  · rw [if_pos hexit, if_pos hexit]
    exact .same .closeSection (by simp)
  rw [if_neg hexit, if_neg hexit]
  by_cases hreading : scan.conditions.isReading = true
  · rw [if_pos hreading, if_pos hreading]
    exact .same .condition fun _ _ => hreading
  rw [if_neg hreading, if_neg hreading]
  by_cases hperform : words = ["PERFORM"]
  · subst hperform
    rw [Bool.not_eq_true] at hreading
    have hsome : scan.current ≠ none := by simp [hcurrent]
    exact .loop rfl hreading hsome
  rw [callOf?_concat_empty hne hperform]
  cases callOf? scan.conditions words with
  | some call => exact .same (.call call) (by simp)
  | none =>
    by_cases hopens : Sql.opensBlock words = true
    · rw [hopens]
      exact .lost (.inr rfl) .condition
    · simp only [hopens, Bool.false_eq_true, if_false]
      exact .same .condition fun _ h => absurd h hperform

theorem procedureAction_detached (options : ScanOptions) (hne : words ≠ []) :
    Detached scan words (procedureAction options scan words)
      (procedureAction options scan (words ++ [""])) := by
  unfold procedureAction
  rw [isHeader_concat_empty, opensBlock_concat_empty]
  simp only [Bool.false_eq_true, if_false]
  cases hcurrent : scan.current with
  | none =>
    by_cases hheader : isHeader words = true
    · rw [if_pos hheader]
      exact .lost (.inl rfl) .skip
    · by_cases hopens : Sql.opensBlock words = true
      · simp only [hheader, hopens, if_true, if_false, Bool.false_eq_true]
        exact .lost (.inr rfl) .skip
      · simp only [hheader, hopens, if_false, Bool.false_eq_true]
        exact .same .skip (by simp)
  | some s =>
    have hbody := bodyAction_detached options hcurrent hne
    by_cases hheader : isHeader words = true
    · rw [if_pos hheader]
      exact .lost (.inl rfl) hbody.ordinary
    · rw [if_neg hheader]
      exact hbody

/-- The action of a line with the period apart, for each action it may have with the period
attached. -/
theorem action_detached (options : ScanOptions) (hdivision : scan.division = .procedure)
    (hblock : scan.block = none) (hne : words ≠ []) :
    Detached scan words (scan.action options words) (scan.action options (words ++ [""])) := by
  rw [action_of_code options hdivision hblock, action_of_code options hdivision hblock,
    isStructural_concat_empty hne]
  by_cases hstructural : Division.procedure.isStructural words = true
  · rw [if_pos hstructural, if_pos hstructural]
    exact procedureAction_detached options hne
  · rw [if_neg hstructural, if_neg hstructural]
    exact .same .skip (by simp)

end

/-! ### The state behind a line -/

section

variable {options : ScanOptions} {scan : Scan}

theorem map_sections {α : Type} (f : Section → α) (scan : Scan) :
    scan.sections.map f = scan.ended.map f ++ (scan.current.map f).toList := by
  rw [sections, List.map_append, Option.toList_map]

/-- Sections start at headers only. -/
theorem startLines_perform (options : ScanOptions) (scan : Scan) (raw : String) (action : Action) :
    (scan.perform options raw action).sections.map Section.startLine =
      scan.sections.map Section.startLine ++
        if action = .openSection then [scan.line + 1] else [] := by
  rw [map_sections, map_sections]
  cases action with
  | openSection =>
    simp [perform, Section.close, Section.start, Function.comp_def, Option.toList_map]
  | closeSection => simp [perform, Section.close, Function.comp_def, Option.toList_map]
  | blockLine =>
    rw [perform, (sqlOnly_readOpenBlock options scan raw).ended_eq,
      map_current_readOpenBlock Section.startLine Section.addFetch_startLine]
    simp
  | call call => simp [perform, Section.addCall, Function.comp_def]
  | skip => simp [perform]
  | openBlock => simp [perform, openBlock]
  | copyMember name => simp [perform]
  | condition => simp [perform, readCondition]

theorem block_perform (options : ScanOptions) (scan : Scan) (raw : String) {action : Action}
    (h : action.Ordinary) : (scan.perform options raw action).block = scan.block := by
  cases h with
  | skip => rfl
  | copyMember name => rfl
  | closeSection => rfl
  | call call => rfl
  | condition => rfl

/-- Only a condition looks at all words of its line. -/
theorem perform_eq_of_ordinary (options : ScanOptions) (scan : Scan) (raw other : String)
    {action : Action} (h : action.Ordinary) (hcondition : action ≠ .condition) :
    scan.perform options raw action = scan.perform options other action := by
  cases h with
  | condition => exact absurd rfl hcondition
  | skip => rfl
  | copyMember name => rfl
  | closeSection => rfl
  | call call => rfl

/-- Of two lines of which one starts a section or opens a block, and the other does neither, the
states behind are not the same. -/
theorem passed_perform_ne {raw other : String} {action otherAction : Action}
    (hblock : scan.block = none) (h : action = .openSection ∨ action = .openBlock)
    (hordinary : otherAction.Ordinary) :
    scan.passed other (scan.perform options other otherAction) ≠
      scan.passed other (scan.perform options raw action) := by
  intro hsame
  rcases h with rfl | rfl
  · have hstarts := congrArg (fun after => after.sections.map Section.startLine) hsame
    simp only [sections_passed, startLines_perform] at hstarts
    simp [hordinary.ne_openSection] at hstarts
  · have hblocks := congrArg Scan.block hsame
    rw [passed_block, passed_block, block_perform options scan other hordinary, hblock] at hblocks
    simp [perform, openBlock] at hblocks

/-- Two readings of a condition line lead to the same scan when they leave the same conditions. -/
theorem passed_readCondition_eq_iff {words others : List String} (raw : String) :
    scan.passed raw (scan.readCondition words) = scan.passed raw (scan.readCondition others) ↔
      scan.conditions.read words (some (Text.without '.' (Line.format .code scan.above))) =
        scan.conditions.read others (some (Text.without '.' (Line.format .code scan.above))) := by
  constructor
  · intro hsame
    exact congrArg Scan.conditions hsame
  · intro hread
    rw [readCondition, readCondition, hread]

/-- **An empty word at the end of a line** shows in the state where `showsPeriod` says so. -/
theorem readLine_concat_empty_iff {raw wide : String} (hdivision : scan.division = .procedure)
    (hblock : scan.block = none) (hwide : Line.codeWords wide = Line.codeWords raw ++ [""]) :
    (scan.readLine options wide).value =
      (scan.readLine options raw).value.withLines wide scan.above ↔
      scan.showsPeriod options (Line.codeWords raw) = false := by
  have hne : Line.codeWords raw ≠ [] := Text.words_ne_nil _
  have hdetached := action_detached options hdivision hblock hne
  rw [readLine_of_code options hdivision hblock, readLine_of_code options hdivision hblock,
    passed_withLines, hwide, showsPeriod]
  generalize scan.action options (Line.codeWords raw) = action at hdetached ⊢
  generalize scan.action options (Line.codeWords raw ++ [""]) = other at hdetached ⊢
  cases hdetached with
  | same hordinary hloop =>
    by_cases hcondition : action = .condition
    · subst hcondition
      have hno : (decide (Line.codeWords raw = ["PERFORM"]) && !scan.conditions.isReading) =
          false := by
        rw [Bool.and_eq_false_iff, decide_eq_false_iff_not, Bool.not_eq_false']
        by_cases hperform : Line.codeWords raw = ["PERFORM"]
        · exact .inr (hloop rfl hperform)
        · exact .inl hperform
      simp only [perform, Action.showsPeriod, hno, Bool.false_or]
      rw [passed_readCondition_eq_iff, wordsOf_of_code hblock, wordsOf_of_code hblock, hwide]
      exact Conditions.read_concat_empty_iff _ hne _
    · rw [perform_eq_of_ordinary options scan wide raw hordinary hcondition,
        hordinary.showsPeriod_eq hcondition]
      exact iff_of_true rfl rfl
  | lost h hordinary =>
    have hshows : action.showsPeriod scan.conditions (Line.codeWords raw) ≠ false := by
      rcases h with rfl | rfl
      · simp [Action.showsPeriod]
      · simp [Action.showsPeriod]
    exact iff_of_false (passed_perform_ne hblock h hordinary) hshows
  | loop hwords hreading hcurrent =>
    have hshows : Action.showsPeriod scan.conditions (Line.codeWords raw) .condition ≠ false := by
      simp [Action.showsPeriod, hwords, hreading]
    refine iff_of_false ?_ hshows
    intro hsame
    obtain ⟨s, hs⟩ := Option.ne_none_iff_exists'.mp hcurrent
    have hcalls := congrArg (fun after => after.current.map fun s => s.calls.length) hsame
    simp [passed, perform, readCondition, hs, Section.addCall] at hcalls

end

/-! ### Header lines -/

/-- A section begins at each line that opens one and nowhere else. -/
theorem startLines_readLine (options : ScanOptions) (scan : Scan) (raw : String) :
    (scan.readLine options raw).value.sections.map Section.startLine =
      scan.sections.map Section.startLine ++
        if (scan.entered raw).action options (scan.wordsOf raw) = .openSection then [scan.line + 1]
        else [] := by
  rw [readLine_perform, sections_passed, startLines_perform, sections_entered, entered_line]

/-- Behind some more lines there are the sections of before, and sections that start at one of the
lines. -/
theorem startLines_readLines (options : ScanOptions) (lines : List String) (scan : Scan) :
    ∃ more, (readLines options scan lines).value.sections.map Section.startLine =
        scan.sections.map Section.startLine ++ more ∧
      ∀ n ∈ more, scan.line < n ∧ n ≤ scan.line + lines.length := by
  induction lines generalizing scan with
  | nil => exact ⟨[], by rw [readLines_nil_value, List.append_nil], by simp⟩
  | cons raw rest ih =>
    obtain ⟨more, hmore, hbounds⟩ := ih (scan.readLine options raw).value
    rw [line_readLine] at hbounds
    rw [readLines_cons_value, hmore, startLines_readLine, List.append_assoc]
    refine ⟨_, rfl, ?_⟩
    intro n hn
    rw [List.length_cons]
    rcases List.mem_append.mp hn with hn | hn
    · split at hn
      · rw [List.mem_singleton.mp hn]
        omega
      · simp at hn
    · have hbound := hbounds n hn
      omega

theorem startLines_finish (scan : Scan) :
    scan.finish.value.sections.map Section.startLine = scan.sections.map Section.startLine := by
  rw [finish_value, map_sections]
  simp [Section.close, Function.comp_def, Option.toList_map]

/-! ### Sentences -/

section

variable {options : ScanOptions} {scan : Scan} {raw : String}

theorem action_of_head_empty {words : List String} (hdivision : scan.division = .procedure)
    (hblock : scan.block = none) (hempty : Text.head words = "") :
    scan.action options words = .skip := by
  have hskipped : Division.procedure.isStructural words = false := by
    rw [Division.isStructural, hempty]
    decide
  rw [action_of_code options hdivision hblock, hskipped]
  rfl

/-- The action of a line is done by its words. -/
theorem perform_congr {other : String} (hwords : scan.wordsOf raw = scan.wordsOf other)
    (hcontinued : Line.isContinuation raw = Line.isContinuation other) (action : Action) :
    scan.perform options raw action = scan.perform options other action := by
  cases action with
  | openSection => rw [perform, perform, hwords]
  | condition => rw [perform, perform, hwords]
  | blockLine => rw [perform, perform, readOpenBlock, readOpenBlock, hwords, hcontinued]
  | skip => rfl
  | copyMember name => rfl
  | openBlock => rfl
  | closeSection => rfl
  | call call => rfl

variable {s : Line.Sentence} {gap other : Nat}

/-- **A period behind spaces** shows in the state where `showsPeriod` says so. -/
theorem readLine_detached_iff (options : ScanOptions) (hdivision : scan.division = .procedure)
    (hblock : scan.block = none) (hfits : s.Fits (gap + 1)) (hplain : s.Plain) :
    (scan.readLine options (s.withPeriod (gap + 1))).value =
      (scan.readLine options (s.withPeriod 0)).value.withLines (s.withPeriod (gap + 1))
        scan.above ↔
      scan.showsPeriod options (Line.codeWords s.text) = false := by
  have hwords := Line.Sentence.codeWords_attached (hfits.of_le (Nat.zero_le _)) hplain
  rcases Line.Sentence.codeWords_detached hfits with hwide | ⟨hwide, htext⟩
  · rw [← hwords] at hwide ⊢
    exact readLine_concat_empty_iff hdivision hblock hwide
  · rw [readLine_of_code options hdivision hblock, readLine_of_code options hdivision hblock,
      passed_withLines, hwords, action_of_head_empty hdivision hblock hwide, showsPeriod,
      action_of_head_empty hdivision hblock htext]
    exact iff_of_true rfl rfl

/-- More than one space is as one. -/
theorem readLine_detached_eq (options : ScanOptions) (hdivision : scan.division = .procedure)
    (hblock : scan.block = none) (hfits : s.Fits (gap + 1)) (hother : s.Fits (other + 1)) :
    (scan.readLine options (s.withPeriod (gap + 1))).value =
      (scan.readLine options (s.withPeriod (other + 1))).value.withLines (s.withPeriod (gap + 1))
        scan.above := by
  have hwords := Line.Sentence.codeWords_detached_eq hfits hother
  have hcontinued : Line.isContinuation (s.withPeriod (gap + 1)) =
      Line.isContinuation (s.withPeriod (other + 1)) := by
    rw [s.isContinuation_withPeriod, s.isContinuation_withPeriod]
  have hsame : scan.wordsOf (s.withPeriod (gap + 1)) = scan.wordsOf (s.withPeriod (other + 1)) := by
    rw [wordsOf_of_code hblock, wordsOf_of_code hblock, hwords]
  rw [readLine_of_code options hdivision hblock, readLine_of_code options hdivision hblock, hwords,
    passed_withLines, perform_congr hsame hcontinued]

end

section

variable {s : Line.Sentence} {gap : Nat} {after : List String}

theorem labelAbove_withPeriod (hfits : s.Fits gap) (hplain : gap = 0 → s.Plain)
    (hlabel : ¬ s.IsLabel) :
    Conditions.labelAbove (some (Text.without '.' (Line.format .code (s.withPeriod gap)))) =
      none := by
  have hhead := Line.Sentence.head_words_format hfits hplain
  have hnot : Text.head (Text.words (Text.without '.' (Line.format .code (s.withPeriod gap)))) ≠
      "WHEN" := by
    rw [hhead]
    exact hlabel
  simp only [Conditions.labelAbove, hnot, if_false]

theorem sameBelow_detached (hfits : s.Fits (gap + 1)) (hplain : s.Plain)
    (hlabel : s.IsLabel → ∀ raw, after.head? = some raw → "WHEN" ∉ Line.codeWords raw) :
    SameBelow (s.withPeriod 0) (s.withPeriod (gap + 1)) after where
  comment_eq := by rw [s.comment_withPeriod, s.comment_withPeriod]
  label_eq := by
    intro raw hraw hwhen
    by_cases hs : s.IsLabel
    · exact absurd hwhen (hlabel hs raw hraw)
    · have hattached := hfits.of_le (Nat.zero_le _)
      rw [labelAbove_withPeriod hfits (by simp) hs,
        labelAbove_withPeriod hattached (fun _ => hplain) hs]

theorem sameBelow_of_fits {other : Nat} (hfits : s.Fits (gap + 1)) (hother : s.Fits (other + 1)) :
    SameBelow (s.withPeriod (other + 1)) (s.withPeriod (gap + 1)) after where
  comment_eq := by rw [s.comment_withPeriod, s.comment_withPeriod]
  label_eq := by
    intro raw _ _
    rw [Line.Sentence.format_detached_eq hfits hother]

end

/-- With a detached period no line is a header. -/
theorem action_withPeriod_ordinary (options : ScanOptions) {scan : Scan} {s : Line.Sentence}
    {gap : Nat} (hdivision : scan.division = .procedure) (hblock : scan.block = none)
    (hfits : s.Fits (gap + 1)) :
    (scan.action options (Line.codeWords (s.withPeriod (gap + 1)))).Ordinary := by
  rcases Line.Sentence.codeWords_detached hfits with hwide | ⟨hwide, _⟩
  · rw [hwide]
    exact (action_detached options hdivision hblock (Text.words_ne_nil _)).ordinary
  · rw [action_of_head_empty hdivision hblock hwide]
    exact .skip

/-- A header starts a section with its period attached and starts none with its period apart. -/
theorem startLines_of_header (options : ScanOptions) {scan : Scan} {s : Line.Sentence} {gap : Nat}
    (hdivision : scan.division = .procedure) (hblock : scan.block = none)
    (hfits : s.Fits (gap + 1)) (hplain : s.Plain)
    (hbefore : ∀ n ∈ scan.sections.map Section.startLine, n ≤ scan.line)
    (hheader : scan.action options (Line.codeWords s.text) = .openSection) (after : List String) :
    scan.line + 1 ∈ (readLines options scan
        (s.withPeriod 0 :: after)).value.finish.value.sections.map Section.startLine ∧
      scan.line + 1 ∉ (readLines options scan
        (s.withPeriod (gap + 1) :: after)).value.finish.value.sections.map Section.startLine := by
  have hattached := hfits.of_le (Nat.zero_le _)
  have hnot := (action_withPeriod_ordinary options hdivision hblock hfits).ne_openSection
  rw [startLines_finish, startLines_finish, readLines_cons_value, readLines_cons_value]
  constructor
  · obtain ⟨more, hmore, _⟩ :=
      startLines_readLines options after (scan.readLine options (s.withPeriod 0)).value
    rw [hmore, startLines_readLine, entered_eq_self hdivision, wordsOf_of_code hblock,
      Line.Sentence.codeWords_attached hattached hplain, if_pos hheader]
    simp
  · obtain ⟨more, hmore, hbounds⟩ :=
      startLines_readLines options after (scan.readLine options (s.withPeriod (gap + 1))).value
    rw [hmore, startLines_readLine, entered_eq_self hdivision, wordsOf_of_code hblock,
      if_neg hnot, List.append_nil]
    intro hmem
    rcases List.mem_append.mp hmem with hmem | hmem
    · have hle := hbefore _ hmem
      omega
    · have hlt := (hbounds _ hmem).1
      rw [line_readLine] at hlt
      omega

end Scan

/-- **Detached periods.** Let a line of the procedure division outside of blocks end in a period,
and put spaces in front of it.

* The state behind the line is the same, but for the line itself, if and only if the empty word does
  not show.
* If it does not show, the findings are the same, unless the line is a label with a `WHEN` below.
* A header is lost, whatever follows.
* One space does what many do. -/
theorem Source.scan_detached_period (options : ScanOptions) (path : String)
    (before after : List String) (s : Line.Sentence) (gap : Nat)
    (hdivision : (Scan.readLines options {} before).value.division = .procedure)
    (hblock : (Scan.readLines options {} before).value.block = none)
    (hfits : s.Fits (gap + 1)) (hplain : s.Plain) :
    let scan := (Scan.readLines options {} before).value
    let words := Line.codeWords s.text
    let found := fun gap =>
      (Source.scan ⟨path, before ++ s.withPeriod gap :: after⟩ options).value
    ((scan.readLine options (s.withPeriod (gap + 1))).value =
        (scan.readLine options (s.withPeriod 0)).value.withLines (s.withPeriod (gap + 1))
          scan.above ↔
      scan.showsPeriod options words = false) ∧
    (scan.showsPeriod options words = false →
      (s.IsLabel → ∀ raw, after.head? = some raw → "WHEN" ∉ Line.codeWords raw) →
      found (gap + 1) = found 0) ∧
    (scan.action options words = .openSection →
      before.length + 1 ∈ (found 0).sections.map Section.startLine ∧
        before.length + 1 ∉ (found (gap + 1)).sections.map Section.startLine) ∧
    ∀ other, s.Fits (other + 1) → found (gap + 1) = found (other + 1) := by
  intro scan words found
  have hfound : ∀ gap, found gap =
      (Scan.readLines options scan (s.withPeriod gap :: after)).value.finish.value := by
    intro gap
    simp only [found, scan, Source.scan, Logged.value_bind, Scan.readLines_append_value]
  have hline : scan.line = before.length := by
    simp [scan, Scan.readLines_line]
  have hbefore : ∀ n ∈ scan.sections.map Section.startLine, n ≤ scan.line := by
    obtain ⟨more, hmore, hbounds⟩ := Scan.startLines_readLines options before {}
    intro n hn
    rw [show scan.sections.map Section.startLine = _ from hmore] at hn
    have hbound := (hbounds n (by simpa [Scan.sections] using hn)).2
    rw [hline]
    simpa using hbound
  have hshows := Scan.readLine_detached_iff options hdivision hblock hfits hplain
  refine ⟨hshows, ?_, ?_, ?_⟩
  · intro hsilent hlabel
    rw [hfound, hfound]
    exact Scan.findings_eq_of_readLine (Scan.sameBelow_detached hfits hplain hlabel)
      (hshows.mpr hsilent)
  · intro hheader
    rw [hfound, hfound, ← hline]
    exact Scan.startLines_of_header options hdivision hblock hfits hplain hbefore hheader after
  · intro other hother
    rw [hfound, hfound]
    exact Scan.findings_eq_of_readLine (Scan.sameBelow_of_fits hfits hother)
      (Scan.readLine_detached_eq options hdivision hblock hfits hother)

def guardedLines : List String :=
  ["       PROCEDURE DIVISION.", "       ORDERS SECTION.", "           IF WS-STATUS = 1 THEN"]

def callSentence : Line.Sentence where
  text := "              PERFORM NEW-ORDER"
  tail := ""
  indented := by decide
  solid := by
    rintro c ⟨⟩
    decide
  not_comment := by decide
  blank_tail := by simp

theorem callSentence_detached_period :
    let scan := (Scan.readLines {} {} guardedLines).value
    scan.division = .procedure ∧ scan.block = none ∧ callSentence.Fits 3 ∧ callSentence.Plain ∧
      scan.showsPeriod {} (Line.codeWords callSentence.text) = false ∧ ¬ callSentence.IsLabel ∧
      (Source.scan ⟨"", guardedLines ++ ["              PERFORM NEW-ORDER   .",
          "       ORDERS-EXIT."]⟩ {}).value =
        (Source.scan ⟨"", guardedLines ++ ["              PERFORM NEW-ORDER.",
          "       ORDERS-EXIT."]⟩ {}).value := by
  have hstate : (Scan.readLines {} {} guardedLines).value.division = .procedure ∧
      (Scan.readLines {} {} guardedLines).value.block = none ∧
      (Scan.readLines {} {} guardedLines).value.showsPeriod {}
        (Line.codeWords callSentence.text) = false := by decide +kernel
  obtain ⟨hdivision, hblock, hsilent⟩ := hstate
  have hfits : callSentence.Fits 3 := by decide +kernel
  have hplain : callSentence.Plain := by decide +kernel
  have hlabel : ¬ callSentence.IsLabel := by decide +kernel
  obtain ⟨_, hsame, _, _⟩ := Source.scan_detached_period {} "" guardedLines ["       ORDERS-EXIT."]
    callSentence 2 hdivision hblock hfits hplain
  exact ⟨hdivision, hblock, hfits, hplain, hsilent, hlabel,
    hsame hsilent fun h => absurd h hlabel⟩

def headerSentence : Line.Sentence where
  text := "       MAIN SECTION"
  tail := ""
  indented := by decide
  solid := by
    rintro c ⟨⟩
    decide
  not_comment := by decide
  blank_tail := by simp

theorem headerSentence_detached_differs :
    let before := ["       PROCEDURE DIVISION."]
    let scan := (Scan.readLines {} {} before).value
    let found := fun gap =>
      (Source.scan ⟨"", before ++ headerSentence.withPeriod gap :: ["           EXIT."]⟩ {}).value
    scan.division = .procedure ∧ scan.block = none ∧ headerSentence.Fits 1 ∧
      headerSentence.withPeriod 0 = "       MAIN SECTION." ∧
      headerSentence.withPeriod 1 = "       MAIN SECTION ." ∧
      (found 0).sections.map (fun s => (s.name, s.startLine, s.endLine)) =
        [("MAIN", 2, some 3)] ∧
      (found 1).sections = [] := by
  decide +kernel

end CobolAtlas
