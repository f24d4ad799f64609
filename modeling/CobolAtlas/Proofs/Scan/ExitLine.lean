import CobolAtlas.Proofs.Scan.Cursors

/-!
# Exit lines

A line whose first word is `EXIT` ends the open section, unless its second word is `PERFORM`: that
one leaves a loop. Whether a line is a header is asked before whether it is an exit, and a header is
told by its last word alone. The two questions have one answer in common, the exit lines that end in
the word `SECTION`. There the header wins: the open section ends one line too early, and a section
with the name `EXIT` starts, which no program has.
-/

namespace CobolAtlas.Scan

/-- The words of a line that leaves a section and not only a loop. -/
structure ExitWords (words : List String) : Prop where
  first_eq : Text.head words = "EXIT"
  second_ne : Text.second words ≠ "PERFORM"

instance (words : List String) : Decidable (ExitWords words) :=
  decidable_of_iff (Text.head words = "EXIT" ∧ Text.second words ≠ "PERFORM")
    ⟨fun h => ⟨h.1, h.2⟩, fun h => ⟨h.first_eq, h.second_ne⟩⟩

section

variable {words : List String}

theorem ExitWords.isStructural (h : ExitWords words) :
    Division.procedure.isStructural words = true := by
  rw [Division.isStructural, h.first_eq]
  decide

theorem ExitWords.isExit (h : ExitWords words) (options : ScanOptions) (s : Section) :
    isExit options s words = true := by
  unfold Scan.isExit
  rw [h.first_eq]
  exact decide_eq_true h.second_ne

/-- A line of one word is no header, and `EXIT` alone does not end in `SECTION`. -/
theorem ExitWords.isHeader_iff (h : ExitWords words) :
    isHeader words = true ↔ words.getLast? = some "SECTION" := by
  unfold isHeader
  rw [Bool.and_eq_true, decide_eq_true_eq, decide_eq_true_eq]
  constructor
  · rintro ⟨_, hlast⟩
    exact hlast
  · intro hlast
    refine ⟨?_, hlast⟩
    have hfirst := h.first_eq
    rcases words with _ | ⟨first, _ | ⟨second, rest⟩⟩
    · simp at hlast
    · rw [List.getLast?_singleton, Option.some.injEq] at hlast
      rw [Text.head, List.headD_cons, hlast] at hfirst
      exact absurd hfirst (by decide)
    · simp

end

/-- The section `s` that was open ends at the line behind which the scan is now, and no section is
open there: the sections are those of before. -/
def EndsHere (scan : Scan) (s : Section) (after : Scan) : Prop :=
  after.current = none ∧
    after.ended = scan.ended ++
      [{ s with endLine := some after.line, calls := Call.dedup s.calls }]

instance (scan : Scan) (s : Section) (after : Scan) : Decidable (EndsHere scan s after) :=
  inferInstanceAs (Decidable (_ ∧ _))

/-- The section `s` that was open ends one line above, and a section with the name `EXIT` starts. -/
def StartsExit (scan : Scan) (s : Section) (after : Scan) : Prop :=
  after.current = some (.start "EXIT" (Line.comment scan.twoAbove) after.line) ∧
    after.ended = scan.ended ++
      [{ s with endLine := some scan.line, calls := Call.dedup s.calls }]

section

variable {options : ScanOptions} {scan : Scan} {raw : String} {s : Section}

/-- The exit words end the section, unless the line ends with `SECTION`: the test for a header comes
first. -/
theorem procedureAction_of_exit (hcurrent : scan.current = some s) {words : List String}
    (hwords : ExitWords words) :
    procedureAction options scan words =
      if words.getLast? = some "SECTION" then .openSection else .closeSection := by
  unfold procedureAction
  simp only [hwords.isHeader_iff, hcurrent, bodyAction, hwords.isExit, if_true]

/-- In the procedure division an exit line is taken for a header or ends the section. -/
theorem readLine_of_exit (options : ScanOptions) (hdivision : scan.division = .procedure)
    (hblock : scan.block = none) (hcurrent : scan.current = some s)
    (hwords : ExitWords (Line.codeWords raw)) :
    (scan.readLine options raw).value =
      scan.passed raw (scan.perform options raw
        (if (Line.codeWords raw).getLast? = some "SECTION" then .openSection
          else .closeSection)) := by
  rw [readLine_of_code options hdivision hblock, action_of_code options hdivision hblock,
    if_pos hwords.isStructural, procedureAction_of_exit hcurrent hwords]

theorem close_eq_of_le {line : Nat} (hle : s.startLine ≤ line) :
    s.close line = { s with endLine := some line, calls := Call.dedup s.calls } := by
  rw [Section.close, Nat.max_eq_left hle]

/-- The section that was open has the exit line as its last one. -/
theorem endsHere_closeSection (hcurrent : scan.current = some s) (hle : s.startLine ≤ scan.line)
    (raw : String) :
    EndsHere scan s (scan.passed raw (scan.perform options raw .closeSection)) := by
  refine ⟨rfl, ?_⟩
  rw [passed_line, ← close_eq_of_le (Nat.le_succ_of_le hle)]
  simp only [passed, perform, hcurrent, Option.map_some, Option.toList_some]

/-- A line such as `EXIT SECTION` begins a section with the name `EXIT`. -/
theorem startsExit_openSection (hcurrent : scan.current = some s) (hle : s.startLine ≤ scan.line)
    (hblock : scan.block = none) (hwords : ExitWords (Line.codeWords raw)) :
    StartsExit scan s (scan.passed raw (scan.perform options raw .openSection)) := by
  constructor
  · simp only [passed, perform, wordsOf_of_code hblock, hwords.first_eq]
  · rw [← close_eq_of_le hle]
    simp only [passed, perform, hcurrent, Option.map_some, Option.toList_some]

end

/-- **Exit lines.** Let a section be open behind some lines of a program, outside of blocks, and let
the next line be an exit line. If its last word is not `SECTION`, the section ends at this line and
no section is open behind it; otherwise the section ends one line above and another one starts,
which has the name `EXIT`. -/
theorem readLine_exit_iff (options : ScanOptions) (lines : List String) (raw : String) (s : Section)
    (hcurrent : (readLines options {} lines).value.current = some s)
    (hblock : (readLines options {} lines).value.block = none)
    (hwords : ExitWords (Line.codeWords raw)) :
    let scan := (readLines options {} lines).value
    let after := (scan.readLine options raw).value
    (EndsHere scan s after ↔ (Line.codeWords raw).getLast? ≠ some "SECTION") ∧
      (StartsExit scan s after ↔ (Line.codeWords raw).getLast? = some "SECTION") := by
  intro scan after
  have htracked := Tracked.init.readLines options lines
  have hdivision : scan.division = .procedure :=
    htracked.dataFirst.procedure_of_current (by rw [hcurrent]; rfl)
  have hle : s.startLine ≤ scan.line := htracked.laidOut.start_le s hcurrent
  have hafter := readLine_of_exit options hdivision hblock hcurrent hwords
  have hexclusive : EndsHere scan s after → ¬ StartsExit scan s after := by
    rintro ⟨hnone, _⟩ ⟨hsome, _⟩
    rw [hnone] at hsome
    exact absurd hsome (by simp)
  by_cases hlast : (Line.codeWords raw).getLast? = some "SECTION"
  · rw [if_pos hlast] at hafter
    have hstarts : StartsExit scan s after := by
      rw [show after = _ from hafter]
      exact startsExit_openSection hcurrent hle hblock hwords
    exact ⟨⟨fun hends => absurd hstarts (hexclusive hends), fun hne => absurd hlast hne⟩,
      ⟨fun _ => hlast, fun _ => hstarts⟩⟩
  · rw [if_neg hlast] at hafter
    have hends : EndsHere scan s after := by
      rw [show after = _ from hafter]
      exact endsHere_closeSection hcurrent hle raw
    exact ⟨⟨fun _ => hlast, fun _ => hends⟩,
      ⟨fun hstarts => absurd hstarts (hexclusive hends), fun heq => absurd heq hlast⟩⟩

def mainHeader : List String :=
  ["       PROCEDURE DIVISION.", "       MAIN SECTION."]

/-- Behind `mainHeader` the section `MAIN` is open. -/
def openMain : Section := .start "MAIN" "" 2

theorem exitParagraph_exit_iff :
    let scan := (readLines {} {} mainHeader).value
    let raw := "           EXIT PARAGRAPH."
    let after := (scan.readLine {} raw).value
    scan.current = some openMain ∧ scan.block = none ∧ ExitWords (Line.codeWords raw) ∧
      (EndsHere scan openMain after ↔ (Line.codeWords raw).getLast? ≠ some "SECTION") ∧
      (StartsExit scan openMain after ↔ (Line.codeWords raw).getLast? = some "SECTION") := by
  intro scan raw after
  have hcurrent : (readLines {} {} mainHeader).value.current = some openMain := by decide +kernel
  have hblock : (readLines {} {} mainHeader).value.block = none := by decide +kernel
  have hwords : ExitWords (Line.codeWords "           EXIT PARAGRAPH.") := by decide +kernel
  exact ⟨hcurrent, hblock, hwords,
    readLine_exit_iff {} mainHeader _ openMain hcurrent hblock hwords⟩

theorem exitSection_starts_section :
    let scan := (readLines {} {} mainHeader).value
    let raw := "           EXIT SECTION."
    let after := (scan.readLine {} raw).value
    scan.current = some openMain ∧ scan.block = none ∧ ExitWords (Line.codeWords raw) ∧
      ¬ EndsHere scan openMain after ∧
      after.sections.map (fun s => (s.name, s.startLine, s.endLine)) =
        [("MAIN", 2, some 2), ("EXIT", 3, none)] := by
  decide +kernel

end CobolAtlas.Scan
