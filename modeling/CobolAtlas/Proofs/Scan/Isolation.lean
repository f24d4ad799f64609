import CobolAtlas.Proofs.Scan.Action
import CobolAtlas.Proofs.Scan.Ownership

/-!
# Sections are read on their own

What a scan makes of a section depends on the lines of the section and on nothing in front of its
header. Two scans that come to the same header, however they got there, are `InStep` behind it:
they agree on what decides about a line, and their open sections have made the same calls. A line
keeps them in step or ends both sections, with the same record (`InStep.readLine`). What the two
programs differ in (the members and statements found so far, the title, the cursors that a fetch
can find) is never looked at to decide about a line.

Open conditions of an earlier section do not get through, because a header drops them, and a `WHEN`
line looks back no further than to the header.
-/

namespace CobolAtlas

/-- The two records tell the same of a section: its name, its calls, and how far behind its header
it ends. -/
structure Section.SameBody (s t : Section) : Prop where
  name_eq : s.name = t.name
  calls_eq : s.calls = t.calls
  height_eq : ∃ height,
    s.endLine = some (s.startLine + height) ∧ t.endLine = some (t.startLine + height)

theorem Section.sameBody_close {s t : Section} (hname : s.name = t.name)
    (hcalls : s.calls = t.calls) (height : Nat) :
    (s.close (s.startLine + height)).SameBody (t.close (t.startLine + height)) := by
  constructor
  · exact hname
  · simp only [Section.close, hcalls]
  · refine ⟨height, ?_, ?_⟩
    · simp [Section.close]
    · simp [Section.close]

namespace Scan

/-! ### Scans in step -/

/-- The sections that start at these lines are open in both scans and have made the same calls. -/
structure SameOpen (start otherStart : Nat) (scan other : Scan) : Prop
    extends Alike scan other where
  start_eq : scan.current.map Section.startLine = some start
  otherStart_eq : other.current.map Section.startLine = some otherStart
  calls_eq : scan.current.map Section.calls = other.current.map Section.calls

/-- Both sections are open, and equally many lines behind their headers are read. -/
structure InStep (start otherStart : Nat) (scan other : Scan) : Prop
    extends SameOpen start otherStart scan other where
  above_eq : scan.above = other.above
  line_eq : ∃ height, scan.line = start + height ∧ other.line = otherStart + height

/-- Both sections have ended, with the same record. -/
def BothEnded (start otherStart : Nat) (scan other : Scan) : Prop :=
  ∃ s ∈ scan.ended, ∃ t ∈ other.ended,
    s.startLine = start ∧ t.startLine = otherStart ∧ s.SameBody t

variable {options others : ScanOptions} {start otherStart : Nat} {scan other : Scan}

/-- Open sections that end equally far behind their headers end with the same record. -/
theorem SameOpen.sameBody (h : SameOpen start otherStart scan other) (height : Nat) :
    ∃ s ∈ scan.current.map (·.close (start + height)),
      ∃ t ∈ other.current.map (·.close (otherStart + height)),
        s.startLine = start ∧ t.startLine = otherStart ∧ s.SameBody t := by
  obtain ⟨s, hs, hstart⟩ := Option.map_eq_some_iff.mp h.start_eq
  obtain ⟨t, ht, hother⟩ := Option.map_eq_some_iff.mp h.otherStart_eq
  have hname := h.name_eq
  have hcalls := h.calls_eq
  rw [hs, ht, Option.map_some, Option.map_some, Option.some.injEq] at hname hcalls
  refine ⟨s.close (start + height), by simp [hs], t.close (otherStart + height), by simp [ht],
    hstart, hother, ?_⟩
  subst hstart hother
  exact Section.sameBody_close hname hcalls height

theorem BothEnded.of_sameOpen (h : SameOpen start otherStart scan other) (height : Nat)
    {after otherAfter : Scan}
    (hended : after.ended =
      scan.ended ++ (scan.current.map (·.close (start + height))).toList)
    (hother : otherAfter.ended =
      other.ended ++ (other.current.map (·.close (otherStart + height))).toList) :
    BothEnded start otherStart after otherAfter := by
  obtain ⟨s, hs, t, ht, hsame⟩ := h.sameBody height
  refine ⟨s, ?_, t, ?_, hsame⟩
  · rw [hended]
    exact List.mem_append_right _ (Option.mem_toList.mpr hs)
  · rw [hother]
    exact List.mem_append_right _ (Option.mem_toList.mpr ht)

/-- What has ended stays as it is, whatever comes behind it in either source. -/
theorem BothEnded.readLines (h : BothEnded start otherStart scan other) (lines more : List String) :
    BothEnded start otherStart (Scan.readLines options scan lines).value
      (Scan.readLines others other more).value := by
  obtain ⟨s, hs, t, ht, hsame⟩ := h
  exact ⟨s, mem_ended_readLines lines hs, t, mem_ended_readLines more ht, hsame⟩

/-! ### One line -/

/-- A line of SQL makes no call, so other cursors declared above do not matter. -/
theorem SameOpen.readOpenBlock (h : SameOpen start otherStart scan other) (raw : String) :
    SameOpen start otherStart (scan.readOpenBlock options raw)
      (other.readOpenBlock others raw) := by
  have hsql := sqlOnly_readOpenBlock options scan raw
  have hother := sqlOnly_readOpenBlock others other raw
  have hname : ∀ (s : Section) cursor, (s.addFetch cursor).name = s.name := addFetch_name
  have hstart : ∀ (s : Section) cursor, (s.addFetch cursor).startLine = s.startLine :=
    Section.addFetch_startLine
  have hcalls : ∀ (s : Section) cursor, (s.addFetch cursor).calls = s.calls := by
    intro s cursor
    unfold Section.addFetch
    split
    · rfl
    · rfl
  constructor
  · constructor
    · rw [hsql.division_eq, hother.division_eq, h.division_eq]
    · rw [isSome_block_readOpenBlock, isSome_block_readOpenBlock, h.block_eq, h.wordsOf_eq]
    · rw [map_current_readOpenBlock _ hname, map_current_readOpenBlock _ hname, h.name_eq]
    · rw [hsql.conditions_eq, hother.conditions_eq, h.conditions_eq]
  · rw [map_current_readOpenBlock _ hstart, h.start_eq]
  · rw [map_current_readOpenBlock _ hstart, h.otherStart_eq]
  · rw [map_current_readOpenBlock _ hcalls, map_current_readOpenBlock _ hcalls, h.calls_eq]

theorem SameOpen.readCondition (h : SameOpen start otherStart scan other)
    (habove : scan.above = other.above) (words : List String) :
    SameOpen start otherStart (scan.readCondition words) (other.readCondition words) := by
  have hconditions : (scan.readCondition words).conditions =
      (other.readCondition words).conditions := by
    simp only [Scan.readCondition, h.conditions_eq, habove]
  exact { h with conditions_eq := hconditions }

theorem SameOpen.call (h : SameOpen start otherStart scan other) (call : Call) (raw : String) :
    SameOpen start otherStart (scan.perform options raw (.call call))
      (other.perform others raw (.call call)) := by
  have hmap : ∀ {α : Type} (f g : Section → α), (∀ s, f (Section.addCall s call) = g s) →
      ∀ current : Option Section, (current.map (·.addCall call)).map f = current.map g := by
    intro α f g hfg current
    cases current with
    | none => rfl
    | some s => exact congrArg some (hfg s)
  constructor
  · constructor
    · exact h.division_eq
    · exact h.block_eq
    · simp only [perform, hmap Section.name Section.name fun _ => rfl, h.name_eq]
    · exact h.conditions_eq
  · simp only [perform, hmap Section.startLine Section.startLine fun _ => rfl, h.start_eq]
  · simp only [perform, hmap Section.startLine Section.startLine fun _ => rfl, h.otherStart_eq]
  · have hcalls := congrArg (Option.map (· ++ [call])) h.calls_eq
    rw [Option.map_map, Option.map_map] at hcalls
    simp only [perform, Option.map_map]
    exact hcalls

/-- The same action keeps both sections open or ends both. -/
theorem InStep.perform (h : InStep start otherStart scan other) (raw : String) (action : Action) :
    SameOpen start otherStart (scan.perform options raw action)
        (other.perform others raw action) ∨
      BothEnded start otherStart (scan.perform options raw action)
        (other.perform others raw action) := by
  obtain ⟨height, hline, hother⟩ := h.line_eq
  cases action with
  | skip => exact .inl h.toSameOpen
  | copyMember name => exact .inl { h with }
  | openBlock => exact .inl { h with block_eq := rfl }
  | blockLine => exact .inl (h.readOpenBlock raw)
  | openSection =>
    right
    apply BothEnded.of_sameOpen h.toSameOpen height
    · rw [← hline]
      rfl
    · rw [← hother]
      rfl
  | closeSection =>
    right
    apply BothEnded.of_sameOpen h.toSameOpen (height + 1)
    · rw [← Nat.add_assoc, ← hline]
      rfl
    · rw [← Nat.add_assoc, ← hother]
      rfl
  | call call => exact .inl (h.call call raw)
  | condition =>
    left
    simp only [Scan.perform, ← h.wordsOf_eq raw]
    exact h.readCondition h.above_eq _

theorem InStep.withDivision (h : InStep start otherStart scan other) (division : Division) :
    InStep start otherStart { scan with division := division }
      { other with division := division } :=
  { h with division_eq := rfl }

theorem InStep.entered (h : InStep start otherStart scan other) (raw : String) :
    InStep start otherStart (scan.entered raw) (other.entered raw) := by
  rw [Scan.entered, Scan.entered, h.division_eq, h.wordsOf_eq]
  exact h.withDivision _

theorem SameOpen.passed {after otherAfter : Scan}
    (h : SameOpen start otherStart after otherAfter) (raw : String) (height : Nat)
    (hline : scan.line + 1 = start + height) (hother : other.line + 1 = otherStart + height) :
    InStep start otherStart (scan.passed raw after) (other.passed raw otherAfter) :=
  { h with above_eq := rfl, line_eq := ⟨height, hline, hother⟩ }

theorem BothEnded.passed {after otherAfter : Scan}
    (h : BothEnded start otherStart after otherAfter) (raw : String) :
    BothEnded start otherStart (scan.passed raw after) (other.passed raw otherAfter) :=
  h

/-- A line keeps the two scans in step or ends both sections. -/
theorem InStep.readLine (h : InStep start otherStart scan other)
    (hsuffix : options.exitSuffix = others.exitSuffix) (raw : String) :
    InStep start otherStart (scan.readLine options raw).value
        (other.readLine others raw).value ∨
      BothEnded start otherStart (scan.readLine options raw).value
        (other.readLine others raw).value := by
  obtain ⟨height, hline, hother⟩ := h.line_eq
  have hentered := h.entered raw
  have haction : (scan.entered raw).action options (scan.wordsOf raw) =
      (other.entered raw).action others (other.wordsOf raw) := by
    rw [h.wordsOf_eq]
    exact hentered.action_eq hsuffix _
  rw [readLine_perform, readLine_perform, haction]
  rcases hentered.perform raw ((other.entered raw).action others (other.wordsOf raw)) with
    hopen | hended
  · left
    apply hopen.passed raw (height + 1)
    · rw [hline, Nat.add_assoc]
    · rw [hother, Nat.add_assoc]
  · exact .inr (hended.passed raw)

/-- Run lemma: the same lines keep two scans in step or end the section in both. -/
theorem InStep.readLines (h : InStep start otherStart scan other)
    (hsuffix : options.exitSuffix = others.exitSuffix) (lines : List String) :
    InStep start otherStart (Scan.readLines options scan lines).value
        (Scan.readLines others other lines).value ∨
      BothEnded start otherStart (Scan.readLines options scan lines).value
        (Scan.readLines others other lines).value := by
  induction lines generalizing scan other with
  | nil => exact .inl h
  | cons raw rest ih =>
    rw [readLines_cons_value, readLines_cons_value]
    rcases h.readLine hsuffix raw with hstep | hended
    · exact ih hstep
    · exact .inr (hended.readLines rest rest)

/-! ### From the header on -/

/-- The scan comes to a section header in the procedure division and outside of blocks. -/
structure AtHeader (scan : Scan) (header : String) : Prop where
  in_procedure : (scan.entered header).division = .procedure
  idle : scan.block = none
  structural : Division.procedure.isStructural (Line.codeWords header) = true
  header_form : isHeader (Line.codeWords header) = true

theorem AtHeader.readLine_value {header : String} (h : AtHeader scan header) :
    (scan.readLine options header).value =
      scan.passed header ((scan.entered header).perform options header .openSection) := by
  have hwords : scan.wordsOf header = Line.codeWords header := by
    simp [wordsOf, h.idle]
  have hblock : (scan.entered header).block.isSome = false := by
    rw [entered_block, h.idle]
    rfl
  rw [readLine_perform, hwords, action, h.in_procedure, if_pos h.structural]
  simp only [hblock, procedureAction, h.header_form, if_true, Bool.false_eq_true, if_false]

/-- A header leaves nothing of what stood above it in the section it opens. -/
theorem sameOpen_openSection (options others : ScanOptions)
    (hdivision : scan.division = other.division)
    (hblock : scan.block.isSome = other.block.isSome) (header : String) :
    SameOpen (scan.line + 1) (other.line + 1) (scan.perform options header .openSection)
      (other.perform others header .openSection) := by
  have hwords : scan.wordsOf header = other.wordsOf header := by
    rw [wordsOf, wordsOf, hblock]
  constructor
  · constructor
    · exact hdivision
    · exact hblock
    · simp only [perform, Option.map_some, Section.start, hwords]
    · rfl
  · rfl
  · rfl
  · rfl

theorem AtHeader.inStep {header : String} (h : AtHeader scan header)
    (options others : ScanOptions) (hother : AtHeader other header) :
    InStep (scan.line + 1) (other.line + 1) (scan.readLine options header).value
      (other.readLine others header).value := by
  rw [h.readLine_value, hother.readLine_value]
  have hblock : (scan.entered header).block.isSome = (other.entered header).block.isSome := by
    rw [entered_block, entered_block, h.idle, hother.idle]
  have hopen := sameOpen_openSection options others
    (h.in_procedure.trans hother.in_procedure.symm) hblock header
  rw [entered_line, entered_line] at hopen
  exact hopen.passed header 0 rfl rfl

/-- The lines of a program up to a section header, some lines behind it, and the rest. -/
structure SectionLines (options : ScanOptions) (lines : List String) where
  before : List String
  header : String
  body : List String
  after : List String
  lines_eq : lines = before ++ header :: (body ++ after)
  at_header : AtHeader (readLines options {} before).value header

namespace SectionLines

variable {lines otherLines : List String}

def headerLine (here : SectionLines options lines) : Nat :=
  here.before.length + 1

/-- The state behind the lines of the section. -/
def reached (here : SectionLines options lines) : Scan :=
  (readLines options {} (here.before ++ here.header :: here.body)).value

/-- The section ends with one of its lines, by an exit or by the next header. -/
def HasEnded (here : SectionLines options lines) : Prop :=
  ∃ s ∈ here.reached.ended, s.startLine = here.headerLine

theorem readLines_eq (here : SectionLines options lines) :
    (readLines options {} lines).value = (readLines options here.reached here.after).value := by
  have hsplit : lines = (here.before ++ here.header :: here.body) ++ here.after :=
    here.lines_eq.trans (by rw [List.append_assoc, List.cons_append])
  rw [reached, ← readLines_append_value, ← hsplit]

/-- From the header on the two sources are read in step. -/
theorem inStep_or_bothEnded (here : SectionLines options lines)
    (there : SectionLines others otherLines) (hsuffix : options.exitSuffix = others.exitSuffix)
    (hheader : here.header = there.header) (hbody : here.body = there.body) :
    InStep here.headerLine there.headerLine here.reached there.reached ∨
      BothEnded here.headerLine there.headerLine here.reached there.reached := by
  have hstart : (readLines options {} here.before).value.line + 1 = here.headerLine := by
    simp [readLines_line, headerLine]
  have hotherStart : (readLines others {} there.before).value.line + 1 = there.headerLine := by
    simp [readLines_line, headerLine]
  have hthere : AtHeader (readLines others {} there.before).value here.header :=
    hheader ▸ there.at_header
  have hstep := here.at_header.inStep options others hthere
  rw [hstart, hotherStart] at hstep
  simp only [reached, readLines_append_value, readLines_cons_value, ← hheader, ← hbody]
  exact hstep.readLines hsuffix here.body

/-- The section that is open behind its lines has not ended. -/
theorem not_hasEnded (here : SectionLines options lines)
    (hopen : here.reached.current.map Section.startLine = some here.headerLine) :
    ¬ here.HasEnded := by
  rintro ⟨p, hp, hstart⟩
  have hlaid : LaidOut here.reached.line here.reached.ended here.reached.current :=
    readLines_laidOut options _
  obtain ⟨s, hs, hsame⟩ := Option.map_eq_some_iff.mp hopen
  obtain ⟨e, he, hlt⟩ := hlaid.before_current p hp s hs
  obtain ⟨last, hlast, _, hle, _⟩ := hlaid.ended_within p hp
  rw [he, Option.some.injEq] at hlast
  omega

/-- The two sections are found with the same record. -/
theorem exists_sameBody (here : SectionLines options lines)
    (there : SectionLines others otherLines) (hsuffix : options.exitSuffix = others.exitSuffix)
    (hheader : here.header = there.header) (hbody : here.body = there.body)
    (hends : here.HasEnded ∨ here.after = [] ∧ there.after = []) :
    ∃ s ∈ (readLines options {} lines).value.finish.value.sections,
      ∃ t ∈ (readLines others {} otherLines).value.finish.value.sections,
        s.startLine = here.headerLine ∧ t.startLine = there.headerLine ∧ s.SameBody t := by
  rw [here.readLines_eq, there.readLines_eq]
  rcases here.inStep_or_bothEnded there hsuffix hheader hbody with hstep | hended
  · rcases hends with hends | ⟨hafter, hotherAfter⟩
    · exact absurd hends (here.not_hasEnded hstep.start_eq)
    · -- both programs end here, and that ends the sections
      obtain ⟨height, hline, hother⟩ := hstep.line_eq
      obtain ⟨s, hs, t, ht, hsame⟩ := hstep.sameBody height
      rw [hafter, hotherAfter, readLines_nil_value, readLines_nil_value, finish_value,
        finish_value, hline, hother]
      refine ⟨s, ?_, t, ?_, hsame⟩
      · exact List.mem_append_right _ (Option.mem_toList.mpr hs)
      · exact List.mem_append_right _ (Option.mem_toList.mpr ht)
  · obtain ⟨s, hs, t, ht, hsame⟩ := hended
    exact ⟨s, mem_sections_of_mem_ended _ hs, t, mem_sections_of_mem_ended _ ht, hsame⟩

end SectionLines

end Scan

/-! ### Programs -/

/-- No two sections start at one line. -/
theorem Section.eq_of_startLine {sections : List Section} {n : Nat}
    (hwithin : ∀ s ∈ sections, s.Within n) (hbefore : sections.Pairwise Section.Before)
    {s t : Section} (hs : s ∈ sections) (ht : t ∈ sections)
    (hstart : s.startLine = t.startLine) : s = t := by
  have hnot : ∀ {p q : Section}, p ∈ sections → p.Before q → p.startLine ≠ q.startLine := by
    rintro p q hp ⟨e, he, hlt⟩ heq
    obtain ⟨last, hlast, _, hle, _⟩ := hwithin p hp
    rw [he, Option.some.injEq] at hlast
    omega
  obtain ⟨i, hi, rfl⟩ := List.mem_iff_getElem.mp hs
  obtain ⟨j, hj, rfl⟩ := List.mem_iff_getElem.mp ht
  rcases Nat.lt_trichotomy i j with hlt | rfl | hgt
  · exact absurd hstart (hnot hs (List.pairwise_iff_getElem.mp hbefore i j hi hj hlt))
  · rfl
  · exact absurd hstart.symm (hnot ht (List.pairwise_iff_getElem.mp hbefore j i hj hi hgt))

theorem Source.section_unique (source : Source) (options : ScanOptions) {s t : Section}
    (hs : s ∈ (source.scan options).value.sections)
    (ht : t ∈ (source.scan options).value.sections) (hstart : s.startLine = t.startLine) :
    s = t := by
  have hlaid := (Scan.readLines_laidOut options source.lines).closed (Nat.le_refl _)
  simp only [Source.scan, Logged.value_bind, Scan.finish_value] at hs ht
  exact Section.eq_of_startLine hlaid.ended_within hlaid.ended_before hs ht hstart

/-- **Sections are read on their own.** Take a section header in each of two programs, where both
scans are in the procedure division and outside of blocks, with the same lines behind it up to the
end of the section: its exit, the next header or the end of both programs. Then there is one record
of each section, and the two have the same name, the same calls and the same number of lines,
whatever stands in front of the headers and whatever tokenizers are used. -/
theorem Source.scan_sections_isolated (source other : Source) (options others : ScanOptions)
    (hsuffix : options.exitSuffix = others.exitSuffix)
    (here : Scan.SectionLines options source.lines)
    (there : Scan.SectionLines others other.lines)
    (hheader : here.header = there.header) (hbody : here.body = there.body)
    (hends : here.HasEnded ∨ here.after = [] ∧ there.after = []) :
    ∃ s t,
      (∀ p, p ∈ (source.scan options).value.sections ∧ p.startLine = here.headerLine ↔ p = s) ∧
      (∀ p, p ∈ (other.scan others).value.sections ∧ p.startLine = there.headerLine ↔ p = t) ∧
      s.SameBody t := by
  obtain ⟨s, hs, t, ht, hstart, hotherStart, hsame⟩ :=
    here.exists_sameBody there hsuffix hheader hbody hends
  refine ⟨s, t, ?_, ?_, hsame⟩
  · intro p
    constructor
    · rintro ⟨hp, hpstart⟩
      exact source.section_unique options hp hs (hpstart.trans hstart.symm)
    · rintro rfl
      exact ⟨hs, hstart⟩
  · intro p
    constructor
    · rintro ⟨hp, hpstart⟩
      exact other.section_unique others hp ht (hpstart.trans hotherStart.symm)
    · rintro rfl
      exact ⟨ht, hotherStart⟩

/-- In front of the header stands a section without an exit, in which a condition is being read. -/
def unfinishedFirst : List String :=
  ["       PROCEDURE DIVISION.", "       OLD SECTION.", "           IF A"]

def unfinishedSource : Source :=
  ⟨"LEFT.cbl", unfinishedFirst ++ "       NEW SECTION." ::
    (["           CALL 'LOG'.", "           EXIT."] ++ [])⟩

def plainSource : Source :=
  ⟨"RIGHT.cbl", ["       PROCEDURE DIVISION."] ++ "       NEW SECTION." ::
    (["           CALL 'LOG'.", "           EXIT."] ++ ["           EXIT."])⟩

def unfinishedLines : Scan.SectionLines {} unfinishedSource.lines where
  before := unfinishedFirst
  header := "       NEW SECTION."
  body := ["           CALL 'LOG'.", "           EXIT."]
  after := []
  lines_eq := rfl
  at_header := ⟨by decide +kernel, by decide +kernel, by decide +kernel, by decide +kernel⟩

def plainLines : Scan.SectionLines {} plainSource.lines where
  before := ["       PROCEDURE DIVISION."]
  header := "       NEW SECTION."
  body := ["           CALL 'LOG'.", "           EXIT."]
  after := ["           EXIT."]
  lines_eq := rfl
  at_header := ⟨by decide +kernel, by decide +kernel, by decide +kernel, by decide +kernel⟩

theorem newSection_isolated :
    unfinishedLines.HasEnded ∧ ∃ s t,
      (∀ p, p ∈ (unfinishedSource.scan {}).value.sections ∧ p.startLine = 4 ↔ p = s) ∧
      (∀ p, p ∈ (plainSource.scan {}).value.sections ∧ p.startLine = 2 ↔ p = t) ∧
      s.SameBody t := by
  have hended : unfinishedLines.HasEnded := by
    unfold Scan.SectionLines.HasEnded
    decide +kernel
  exact ⟨hended, Source.scan_sections_isolated unfinishedSource plainSource {} {} rfl
    unfinishedLines plainLines rfl rfl (.inl hended)⟩

end CobolAtlas
