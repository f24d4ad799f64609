import CobolAtlas.Scan

/-!
# What one line does to a scan

Every property of whole scans rests on what a single line can do. `Change` lists it: a line is
passed over, copies a member, opens a block, is a line of the open block, starts a section, ends
one, makes a call, or is read as part of a condition. Each case says in which states it arises and
what the state is afterwards, so that an invariant of scans is checked case by case and the
functions of the scan are opened only here.

* `readLine_change`: the line is read in the state that has entered its division, and what it does
  is one of the changes.
* `readLines_induction`: what every change keeps holds after all lines.
-/

namespace CobolAtlas

/-- No division comes behind the procedure division. -/
theorem Division.advance_procedure (words : List String) :
    Division.procedure.advance words = .procedure := by
  unfold advance
  split
  · rename_i next _
    cases next <;> rfl
  · rfl

namespace Scan

/-- The state in which the words of a line are read: the division of the line has begun. -/
def entered (scan : Scan) (raw : String) : Scan :=
  { scan with division := scan.division.advance (scan.wordsOf raw) }

/-- The state behind a line that was read from `scan` and left `after`. -/
def passed (scan : Scan) (raw : String) (after : Scan) : Scan :=
  { after with line := scan.line + 1, above := raw, twoAbove := scan.above }

/-- A line of a block may fetch a cursor, if it stands in the procedure division. -/
def fetched (scan : Scan) (words : List String) : Scan :=
  match scan.division, Sql.fetchedCursor? words with
  | .procedure, some cursor => (scan.fetch cursor).value
  | _, _ => scan

/-- The state after a line of the open block. -/
def afterBlockLine (scan : Scan) : Sql.BlockLine → Scan
  | .goesOn block => { scan with block := some block }
  | .closed statement =>
    { scan with block := none, statements := scan.statements ++ statement.toList }

/-- The words of a line that is read at all, in the division of the state. -/
def Structural (scan : Scan) (raw : String) : Prop :=
  scan.division.isStructural (scan.wordsOf raw) = true

/-- What a line changes in the state that has entered its division. -/
inductive Change (options : ScanOptions) (raw : String) (scan : Scan) : Scan → Prop
  /-- The line says nothing. -/
  | skip : Change options raw scan scan
  | member (name : String) (hdivision : scan.division = .data) (hblock : scan.block = none)
      (hnew : scan.members.has name = false) :
      Change options raw scan
        { scan with members := scan.members ++ [⟨name, Line.comment scan.above⟩] }
  | openBlock (hdivision : scan.division = .data ∨ scan.division = .procedure)
      (hblock : scan.block = none) :
      Change options raw scan (scan.openBlock scan.division)
  | blockLine (block : Sql.Block) (hblock : scan.block = some block)
      (hdivision : scan.division = .data ∨ scan.division = .procedure) :
      Change options raw scan
        ((scan.fetched (scan.wordsOf raw)).afterBlockLine
          (block.readLine options.tokenizer (scan.wordsOf raw) (Line.isContinuation raw)
            scan.owner (scan.line + 1)).value)
  /-- A header ends the open section one line above and starts another one. -/
  | openSection (hdivision : scan.division = .procedure) (hblock : scan.block = none)
      (hstructural : scan.Structural raw) (hheader : isHeader (scan.wordsOf raw) = true) :
      Change options raw scan
        { scan with
          ended := scan.ended ++ (scan.current.map (·.close scan.line)).toList
          current := some (.start (Text.head (scan.wordsOf raw)) (Line.comment scan.twoAbove)
            (scan.line + 1))
          conditions := {} }
  | closeSection (s : Section) (hcurrent : scan.current = some s)
      (hdivision : scan.division = .procedure) (hblock : scan.block = none)
      (hexit : isExit options s (scan.wordsOf raw) = true) :
      Change options raw scan
        { scan with ended := scan.ended ++ [s.close (scan.line + 1)], current := none }
  | call (s : Section) (call : Call) (hcurrent : scan.current = some s)
      (hdivision : scan.division = .procedure) (hblock : scan.block = none)
      (hcall : callOf? scan.conditions (scan.wordsOf raw) = some call) :
      Change options raw scan (scan.addCall s call)
  | condition (s : Section) (hcurrent : scan.current = some s)
      (hdivision : scan.division = .procedure) (hblock : scan.block = none) :
      Change options raw scan (scan.readCondition (scan.wordsOf raw))

/-! ### Lines of a block -/

section

variable (scan : Scan) (line : Sql.BlockLine)

@[simp] theorem afterBlockLine_division :
    (scan.afterBlockLine line).division = scan.division := by
  cases line <;> rfl

theorem afterBlockLine_goesOn_block (block : Sql.Block) :
    (scan.afterBlockLine (.goesOn block)).block = some block := rfl

theorem afterBlockLine_goesOn_statements (block : Sql.Block) :
    (scan.afterBlockLine (.goesOn block)).statements = scan.statements := rfl

theorem afterBlockLine_closed_block (statement : Option Statement) :
    (scan.afterBlockLine (.closed statement)).block = none := rfl

theorem afterBlockLine_closed_statements (statement : Option Statement) :
    (scan.afterBlockLine (.closed statement)).statements =
      scan.statements ++ statement.toList := rfl

@[simp] theorem afterBlockLine_ended : (scan.afterBlockLine line).ended = scan.ended := by
  cases line <;> rfl

@[simp] theorem afterBlockLine_current : (scan.afterBlockLine line).current = scan.current := by
  cases line <;> rfl

@[simp] theorem afterBlockLine_members : (scan.afterBlockLine line).members = scan.members := by
  cases line <;> rfl

end

/-- The line fetches nothing that is declared, or the open section fetches a declared cursor. -/
theorem fetched_cases (scan : Scan) (words : List String) :
    scan.fetched words = scan ∨
      ∃ s cursor, scan.current = some s ∧ scan.division = .procedure ∧
        Sql.fetchedCursor? words = some cursor ∧
        scan.statements.any (fun statement => statement.declares cursor) = true ∧
        scan.fetched words =
          { scan with
            statements := withOwner scan.statements cursor s.name
            current := some (s.addFetch cursor) } := by
  unfold fetched
  split
  · rename_i cursor hdivision hcursor
    unfold fetch
    rcases hcurrent : scan.current with _ | s
    · exact .inl rfl
    · by_cases hdeclared : scan.statements.any (fun statement => statement.declares cursor) = true
      · refine .inr ⟨s, cursor, rfl, hdivision, hcursor, hdeclared, ?_⟩
        simp [hdeclared]
      · exact .inl (by simp [hdeclared])
  · exact .inl rfl

/-! ### One line -/

@[simp] theorem wordsOf_entered (scan : Scan) (raw other : String) :
    (scan.entered raw).wordsOf other = scan.wordsOf other := by
  unfold wordsOf entered
  rfl

theorem entered_division (scan : Scan) (raw : String) :
    (scan.entered raw).division = scan.division.advance (scan.wordsOf raw) := by
  rw [entered]

/-- A division word means nothing once the procedure division is reached. -/
theorem entered_eq_self {scan : Scan} (h : scan.division = .procedure) (raw : String) :
    scan.entered raw = scan := by
  rw [entered, h, Division.advance_procedure, ← h]

theorem passed_entered (scan : Scan) (raw : String) (after : Scan) :
    (scan.entered raw).passed raw after = scan.passed raw after := by
  unfold passed entered
  rfl

@[simp] theorem sections_entered (scan : Scan) (raw : String) :
    (scan.entered raw).sections = scan.sections := by
  unfold sections entered
  rfl

@[simp] theorem sections_passed (scan : Scan) (raw : String) (after : Scan) :
    (scan.passed raw after).sections = after.sections := by
  unfold sections passed
  rfl

theorem entered_block (scan : Scan) (raw : String) : (scan.entered raw).block = scan.block := by
  rw [entered]

theorem entered_statements (scan : Scan) (raw : String) :
    (scan.entered raw).statements = scan.statements := by
  rw [entered]

theorem entered_line (scan : Scan) (raw : String) : (scan.entered raw).line = scan.line := by
  rw [entered]

theorem entered_current (scan : Scan) (raw : String) :
    (scan.entered raw).current = scan.current := by
  rw [entered]

theorem entered_ended (scan : Scan) (raw : String) : (scan.entered raw).ended = scan.ended := by
  rw [entered]

theorem entered_above (scan : Scan) (raw : String) : (scan.entered raw).above = scan.above := by
  rw [entered]

theorem entered_twoAbove (scan : Scan) (raw : String) :
    (scan.entered raw).twoAbove = scan.twoAbove := by
  rw [entered]

theorem passed_line (scan : Scan) (raw : String) (after : Scan) :
    (scan.passed raw after).line = scan.line + 1 := rfl

theorem passed_division (scan : Scan) (raw : String) (after : Scan) :
    (scan.passed raw after).division = after.division := rfl

theorem passed_block (scan : Scan) (raw : String) (after : Scan) :
    (scan.passed raw after).block = after.block := rfl

theorem passed_statements (scan : Scan) (raw : String) (after : Scan) :
    (scan.passed raw after).statements = after.statements := rfl

theorem closeSection_value (scan : Scan) (line : Nat) :
    (scan.closeSection line).value =
      { scan with
        ended := scan.ended ++ (scan.current.map (·.close line)).toList, current := none } := by
  unfold closeSection
  rcases hcurrent : scan.current with _ | s
  · simp only [Logged.value_pure, Option.map_none, Option.toList_none, List.append_nil]
    rw [← hcurrent]
  · simp [Section.close]

/-- A new header ends the open section on the line above it. -/
theorem openSection_value (scan : Scan) (name : String) (line : Nat) :
    (scan.openSection name (line + 1)).value =
      { scan with
        ended := scan.ended ++ (scan.current.map (·.close line)).toList
        current := some (.start name (Line.comment scan.twoAbove) (line + 1))
        conditions := {} } := by
  unfold openSection closeBefore
  rcases hcurrent : scan.current with _ | s
  · simp
  · simp [closeSection_value, hcurrent]

theorem readBlock_value (options : ScanOptions) (scan : Scan) (block : Sql.Block)
    (words : List String) (continued : Bool) (line : Nat) :
    (scan.readBlock options block words continued line).value =
      scan.afterBlockLine
        (block.readLine options.tokenizer words continued scan.owner line).value := by
  unfold readBlock afterBlockLine
  rcases hline : (block.readLine options.tokenizer words continued scan.owner line).value with
    block' | _ | statement <;> simp [hline]

/-- A fetch changes neither the open section's name nor what the next line is read with. -/
theorem owner_fetch (scan : Scan) (cursor : String) :
    (scan.fetch cursor).value.owner = scan.owner := by
  unfold fetch owner
  rcases hcurrent : scan.current with _ | s
  · simp [hcurrent]
  · by_cases hdeclared : scan.statements.any (fun statement => statement.declares cursor) = true
    · simp only [hdeclared, if_true, Logged.value_pure]
      unfold Section.addFetch
      split <;> rfl
    · simp [hdeclared, hcurrent]

theorem readProcedureBlock_value (options : ScanOptions) (scan : Scan) (block : Sql.Block)
    (words : List String) (continued : Bool) (line : Nat)
    (hdivision : scan.division = .procedure) :
    (scan.readProcedureBlock options block words continued line).value =
      (scan.fetched words).afterBlockLine
        (block.readLine options.tokenizer words continued scan.owner line).value := by
  unfold readProcedureBlock fetched
  rcases hcursor : Sql.fetchedCursor? words with _ | cursor
  · simp [hdivision, readBlock_value]
  · simp [hdivision, readBlock_value, owner_fetch]

theorem readData_change (options : ScanOptions) (scan : Scan) (raw : String)
    (hdivision : scan.division = .data) (hblock : scan.block = none) (line : Nat) :
    Change options raw scan (scan.readData (scan.wordsOf raw) line).value := by
  unfold readData
  split
  · rename_i name rest hwords
    by_cases hhas : scan.members.has name = true
    · simpa [hhas] using Change.skip
    · have hnew : scan.members.has name = false := Bool.not_eq_true _ ▸ hhas
      simpa [hnew, CopyMembers.add] using Change.member name hdivision hblock hnew
  · by_cases hopens : Sql.opensBlock (scan.wordsOf raw) = true
    · simpa [hopens, hdivision] using Change.openBlock (.inl hdivision) hblock
    · simpa [hopens] using Change.skip

/-- One change for each branch of the body reader. -/
theorem readBody_change (options : ScanOptions) (scan : Scan) (raw : String) (s : Section)
    (hcurrent : scan.current = some s) (hdivision : scan.division = .procedure)
    (hblock : scan.block = none) :
    Change options raw scan
      (scan.readBody options s (scan.wordsOf raw) (scan.line + 1)).value := by
  unfold readBody
  by_cases hexit : isExit options s (scan.wordsOf raw) = true
  · simpa [hexit, closeSection_value, hcurrent] using
      Change.closeSection s hcurrent hdivision hblock hexit
  · have hcondition : Change options raw scan (scan.readCondition (scan.wordsOf raw)) :=
      .condition s hcurrent hdivision hblock
    by_cases hreading : scan.conditions.isReading = true
    · simpa [hexit, hreading] using hcondition
    · rcases hcall : callOf? scan.conditions (scan.wordsOf raw) with _ | call
      · by_cases hopens : Sql.opensBlock (scan.wordsOf raw) = true
        · simpa [hexit, hreading, hopens, hdivision] using Change.openBlock (.inr hdivision) hblock
        · simpa [hexit, hreading, hopens] using hcondition
      · simpa [hexit, hreading] using Change.call s call hcurrent hdivision hblock hcall

theorem readProcedure_change (options : ScanOptions) (scan : Scan) (raw : String)
    (hdivision : scan.division = .procedure) (hblock : scan.block = none)
    (hstructural : scan.Structural raw) :
    Change options raw scan
      (scan.readProcedure options (scan.wordsOf raw) (scan.line + 1)).value := by
  unfold readProcedure
  by_cases hheader : isHeader (scan.wordsOf raw) = true
  · simpa [hheader, openSection_value] using
      Change.openSection hdivision hblock hstructural hheader
  · rcases hcurrent : scan.current with _ | s
    · by_cases hopens : Sql.opensBlock (scan.wordsOf raw) = true
      · simpa [hheader, hopens, hdivision] using Change.openBlock (.inr hdivision) hblock
      · simpa [hheader, hopens] using Change.skip
    · simpa [hheader] using readBody_change options scan raw s hcurrent hdivision hblock

/-- A line that is looked at makes one of the changes. The invariants of a scan go by cases on
them. -/
theorem readWords_change (options : ScanOptions) (scan : Scan) (raw : String)
    (hstructural : scan.Structural raw) :
    Change options raw scan
      (scan.readWords options (scan.wordsOf raw) (Line.isContinuation raw)
        (scan.line + 1)).value := by
  unfold readWords
  rcases hdivision : scan.division with _ | _ | _ | _ | _
  · exact .skip
  · exact .skip
  · exact .skip
  · rcases hblock : scan.block with _ | block
    · exact readData_change options scan raw hdivision hblock _
    · rw [readBlock_value]
      simpa [fetched, hdivision] using Change.blockLine block hblock (.inl hdivision)
  · rcases hblock : scan.block with _ | block
    · exact readProcedure_change options scan raw hdivision hblock hstructural
    · rw [readProcedureBlock_value _ _ _ _ _ _ hdivision]
      exact .blockLine block hblock (.inr hdivision)

theorem readLine_of_structural (options : ScanOptions) {scan : Scan} {raw : String}
    (h : (scan.entered raw).Structural raw) :
    (scan.readLine options raw).value =
      scan.passed raw
        ((scan.entered raw).readWords options ((scan.entered raw).wordsOf raw)
          (Line.isContinuation raw) ((scan.entered raw).line + 1)).value := by
  simp only [Structural, wordsOf_entered, entered_division] at h
  simp only [readLine, passed, wordsOf_entered]
  rw [if_pos h]
  simp only [Logged.value_bind, Logged.value_pure, entered]

/-- A line that is not looked at only moves the scan one line down. -/
theorem readLine_of_not_structural (options : ScanOptions) {scan : Scan} {raw : String}
    (h : ¬ (scan.entered raw).Structural raw) :
    (scan.readLine options raw).value = scan.passed raw (scan.entered raw) := by
  simp only [Structural, wordsOf_entered, entered_division] at h
  simp only [readLine, passed]
  rw [if_neg h]
  simp only [Logged.value_bind, Logged.value_pure, entered]

/-- **What a line does** is one of the changes, in the state that has entered its division. -/
theorem readLine_change (options : ScanOptions) (scan : Scan) (raw : String) :
    ∃ after, Change options raw (scan.entered raw) after ∧
      (scan.readLine options raw).value = scan.passed raw after := by
  by_cases hstructural : (scan.entered raw).Structural raw
  · exact ⟨_, readWords_change options (scan.entered raw) raw hstructural,
      readLine_of_structural options hstructural⟩
  · exact ⟨_, .skip, readLine_of_not_structural options hstructural⟩

/-! ### All lines -/

@[simp] theorem readLines_nil_value (options : ScanOptions) (scan : Scan) :
    (readLines options scan []).value = scan := rfl

@[simp] theorem readLines_cons_value (options : ScanOptions) (scan : Scan) (raw : String)
    (rest : List String) :
    (readLines options scan (raw :: rest)).value =
      (readLines options (scan.readLine options raw).value rest).value := by
  simp only [readLines, Logged.value_bind]

/-- Lines in two parts, so that a proof can stop at a line in between. -/
theorem readLines_append_value (options : ScanOptions) (earlier later : List String)
    (scan : Scan) :
    (readLines options scan (earlier ++ later)).value =
      (readLines options (readLines options scan earlier).value later).value := by
  induction earlier generalizing scan with
  | nil => rfl
  | cons raw rest ih => rw [List.cons_append, readLines_cons_value, readLines_cons_value, ih]

/-- What holds through every division and every change holds after all lines. -/
theorem readLines_induction {options : ScanOptions} (Inv : Scan → Prop)
    (henter : ∀ scan raw, Inv scan → Inv (scan.entered raw))
    (hstep : ∀ scan raw after, Inv scan → Change options raw scan after →
      Inv (scan.passed raw after))
    (lines : List String) (scan : Scan) (hscan : Inv scan) :
    Inv (readLines options scan lines).value := by
  induction lines generalizing scan with
  | nil => exact hscan
  | cons raw rest ih =>
    obtain ⟨after, hchange, hvalue⟩ := readLine_change options scan raw
    rw [readLines_cons_value, hvalue, ← passed_entered]
    exact ih _ (hstep (scan.entered raw) raw after (henter scan raw hscan) hchange)

theorem readLines_line (options : ScanOptions) (lines : List String) (scan : Scan) :
    (readLines options scan lines).value.line = scan.line + lines.length := by
  induction lines generalizing scan with
  | nil => rfl
  | cons raw rest ih =>
    obtain ⟨after, _, hvalue⟩ := readLine_change options scan raw
    rw [readLines_cons_value, ih, hvalue, List.length_cons]
    simp only [passed]
    omega

/-- The end of a program closes the open section at the last line. -/
theorem finish_value (scan : Scan) :
    scan.finish.value =
      { sections := scan.ended ++ (scan.current.map (·.close scan.line)).toList
        statements := scan.statements
        members := scan.members
        calledModules := scan.calledModules } := by
  unfold finish sections
  rcases hcurrent : scan.current with _ | s
  · by_cases hblock : scan.block.isSome = true
    · simp [hblock, hcurrent]
    · simp [hblock, hcurrent]
  · by_cases hblock : scan.block.isSome = true
    · simp [hblock, closeSection_value, hcurrent]
    · simp [hblock, closeSection_value, hcurrent]

/-! ### Sections that have ended -/

section

variable {options : ScanOptions} {scan : Scan}

theorem Change.mem_ended {raw : String} {after : Scan} (hchange : Change options raw scan after)
    {s : Section} (hs : s ∈ scan.ended) : s ∈ after.ended := by
  cases hchange with
  | blockLine =>
    rw [afterBlockLine_ended]
    rcases fetched_cases scan (scan.wordsOf raw) with hsame | ⟨t, cursor, -, -, -, -, hfetch⟩
    · rw [hsame]
      exact hs
    · rw [hfetch]
      exact hs
  | openSection => exact List.mem_append_left _ hs
  | closeSection => exact List.mem_append_left _ hs
  | skip => exact hs
  | member => exact hs
  | openBlock => exact hs
  | call => exact hs
  | condition => exact hs

/-- An ended section is never touched again. -/
theorem mem_ended_readLines {s : Section} (lines : List String) (hs : s ∈ scan.ended) :
    s ∈ (readLines options scan lines).value.ended := by
  refine readLines_induction (fun scan => s ∈ scan.ended) ?_ ?_ lines scan hs
  · intro scan raw h
    unfold entered
    exact h
  · intro scan raw after h hchange
    exact hchange.mem_ended h

/-- A section that has ended is found. -/
theorem mem_sections_of_mem_ended {s : Section} (lines : List String) (hs : s ∈ scan.ended) :
    s ∈ (readLines options scan lines).value.finish.value.sections := by
  rw [finish_value]
  exact List.mem_append_left _ (mem_ended_readLines lines hs)

end

end Scan

end CobolAtlas
