import CobolAtlas.Proofs.Scan.Action
import CobolAtlas.Proofs.Scan.Ownership

/-!
# What an embedded block leaves alone

The lines of an open block share their words with everything else that a scan looks for: an SQL text
may hold `SECTION`, `EXIT`, `CALL`, `COPY`, `WHEN` and `ELSE`, and the header of a division. None of
these words does there what it does outside. `BlockFrame` says what the lines of a block may change
(the division, the cursors of the open section, the owners of declared cursors, and one statement at
the end) and that all else is as it was; the frames of consecutive lines compose
(`BlockFrame.trans`), because only the line that closes the block records a statement.
-/

namespace CobolAtlas

/-- No header takes a scan back to an earlier division. -/
theorem Division.rank_le_advance (division : Division) (words : List String) :
    division.rank ≤ (division.advance words).rank := by
  unfold advance
  split
  · split
    · apply Nat.le_of_lt
      assumption
    · exact Nat.le_refl _
  · exact Nat.le_refl _

/-- The section with more cursors behind those that it has. -/
def Section.withMore (s : Section) (more : List String) : Section :=
  { s with cursors := s.cursors ++ more }

theorem Section.withMore_nil (s : Section) : s.withMore [] = s := by
  rw [withMore, List.append_nil]

theorem Section.addFetch_eq_withMore (s : Section) (cursor : String) :
    ∃ more, s.addFetch cursor = s.withMore more := by
  unfold addFetch
  split
  · exact ⟨[], s.withMore_nil.symm⟩
  · exact ⟨[cursor], rfl⟩

/-- The statement as it is after fetches by `owner`: a declaration of a cursor may have a new owner,
and nothing else differs. -/
def Statement.Given (owner : String) (old new : Statement) : Prop :=
  new = old ∨ old.declaresCursor = true ∧ new = { old with owner := owner }

theorem Statement.Given.trans {owner : String} {a b c : Statement} (h : a.Given owner b)
    (h' : b.Given owner c) : a.Given owner c := by
  rcases h with rfl | ⟨hdeclares, rfl⟩
  · exact h'
  · rcases h' with rfl | ⟨_, rfl⟩
    · exact .inr ⟨hdeclares, rfl⟩
    · exact .inr ⟨hdeclares, rfl⟩

namespace Scan

/-! ### Frames -/

/-- From one state to the other only what SQL is about has changed: some cursors of the open section
are new, some declarations have the open section as their owner, at most one statement is recorded,
and the division is the same or a later one. -/
structure BlockFrame (scan : Scan) (new : Option Statement) (after : Scan) : Prop where
  conditions_eq : after.conditions = scan.conditions
  ended_eq : after.ended = scan.ended
  members_eq : after.members = scan.members
  calledModules_eq : after.calledModules = scan.calledModules
  division_le : scan.division.rank ≤ after.division.rank
  current_eq : ∃ more, after.current = scan.current.map (·.withMore more)
  statements_eq : ∃ given : Statement → Statement,
    (∀ statement : Statement, statement.Given scan.owner (given statement)) ∧
      after.statements = scan.statements.map given ++ new.toList

variable {options : ScanOptions} {scan mid after : Scan} {new : Option Statement}

theorem BlockFrame.refl (scan : Scan) : BlockFrame scan none scan where
  conditions_eq := rfl
  ended_eq := rfl
  members_eq := rfl
  calledModules_eq := rfl
  division_le := Nat.le_refl _
  current_eq := by
    refine ⟨[], ?_⟩
    simp only [Section.withMore_nil, Option.map_id']
  statements_eq := by
    refine ⟨id, ?_, ?_⟩
    · intro statement
      exact .inl rfl
    · rw [List.map_id, Option.toList_none, List.append_nil]

theorem BlockFrame.owner_eq (h : BlockFrame scan new after) : after.owner = scan.owner := by
  obtain ⟨more, hcurrent⟩ := h.current_eq
  rw [owner, owner, hcurrent]
  cases scan.current with
  | none => rfl
  | some s => rfl

/-- Lines of one block in a row, of which only the last one may record a statement. -/
theorem BlockFrame.trans (h : BlockFrame scan none mid) (h' : BlockFrame mid new after) :
    BlockFrame scan new after where
  conditions_eq := h'.conditions_eq.trans h.conditions_eq
  ended_eq := h'.ended_eq.trans h.ended_eq
  members_eq := h'.members_eq.trans h.members_eq
  calledModules_eq := h'.calledModules_eq.trans h.calledModules_eq
  division_le := Nat.le_trans h.division_le h'.division_le
  current_eq := by
    obtain ⟨more, hmid⟩ := h.current_eq
    obtain ⟨later, hafter⟩ := h'.current_eq
    refine ⟨more ++ later, ?_⟩
    rw [hafter, hmid, Option.map_map]
    congr 1
    funext s
    simp only [Function.comp_apply, Section.withMore, List.append_assoc]
  statements_eq := by
    obtain ⟨given, hgiven, hmid⟩ := h.statements_eq
    obtain ⟨later, hlater, hafter⟩ := h'.statements_eq
    refine ⟨later ∘ given, ?_, ?_⟩
    · intro statement
      apply (hgiven statement).trans
      rw [← h.owner_eq]
      exact hlater (given statement)
    · rw [hafter, hmid, Option.toList_none, List.append_nil, List.map_map]

/-! ### One line -/

theorem blockFrame_withDivision {division : Division}
    (hrank : scan.division.rank ≤ division.rank) :
    BlockFrame scan none { scan with division := division } :=
  { BlockFrame.refl scan with division_le := hrank }

theorem blockFrame_entered (scan : Scan) (raw : String) :
    BlockFrame scan none (scan.entered raw) :=
  blockFrame_withDivision (scan.division.rank_le_advance _)

theorem BlockFrame.passed (h : BlockFrame scan new after) (before : Scan) (raw : String) :
    BlockFrame scan new (before.passed raw after) :=
  { h with }

/-- A fetch gives the declaration of its cursor an owner and adds the cursor to the section. -/
theorem blockFrame_fetched (scan : Scan) (words : List String) :
    BlockFrame scan none (scan.fetched words) := by
  rcases fetched_cases scan words with hsame | ⟨s, cursor, hcurrent, _, _, _, hfetch⟩
  · rw [hsame]
    exact .refl scan
  · have howner : scan.owner = s.name := by
      rw [owner, hcurrent]
    obtain ⟨more, hmore⟩ := s.addFetch_eq_withMore cursor
    have hrefl := BlockFrame.refl scan
    rw [hfetch]
    let given : Statement → Statement := fun statement =>
      if statement.declares cursor then { statement with owner := s.name } else statement
    refine { hrefl with current_eq := ⟨more, ?_⟩, statements_eq := ⟨given, ?_, ?_⟩ }
    · rw [hcurrent, Option.map_some, hmore]
    · intro statement
      by_cases hdeclares : statement.declares cursor = true
      · right
        refine ⟨?_, ?_⟩
        · simp only [Statement.declares, Bool.and_eq_true, decide_eq_true_eq] at hdeclares
          simp only [Statement.declaresCursor, hdeclares, decide_true, Option.isSome_some,
            Bool.and_self]
        · rw [howner]
          exact if_pos hdeclares
      · left
        exact if_neg hdeclares
    · rw [withOwner, Option.toList_none, List.append_nil]

/-- The statement that a line of a block records. -/
def recordedBy : Sql.BlockLine → Option Statement
  | .goesOn _ => none
  | .closed statement => statement

theorem BlockFrame.afterBlockLine (h : BlockFrame scan none mid) (line : Sql.BlockLine) :
    BlockFrame scan (recordedBy line) (mid.afterBlockLine line) := by
  cases line with
  | goesOn block => exact { h with }
  | closed statement =>
    obtain ⟨given, hgiven, hmid⟩ := h.statements_eq
    refine { h with statements_eq := ⟨given, hgiven, ?_⟩ }
    rw [Option.toList_none, List.append_nil] at hmid
    rw [afterBlockLine_closed_statements, hmid]
    rfl

/-- A statement is recorded at the last line that was read, for the open section, and only if that
line has closed the block. -/
structure RecordedLast (scan : Scan) (new : Option Statement) (after : Scan) : Prop where
  closed : after.block ≠ none → new = none
  line_eq : ∀ statement, new = some statement → statement.line = after.line
  owner_eq : ∀ statement, new = some statement → statement.owner = scan.owner

theorem RecordedLast.of_none (scan after : Scan) : RecordedLast scan none after := by
  constructor
  · intro _
    rfl
  · simp
  · simp

/-- Step lemma: one line of an open block stays inside the frame. -/
theorem readOpenBlock_frame (options : ScanOptions) {block : Sql.Block}
    (hblock : scan.block = some block) (raw : String) (before : Scan)
    (hline : before.line = scan.line) :
    ∃ new, BlockFrame scan new (before.passed raw (scan.readOpenBlock options raw)) ∧
      RecordedLast scan new (before.passed raw (scan.readOpenBlock options raw)) := by
  simp only [readOpenBlock, hblock]
  have hfetched := blockFrame_fetched scan (scan.wordsOf raw)
  rcases hread : (block.readLine options.tokenizer (scan.wordsOf raw) (Line.isContinuation raw)
      scan.owner (scan.line + 1)).value with goesOn | _ | statement
  · exact ⟨none, (hfetched.afterBlockLine (.goesOn goesOn)).passed before raw, .of_none _ _⟩
  · exact ⟨none, (hfetched.afterBlockLine (.closed none)).passed before raw, .of_none _ _⟩
  · obtain ⟨_, howner, hat⟩ := Sql.Block.readLine_closed hread
    refine ⟨some statement, (hfetched.afterBlockLine (.closed (some statement))).passed before raw,
      ?_, ?_, ?_⟩
    · intro hopen
      rw [passed_block] at hopen
      exact absurd (afterBlockLine_closed_block _ _) hopen
    · rintro _ ⟨⟩
      rw [passed_line, hline]
      exact hat
    · rintro _ ⟨⟩
      exact howner

/-- The same for the step of the scan, with the division word that the line may hold. -/
theorem readLine_frame (options : ScanOptions) (hopen : scan.block ≠ none) (raw : String) :
    ∃ new, BlockFrame scan new (scan.readLine options raw).value ∧
      RecordedLast scan new (scan.readLine options raw).value := by
  have hentered := blockFrame_entered scan raw
  have hentered_open : (scan.entered raw).block ≠ none := by
    rw [entered_block]
    exact hopen
  rw [readLine_perform]
  rcases action_of_block options hentered_open (scan.wordsOf raw) with haction | haction
  · rw [haction]
    exact ⟨none, hentered.passed scan raw, .of_none _ _⟩
  · rw [haction]
    obtain ⟨block, hblock⟩ := Option.ne_none_iff_exists'.mp hopen
    obtain ⟨new, hframe, hrecorded⟩ := readOpenBlock_frame options
      ((entered_block scan raw).trans hblock) raw scan (entered_line scan raw).symm
    refine ⟨new, hentered.trans hframe, hrecorded.closed, hrecorded.line_eq, ?_⟩
    rw [← hentered.owner_eq]
    exact hrecorded.owner_eq

/-! ### All lines of a block -/

/-- Each of the lines is read while a block is open, so no line but the last can close it. -/
def LinesOfBlock (options : ScanOptions) (scan : Scan) (lines : List String) : Prop :=
  ∀ n < lines.length, (readLines options scan (lines.take n)).value.block ≠ none

theorem LinesOfBlock.tail {raw : String} {rest : List String}
    (h : LinesOfBlock options scan (raw :: rest)) :
    LinesOfBlock options (scan.readLine options raw).value rest := by
  intro n hn
  simpa using h (n + 1) (by simpa using hn)

theorem LinesOfBlock.block_ne_none {raw : String} {rest : List String}
    (h : LinesOfBlock options scan (raw :: rest)) : scan.block ≠ none := by
  simpa using h 0 (by simp)

/-- **A block touches nothing but SQL.** From any state, the lines of a block up to the one that
closes it leave the open section open or closed as it was, with its name, its place and its calls,
and they leave alone the sections that have ended, all open conditions, the copied members and the
called modules. At most one statement is recorded, by the last line, if it closes the block; other
than that, declarations of cursors may get the open section as their owner, the open section may get
more cursors, and the division may be a later one. -/
theorem readLines_block_frame (options : ScanOptions) (scan : Scan) (lines : List String)
    (hlines : LinesOfBlock options scan lines) :
    ∃ new, BlockFrame scan new (readLines options scan lines).value ∧
      RecordedLast scan new (readLines options scan lines).value := by
  induction lines generalizing scan with
  | nil => exact ⟨none, .refl scan, .of_none _ _⟩
  | cons raw rest ih =>
    rw [readLines_cons_value]
    obtain ⟨first, hfirst, hrecorded⟩ := readLine_frame options hlines.block_ne_none raw
    cases rest with
    | nil =>
      rw [readLines_nil_value]
      exact ⟨first, hfirst, hrecorded⟩
    | cons next others =>
      -- the block is still open for the next line, so nothing has been recorded
      obtain rfl : first = none := hrecorded.closed hlines.tail.block_ne_none
      obtain ⟨new, hframe, hlast⟩ := ih _ hlines.tail
      refine ⟨new, hfirst.trans hframe, hlast.closed, hlast.line_eq, ?_⟩
      rw [← hfirst.owner_eq]
      exact hlast.owner_eq

/-- The scan is inside a block of the section `MAIN`, under a condition. A cursor is declared. -/
def orderFetch : Scan :=
  { line := 9
    division := .procedure
    block := some { division := .procedure }
    conditions := { guards := [.condition "A = 1"] }
    current := some (.start "MAIN" "" 7)
    statements := [⟨"DECLARE C1 CURSOR FOR", .none, .data, "", some "C1", [], 4⟩] }

def orderFetchLines : List String :=
  ["             FETCH C1 INTO :REC",
    "             CASE WHEN A THEN B ELSE CALL SECTION",
    "           END-EXEC."]

theorem orderFetch_block_frame :
    LinesOfBlock {} orderFetch orderFetchLines ∧
      ∃ new, BlockFrame orderFetch new (readLines {} orderFetch orderFetchLines).value ∧
        RecordedLast orderFetch new (readLines {} orderFetch orderFetchLines).value := by
  have hlines : LinesOfBlock {} orderFetch orderFetchLines := by
    unfold LinesOfBlock
    decide +kernel
  exact ⟨hlines, readLines_block_frame {} orderFetch orderFetchLines hlines⟩

end Scan

end CobolAtlas
