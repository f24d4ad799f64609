import CobolAtlas.Proofs.FormattedLine
import CobolAtlas.Proofs.Scan.Ownership
import CobolAtlas.Proofs.Sql.Text

/-!
# The text of a statement and the lines of its block

A block opens at a line `EXEC SQL`, stays open over the lines behind it and closes at a line with
`END-EXEC` (`BlockLines`). Lines of a block pass the same test as all other lines before anything is
read from them: a line whose first word starts with an asterisk, or is boilerplate of the division,
is passed over. So the text of the statement is made of the words of the lines that are read, and it
is the whole text of the block if and only if every line that is neither blank nor a comment is
read.
-/

namespace CobolAtlas

/-- No division but the procedure division comes behind the data division. -/
theorem Division.advance_of_code {division : Division}
    (h : division = .data ∨ division = .procedure) (words : List String) :
    division.advance words = .data ∨ division.advance words = .procedure := by
  rcases h with rfl | rfl
  · unfold advance
    split
    · rename_i next _
      cases next <;> simp [rank]
    · exact .inl rfl
  · exact .inr (advance_procedure words)

/-- The text and the line of a statement, which stay once it is recorded. -/
def Statement.entry (statement : Statement) : String × Nat :=
  (statement.text, statement.line)

namespace Scan

/-! ### Recorded statements -/

theorem fetched_entries (scan : Scan) (words : List String) :
    (scan.fetched words).statements.map Statement.entry =
      scan.statements.map Statement.entry := by
  rcases fetched_cases scan words with hsame | ⟨s, cursor, _, _, _, _, hfetch⟩
  · rw [hsame]
  · rw [hfetch]
    exact map_withOwner Statement.entry (fun _ _ => rfl) scan.statements cursor s.name

theorem fetched_division (scan : Scan) (words : List String) :
    (scan.fetched words).division = scan.division := by
  rcases fetched_cases scan words with hsame | ⟨s, cursor, _, _, _, _, hfetch⟩
  · rw [hsame]
  · rw [hfetch]

/-- A line records at most one statement, and it stands at that line. -/
theorem Change.entries {options : ScanOptions} {raw : String} {scan after : Scan}
    (hchange : Change options raw scan after) :
    ∃ new, after.statements.map Statement.entry = scan.statements.map Statement.entry ++ new ∧
      ∀ entry ∈ new, entry.2 = scan.line + 1 := by
  have hsame : ∀ statements, statements = scan.statements →
      ∃ new, statements.map Statement.entry = scan.statements.map Statement.entry ++ new ∧
        ∀ entry ∈ new, entry.2 = scan.line + 1 := by
    rintro _ rfl
    exact ⟨[], by simp, by simp⟩
  cases hchange with
  | blockLine block =>
    rcases hline : (block.readLine options.tokenizer (scan.wordsOf raw) (Line.isContinuation raw)
        scan.owner (scan.line + 1)).value with next | statement
    · exact ⟨[], by simp [afterBlockLine, fetched_entries], by simp⟩
    · refine ⟨statement.toList.map Statement.entry, by simp [afterBlockLine, fetched_entries], ?_⟩
      intro entry hentry
      obtain ⟨recorded, hrecorded, rfl⟩ := List.mem_map.mp hentry
      obtain rfl := Option.mem_toList.mp hrecorded
      exact (Sql.Block.readLine_closed hline).2.2
  | skip => exact hsame _ rfl
  | member => exact hsame _ rfl
  | openBlock => exact hsame _ rfl
  | openSection => exact hsame _ rfl
  | closeSection => exact hsame _ rfl
  | call => exact hsame _ rfl
  | condition => exact hsame _ rfl

/-- Later lines keep the statements that are recorded and record others behind them. -/
theorem readLines_entries (options : ScanOptions) (lines : List String) (scan : Scan) :
    ∃ new, (readLines options scan lines).value.statements.map Statement.entry =
        scan.statements.map Statement.entry ++ new ∧
      ∀ entry ∈ new, scan.line < entry.2 := by
  -- the number of the line keeps what comes later behind the line of `scan`
  let Inv : Scan → Prop := fun later => scan.line ≤ later.line ∧
    ∃ new, later.statements.map Statement.entry = scan.statements.map Statement.entry ++ new ∧
      ∀ entry ∈ new, scan.line < entry.2
  have hrun : Inv (readLines options scan lines).value := by
    refine readLines_induction Inv ?_ ?_ lines scan ⟨Nat.le_refl _, [], by simp, by simp⟩
    · intro later raw hlater
      simp only [Inv, entered_line, entered_statements]
      exact hlater
    · rintro later raw after ⟨hle, old, hold, hpast⟩ hchange
      obtain ⟨new, hnew, hnow⟩ := hchange.entries
      simp only [Inv, passed_line, passed_statements]
      refine ⟨Nat.le_succ_of_le hle, old ++ new, ?_, ?_⟩
      · rw [hnew, hold, List.append_assoc]
      · intro entry hentry
        rcases List.mem_append.mp hentry with hentry | hentry
        · exact hpast entry hentry
        · rw [hnow entry hentry]
          exact Nat.lt_succ_of_le hle
  exact hrun.2

/-! ### A line of an open block -/

/-- In an open block the words go to the block, in either division that reads SQL. -/
theorem readWords_of_block (options : ScanOptions) {scan : Scan} {block : Sql.Block}
    (hblock : scan.block = some block)
    (hdivision : scan.division = .data ∨ scan.division = .procedure) (words : List String)
    (continued : Bool) (line : Nat) :
    (scan.readWords options words continued line).value =
      (scan.fetched words).afterBlockLine
        (block.readLine options.tokenizer words continued scan.owner line).value := by
  unfold readWords
  rw [hblock]
  rcases hdivision with hdivision | hdivision
  · rw [hdivision]
    simp only [readBlock_value, fetched, hdivision]
  · rw [hdivision]
    exact readProcedureBlock_value options scan block words continued line hdivision

/-- Whether a line of a block is read and not passed over, the block being in a division so far. -/
def reads (division : Division) (raw : String) : Bool :=
  (division.advance (Line.sqlWords raw)).isStructural (Line.sqlWords raw)

/-- The words that are read of a line of a block. -/
def wordsRead (division : Division) (raw : String) : List String :=
  if reads division raw then Text.filled (Line.sqlWords raw) else []

/-- A block is open that has collected some words, and some statements are recorded. -/
structure Collects (scan : Scan) (division : Division) (words : List String)
    (entries : List (String × Nat)) : Prop where
  division_eq : scan.division = division
  code : division = .data ∨ division = .procedure
  block_eq : ∃ block, scan.block = some block ∧ block.text = Text.trailed words
  entries_eq : scan.statements.map Statement.entry = entries

section

variable (options : ScanOptions) {scan : Scan} {division : Division} {words : List String}
  {entries : List (String × Nat)} {raw : String}

theorem Collects.wordsOf_eq (h : Collects scan division words entries) (raw : String) :
    scan.wordsOf raw = Line.sqlWords raw := by
  obtain ⟨block, hblock, _⟩ := h.block_eq
  simp [wordsOf, hblock]

/-- The words of a line and the division decide whether it is read at all. -/
theorem Collects.structural_iff (h : Collects scan division words entries) :
    (scan.entered raw).Structural raw ↔
      reads division raw = true := by
  rw [Structural, wordsOf_entered, entered_division, h.wordsOf_eq raw, h.division_eq, reads]

theorem Collects.skipped (h : Collects scan division words entries)
    (hskip : ¬ reads division raw = true) :
    Collects (scan.readLine options raw).value (division.advance (Line.sqlWords raw)) words
      entries := by
  rw [readLine_of_not_structural options (mt h.structural_iff.mp hskip)]
  constructor
  · rw [passed_division, entered_division, h.wordsOf_eq raw, h.division_eq]
  · exact Division.advance_of_code h.code _
  · rw [passed_block, entered_block]
    exact h.block_eq
  · rw [passed_statements, entered_statements]
    exact h.entries_eq

theorem Collects.readLine_value (h : Collects scan division words entries)
    (hread : reads division raw = true)
    (hunbroken : Line.isContinuation raw = false) :
    ∃ block : Sql.Block, block.text = Text.trailed words ∧
      (scan.readLine options raw).value =
        scan.passed raw (((scan.entered raw).fetched (Line.sqlWords raw)).afterBlockLine
          (block.readLine options.tokenizer (Line.sqlWords raw) false (scan.entered raw).owner
            (scan.line + 1)).value) := by
  obtain ⟨block, hblock, htext⟩ := h.block_eq
  refine ⟨block, htext, ?_⟩
  have hdivision : (scan.entered raw).division = .data ∨
      (scan.entered raw).division = .procedure := by
    rw [entered_division, h.division_eq]
    exact Division.advance_of_code h.code _
  rw [readLine_of_structural options (h.structural_iff.mpr hread),
    readWords_of_block options ((entered_block scan raw).trans hblock) hdivision, wordsOf_entered,
    h.wordsOf_eq raw, hunbroken, entered_line]

theorem Collects.entered_entries (h : Collects scan division words entries) (raw : String) :
    ((scan.entered raw).fetched (Line.sqlWords raw)).statements.map Statement.entry = entries := by
  rw [fetched_entries, entered_statements]
  exact h.entries_eq

/-- A line behind which the block is open adds the words that are read. -/
theorem Collects.goesOn (h : Collects scan division words entries)
    (hunbroken : Line.isContinuation raw = false)
    (hopen : (scan.readLine options raw).value.block ≠ none) :
    Collects (scan.readLine options raw).value (division.advance (Line.sqlWords raw))
      (words ++ wordsRead division raw) entries := by
  unfold wordsRead
  by_cases hread : reads division raw = true
  · rw [if_pos hread]
    obtain ⟨block, htext, hvalue⟩ := h.readLine_value options hread hunbroken
    by_cases hcloses : (Line.sqlWords raw).any Sql.closesBlock = true
    · obtain ⟨statement, hline, _⟩ := block.readLine_of_close options.tokenizer
        (scan.entered raw).owner (scan.line + 1) hcloses
      rw [hvalue, hline, passed_block, afterBlockLine_closed_block] at hopen
      exact absurd rfl hopen
    · obtain ⟨next, hline, hnext⟩ := block.readLine_of_open options.tokenizer
        (scan.entered raw).owner (scan.line + 1) (Bool.not_eq_true _ ▸ hcloses)
      rw [hvalue, hline]
      constructor
      · rw [passed_division, afterBlockLine_division, fetched_division, entered_division,
          h.wordsOf_eq raw, h.division_eq]
      · exact Division.advance_of_code h.code _
      · rw [passed_block, afterBlockLine_goesOn_block]
        refine ⟨next, rfl, ?_⟩
        rw [hnext, htext, Text.trailed_append]
      · rw [passed_statements, afterBlockLine_goesOn_statements]
        exact h.entered_entries raw
  · rw [if_neg hread, List.append_nil]
    exact h.skipped options hread

/-- The line that closes the block records the words in front of `END-EXEC` with all others. -/
theorem Collects.closes (h : Collects scan division words entries)
    (hunbroken : Line.isContinuation raw = false)
    (hclosed : (scan.readLine options raw).value.block = none) :
    ∃ new, (scan.readLine options raw).value.statements.map Statement.entry = entries ++ new ∧
      ∀ entry ∈ new, entry.2 = scan.line + 1 ∧ entry.1 = Text.trimEnd (Text.trailed
        (words ++ Text.filled (Sql.beforeEnd (Line.sqlWords raw)))) := by
  by_cases hread : reads division raw = true
  · obtain ⟨block, htext, hvalue⟩ := h.readLine_value options hread hunbroken
    by_cases hcloses : (Line.sqlWords raw).any Sql.closesBlock = true
    · obtain ⟨statement, hline, hstatement⟩ := block.readLine_of_close options.tokenizer
        (scan.entered raw).owner (scan.line + 1) hcloses
      refine ⟨statement.toList.map Statement.entry, ?_, ?_⟩
      · rw [hvalue, hline, passed_statements, afterBlockLine_closed_statements, List.map_append,
          h.entered_entries raw]
      · intro entry hentry
        obtain ⟨recorded, hrecorded, rfl⟩ := List.mem_map.mp hentry
        obtain ⟨hat, hrecordedText⟩ := hstatement recorded (Option.mem_toList.mp hrecorded)
        refine ⟨hat, ?_⟩
        rw [Text.trailed_append, ← htext]
        exact hrecordedText
    · obtain ⟨next, hline, _⟩ := block.readLine_of_open options.tokenizer
        (scan.entered raw).owner (scan.line + 1) (Bool.not_eq_true _ ▸ hcloses)
      rw [hvalue, hline, passed_block, afterBlockLine_goesOn_block] at hclosed
      exact absurd hclosed (by simp)
  · -- a line that is passed over leaves the block open
    obtain ⟨block, hblock, _⟩ := (h.skipped options hread).block_eq
    rw [hblock] at hclosed
    exact absurd hclosed (by simp)

/-- Only a line that opens a block leaves one behind. -/
theorem Change.eq_openBlock {after : Scan} (hchange : Change options raw scan after)
    (hidle : scan.block = none) (hopen : after.block ≠ none) :
    (scan.division = .data ∨ scan.division = .procedure) ∧
      after = scan.openBlock scan.division := by
  cases hchange with
  | openBlock hdivision => exact ⟨hdivision, rfl⟩
  | blockLine block hblock =>
    rw [hidle] at hblock
    exact absurd hblock (by simp)
  | skip => exact absurd hidle hopen
  | member => exact absurd hidle hopen
  | openSection => exact absurd hidle hopen
  | closeSection => exact absurd hidle hopen
  | call => exact absurd hidle hopen
  | condition => exact absurd hidle hopen

theorem collects_of_opened (hidle : scan.block = none)
    (hopen : (scan.readLine options raw).value.block ≠ none) :
    Collects (scan.readLine options raw).value (scan.readLine options raw).value.division []
      (scan.statements.map Statement.entry) := by
  obtain ⟨after, hchange, hvalue⟩ := readLine_change options scan raw
  rw [hvalue, passed_block] at hopen
  obtain ⟨hdivision, hafter⟩ :=
    hchange.eq_openBlock options ((entered_block scan raw).trans hidle) hopen
  rw [hvalue, hafter]
  constructor
  · rfl
  · simp only [passed_division, openBlock]
    exact hdivision
  · refine ⟨{ division := (scan.entered raw).division }, ?_, Text.trailed_nil.symm⟩
    rw [passed_block, openBlock]
  · rw [passed_statements, openBlock, entered_statements]

end

/-! ### All lines of a block -/

/-- The words of the lines of a block that are read, from the division of the first line on. -/
def allRead : Division → List String → List String
  | _, [] => []
  | division, raw :: rest =>
    wordsRead division raw ++ allRead (division.advance (Line.sqlWords raw)) rest

/-- The words of a line of a block, of which a comment has none. -/
def lineWords (raw : String) : List String :=
  if Line.indicator raw = some '*' then [] else Text.filled (Line.sqlWords raw)

/-- Every line that has words is read. -/
def ReadsEvery : Division → List String → Prop
  | _, [] => True
  | division, raw :: rest =>
    (lineWords raw ≠ [] → reads division raw = true) ∧
      ReadsEvery (division.advance (Line.sqlWords raw)) rest

/-- Run lemma: a block collects the words of its lines until one closes it. -/
theorem Collects.readLines {options : ScanOptions} {scan : Scan} {division : Division}
    {words : List String} {entries : List (String × Nat)}
    (h : Collects scan division words entries) (lines : List String)
    (hunbroken : ∀ raw ∈ lines, Line.isContinuation raw = false)
    (hopen : ∀ n ≤ lines.length, (readLines options scan (lines.take n)).value.block ≠ none) :
    ∃ last, Collects (Scan.readLines options scan lines).value last
      (words ++ allRead division lines) entries := by
  induction lines generalizing scan division words with
  | nil => exact ⟨division, by simpa [allRead] using h⟩
  | cons raw rest ih =>
    rw [readLines_cons_value, allRead, ← List.append_assoc]
    have hnext := h.goesOn options (hunbroken raw List.mem_cons_self)
      (by simpa using hopen 1 (by simp))
    apply ih hnext
    · intro line hline
      exact hunbroken line (List.mem_cons_of_mem raw hline)
    · intro n hn
      simpa using hopen (n + 1) (by simpa using hn)

theorem exists_of_mem_allRead {division : Division} {lines : List String} {w : String}
    (h : w ∈ allRead division lines) : ∃ raw ∈ lines, w ∈ Text.filled (Line.sqlWords raw) := by
  induction lines generalizing division with
  | nil => exact absurd h List.not_mem_nil
  | cons raw rest ih =>
    rcases List.mem_append.mp h with h | h
    · refine ⟨raw, List.mem_cons_self, ?_⟩
      unfold wordsRead at h
      split at h
      · exact h
      · exact absurd h List.not_mem_nil
    · obtain ⟨line, hline, hw⟩ := ih h
      exact ⟨line, List.mem_cons_of_mem raw hline, hw⟩

theorem lineWords_subset (raw : String) :
    lineWords raw ⊆ Text.filled (Line.sqlWords raw) := by
  unfold lineWords
  split
  · exact List.nil_subset _
  · exact List.Subset.refl _

/-- A comment is not read. -/
theorem lineWords_of_reads {division : Division} {raw : String} (h : reads division raw = true) :
    lineWords raw = Text.filled (Line.sqlWords raw) := by
  apply if_neg
  intro hcomment
  rw [reads, Line.isStructural_of_comment hcomment] at h
  exact absurd h Bool.false_ne_true

theorem wordsRead_eq (division : Division) (raw : String) :
    wordsRead division raw = if reads division raw then lineWords raw else [] := by
  unfold wordsRead
  by_cases hread : reads division raw = true
  · rw [if_pos hread, if_pos hread, lineWords_of_reads hread]
  · rw [if_neg hread, if_neg hread]

theorem length_wordsRead_le (division : Division) (raw : String) :
    (wordsRead division raw).length ≤ (lineWords raw).length := by
  rw [wordsRead_eq]
  split
  · exact Nat.le_refl _
  · exact Nat.zero_le _

/-- A line loses its words exactly when it has some and is not read. -/
theorem wordsRead_eq_iff (division : Division) (raw : String) :
    wordsRead division raw = lineWords raw ↔ (lineWords raw ≠ [] → reads division raw = true) := by
  rw [wordsRead_eq]
  by_cases hread : reads division raw = true
  · simp [hread]
  · rw [if_neg hread]
    constructor
    · intro hnone hwords
      exact absurd hnone.symm hwords
    · intro hall
      by_contra hwords
      exact hread (hall (Ne.symm hwords))

theorem length_allRead_le (division : Division) (lines : List String) :
    (allRead division lines).length ≤ (lines.flatMap lineWords).length := by
  induction lines generalizing division with
  | nil => exact Nat.le_refl _
  | cons raw rest ih =>
    rw [allRead, List.flatMap_cons, List.length_append, List.length_append]
    exact Nat.add_le_add (length_wordsRead_le division raw) (ih _)

/-- Nothing is lost exactly if every line is read: a line that is passed over makes the words
fewer, and no other line makes up for them. -/
theorem allRead_eq_iff (division : Division) (lines : List String) :
    allRead division lines = lines.flatMap lineWords ↔ ReadsEvery division lines := by
  induction lines generalizing division with
  | nil => exact ⟨fun _ => trivial, fun _ => rfl⟩
  | cons raw rest ih =>
    rw [allRead, List.flatMap_cons, ReadsEvery, ← ih, ← wordsRead_eq_iff]
    constructor
    · intro heq
      have hfirst := length_wordsRead_le division raw
      have hrest := length_allRead_le (division.advance (Line.sqlWords raw)) rest
      have hlength := congrArg List.length heq
      rw [List.length_append, List.length_append] at hlength
      exact List.append_inj heq (by omega)
    · rintro ⟨hfirst, hrest⟩
      rw [hfirst, hrest]

/-- The lines of a program around and inside a block that the scan opens and closes. -/
structure BlockLines (options : ScanOptions) (lines : List String) where
  before : List String
  opening : String
  body : List String
  closing : String
  after : List String
  lines_eq : lines = before ++ opening :: (body ++ closing :: after)
  idle : (readLines options {} before).value.block = none
  stays_open : ∀ n ≤ body.length,
    (readLines options {} (before ++ opening :: body.take n)).value.block ≠ none
  closed : (readLines options {} (before ++ opening :: (body ++ [closing]))).value.block = none

namespace BlockLines

variable {options : ScanOptions} {lines : List String} (block : BlockLines options lines)

/-- The number of the line with `END-EXEC`. -/
def lastLine : Nat :=
  block.before.length + block.body.length + 2

/-- The division in which the block opens. -/
def division : Division :=
  (readLines options {} (block.before ++ [block.opening])).value.division

/-- The words in front of `END-EXEC` on its line. -/
def lastWords : List String :=
  Text.filled (Sql.beforeEnd (Line.sqlWords block.closing))

/-- The words of the block that are read. -/
def words : List String :=
  allRead block.division block.body ++ block.lastWords

/-- All words between `EXEC SQL` and `END-EXEC`, comment lines apart. -/
def wholeWords : List String :=
  block.body.flatMap lineWords ++ block.lastWords

/-- No line of the block continues the one above. -/
def Unbroken : Prop :=
  ∀ raw ∈ block.body ++ [block.closing], Line.isContinuation raw = false

/-- In front of the last line the block has collected what is read of the others, and no statement
was recorded since it opened. -/
theorem collects (hunbroken : block.Unbroken) :
    ∃ last, Collects
      (readLines options {} (block.before ++ block.opening :: block.body)).value last
      (allRead block.division block.body)
      ((readLines options {} block.before).value.statements.map Statement.entry) := by
  have hopen := block.stays_open
  simp only [readLines_append_value, readLines_cons_value] at hopen ⊢
  have hfirst : ((readLines options {} block.before).value.readLine options
      block.opening).value.block ≠ none := by
    simpa only [List.take_zero, readLines_nil_value] using hopen 0 (Nat.zero_le _)
  have hopened := collects_of_opened options block.idle hfirst
  have hdivision : ((readLines options {} block.before).value.readLine options
      block.opening).value.division = block.division := by
    simp only [division, readLines_append_value, readLines_cons_value, readLines_nil_value]
  rw [hdivision] at hopened
  apply hopened.readLines block.body
  · intro raw hraw
    exact hunbroken raw (List.mem_append_left _ hraw)
  · exact hopen

/-- The statement that is recorded at the last line has the words that are read. -/
theorem text_eq (hunbroken : block.Unbroken) {statement : Statement}
    (hmem : statement ∈ (readLines options {} lines).value.statements)
    (hline : statement.line = block.lastLine) :
    statement.text = Text.trimEnd (Text.trailed block.words) := by
  obtain ⟨last, hcollects⟩ := block.collects hunbroken
  have hclosed := block.closed
  have hentry : statement.entry ∈
      (readLines options {} lines).value.statements.map Statement.entry :=
    List.mem_map_of_mem hmem
  have hsplit : lines =
      (block.before ++ block.opening :: block.body) ++ block.closing :: block.after :=
    block.lines_eq.trans (by rw [List.append_assoc, List.cons_append])
  rw [← List.cons_append, ← List.append_assoc, readLines_append_value, readLines_cons_value,
    readLines_nil_value] at hclosed
  rw [hsplit, readLines_append_value, readLines_cons_value] at hentry
  obtain ⟨new, hnew, hnow⟩ :=
    hcollects.closes options (hunbroken block.closing (by simp)) hclosed
  obtain ⟨later, hlater, hpast⟩ := readLines_entries options block.after
    ((readLines options {} (block.before ++ block.opening :: block.body)).value.readLine options
      block.closing).value
  rw [hlater, hnew] at hentry
  have hnumber : (readLines options {} block.before).value.line = block.before.length := by
    simp [readLines_line]
  rcases List.mem_append.mp hentry with hentry | hentry
  · rcases List.mem_append.mp hentry with hentry | hentry
    · -- recorded in front of the block
      obtain ⟨old, hold, heq⟩ := List.mem_map.mp hentry
      have hle := (readLines_owned options block.before).line_le old hold
      have hsame : old.line = statement.line := congrArg Prod.snd heq
      rw [hnumber, hsame, hline, lastLine] at hle
      omega
    · exact (hnow _ hentry).2
  · -- recorded behind the block
    have hlt := hpast _ hentry
    obtain ⟨after, _, hvalue⟩ := readLine_change options
      (readLines options {} (block.before ++ block.opening :: block.body)).value block.closing
    rw [hvalue, passed_line] at hlt
    have hlast :
        (readLines options {} (block.before ++ block.opening :: block.body)).value.line + 1 =
          block.lastLine := by
      simp only [readLines_line, List.length_append, List.length_cons, lastLine]
      omega
    rw [hlast, ← hline] at hlt
    exact absurd hlt (Nat.lt_irrefl _)

theorem mem_of_mem_words {w : String} (h : w ∈ block.words ∨ w ∈ block.wholeWords) :
    w ≠ "" ∧ ∃ raw ∈ block.body ++ [block.closing], w ∈ Line.sqlWords raw := by
  have hlast : w ∈ block.lastWords →
      w ≠ "" ∧ ∃ raw ∈ block.body ++ [block.closing], w ∈ Line.sqlWords raw := by
    intro hw
    obtain ⟨hmem, hne⟩ := Text.mem_filled hw
    exact ⟨hne, block.closing, by simp, List.takeWhile_subset _ hmem⟩
  have hbody : ∀ raw ∈ block.body, w ∈ Text.filled (Line.sqlWords raw) →
      w ≠ "" ∧ ∃ raw ∈ block.body ++ [block.closing], w ∈ Line.sqlWords raw := by
    intro raw hraw hw
    obtain ⟨hmem, hne⟩ := Text.mem_filled hw
    exact ⟨hne, raw, List.mem_append_left _ hraw, hmem⟩
  rcases h with h | h
  · rcases List.mem_append.mp h with h | h
    · obtain ⟨raw, hraw, hw⟩ := exists_of_mem_allRead h
      exact hbody raw hraw hw
    · exact hlast h
  · rcases List.mem_append.mp h with h | h
    · obtain ⟨raw, hraw, hw⟩ := List.mem_flatMap.mp h
      exact hbody raw hraw (lineWords_subset raw hw)
    · exact hlast h

theorem separate {w : String} (h : w ∈ block.words ∨ w ∈ block.wholeWords) :
    w ≠ "" ∧ ' ' ∉ w.toList := by
  obtain ⟨hne, raw, _, hmem⟩ := block.mem_of_mem_words h
  exact ⟨hne, (Text.mem_words hmem).1⟩

theorem trimEnd_trailed_words (hunbroken : block.Unbroken) :
    Text.trimEnd (Text.trailed block.words) = Text.unwords block.words := by
  apply Text.trimEnd_trailed
  intro w hw
  obtain ⟨hne, raw, hraw, hmem⟩ := block.mem_of_mem_words (.inl hw)
  rw [Line.sqlWords_eq (hunbroken raw hraw)] at hmem
  exact ⟨hne, Line.endsSolid_of_mem_areaWords hmem⟩

/-- The text is the whole text exactly when every line with words was read. -/
theorem unwords_eq_iff :
    Text.unwords block.words = Text.unwords block.wholeWords ↔
      ReadsEvery block.division block.body := by
  rw [← allRead_eq_iff]
  constructor
  · intro heq
    have hwords := Text.unwords_inj (fun w hw => block.separate (.inl hw))
      (fun w hw => block.separate (.inr hw)) heq
    exact List.append_cancel_right hwords
  · intro hread
    rw [words, wholeWords, hread]

end BlockLines

end Scan

/-- **The text of a statement.** The statement of a block without continued lines has the words of
the lines that are read. These are all words between `EXEC SQL` and `END-EXEC`, comment lines apart,
if and only if every line that is neither blank nor a comment is read in its division. -/
theorem Source.scan_text_whole_iff (source : Source) (options : ScanOptions)
    (block : Scan.BlockLines options source.lines) (hunbroken : block.Unbroken)
    {statement : Statement} (hmem : statement ∈ (source.scan options).value.statements)
    (hline : statement.line = block.lastLine) :
    statement.text = Text.unwords block.words ∧
      (statement.text = Text.unwords block.wholeWords ↔
        Scan.ReadsEvery block.division block.body) := by
  simp only [Source.scan, Logged.value_bind, Scan.finish_value] at hmem
  have htext : statement.text = Text.unwords block.words := by
    rw [block.text_eq hunbroken hmem hline, block.trimEnd_trailed_words hunbroken]
  refine ⟨htext, ?_⟩
  rw [htext]
  exact block.unwords_eq_iff

/-- A query whose second line starts with an asterisk behind a blank indicator. -/
def splitSelect : Source :=
  ⟨"ORDERS.cbl",
    ["       PROCEDURE DIVISION.",
      "       MAIN SECTION.",
      "           EXEC SQL",
      "             SELECT",
      "             * INTO :REC FROM ORDERS",
      "             WHERE ID = 1 END-EXEC.",
      "           EXIT."]⟩

def splitSelectBlock : Scan.BlockLines {} splitSelect.lines where
  before := ["       PROCEDURE DIVISION.", "       MAIN SECTION."]
  opening := "           EXEC SQL"
  body := ["             SELECT", "             * INTO :REC FROM ORDERS"]
  closing := "             WHERE ID = 1 END-EXEC."
  after := ["           EXIT."]
  lines_eq := rfl
  idle := by decide +kernel
  stays_open := by decide +kernel
  closed := by decide +kernel

theorem splitSelectBlock_unbroken : splitSelectBlock.Unbroken := by
  unfold Scan.BlockLines.Unbroken
  decide +kernel

theorem splitSelect_statement :
    ∃ statement ∈ (splitSelect.scan {}).value.statements,
      statement.line = splitSelectBlock.lastLine ∧ statement.text = "SELECT WHERE ID = 1" := by
  have hentries : (splitSelect.scan {}).value.statements.map Statement.entry =
      [("SELECT WHERE ID = 1", 6)] := by decide +kernel
  have hentry : ("SELECT WHERE ID = 1", 6) ∈
      (splitSelect.scan {}).value.statements.map Statement.entry := by
    rw [hentries]
    exact List.mem_singleton.mpr rfl
  obtain ⟨statement, hmem, heq⟩ := List.mem_map.mp hentry
  exact ⟨statement, hmem, congrArg Prod.snd heq, congrArg Prod.fst heq⟩

theorem splitSelect_text_read :
    splitSelectBlock.Unbroken ∧ ∃ statement ∈ (splitSelect.scan {}).value.statements,
      statement.line = splitSelectBlock.lastLine ∧
        statement.text = Text.unwords splitSelectBlock.words ∧
          (statement.text = Text.unwords splitSelectBlock.wholeWords ↔
            Scan.ReadsEvery splitSelectBlock.division splitSelectBlock.body) := by
  obtain ⟨statement, hmem, hline, _⟩ := splitSelect_statement
  exact ⟨splitSelectBlock_unbroken, statement, hmem, hline,
    Source.scan_text_whole_iff splitSelect {} splitSelectBlock splitSelectBlock_unbroken hmem hline⟩

theorem splitSelect_loses_line :
    splitSelectBlock.Unbroken ∧ ∃ statement ∈ (splitSelect.scan {}).value.statements,
      statement.line = splitSelectBlock.lastLine ∧
        statement.text ≠ Text.unwords splitSelectBlock.wholeWords := by
  obtain ⟨statement, hmem, hline, htext⟩ := splitSelect_statement
  refine ⟨splitSelectBlock_unbroken, statement, hmem, hline, ?_⟩
  have hwhole : Text.unwords splitSelectBlock.wholeWords =
      "SELECT * INTO :REC FROM ORDERS WHERE ID = 1" := by decide +kernel
  rw [htext, hwhole]
  decide

end CobolAtlas
