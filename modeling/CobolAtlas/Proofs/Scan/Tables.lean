import CobolAtlas.Proofs.Scan.Action
import CobolAtlas.Proofs.Scan.Ownership
import Mathlib.Data.List.Forall2

/-!
# What the tokenizer touches

The tokenizer is asked once for each statement, when its block closes, and its answer goes into the
tables of that statement. Nothing else of a scan depends on it, not even after a rejection. The
argument compares no two scans with each other: a scan whose tables are struck out is the scan that
is made with a tokenizer that never finds a table (`readLines_withoutTables`), so that all
tokenizers meet there.
-/

namespace CobolAtlas

namespace Statement

/-- The statement with its tables struck out. -/
def withoutTables (statement : Statement) : Statement :=
  { statement with tables := [] }

/-- Two records of one statement, possibly with different tables. -/
structure SameButTables (statement other : Statement) : Prop where
  text_eq : statement.text = other.text
  operation_eq : statement.operation = other.operation
  division_eq : statement.division = other.division
  owner_eq : statement.owner = other.owner
  cursor_eq : statement.cursor = other.cursor
  line_eq : statement.line = other.line

theorem sameButTables_of_withoutTables {statement other : Statement}
    (h : statement.withoutTables = other.withoutTables) : statement.SameButTables other := by
  unfold withoutTables at h
  injection h with htext hoperation hdivision howner hcursor _ hline
  exact ⟨htext, hoperation, hdivision, howner, hcursor, hline⟩

theorem declares_withoutTables (statement : Statement) (cursor : String) :
    statement.withoutTables.declares cursor = statement.declares cursor := rfl

end Statement

/-! ### Blocks -/

namespace Sql

/-- The tables that a tokenizer finds in a text. -/
def tablesIn (tokenizer : Tokenizer) (text : String) : List String :=
  match tokenizer text with
  | .ok tokens => referencedTables tokens
  | .error _ => []

/-- Finds nothing in any text. -/
def blindTokenizer : Tokenizer :=
  fun _ => .ok []

def BlockLine.withoutTables : BlockLine → BlockLine
  | .goesOn block => .goesOn block
  | .closed statement => .closed (statement.map Statement.withoutTables)

namespace Block

variable (tokenizer : Tokenizer) (block : Block) (owner : String) (line : Nat)

theorem tablesOf_value (text : String) :
    (tablesOf tokenizer owner line text).value = tablesIn tokenizer text := by
  unfold tablesOf tablesIn
  rcases tokenizer text with rejection | tokens
  · rfl
  · rfl

/-- The record of a block. The tables are found in its text and nowhere else. -/
theorem close_value :
    (block.close tokenizer owner line).value =
      if (Text.trimEnd block.text).isEmpty then none
      else some ⟨Text.trimEnd block.text, block.operation, block.division, owner, block.cursor,
        tablesIn tokenizer (Text.trimEnd block.text), line⟩ := by
  unfold close
  by_cases hempty : (Text.trimEnd block.text).isEmpty = true
  · simp [hempty]
  · simp [hempty, tablesOf_value]

/-- The tokenizer decides about the tables alone. -/
theorem close_withoutTables :
    (block.close tokenizer owner line).value.map Statement.withoutTables =
      (block.close blindTokenizer owner line).value := by
  rw [close_value, close_value]
  split
  · rfl
  · rfl

theorem readLine_withoutTables (words : List String) (continued : Bool) :
    (block.readLine tokenizer words continued owner line).value.withoutTables =
      (block.readLine blindTokenizer words continued owner line).value := by
  unfold readLine
  by_cases hcloses : words.any closesBlock = true
  · simp [hcloses, BlockLine.withoutTables, close_withoutTables]
  · simp [hcloses, BlockLine.withoutTables]

/-- The tables of a statement are those in its text. -/
theorem close_tables {statement : Statement}
    (h : (block.close tokenizer owner line).value = some statement) :
    statement.tables = tablesIn tokenizer statement.text := by
  rw [close_value] at h
  split at h
  · exact absurd h (by simp)
  · rw [← Option.some.inj h]

/-- The statement of a block has the tables that the tokenizer finds in its text. -/
theorem readLine_tables {words : List String} {continued : Bool} {statement : Statement}
    (h : (block.readLine tokenizer words continued owner line).value = .closed (some statement)) :
    statement.tables = tablesIn tokenizer statement.text := by
  unfold readLine at h
  by_cases hcloses : words.any closesBlock = true
  · simp only [hcloses, if_true, Logged.value_bind, Logged.value_pure, BlockLine.closed.injEq] at h
    exact close_tables _ _ _ _ h
  · simp [hcloses] at h

end Block

end Sql

/-! ### Scans -/

/-- The options with a tokenizer that never finds a table. -/
def ScanOptions.blind (options : ScanOptions) : ScanOptions :=
  ⟨Sql.blindTokenizer, options.exitSuffix⟩

namespace Scan

/-- The state with the tables of all statements struck out. -/
def withoutTables (scan : Scan) : Scan :=
  { scan with statements := scan.statements.map Statement.withoutTables }

theorem alike_withoutTables (scan : Scan) : Alike scan scan.withoutTables :=
  ⟨rfl, rfl, rfl, rfl⟩

theorem declared_withoutTables (scan : Scan) (cursor : String) :
    scan.withoutTables.declared cursor = scan.declared cursor := by
  unfold declared withoutTables
  rw [List.any_map]
  rfl

theorem withOwner_withoutTables (statements : List Statement) (cursor owner : String) :
    (withOwner statements cursor owner).map Statement.withoutTables =
      withOwner (statements.map Statement.withoutTables) cursor owner := by
  unfold withOwner
  rw [List.map_map, List.map_map]
  apply List.map_congr_left
  intro statement _
  rw [Function.comp_apply, Function.comp_apply, Statement.declares_withoutTables]
  split
  · rfl
  · rfl

theorem fetched_withoutTables (scan : Scan) (words : List String) :
    (scan.fetched words).withoutTables = scan.withoutTables.fetched words := by
  have hsame : scan.withoutTables.fetchOf? words = scan.fetchOf? words := rfl
  rcases hfetch : scan.fetchOf? words with _ | cursor
  · rw [fetched_of_none hfetch, fetched_of_none (hsame.trans hfetch)]
  · rw [fetched_of_some hfetch, fetched_of_some (hsame.trans hfetch), declared_withoutTables]
    unfold withoutTables
    rw [withOwner_withoutTables]
    rfl

theorem afterBlockLine_withoutTables (scan : Scan) (line : Sql.BlockLine) :
    (scan.afterBlockLine line).withoutTables =
      scan.withoutTables.afterBlockLine line.withoutTables := by
  cases line with
  | goesOn block => rfl
  | closed statement =>
    unfold withoutTables
    rw [afterBlockLine_closed_statements, List.map_append]
    cases statement with
    | none => rfl
    | some statement => rfl

theorem readOpenBlock_withoutTables (options : ScanOptions) (scan : Scan) (raw : String) :
    (scan.readOpenBlock options raw).withoutTables =
      scan.withoutTables.readOpenBlock options.blind raw := by
  have hsame : scan.withoutTables.block = scan.block := rfl
  unfold readOpenBlock
  rw [hsame]
  rcases hblock : scan.block with _ | block
  · rfl
  · rw [← Alike.wordsOf_eq scan.alike_withoutTables, ← fetched_withoutTables]
    simp only [afterBlockLine_withoutTables, Sql.Block.readLine_withoutTables]
    rfl

theorem perform_withoutTables (options : ScanOptions) (scan : Scan) (raw : String)
    (action : Action) :
    (scan.perform options raw action).withoutTables =
      scan.withoutTables.perform options.blind raw action := by
  cases action with
  | blockLine => exact readOpenBlock_withoutTables options scan raw
  | skip => rfl
  | copyMember => rfl
  | openBlock => rfl
  | openSection => rfl
  | closeSection => rfl
  | call => rfl
  | condition => rfl

theorem entered_withoutTables (scan : Scan) (raw : String) :
    (scan.entered raw).withoutTables = scan.withoutTables.entered raw := by
  have hdivision : scan.withoutTables.division = scan.division := rfl
  rw [entered, entered, hdivision, ← scan.alike_withoutTables.wordsOf_eq raw]
  rfl

theorem passed_withoutTables (scan : Scan) (raw : String) (after : Scan) :
    (scan.passed raw after).withoutTables = scan.withoutTables.passed raw after.withoutTables := rfl

/-- Step lemma: a scan that finds no tables goes the same way. -/
theorem readLine_withoutTables (options : ScanOptions) (scan : Scan) (raw : String) :
    (scan.readLine options raw).value.withoutTables =
      (scan.withoutTables.readLine options.blind raw).value := by
  have hwords := scan.alike_withoutTables.wordsOf_eq raw
  have haction : (scan.entered raw).withoutTables.action options.blind (scan.wordsOf raw) =
      (scan.entered raw).action options (scan.wordsOf raw) :=
    ((scan.entered raw).alike_withoutTables.action_eq rfl _).symm
  rw [readLine_perform, readLine_perform, ← hwords, ← entered_withoutTables, haction,
    ← perform_withoutTables, passed_withoutTables]

/-- **Reading lines** and striking out the tables is reading them with a tokenizer that never finds
a table. -/
theorem readLines_withoutTables (options : ScanOptions) (scan : Scan) (lines : List String) :
    (readLines options scan lines).value.withoutTables =
      (readLines options.blind scan.withoutTables lines).value := by
  induction lines generalizing scan with
  | nil => rfl
  | cons raw rest ih => rw [readLines_cons_value, readLines_cons_value, ih, readLine_withoutTables]

theorem sections_finish_withoutTables (scan : Scan) :
    scan.withoutTables.finish.value.sections = scan.finish.value.sections := by
  rw [finish_value, finish_value]
  rfl

theorem forall₂_of_withoutTables {statements others : List Statement}
    (h : statements.map Statement.withoutTables = others.map Statement.withoutTables) :
    List.Forall₂ Statement.SameButTables statements others := by
  rw [← List.forall₂_eq_eq_eq, List.forall₂_map_left_iff, List.forall₂_map_right_iff] at h
  apply h.imp
  intro statement other hsame
  exact Statement.sameButTables_of_withoutTables hsame

/-! ### The tables of a statement -/

/-- Every statement has the tables that the tokenizer finds in its text. -/
def TablesFound (tokenizer : Sql.Tokenizer) (statements : List Statement) : Prop :=
  ∀ statement ∈ statements, statement.tables = Sql.tablesIn tokenizer statement.text

theorem TablesFound.fetched {tokenizer : Sql.Tokenizer} {scan : Scan}
    (h : TablesFound tokenizer scan.statements) (words : List String) :
    TablesFound tokenizer (scan.fetched words).statements := by
  rcases fetched_cases scan words with hsame | ⟨s, cursor, _, _, _, _, hfetch⟩
  · rw [hsame]
    exact h
  · rw [hfetch]
    intro statement hst
    obtain ⟨old, hold, rfl⟩ := List.mem_map.mp hst
    split
    · exact h old hold
    · exact h old hold

/-- Step lemma: every statement has the tables of its own text. -/
theorem Change.tablesFound {options : ScanOptions} {raw : String} {scan after : Scan}
    (hchange : Change options raw scan after)
    (h : TablesFound options.tokenizer scan.statements) :
    TablesFound options.tokenizer after.statements := by
  cases hchange with
  | blockLine block =>
    have hold := h.fetched (scan.wordsOf raw)
    rcases hline : (block.readLine options.tokenizer (scan.wordsOf raw) (Line.isContinuation raw)
        scan.owner (scan.line + 1)).value with next | _ | statement
    · exact hold
    · rw [afterBlockLine_closed_statements, Option.toList_none, List.append_nil]
      exact hold
    · rw [afterBlockLine_closed_statements]
      intro recorded hrecorded
      rcases List.mem_append.mp hrecorded with hrecorded | hrecorded
      · exact hold recorded hrecorded
      · rw [show recorded = statement by simpa using hrecorded]
        exact Sql.Block.readLine_tables _ _ _ _ hline
  | skip => exact h
  | member => exact h
  | openBlock => exact h
  | openSection => exact h
  | closeSection => exact h
  | call => exact h
  | condition => exact h

theorem readLines_tablesFound (options : ScanOptions) (lines : List String) :
    TablesFound options.tokenizer (readLines options {} lines).value.statements := by
  refine readLines_induction (fun scan => TablesFound options.tokenizer scan.statements) ?_ ?_
    lines {} ?_
  · intro scan raw h
    rw [entered_statements]
    exact h
  · intro scan raw after h hchange
    rw [passed_statements]
    exact hchange.tablesFound h
  · intro statement hst
    exact absurd hst List.not_mem_nil

end Scan

/-! ### Programs -/

/-- **What the tokenizer touches.** Whatever two tokenizers answer, and also if they reject some
texts or all of them, the two scans of a program find the same sections, members and called
modules, and the same statements but for their tables. A statement whose text is rejected has no
tables. -/
theorem Source.scan_same_but_tables (source : Source) (exitSuffix : String)
    (tokenizer other : Sql.Tokenizer) :
    let findings := (source.scan ⟨tokenizer, exitSuffix⟩).value
    let others := (source.scan ⟨other, exitSuffix⟩).value
    findings.sections = others.sections ∧
    findings.members = others.members ∧
    findings.calledModules = others.calledModules ∧
    List.Forall₂ Statement.SameButTables findings.statements others.statements ∧
    ∀ statement ∈ findings.statements, ∀ rejection,
      tokenizer statement.text = .error rejection → statement.tables = [] := by
  -- with their tables struck out, both are the scan that never finds any
  have hsame := (Scan.readLines_withoutTables ⟨tokenizer, exitSuffix⟩ {} source.lines).trans
    (Scan.readLines_withoutTables ⟨other, exitSuffix⟩ {} source.lines).symm
  have htables := Scan.readLines_tablesFound ⟨tokenizer, exitSuffix⟩ source.lines
  have hsections := congrArg (fun scan => scan.finish.value.sections) hsame
  simp only [Scan.sections_finish_withoutTables] at hsections
  unfold Scan.withoutTables at hsame
  injection hsame with _ _ _ _ _ _ _ _ hstatements hmembers hmodules
  simp only [Source.scan, Logged.value_bind]
  refine ⟨hsections, ?_⟩
  simp only [Scan.finish_value]
  refine ⟨hmembers, hmodules, Scan.forall₂_of_withoutTables hstatements, ?_⟩
  intro statement hst rejection hrejected
  rw [htables statement hst]
  simp only [Sql.tablesIn, hrejected]

end CobolAtlas
