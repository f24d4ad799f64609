import CobolAtlas.Proofs.Scan.Step

/-!
# What decides about a line

`Change` lists what a line can do to a scan. Which of these things it does is decided before
anything is done, and by little: the division, whether a block is open, the name of the open
section, the open conditions and the words of the line. Here the decision (`action`) is taken apart
from what is done about it (`perform`), so that two scans can be compared line by line: where they
agree on what decides (`Alike`), they do the same thing, and eight actions are left to look at.

`readLine_perform` says that every line is read in this way.
-/

namespace CobolAtlas.Scan

/-! ### Decisions -/

/-- What a line does. -/
inductive Action where
  | skip
  | copyMember (name : String)
  | openBlock
  | blockLine
  | openSection
  | closeSection
  | call (call : Call)
  | condition
  deriving DecidableEq, Repr

def dataAction : List String → Action
  | "COPY" :: name :: _ => .copyMember name
  | words => if Sql.opensBlock words then .openBlock else .skip

/-- What a line of the open section does that is no header. -/
def bodyAction (options : ScanOptions) (s : Section) (conditions : Conditions)
    (words : List String) : Action :=
  if isExit options s words then .closeSection
  else if conditions.isReading then .condition
  else
    match callOf? conditions words with
    | some call => .call call
    | none => if Sql.opensBlock words then .openBlock else .condition

def procedureAction (options : ScanOptions) (scan : Scan) (words : List String) : Action :=
  if isHeader words then .openSection
  else
    match scan.current with
    | some s => bodyAction options s scan.conditions words
    | none => if Sql.opensBlock words then .openBlock else .skip

/-- What a line does in the state that has entered its division. -/
def action (options : ScanOptions) (scan : Scan) (words : List String) : Action :=
  if scan.division.isStructural words then
    match scan.division with
    | .data => if scan.block.isSome then .blockLine else dataAction words
    | .procedure => if scan.block.isSome then .blockLine else procedureAction options scan words
    | _ => .skip
  else .skip

/-! ### What is done -/

/-- The state after a line that belongs to the open block. -/
def readOpenBlock (options : ScanOptions) (scan : Scan) (raw : String) : Scan :=
  match scan.block with
  | some block =>
    (scan.fetched (scan.wordsOf raw)).afterBlockLine
      (block.readLine options.tokenizer (scan.wordsOf raw) (Line.isContinuation raw) scan.owner
        (scan.line + 1)).value
  | none => scan

/-- The state after a line of which it is known what it does. -/
def perform (options : ScanOptions) (scan : Scan) (raw : String) : Action → Scan
  | .skip => scan
  | .copyMember name =>
    { scan with members := scan.members.add name (Line.comment scan.above) }
  | .openBlock => scan.openBlock scan.division
  | .blockLine => scan.readOpenBlock options raw
  | .openSection =>
    { scan with
      ended := scan.ended ++ (scan.current.map (·.close scan.line)).toList
      current := some (.start (Text.head (scan.wordsOf raw)) (Line.comment scan.twoAbove)
        (scan.line + 1))
      conditions := {} }
  | .closeSection =>
    { scan with
      ended := scan.ended ++ (scan.current.map (·.close (scan.line + 1))).toList
      current := none }
  | .call call =>
    { scan with
      current := scan.current.map (·.addCall call)
      calledModules :=
        if call.isModule then scan.calledModules ++ [call.target] else scan.calledModules }
  | .condition => scan.readCondition (scan.wordsOf raw)

section

variable (options : ScanOptions) (scan : Scan) (raw : String)

theorem readData_perform (hdivision : scan.division = .data) (words : List String) (line : Nat) :
    (scan.readData words line).value = scan.perform options raw (dataAction words) := by
  unfold readData dataAction
  split
  · rename_i name rest
    by_cases hhas : scan.members.has name = true
    · simp [hhas, perform, CopyMembers.add]
    · simp [hhas, perform]
  · by_cases hopens : Sql.opensBlock words = true
    · simp [hopens, perform, hdivision]
    · simp [hopens, perform]

/-- Inside a section a line does one thing: the branches of the reader are the actions of the
line. -/
theorem readBody_perform {s : Section} (hdivision : scan.division = .procedure)
    (hcurrent : scan.current = some s) :
    (scan.readBody options s (scan.wordsOf raw) (scan.line + 1)).value =
      scan.perform options raw (bodyAction options s scan.conditions (scan.wordsOf raw)) := by
  unfold readBody bodyAction
  by_cases hexit : isExit options s (scan.wordsOf raw) = true
  · simp [hexit, perform, closeSection_value]
  · by_cases hreading : scan.conditions.isReading = true
    · simp [hexit, hreading, perform]
    · rcases hcall : callOf? scan.conditions (scan.wordsOf raw) with _ | call
      · by_cases hopens : Sql.opensBlock (scan.wordsOf raw) = true
        · simp [hexit, hreading, hopens, perform, hdivision]
        · simp [hexit, hreading, hopens, perform]
      · simp [hexit, hreading, perform, addCall, hcurrent]

theorem readProcedure_perform (hdivision : scan.division = .procedure) :
    (scan.readProcedure options (scan.wordsOf raw) (scan.line + 1)).value =
      scan.perform options raw (procedureAction options scan (scan.wordsOf raw)) := by
  unfold readProcedure procedureAction
  by_cases hheader : isHeader (scan.wordsOf raw) = true
  · simp [hheader, perform, openSection_value]
  · rw [if_neg hheader, if_neg hheader]
    rcases hcurrent : scan.current with _ | s
    · by_cases hopens : Sql.opensBlock (scan.wordsOf raw) = true
      · simp [hopens, perform, hdivision]
      · simp [hopens, perform]
    · exact readBody_perform options scan raw hdivision hcurrent

/-- What the reader does is what the action of the line says. The later proofs go by cases on the
action. -/
theorem readWords_perform (hstructural : scan.Structural raw) :
    (scan.readWords options (scan.wordsOf raw) (Line.isContinuation raw) (scan.line + 1)).value =
      scan.perform options raw (scan.action options (scan.wordsOf raw)) := by
  unfold Structural at hstructural
  unfold readWords action
  rw [if_pos hstructural]
  rcases hdivision : scan.division with _ | _ | _ | _ | _
  · rfl
  · rfl
  · rfl
  · rcases hblock : scan.block with _ | block
    · exact readData_perform options scan raw hdivision _ _
    · simp [readBlock_value, perform, readOpenBlock, hblock, fetched, hdivision]
  · rcases hblock : scan.block with _ | block
    · exact readProcedure_perform options scan raw hdivision
    · simp [readProcedureBlock_value, hdivision, perform, readOpenBlock, hblock]

/-- **A line is read** by doing what is decided in the state that has entered its division. -/
theorem readLine_perform :
    (scan.readLine options raw).value =
      scan.passed raw
        ((scan.entered raw).perform options raw
          ((scan.entered raw).action options (scan.wordsOf raw))) := by
  by_cases hstructural : (scan.entered raw).Structural raw
  · rw [readLine_of_structural options hstructural, readWords_perform options _ raw hstructural,
      wordsOf_entered]
  · rw [readLine_of_not_structural options hstructural]
    unfold Structural at hstructural
    rw [wordsOf_entered] at hstructural
    rw [action, if_neg hstructural, perform]

theorem line_readLine :
    (scan.readLine options raw).value.line = scan.line + 1 := by
  rw [readLine_perform]
  rfl

theorem above_readLine :
    (scan.readLine options raw).value.above = raw := by
  rw [readLine_perform]
  rfl

theorem twoAbove_readLine :
    (scan.readLine options raw).value.twoAbove = scan.above := by
  rw [readLine_perform]
  rfl

/-- What is done is one of the changes. -/
theorem change_perform :
    Change options raw scan
      (scan.perform options raw (scan.action options (scan.wordsOf raw))) := by
  by_cases hstructural : scan.Structural raw
  · rw [← readWords_perform options scan raw hstructural]
    exact readWords_change options scan raw hstructural
  · unfold Structural at hstructural
    rw [action, if_neg hstructural, perform]
    exact .skip

end

/-! ### Lines inside and outside of blocks -/

section

variable {scan : Scan}

/-- A line of an open block is passed over or read by the block, whatever its words are. -/
theorem action_of_block (options : ScanOptions) (hopen : scan.block ≠ none)
    (words : List String) :
    scan.action options words = .skip ∨ scan.action options words = .blockLine := by
  have hsome : scan.block.isSome = true := Option.isSome_iff_ne_none.mpr hopen
  simp only [action, hsome, if_true]
  split
  · split
    · exact .inr rfl
    · exact .inr rfl
    · exact .inl rfl
  · exact .inl rfl

theorem wordsOf_of_code (hblock : scan.block = none) (raw : String) :
    scan.wordsOf raw = Line.codeWords raw := by
  simp [wordsOf, hblock]

/-- Outside SQL a line of the procedure division is code or is passed over. -/
theorem action_of_code (options : ScanOptions) (hdivision : scan.division = .procedure)
    (hblock : scan.block = none) (words : List String) :
    scan.action options words =
      if Division.procedure.isStructural words then procedureAction options scan words
      else .skip := by
  simp only [action, hdivision, hblock, Option.isSome_none, Bool.false_eq_true, if_false]

/-- A line of the procedure division outside of blocks. -/
theorem readLine_of_code (options : ScanOptions) (hdivision : scan.division = .procedure)
    (hblock : scan.block = none) (raw : String) :
    (scan.readLine options raw).value =
      scan.passed raw
        (scan.perform options raw (scan.action options (Line.codeWords raw))) := by
  rw [readLine_perform, entered_eq_self hdivision, wordsOf_of_code hblock]

end

/-! ### Fetches -/

/-- The cursor that a line of a block fetches for the open section. -/
def fetchOf? (scan : Scan) (words : List String) : Option String :=
  if scan.division = .procedure ∧ scan.current.isSome = true then Sql.fetchedCursor? words
  else none

/-- Whether a cursor is declared so far. -/
def declared (scan : Scan) (cursor : String) : Bool :=
  scan.statements.any fun statement => statement.declares cursor

theorem withOwner_of_undeclared {statements : List Statement} {cursor : String}
    (h : statements.any (fun statement => statement.declares cursor) = false) (owner : String) :
    withOwner statements cursor owner = statements := by
  unfold withOwner
  refine Eq.trans ?_ (List.map_id statements)
  apply List.map_congr_left
  intro statement hst
  apply if_neg
  exact List.any_eq_false.mp h statement hst

section

variable {scan : Scan} {words : List String}

theorem fetched_of_none (h : scan.fetchOf? words = none) : scan.fetched words = scan := by
  rcases fetched_cases scan words with hsame | ⟨s, cursor, hcurrent, hdivision, hcursor, _⟩
  · exact hsame
  · simp [fetchOf?, hdivision, hcurrent, hcursor] at h

/-- A fetch gives the declarations of the cursor to the open section, which remembers the cursor if
there are any. -/
theorem fetched_of_some {cursor : String} (h : scan.fetchOf? words = some cursor) :
    scan.fetched words =
      { scan with
        statements := withOwner scan.statements cursor scan.owner
        current :=
          if scan.declared cursor then scan.current.map (·.addFetch cursor)
          else scan.current } := by
  unfold fetchOf? at h
  split at h
  · rename_i hopen
    obtain ⟨s, hcurrent⟩ := Option.isSome_iff_exists.mp hopen.2
    have howner : scan.owner = s.name := by simp [owner, hcurrent]
    rw [howner]
    unfold declared
    by_cases hdeclared : scan.statements.any (fun statement => statement.declares cursor) = true
    · simp [fetched, hopen.1, h, fetch, hcurrent, hdeclared]
    · rw [Bool.not_eq_true] at hdeclared
      have hsame : scan.fetched words = scan := by
        simp [fetched, hopen.1, h, fetch, hcurrent, hdeclared]
      rw [withOwner_of_undeclared hdeclared, hdeclared, hsame]
      rfl
  · exact absurd h (by simp)

end

/-! ### Lines of the open block -/

/-- From one state to the other nothing changed but the block, the statements and the open
section. -/
structure SqlOnly (scan after : Scan) : Prop where
  line_eq : after.line = scan.line
  above_eq : after.above = scan.above
  twoAbove_eq : after.twoAbove = scan.twoAbove
  division_eq : after.division = scan.division
  conditions_eq : after.conditions = scan.conditions
  ended_eq : after.ended = scan.ended
  members_eq : after.members = scan.members
  calledModules_eq : after.calledModules = scan.calledModules

theorem SqlOnly.refl (scan : Scan) : SqlOnly scan scan := by
  constructor <;> rfl

theorem sqlOnly_fetched (scan : Scan) (words : List String) :
    SqlOnly scan (scan.fetched words) := by
  rcases fetched_cases scan words with hsame | ⟨s, cursor, _, _, _, _, hfetch⟩
  · rw [hsame]
    exact .refl scan
  · rw [hfetch]
    constructor <;> rfl

theorem SqlOnly.afterBlockLine {scan fetched : Scan} (h : SqlOnly scan fetched)
    (line : Sql.BlockLine) : SqlOnly scan (fetched.afterBlockLine line) := by
  cases line with
  | goesOn block => exact { h with }
  | closed statement => exact { h with }

/-- A line inside a block touches the statements, the cursors and the block, and nothing else. -/
theorem sqlOnly_readOpenBlock (options : ScanOptions) (scan : Scan) (raw : String) :
    SqlOnly scan (scan.readOpenBlock options raw) := by
  unfold readOpenBlock
  rcases scan.block with _ | block
  · exact .refl scan
  · exact (sqlOnly_fetched scan _).afterBlockLine _

/-- Of the open section it changes at most the cursors. -/
theorem map_current_readOpenBlock {α : Type} (f : Section → α)
    (hf : ∀ s cursor, f (s.addFetch cursor) = f s) (options : ScanOptions) (scan : Scan)
    (raw : String) : (scan.readOpenBlock options raw).current.map f = scan.current.map f := by
  unfold readOpenBlock
  rcases scan.block with _ | block
  · rfl
  · rw [afterBlockLine_current]
    rcases fetched_cases scan (scan.wordsOf raw) with hsame | ⟨s, cursor, hcurrent, _, _, _, hfetch⟩
    · rw [hsame]
    · rw [hfetch, hcurrent]
      simp only [Option.map_some, hf]

/-- A block stays open until a line closes it. -/
theorem isSome_block_readOpenBlock (options : ScanOptions) (scan : Scan) (raw : String) :
    (scan.readOpenBlock options raw).block.isSome =
      (scan.block.isSome && !(scan.wordsOf raw).any Sql.closesBlock) := by
  unfold readOpenBlock
  rcases hblock : scan.block with _ | block
  · simp [hblock]
  · unfold Sql.Block.readLine
    by_cases hcloses : (scan.wordsOf raw).any Sql.closesBlock = true
    · simp [hcloses, afterBlockLine]
    · simp [hcloses, afterBlockLine]

/-! ### Scans that decide alike -/

/-- The two scans agree on what decides about the next line. -/
structure Alike (scan other : Scan) : Prop where
  division_eq : scan.division = other.division
  block_eq : scan.block.isSome = other.block.isSome
  name_eq : scan.current.map Section.name = other.current.map Section.name
  conditions_eq : scan.conditions = other.conditions

theorem isExit_congr {options others : ScanOptions}
    (hsuffix : options.exitSuffix = others.exitSuffix) {s t : Section} (hname : s.name = t.name)
    (words : List String) : isExit options s words = isExit others t words := by
  unfold isExit
  rw [hsuffix, hname]

namespace Alike

variable {options others : ScanOptions} {scan other : Scan}

theorem wordsOf_eq (h : Alike scan other) (raw : String) :
    scan.wordsOf raw = other.wordsOf raw := by
  unfold wordsOf
  rw [h.block_eq]

theorem procedureAction_eq (h : Alike scan other)
    (hsuffix : options.exitSuffix = others.exitSuffix) (words : List String) :
    procedureAction options scan words = procedureAction others other words := by
  unfold procedureAction
  have hname := h.name_eq
  rcases hscan : scan.current with _ | s
  · rcases hother : other.current with _ | t
    · rfl
    · rw [hscan, hother] at hname
      exact absurd hname (by simp)
  · rcases hother : other.current with _ | t
    · rw [hscan, hother] at hname
      exact absurd hname (by simp)
    · rw [hscan, hother, Option.map_some, Option.map_some, Option.some.injEq] at hname
      simp only [bodyAction, isExit_congr hsuffix hname, h.conditions_eq]

/-- Two scans that agree on the division, the block, the name of the section and the conditions take
the same action. -/
theorem action_eq (h : Alike scan other) (hsuffix : options.exitSuffix = others.exitSuffix)
    (words : List String) : scan.action options words = other.action others words := by
  unfold action
  rw [h.division_eq, h.block_eq, h.procedureAction_eq hsuffix words]

end Alike

end CobolAtlas.Scan
