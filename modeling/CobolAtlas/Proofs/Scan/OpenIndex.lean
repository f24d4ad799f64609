import CobolAtlas.Proofs.Scan.Ownership
import CobolAtlas.Proofs.WordPlaces
import Mathlib.Tactic.Simps.Basic

/-!
# The open section by its index

A scan keeps the open section apart from those that have ended. `IndexedScan` is the same scan with
all sections in one list and the index of the open one beside it: what changes the open section
looks it up there, words are taken by their places, and the line in front of a header is a
difference of numbers. Each such access may fail, and a scan in which one fails gives nothing.

None fails. Every state of a scan has its form with an index (`Scan.indexed`), and reading a line
goes from the one form to the other (`readLine?_indexed`). The index is then that of the last
section, and this section alone is open (`IndexedScan.Valid`).
-/

namespace CobolAtlas

/-! ### The scan by index -/

/-- Whether a scan is inside a section, and at which place this section stands. -/
inductive Standing where
  | outside
  | inside (index : Nat)
  deriving DecidableEq, Repr

/-- The state of a scan between two lines, with all sections in one list. -/
structure IndexedScan where
  line : Nat := 0
  above : String := ""
  twoAbove : String := ""
  division : Division := .none
  block : Option Sql.Block := none
  conditions : Conditions := {}
  sections : List Section := []
  standing : Standing := .outside
  statements : List Statement := []
  members : CopyMembers := []
  calledModules : List String := []
  deriving DecidableEq, Repr

namespace IndexedScan

def wordsOf (scan : IndexedScan) (raw : String) : List String :=
  if scan.block.isSome then Line.sqlWords raw else Line.codeWords raw

def owner? (scan : IndexedScan) : Option String :=
  match scan.standing with
  | .outside => some ""
  | .inside i => (scan.sections[i]?).map Section.name

/-- The section at a place changes. -/
def update? (scan : IndexedScan) (i : Nat) (f : Section → Section) : Option IndexedScan := do
  let s ← scan.sections[i]?
  return { scan with sections := scan.sections.set i (f s) }

def closeSection? (scan : IndexedScan) (i line : Nat) : Option IndexedScan := do
  let closed ← scan.update? i (·.close line)
  return { closed with standing := .outside }

/-- The open section, if there is one, ends in front of the header at `line`. -/
def closeBefore? (scan : IndexedScan) (line : Nat) : Option IndexedScan := do
  match scan.standing with
  | .outside => return scan
  | .inside i => scan.closeSection? i (← minus? line 1)

def openSection? (scan : IndexedScan) (name : String) (line : Nat) : Option IndexedScan := do
  let scan ← scan.closeBefore? line
  let sections := scan.sections ++ [.start name (Line.comment scan.twoAbove) line]
  return { scan with
    sections := sections
    standing := .inside (← minus? sections.length 1)
    conditions := {} }

/-- A header has `SECTION` at its last place. -/
def isHeader? (words : List String) : Option Bool := do
  if 1 < words.length then
    let last ← words[← minus? words.length 1]?
    return last = "SECTION"
  return false

def openBlock (scan : IndexedScan) (division : Division) : IndexedScan :=
  { scan with block := some { division := division } }

def fetch? (scan : IndexedScan) (cursor : String) : Option IndexedScan := do
  match scan.standing with
  | .outside => return scan
  | .inside i =>
    let s ← scan.sections[i]?
    if scan.statements.any (fun statement => statement.declares cursor) then
      let given := { scan with statements := Scan.withOwner scan.statements cursor s.name }
      given.update? i (·.addFetch cursor)
    else return scan

def readBlock? (options : ScanOptions) (scan : IndexedScan) (block : Sql.Block)
    (words : List String) (continued : Bool) (line : Nat) : Option IndexedScan := do
  match ← block.readLine? options.tokenizer words continued (← scan.owner?) line with
  | .goesOn block => return { scan with block := some block }
  | .closed statement =>
    return { scan with block := none, statements := scan.statements ++ statement.toList }

def readData? (scan : IndexedScan) (words : List String) : Option IndexedScan := do
  if Text.head words = "COPY" ∧ 1 < words.length then
    let name ← words[1]?
    return { scan with members := scan.members.add name (Line.comment scan.above) }
  return if Sql.opensBlock words then scan.openBlock .data else scan

def readCondition? (scan : IndexedScan) (words : List String) : Option IndexedScan := do
  let previous := Text.without '.' (Line.format .code scan.above)
  return { scan with conditions := ← scan.conditions.readAt? words (some previous) }

def addCall? (scan : IndexedScan) (i : Nat) (call : Call) : Option IndexedScan :=
  { scan with
    calledModules :=
      if call.isModule then scan.calledModules ++ [call.target]
      else scan.calledModules }.update? i (·.addCall call)

/-- A line of the section at a place that is no header. -/
def readBody? (options : ScanOptions) (scan : IndexedScan) (i : Nat) (words : List String)
    (line : Nat) : Option IndexedScan := do
  let s ← scan.sections[i]?
  if Scan.isExit options s words then scan.closeSection? i line
  else if scan.conditions.isReading then scan.readCondition? words
  else
    match Scan.callOf? scan.conditions words with
    | some call => scan.addCall? i call
    | none =>
      if Sql.opensBlock words then return scan.openBlock .procedure else scan.readCondition? words

def readProcedure? (options : ScanOptions) (scan : IndexedScan) (words : List String)
    (line : Nat) : Option IndexedScan := do
  if ← isHeader? words then scan.openSection? (← words[0]?) line
  else
    match scan.standing with
    | .inside i => scan.readBody? options i words line
    | .outside => return if Sql.opensBlock words then scan.openBlock .procedure else scan

def readProcedureBlock? (options : ScanOptions) (scan : IndexedScan) (block : Sql.Block)
    (words : List String) (continued : Bool) (line : Nat) : Option IndexedScan := do
  match ← Sql.fetchedCursorAt? words with
  | some cursor => (← scan.fetch? cursor).readBlock? options block words continued line
  | none => scan.readBlock? options block words continued line

def readWords? (options : ScanOptions) (scan : IndexedScan) (words : List String)
    (continued : Bool) (line : Nat) : Option IndexedScan :=
  match scan.division, scan.block with
  | .data, some block => scan.readBlock? options block words continued line
  | .data, none => scan.readData? words
  | .procedure, some block => scan.readProcedureBlock? options block words continued line
  | .procedure, none => scan.readProcedure? options words line
  | _, _ => some scan

def entered (scan : IndexedScan) (raw : String) : IndexedScan :=
  { scan with division := scan.division.advance (scan.wordsOf raw) }

def passed (scan : IndexedScan) (raw : String) (after : IndexedScan) : IndexedScan :=
  { after with line := scan.line + 1, above := raw, twoAbove := scan.above }

/-- The next line of the program. -/
def readLine? (options : ScanOptions) (scan : IndexedScan) (raw : String) : Option IndexedScan :=
  let words := scan.wordsOf raw
  let entered := scan.entered raw
  if entered.division.isStructural words then
    (entered.readWords? options words (Line.isContinuation raw) (scan.line + 1)).map
      (scan.passed raw)
  else some (scan.passed raw entered)

/-- The state after some lines. -/
def readLines? (options : ScanOptions) (scan : IndexedScan) (lines : List String) :
    Option IndexedScan :=
  lines.foldlM (readLine? options) scan

/-- The end of the program closes the open section. -/
def finish? (scan : IndexedScan) : Option Findings := do
  let scan ←
    (match scan.standing with
    | .outside => some scan
    | .inside i => scan.closeSection? i scan.line)
  return ⟨scan.sections, scan.statements, scan.members, scan.calledModules⟩

/-- The index is that of the last section, and only this section is open; outside of sections none
is. There are sections in the procedure division only. -/
structure Valid (scan : IndexedScan) : Prop where
  index_last : ∀ i, scan.standing = .inside i → i + 1 = scan.sections.length
  open_iff : ∀ i, scan.standing = .inside i → ∀ j s, scan.sections[j]? = some s →
    (s.endLine = none ↔ j = i)
  all_closed : scan.standing = .outside → ∀ s ∈ scan.sections, s.isClosed = true
  in_procedure : scan.sections ≠ [] → scan.division = .procedure

end IndexedScan

/-- Scans a program by index. -/
def Source.scanByIndex? (source : Source) (options : ScanOptions) : Option Findings := do
  (← IndexedScan.readLines? options {} source.lines).finish?

/-! ### From one form to the other -/

namespace Scan

open IndexedScan

/-- The state with the index of the open section. -/
@[simps line above twoAbove division block conditions statements members calledModules]
def indexed (scan : Scan) : IndexedScan where
  line := scan.line
  above := scan.above
  twoAbove := scan.twoAbove
  division := scan.division
  block := scan.block
  conditions := scan.conditions
  sections := scan.sections
  standing := if scan.current.isSome then .inside scan.ended.length else .outside
  statements := scan.statements
  members := scan.members
  calledModules := scan.calledModules

section

variable {scan : Scan} {s : Section}

theorem indexed_standing_inside (h : scan.current = some s) :
    scan.indexed.standing = .inside scan.ended.length := by
  rw [indexed, h]
  rfl

theorem indexed_standing_outside (h : scan.current = none) : scan.indexed.standing = .outside := by
  rw [indexed, h]
  rfl

theorem indexed_getElem? (h : scan.current = some s) :
    scan.indexed.sections[scan.ended.length]? = some s := by
  simp [indexed, sections, h]

/-- The index leads to the open section. -/
theorem update?_indexed (h : scan.current = some s) (f : Section → Section) :
    scan.indexed.update? scan.ended.length f =
      some { scan with current := some (f s) }.indexed := by
  unfold update?
  rw [indexed_getElem? h]
  simp [indexed, sections, h]

theorem closeSection?_indexed (h : scan.current = some s) (line : Nat) :
    scan.indexed.closeSection? scan.ended.length line =
      some (scan.closeSection line).value.indexed := by
  unfold closeSection?
  rw [update?_indexed h, closeSection_value, h]
  simp [indexed, sections]

end

theorem openSection?_indexed (scan : Scan) (name : String) (line : Nat) :
    scan.indexed.openSection? name (line + 1) =
      some (scan.openSection name (line + 1)).value.indexed := by
  have hclosed : scan.indexed.closeBefore? (line + 1) =
      some (scan.closeSection line).value.indexed := by
    unfold closeBefore?
    rcases hcurrent : scan.current with _ | s
    · rw [indexed_standing_outside hcurrent, closeSection, hcurrent]
      rfl
    · rw [indexed_standing_inside hcurrent, minus?_succ]
      exact closeSection?_indexed hcurrent line
  unfold IndexedScan.openSection?
  rw [hclosed, openSection_value, closeSection_value]
  simp [indexed, sections, minus?_succ]

theorem isHeader?_eq (words : List String) : isHeader? words = some (isHeader words) := by
  unfold isHeader? isHeader
  by_cases hlength : 1 < words.length
  · obtain ⟨n, hn⟩ : ∃ n, words.length = n + 1 := ⟨words.length - 1, by omega⟩
    have hlast : words[n]? = some (words.get ⟨n, by omega⟩) := by simp [hn]
    rw [List.getLast?_eq_getElem?, hn, minus?_succ, Nat.add_sub_cancel, hlast]
    have hpos : 0 < n := by omega
    simp [hpos, hlast]
  · simp [hlength]

theorem owner?_indexed (scan : Scan) : scan.indexed.owner? = some scan.owner := by
  unfold owner? owner
  rcases hcurrent : scan.current with _ | s
  · rw [indexed_standing_outside hcurrent]
  · rw [indexed_standing_inside hcurrent]
    simp only [indexed_getElem? hcurrent, Option.map_some]

theorem fetch?_indexed (scan : Scan) (cursor : String) :
    scan.indexed.fetch? cursor = some (scan.fetch cursor).value.indexed := by
  unfold fetch? fetch
  rcases hcurrent : scan.current with _ | s
  · rw [indexed_standing_outside hcurrent]
    rfl
  · rw [indexed_standing_inside hcurrent]
    simp only [indexed_getElem? hcurrent]
    by_cases hdeclared : scan.statements.any (fun statement => statement.declares cursor) = true
    · let given : Scan := { scan with statements := withOwner scan.statements cursor s.name }
      have hgiven : given.current = some s := hcurrent
      simpa [indexed, sections, given, hcurrent, hdeclared] using
        update?_indexed hgiven (·.addFetch cursor)
    · simp [indexed_statements, hdeclared]

/-- A block is read with no look at a section that is not there. -/
theorem readBlock?_indexed (options : ScanOptions) (scan : Scan) (block : Sql.Block)
    (words : List String) (continued : Bool) (line : Nat) :
    scan.indexed.readBlock? options block words continued line =
      some (scan.readBlock options block words continued line).value.indexed := by
  unfold readBlock?
  rw [owner?_indexed, readBlock_value]
  simp only [Option.bind_eq_bind, Option.bind_some, Sql.Block.readLine?_eq]
  rcases (block.readLine options.tokenizer words continued scan.owner line).value with
    block | statement <;> rfl

/-- A line that copies no member may open a block. -/
theorem readData?_indexed (scan : Scan) (words : List String) (line : Nat) :
    scan.indexed.readData? words = some (scan.readData words line).value.indexed := by
  have hopen : some (if Sql.opensBlock words then scan.indexed.openBlock .data else scan.indexed) =
      some (if Sql.opensBlock words then scan.openBlock .data else scan).indexed := by
    split <;> rfl
  rcases words with _ | ⟨first, _ | ⟨name, rest⟩⟩
  · exact hopen
  · simpa [readData?, readData] using hopen
  · by_cases hcopy : first = "COPY"
    · by_cases hhas : scan.members.has name = true
      · simp [readData?, readData, hcopy, hhas, Text.head, CopyMembers.add, indexed, sections]
      · simp [readData?, readData, hcopy, hhas, Text.head, indexed, sections]
    · simpa [readData?, readData, hcopy, Text.head] using hopen

theorem readCondition?_indexed (scan : Scan) (words : List String) :
    scan.indexed.readCondition? words = some (scan.readCondition words).indexed := by
  simp only [readCondition?, readCondition, Conditions.readAt?_eq]
  rfl

theorem addCall?_indexed {scan : Scan} {s : Section} (hcurrent : scan.current = some s)
    (call : Call) :
    scan.indexed.addCall? scan.ended.length call = some (scan.addCall s call).indexed := by
  let listed : Scan := { scan with
    calledModules :=
      if call.isModule then scan.calledModules ++ [call.target] else scan.calledModules }
  have hlisted : listed.current = some s := hcurrent
  exact update?_indexed hlisted (·.addCall call)

/-- In the body of a section each access at the index succeeds. -/
theorem readBody?_indexed (options : ScanOptions) {scan : Scan} {s : Section}
    (hcurrent : scan.current = some s) (words : List String) (line : Nat) :
    scan.indexed.readBody? options scan.ended.length words line =
      some (scan.readBody options s words line).value.indexed := by
  unfold readBody? readBody
  rw [indexed_getElem? hcurrent]
  simp only [Option.bind_eq_bind, Option.bind_some, indexed_conditions]
  by_cases hexit : isExit options s words = true
  · rw [if_pos hexit, if_pos hexit]
    exact closeSection?_indexed hcurrent line
  · rw [if_neg hexit, if_neg hexit]
    by_cases hreading : scan.conditions.isReading = true
    · rw [if_pos hreading, if_pos hreading]
      exact readCondition?_indexed scan words
    · rw [if_neg hreading, if_neg hreading]
      rcases callOf? scan.conditions words with _ | call
      · by_cases hopens : Sql.opensBlock words = true
        · simp only [hopens, if_true]
          rfl
        · simp only [hopens]
          exact readCondition?_indexed scan words
      · exact addCall?_indexed hcurrent call

theorem readProcedure?_indexed (options : ScanOptions) (scan : Scan) (words : List String)
    (line : Nat) :
    scan.indexed.readProcedure? options words (line + 1) =
      some (scan.readProcedure options words (line + 1)).value.indexed := by
  unfold readProcedure? readProcedure
  rw [isHeader?_eq]
  simp only [Option.bind_eq_bind, Option.bind_some]
  by_cases hheader : isHeader words = true
  · rw [if_pos hheader, if_pos hheader]
    obtain ⟨first, rest, rfl⟩ : ∃ first rest, words = first :: rest := by
      rcases words with _ | ⟨first, rest⟩
      · exact absurd hheader (by decide)
      · exact ⟨first, rest, rfl⟩
    exact openSection?_indexed scan first line
  · rw [if_neg hheader, if_neg hheader]
    rcases hcurrent : scan.current with _ | s
    · rw [indexed_standing_outside hcurrent]
      by_cases hopens : Sql.opensBlock words = true
      · simp only [hopens, if_true]
        rfl
      · simp [hopens]
    · rw [indexed_standing_inside hcurrent]
      exact readBody?_indexed options hcurrent words (line + 1)

theorem readProcedureBlock?_indexed (options : ScanOptions) (scan : Scan) (block : Sql.Block)
    (words : List String) (continued : Bool) (line : Nat) :
    scan.indexed.readProcedureBlock? options block words continued line =
      some (scan.readProcedureBlock options block words continued line).value.indexed := by
  unfold readProcedureBlock? readProcedureBlock
  rw [Sql.fetchedCursorAt?_eq]
  rcases Sql.fetchedCursor? words with _ | cursor
  · exact readBlock?_indexed options scan block words continued line
  · simp only [Option.bind_eq_bind, Option.bind_some, fetch?_indexed]
    exact readBlock?_indexed options (scan.fetch cursor).value block words continued line

/-- No line makes an access fail, whatever its words are. -/
theorem readWords?_indexed (options : ScanOptions) (scan : Scan) (words : List String)
    (continued : Bool) (line : Nat) :
    scan.indexed.readWords? options words continued (line + 1) =
      some (scan.readWords options words continued (line + 1)).value.indexed := by
  unfold readWords? readWords
  rw [indexed_division, indexed_block]
  rcases scan.division with _ | _ | _ | _ | _
  · rfl
  · rfl
  · rfl
  · rcases scan.block with _ | block
    · exact readData?_indexed scan words (line + 1)
    · exact readBlock?_indexed options scan block words continued (line + 1)
  · rcases scan.block with _ | block
    · exact readProcedure?_indexed options scan words line
    · exact readProcedureBlock?_indexed options scan block words continued (line + 1)

/-- **Reading a line** goes from the one form of the state to the other; no access fails. -/
theorem readLine?_indexed (options : ScanOptions) (scan : Scan) (raw : String) :
    scan.indexed.readLine? options raw = some (scan.readLine options raw).value.indexed := by
  have hwords : scan.indexed.wordsOf raw = (scan.entered raw).wordsOf raw := by
    rw [wordsOf_entered, IndexedScan.wordsOf, indexed_block, wordsOf]
  have hentered : scan.indexed.entered raw = (scan.entered raw).indexed := by
    rw [IndexedScan.entered, hwords, wordsOf_entered, indexed_division, entered]
    simp only [indexed, sections]
  have hpassed : ∀ after : Scan,
      scan.indexed.passed raw after.indexed = (scan.passed raw after).indexed := by
    intro after
    rw [passed]
    rfl
  unfold IndexedScan.readLine?
  simp only [hwords, hentered, indexed_division, indexed_line]
  by_cases hstructural : (scan.entered raw).Structural raw
  · rw [readLine_of_structural options hstructural, entered_line]
    unfold Structural at hstructural
    rw [if_pos hstructural, readWords?_indexed, Option.map_some, hpassed]
  · rw [readLine_of_not_structural options hstructural]
    unfold Structural at hstructural
    rw [if_neg hstructural, hpassed]

/-- Run lemma: the indexed reader gets through all lines, side by side with the scan. -/
theorem readLines?_indexed (options : ScanOptions) (lines : List String) (scan : Scan) :
    scan.indexed.readLines? options lines =
      some (Scan.readLines options scan lines).value.indexed := by
  induction lines generalizing scan with
  | nil => rfl
  | cons raw rest ih =>
    rw [readLines_cons_value, ← ih, readLines?, List.foldlM_cons, readLine?_indexed]
    rfl

theorem finish?_indexed (scan : Scan) : scan.indexed.finish? = some scan.finish.value := by
  unfold finish?
  rw [finish_value]
  rcases hcurrent : scan.current with _ | s
  · simp [indexed, sections, hcurrent]
  · rw [indexed_standing_inside hcurrent]
    simp only [closeSection?_indexed hcurrent, indexed_line, closeSection_value, hcurrent]
    simp [indexed, sections]

/-! ### The index is valid -/

/-- The indices of the state are those of sections that exist. -/
theorem indexed_valid {scan : Scan} (hlaid : LaidOut scan.line scan.ended scan.current)
    (hdata : scan.DataFirst) : scan.indexed.Valid := by
  have hended : ∀ s ∈ scan.ended, s.isClosed = true := by
    intro s hs
    obtain ⟨e, he, _⟩ := hlaid.ended_within s hs
    rw [Section.isClosed, he]
    rfl
  have hinside : ∀ i, scan.indexed.standing = .inside i →
      i = scan.ended.length ∧ ∃ s, scan.current = some s := by
    intro i hi
    rcases hcurrent : scan.current with _ | s
    · rw [indexed_standing_outside hcurrent] at hi
      exact absurd hi (by simp)
    · rw [indexed_standing_inside hcurrent] at hi
      exact ⟨(Standing.inside.inj hi).symm, s, rfl⟩
  constructor
  · intro i hi
    obtain ⟨rfl, s, hcurrent⟩ := hinside i hi
    simp [indexed, sections, hcurrent]
  · intro i hi j s hs
    obtain ⟨rfl, t, hcurrent⟩ := hinside i hi
    simp only [indexed, sections, hcurrent, Option.toList_some] at hs
    rcases Nat.lt_trichotomy j scan.ended.length with hlt | rfl | hgt
    · rw [List.getElem?_append_left hlt] at hs
      have hclosed := hended s (List.mem_of_getElem? hs)
      constructor
      · intro hopen
        rw [Section.isClosed, hopen] at hclosed
        exact absurd hclosed (by simp)
      · intro heq
        exact absurd heq (Nat.ne_of_lt hlt)
    · rw [List.getElem?_concat_length] at hs
      obtain rfl := Option.some.inj hs
      exact iff_of_true (hlaid.current_open t hcurrent) rfl
    · have hlength : (scan.ended ++ [t]).length ≤ j := by
        rw [List.length_append]
        exact hgt
      rw [List.getElem?_eq_none hlength] at hs
      exact absurd hs (by simp)
  · intro houtside s hs
    rcases hcurrent : scan.current with _ | t
    · simp only [indexed, sections, hcurrent, Option.toList_none, List.append_nil] at hs
      exact hended s hs
    · rw [indexed_standing_inside hcurrent] at houtside
      exact absurd houtside (by simp)
  · intro hsections
    apply Classical.byContradiction
    intro hdivision
    exact hsections (hdata.no_sections hdivision)

theorem readLines_dataFirst (options : ScanOptions) (lines : List String) :
    (readLines options {} lines).value.DataFirst := by
  refine readLines_induction DataFirst ?_ ?_ lines {} ⟨fun _ => rfl, by simp⟩
  · intro scan raw h
    exact h.entered raw
  · intro scan raw after h hchange
    exact (hchange.dataFirst h).passed scan raw

end Scan

/-- **The open section by its index.** In every program and after each of its lines, the scan by
index has come through without a failing access, its index is valid, and its state is that of the
scan. So the scan by index finds what the scan finds. -/
theorem Source.scanByIndex_valid (source : Source) (options : ScanOptions) :
    (∀ n, ∃ state,
      IndexedScan.readLines? options {} (source.lines.take n) = some state ∧ state.Valid ∧
        state = (Scan.readLines options {} (source.lines.take n)).value.indexed) ∧
    source.scanByIndex? options = some (source.scan options).value := by
  have hrun := fun lines => Scan.readLines?_indexed options lines {}
  constructor
  · intro n
    refine ⟨_, hrun (source.lines.take n), ?_, rfl⟩
    apply Scan.indexed_valid
    · exact Scan.readLines_laidOut options (source.lines.take n)
    · exact Scan.readLines_dataFirst options (source.lines.take n)
  · have hlines : IndexedScan.readLines? options {} source.lines = _ := hrun source.lines
    rw [scanByIndex?, hlines]
    exact Scan.finish?_indexed _

end CobolAtlas
