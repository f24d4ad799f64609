import CobolAtlas.Proofs.Scan.Tables
import CobolAtlas.Proofs.Sql.Text

/-!
# The record of a block

A block keeps four things from line to line, each in a way of its own: the words are appended, the
first verb stays, the last cursor replaces the ones before, and nothing is left of what was there
when the block opened. `record` says what the statement is from all lines at once. The two meet in
`gathered`, the block as the lines so far make it: one more line makes it the block of one line more
(`readLine_gathered`), and a block that has just been opened is the one of no lines.
-/

namespace CobolAtlas

namespace Sql

/-! ### Closed forms -/

/-- The text of lines: their words up to the closing one, without blanks at the end. -/
def textOf (lines : List (List String)) : String :=
  Text.trimEnd (Text.unwords (Text.filled (lines.flatMap beforeEnd)))

/-- The verbs with what they do. -/
def verbs : List (String × Operation) :=
  [("SELECT", .read), ("INSERT", .insert), ("UPDATE", .update), ("DELETE", .delete),
    ("CREATE", .create)]

/-- The operation of the first line that starts with a verb. -/
def operationOf (lines : List (List String)) : Operation :=
  (lines.findSome? fun words => verbs.lookup (Text.head words)).getD .none

def declaredCursor? : List String → Option String
  | "DECLARE" :: cursor :: _ => some cursor
  | _ => none

/-- The last cursor that is declared; only the data division declares any. -/
def cursorOf (division : Division) (lines : List (List String)) : Option String :=
  if division = .data then (lines.filterMap declaredCursor?).getLast? else none

/-- The statement that lines make which close at a line of `owner`; none without a text. -/
def record (tokenizer : Tokenizer) (division : Division) (lines : List (List String))
    (owner : String) (line : Nat) : Option Statement :=
  if textOf lines = "" then none
  else some
    { text := textOf lines
      operation := operationOf lines
      division := division
      owner := owner
      cursor := cursorOf division lines
      tables := tablesIn tokenizer (textOf lines)
      line := line }

/-- The verbs of the program are those of the table. -/
theorem ofVerb_eq_lookup (word : String) :
    Operation.ofVerb word = (verbs.lookup word).getD .none := by
  unfold Operation.ofVerb
  split
  case h_6 =>
    have hnone : verbs.lookup word = none := by
      rw [List.lookup_eq_none_iff]
      simp_all [verbs]
    rw [hnone, Option.getD_none]
  all_goals rfl

/-- Every verb does something. -/
theorem ne_none_of_lookup {word : String} {operation : Operation}
    (h : verbs.lookup word = some operation) : operation ≠ .none := by
  have hall : ∀ entry ∈ verbs, entry.2 ≠ .none := by decide
  obtain ⟨before, after, heq, -⟩ := List.lookup_eq_some_iff.mp h
  exact hall (word, operation) (by simp [heq])

/-- The first verb decides. A later one is not looked at. -/
theorem operationOf_concat (lines : List (List String)) (words : List String) :
    operationOf (lines ++ [words]) =
      (operationOf lines).orElse (.ofVerb (Text.head words)) := by
  unfold operationOf
  rw [List.findSome?_append, ofVerb_eq_lookup]
  rcases hfind : lines.findSome? fun words => verbs.lookup (Text.head words) with _ | operation
  · simp [Operation.orElse]
  · -- a verb so far: the new line changes nothing
    obtain ⟨line, -, hlookup⟩ := List.exists_of_findSome?_eq_some hfind
    simp [Operation.orElse, ne_none_of_lookup hlookup]

/-- The last declaration decides, and only the data division has any. -/
theorem cursorOf_concat (division : Division) (lines : List (List String)) (words : List String) :
    cursorOf division (lines ++ [words]) =
      if division = .data then (declaredCursor? words).or (cursorOf division lines) else none := by
  unfold cursorOf
  split
  · rw [List.filterMap_append, List.getLast?_append]
    cases hcursor : declaredCursor? words <;> simp [hcursor]
  · rfl

/-! ### One line -/

/-- The block as some lines make it. -/
def gathered (division : Division) (lines : List (List String)) : Block where
  text := Text.trailed (Text.filled (lines.flatMap beforeEnd))
  operation := operationOf lines
  cursor := cursorOf division lines
  division := division

theorem gathered_nil (division : Division) : gathered division [] = { division := division } := by
  simp [gathered, operationOf, cursorOf, Text.filled]

theorem readHead_cursor (block : Block) (words : List String) :
    (block.readHead words).cursor =
      if block.division = .data then (declaredCursor? words).or block.cursor else block.cursor := by
  unfold Block.readHead declaredCursor?
  split
  · simp
  · simp

/-- One more line makes the block of one line more, whether it closes the block or not. -/
theorem addLine_gathered (division : Division) (lines : List (List String)) (words : List String) :
    ((gathered division lines).readHead words).addLine false (beforeEnd words) =
      gathered division (lines ++ [words]) := by
  have hadd : ((gathered division lines).readHead words).addLine false (beforeEnd words) =
      (beforeEnd words).foldl Block.addWord ((gathered division lines).readHead words) := rfl
  have hcursor : ((gathered division lines).readHead words).cursor =
      cursorOf division (lines ++ [words]) := by
    rw [readHead_cursor, cursorOf_concat]
    by_cases hdata : division = .data <;> simp [gathered, cursorOf, hdata]
  have htext : Text.trailed (Text.filled ((lines ++ [words]).flatMap beforeEnd)) =
      Text.trailed (Text.filled (lines.flatMap beforeEnd)) ++
        Text.trailed (Text.filled (beforeEnd words)) := by
    rw [List.flatMap_append, Text.filled, List.filter_append, Text.trailed_append]
    simp [Text.filled]
  have hmore : gathered division (lines ++ [words]) =
      { text := Text.trailed (Text.filled (lines.flatMap beforeEnd)) ++
          Text.trailed (Text.filled (beforeEnd words))
        operation := (operationOf lines).orElse (.ofVerb (Text.head words))
        cursor := cursorOf division (lines ++ [words])
        division := division } := by
    rw [gathered, htext, operationOf_concat]
  rw [hadd, Block.foldl_addWord, hcursor, hmore]
  rfl

/-- The record of a block is made from the lines it gathered. -/
theorem close_gathered (tokenizer : Tokenizer) (division : Division) (lines : List (List String))
    (owner : String) (line : Nat) :
    ((gathered division lines).close tokenizer owner line).value =
      record tokenizer division lines owner line := by
  have htext : Text.trimEnd (gathered division lines).text = textOf lines :=
    Text.trimEnd_trailed_eq _
  rw [Block.close_value, htext, record]
  simp only [String.isEmpty_iff]
  rfl

theorem readLine_gathered (tokenizer : Tokenizer) (division : Division)
    (lines : List (List String)) (words : List String) (owner : String) (line : Nat) :
    ((gathered division lines).readLine tokenizer words false owner line).value =
      if words.any closesBlock then
        .closed (record tokenizer division (lines ++ [words]) owner line)
      else .goesOn (gathered division (lines ++ [words])) := by
  rw [← close_gathered, ← addLine_gathered]
  by_cases hcloses : words.any closesBlock = true
  · simp only [Block.readLine, hcloses, Bool.false_eq_true, if_false, if_true, Logged.value_bind,
      Logged.value_pure]
    rfl
  · simp only [Block.readLine, hcloses, Bool.false_eq_true, if_false, Logged.value_pure]
    rfl

/-! ### All lines -/

/-- A line that is given to a block: its words, the section that it stands in, and its number. -/
structure GivenLine where
  words : List String
  owner : String
  line : Nat

def BlockLine.block : BlockLine → Option Block
  | .goesOn block => some block
  | .closed _ => none

/-- What a line makes of the open block. Without one there is nothing to close. -/
def give (tokenizer : Tokenizer) (block : Option Block) (given : GivenLine) : BlockLine :=
  match block with
  | none => .closed none
  | some block => (block.readLine tokenizer given.words false given.owner given.line).value

/-- What lines in a row make of the open block, and the block that is open behind them. -/
def giveAll (tokenizer : Tokenizer) : Option Block → List GivenLine → List BlockLine × Option Block
  | block, [] => ([], block)
  | block, given :: rest =>
    let result := give tokenizer block given
    let later := giveAll tokenizer result.block rest
    (result :: later.1, later.2)

/-- Run lemma: the lines of a block, the last of which closes it, give one record. -/
theorem giveAll_gathered (tokenizer : Tokenizer) (division : Division)
    (lines : List (List String)) {earlier : List GivenLine} {last : GivenLine}
    (hearlier : ∀ given ∈ earlier, given.words.any closesBlock = false)
    (hlast : last.words.any closesBlock = true) :
    ∃ blocks : List Block, blocks.length = earlier.length ∧
      giveAll tokenizer (some (gathered division lines)) (earlier ++ [last]) =
        (blocks.map .goesOn ++ [.closed (record tokenizer division
          (lines ++ (earlier ++ [last]).map GivenLine.words) last.owner last.line)], none) := by
  -- the lines that have gone into the block grow by one with each line of the block
  induction earlier generalizing lines with
  | nil =>
    refine ⟨[], rfl, ?_⟩
    simp only [List.nil_append, giveAll, give, readLine_gathered, hlast, if_true]
    rfl
  | cons given rest ih =>
    obtain ⟨hgiven, hrest⟩ := List.forall_mem_cons.mp hearlier
    obtain ⟨blocks, hlength, hresults⟩ := ih (lines ++ [given.words]) hrest
    refine ⟨gathered division (lines ++ [given.words]) :: blocks, by simp [hlength], ?_⟩
    simp only [List.cons_append, giveAll, give, readLine_gathered, hgiven, Bool.false_eq_true,
      if_false, BlockLine.block, hresults]
    simp

end Sql

/-- **The record of a block.** Whatever the scan has seen before a block opens, and whatever block
is open there, the lines up to the first one with a closing word leave the block open, that one
closes it, and the statement is the record of the lines. -/
theorem Scan.openBlock_giveAll (scan : Scan) (tokenizer : Sql.Tokenizer) (division : Division)
    {earlier : List Sql.GivenLine} {last : Sql.GivenLine}
    (hearlier : ∀ given ∈ earlier, given.words.any Sql.closesBlock = false)
    (hlast : last.words.any Sql.closesBlock = true) :
    ∃ blocks : List Sql.Block, blocks.length = earlier.length ∧
      Sql.giveAll tokenizer (scan.openBlock division).block (earlier ++ [last]) =
        (blocks.map .goesOn ++ [.closed (Sql.record tokenizer division
          ((earlier ++ [last]).map Sql.GivenLine.words) last.owner last.line)], none) := by
  have hopened : (scan.openBlock division).block = some (Sql.gathered division []) := by
    rw [Sql.gathered_nil, openBlock]
  rw [hopened]
  exact Sql.giveAll_gathered tokenizer division [] hearlier hlast

def orderCursorLines : List Sql.GivenLine :=
  [⟨["DECLARE", "ORD-CUR", "CURSOR", "FOR"], "", 4⟩, ⟨["SELECT", "", "ID"], "", 5⟩]

def orderCursorLast : Sql.GivenLine :=
  ⟨["FROM", "ORDERS", "END-EXEC."], "", 6⟩

/-- A block of two lines with its statement. -/
structure RecordedBlock where
  first : List String
  last : List String
  statement : Statement

def RecordedBlock.lines (block : RecordedBlock) : List (List String) :=
  [block.first, block.last]

/-- A block for each verb, among them verbs at the start of the second line and at both, a block
that declares its cursor out of place, and one without a verb. -/
def orderBlocks : List RecordedBlock :=
  [⟨["SELECT", "ID", "INTO", ":ID"], ["FROM", "ORDERS", "END-EXEC."],
      ⟨"SELECT ID INTO :ID FROM ORDERS", .read, .procedure, "MAIN", none, ["ORDERS"], 9⟩⟩,
    ⟨["INSERT", "INTO", "ORDERS"], ["SELECT", "*", "FROM", "STOCK", "END-EXEC"],
      ⟨"INSERT INTO ORDERS SELECT * FROM STOCK", .insert, .procedure, "MAIN", none,
        ["ORDERS", "STOCK"], 9⟩⟩,
    ⟨[], ["UPDATE", "ORDERS", "SET", "ID", "=", "1", "END-EXEC"],
      ⟨"UPDATE ORDERS SET ID = 1", .update, .procedure, "MAIN", none, ["ORDERS"], 9⟩⟩,
    ⟨["DECLARE", "C"], ["DELETE", "FROM", "ORDERS", "END-EXEC"],
      ⟨"DECLARE C DELETE FROM ORDERS", .delete, .procedure, "MAIN", none, ["ORDERS"], 9⟩⟩,
    ⟨["CREATE", "TABLE"], ["ORDERS", "END-EXEC"],
      ⟨"CREATE TABLE ORDERS", .create, .procedure, "MAIN", none, ["ORDERS"], 9⟩⟩,
    ⟨["OPEN", "CREATE"], ["END-EXEC", "SELECT"],
      ⟨"OPEN CREATE", .none, .procedure, "MAIN", none, [], 9⟩⟩]

/-- The declaration opens over a block that was never closed. -/
theorem orderCursor_giveAll :
    (∃ blocks : List Sql.Block, blocks.length = 2 ∧
      Sql.giveAll Sql.tokenize
          (Scan.openBlock { block := some ⟨"DELETE ", .delete, none, .procedure⟩ } .data).block
          (orderCursorLines ++ [orderCursorLast]) =
        (blocks.map .goesOn ++ [.closed (some
          { text := "DECLARE ORD-CUR CURSOR FOR SELECT ID FROM ORDERS"
            operation := .read
            division := .data
            owner := ""
            cursor := some "ORD-CUR"
            tables := ["ORDERS"]
            line := 6 })], none)) ∧
    ∀ block ∈ orderBlocks, ∃ opened : Sql.Block,
      Sql.giveAll Sql.tokenize (Scan.openBlock {} .procedure).block
          [⟨block.first, "MAIN", 8⟩, ⟨block.last, "MAIN", 9⟩] =
        ([.goesOn opened, .closed (some block.statement)], none) := by
  constructor
  · have hearlier : ∀ given ∈ orderCursorLines, given.words.any Sql.closesBlock = false := by
      decide +kernel
    have hlast : orderCursorLast.words.any Sql.closesBlock = true := by decide +kernel
    have hrecord : Sql.record Sql.tokenize .data
        ((orderCursorLines ++ [orderCursorLast]).map Sql.GivenLine.words) orderCursorLast.owner
        orderCursorLast.line =
        some ⟨"DECLARE ORD-CUR CURSOR FOR SELECT ID FROM ORDERS", .read, .data, "",
          some "ORD-CUR", ["ORDERS"], 6⟩ := by
      decide +kernel
    obtain ⟨blocks, hlength, hresults⟩ := Scan.openBlock_giveAll
      { block := some ⟨"DELETE ", .delete, none, .procedure⟩ } Sql.tokenize .data hearlier hlast
    rw [hrecord] at hresults
    exact ⟨blocks, hlength, hresults⟩
  · intro block hblock
    have hfirst : ∀ block ∈ orderBlocks, block.first.any Sql.closesBlock = false := by
      decide +kernel
    have hlast : ∀ block ∈ orderBlocks, block.last.any Sql.closesBlock = true := by
      decide +kernel
    have hrecord : ∀ block ∈ orderBlocks, Sql.record Sql.tokenize .procedure block.lines "MAIN" 9 =
        some block.statement := by
      decide +kernel
    let earlier : List Sql.GivenLine := [⟨block.first, "MAIN", 8⟩]
    let last : Sql.GivenLine := ⟨block.last, "MAIN", 9⟩
    have hearlier : ∀ given ∈ earlier, given.words.any Sql.closesBlock = false :=
      List.forall_mem_singleton.mpr (hfirst block hblock)
    obtain ⟨blocks, hlength, hresults⟩ := Scan.openBlock_giveAll {} Sql.tokenize .procedure
      hearlier (show last.words.any Sql.closesBlock = true from hlast block hblock)
    obtain ⟨opened, rfl⟩ := List.length_eq_one_iff.mp hlength
    refine ⟨opened, hresults.trans ?_⟩
    rw [← hrecord block hblock]
    rfl

end CobolAtlas
