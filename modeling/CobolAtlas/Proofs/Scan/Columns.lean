import CobolAtlas.Proofs.Scan.Action
import Mathlib.Data.List.Forall2

/-!
# The columns that a scan looks at

Columns 1 to 6 of a line hold a sequence number and the columns behind 72 an identification. A scan
looks at neither, although it reads lines in four ways: the words of the line, its indicator, the
comment above a header or a member, and the line above a `WHEN`. All four go through the columns 7
to 72 (`Line.blanked` keeps just these), so the scan of a program is the scan of the program in
which all other columns are blank (`readLines_blanked`).
-/

namespace CobolAtlas

namespace Line

/-- The character in a column, counted from one. -/
def charAt (raw : String) (column : Nat) : Option Char :=
  raw.toList[column - 1]?

/-- The two lines have the same characters in columns 7 to 72, and none in the same ones. -/
def SameText (raw other : String) : Prop :=
  ∀ column, 7 ≤ column → column ≤ 72 → charAt raw column = charAt other column

/-- The line with blanks in front of column 7 and nothing behind column 72. -/
def blanked (raw : String) : String :=
  String.ofList (List.replicate 6 ' ' ++ columns .code raw.toList)

theorem columns_eq_of_sameText {raw other : String} (h : SameText raw other) :
    columns .code raw.toList = columns .code other.toList := by
  apply List.ext_getElem?
  intro k
  simp only [columns, Area.indent, rightMargin, List.getElem?_take, List.getElem?_drop]
  split
  · have hsame := h (6 + k + 1) (by omega) (by omega)
    simpa only [charAt, Nat.add_sub_cancel] using hsame
  · rfl

theorem sameText_of_columns {raw other : String}
    (h : columns .code raw.toList = columns .code other.toList) : SameText raw other := by
  intro column hfirst hlast
  have hsame := congrArg (fun cs : List Char => cs[column - 7]?) h
  have hindex : 6 + (column - 7) = column - 1 := by omega
  have hinside : column - 7 < 66 := by omega
  simpa [columns, Area.indent, rightMargin, List.getElem?_take, List.getElem?_drop, hindex,
    hinside, charAt] using hsame

instance (raw other : String) : Decidable (SameText raw other) :=
  decidable_of_iff _ ⟨sameText_of_columns, columns_eq_of_sameText⟩

/-! ### What is read of a line -/

/-- Blanking the sequence numbers and the columns behind the margin takes nothing that is read. -/
theorem columns_blanked (area : Area) (raw : String) :
    columns area (blanked raw).toList = columns area raw.toList := by
  cases area with
  | code => simp [columns, blanked, Area.indent, rightMargin, List.take_take]
  | comment =>
    simp [columns, blanked, Area.indent, rightMargin, List.drop_take, List.take_take]

theorem indicator_blanked (raw : String) : indicator (blanked raw) = indicator raw := by
  simp [indicator, blanked, columns, Area.indent, rightMargin, List.getElem?_drop]

theorem areaWords_blanked (area : Area) (raw : String) :
    areaWords area (blanked raw) = areaWords area raw := by
  simp only [areaWords, normalText, columns_blanked]

theorem format_blanked (area : Area) (raw : String) :
    format area (blanked raw) = format area raw := by
  rw [format, format, areaWords_blanked]

theorem isContinuation_blanked (raw : String) :
    isContinuation (blanked raw) = isContinuation raw := by
  rw [isContinuation, isContinuation, indicator_blanked]

theorem comment_blanked (raw : String) : comment (blanked raw) = comment raw := by
  rw [comment, comment, indicator_blanked, format_blanked]

theorem programText_blanked (raw : String) : programText (blanked raw) = programText raw := by
  simp only [programText, format_blanked, isContinuation_blanked]

end Line

/-! ### Scans -/

namespace Scan

/-- The state behind the blanked lines. -/
def blanked (scan : Scan) : Scan :=
  { scan with above := Line.blanked scan.above, twoAbove := Line.blanked scan.twoAbove }

theorem alike_blanked (scan : Scan) : Alike scan scan.blanked :=
  ⟨rfl, rfl, rfl, rfl⟩

theorem wordsOf_blanked (scan : Scan) (raw : String) :
    scan.blanked.wordsOf (Line.blanked raw) = scan.wordsOf raw := by
  rw [← scan.alike_blanked.wordsOf_eq]
  unfold wordsOf Line.sqlWords Line.codeWords
  rw [Line.programText_blanked]

theorem fetched_blanked (scan : Scan) (words : List String) :
    (scan.fetched words).blanked = scan.blanked.fetched words := by
  have hsame : scan.blanked.fetchOf? words = scan.fetchOf? words := rfl
  rcases hfetch : scan.fetchOf? words with _ | cursor
  · rw [fetched_of_none hfetch, fetched_of_none (hsame.trans hfetch)]
  · rw [fetched_of_some hfetch, fetched_of_some (hsame.trans hfetch)]
    rfl

theorem afterBlockLine_blanked (scan : Scan) (line : Sql.BlockLine) :
    (scan.afterBlockLine line).blanked = scan.blanked.afterBlockLine line := by
  cases line with
  | goesOn block => rfl
  | closed statement => rfl

theorem readOpenBlock_blanked (options : ScanOptions) (scan : Scan) (raw : String) :
    (scan.readOpenBlock options raw).blanked =
      scan.blanked.readOpenBlock options (Line.blanked raw) := by
  have hsame : scan.blanked.block = scan.block := rfl
  unfold readOpenBlock
  rw [hsame, wordsOf_blanked, Line.isContinuation_blanked]
  rcases hblock : scan.block with _ | block
  · rfl
  · simp only [afterBlockLine_blanked, fetched_blanked]
    rfl

theorem readCondition_blanked (scan : Scan) (words : List String) :
    (scan.readCondition words).blanked = scan.blanked.readCondition words := by
  have habove : scan.blanked.above = Line.blanked scan.above := rfl
  unfold readCondition
  rw [habove, Line.format_blanked]
  rfl

/-- No action looks at the columns that were blanked, neither on its own line nor on the lines
above. -/
theorem perform_blanked (options : ScanOptions) (scan : Scan) (raw : String) (action : Action) :
    (scan.perform options raw action).blanked =
      scan.blanked.perform options (Line.blanked raw) action := by
  have habove : scan.blanked.above = Line.blanked scan.above := rfl
  have htwoAbove : scan.blanked.twoAbove = Line.blanked scan.twoAbove := rfl
  cases action with
  | blockLine => exact readOpenBlock_blanked options scan raw
  | copyMember name =>
    unfold perform
    rw [habove, Line.comment_blanked]
    rfl
  | openSection =>
    unfold perform
    rw [htwoAbove, Line.comment_blanked, wordsOf_blanked]
    rfl
  | condition =>
    unfold perform
    rw [wordsOf_blanked]
    exact readCondition_blanked scan _
  | skip => rfl
  | openBlock => rfl
  | closeSection => rfl
  | call => rfl

theorem entered_blanked (scan : Scan) (raw : String) :
    (scan.entered raw).blanked = scan.blanked.entered (Line.blanked raw) := by
  have hdivision : scan.blanked.division = scan.division := rfl
  rw [entered, entered, hdivision, wordsOf_blanked]
  rfl

theorem passed_blanked (scan : Scan) (raw : String) (after : Scan) :
    (scan.passed raw after).blanked = scan.blanked.passed (Line.blanked raw) after.blanked := rfl

/-- Step lemma: blanking first and reading afterwards is the same as the other way round. -/
theorem readLine_blanked (options : ScanOptions) (scan : Scan) (raw : String) :
    (scan.readLine options raw).value.blanked =
      (scan.blanked.readLine options (Line.blanked raw)).value := by
  have haction : (scan.entered raw).blanked.action options (scan.wordsOf raw) =
      (scan.entered raw).action options (scan.wordsOf raw) :=
    ((scan.entered raw).alike_blanked.action_eq rfl _).symm
  rw [readLine_perform, readLine_perform, wordsOf_blanked, ← entered_blanked, haction,
    ← perform_blanked, passed_blanked]

/-- **Reading lines** leaves what reading the blanked lines leaves. -/
theorem readLines_blanked (options : ScanOptions) (scan : Scan) (lines : List String) :
    (readLines options scan lines).value.blanked =
      (readLines options scan.blanked (lines.map Line.blanked)).value := by
  induction lines generalizing scan with
  | nil => rfl
  | cons raw rest ih =>
    rw [List.map_cons, readLines_cons_value, readLines_cons_value, ih, readLine_blanked]

theorem finish_blanked (scan : Scan) : scan.blanked.finish.value = scan.finish.value := by
  rw [finish_value, finish_value]
  rfl

end Scan

/-! ### Programs -/

theorem Source.blanked_lines_eq {source other : Source}
    (h : List.Forall₂ Line.SameText source.lines other.lines) :
    source.lines.map Line.blanked = other.lines.map Line.blanked := by
  rw [← List.forall₂_eq_eq_eq, List.forall₂_map_left_iff, List.forall₂_map_right_iff]
  apply h.imp
  intro raw twin hsame
  rw [Line.blanked, Line.blanked, Line.columns_eq_of_sameText hsame]

/-- **Sequence numbers and identifications do nothing.** Two programs with the same number of lines,
whose lines have the same characters in columns 7 to 72, have the same scan. -/
theorem Source.scan_eq_of_sameText (source other : Source) (options : ScanOptions)
    (hsame : List.Forall₂ Line.SameText source.lines other.lines) :
    (source.scan options).value = (other.scan options).value := by
  simp only [Source.scan, Logged.value_bind]
  rw [← Scan.finish_blanked, Scan.readLines_blanked, Source.blanked_lines_eq hsame,
    ← Scan.readLines_blanked, Scan.finish_blanked]

/-- A program with sequence numbers and with an identification. -/
def stampedOrders : Source :=
  ⟨"ORDERS.cbl",
    ["000100 PROCEDURE DIVISION.",
      "000200 MAIN SECTION.                                                    ORDERS02",
      "000300     WHEN 1",
      "000400     PERFORM NEW-ORDER",
      "000500"]⟩

/-- The same program with other things in the outer columns. -/
def scribbledOrders : Source :=
  ⟨"ORDERS.cbl",
    ["EXEC   PROCEDURE DIVISION.",
      "       MAIN SECTION.                                                    EXIT",
      "*WHEN      WHEN 1",
      "END-IF     PERFORM NEW-ORDER",
      ""]⟩

theorem stampedOrders_scan_eq :
    List.Forall₂ Line.SameText stampedOrders.lines scribbledOrders.lines ∧
      (stampedOrders.scan {}).value = (scribbledOrders.scan {}).value := by
  have hsame : List.Forall₂ Line.SameText stampedOrders.lines scribbledOrders.lines := by
    decide +kernel
  exact ⟨hsame, Source.scan_eq_of_sameText stampedOrders scribbledOrders {} hsame⟩

end CobolAtlas
