import Mathlib.Data.List.Nodup
import CobolAtlas.Proofs.Resolution
import CobolAtlas.Proofs.Scan.Cursors
import CobolAtlas.Proofs.Scan.SqlText
import CobolAtlas.Report

/-!
# The operations of a section in a report

A report finds the statements of a section by the name of their owner. A reader of the program finds
them by their lines. Both find the same where no two sections have one name: the owner of a
statement is the section that encloses its line, a statement outside of sections has an empty owner,
and no section has an empty name. The line of a header belongs to a section as well, and no
statement ends there (`Apart`).
-/

namespace CobolAtlas

/-! ### Each once, in the order of the first -/

theorem keepFirstAfter_id_eq {β : Type} [DecidableEq β] (seen bs : List β) :
    keepFirstAfter id seen bs = (bs.filter fun b => decide (b ∉ seen)).eraseDups := by
  induction bs generalizing seen with
  | nil => rfl
  | cons b rest ih =>
    rw [keepFirstAfter, id]
    by_cases hseen : b ∈ seen
    · rw [if_pos hseen, ih, List.filter_cons_of_neg (by simpa using hseen)]
    · rw [if_neg hseen, ih, List.filter_cons_of_pos (by simpa using hseen), List.eraseDups_cons,
        List.filter_filter]
      congr 3
      funext c
      by_cases hc : c = b <;> simp [hc]

theorem keepFirst_id_eq_eraseDups {β : Type} [DecidableEq β] (bs : List β) :
    keepFirst id bs = bs.eraseDups := by
  rw [keepFirst, keepFirstAfter_id_eq]
  congr 1
  rw [List.filter_eq_self]
  intro b _
  simp

/-! ### Headers and statements -/

namespace Scan

/-- No section has its header at one of the lines. -/
def Apart (sections : List Section) (lines : List Nat) : Prop :=
  ∀ s ∈ sections, s.startLine ∉ lines

/-- Lines read so far stay apart from the headers, since a step moves no header. -/
theorem Apart.sameOwners {n : Nat} {old new : List Section} {lines : List Nat}
    (h : Apart old lines) (hle : ∀ line ∈ lines, line ≤ n) (hsame : SameOwners n old new) :
    Apart new lines := by
  intro t ht hmem
  rcases hsame.from_old t ht with hstart | ⟨s, hs, _, hstart, _⟩
  · have hline := hle t.startLine hmem
    omega
  · apply h s hs
    rw [hstart]
    exact hmem

theorem LaidOut.startLine_le {n : Nat} {ended : List Section} {current : Option Section}
    (h : LaidOut n ended current) {s : Section} (hs : s ∈ ended ++ current.toList) :
    s.startLine ≤ n := by
  rcases List.mem_append.mp hs with hs | hs
  · obtain ⟨e, _, _, hstart, hend⟩ := h.ended_within s hs
    exact Nat.le_trans hstart hend
  · exact h.start_le s (Option.mem_toList.mp hs)

section

variable {options : ScanOptions} {raw : String} {scan after : Scan}

/-- A line does not both record a statement and start a section. -/
theorem Change.sameLines_or_startLine_le (hchange : Change options raw scan after)
    (hlaid : LaidOut scan.line scan.ended scan.current) :
    after.statements = scan.statements ∨ ∀ t ∈ after.sections, t.startLine ≤ scan.line := by
  cases hchange with
  | blockLine =>
    right
    intro t ht
    rw [sections, afterBlockLine_ended, afterBlockLine_current] at ht
    exact (hlaid.fetched (scan.wordsOf raw)).startLine_le ht
  | skip => exact .inl rfl
  | member => exact .inl rfl
  | openBlock => exact .inl rfl
  | openSection => exact .inl rfl
  | closeSection => exact .inl rfl
  | call => exact .inl rfl
  | condition => exact .inl rfl

/-- A step records a statement at its own line, which is not that of a header. -/
theorem Change.apart (hchange : Change options raw scan after)
    (hlaid : LaidOut scan.line scan.ended scan.current)
    (howned : Owned scan.line scan.sections scan.statements)
    (h : Apart scan.sections (scan.statements.map Statement.line)) :
    Apart after.sections (after.statements.map Statement.line) := by
  have hle : ∀ line ∈ scan.statements.map Statement.line, line ≤ scan.line := by
    intro line hline
    obtain ⟨statement, hst, rfl⟩ := List.mem_map.mp hline
    exact howned.line_le statement hst
  have hold := h.sameOwners hle (hchange.sameOwners hlaid)
  rcases hchange.sameLines_or_startLine_le hlaid with hsame | hstarts
  · rw [hsame]
    exact hold
  · obtain ⟨new, hentries, hnew⟩ := hchange.entries
    have hlines := congrArg (List.map Prod.snd) hentries
    rw [List.map_append, List.map_map, List.map_map] at hlines
    intro t ht hmem
    rw [show after.statements.map Statement.line = _ from hlines] at hmem
    rcases List.mem_append.mp hmem with hmem | hmem
    · exact hold t ht hmem
    · obtain ⟨entry, hentry, heq⟩ := List.mem_map.mp hmem
      have hstart := hstarts t ht
      have hline := hnew entry hentry
      omega

end

/-- No statement of a scan stands on the line of a section header. -/
theorem readLines_apart (options : ScanOptions) (lines : List String) :
    let scan := (readLines options {} lines).value
    Apart scan.sections (scan.statements.map Statement.line) := by
  let Inv : Scan → Prop := fun scan =>
    (LaidOut scan.line scan.ended scan.current ∧ scan.DataFirst ∧
      Owned scan.line scan.sections scan.statements) ∧
      Apart scan.sections (scan.statements.map Statement.line)
  have hrun : Inv (readLines options {} lines).value := by
    refine readLines_induction Inv ?_ ?_ lines {}
      ⟨⟨LaidOut.init, ⟨fun _ => rfl, by simp⟩, Owned.init⟩, by simp [Apart]⟩
    · rintro scan raw ⟨⟨hlaid, hdata, howned⟩, hapart⟩
      refine ⟨⟨?_, hdata.entered raw, ?_⟩, ?_⟩
      · rw [entered_line, entered_ended, entered_current]
        exact hlaid
      · rw [sections_entered, entered_line, entered_statements]
        exact howned
      · rw [sections_entered, entered_statements]
        exact hapart
    · rintro scan raw after ⟨⟨hlaid, hdata, howned⟩, hapart⟩ hchange
      refine ⟨⟨hchange.laidOut hlaid, (hchange.dataFirst hdata).passed scan raw, ?_⟩, ?_⟩
      · rw [sections_passed]
        exact hchange.owned hlaid hdata howned
      · rw [sections_passed, passed_statements]
        exact hchange.apart hlaid howned hapart
  exact hrun.2

end Scan

/-! ### Statements by their lines -/

/-- A line of a section that has ended, its header included. -/
def Section.Spans (s : Section) (line : Nat) : Prop :=
  ∃ e, s.endLine = some e ∧ s.startLine ≤ line ∧ line ≤ e

instance (s : Section) (line : Nat) : Decidable (s.Spans line) :=
  inferInstanceAs (Decidable (∃ e, s.endLine = some e ∧ s.startLine ≤ line ∧ line ≤ e))

/-- Away from the header a section spans exactly the lines that it holds. -/
theorem Section.Within.spans_iff {s : Section} {n line : Nat} (h : s.Within n)
    (hne : s.startLine ≠ line) : s.Spans line ↔ s.Holds line := by
  rw [← h.encloses_iff]
  apply exists_congr
  intro e
  apply and_congr_right
  intro _
  constructor
  · rintro ⟨hle, hend⟩
    exact ⟨Nat.lt_of_le_of_ne hle hne, hend⟩
  · rintro ⟨hlt, hend⟩
    exact ⟨Nat.le_of_lt hlt, hend⟩

/-- The name that a report has for an operation. -/
def reportedName? : Operation → Option String
  | .none => none
  | .read => some "SELECT"
  | .insert => some "INSERT"
  | .update => some "UPDATE"
  | .delete => some "DELETE"
  | .create => some "CREATE"

theorem reportedName?_eq (operation : Operation) :
    reportedName? operation = if operation ≠ .none then some operation.verb else none := by
  cases operation <;> rfl

/-- The names of what the statements do that a section owns. -/
def Section.ownedNames (s : Section) (statements : List Statement) : List String :=
  (statements.filter fun statement =>
    statement.division = .procedure && statement.owner = s.name).filterMap
      (reportedName? ·.operation)

/-- The verbs in the report are those of the statements a section owns. -/
theorem Section.verbs_eq_ownedNames (s : Section) (statements : List Statement) :
    (statements.filter (·.isOperationOf s.name)).map (·.operation.verb) =
      s.ownedNames statements := by
  rw [ownedNames, ← List.filterMap_eq_map, List.filterMap_filter, List.filterMap_filter]
  apply List.filterMap_congr
  intro statement _
  by_cases hdivision : statement.division = .procedure
  · by_cases howner : statement.owner = s.name
    · simp [Statement.isOperationOf, hdivision, howner, reportedName?_eq]
    · simp [Statement.isOperationOf, hdivision, howner]
  · simp [Statement.isOperationOf, hdivision]

/-- The names of what the statements of the procedure division at the lines of a section do, in the
order of the statements. -/
def Section.namesAt (s : Section) (statements : List Statement) : List String :=
  (statements.filter fun statement =>
    statement.division = .procedure && s.Spans statement.line).filterMap
      (reportedName? ·.operation)

/-- What the sections and statements of a program have to do with each other. -/
structure Ledger (source : Source) (options : ScanOptions) (findings : Findings) : Prop where
  within : ∀ s ∈ findings.sections, s.Within source.lines.length
  tidy : ∀ s ∈ findings.sections, s.Tidy
  owned : Scan.Owned source.lines.length findings.sections findings.statements
  apart : Scan.Apart findings.sections (findings.statements.map Statement.line)
  attributed : Scan.Attributed source.lines.length findings.sections findings.statements
    (source.fetches options)

/-- All that a scan promises about its sections and statements, in one record. -/
theorem Source.scan_ledger (source : Source) (options : ScanOptions) :
    Ledger source options (source.scan options).value := by
  have htracked := Scan.Tracked.init.readLines options source.lines
  have hcontents := Scan.readLines_contents options source.lines
  have howned := Scan.readLines_owned options source.lines
  have hapart := Scan.readLines_apart options source.lines
  have hline : (Scan.readLines options {} source.lines).value.line = source.lines.length := by
    simp [Scan.readLines_line]
  rw [List.nil_append] at htracked
  have hlaid := htracked.laidOut
  have hsame := Scan.SameOwners.closed hlaid (Nat.le_refl _)
  simp only [Source.scan, Logged.value_bind, Scan.finish_value]
  constructor
  · rw [← hline]
    exact (hlaid.closed (Nat.le_refl _)).ended_within
  · exact (Scan.Contents.closed hcontents.ended_tidy hcontents.current_tidy
      hcontents.targets_nodup _).1
  · rw [← hline]
    exact howned.sameOwners hsame
  · apply hapart.sameOwners _ hsame
    intro line hmem
    obtain ⟨statement, hst, rfl⟩ := List.mem_map.mp hmem
    exact howned.line_le statement hst
  · rw [← hline]
    exact htracked.attributed.sameSections hsame
      (Scan.SameCursors.closed hlaid (Nat.le_refl _))

section

variable {source : Source} {options : ScanOptions} {findings : Findings}

/-- Where names are distinct a section is determined by its name. -/
theorem Section.eq_of_name {sections : List Section}
    (hnames : (sections.map Section.name).Nodup) {s t : Section} (hs : s ∈ sections)
    (ht : t ∈ sections) (hname : s.name = t.name) : s = t :=
  List.inj_on_of_nodup_map hnames hs ht hname

/-- Where names occur once, the owner of a statement is a section if and only if the statement
stands at one of the lines of the section. -/
theorem Ledger.owner_eq_iff (h : Ledger source options findings)
    (hnames : (findings.sections.map Section.name).Nodup) {s : Section}
    (hs : s ∈ findings.sections) {statement : Statement} (hst : statement ∈ findings.statements)
    (hdivision : statement.division = .procedure) :
    statement.owner = s.name ↔ s.Spans statement.line := by
  have hspans : ∀ t ∈ findings.sections, t.Spans statement.line ↔ t.Holds statement.line := by
    intro t ht
    apply (h.within t ht).spans_iff
    intro heq
    apply h.apart t ht
    rw [heq]
    exact List.mem_map_of_mem hst
  constructor
  · intro howner
    by_cases hheld : ∃ t ∈ findings.sections, t.Holds statement.line
    · obtain ⟨t, ht, hholds⟩ := hheld
      have hname := h.owned.owner_eq statement hst hdivision t ht hholds
      rw [Section.eq_of_name hnames hs ht (howner.symm.trans hname)]
      exact (hspans t ht).mpr hholds
    · -- the owner would be empty, and no section has an empty name
      have hempty := h.owned.owner_empty statement hst hdivision
        fun t ht hholds => hheld ⟨t, ht, hholds⟩
      exact absurd (howner.symm.trans hempty) (h.tidy s hs).name_ne_empty
  · intro hline
    exact h.owned.owner_eq statement hst hdivision s hs ((hspans s hs).mp hline)

/-- With distinct names, owning a statement by name is the same as holding its line. -/
theorem Ledger.names_eq (h : Ledger source options findings)
    (hnames : (findings.sections.map Section.name).Nodup) {s : Section}
    (hs : s ∈ findings.sections) :
    s.ownedNames findings.statements = s.namesAt findings.statements := by
  rw [Section.ownedNames, Section.namesAt]
  congr 1
  apply List.filter_congr
  intro statement hst
  by_cases hdivision : statement.division = .procedure
  · simp only [hdivision, h.owner_eq_iff hnames hs hst hdivision]
  · simp [hdivision]

end

/-! ### No operation twice -/

/-- How a report shows that a section reads a cursor. -/
def shownCursor (cursor : String) : String :=
  "SELECT [" ++ cursor ++ "]"

theorem shownCursor_injective {a b : String} (h : shownCursor a = shownCursor b) : a = b := by
  have hlist := congrArg String.toList h
  simp only [shownCursor, String.toList_append] at hlist
  exact String.toList_inj.mp (List.append_cancel_left (List.append_cancel_right hlist))

/-- A verb has six letters, and more is shown of a cursor. -/
theorem verb_ne_shownCursor {operation : Operation} (cursor : String) :
    operation.verb ≠ shownCursor cursor := by
  intro h
  have hlength := congrArg String.length h
  have hshort : operation.verb.length ≤ 6 := by
    cases operation <;> decide
  rw [hlength, shownCursor, String.length_append, String.length_append,
    show "SELECT [".length = 8 from by decide] at hshort
  omega

theorem databaseOperations_eq (s : Section) (cursors : List String) (statements : List Statement) :
    databaseOperations s.name cursors statements =
      (s.ownedNames statements).eraseDups ++ cursors.map shownCursor := by
  rw [databaseOperations, keepFirst_id_eq_eraseDups, s.verbs_eq_ownedNames]
  rfl

/-- A verb is never shown as a cursor is, so the two parts of the list do not meet. -/
theorem nodup_databaseOperations (owner : String) {cursors : List String} (hnodup : cursors.Nodup)
    (statements : List Statement) : (databaseOperations owner cursors statements).Nodup := by
  unfold databaseOperations
  rw [List.nodup_append]
  refine ⟨?_, ?_, ?_⟩
  · have hverbs := nodup_keepFirst id
      ((statements.filter (·.isOperationOf owner)).map (·.operation.verb))
    rwa [List.map_id] at hverbs
  · exact hnodup.map fun _ _ heq => shownCursor_injective heq
  · intro verb hverb shown hshown heq
    rw [mem_keepFirst_id] at hverb
    obtain ⟨statement, _, rfl⟩ := List.mem_map.mp hverb
    obtain ⟨cursor, _, rfl⟩ := List.mem_map.mp hshown
    exact verb_ne_shownCursor cursor heq

/-! ### Reports -/

theorem Source.of_analyze? {source : Source} {options : ScanOptions} {dictionary : Dictionary}
    {analysis : Analysis} (h : (source.analyze? options dictionary).value = some analysis) :
    analysis.sections = (CallGraph.analyze (source.scan options).value.sections).value.1 ∧
      analysis.statements = (source.scan options).value.statements := by
  simp only [analyze?, Logged.value_bind] at h
  split at h
  · exact absurd h (by simp)
  · -- clearing marks reports something and changes nothing here
    have hvalue : ∀ (cleared : Bool) (event : Event) (rest : Logged (Option Analysis)),
        (if cleared then Logged.log event >>= fun _ => rest else rest).value = rest.value := by
      intro cleared event rest
      cases cleared <;> rfl
    simp only [Logged.value_bind, hvalue] at h
    obtain rfl := Option.some.inj h
    exact ⟨rfl, rfl⟩

theorem CallGraph.map_name_analyze (sections : List Section) :
    (analyze sections).value.1.map Section.name = sections.map Section.name := by
  apply List.ext_getElem?
  intro i
  rw [List.getElem?_map, List.getElem?_map, analyze_getElem?, Option.map_map]
  rfl

/-- **The operations of sections.** Where a program has an analysis and no two sections have one
name, the report has one row for each section, in their order. The operations of a row are the names
of what the statements of the procedure division between the first and the last line of the section
do, each once and in the order in which they come first, and then the cursors of the section in the
order of their first fetches there. No operation is named twice. -/
theorem Source.report_operations (source : Source) (options : ScanOptions) (dictionary : Dictionary)
    (analysis : Analysis) (hanalysis : (source.analyze? options dictionary).value = some analysis)
    (hnames : (analysis.sections.map Section.name).Nodup) :
    let rows := (Report.ofAnalysis analysis).rows
    rows.length = analysis.sections.length ∧
    ∀ (i : Nat) (s : Section), analysis.sections[i]? = some s →
      s.cursors = Fetch.cursorsAt (fun line => s.Encloses line) (declaredIn analysis.statements)
        (source.fetches options) ∧
      ∃ row, rows[i]? = some row ∧ row.index = i ∧ row.body = s ∧
        row.operations =
          (s.namesAt analysis.statements).eraseDups ++ s.cursors.map shownCursor ∧
        row.operations.Nodup := by
  intro rows
  have hledger := source.scan_ledger options
  obtain ⟨hsections, hstatements⟩ := Source.of_analyze? hanalysis
  rw [hsections, CallGraph.map_name_analyze] at hnames
  refine ⟨by simp [rows, Report.ofAnalysis, Report.rowsOf], ?_⟩
  intro i s hs
  have hrow : rows[i]? = some ⟨i, s, databaseOperations s.name s.cursors analysis.statements⟩ := by
    simp only [rows, Report.ofAnalysis, Report.rowsOf, List.getElem?_mapIdx, hs, Option.map_some]
  rw [hsections, CallGraph.analyze_getElem?] at hs
  obtain ⟨found, hfound, rfl⟩ := Option.map_eq_some_iff.mp hs
  have hmem := List.mem_of_getElem? hfound
  refine ⟨?_, _, hrow, rfl, rfl, ?_, ?_⟩
  · rw [hstatements]
    refine (hledger.attributed.cursors_eq found hmem).trans ?_
    apply Fetch.cursorsAt_congr
    intro fetch _
    exact decide_eq_decide.mpr ((hledger.within found hmem).encloses_iff fetch.line).symm
  · rw [hstatements]
    refine (databaseOperations_eq found _ _).trans ?_
    rw [hledger.names_eq hnames hmem]
    rfl
  · exact nodup_databaseOperations _ (hledger.tidy found hmem).cursors_nodup _

/-- A section that fetches a cursor and does everything that there is to tables, some of it twice,
one that deletes and rolls back, and one that does nothing. -/
def purgeSource : Source :=
  ⟨"PURGE.cbl",
    ["       DATA DIVISION.",
      "           EXEC SQL",
      "             DECLARE C1 CURSOR END-EXEC.",
      "       PROCEDURE DIVISION.",
      "       MAIN SECTION.",
      "           EXEC SQL",
      "             FETCH C1 END-EXEC.",
      "           EXEC SQL",
      "             DELETE FROM T END-EXEC.",
      "           EXEC SQL",
      "             CREATE TABLE T END-EXEC.",
      "           EXEC SQL",
      "             INSERT INTO T END-EXEC.",
      "           EXEC SQL",
      "             DELETE FROM U END-EXEC.",
      "           EXEC SQL",
      "             SELECT A FROM T END-EXEC.",
      "           EXEC SQL",
      "             UPDATE T SET A END-EXEC.",
      "       UNDO SECTION.",
      "           EXEC SQL",
      "             ROLLBACK END-EXEC.",
      "           EXEC SQL",
      "             DELETE FROM T END-EXEC.",
      "       SUB SECTION."]⟩

theorem purgeSource_report_operations :
    ∃ analysis s, (purgeSource.analyze? {} {}).value = some analysis ∧
      (analysis.sections.map Section.name).Nodup ∧ analysis.sections[0]? = some s ∧
      (Report.ofAnalysis analysis).rows.map Row.operations =
        [["DELETE", "CREATE", "INSERT", "SELECT", "UPDATE", "SELECT [C1]"], ["DELETE"], []] ∧
      ∃ row, (Report.ofAnalysis analysis).rows[0]? = some row ∧
        (s.namesAt analysis.statements).eraseDups ++ s.cursors.map shownCursor =
          ["DELETE", "CREATE", "INSERT", "SELECT", "UPDATE", "SELECT [C1]"] ∧
        row.operations =
          (s.namesAt analysis.statements).eraseDups ++ s.cursors.map shownCursor ∧
        row.operations.Nodup := by
  have hvalue : (purgeSource.analyze? {} {}).value.map (fun analysis =>
      (analysis.sections.map Section.name, (Report.ofAnalysis analysis).rows.map Row.operations)) =
      some (["MAIN", "UNDO", "SUB"],
        [["DELETE", "CREATE", "INSERT", "SELECT", "UPDATE", "SELECT [C1]"], ["DELETE"], []]) := by
    decide +kernel
  obtain ⟨analysis, hanalysis, hpair⟩ := Option.map_eq_some_iff.mp hvalue
  obtain ⟨hnames, hrows⟩ := Prod.mk.inj hpair
  have hnodup : (analysis.sections.map Section.name).Nodup := by
    rw [hnames]
    decide
  obtain ⟨s, hs⟩ : ∃ s, analysis.sections[0]? = some s := by
    rcases hlist : analysis.sections with _ | ⟨s, rest⟩
    · simp [hlist] at hnames
    · exact ⟨s, rfl⟩
  obtain ⟨_, row, hrow, _, _, hoperations, hrownodup⟩ :=
    (Source.report_operations purgeSource {} {} analysis hanalysis hnodup).2 0 s hs
  have hfirst := congrArg (fun all => all[0]?) hrows
  simp only [List.getElem?_map, hrow, Option.map_some, List.getElem?_cons_zero,
    Option.some.injEq] at hfirst
  exact ⟨analysis, s, hanalysis, hnodup, hs, hrows, row, hrow, hoperations.symm.trans hfirst,
    hoperations, hrownodup⟩

end CobolAtlas
