import CobolAtlas.Proofs.Scan.Layout
import CobolAtlas.Proofs.Sql.Block

/-!
# The owners of statements

A statement of the procedure division belongs to the section whose lines hold it, and to none
outside of sections. The scan decides this when the block closes, long before the last line of the
section is known, so the invariant judges an open section by its header alone: it holds every line
behind it (`Section.Holds`). Whatever ends the section later, the lines that were read by then stay
in it (`Change.sameOwners`).

Statements of the data division come in front of all sections. A block that was opened there may
stay open behind the header of the procedure division, but no section starts inside a block
(`DataFirst`).
-/

namespace CobolAtlas

/-- The lines of a section behind its header; an open section holds every later line. -/
def Section.Holds (s : Section) (line : Nat) : Prop :=
  s.startLine < line ∧ ∀ e, s.endLine = some e → line ≤ e

namespace Scan

/-! ### Sections keep their lines -/

/-- The sections `new` hold the first `n` lines as `old` do; other sections start behind them. -/
structure SameOwners (n : Nat) (old new : List Section) : Prop where
  from_old : ∀ t ∈ new, t.startLine = n + 1 ∨
    ∃ s ∈ old, s.name = t.name ∧ s.startLine = t.startLine ∧ ∀ m ≤ n, t.Holds m → s.Holds m
  to_new : ∀ s ∈ old, ∃ t ∈ new, t.name = s.name ∧ ∀ m ≤ n, s.Holds m → t.Holds m

theorem SameOwners.refl (n : Nat) (sections : List Section) : SameOwners n sections sections where
  from_old := fun t ht => .inr ⟨t, ht, rfl, rfl, fun _ _ h => h⟩
  to_new := fun s hs => ⟨s, hs, rfl, fun _ _ h => h⟩

theorem SameOwners.replaced {n : Nat} (ended : List Section) {s t : Section}
    (hname : t.name = s.name) (hstart : t.startLine = s.startLine)
    (hholds : ∀ m ≤ n, s.Holds m ↔ t.Holds m) : SameOwners n (ended ++ [s]) (ended ++ [t]) := by
  constructor
  · intro p hp
    rcases List.mem_append.mp hp with hp | hp
    · exact .inr ⟨p, List.mem_append_left _ hp, rfl, rfl, fun _ _ h => h⟩
    · rw [List.mem_singleton.mp hp]
      exact .inr ⟨s, by simp, hname.symm, hstart.symm, fun m hm => (hholds m hm).mpr⟩
  · intro p hp
    rcases List.mem_append.mp hp with hp | hp
    · exact ⟨p, List.mem_append_left _ hp, rfl, fun _ _ h => h⟩
    · rw [List.mem_singleton.mp hp]
      exact ⟨t, by simp, hname, fun m hm => (hholds m hm).mp⟩

/-- A section that begins below the lines read owns none of them. -/
theorem SameOwners.added {n : Nat} {old new : List Section} (h : SameOwners n old new)
    {u : Section} (hu : u.startLine = n + 1) : SameOwners n old (new ++ [u]) := by
  constructor
  · intro p hp
    rcases List.mem_append.mp hp with hp | hp
    · exact h.from_old p hp
    · rw [List.mem_singleton.mp hp]
      exact .inl hu
  · intro s hs
    obtain ⟨t, ht, hname, hholds⟩ := h.to_new s hs
    exact ⟨t, List.mem_append_left _ ht, hname, hholds⟩

/-- Closing an open section at or behind line `n` leaves it the lines up to `n`. -/
theorem holds_close_iff {s : Section} (hopen : s.endLine = none) {n line : Nat} (hline : n ≤ line)
    {m : Nat} (hm : m ≤ n) : s.Holds m ↔ (s.close line).Holds m := by
  constructor
  · rintro ⟨hstart, _⟩
    refine ⟨hstart, ?_⟩
    rintro e ⟨⟩
    exact Nat.le_trans (Nat.le_trans hm hline) (Nat.le_max_left _ _)
  · rintro ⟨hstart, _⟩
    refine ⟨hstart, ?_⟩
    rw [hopen]
    simp

/-- Closing a section does not change whose the lines are that were read. -/
theorem SameOwners.closed {n : Nat} {ended : List Section} {current : Option Section}
    (h : LaidOut n ended current) {line : Nat} (hline : n ≤ line) :
    SameOwners n (ended ++ current.toList)
      (ended ++ (current.map (·.close line)).toList) := by
  rcases current with _ | s
  · exact .refl n _
  · exact .replaced ended rfl rfl fun m hm => holds_close_iff (h.current_open s rfl) hline hm

@[simp] theorem addFetch_name (s : Section) (cursor : String) :
    (s.addFetch cursor).name = s.name := by
  unfold Section.addFetch
  split <;> rfl

theorem holds_addFetch_iff (s : Section) (cursor : String) (m : Nat) :
    s.Holds m ↔ (s.addFetch cursor).Holds m := by
  simp [Section.Holds]

/-- Step lemma: a line read so far stays with the section that held it. -/
theorem Change.sameOwners {options : ScanOptions} {raw : String} {scan after : Scan}
    (hchange : Change options raw scan after) (h : LaidOut scan.line scan.ended scan.current) :
    SameOwners scan.line scan.sections after.sections := by
  unfold sections
  cases hchange with
  | skip => exact .refl _ _
  | member => exact .refl _ _
  | openBlock => exact .refl _ _
  | blockLine =>
    rw [afterBlockLine_ended, afterBlockLine_current]
    rcases fetched_cases scan (scan.wordsOf raw) with hsame | ⟨s, cursor, hcurrent, _, _, _, hfetch⟩
    · rw [hsame]
      exact .refl _ _
    · rw [hfetch, hcurrent]
      exact .replaced scan.ended (addFetch_name s cursor) (s.addFetch_startLine cursor)
        fun m _ => holds_addFetch_iff s cursor m
  | openSection => exact (SameOwners.closed h (Nat.le_refl _)).added rfl
  | closeSection s hcurrent =>
    have hclosed := SameOwners.closed h (Nat.le_succ scan.line)
    rw [hcurrent] at hclosed ⊢
    simpa using hclosed
  | call s call hcurrent =>
    rw [hcurrent]
    exact .replaced scan.ended rfl rfl fun m _ => Iff.rfl
  | condition => exact .refl _ _

/-! ### Sections start behind the data division -/

/-- There are no sections in front of the procedure division, and none while a block of the data
division is open. -/
structure DataFirst (scan : Scan) : Prop where
  no_sections : scan.division ≠ .procedure → scan.sections = []
  data_block : ∀ block, scan.block = some block → block.division = .data → scan.sections = []

theorem DataFirst.entered {scan : Scan} (h : scan.DataFirst) (raw : String) :
    (scan.entered raw).DataFirst where
  no_sections := by
    intro hdivision
    rw [sections_entered]
    apply h.no_sections
    intro hprocedure
    rw [entered_division, hprocedure] at hdivision
    exact hdivision (Division.advance_procedure _)
  data_block := by
    rw [sections_entered, entered_block]
    exact h.data_block

theorem DataFirst.passed {after : Scan} (h : after.DataFirst) (scan : Scan) (raw : String) :
    (scan.passed raw after).DataFirst where
  no_sections := by
    rw [sections_passed]
    exact h.no_sections
  data_block := by
    rw [sections_passed]
    exact h.data_block

theorem fetched_of_no_sections {scan : Scan} (h : scan.sections = []) (words : List String) :
    scan.fetched words = scan := by
  rcases fetched_cases scan words with hsame | ⟨s, cursor, hcurrent, _⟩
  · exact hsame
  · simp [sections, hcurrent] at h

/-- Step lemma: the data division comes before the first section. -/
theorem Change.dataFirst {options : ScanOptions} {raw : String} {scan after : Scan}
    (hchange : Change options raw scan after) (h : scan.DataFirst) : after.DataFirst := by
  cases hchange with
  | skip => exact h
  | member => exact ⟨h.no_sections, h.data_block⟩
  | openBlock =>
    refine ⟨h.no_sections, ?_⟩
    rintro _ ⟨⟩ hdata
    apply h.no_sections
    rw [show scan.division = .data from hdata]
    simp
  | blockLine block hblock =>
    constructor
    · intro hdivision
      rw [afterBlockLine_division] at hdivision
      have hnone : scan.sections = [] := by
        rcases fetched_cases scan (scan.wordsOf raw) with
          hsame | ⟨s, cursor, _, hprocedure, _, _, hfetch⟩
        · exact h.no_sections (hsame ▸ hdivision)
        · rw [hfetch] at hdivision
          exact absurd hprocedure hdivision
      rw [sections, afterBlockLine_ended, afterBlockLine_current, fetched_of_no_sections hnone]
      exact hnone
    · intro next hnext hdata
      rcases hline : (block.readLine options.tokenizer (scan.wordsOf raw) (Line.isContinuation raw)
          scan.owner (scan.line + 1)).value with goesOn | closed
      · rw [hline] at hnext
        obtain rfl : goesOn = next := Option.some.inj hnext
        have hnone : scan.sections = [] :=
          h.data_block block hblock (Sql.Block.readLine_goesOn hline ▸ hdata)
        rw [sections, afterBlockLine_ended, afterBlockLine_current, fetched_of_no_sections hnone]
        exact hnone
      · rw [hline] at hnext
        exact absurd hnext (by simp [afterBlockLine])
  | openSection hdivision hblock =>
    exact ⟨fun hother => absurd hdivision hother, by simp [hblock]⟩
  | closeSection s _ hdivision hblock =>
    exact ⟨fun hother => absurd hdivision hother, by simp [hblock]⟩
  | call s call _ hdivision hblock =>
    exact ⟨fun hother => absurd hdivision hother, by simp [hblock, addCall]⟩
  | condition s _ hdivision hblock =>
    exact ⟨fun hother => absurd hdivision hother, by simp [hblock, readCondition]⟩

/-! ### Statements -/

/-- The statements after `n` lines: they stand in ascending order, those of the procedure division
belong to the section that holds them, and those of the data division stand in front of all
sections. -/
structure Owned (n : Nat) (sections : List Section) (statements : List Statement) : Prop where
  ascending : (statements.map Statement.line).Pairwise (· < ·)
  line_le : ∀ statement ∈ statements, statement.line ≤ n
  owner_eq : ∀ statement ∈ statements, statement.division = .procedure →
    ∀ s ∈ sections, s.Holds statement.line → statement.owner = s.name
  owner_empty : ∀ statement ∈ statements, statement.division = .procedure →
    (∀ s ∈ sections, ¬ s.Holds statement.line) → statement.owner = ""
  data_before : ∀ statement ∈ statements, statement.division = .data →
    ∀ s ∈ sections, statement.line < s.startLine

section

variable {n : Nat} {sections : List Section} {statements : List Statement}

theorem Owned.init : Owned 0 [] [] := by
  constructor <;> simp

theorem Owned.next (h : Owned n sections statements) : Owned (n + 1) sections statements :=
  { h with line_le := fun statement hst => Nat.le_succ_of_le (h.line_le statement hst) }

theorem Owned.sameOwners (h : Owned n sections statements) {new : List Section}
    (hsame : SameOwners n sections new) : Owned n new statements where
  ascending := h.ascending
  line_le := h.line_le
  owner_eq := by
    intro statement hst hdivision t ht hholds
    rcases hsame.from_old t ht with hstart | ⟨s, hs, hname, _, hold⟩
    · have hle := h.line_le statement hst
      have hlt := hholds.1
      omega
    · rw [← hname]
      exact h.owner_eq statement hst hdivision s hs (hold _ (h.line_le statement hst) hholds)
  owner_empty := by
    intro statement hst hdivision hnone
    apply h.owner_empty statement hst hdivision
    intro s hs hholds
    obtain ⟨t, ht, _, hnew⟩ := hsame.to_new s hs
    exact hnone t ht (hnew _ (h.line_le statement hst) hholds)
  data_before := by
    intro statement hst hdivision t ht
    rcases hsame.from_old t ht with hstart | ⟨s, hs, _, hstart, _⟩
    · have hle := h.line_le statement hst
      omega
    · exact hstart ▸ h.data_before statement hst hdivision s hs

/-- Giving a cursor an owner changes nothing of a statement but the owner, and only in the data
division. -/
theorem mem_withOwner {cursor owner : String} {statement : Statement}
    (h : statement ∈ withOwner statements cursor owner) :
    ∃ old ∈ statements, statement.line = old.line ∧ statement.division = old.division ∧
      (old.division = .procedure → statement.owner = old.owner) := by
  obtain ⟨old, hold, rfl⟩ := List.mem_map.mp h
  refine ⟨old, hold, ?_⟩
  by_cases hdeclares : old.declares cursor = true
  · rw [if_pos hdeclares]
    refine ⟨rfl, rfl, ?_⟩
    -- a declaration stands in the data division
    intro hprocedure
    simp [Statement.declares, hprocedure] at hdeclares
  · rw [if_neg hdeclares]
    exact ⟨rfl, rfl, fun _ => rfl⟩

/-- A fetch changes nothing of a statement but its owner. -/
theorem map_withOwner {α : Type} (f : Statement → α)
    (hf : ∀ (statement : Statement) (owner : String),
      f { statement with owner := owner } = f statement)
    (statements : List Statement) (cursor owner : String) :
    (withOwner statements cursor owner).map f = statements.map f := by
  rw [withOwner, List.map_map]
  apply List.map_congr_left
  intro statement _
  rw [Function.comp_apply]
  split
  · exact hf statement owner
  · rfl

/-- A fetch only gives away declarations of the data division. -/
theorem Owned.withOwner (h : Owned n sections statements) (cursor owner : String) :
    Owned n sections (withOwner statements cursor owner) where
  ascending := by
    rw [map_withOwner Statement.line (fun _ _ => rfl)]
    exact h.ascending
  line_le := by
    intro statement hst
    obtain ⟨old, hold, hline, _, _⟩ := mem_withOwner hst
    exact hline ▸ h.line_le old hold
  owner_eq := by
    intro statement hst hdivision s hs hholds
    obtain ⟨old, hold, hline, hdiv, howner⟩ := mem_withOwner hst
    rw [howner (hdiv ▸ hdivision)]
    exact h.owner_eq old hold (hdiv ▸ hdivision) s hs (hline ▸ hholds)
  owner_empty := by
    intro statement hst hdivision hnone
    obtain ⟨old, hold, hline, hdiv, howner⟩ := mem_withOwner hst
    rw [howner (hdiv ▸ hdivision)]
    exact h.owner_empty old hold (hdiv ▸ hdivision) (hline ▸ hnone)
  data_before := by
    intro statement hst hdivision s hs
    obtain ⟨old, hold, hline, hdiv, _⟩ := mem_withOwner hst
    exact hline ▸ h.data_before old hold (hdiv ▸ hdivision) s hs

/-- A statement at the next line that is owned as it should be. -/
theorem Owned.append (h : Owned n sections statements) {statement : Statement}
    (hline : statement.line = n + 1)
    (howner : ∀ s ∈ sections, s.Holds (n + 1) → statement.owner = s.name)
    (hempty : (∀ s ∈ sections, ¬ s.Holds (n + 1)) → statement.owner = "")
    (hdata : statement.division = .data → sections = []) :
    Owned (n + 1) sections (statements ++ [statement]) := by
  -- the old statements keep what they have, the new one brings it
  have hmem : ∀ {p : Statement → Prop}, (∀ st ∈ statements, p st) → p statement →
      ∀ st ∈ statements ++ [statement], p st := by
    intro p hold hnew st hst
    rcases List.mem_append.mp hst with hst | hst
    · exact hold st hst
    · rw [List.mem_singleton.mp hst]
      exact hnew
  constructor
  · rw [List.map_append, List.pairwise_append]
    refine ⟨h.ascending, by simp, ?_⟩
    intro a ha b hb
    obtain ⟨old, hold, rfl⟩ := List.mem_map.mp ha
    rw [show b = n + 1 by simpa [hline] using hb]
    exact Nat.lt_succ_of_le (h.line_le old hold)
  · exact hmem h.next.line_le (Nat.le_of_eq hline)
  · exact hmem h.owner_eq fun _ s hs hholds => howner s hs (hline ▸ hholds)
  · exact hmem h.owner_empty fun _ hnone => hempty (hline ▸ hnone)
  · refine hmem h.data_before fun hdivision s hs => ?_
    rw [hdata hdivision] at hs
    exact absurd hs List.not_mem_nil

end

theorem LaidOut.not_holds_next {n : Nat} {ended : List Section} {current : Option Section}
    (h : LaidOut n ended current) {s : Section} (hs : s ∈ ended) : ¬ s.Holds (n + 1) := by
  intro hholds
  obtain ⟨e, he, _, _, hle⟩ := h.ended_within s hs
  have hlt := hholds.2 e he
  omega

theorem LaidOut.holds_next {n : Nat} {ended : List Section} {current : Option Section}
    (h : LaidOut n ended current) {s : Section} (hs : current = some s) : s.Holds (n + 1) := by
  refine ⟨Nat.lt_succ_of_le (h.start_le s hs), ?_⟩
  rw [h.current_open s hs]
  simp

/-- A section that holds the next line is the open one. -/
theorem owner_eq_of_holds {scan : Scan} (h : LaidOut scan.line scan.ended scan.current)
    {s : Section} (hs : s ∈ scan.sections) (hholds : s.Holds (scan.line + 1)) :
    scan.owner = s.name := by
  rcases List.mem_append.mp hs with hs | hs
  · exact absurd hholds (h.not_holds_next hs)
  · rw [Option.mem_toList] at hs
    simp [owner, Option.mem_def.mp hs]

theorem owner_eq_empty {scan : Scan} (h : LaidOut scan.line scan.ended scan.current)
    (hnone : ∀ s ∈ scan.sections, ¬ s.Holds (scan.line + 1)) : scan.owner = "" := by
  unfold owner
  rcases hcurrent : scan.current with _ | s
  · rfl
  · exact absurd (h.holds_next hcurrent) (hnone s (by simp [sections, hcurrent]))

theorem fetched_owner (scan : Scan) (words : List String) :
    (scan.fetched words).owner = scan.owner := by
  rcases fetched_cases scan words with hsame | ⟨s, cursor, hcurrent, _, _, _, hfetch⟩
  · rw [hsame]
  · rw [hfetch]
    simp [owner, hcurrent]

theorem fetched_line (scan : Scan) (words : List String) :
    (scan.fetched words).line = scan.line := by
  rcases fetched_cases scan words with hsame | ⟨s, cursor, _, _, _, _, hfetch⟩
  · rw [hsame]
  · rw [hfetch]

theorem Owned.fetched {scan : Scan} {sections : List Section}
    (h : Owned scan.line sections scan.statements) (words : List String) :
    Owned scan.line sections (scan.fetched words).statements := by
  rcases fetched_cases scan words with hsame | ⟨s, cursor, _, _, _, _, hfetch⟩
  · rw [hsame]
    exact h
  · rw [hfetch]
    exact h.withOwner cursor s.name

/-- Step lemma: a statement belongs to the section that holds its line. -/
theorem Change.owned {options : ScanOptions} {raw : String} {scan after : Scan}
    (hchange : Change options raw scan after) (hlaid : LaidOut scan.line scan.ended scan.current)
    (hdata : scan.DataFirst) (h : Owned scan.line scan.sections scan.statements) :
    Owned (scan.line + 1) after.sections after.statements := by
  have hsame := hchange.sameOwners hlaid
  cases hchange with
  | blockLine block hblock =>
    have hold := (h.sameOwners hsame).fetched (scan.wordsOf raw)
    rcases hline : (block.readLine options.tokenizer (scan.wordsOf raw) (Line.isContinuation raw)
        scan.owner (scan.line + 1)).value with goesOn | _ | statement
    · rw [hline] at hold
      exact hold.next
    · rw [hline] at hold
      simpa [afterBlockLine] using hold.next
    · obtain ⟨hdivision, howner, hat⟩ := Sql.Block.readLine_closed hline
      rw [hline] at hold
      have hfetched := hlaid.fetched (scan.wordsOf raw)
      rw [← fetched_line scan (scan.wordsOf raw)] at hfetched hat hold ⊢
      rw [← fetched_owner scan (scan.wordsOf raw)] at howner
      refine hold.append hat ?_ ?_ ?_
      · intro s hs hholds
        rw [howner]
        exact owner_eq_of_holds hfetched hs hholds
      · intro hnone
        rw [howner]
        exact owner_eq_empty hfetched hnone
      · intro hstatement
        have hnone := hdata.data_block block hblock (hdivision ▸ hstatement)
        rw [fetched_of_no_sections hnone]
        exact hnone
  | skip => exact (h.sameOwners hsame).next
  | member => exact (h.sameOwners hsame).next
  | openBlock => exact (h.sameOwners hsame).next
  | openSection => exact (h.sameOwners hsame).next
  | closeSection => exact (h.sameOwners hsame).next
  | call => exact (h.sameOwners hsame).next
  | condition => exact (h.sameOwners hsame).next

theorem readLines_owned (options : ScanOptions) (lines : List String) :
    let scan := (readLines options {} lines).value
    Owned scan.line scan.sections scan.statements := by
  -- the three invariants of the run are kept together
  let Inv : Scan → Prop := fun scan =>
    LaidOut scan.line scan.ended scan.current ∧ scan.DataFirst ∧
      Owned scan.line scan.sections scan.statements
  have hrun : Inv (readLines options {} lines).value := by
    refine readLines_induction Inv ?_ ?_ lines {}
      ⟨LaidOut.init, ⟨fun _ => rfl, by simp⟩, Owned.init⟩
    · rintro scan raw ⟨hlaid, hdata, howned⟩
      refine ⟨?_, hdata.entered raw, ?_⟩
      · unfold entered
        exact hlaid
      · rw [sections_entered]
        unfold entered
        exact howned
    · rintro scan raw after ⟨hlaid, hdata, howned⟩ hchange
      refine ⟨hchange.laidOut hlaid, (hchange.dataFirst hdata).passed scan raw, ?_⟩
      rw [sections_passed]
      exact hchange.owned hlaid hdata howned
  exact hrun.2.2

end Scan

/-! ### Programs -/

/-- A line of a section that has ended, behind its header. -/
def Section.Encloses (s : Section) (line : Nat) : Prop :=
  ∃ e, s.endLine = some e ∧ s.startLine < line ∧ line ≤ e

theorem Section.Within.encloses_iff {s : Section} {n : Nat} (h : s.Within n) (line : Nat) :
    s.Encloses line ↔ s.Holds line := by
  obtain ⟨e, he, _⟩ := h
  constructor
  · rintro ⟨e', he', hstart, hle⟩
    refine ⟨hstart, ?_⟩
    intro last hlast
    rw [he', Option.some.injEq] at hlast
    exact hlast ▸ hle
  · rintro ⟨hstart, hle⟩
    exact ⟨e, he, hstart, hle e he⟩

/-- No line is in two of the sections that stand one behind the other. -/
theorem Section.encloses_unique {sections : List Section}
    (hbefore : sections.Pairwise Section.Before) {line i j : Nat} {s t : Section}
    (hs : sections[i]? = some s) (ht : sections[j]? = some t) (hsl : s.Encloses line)
    (htl : t.Encloses line) : i = j := by
  have hnot : ∀ {p q : Section}, p.Before q → p.Encloses line → q.Encloses line → False := by
    rintro p q ⟨e, he, hlt⟩ ⟨e', he', _, hle⟩ ⟨_, _, hstart, _⟩
    rw [he, Option.some.injEq] at he'
    omega
  obtain ⟨hi, rfl⟩ := List.getElem?_eq_some_iff.mp hs
  obtain ⟨hj, rfl⟩ := List.getElem?_eq_some_iff.mp ht
  rcases Nat.lt_trichotomy i j with hlt | heq | hgt
  · exact (hnot (List.pairwise_iff_getElem.mp hbefore i j hi hj hlt) hsl htl).elim
  · exact heq
  · exact (hnot (List.pairwise_iff_getElem.mp hbefore j i hj hi hgt) htl hsl).elim

/-- **The owners of statements.** In every program the statements stand in ascending order of their
lines. A statement of the procedure division belongs to the one section that encloses its line, and
to none if there is no such section. A statement of the data division stands in front of every
section. -/
theorem Source.scan_statements_owned (source : Source) (options : ScanOptions) :
    let findings := (source.scan options).value
    findings.statements.Pairwise (fun a b => a.line < b.line) ∧
    (∀ statement ∈ findings.statements, statement.division = .procedure →
      (∀ (i : Nat) (s : Section), findings.sections[i]? = some s → s.Encloses statement.line →
        statement.owner = s.name ∧
        ∀ (j : Nat) (t : Section), findings.sections[j]? = some t →
          t.Encloses statement.line → j = i) ∧
      ((∀ s ∈ findings.sections, ¬ s.Encloses statement.line) → statement.owner = "")) ∧
    (∀ statement ∈ findings.statements, statement.division = .data →
      ∀ s ∈ findings.sections, statement.line < s.startLine) := by
  have hlaid := Scan.readLines_laidOut options source.lines
  have hclosed := hlaid.closed (Nat.le_refl _)
  have howned := (Scan.readLines_owned options source.lines).sameOwners
    (Scan.SameOwners.closed hlaid (Nat.le_refl _))
  have hiff : ∀ s ∈ (source.scan options).value.sections, ∀ line,
      s.Encloses line ↔ s.Holds line := by
    intro s hs line
    simp only [Source.scan, Logged.value_bind, Scan.finish_value] at hs
    exact (hclosed.ended_within s hs).encloses_iff line
  simp only [Source.scan, Logged.value_bind, Scan.finish_value] at hiff ⊢
  refine ⟨List.pairwise_map.mp howned.ascending, ?_, howned.data_before⟩
  intro statement hst hdivision
  refine ⟨?_, ?_⟩
  · intro i s hs hencloses
    have hmem := List.mem_of_getElem? hs
    refine ⟨howned.owner_eq statement hst hdivision s hmem ((hiff s hmem _).mp hencloses), ?_⟩
    intro j t ht htencloses
    exact Section.encloses_unique hclosed.ended_before ht hs htencloses hencloses
  · intro hnone
    apply howned.owner_empty statement hst hdivision
    intro s hs hholds
    exact hnone s hs ((hiff s hs _).mpr hholds)

end CobolAtlas
