import CobolAtlas.Proofs.Distinct
import CobolAtlas.Proofs.Scan.Step
import CobolAtlas.Proofs.Words

/-!
# The layout of sections

A section ends at its exit line, in front of the next header, or at the end of the program,
whichever comes first. Whatever the program looks like, the sections that a scan finds lie one
behind the other inside the program, and what they hold is tidy: names without periods and spaces,
each target and each cursor once.

Two invariants of the run carry this. `LaidOut` relates the line that was read last, the sections
that have ended and the open one; `Contents` speaks of what the sections hold. The step lemmas
`Change.laidOut` and `Change.contents` go through what a line can do.
-/

namespace CobolAtlas

namespace Section

/-- The section has ended and lies inside the first `n` lines. -/
def Within (s : Section) (n : Nat) : Prop :=
  ∃ e, s.endLine = some e ∧ 1 ≤ s.startLine ∧ s.startLine ≤ e ∧ e ≤ n

/-- The section has ended in front of the header of another one. -/
def Before (s next : Section) : Prop :=
  ∃ e, s.endLine = some e ∧ e < next.startLine

/-- What a section holds before the calls are resolved. -/
structure Tidy (s : Section) : Prop where
  name_ne_empty : s.name ≠ ""
  no_period : '.' ∉ s.name.toList
  no_space : ' ' ∉ s.name.toList
  cursors_nodup : s.cursors.Nodup
  unresolved : ∀ call ∈ s.calls, call.resolved = none
  unmarked : s.reachable = false

theorem Within.mono {s : Section} {m n : Nat} (h : s.Within m) (hle : m ≤ n) : s.Within n := by
  obtain ⟨e, he, hpos, hstart, hend⟩ := h
  exact ⟨e, he, hpos, hstart, Nat.le_trans hend hle⟩

theorem close_within {s : Section} {line n : Nat} (hpos : 1 ≤ s.startLine)
    (hstart : s.startLine ≤ n) (hline : line ≤ n) : (s.close line).Within n :=
  ⟨max line s.startLine, rfl, hpos, Nat.le_max_right _ _, Nat.max_le.mpr ⟨hline, hstart⟩⟩

theorem Tidy.start {name : String} (title : String) (line : Nat) (hne : name ≠ "")
    (hperiod : '.' ∉ name.toList) (hspace : ' ' ∉ name.toList) : (start name title line).Tidy where
  name_ne_empty := hne
  no_period := hperiod
  no_space := hspace
  cursors_nodup := List.nodup_nil
  unresolved := by simp [Section.start]
  unmarked := rfl

theorem Tidy.addCall {s : Section} (h : s.Tidy) {call : Call} (hcall : call.resolved = none) :
    (s.addCall call).Tidy :=
  { h with
    unresolved := by
      intro c hc
      rcases List.mem_append.mp hc with hc | hc
      · exact h.unresolved c hc
      · rw [List.mem_singleton.mp hc]
        exact hcall }

theorem Tidy.addFetch {s : Section} (h : s.Tidy) (cursor : String) : (s.addFetch cursor).Tidy := by
  unfold Section.addFetch
  split
  · exact h
  · rename_i hnew
    exact { h with
      cursors_nodup := by
        rw [List.nodup_append]
        refine ⟨h.cursors_nodup, by simp, ?_⟩
        intro a ha b hb heq
        rw [List.mem_singleton.mp hb] at heq
        exact hnew (heq ▸ ha) }

theorem Tidy.close {s : Section} (h : s.Tidy) (line : Nat) : (s.close line).Tidy :=
  { h with
    unresolved := by
      intro call hcall
      exact h.unresolved call ((keepFirst_sublist Call.target s.calls).subset hcall) }

/-- A closed section calls no target twice. -/
theorem nodup_targets_close (s : Section) (line : Nat) :
    ((s.close line).calls.map Call.target).Nodup :=
  nodup_keepFirst Call.target s.calls

@[simp] theorem addFetch_startLine (s : Section) (cursor : String) :
    (s.addFetch cursor).startLine = s.startLine := by
  unfold addFetch
  split <;> rfl

@[simp] theorem addFetch_endLine (s : Section) (cursor : String) :
    (s.addFetch cursor).endLine = s.endLine := by
  unfold addFetch
  split <;> rfl

end Section

namespace Scan

/-! ### Places -/

/-- The sections after `line` lines: those that have ended stand one behind the other in these
lines, and the open one has its header behind them. -/
structure LaidOut (line : Nat) (ended : List Section) (current : Option Section) : Prop where
  ended_within : ∀ s ∈ ended, s.Within line
  ended_before : ended.Pairwise Section.Before
  start_pos : ∀ s, current = some s → 1 ≤ s.startLine
  start_le : ∀ s, current = some s → s.startLine ≤ line
  current_open : ∀ s, current = some s → s.endLine = none
  before_current : ∀ p ∈ ended, ∀ s, current = some s → p.Before s

theorem LaidOut.init : LaidOut 0 [] none where
  ended_within := by simp
  ended_before := List.Pairwise.nil
  start_pos := by simp
  start_le := by simp
  current_open := by simp
  before_current := by simp

section

variable {line : Nat} {ended : List Section} {current : Option Section}

theorem LaidOut.next (h : LaidOut line ended current) : LaidOut (line + 1) ended current where
  ended_within := fun s hs => (h.ended_within s hs).mono (Nat.le_succ line)
  ended_before := h.ended_before
  start_pos := h.start_pos
  start_le := fun s hs => Nat.le_succ_of_le (h.start_le s hs)
  current_open := h.current_open
  before_current := h.before_current

/-- Calls and fetches leave the open section where it is. -/
theorem LaidOut.moved {s t : Section} (h : LaidOut line ended (some s))
    (hstart : t.startLine = s.startLine) (hend : t.endLine = s.endLine) :
    LaidOut line ended (some t) where
  ended_within := h.ended_within
  ended_before := h.ended_before
  start_pos := by
    rintro _ ⟨⟩
    exact hstart ▸ h.start_pos s rfl
  start_le := by
    rintro _ ⟨⟩
    exact hstart ▸ h.start_le s rfl
  current_open := by
    rintro _ ⟨⟩
    exact hend ▸ h.current_open s rfl
  before_current := by
    rintro p hp _ ⟨⟩
    obtain ⟨e, he, hlt⟩ := h.before_current p hp s rfl
    exact ⟨e, he, hstart ▸ hlt⟩

/-- The open section ends at a line that was read. -/
theorem LaidOut.closed (h : LaidOut line ended current) {last : Nat} (hlast : last ≤ line) :
    LaidOut line (ended ++ (current.map (·.close last)).toList) none := by
  rcases current with _ | s
  · simpa using h
  · have hwithin : (s.close last).Within line :=
      Section.close_within (h.start_pos s rfl) (h.start_le s rfl) hlast
    constructor
    · intro p hp
      rcases List.mem_append.mp hp with hp | hp
      · exact h.ended_within p hp
      · rw [show p = s.close last by simpa using hp]
        exact hwithin
    · rw [List.pairwise_append]
      refine ⟨h.ended_before, by simp, ?_⟩
      intro p hp q hq
      rw [show q = s.close last by simpa using hq]
      exact h.before_current p hp s rfl
    · simp
    · simp
    · simp
    · simp

/-- A section starts at the next line. -/
theorem LaidOut.opened (h : LaidOut line ended none) (name title : String) :
    LaidOut (line + 1) ended (some (.start name title (line + 1))) where
  ended_within := h.next.ended_within
  ended_before := h.ended_before
  start_pos := by
    rintro _ ⟨⟩
    exact Nat.le_add_left 1 line
  start_le := by
    rintro _ ⟨⟩
    exact Nat.le_refl _
  current_open := by
    rintro _ ⟨⟩
    rfl
  before_current := by
    rintro p hp _ ⟨⟩
    obtain ⟨e, he, _, _, hle⟩ := h.ended_within p hp
    exact ⟨e, he, Nat.lt_succ_of_le hle⟩

end

theorem LaidOut.fetched {scan : Scan} (h : LaidOut scan.line scan.ended scan.current)
    (words : List String) :
    LaidOut scan.line (scan.fetched words).ended (scan.fetched words).current := by
  rcases fetched_cases scan words with hsame | ⟨s, cursor, hcurrent, _, _, _, hfetch⟩
  · rw [hsame]
    exact h
  · rw [hfetch]
    rw [hcurrent] at h
    exact h.moved (s.addFetch_startLine cursor) (s.addFetch_endLine cursor)

/-- Step lemma: a line leaves the sections in order and apart from each other. -/
theorem Change.laidOut {options : ScanOptions} {raw : String} {scan after : Scan}
    (hchange : Change options raw scan after) (h : LaidOut scan.line scan.ended scan.current) :
    LaidOut (scan.line + 1) after.ended after.current := by
  cases hchange with
  | skip => exact h.next
  | member => exact h.next
  | openBlock => exact h.next
  | blockLine =>
    rw [afterBlockLine_ended, afterBlockLine_current]
    exact (h.fetched (scan.wordsOf raw)).next
  | openSection => exact (h.closed (Nat.le_refl _)).opened _ _
  | closeSection s hcurrent =>
    have hclosed := h.next.closed (Nat.le_refl _)
    rw [hcurrent] at hclosed
    exact hclosed
  | call s call hcurrent =>
    rw [hcurrent] at h
    exact h.next.moved rfl rfl
  | condition => exact h.next

/-! ### Contents -/

/-- What the sections and the members of a scan hold. -/
structure Contents (scan : Scan) : Prop where
  ended_tidy : ∀ s ∈ scan.ended, s.Tidy
  current_tidy : ∀ s, scan.current = some s → s.Tidy
  targets_nodup : ∀ s ∈ scan.ended, (s.calls.map Call.target).Nodup
  members_nodup : (scan.members.map CopyMember.name).Nodup

theorem callOf?_resolved {conditions : Conditions} {words : List String} {call : Call}
    (h : callOf? conditions words = some call) : call.resolved = none := by
  simp only [callOf?] at h
  split at h
  · split at h
    · rw [← Option.some.inj h]
      rfl
    · exact absurd h (by simp)
  · rw [← Option.some.inj h]
    rfl
  · exact absurd h (by simp)

/-- A header names its section by a word of a line outside of blocks. -/
theorem header_name {scan : Scan} {raw : String} (hblock : scan.block = none)
    (hstructural : scan.Structural raw) :
    Text.head (scan.wordsOf raw) ≠ "" ∧ '.' ∉ (Text.head (scan.wordsOf raw)).toList ∧
      ' ' ∉ (Text.head (scan.wordsOf raw)).toList := by
  have hwords : scan.wordsOf raw = Line.codeWords raw := by
    unfold wordsOf
    rw [hblock]
    rfl
  obtain ⟨hspace, hperiod⟩ := Line.mem_codeWords (Line.head_mem_codeWords raw)
  rw [hwords]
  refine ⟨?_, hperiod, hspace⟩
  intro hempty
  simp only [Structural, Division.isStructural, hwords, hempty, Bool.and_eq_true] at hstructural
  exact absurd hstructural.1.1 (by decide)

/-- Closing keeps what is known of a section and drops its repeated calls. -/
theorem Contents.closed {ended : List Section} {current : Option Section}
    (hended : ∀ s ∈ ended, s.Tidy) (hcurrent : ∀ s, current = some s → s.Tidy)
    (htargets : ∀ s ∈ ended, (s.calls.map Call.target).Nodup) (line : Nat) :
    (∀ s ∈ ended ++ (current.map (·.close line)).toList, s.Tidy) ∧
      ∀ s ∈ ended ++ (current.map (·.close line)).toList, (s.calls.map Call.target).Nodup := by
  rcases current with _ | s
  · simpa using ⟨hended, htargets⟩
  · constructor
    · intro p hp
      rcases List.mem_append.mp hp with hp | hp
      · exact hended p hp
      · rw [show p = s.close line by simpa using hp]
        exact (hcurrent s rfl).close line
    · intro p hp
      rcases List.mem_append.mp hp with hp | hp
      · exact htargets p hp
      · rw [show p = s.close line by simpa using hp]
        exact s.nodup_targets_close line

theorem nodup_members_append {members : CopyMembers} {name : String} (comment : String)
    (h : (members.map CopyMember.name).Nodup) (hnew : members.has name = false) :
    ((members ++ [CopyMember.mk name comment]).map CopyMember.name).Nodup := by
  have hfresh : name ∉ members.map CopyMember.name := by
    intro hmem
    obtain ⟨member, hmember, rfl⟩ := List.mem_map.mp hmem
    have hhas : members.has member.name = true := by
      simp only [CopyMembers.has, List.any_eq_true]
      exact ⟨member, hmember, by simp⟩
    rw [hnew] at hhas
    exact absurd hhas (by simp)
  rw [List.map_append, List.nodup_append]
  refine ⟨h, by simp, ?_⟩
  intro a ha b hb heq
  rw [show b = name by simpa using hb] at heq
  exact hfresh (heq ▸ ha)

/-- Step lemma: a line leaves tidy sections and no copy member twice. -/
theorem Change.contents {options : ScanOptions} {raw : String} {scan after : Scan}
    (hchange : Change options raw scan after) (h : scan.Contents) : after.Contents := by
  cases hchange with
  | skip => exact h
  | member name _ _ hnew =>
    exact { h with members_nodup := nodup_members_append _ h.members_nodup hnew }
  | openBlock => exact { h with }
  | blockLine =>
    constructor
    all_goals
      simp only [afterBlockLine_ended, afterBlockLine_current, afterBlockLine_members]
    all_goals
      rcases fetched_cases scan (scan.wordsOf raw) with
        hsame | ⟨s, cursor, hcurrent, _, _, _, hfetch⟩
    · rw [hsame]; exact h.ended_tidy
    · rw [hfetch]; exact h.ended_tidy
    · rw [hsame]; exact h.current_tidy
    · rw [hfetch]
      rintro _ ⟨⟩
      exact (h.current_tidy s hcurrent).addFetch cursor
    · rw [hsame]; exact h.targets_nodup
    · rw [hfetch]; exact h.targets_nodup
    · rw [hsame]; exact h.members_nodup
    · rw [hfetch]; exact h.members_nodup
  | openSection _ hblock hstructural =>
    obtain ⟨hended, htargets⟩ :=
      Contents.closed h.ended_tidy h.current_tidy h.targets_nodup scan.line
    obtain ⟨hne, hperiod, hspace⟩ := header_name hblock hstructural
    exact
      { ended_tidy := hended
        current_tidy := by
          rintro _ ⟨⟩
          exact .start _ _ hne hperiod hspace
        targets_nodup := htargets
        members_nodup := h.members_nodup }
  | closeSection s hcurrent =>
    have hclosed := Contents.closed h.ended_tidy h.current_tidy h.targets_nodup (scan.line + 1)
    rw [hcurrent] at hclosed
    exact
      { ended_tidy := hclosed.1
        current_tidy := by simp
        targets_nodup := hclosed.2
        members_nodup := h.members_nodup }
  | call s call hcurrent _ _ hcall =>
    exact { h with
      current_tidy := by
        rintro _ ⟨⟩
        exact (h.current_tidy s hcurrent).addCall (callOf?_resolved hcall) }
  | condition => exact { h with }

end Scan

/-! ### Programs -/

theorem Scan.readLines_laidOut (options : ScanOptions) (lines : List String) :
    let scan := (Scan.readLines options {} lines).value
    Scan.LaidOut scan.line scan.ended scan.current := by
  refine Scan.readLines_induction (fun scan => Scan.LaidOut scan.line scan.ended scan.current) ?_ ?_
    lines {} Scan.LaidOut.init
  · intro scan raw h
    unfold Scan.entered
    exact h
  · intro scan raw after h hchange
    exact hchange.laidOut h

theorem Scan.readLines_contents (options : ScanOptions) (lines : List String) :
    (Scan.readLines options {} lines).value.Contents := by
  refine Scan.readLines_induction Scan.Contents ?_ ?_ lines {} ⟨by simp, by simp, by simp, by simp⟩
  · intro scan raw h
    unfold Scan.entered
    exact { h with }
  · intro scan raw after h hchange
    exact { hchange.contents h with }

/-- **The layout of sections.** In every program the sections lie inside the program and one behind
the other. Their names are words without periods, no call target and no cursor comes twice in a
section, no call is resolved and no section marked yet, and no member is copied twice. -/
theorem Source.scan_sections_laidOut (source : Source) (options : ScanOptions) :
    let findings := (source.scan options).value
    (∀ s ∈ findings.sections, s.Within source.lines.length) ∧
    findings.sections.Pairwise Section.Before ∧
    (∀ s ∈ findings.sections, s.name ≠ "" ∧ '.' ∉ s.name.toList ∧ ' ' ∉ s.name.toList) ∧
    (∀ s ∈ findings.sections, (s.calls.map Call.target).Nodup ∧ s.cursors.Nodup) ∧
    (∀ s ∈ findings.sections, (∀ call ∈ s.calls, call.resolved = none) ∧ s.reachable = false) ∧
    (findings.members.map CopyMember.name).Nodup := by
  have hlayout := (Scan.readLines_laidOut options source.lines).closed (Nat.le_refl _)
  have hcontents := Scan.readLines_contents options source.lines
  obtain ⟨htidy, htargets⟩ := Scan.Contents.closed hcontents.ended_tidy hcontents.current_tidy
    hcontents.targets_nodup (Scan.readLines options {} source.lines).value.line
  have hline : (Scan.readLines options {} source.lines).value.line = source.lines.length := by
    simp [Scan.readLines_line]
  simp only [Source.scan, Logged.value_bind, Scan.finish_value]
  refine ⟨?_, hlayout.ended_before, ?_, ?_, ?_, hcontents.members_nodup⟩
  · intro s hs
    exact hline ▸ hlayout.ended_within s hs
  · intro s hs
    exact ⟨(htidy s hs).name_ne_empty, (htidy s hs).no_period, (htidy s hs).no_space⟩
  · intro s hs
    exact ⟨htargets s hs, (htidy s hs).cursors_nodup⟩
  · intro s hs
    exact ⟨(htidy s hs).unresolved, (htidy s hs).unmarked⟩

end CobolAtlas
