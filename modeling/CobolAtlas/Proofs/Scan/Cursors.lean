import CobolAtlas.Proofs.Scan.Action
import CobolAtlas.Proofs.Scan.Ownership

/-!
# Cursors and the sections that fetch them

A cursor is declared in the data division and belongs to the section that fetched it last. While the
program is read, each fetch rewrites the owners of statements that were recorded long before, and
it is remembered by the open section only if the cursor is declared by then. Over the whole program
this comes to a simple rule, because no declaration is recorded once a section has started
(`DataFirst`): what is declared at a fetch is what is declared at the end.

`Attributed` relates the fetches that were made so far to the owners of the declarations and to the
cursors of the sections. A line keeps it if the fetch that the line makes is added
(`Attributed.perform`).
-/

namespace CobolAtlas

/-- A fetch of a cursor, at a line of a program. -/
structure Fetch where
  line : Nat
  cursor : String
  deriving DecidableEq, Repr

instance (s : Section) (line : Nat) : Decidable (s.Holds line) :=
  inferInstanceAs (Decidable (s.startLine < line ∧ ∀ e, s.endLine = some e → line ≤ e))

instance (s : Section) (line : Nat) : Decidable (s.Encloses line) :=
  inferInstanceAs (Decidable (∃ e, s.endLine = some e ∧ s.startLine < line ∧ line ≤ e))

/-- Whether one of the statements declares the cursor in the data division. -/
def declaredIn (statements : List Statement) (cursor : String) : Bool :=
  statements.any fun statement => statement.declares cursor

/-! ### Lists of fetches -/

namespace Fetch

def lastOf? (fetches : List Fetch) (cursor : String) : Option Fetch :=
  (fetches.filter fun fetch => fetch.cursor = cursor).getLast?

/-- The cursors that are declared and fetched at certain lines, in the order of their first fetches
there. -/
def cursorsAt (lines : Nat → Bool) (declared : String → Bool) (fetches : List Fetch) :
    List String :=
  keepFirst id
    ((fetches.filter fun fetch => lines fetch.line && declared fetch.cursor).map Fetch.cursor)

variable {fetches : List Fetch}

theorem mem_of_lastOf? {cursor : String} {fetch : Fetch} (h : lastOf? fetches cursor = some fetch) :
    fetch ∈ fetches :=
  (List.mem_filter.mp (List.mem_of_getLast? h)).1

/-- The last fetch of a cursor counts. -/
theorem lastOf?_concat (fetches : List Fetch) (fetch : Fetch) (cursor : String) :
    lastOf? (fetches ++ [fetch]) cursor =
      if fetch.cursor = cursor then some fetch else lastOf? fetches cursor := by
  unfold lastOf?
  rw [List.filter_append]
  by_cases hcursor : fetch.cursor = cursor
  · simp [hcursor]
  · simp [hcursor]

theorem cursorsAt_congr (lines others : Nat → Bool) (declared : String → Bool)
    (h : ∀ fetch ∈ fetches, lines fetch.line = others fetch.line) :
    cursorsAt lines declared fetches = cursorsAt others declared fetches := by
  unfold cursorsAt
  congr 2
  apply List.filter_congr
  intro fetch hfetch
  rw [h fetch hfetch]

theorem cursorsAt_of_none {lines : Nat → Bool} (declared : String → Bool)
    (h : ∀ fetch ∈ fetches, lines fetch.line = false) : cursorsAt lines declared fetches = [] := by
  have hnone : fetches.filter (fun fetch => lines fetch.line && declared fetch.cursor) = [] := by
    rw [List.filter_eq_nil_iff]
    intro fetch hfetch
    simp [h fetch hfetch]
  rw [cursorsAt, hnone]
  rfl

/-- A cursor is listed at its first fetch in a section. -/
theorem cursorsAt_concat (lines : Nat → Bool) (declared : String → Bool) (fetches : List Fetch)
    (fetch : Fetch) :
    cursorsAt lines declared (fetches ++ [fetch]) =
      if (lines fetch.line && declared fetch.cursor) = true ∧
          fetch.cursor ∉ cursorsAt lines declared fetches then
        cursorsAt lines declared fetches ++ [fetch.cursor]
      else cursorsAt lines declared fetches := by
  unfold cursorsAt
  simp only [List.filter_append, List.map_append, mem_keepFirst_id]
  by_cases hcounts : (lines fetch.line && declared fetch.cursor) = true
  · simp only [List.filter_cons, hcounts, if_true, List.filter_nil, List.map_cons, List.map_nil,
      keepFirst_concat, List.map_id, id, true_and, ite_not]
  · simp [hcounts]

end Fetch

namespace Scan

/-! ### The fetches of a run -/

/-- The fetch that a line makes in the state that has entered its division: the line is read at all,
it belongs to an open block, and a section is open. -/
def fetchAt? (scan : Scan) (raw : String) : Option Fetch :=
  if scan.block.isSome = true ∧ scan.current.isSome = true ∧
      scan.division.isStructural (scan.wordsOf raw) = true then
    (Sql.fetchedCursor? (scan.wordsOf raw)).map (Fetch.mk (scan.line + 1))
  else none

/-- The fetches of the lines that are read from a state, in their order. -/
def fetches (options : ScanOptions) : Scan → List String → List Fetch
  | _, [] => []
  | scan, raw :: rest =>
    ((scan.entered raw).fetchAt? raw).toList ++
      fetches options (scan.readLine options raw).value rest

theorem dataAction_ne_blockLine (words : List String) : dataAction words ≠ .blockLine := by
  unfold dataAction
  split
  · simp
  · split <;> simp

theorem procedureAction_ne_blockLine (options : ScanOptions) (scan : Scan) (words : List String) :
    procedureAction options scan words ≠ .blockLine := by
  unfold procedureAction bodyAction
  repeat' split
  all_goals simp

/-- Only an open block makes a line part of SQL. -/
theorem action_eq_blockLine_iff (options : ScanOptions) (scan : Scan) (words : List String) :
    scan.action options words = .blockLine ↔
      scan.division.isStructural words = true ∧ scan.block.isSome = true ∧
        (scan.division = .data ∨ scan.division = .procedure) := by
  unfold action
  by_cases hstructural : scan.division.isStructural words = true
  · rw [if_pos hstructural]
    by_cases hblock : scan.block.isSome = true
    · rcases hdivision : scan.division with _ | _ | _ | _ | _ <;> simp_all
    · rcases hdivision : scan.division with _ | _ | _ | _ | _ <;>
        simp_all [dataAction_ne_blockLine, procedureAction_ne_blockLine]
  · simp [hstructural]

section

variable {scan : Scan}

/-- A section is open in the procedure division only. -/
theorem DataFirst.procedure_of_current (h : scan.DataFirst)
    (hcurrent : scan.current.isSome = true) : scan.division = .procedure := by
  by_cases hdivision : scan.division = .procedure
  · exact hdivision
  · obtain ⟨s, hs⟩ := Option.isSome_iff_exists.mp hcurrent
    have hnone := h.no_sections hdivision
    simp [sections, hs] at hnone

theorem fetchAt?_of_blockLine (options : ScanOptions) (hdata : scan.DataFirst) {raw : String}
    (haction : scan.action options (scan.wordsOf raw) = .blockLine) :
    scan.fetchAt? raw = (scan.fetchOf? (scan.wordsOf raw)).map (Fetch.mk (scan.line + 1)) := by
  obtain ⟨hstructural, hblock, _⟩ := (action_eq_blockLine_iff options scan _).mp haction
  unfold fetchAt? fetchOf?
  by_cases hcurrent : scan.current.isSome = true
  · rw [if_pos ⟨hblock, hcurrent, hstructural⟩,
      if_pos ⟨hdata.procedure_of_current hcurrent, hcurrent⟩]
  · rw [if_neg (fun h => hcurrent h.2.1), if_neg (fun h => hcurrent h.2)]
    rfl

theorem fetchAt?_of_ne_blockLine (options : ScanOptions) (hdata : scan.DataFirst) {raw : String}
    (haction : scan.action options (scan.wordsOf raw) ≠ .blockLine) : scan.fetchAt? raw = none := by
  apply if_neg
  rintro ⟨hblock, hcurrent, hstructural⟩
  apply haction
  rw [action_eq_blockLine_iff]
  exact ⟨hstructural, hblock, .inr (hdata.procedure_of_current hcurrent)⟩

end

/-! ### Sections keep their cursors -/

/-- The sections `new` have the cursors of `old` and hold the same of the first `n` lines; other
sections start behind these lines and have fetched nothing. -/
def SameCursors (n : Nat) (old new : List Section) : Prop :=
  ∀ t ∈ new, (t.startLine = n + 1 ∧ t.cursors = []) ∨
    ∃ s ∈ old, t.cursors = s.cursors ∧ ∀ m ≤ n, s.Holds m ↔ t.Holds m

theorem SameCursors.refl (n : Nat) (sections : List Section) : SameCursors n sections sections :=
  fun t ht => .inr ⟨t, ht, rfl, fun _ _ => Iff.rfl⟩

theorem SameCursors.replaced {n : Nat} (ended : List Section) {current : Option Section}
    {f : Section → Section} (hcursors : ∀ s, (f s).cursors = s.cursors)
    (hholds : ∀ s, current = some s → ∀ m ≤ n, s.Holds m ↔ (f s).Holds m) :
    SameCursors n (ended ++ current.toList) (ended ++ (current.map f).toList) := by
  rcases current with _ | s
  · exact .refl n _
  · intro t ht
    rcases List.mem_append.mp ht with ht | ht
    · exact .inr ⟨t, List.mem_append_left _ ht, rfl, fun _ _ => Iff.rfl⟩
    · rw [show t = f s by simpa using ht]
      exact .inr ⟨s, by simp, hcursors s, hholds s rfl⟩

theorem SameCursors.closed {n : Nat} {ended : List Section} {current : Option Section}
    (h : LaidOut n ended current) {line : Nat} (hline : n ≤ line) :
    SameCursors n (ended ++ current.toList) (ended ++ (current.map (·.close line)).toList) :=
  .replaced ended (fun _ => rfl)
    fun s hs _ hm => holds_close_iff (h.current_open s hs) hline hm

theorem SameCursors.added {n : Nat} {old new : List Section} (h : SameCursors n old new)
    {u : Section} (hstart : u.startLine = n + 1) (hcursors : u.cursors = []) :
    SameCursors n old (new ++ [u]) := by
  intro t ht
  rcases List.mem_append.mp ht with ht | ht
  · exact h t ht
  · rw [List.mem_singleton.mp ht]
    exact .inl ⟨hstart, hcursors⟩

/-- Only the lines of blocks fetch. -/
theorem sameCursors_perform (options : ScanOptions) {scan : Scan}
    (h : LaidOut scan.line scan.ended scan.current) (raw : String) {action : Action}
    (haction : action ≠ .blockLine) :
    SameCursors scan.line scan.sections (scan.perform options raw action).sections := by
  unfold sections
  cases action with
  | blockLine => exact absurd rfl haction
  | openSection => exact (SameCursors.closed h (Nat.le_refl _)).added rfl rfl
  | closeSection => simpa [perform] using SameCursors.closed h (Nat.le_succ scan.line)
  | call call => exact .replaced scan.ended (fun _ => rfl) fun _ _ _ _ => Iff.rfl
  | skip => exact .refl _ _
  | copyMember => exact .refl _ _
  | openBlock => exact .refl _ _
  | condition => exact .refl _ _

theorem statements_perform (options : ScanOptions) (scan : Scan) (raw : String) {action : Action}
    (haction : action ≠ .blockLine) :
    (scan.perform options raw action).statements = scan.statements := by
  cases action with
  | blockLine => exact absurd rfl haction
  | skip => rfl
  | copyMember => rfl
  | openBlock => rfl
  | openSection => rfl
  | closeSection => rfl
  | call => rfl
  | condition => rfl

/-! ### Declarations -/

theorem declaredIn_withOwner (statements : List Statement) (cursor owner : String) :
    declaredIn (withOwner statements cursor owner) = declaredIn statements := by
  funext other
  have hmap := map_withOwner (fun statement => statement.declares other) (fun _ _ => rfl) statements
    cursor owner
  have hany := congrArg (fun flags => flags.any id) hmap
  simpa [declaredIn, List.any_map, Function.comp_def] using hany

theorem declaredIn_concat {statements : List Statement} {statement : Statement}
    (h : statement.division ≠ .data) :
    declaredIn (statements ++ [statement]) = declaredIn statements := by
  funext cursor
  simp [declaredIn, Statement.declares, h]

/-- The owner of a declaration: the section that holds the last fetch of the cursor. -/
def OwnerFrom (sections : List Section) (fetches : List Fetch) (cursor owner : String) : Prop :=
  match Fetch.lastOf? fetches cursor with
  | none => owner = ""
  | some fetch => ∃ s ∈ sections, s.Holds fetch.line ∧ owner = s.name

/-- The owners of declarations and the cursors of sections after `n` lines, by the fetches that
these lines make. -/
structure Attributed (n : Nat) (sections : List Section) (statements : List Statement)
    (fetches : List Fetch) : Prop where
  line_le : ∀ fetch ∈ fetches, fetch.line ≤ n
  no_fetches : sections = [] → fetches = []
  owner_from : ∀ statement ∈ statements, statement.division = .data →
    ∀ cursor, statement.cursor = some cursor →
      OwnerFrom sections fetches cursor statement.owner
  cursors_eq : ∀ s ∈ sections,
    s.cursors = Fetch.cursorsAt (fun line => s.Holds line) (declaredIn statements) fetches

section

variable {n : Nat} {sections : List Section} {statements : List Statement} {fetches : List Fetch}

/-- The owner of a cursor is found again after a step, since the line of the fetch is held by the
same section. -/
theorem OwnerFrom.sameOwners {cursor owner : String} (h : OwnerFrom sections fetches cursor owner)
    (hle : ∀ fetch ∈ fetches, fetch.line ≤ n) {new : List Section}
    (hsame : SameOwners n sections new) : OwnerFrom new fetches cursor owner := by
  unfold OwnerFrom at h ⊢
  rcases hlast : Fetch.lastOf? fetches cursor with _ | fetch
  · rw [hlast] at h
    exact h
  · rw [hlast] at h
    obtain ⟨s, hs, hholds, howner⟩ := h
    obtain ⟨t, ht, hname, hnew⟩ := hsame.to_new s hs
    exact ⟨t, ht, hnew _ (hle fetch (Fetch.mem_of_lastOf? hlast)) hholds, howner.trans hname.symm⟩

theorem Attributed.init : Attributed 0 [] [] [] := by
  constructor <;> simp

theorem Attributed.next (h : Attributed n sections statements fetches) :
    Attributed (n + 1) sections statements fetches :=
  { h with line_le := fun fetch hfetch => Nat.le_succ_of_le (h.line_le fetch hfetch) }

/-- What happens to sections outside of blocks. -/
theorem Attributed.sameSections (h : Attributed n sections statements fetches) {new : List Section}
    (howners : SameOwners n sections new) (hcursors : SameCursors n sections new) :
    Attributed n new statements fetches where
  line_le := h.line_le
  no_fetches := by
    intro hnew
    apply h.no_fetches
    rw [List.eq_nil_iff_forall_not_mem]
    intro s hs
    obtain ⟨t, ht, _⟩ := howners.to_new s hs
    rw [hnew] at ht
    exact List.not_mem_nil ht
  owner_from := by
    intro statement hst hdivision cursor hcursor
    exact (h.owner_from statement hst hdivision cursor hcursor).sameOwners h.line_le howners
  cursors_eq := by
    intro t ht
    rcases hcursors t ht with ⟨hstart, hnone⟩ | ⟨s, hs, hsame, hholds⟩
    · rw [hnone, Fetch.cursorsAt_of_none]
      intro fetch hfetch
      -- the section starts behind all fetches
      have hle := h.line_le fetch hfetch
      simp only [decide_eq_false_iff_not]
      intro hin
      have hlt := hin.1
      omega
    · rw [hsame, h.cursors_eq s hs]
      apply Fetch.cursorsAt_congr
      intro fetch hfetch
      exact decide_eq_decide.mpr (hholds _ (h.line_le fetch hfetch))

/-- A statement that is no declaration, or that comes in front of all sections. -/
theorem Attributed.append (h : Attributed n sections statements fetches) {statement : Statement}
    (hdata : statement.division = .data → sections = [] ∧ statement.owner = "") :
    Attributed n sections (statements ++ [statement]) fetches where
  line_le := h.line_le
  no_fetches := h.no_fetches
  owner_from := by
    intro st hst hdivision cursor hcursor
    rcases List.mem_append.mp hst with hst | hst
    · exact h.owner_from st hst hdivision cursor hcursor
    · rw [List.mem_singleton.mp hst] at hdivision ⊢
      obtain ⟨hnone, howner⟩ := hdata hdivision
      rw [h.no_fetches hnone]
      exact howner
  cursors_eq := by
    intro s hs
    by_cases hdivision : statement.division = .data
    · rw [(hdata hdivision).1] at hs
      exact absurd hs List.not_mem_nil
    · rw [declaredIn_concat hdivision]
      exact h.cursors_eq s hs

theorem withOwner_owner {cursor owner : String} {statement : Statement}
    (hst : statement ∈ withOwner statements cursor owner) :
    statement.declares cursor = true ∧ statement.owner = owner ∨
      statement.declares cursor = false ∧ statement ∈ statements := by
  obtain ⟨old, hold, rfl⟩ := List.mem_map.mp hst
  by_cases hdeclares : old.declares cursor = true
  · rw [if_pos hdeclares]
    exact .inl ⟨hdeclares, rfl⟩
  · rw [if_neg hdeclares]
    exact .inr ⟨Bool.not_eq_true _ ▸ hdeclares, hold⟩

/-- What the open section is after a fetch. -/
def fetching (statements : List Statement) (cursor : String) (s : Section) : Section :=
  if declaredIn statements cursor then s.addFetch cursor else s

theorem fetching_name (statements : List Statement) (cursor : String) (s : Section) :
    (fetching statements cursor s).name = s.name := by
  unfold fetching
  split
  · exact addFetch_name s cursor
  · rfl

theorem fetching_startLine (statements : List Statement) (cursor : String) (s : Section) :
    (fetching statements cursor s).startLine = s.startLine := by
  unfold fetching
  split
  · exact s.addFetch_startLine cursor
  · rfl

theorem holds_fetching_iff (statements : List Statement) (cursor : String) (s : Section) (m : Nat) :
    s.Holds m ↔ (fetching statements cursor s).Holds m := by
  unfold fetching
  split
  · exact holds_addFetch_iff s cursor m
  · exact Iff.rfl

/-- A fetch lists a cursor once, and only a declared one. -/
theorem fetching_cursors (statements : List Statement) (cursor : String) (s : Section) :
    (fetching statements cursor s).cursors =
      if declaredIn statements cursor = true ∧ cursor ∉ s.cursors then s.cursors ++ [cursor]
      else s.cursors := by
  unfold fetching Section.addFetch
  by_cases hdeclared : declaredIn statements cursor = true
  · by_cases hmem : cursor ∈ s.cursors
    · simp [hdeclared, hmem]
    · simp [hdeclared, hmem]
  · simp [hdeclared]

/-- **A fetch** gives the declarations of the cursor to the open section. -/
theorem Attributed.fetch {ended : List Section} {s : Section}
    (h : Attributed n (ended ++ [s]) statements fetches) (hlaid : LaidOut n ended (some s))
    (cursor : String) :
    Attributed (n + 1) (ended ++ [fetching statements cursor s])
      (withOwner statements cursor s.name) (fetches ++ [⟨n + 1, cursor⟩]) := by
  have hholds := holds_fetching_iff statements cursor s
  have hnext : (fetching statements cursor s).Holds (n + 1) := by
    rw [← hholds]
    exact hlaid.holds_next rfl
  constructor
  · intro fetch hfetch
    rcases List.mem_append.mp hfetch with hfetch | hfetch
    · exact Nat.le_succ_of_le (h.line_le fetch hfetch)
    · apply Nat.le_of_eq
      rw [List.mem_singleton.mp hfetch]
  · simp
  · intro statement hst hdivision other hother
    unfold OwnerFrom
    rw [Fetch.lastOf?_concat]
    rcases withOwner_owner hst with ⟨hdeclares, howner⟩ | ⟨hdeclares, hold⟩
    · -- the new fetch is the last one of this cursor
      have heq : cursor = other := by
        simpa [Statement.declares, hdivision, hother, eq_comm] using hdeclares
      rw [if_pos heq]
      exact ⟨_, by simp, hnext, howner.trans (fetching_name statements cursor s).symm⟩
    · have hne : cursor ≠ other := by
        simpa [Statement.declares, hdivision, hother, eq_comm] using hdeclares
      rw [if_neg hne]
      exact (h.owner_from statement hold hdivision other hother).sameOwners h.line_le
        (.replaced ended (fetching_name statements cursor s)
          (fetching_startLine statements cursor s) fun m _ => hholds m)
  · intro t ht
    rw [declaredIn_withOwner, Fetch.cursorsAt_concat]
    rcases List.mem_append.mp ht with ht | ht
    · -- the new line is behind the sections that have ended
      rw [if_neg (by simp [hlaid.not_holds_next ht])]
      exact h.cursors_eq t (List.mem_append_left _ ht)
    · rw [List.mem_singleton.mp ht, fetching_cursors,
        Fetch.cursorsAt_congr _ (fun line => s.Holds line) _
          (fun fetch _ => decide_eq_decide.mpr (hholds fetch.line).symm),
        ← h.cursors_eq s (by simp)]
      simp [hnext]

end

/-! ### Lines -/

section

variable {scan : Scan} {fetches : List Fetch}

/-- Step lemma for a fetch: the cursor is owned by the section of the latest one. -/
theorem Attributed.fetched (h : Attributed scan.line scan.sections scan.statements fetches)
    (hlaid : LaidOut scan.line scan.ended scan.current) (words : List String) :
    Attributed (scan.line + 1) (scan.fetched words).sections (scan.fetched words).statements
      (fetches ++ ((scan.fetchOf? words).map (Fetch.mk (scan.line + 1))).toList) := by
  rcases hfetch : scan.fetchOf? words with _ | cursor
  · rw [fetched_of_none hfetch]
    simpa using h.next
  · obtain ⟨s, hcurrent⟩ : ∃ s, scan.current = some s := by
      apply Option.isSome_iff_exists.mp
      by_cases hopen : scan.division = .procedure ∧ scan.current.isSome = true
      · exact hopen.2
      · rw [fetchOf?, if_neg hopen] at hfetch
        exact absurd hfetch (by simp)
    have howner : scan.owner = s.name := by simp [owner, hcurrent]
    unfold sections at h
    rw [hcurrent] at h hlaid
    have hafter : (scan.fetched words).sections =
        scan.ended ++ [fetching scan.statements cursor s] := by
      rw [fetched_of_some hfetch, sections, hcurrent]
      by_cases hdeclared : scan.declared cursor = true
      · simp [fetching, hdeclared, show declaredIn scan.statements cursor = true from hdeclared]
      · simp [fetching, hdeclared, show ¬ declaredIn scan.statements cursor = true from hdeclared]
    rw [hafter, fetched_of_some hfetch, howner]
    exact h.fetch hlaid cursor

theorem Attributed.readOpenBlock (options : ScanOptions) {raw : String} {block : Sql.Block}
    (hblock : scan.block = some block) (hlaid : LaidOut scan.line scan.ended scan.current)
    (hdata : scan.DataFirst) (h : Attributed scan.line scan.sections scan.statements fetches) :
    Attributed (scan.line + 1) (scan.readOpenBlock options raw).sections
      (scan.readOpenBlock options raw).statements
      (fetches ++
        ((scan.fetchOf? (scan.wordsOf raw)).map (Fetch.mk (scan.line + 1))).toList) := by
  have hfetched := h.fetched hlaid (scan.wordsOf raw)
  have hafter : scan.readOpenBlock options raw =
      (scan.fetched (scan.wordsOf raw)).afterBlockLine
        (block.readLine options.tokenizer (scan.wordsOf raw) (Line.isContinuation raw) scan.owner
          (scan.line + 1)).value := by
    simp only [Scan.readOpenBlock, hblock]
  rw [hafter, sections, afterBlockLine_ended, afterBlockLine_current]
  rcases hline : (block.readLine options.tokenizer (scan.wordsOf raw) (Line.isContinuation raw)
      scan.owner (scan.line + 1)).value with goesOn | _ | statement
  · exact hfetched
  · rw [afterBlockLine_closed_statements, Option.toList_none, List.append_nil]
    exact hfetched
  · obtain ⟨hdivision, howner, _⟩ := Sql.Block.readLine_closed hline
    refine hfetched.append ?_
    intro hstatement
    have hnone := hdata.data_block block hblock (hdivision ▸ hstatement)
    rw [fetched_of_no_sections hnone, howner]
    refine ⟨hnone, owner_eq_empty hlaid ?_⟩
    rw [hnone]
    simp

/-- **One line** keeps the owners and the cursors right if its fetch is counted. -/
theorem Attributed.perform (options : ScanOptions) (raw : String)
    (hlaid : LaidOut scan.line scan.ended scan.current) (hdata : scan.DataFirst)
    (h : Attributed scan.line scan.sections scan.statements fetches) :
    let after := scan.perform options raw (scan.action options (scan.wordsOf raw))
    Attributed (scan.line + 1) after.sections after.statements
      (fetches ++ (scan.fetchAt? raw).toList) := by
  intro after
  by_cases haction : scan.action options (scan.wordsOf raw) = .blockLine
  · obtain ⟨_, hblock, _⟩ := (action_eq_blockLine_iff options scan _).mp haction
    obtain ⟨block, hblock⟩ := Option.isSome_iff_exists.mp hblock
    rw [fetchAt?_of_blockLine options hdata haction, show after = scan.readOpenBlock options raw by
      simp only [after, haction, Scan.perform]]
    exact h.readOpenBlock options hblock hlaid hdata
  · rw [fetchAt?_of_ne_blockLine options hdata haction, Option.toList_none, List.append_nil,
      statements_perform options scan raw haction]
    exact (h.sameSections ((change_perform options scan raw).sameOwners hlaid)
      (sameCursors_perform options hlaid raw haction)).next

/-- What the run keeps, with the fetches that were made. -/
structure Tracked (scan : Scan) (fetches : List Fetch) : Prop where
  laidOut : LaidOut scan.line scan.ended scan.current
  dataFirst : scan.DataFirst
  attributed : Attributed scan.line scan.sections scan.statements fetches

theorem Tracked.init : Tracked {} [] where
  laidOut := .init
  dataFirst := ⟨fun _ => rfl, by simp⟩
  attributed := .init

theorem Tracked.entered (h : Tracked scan fetches) (raw : String) :
    Tracked (scan.entered raw) fetches where
  laidOut := by
    unfold Scan.entered
    exact h.laidOut
  dataFirst := h.dataFirst.entered raw
  attributed := by
    rw [sections_entered, entered_statements, entered_line]
    exact h.attributed

theorem Tracked.passed {after : Scan} (raw : String)
    (hlaid : LaidOut (scan.line + 1) after.ended after.current) (hdata : after.DataFirst)
    (h : Attributed (scan.line + 1) after.sections after.statements fetches) :
    Tracked (scan.passed raw after) fetches where
  laidOut := hlaid
  dataFirst := hdata.passed scan raw
  attributed := by
    rw [sections_passed, passed_statements, passed_line]
    exact h

theorem Tracked.readLine (options : ScanOptions) (h : Tracked scan fetches) (raw : String) :
    Tracked (scan.readLine options raw).value
      (fetches ++ ((scan.entered raw).fetchAt? raw).toList) := by
  have henter := h.entered raw
  have hchange := change_perform options (scan.entered raw) raw
  have hattributed := henter.attributed.perform options raw henter.laidOut henter.dataFirst
  rw [wordsOf_entered] at hchange hattributed
  rw [readLine_perform, ← passed_entered]
  exact .passed raw (hchange.laidOut henter.laidOut) (hchange.dataFirst henter.dataFirst)
    hattributed

/-- Run lemma: after any lines the cursors are those of the fetches read. -/
theorem Tracked.readLines (options : ScanOptions) (lines : List String)
    (h : Tracked scan fetches) :
    Tracked (readLines options scan lines).value (fetches ++ scan.fetches options lines) := by
  induction lines generalizing scan fetches with
  | nil => simpa [Scan.fetches] using h
  | cons raw rest ih =>
    rw [readLines_cons_value, Scan.fetches, ← List.append_assoc]
    exact ih (h.readLine options raw)

end

end Scan

/-! ### Programs -/

/-- Two sections that enclose one line are the same section. -/
theorem Section.eq_of_encloses {sections : List Section}
    (hbefore : sections.Pairwise Section.Before) {line : Nat} {s t : Section} (hs : s ∈ sections)
    (ht : t ∈ sections) (hsl : s.Encloses line) (htl : t.Encloses line) : s = t := by
  obtain ⟨i, hi⟩ := List.mem_iff_getElem?.mp hs
  obtain ⟨j, hj⟩ := List.mem_iff_getElem?.mp ht
  obtain rfl := Section.encloses_unique hbefore hi hj hsl htl
  exact Option.some.inj (hi.symm.trans hj)

/-- The fetches of a program. -/
def Source.fetches (source : Source) (options : ScanOptions) : List Fetch :=
  Scan.fetches options {} source.lines

/-- **The owners of cursors.** A declaration of the data division belongs to the one section that
encloses the last fetch of its cursor, and to none if the cursor is never fetched. The cursors of a
section are those that it fetches and that are declared in the data division, each once, in the
order of their first fetches in the section. -/
theorem Source.scan_cursors_attributed (source : Source) (options : ScanOptions) :
    let findings := (source.scan options).value
    (∀ statement ∈ findings.statements, statement.division = .data →
      ∀ cursor, statement.cursor = some cursor →
        match Fetch.lastOf? (source.fetches options) cursor with
        | none => statement.owner = ""
        | some fetch => ∃ s ∈ findings.sections, s.Encloses fetch.line ∧ statement.owner = s.name ∧
            ∀ t ∈ findings.sections, t.Encloses fetch.line → t = s) ∧
    ∀ s ∈ findings.sections,
      s.cursors = Fetch.cursorsAt (fun line => s.Encloses line) (declaredIn findings.statements)
        (source.fetches options) := by
  have htracked := Scan.Tracked.init.readLines options source.lines
  rw [List.nil_append] at htracked
  have hlaid := htracked.laidOut
  have hclosed := hlaid.closed (Nat.le_refl _)
  have hattributed := htracked.attributed.sameSections
    (Scan.SameOwners.closed hlaid (Nat.le_refl _)) (Scan.SameCursors.closed hlaid (Nat.le_refl _))
  simp only [Source.scan, Logged.value_bind, Scan.finish_value]
  constructor
  · intro statement hst hdivision cursor hcursor
    have howner := hattributed.owner_from statement hst hdivision cursor hcursor
    unfold Scan.OwnerFrom at howner
    unfold Source.fetches
    rcases hlast : Fetch.lastOf? (Scan.fetches options {} source.lines) cursor with _ | fetch
    · rw [hlast] at howner
      exact howner
    · rw [hlast] at howner
      obtain ⟨s, hs, hholds, hname⟩ := howner
      have hin := ((hclosed.ended_within s hs).encloses_iff fetch.line).mpr hholds
      refine ⟨s, hs, hin, hname, ?_⟩
      intro t ht htin
      exact Section.eq_of_encloses hclosed.ended_before ht hs htin hin
  · intro s hs
    rw [hattributed.cursors_eq s hs]
    apply Fetch.cursorsAt_congr
    intro fetch _
    exact decide_eq_decide.mpr ((hclosed.ended_within s hs).encloses_iff fetch.line).symm

end CobolAtlas
