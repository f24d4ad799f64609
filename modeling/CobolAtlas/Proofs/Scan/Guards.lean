import CobolAtlas.Proofs.Conditions
import CobolAtlas.Proofs.Scan.Step
import Mathlib.Data.List.Forall2

/-!
# The guards of calls

A section whose lines print a body has the calls of the body, each under the guards of the blocks
around it. The argument goes through the tree. A statement that is read under any guards and inside
any evaluations leaves them as they were and adds its calls (`leadsTo_item`); so do a body and the
arms of an evaluation, and the three are proved together.

Only a `WHEN` line looks back, at the line above it. The line above the first arm is the subject,
and the line above any other arm is the last line of a statement, which is never a `WHEN` line:
this is what `Settled` adds to `Inside`.
-/

namespace CobolAtlas

/-- The section makes some more calls. -/
def Section.addCalls (s : Section) (calls : List Call) : Section :=
  { s with calls := s.calls ++ calls }

theorem Section.addCall_addCalls (s : Section) (calls : List Call) (call : Call) :
    (s.addCalls calls).addCall call = s.addCalls (calls ++ [call]) := by
  simp [addCalls, addCall]

namespace Scan

/-! ### States inside a section -/

/-- The text of the line above the next one. -/
def lineAbove (scan : Scan) : String :=
  Text.without '.' (Line.format .code scan.above)

/-- The section `opened` is open, with the calls and the conditions as they are given. -/
structure Inside (opened : Section) (ended : List Section) (calls : List Call)
    (conditions : Conditions) (scan : Scan) : Prop where
  division_eq : scan.division = .procedure
  block_eq : scan.block = none
  ended_eq : scan.ended = ended
  current_eq : scan.current = some (opened.addCalls calls)
  conditions_eq : scan.conditions = conditions

/-- Inside a section behind a line that is no `WHEN` line. -/
structure Settled (opened : Section) (ended : List Section) (calls : List Call)
    (conditions : Conditions) (scan : Scan) : Prop
    extends Inside opened ended calls conditions scan where
  no_label : Conditions.labelAbove (some scan.lineAbove) = none

/-- However the clauses are printed, reading them leads to a state with `Q`, provided that none of
them starts with the exit label of the section. -/
def LeadsTo (options : ScanOptions) (opened : Section) (Q : Scan → Prop) :
    List (List String) → Scan → Prop
  | [], scan => Q scan
  | clause :: rest, scan =>
    Text.head clause ≠ opened.name ++ options.exitSuffix →
      ∀ raw, Line.Shows clause raw →
        LeadsTo options opened Q rest (scan.readLine options raw).value

section

variable {options : ScanOptions} {opened : Section} {ended : List Section} {calls : List Call}
  {conditions : Conditions} {scan : Scan}

theorem LeadsTo.mono {Q R : Scan → Prop} (hQ : ∀ after, Q after → R after)
    {clauses : List (List String)} {scan : Scan} (h : LeadsTo options opened Q clauses scan) :
    LeadsTo options opened R clauses scan := by
  induction clauses generalizing scan with
  | nil => exact hQ scan h
  | cons clause rest ih =>
    intro hexit raw hshows
    exact ih (h hexit raw hshows)

/-- Clauses in a row lead where the later ones lead from wherever the earlier ones do. -/
theorem LeadsTo.append {P Q : Scan → Prop} {earlier later : List (List String)} {scan : Scan}
    (h : LeadsTo options opened P earlier scan)
    (hlater : ∀ after, P after → LeadsTo options opened Q later after) :
    LeadsTo options opened Q (earlier ++ later) scan := by
  induction earlier generalizing scan with
  | nil => exact hlater scan h
  | cons clause rest ih =>
    intro hexit raw hshows
    exact ih (h hexit raw hshows)

theorem LeadsTo.cons {P Q : Scan → Prop} {clause : List String} {later : List (List String)}
    (h : LeadsTo options opened P [clause] scan)
    (hlater : ∀ after, P after → LeadsTo options opened Q later after) :
    LeadsTo options opened Q (clause :: later) scan :=
  h.append hlater

/-- From clauses to lines: any way to print the clauses is read as the clauses are. -/
theorem LeadsTo.readLines {Q : Scan → Prop} {clauses : List (List String)} {lines : List String}
    (hlines : List.Forall₂ Line.Shows clauses lines)
    (hexit : ∀ clause ∈ clauses, Text.head clause ≠ opened.name ++ options.exitSuffix)
    {scan : Scan} (h : LeadsTo options opened Q clauses scan) :
    Q (Scan.readLines options scan lines).value := by
  induction hlines generalizing scan with
  | nil => exact h
  | @cons clause raw rest lines hshows hrest ih =>
    rw [readLines_cons_value]
    refine ih (fun other hother => hexit other (List.mem_cons_of_mem _ hother)) ?_
    exact h (hexit clause List.mem_cons_self) raw hshows

/-! ### One clause -/

/-- A line of the procedure division outside of blocks. -/
theorem readLine_of_procedure (hdivision : scan.division = .procedure)
    (hblock : scan.block = none) {raw : String}
    (hstructural : Division.procedure.isStructural (Line.codeWords raw) = true) :
    (scan.readLine options raw).value =
      scan.passed raw
        (scan.readProcedure options (Line.codeWords raw) (scan.line + 1)).value := by
  have hcode : scan.wordsOf raw = Line.codeWords raw := by
    simp [wordsOf, hblock]
  have hread : (scan.entered raw).Structural raw := by
    rw [entered_eq_self hdivision, Structural, hcode, hdivision]
    exact hstructural
  rw [readLine_of_structural options hread, entered_eq_self hdivision, hcode, readWords, hdivision,
    hblock]

theorem isStructural_of_readable {words : List String} (hne : words ≠ [])
    (hwords : ∀ w ∈ words, Readable w) : Division.procedure.isStructural words = true := by
  obtain ⟨first, rest, rfl⟩ := List.exists_cons_of_ne_nil hne
  have hfirst := hwords first List.mem_cons_self
  have hdisplay : first ≠ "DISPLAY" := fun heq => hfirst.not_boundary (by simp [heq])
  have hsame : Text.without '.' (Text.head (first :: rest)) = first :=
    Text.without_of_not_mem hfirst.no_period
  have hempty : first.isEmpty = false := by simpa using hfirst.ne_empty
  simp only [Division.isStructural, hsame, hempty, Division.boilerplate]
  simpa [hdisplay] using hfirst.not_comment

theorem isHeader_of_readable {words : List String} (hwords : ∀ w ∈ words, Readable w) :
    isHeader words = false := by
  have hlast : words.getLast? ≠ some "SECTION" := by
    intro hsome
    exact (hwords _ (List.mem_of_getLast? hsome)).not_boundary (by decide)
  simp [isHeader, hlast]

/-- Readable words end no section, apart from the paragraph named for its exit. -/
theorem isExit_of_readable {words : List String} (hne : words ≠ [])
    (hwords : ∀ w ∈ words, Readable w) {s : Section}
    (hexit : Text.head words ≠ s.name ++ options.exitSuffix) : isExit options s words = false := by
  obtain ⟨first, rest, rfl⟩ := List.exists_cons_of_ne_nil hne
  have hfirst := (hwords first List.mem_cons_self).not_boundary
  unfold isExit
  split
  · rename_i heq
    have hsame : first = "EXIT" := heq
    exact absurd (by simp [hsame]) hfirst
  · rename_i heq
    have hsame : first = "GOBACK" := heq
    exact absurd (by simp [hsame]) hfirst
  · simpa using hexit

/-- A clause is neither a header nor an exit, so the body of the section reads it. -/
theorem Inside.readLine_value (h : Inside opened ended calls conditions scan)
    {words : List String} {raw : String} (hshows : Line.Shows words raw)
    (hwords : ∀ w ∈ words, Readable w)
    (hexit : Text.head words ≠ opened.name ++ options.exitSuffix) :
    (scan.readLine options raw).value =
      scan.passed raw
        (if conditions.isReading then scan.readCondition words
        else
          match callOf? conditions words with
          | some call => scan.addCall (opened.addCalls calls) call
          | none =>
            if Sql.opensBlock words then scan.openBlock .procedure
            else scan.readCondition words) := by
  have hne := hshows.words_ne_nil
  have hcode : Line.codeWords raw = words :=
    hshows.codeWords_eq fun w hw => (hwords w hw).toLegible
  have hstructural : Division.procedure.isStructural (Line.codeWords raw) = true :=
    hcode ▸ isStructural_of_readable hne hwords
  have hnotExit : isExit options (opened.addCalls calls) words = false :=
    isExit_of_readable hne hwords hexit
  rw [readLine_of_procedure h.division_eq h.block_eq hstructural, hcode]
  simp only [readProcedure, isHeader_of_readable hwords, h.current_eq, readBody, hnotExit,
    h.conditions_eq, Bool.false_eq_true, if_false]
  by_cases hreading : conditions.isReading = true
  · simp [hreading]
  · rcases callOf? conditions words with _ | call
    · by_cases hopens : Sql.opensBlock words = true
      · simp [hreading, hopens]
      · simp [hreading, hopens]
    · simp [hreading]

theorem lineAbove_passed {words : List String} {raw : String} (hshows : Line.Shows words raw)
    (hwords : ∀ w ∈ words, Readable w) (scan after : Scan) :
    (scan.passed raw after).lineAbove = Text.unwords words :=
  hshows.without_format_eq fun w hw => (hwords w hw).toLegible

/-- A line that is no `WHEN` gives no label to the line below it. -/
theorem labelAbove_unwords {words : List String} (hne : words ≠ [])
    (hwords : ∀ w ∈ words, Readable w) (hwhen : Text.head words ≠ "WHEN") :
    Conditions.labelAbove (some (Text.unwords words)) = none := by
  have hsame := Legible.words_unwords hne fun w hw => (hwords w hw).toLegible
  simp [Conditions.labelAbove, hsame, hwhen]

theorem callOf?_eq_none {words : List String} (hperform : Text.head words ≠ "PERFORM")
    (hcall : Text.head words ≠ "CALL") : callOf? conditions words = none := by
  -- the last case of the match, whose side conditions are the two hypotheses
  simp only [callOf?]

/-- A clause that calls nothing is read as part of a condition. -/
theorem Inside.leadsTo_read (h : Inside opened ended calls conditions scan)
    {words : List String} (hwords : Clausal words)
    (hkind : conditions.isReading = true ∨ Text.head words ∉ ["PERFORM", "CALL", "EXEC"]) :
    LeadsTo options opened
      (fun after => Inside opened ended calls (conditions.read words (some scan.lineAbove)) after ∧
        after.lineAbove = Text.unwords words) [words] scan := by
  intro hexit raw hshows
  have hvalue : (scan.readLine options raw).value = scan.passed raw (scan.readCondition words) := by
    rw [h.readLine_value hshows hwords.readable hexit]
    rcases hkind with hreading | hhead
    · simp [hreading]
    · simp only [List.mem_cons, List.not_mem_nil, or_false, not_or] at hhead
      obtain ⟨hperform, hcall, hexec⟩ := hhead
      have hopens : Sql.opensBlock words = false := by
        rw [Sql.opensBlock, beq_eq_false_iff_ne]
        rintro rfl
        exact hexec rfl
      simp [callOf?_eq_none hperform hcall, hopens]
  rw [LeadsTo, hvalue]
  refine ⟨⟨h.division_eq, h.block_eq, h.ended_eq, h.current_eq, ?_⟩,
    lineAbove_passed hshows hwords.readable _ _⟩
  rw [← h.conditions_eq]
  rfl

/-- The clause settles the state, unless it is a `WHEN` line. -/
theorem Inside.leadsTo_settled (h : Inside opened ended calls conditions scan)
    {words : List String} (hwords : Clausal words)
    (hkind : conditions.isReading = true ∨ Text.head words ∉ ["PERFORM", "CALL", "EXEC"])
    (hwhen : Text.head words ≠ "WHEN") {after : Conditions}
    (hread : ∀ previous, conditions.read words previous = after) :
    LeadsTo options opened (Settled opened ended calls after) [words] scan := by
  intro hexit raw hshows
  obtain ⟨hinside, habove⟩ := h.leadsTo_read hwords hkind hexit raw hshows
  rw [hread] at hinside
  exact ⟨hinside, habove ▸ labelAbove_unwords hshows.words_ne_nil hwords.readable hwhen⟩

/-- A call is made under the guards that hold. -/
theorem Inside.leadsTo_call (h : Inside opened ended calls conditions scan)
    (hreading : conditions.isReading = false) (line : CallLine) :
    LeadsTo options opened
      (Settled opened ended (calls ++ [line.call conditions.shown]) conditions)
      [line.words] scan := by
  intro hexit raw hshows
  have hwords := line.words_clausal
  have hcall : callOf? conditions line.words = some (line.call conditions.shown) := by
    cases line with
    | perform target more hloop =>
      simp [callOf?, CallLine.words, CallLine.call, Call.perform, Text.head, Text.second, hloop]
    | toModule target more => rfl
  have habove := lineAbove_passed hshows hwords.readable scan
    (scan.addCall (opened.addCalls calls) (line.call conditions.shown))
  have hwhen : Text.head line.words ≠ "WHEN" := by
    cases line <;> simp [CallLine.words, Text.head]
  rw [LeadsTo, h.readLine_value hshows hwords.readable hexit, hreading, hcall]
  refine ⟨⟨h.division_eq, h.block_eq, h.ended_eq, ?_, h.conditions_eq⟩, ?_⟩
  · rw [← Section.addCall_addCalls]
    rfl
  · exact habove ▸ labelAbove_unwords hshows.words_ne_nil hwords.readable hwhen

/-! ### Conditions -/

variable {guards : List Guard} {evaluations : List Evaluation}

/-- The condition of an `IF` becomes a guard at its `THEN`. -/
theorem leadsTo_condition (condition : Condition) {lead : List String}
    {reading : Option (List String)} {soFar : List String}
    (hlead : Conditions.Lead lead reading soFar) (hsoFar : ∀ w ∈ soFar, Plain w)
    (h : Inside opened ended calls ⟨guards, reading, evaluations⟩ scan) :
    LeadsTo options opened
      (Settled opened ended calls
        ⟨.condition (Text.unwords (soFar ++ condition.words)) :: guards, none, evaluations⟩)
      (condition.clauses lead) scan := by
  have hfront : Clausal lead := by
    rcases hlead.eq_or with rfl | rfl
    · exact .of_plain (by simp)
    · exact .keyword (by decide)
  induction condition generalizing lead reading soFar scan with
  | ends words =>
    have hplain := Word.map_plain words
    have hclause : Clausal (lead ++ (words.map Word.text ++ ["THEN"])) :=
      hfront.append ((Clausal.of_plain hplain).append (.keyword (by decide)))
    refine h.leadsTo_settled hclause hlead.reads ?_ fun previous => ?_
    · exact hlead.head_ne (by decide) (Plain.head_then_ne hplain (by decide) (by decide))
    · rw [Conditions.read_lead hlead (Plain.head_then_ne hplain (by decide) (by decide)),
        Conditions.readCondition_then _ _ hplain hsoFar]
      rfl
  | goesOn words rest ih =>
    have hplain := Word.map_plain words
    have hclause : Clausal (lead ++ words.map Word.text) := hfront.append (.of_plain hplain)
    have hfirst : LeadsTo options opened
        (Settled opened ended calls
          ⟨guards, some (soFar ++ words.map Word.text), evaluations⟩)
        [lead ++ words.map Word.text] scan := by
      refine h.leadsTo_settled hclause hlead.reads ?_ fun previous => ?_
      · exact hlead.head_ne (by decide) (Plain.head_ne hplain (by decide))
      · rw [Conditions.read_lead hlead (Plain.head_ne hplain (by decide)),
          Conditions.readCondition_goesOn _ hlead.eq_or hplain]
    have hmore : ∀ w ∈ soFar ++ words.map Word.text, Plain w :=
      List.forall_mem_append.mpr ⟨hsoFar, hplain⟩
    rw [Condition.clauses, Condition.words, ← List.append_assoc]
    refine hfirst.cons fun after hafter => ?_
    exact ih (.later _) hmore hafter.toInside (.of_plain (by simp))

variable {outer : List Guard} {guard : Guard}

/-- A finished condition is the innermost guard. -/
theorem leadsTo_if (condition : Condition)
    (h : Inside opened ended calls ⟨outer.reverse, none, evaluations⟩ scan) :
    LeadsTo options opened
      (Settled opened ended calls ⟨(outer ++ [condition.guard]).reverse, none, evaluations⟩)
      (condition.clauses ["IF"]) scan := by
  rw [List.reverse_append]
  exact leadsTo_condition condition .first (by simp) h

/-- `ELSE` turns the innermost guard round. -/
theorem leadsTo_else
    (h : Inside opened ended calls ⟨(outer ++ [guard]).reverse, none, evaluations⟩ scan) :
    LeadsTo options opened
      (Settled opened ended calls ⟨(outer ++ [Guard.otherwise guard]).reverse, none, evaluations⟩)
      [["ELSE"]] scan := by
  rw [List.reverse_append] at h ⊢
  exact h.leadsTo_settled (.keyword (by decide)) (.inr (by decide)) (by decide)
    fun _ => Conditions.read_else guard

theorem leadsTo_endIf
    (h : Inside opened ended calls ⟨(outer ++ [guard]).reverse, none, evaluations⟩ scan) :
    LeadsTo options opened
      (Settled opened ended calls ⟨outer.reverse, none, evaluations⟩) [["END-IF"]] scan := by
  rw [List.reverse_append] at h
  exact h.leadsTo_settled (.keyword (by decide)) (.inr (by decide)) (by decide)
    fun _ => Conditions.read_endIf guard

/-! ### Evaluations -/

variable {arm : Option Guard} {subject : String} {labels : List String}

theorem leadsTo_evaluate (subject : Phrase)
    (h : Inside opened ended calls ⟨outer.reverse, none, evaluations⟩ scan) :
    LeadsTo options opened
      (Settled opened ended calls
        (Conditions.amongArms none outer.reverse subject.text [] evaluations))
      ["EVALUATE" :: subject.words] scan :=
  h.leadsTo_settled (.cons (by decide) (.of_plain subject.words_plain))
    (.inr (by simp [Text.head])) (by simp [Text.head])
    fun _ => Conditions.read_evaluate subject.words_plain

theorem leadsTo_endEvaluate
    (h : Inside opened ended calls
      (Conditions.amongArms arm outer.reverse subject labels evaluations) scan) :
    LeadsTo options opened
      (Settled opened ended calls ⟨outer.reverse, none, evaluations⟩) [["END-EVALUATE"]] scan :=
  h.leadsTo_settled (.keyword (by decide)) (.inr (by decide)) (by decide)
    fun _ => Conditions.read_endEvaluate

/-- A label begins an arm, in the place of the arm before it. Behind the line the state is not
settled: the first line of the arm settles it again. -/
theorem leadsTo_when (label : Phrase)
    (h : Settled opened ended calls
      (Conditions.amongArms arm outer.reverse subject labels evaluations) scan) :
    LeadsTo options opened
      (Inside opened ended calls
        ⟨(outer ++ [Guard.case subject label.text]).reverse, none,
          ⟨subject, labels ++ [label.text], true⟩ :: evaluations⟩)
      ["WHEN" :: label.words] scan := by
  have hwords : Clausal ("WHEN" :: label.words) :=
    .cons (by decide) (.of_plain label.words_plain)
  refine (h.leadsTo_read hwords (.inr (by simp [Text.head]))).mono ?_
  rintro after ⟨hafter, -⟩
  rw [← Conditions.amongArms_some, ← Conditions.read_when label h.no_label]
  exact hafter

theorem leadsTo_other
    (h : Settled opened ended calls
      (Conditions.amongArms arm outer.reverse subject labels evaluations) scan) :
    LeadsTo options opened
      (Inside opened ended calls
        ⟨(outer ++ [otherGuard subject labels]).reverse, none,
          ⟨subject, labels, true⟩ :: evaluations⟩)
      [["WHEN", "OTHER"]] scan := by
  have hwords : Clausal ["WHEN", "OTHER"] := .cons (by decide) (.keyword (by decide))
  refine (h.leadsTo_read hwords (.inr (by decide))).mono ?_
  rintro after ⟨hafter, -⟩
  rw [← Conditions.amongArms_some, ← Conditions.read_other]
  exact hafter

end

/-! ### Statements, bodies and arms -/

section

variable {options : ScanOptions} {opened : Section} {ended : List Section}

mutual

/-- A statement leaves the guards and evaluations around it and adds its calls. -/
theorem leadsTo_item {outer : List Guard} {texts : List String} {evaluations : List Evaluation}
    {calls : List Call} {scan : Scan} (htexts : Guard.Tell outer texts) :
    (item : Item) → Inside opened ended calls ⟨outer.reverse, none, evaluations⟩ scan →
    LeadsTo options opened
      (Settled opened ended (calls ++ item.calls texts) ⟨outer.reverse, none, evaluations⟩)
      item.clauses scan
  | .call line, h => by
    have hshown : (Conditions.mk outer.reverse none evaluations).shown = nestedText texts := by
      rw [Conditions.shown, List.reverse_reverse, htexts.shownAll_eq]
    rw [Item.calls, ← hshown]
    exact h.leadsTo_call rfl line
  | .statement phrase, h => by
    have hplain := phrase.words_plain
    have hkind : Text.head phrase.words ∉ ["PERFORM", "CALL", "EXEC"] :=
      phrase.first.plain.not_among (by decide)
    rw [Item.calls, List.append_nil]
    exact h.leadsTo_settled (.of_plain hplain) (.inr hkind) (Plain.head_ne hplain (by decide))
      fun _ => Conditions.read_statement phrase
  | .ifThen condition body, h => by
    refine (leadsTo_if condition h).append fun inThen hthen => ?_
    refine (leadsTo_body (htexts.condition _) body hthen).append fun behind hbehind => ?_
    exact leadsTo_endIf hbehind.toInside
  | .ifElse condition body other, h => by
    rw [Item.calls, ← List.append_assoc]
    refine (leadsTo_if condition h).append fun inThen hthen => ?_
    refine (leadsTo_body (htexts.condition _) body hthen).append fun atElse hatElse => ?_
    refine (leadsTo_else hatElse.toInside).cons fun inElse helse => ?_
    refine (leadsTo_body (htexts.otherwise _) other helse).append fun behind hbehind => ?_
    exact leadsTo_endIf hbehind.toInside
  | .evaluate subject arms, h => by
    refine (leadsTo_evaluate subject h).cons fun inArms harms => ?_
    refine (leadsTo_arms htexts arms harms).append fun behind hbehind => ?_
    obtain ⟨last, seen, hlast⟩ := hbehind
    exact leadsTo_endEvaluate hlast.toInside

/-- Induction over the body: it adds its calls with the texts of the blocks around them, and leaves
the guards as they were. -/
theorem leadsTo_body {outer : List Guard} {texts : List String} {evaluations : List Evaluation}
    {calls : List Call} {scan : Scan} (htexts : Guard.Tell outer texts) :
    (body : Body) → Settled opened ended calls ⟨outer.reverse, none, evaluations⟩ scan →
    LeadsTo options opened
      (Settled opened ended (calls ++ body.calls texts) ⟨outer.reverse, none, evaluations⟩)
      body.clauses scan
  | .done, h => by
    rw [Body.calls, List.append_nil]
    exact h
  | .step first rest, h => by
    rw [Body.calls, ← List.append_assoc]
    refine (leadsTo_item htexts first h.toInside).append fun after hafter => ?_
    exact leadsTo_body htexts rest hafter

theorem leadsTo_arms {outer : List Guard} {texts : List String} {evaluations : List Evaluation}
    {calls : List Call} {scan : Scan} {arm : Option Guard} {subject : String}
    {labels : List String} (htexts : Guard.Tell outer texts) :
    (arms : Arms) →
    Settled opened ended calls
      (Conditions.amongArms arm outer.reverse subject labels evaluations) scan →
    LeadsTo options opened
      (fun after => ∃ last seen,
        Settled opened ended (calls ++ arms.calls texts subject labels)
          (Conditions.amongArms last outer.reverse subject seen evaluations) after)
      arms.clauses scan
  | .done, h => by
    rw [Arms.calls, List.append_nil]
    exact ⟨arm, labels, h⟩
  | .other first rest, h => by
    rw [Arms.calls, ← List.append_assoc]
    have harmTexts := htexts.other subject labels
    refine (leadsTo_other h).cons fun inArm harm => ?_
    refine (leadsTo_item harmTexts first harm).append fun next hnext => ?_
    refine (leadsTo_body harmTexts rest hnext).mono fun behind hbehind => ?_
    rw [← Conditions.amongArms_some] at hbehind
    exact ⟨_, _, hbehind⟩
  | .arm label first rest more, h => by
    rw [Arms.calls, ← List.append_assoc, ← List.append_assoc]
    have harmTexts := htexts.case subject label.text
    refine (leadsTo_when label h).cons fun inArm harm => ?_
    refine (leadsTo_item harmTexts first harm).append fun next hnext => ?_
    refine (leadsTo_body harmTexts rest hnext).append fun behind hbehind => ?_
    rw [← Conditions.amongArms_some] at hbehind
    exact leadsTo_arms htexts more hbehind

end

/-- The body of a section starts without guards, and the line above it may be any line. -/
theorem leadsTo_bodyOfSection {scan : Scan} (body : Body) (h : Inside opened ended [] {} scan) :
    LeadsTo options opened (Inside opened ended (body.calls []) {}) body.clauses scan := by
  cases body with
  | done => exact h
  | step first rest =>
    have hfirst : LeadsTo options opened
        (Settled opened ended ([] ++ first.calls []) ⟨[].reverse, none, []⟩) first.clauses scan :=
      leadsTo_item .nil first h
    refine hfirst.append fun next hnext => ?_
    exact (leadsTo_body .nil rest hnext).mono fun _ hafter => hafter.toInside

/-! ### The section around a body -/

/-- The line is the header of the section `name`. -/
structure Heads (header name : String) : Prop where
  structural : Division.procedure.isStructural (Line.codeWords header) = true
  header_form : isHeader (Line.codeWords header) = true
  name_eq : Text.head (Line.codeWords header) = name

/-- With these lines the section `name` ends: it has no more lines that are read up to its exit,
the next header or the end of the program. -/
inductive Ends (options : ScanOptions) (name : String) : List String → Prop
  | atEnd : Ends options name []
  | skip (raw : String) (rest : List String)
      (hskip : Division.procedure.isStructural (Line.codeWords raw) = false)
      (hrest : Ends options name rest) : Ends options name (raw :: rest)
  | atHeader (raw next : String) (rest : List String) (hheader : Heads raw next) :
      Ends options name (raw :: rest)
  | atExit (raw : String) (rest : List String)
      (hstructural : Division.procedure.isStructural (Line.codeWords raw) = true)
      (hexit : ∀ s : Section, s.name = name → isExit options s (Line.codeWords raw) = true) :
      Ends options name (raw :: rest)

variable {scan : Scan} {calls : List Call} {conditions : Conditions}

/-- A header leads into an empty section. -/
theorem readLine_header (options : ScanOptions) (hdivision : scan.division = .procedure)
    (hblock : scan.block = none) {raw name : String} (hheads : Heads raw name) :
    Inside (.start name (Line.comment scan.twoAbove) (scan.line + 1))
      (scan.ended ++ (scan.current.map (·.close scan.line)).toList) [] {}
      (scan.readLine options raw).value := by
  rw [readLine_of_procedure hdivision hblock hheads.structural, readProcedure,
    if_pos hheads.header_form, openSection_value, hheads.name_eq]
  exact ⟨hdivision, hblock, rfl, rfl, rfl⟩

theorem Inside.skipped (h : Inside opened ended calls conditions scan) {raw : String}
    (hskip : Division.procedure.isStructural (Line.codeWords raw) = false) :
    Inside opened ended calls conditions (scan.readLine options raw).value := by
  have hskipped : ¬ (scan.entered raw).Structural raw := by
    rw [entered_eq_self h.division_eq, Structural, wordsOf, h.block_eq, h.division_eq]
    simp [hskip]
  rw [readLine_of_not_structural options hskipped, entered_eq_self h.division_eq]
  exact ⟨h.division_eq, h.block_eq, h.ended_eq, h.current_eq, h.conditions_eq⟩

/-- The next header ends the section, and it is kept with all its calls. -/
theorem Inside.mem_ended_of_heads (options : ScanOptions)
    (h : Inside opened ended calls conditions scan) {raw name : String} (hheads : Heads raw name) :
    (opened.addCalls calls).close scan.line ∈ (scan.readLine options raw).value.ended := by
  have hnext := readLine_header options h.division_eq h.block_eq hheads
  rw [hnext.ended_eq, h.current_eq]
  simp

/-- The section that is open in front of its end is among the sections found. -/
theorem Inside.mem_sections {lines : List String} (hends : Ends options opened.name lines)
    (h : Inside opened ended calls conditions scan) :
    ∃ line, (opened.addCalls calls).close line ∈
      (readLines options scan lines).value.finish.value.sections := by
  induction hends generalizing scan with
  | atEnd =>
    refine ⟨scan.line, ?_⟩
    rw [readLines_nil_value, finish_value, h.current_eq]
    simp
  | skip raw rest hskip hrest ih =>
    rw [readLines_cons_value]
    exact ih (h.skipped hskip)
  | atHeader raw next rest hheader =>
    rw [readLines_cons_value]
    exact ⟨scan.line, mem_sections_of_mem_ended rest (h.mem_ended_of_heads options hheader)⟩
  | atExit raw rest hstructural hexit =>
    rw [readLines_cons_value]
    by_cases hheader : isHeader (Line.codeWords raw) = true
    · exact ⟨scan.line, mem_sections_of_mem_ended rest
        (h.mem_ended_of_heads options ⟨hstructural, hheader, rfl⟩)⟩
    · refine ⟨scan.line + 1, mem_sections_of_mem_ended rest ?_⟩
      rw [readLine_of_procedure h.division_eq h.block_eq hstructural, readProcedure,
        if_neg hheader, h.current_eq]
      simp only [readBody, hexit (opened.addCalls calls) rfl, if_true, closeSection_value,
        h.current_eq, passed]
      simp

end

end Scan

/-- **The calls of a section** whose lines print a body are the calls of the body with the texts of
the blocks around them, the first for each target. -/
theorem Source.scan_calls_guarded (source : Source) (options : ScanOptions) (body : Body)
    {before lines after : List String} {header name : String}
    (hsource : source.lines = before ++ header :: (lines ++ after))
    (hdivision : (Scan.readLines options {} before).value.division = .procedure)
    (hblock : (Scan.readLines options {} before).value.block = none)
    (hheader : Scan.Heads header name)
    (hlines : List.Forall₂ Line.Shows body.clauses lines)
    (hexit : ∀ clause ∈ body.clauses, Text.head clause ≠ name ++ options.exitSuffix)
    (hafter : Scan.Ends options name after) :
    ∃ s ∈ (source.scan options).value.sections,
      s.name = name ∧ s.startLine = before.length + 1 ∧
        s.calls = Call.dedup (body.calls []) := by
  have hopened := Scan.readLine_header options hdivision hblock hheader
  have hread := (Scan.leadsTo_bodyOfSection body hopened).readLines hlines hexit
  obtain ⟨line, hline⟩ := hread.mem_sections hafter
  have hnumber : (Scan.readLines options {} before).value.line = before.length := by
    simp [Scan.readLines_line]
  have hscan : (source.scan options).value =
      (Scan.readLines options
        (Scan.readLines options
          ((Scan.readLines options {} before).value.readLine options header).value
          lines).value after).value.finish.value := by
    simp only [Source.scan, Logged.value_bind, hsource, Scan.readLines_append_value,
      Scan.readLines_cons_value]
  rw [hscan]
  refine ⟨_, hline, rfl, ?_, rfl⟩
  rw [← hnumber]
  rfl

/-- A condition on two lines with an evaluation in its block and calls in its else-block, one of
them inside a further else-block and one of a target that is called before. -/
def orderBody : Body :=
  let status : Word := ⟨"WS-STATUS", by decide⟩
  let count : Word := ⟨"WS-COUNT", by decide⟩
  let kind : Word := ⟨"WS-KIND", by decide⟩
  let equals : Word := ⟨"=", by decide⟩
  let one : Word := ⟨"1", by decide⟩
  let logger : Word := ⟨"'LOGGER'", by decide⟩
  let newOrder : CallLine := .perform ⟨"NEW-ORDER", by decide⟩ [] (by decide)
  let cancel : CallLine := .perform ⟨"CANCEL-ORDER", by decide⟩ [] (by decide)
  let archive : CallLine := .toModule ⟨"ARCHIVE", by decide⟩ [kind]
  let cleanUp : CallLine := .perform ⟨"CLEAN-UP", by decide⟩ [] (by decide)
  let move : Phrase := ⟨⟨"MOVE", by decide⟩, [one, ⟨"TO", by decide⟩, count]⟩
  let arms : Arms :=
    .arm ⟨one, []⟩ (.call newOrder) .done
      (.arm ⟨count, [equals, one]⟩ (.statement move) .done
        (.other (.call (.toModule logger [kind])) .done))
  .step
    (.ifElse (.goesOn [status, equals, one] (.ends [⟨"AND", by decide⟩, count, equals, one]))
      (.step (.evaluate ⟨kind, []⟩ arms) .done)
      (.step (.call cancel)
        (.step
          (.ifElse (.ends [kind, equals, one]) (.step (.call (.toModule logger [])) .done)
            (.step (.call archive) .done))
          .done)))
    (.step (.call cleanUp) .done)

def orderSource : Source :=
  ⟨"ORDER.cbl", ["       PROCEDURE DIVISION."] ++
    "       MAIN SECTION." :: (orderBody.clauses.map Line.printed ++ ["       MAIN-EXIT."])⟩

theorem orderSource_calls_guarded :
    ∃ s ∈ (orderSource.scan {}).value.sections,
      s.name = "MAIN" ∧ s.startLine = 2 ∧
        s.calls =
          [⟨"NEW-ORDER", false, "【WS-STATUS = 1 AND WS-COUNT = 1】 かつ 【[WS-KIND] = [1]】", none⟩,
            ⟨"LOGGER", true,
              "【WS-STATUS = 1 AND WS-COUNT = 1】 かつ 【[WS-KIND] = [1, WS-COUNT = 1] 以外】", none⟩,
            ⟨"CANCEL-ORDER", false, "【WS-STATUS = 1 AND WS-COUNT = 1 以外】", none⟩,
            ⟨"ARCHIVE", true,
              "【WS-STATUS = 1 AND WS-COUNT = 1 以外】 かつ 【WS-KIND = 1 以外】", none⟩,
            ⟨"CLEAN-UP", false, "", none⟩] := by
  have hfits : ∀ clause ∈ orderBody.clauses,
      clause ≠ [] ∧ (Text.unwords clause).toList.length ≤ 65 := by decide +kernel
  have hlines : List.Forall₂ Line.Shows orderBody.clauses
      (orderBody.clauses.map Line.printed) := by
    rw [List.forall₂_map_right_iff, List.forall₂_same]
    intro clause hclause
    exact Line.shows_printed (hfits clause hclause).1 (hfits clause hclause).2
  have hexit : ∀ clause ∈ orderBody.clauses, Text.head clause ≠ "MAIN" ++ "-EXIT" := by
    decide +kernel
  have hheader : Scan.Heads "       MAIN SECTION." "MAIN" :=
    ⟨by decide +kernel, by decide +kernel, by decide +kernel⟩
  have hend : Scan.Ends {} "MAIN" ["       MAIN-EXIT."] := by
    have hwords : Line.codeWords "       MAIN-EXIT." = ["MAIN-EXIT"] := by decide +kernel
    refine .atExit _ _ (by rw [hwords]; decide) fun s hs => ?_
    rw [hwords, Scan.isExit, hs]
    decide
  obtain ⟨s, hs, hname, hstart, hcalls⟩ :=
    Source.scan_calls_guarded orderSource {} orderBody rfl (by decide +kernel) (by decide +kernel)
      hheader hlines hexit hend
  exact ⟨s, hs, hname, hstart, hcalls.trans (by decide +kernel)⟩

end CobolAtlas
