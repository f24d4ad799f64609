import CobolAtlas.Proofs.Conditions
import CobolAtlas.Proofs.EmptyWord

/-!
# Balanced constructs

Complete constructs, however deep they are nested, leave the conditions as they were. The hard case
is an `IF` without `THEN`: nothing is pushed when its condition has been read, and a nested `IF`, an
`ELSE` or a `CONTINUE` may push it later, or nothing may before `END-IF`. So the lines inside an
`IF` are followed in a state that is one of two things (`InsideIf`): the condition is still being
read, or its guard has been pushed. Every construct keeps the state inside, and `END-IF` leaves the
same conditions from both.

An `EVALUATE` line that arrives while a condition is being read is taken for a part of the
condition; `EvaluatesApart` says that there is none.
-/

namespace CobolAtlas

namespace Conditions

/-! ### Marker words -/

/-- The words by which constructs are told, `END-EVALUATE` apart. -/
def markers : List String :=
  ["IF", "THEN", "ELSE", "CONTINUE", "END-IF", "EVALUATE", "WHEN"]

/-- No word of a line is a marker, except for those that are allowed. -/
def Only (allowed words : List String) : Prop :=
  ∀ w ∈ words, w ∈ allowed ∨ w ∉ markers ∧ Text.contains w "END-EVALUATE" = false

instance (allowed words : List String) : Decidable (Only allowed words) :=
  inferInstanceAs (Decidable (∀ w ∈ words, _))

def Marked (marker : String) (words : List String) : Prop :=
  marker ∈ words ∧ Only [marker] words

instance (marker : String) (words : List String) : Decidable (Marked marker words) :=
  inferInstanceAs (Decidable (_ ∧ _))

def EndsEvaluate (words : List String) : Prop :=
  ∃ first more, words = first :: more ∧ Text.contains first "END-EVALUATE" = true ∧ Only [] more

section

variable {allowed words : List String} {marker : String}

theorem Only.contains_eq_false (h : Only allowed words) (hmarker : marker ∈ markers)
    (hallowed : marker ∉ allowed) : words.contains marker = false := by
  rw [← Bool.not_eq_true, List.contains_iff_mem]
  intro hmem
  rcases h marker hmem with hmem | ⟨hnot, -⟩
  · exact hallowed hmem
  · exact hnot hmarker

theorem Only.head_ne (h : Only allowed words) (hmarker : marker ∈ markers)
    (hallowed : marker ∉ allowed) : Text.head words ≠ marker := by
  cases words with
  | nil =>
    rintro rfl
    exact absurd hmarker (by decide)
  | cons first rest =>
    rintro rfl
    have hnot := h.contains_eq_false hmarker hallowed
    simp [Text.head] at hnot

theorem Only.head_not_end (h : Only allowed words)
    (hallowed : ∀ w ∈ allowed, Text.contains w "END-EVALUATE" = false) :
    Text.contains (Text.head words) "END-EVALUATE" = false := by
  cases words with
  | nil => decide
  | cons first rest =>
    rcases h first List.mem_cons_self with hmem | ⟨-, hend⟩
    · exact hallowed first hmem
    · exact hend

theorem Only.mono {more : List String} (h : Only allowed words)
    (hsubset : ∀ w ∈ allowed, w ∈ more) : Only more words :=
  fun w hw => (h w hw).imp_left (hsubset w)

theorem Only.cons (first : String) (h : Only [] words) : Only [first] (first :: words) := by
  intro w hw
  rcases List.mem_cons.mp hw with rfl | hw
  · exact .inl List.mem_cons_self
  · exact .inr ((h w hw).resolve_left List.not_mem_nil)

theorem Marked.contains (h : Marked marker words) : words.contains marker = true :=
  List.contains_iff_mem.mpr h.1

end

/-! ### Well-nested lines -/

/-- The lines in front of the branches of an `IF`: the condition on one or more lines, ended by
`THEN` or by nothing. -/
inductive IfHead : List BodyLine → Prop
  | sameLine {line : BodyLine} {words : List String} (hline : line.words = "IF" :: words)
      (hthen : Marked "THEN" words) : IfHead [line]
  | lines {line : BodyLine} {words : List String} {more : List BodyLine}
      {thenLine : Option BodyLine} (hline : line.words = "IF" :: words) (hwords : Only [] words)
      (hmore : ∀ l ∈ more, Only [] l.words) (hthen : ∀ l ∈ thenLine, Marked "THEN" l.words) :
      IfHead (line :: (more ++ thenLine.toList))

inductive Part where
  | body
  | arms

/-- Complete constructs in a row, or the arms of an `EVALUATE` in a row. -/
inductive WellNested : Part → List BodyLine → Prop
  | done (part : Part) : WellNested part []
  | plain {line : BodyLine} {rest : List BodyLine} (hline : Only [] line.words)
      (hrest : WellNested .body rest) : WellNested .body (line :: rest)
  | goOn {line : BodyLine} {rest : List BodyLine} (hline : Marked "CONTINUE" line.words)
      (hrest : WellNested .body rest) : WellNested .body (line :: rest)
  | ifThen {head body rest : List BodyLine} {last : BodyLine} (hhead : IfHead head)
      (hbody : WellNested .body body) (hlast : Marked "END-IF" last.words)
      (hrest : WellNested .body rest) : WellNested .body (head ++ (body ++ last :: rest))
  | ifElse {head body other rest : List BodyLine} {middle last : BodyLine} (hhead : IfHead head)
      (hbody : WellNested .body body) (hmiddle : Marked "ELSE" middle.words)
      (hother : WellNested .body other) (hlast : Marked "END-IF" last.words)
      (hrest : WellNested .body rest) :
      WellNested .body (head ++ (body ++ middle :: (other ++ last :: rest)))
  | evaluate {first last : BodyLine} {subject : List String} {arms rest : List BodyLine}
      (hfirst : first.words = "EVALUATE" :: subject) (hsubject : Only [] subject)
      (harms : WellNested .arms arms) (hlast : EndsEvaluate last.words)
      (hrest : WellNested .body rest) : WellNested .body (first :: (arms ++ last :: rest))
  | arm {label : BodyLine} {body rest : List BodyLine} (hlabel : Marked "WHEN" label.words)
      (hbody : WellNested .body body) (hrest : WellNested .arms rest) :
      WellNested .arms (label :: (body ++ rest))

/-- No `EVALUATE` line arrives while a condition is being read. -/
def EvaluatesApart : Conditions → List BodyLine → Prop
  | _, [] => True
  | conditions, line :: rest =>
    (Text.head line.words = "EVALUATE" → conditions.isReading = false) ∧
      EvaluatesApart (conditions.read line.words line.above) rest

instance decidableEvaluatesApart : ∀ (conditions : Conditions) (lines : List BodyLine),
    Decidable (EvaluatesApart conditions lines)
  | _, [] => .isTrue trivial
  | conditions, line :: rest =>
    have := decidableEvaluatesApart (conditions.read line.words line.above) rest
    inferInstanceAs (Decidable (_ ∧ _))

/-! ### Chains of lines -/

/-- Reading the lines leads to conditions with `Q`, provided that no `EVALUATE` line arrives while a
condition is being read. -/
def LeadsTo (Q : Conditions → Prop) : List BodyLine → Conditions → Prop
  | [], conditions => Q conditions
  | line :: rest, conditions =>
    (Text.head line.words = "EVALUATE" → conditions.isReading = false) →
      LeadsTo Q rest (conditions.read line.words line.above)

section

variable {P Q : Conditions → Prop} {conditions : Conditions}

theorem LeadsTo.mono {lines : List BodyLine} (h : LeadsTo P lines conditions)
    (himp : ∀ after, P after → Q after) : LeadsTo Q lines conditions := by
  induction lines generalizing conditions with
  | nil => exact himp conditions h
  | cons line rest ih =>
    intro hapart
    exact ih (h hapart)

/-- Two runs in a row: what the first one leaves is what the second one starts from. -/
theorem LeadsTo.append {earlier later : List BodyLine} (h : LeadsTo P earlier conditions)
    (hlater : ∀ after, P after → LeadsTo Q later after) :
    LeadsTo Q (earlier ++ later) conditions := by
  induction earlier generalizing conditions with
  | nil => exact hlater conditions h
  | cons line rest ih =>
    intro hapart
    exact ih (h hapart)

/-- What holds step by step along the lines holds of the whole fold over them. -/
theorem LeadsTo.readAll {lines : List BodyLine} (h : LeadsTo Q lines conditions)
    (hapart : EvaluatesApart conditions lines) : Q (conditions.readAll lines) := by
  induction lines generalizing conditions with
  | nil => exact h
  | cons line rest ih => exact ih (h hapart.1) hapart.2

end

/-! ### One line -/

section

variable {guards : List Guard} {evaluations : List Evaluation} {words : List String}

/-- Inside an `IF` around which `guards` and `evaluations` are open: its condition is being read, or
its guard has been pushed. -/
inductive InsideIf (guards : List Guard) (evaluations : List Evaluation) : Conditions → Prop
  | pending (soFar : List String) : InsideIf guards evaluations ⟨guards, some soFar, evaluations⟩
  | committed (guard : Guard) : InsideIf guards evaluations ⟨guard :: guards, none, evaluations⟩

/-- Among the arms of an `EVALUATE` around which `guards` and `evaluations` are open. -/
def AmongArms (guards : List Guard) (evaluations : List Evaluation) (conditions : Conditions) :
    Prop :=
  ∃ arm subject labels, conditions = amongArms arm guards subject labels evaluations

/-- Outside of conditions a line without a word of an `IF` is left to the evaluations. -/
theorem Only.read_eq {allowed : List String} (h : Only allowed words)
    (hallowed : ∀ marker ∈ ["IF", "ELSE", "END-IF"], marker ∉ allowed) {conditions : Conditions}
    (hreading : conditions.reading = none) (above : Option String) :
    conditions.read words above = (conditions.readEvaluate? words above).getD conditions := by
  have hhead : Text.head words ≠ "IF" := h.head_ne (by decide) (hallowed _ (by decide))
  have helse : words.contains "ELSE" = false :=
    h.contains_eq_false (by decide) (hallowed _ (by decide))
  have hendIf : words.contains "END-IF" = false :=
    h.contains_eq_false (by decide) (hallowed _ (by decide))
  rw [read_of_not_reading _ _ hhead hreading, helse, hendIf]
  rfl

/-- Outside of conditions, `THEN` and `CONTINUE` are words like any other. -/
theorem read_of_idle (h : Only ["THEN", "CONTINUE"] words) (above : Option String) :
    (Conditions.mk guards none evaluations).read words above = ⟨guards, none, evaluations⟩ := by
  have hevaluate : Text.head words ≠ "EVALUATE" := h.head_ne (by decide) (by decide)
  have hwhen : words.contains "WHEN" = false := h.contains_eq_false (by decide) (by decide)
  have hend := h.head_not_end (by decide)
  rw [h.read_eq (by decide) rfl]
  simp only [readEvaluate?, hevaluate, hwhen, hend, Bool.false_eq_true, if_false, Option.getD_none]

/-- The line with `THEN` pushes the finished condition as one guard. -/
theorem readCondition_of_ends (conditions : Conditions) (soFar body : List String)
    (h : endsCondition words = true) :
    ∃ guard, conditions.readCondition soFar words body =
      ⟨guard :: conditions.guards, none, conditions.evaluations⟩ := by
  rw [readCondition, if_pos h]
  exact ⟨_, rfl⟩

/-- A line of a condition without `THEN` only makes the condition longer. -/
theorem readCondition_of_plain (conditions : Conditions) (soFar body : List String)
    (h : endsCondition words = false) (hendIf : words.contains "END-IF" = false) :
    ∃ more, conditions.readCondition soFar words body =
      { conditions with reading := some more } := by
  simp only [readCondition, h, hendIf, Bool.false_eq_true, if_false]
  exact ⟨_, rfl⟩

namespace InsideIf

variable {conditions : Conditions} {above : Option String}

/-- A line inside an `IF` that is no part of a construct, or a `THEN` or `CONTINUE`. -/
theorem read_of_idle (h : InsideIf guards evaluations conditions)
    (hwords : Only ["THEN", "CONTINUE"] words) :
    InsideIf guards evaluations (conditions.read words above) := by
  cases h with
  | committed guard =>
    rw [Conditions.read_of_idle hwords]
    exact .committed guard
  | pending soFar =>
    have hhead : Text.head words ≠ "IF" := hwords.head_ne (by decide) (by decide)
    have hendIf : words.contains "END-IF" = false :=
      hwords.contains_eq_false (by decide) (by decide)
    rw [read_of_reading _ _ hhead rfl]
    cases hends : endsCondition words with
    | true =>
      obtain ⟨guard, hread⟩ := readCondition_of_ends _ soFar words hends
      rw [hread]
      exact .committed guard
    | false =>
      obtain ⟨more, hread⟩ := readCondition_of_plain _ soFar words hends hendIf
      rw [hread]
      exact .pending more

theorem read_else (h : InsideIf guards evaluations conditions) (hwords : Marked "ELSE" words) :
    InsideIf guards evaluations (conditions.read words above) := by
  have hhead : Text.head words ≠ "IF" := hwords.2.head_ne (by decide) (by decide)
  cases h with
  | committed guard =>
    rw [read_of_not_reading _ _ hhead rfl, if_pos hwords.contains]
    exact .committed (.otherwise guard)
  | pending soFar =>
    have hends : endsCondition words = true := by
      rw [endsCondition, hwords.contains, Bool.or_true]
    obtain ⟨guard, hread⟩ := readCondition_of_ends _ soFar words hends
    rw [read_of_reading _ _ hhead rfl, hread]
    exact .committed guard

/-- `END-IF` pops the guard, or there is none to pop. -/
theorem read_endIf (h : InsideIf guards evaluations conditions) (hwords : Marked "END-IF" words) :
    conditions.read words above = ⟨guards, none, evaluations⟩ := by
  have hhead : Text.head words ≠ "IF" := hwords.2.head_ne (by decide) (by decide)
  have helse : words.contains "ELSE" = false := hwords.2.contains_eq_false (by decide) (by decide)
  cases h with
  | committed guard =>
    rw [read_of_not_reading _ _ hhead rfl, helse, hwords.contains]
    rfl
  | pending soFar =>
    -- nothing was pushed for this `IF`
    have hthen : words.contains "THEN" = false := hwords.2.contains_eq_false (by decide) (by decide)
    have hgoOn : words.contains "CONTINUE" = false :=
      hwords.2.contains_eq_false (by decide) (by decide)
    rw [read_of_reading _ _ hhead rfl, readCondition, endsCondition, hthen, hgoOn, helse,
      hwords.contains]
    rfl

end InsideIf

theorem read_evaluate_of_only {subject : List String} (h : Only [] subject)
    (above : Option String) :
    (Conditions.mk guards none evaluations).read ("EVALUATE" :: subject) above =
      amongArms none guards (Text.unwords subject) [] evaluations := by
  rw [(h.cons "EVALUATE").read_eq (by decide) rfl]
  rfl

namespace AmongArms

variable {conditions : Conditions} {above : Option String}

/-- A `WHEN` swaps the guard of the arm before it for its own. The depth stays. -/
theorem read_when (h : AmongArms guards evaluations conditions) (hwords : Marked "WHEN" words) :
    ∃ guard subject labels, conditions.read words above =
      amongArms (some guard) guards subject labels evaluations := by
  obtain ⟨arm, subject, labels, rfl⟩ := h
  have hevaluate : Text.head words ≠ "EVALUATE" := hwords.2.head_ne (by decide) (by decide)
  rw [hwords.2.read_eq (by decide) rfl, readEvaluate?_of_when hevaluate hwords.contains rfl]
  cases arm with
  | none => exact ⟨_, _, _, rfl⟩
  | some guard => exact ⟨_, _, _, rfl⟩

/-- The end of an `EVALUATE` takes its open arm and its record away together. -/
theorem read_endEvaluate (h : AmongArms guards evaluations conditions)
    (hwords : EndsEvaluate words) : conditions.read words above = ⟨guards, none, evaluations⟩ := by
  obtain ⟨arm, subject, labels, rfl⟩ := h
  obtain ⟨first, more, rfl, hend, hmore⟩ := hwords
  have hnone : ∀ marker ∈ markers, Text.contains marker "END-EVALUATE" = false := by decide
  have hfirst : ∀ marker ∈ markers, marker ∉ [first] := by
    intro marker hmarker hmem
    rw [List.mem_singleton.mp hmem] at hmarker
    rw [hnone first hmarker] at hend
    exact absurd hend (by decide)
  have honly : Only [first] (first :: more) := hmore.cons first
  have hevaluate : Text.head (first :: more) ≠ "EVALUATE" :=
    honly.head_ne (by decide) (hfirst _ (by decide))
  have hwhen : (first :: more).contains "WHEN" = false :=
    honly.contains_eq_false (by decide) (hfirst _ (by decide))
  have hclose : Text.contains (Text.head (first :: more)) "END-EVALUATE" = true := hend
  have hif : ∀ marker ∈ ["IF", "ELSE", "END-IF"], marker ∈ markers := by decide
  rw [honly.read_eq (fun marker hmarker => hfirst marker (hif marker hmarker)) rfl]
  simp only [readEvaluate?, hevaluate, hwhen, hclose, Bool.false_eq_true, if_false, if_true]
  cases arm with
  | none => rfl
  | some guard => rfl

end AmongArms

/-! ### Whole constructs -/

/-- Lines that leave the conditions as they are, and keep the state inside an `IF`. -/
structure Keeps (lines : List BodyLine) : Prop where
  outside (guards : List Guard) (evaluations : List Evaluation) :
    LeadsTo (· = ⟨guards, none, evaluations⟩) lines ⟨guards, none, evaluations⟩
  inside {guards : List Guard} {evaluations : List Evaluation} {conditions : Conditions}
    (h : InsideIf guards evaluations conditions) :
    LeadsTo (InsideIf guards evaluations) lines conditions

/-- Once the guard has been pushed the inside of an `IF` is like any other place. -/
theorem Keeps.of_pending {lines : List BodyLine}
    (houtside : ∀ guards evaluations,
      LeadsTo (· = ⟨guards, none, evaluations⟩) lines ⟨guards, none, evaluations⟩)
    (hpending : ∀ guards evaluations soFar,
      LeadsTo (InsideIf guards evaluations) lines ⟨guards, some soFar, evaluations⟩) :
    Keeps lines where
  outside := houtside
  inside := by
    intro guards evaluations conditions h
    cases h with
    | pending soFar => exact hpending guards evaluations soFar
    | committed guard =>
      refine (houtside (guard :: guards) evaluations).mono ?_
      rintro _ rfl
      exact .committed guard

theorem Keeps.nil : Keeps [] where
  outside _ _ := rfl
  inside h := h

theorem Keeps.cons_idle {line : BodyLine} {rest : List BodyLine}
    (hline : Only ["THEN", "CONTINUE"] line.words) (hrest : Keeps rest) : Keeps (line :: rest) where
  outside := by
    intro guards evaluations _
    rw [read_of_idle hline]
    exact hrest.outside guards evaluations
  inside := by
    intro guards evaluations conditions h _
    exact hrest.inside (h.read_of_idle hline)

theorem Keeps.of_idle {lines : List BodyLine}
    (h : ∀ line ∈ lines, Only ["THEN", "CONTINUE"] line.words) : Keeps lines := by
  induction lines with
  | nil => exact .nil
  | cons line rest ih =>
    obtain ⟨hline, hrest⟩ := List.forall_mem_cons.mp h
    exact (ih hrest).cons_idle hline

/-- An `IF` starts behind the guards that hold in front of it; a condition that was still being read
is one of them from here on. -/
theorem IfHead.leadsTo {head : List BodyLine} (h : IfHead head) {conditions : Conditions}
    (hopen : conditions.openIf = ⟨guards, some [], evaluations⟩) :
    LeadsTo (InsideIf guards evaluations) head conditions := by
  cases h with
  | @sameLine line words hline hthen =>
    intro _
    have hends : endsCondition ("IF" :: words) = true := by
      have hcontains : ("IF" :: words).contains "THEN" = true := by
        rw [List.contains_iff_mem]
        exact List.mem_cons_of_mem _ hthen.1
      rw [endsCondition, hcontains, Bool.true_or, Bool.true_or]
    obtain ⟨guard, hread⟩ := readCondition_of_ends conditions.openIf [] words hends
    rw [hline, read_of_if _ _ rfl, List.tail_cons, hread, hopen]
    exact .committed guard
  | @lines line words more thenLine hline hwords hmore hthen =>
    intro _
    have honly : Only ["IF"] ("IF" :: words) := hwords.cons "IF"
    have hends : endsCondition ("IF" :: words) = false := by
      rw [endsCondition, honly.contains_eq_false (by decide) (by decide),
        honly.contains_eq_false (by decide) (by decide),
        honly.contains_eq_false (by decide) (by decide)]
      rfl
    have hendIf : ("IF" :: words).contains "END-IF" = false :=
      honly.contains_eq_false (by decide) (by decide)
    obtain ⟨soFar, hread⟩ := readCondition_of_plain conditions.openIf [] words hends hendIf
    rw [hline, read_of_if _ _ rfl, List.tail_cons, hread, hopen]
    have hlater : ∀ line ∈ more ++ thenLine.toList, Only ["THEN", "CONTINUE"] line.words := by
      intro line hmem
      rcases List.mem_append.mp hmem with hmem | hmem
      · exact (hmore line hmem).mono (by simp)
      · exact (hthen line (Option.mem_toList.mp hmem)).2.mono (by simp)
    exact (Keeps.of_idle hlater).inside (.pending soFar)

/-- An `IF` block gives the guards back when the lines inside it stay inside it. -/
theorem Keeps.ifBlock {head inner rest : List BodyLine} {last : BodyLine} (hhead : IfHead head)
    (hinner : ∀ {guards evaluations conditions}, InsideIf guards evaluations conditions →
      LeadsTo (InsideIf guards evaluations) inner conditions)
    (hlast : Marked "END-IF" last.words) (hrest : Keeps rest) :
    Keeps (head ++ (inner ++ last :: rest)) := by
  have hblock (guards : List Guard) (evaluations : List Evaluation) (conditions : Conditions)
      (hopen : conditions.openIf = ⟨guards, some [], evaluations⟩) :
      LeadsTo (· = ⟨guards, none, evaluations⟩) (head ++ (inner ++ last :: rest)) conditions := by
    apply (hhead.leadsTo hopen).append
    intro opened hopened
    apply (hinner hopened).append
    intro after hafter _
    rw [hafter.read_endIf hlast]
    exact hrest.outside guards evaluations
  apply Keeps.of_pending
  · intro guards evaluations
    exact hblock guards evaluations _ rfl
  · intro guards evaluations soFar
    -- the outer condition ends where the nested `IF` starts
    refine (hblock (conditionGuard soFar :: guards) evaluations _ rfl).mono ?_
    rintro _ rfl
    exact .committed _

/-- An `EVALUATE` block gives the guards back when its arms stay among its arms. -/
theorem Keeps.evaluate {first last : BodyLine} {subject : List String} {arms rest : List BodyLine}
    (hfirst : first.words = "EVALUATE" :: subject) (hsubject : Only [] subject)
    (harms : ∀ {guards evaluations conditions}, AmongArms guards evaluations conditions →
      LeadsTo (AmongArms guards evaluations) arms conditions)
    (hlast : EndsEvaluate last.words) (hrest : Keeps rest) :
    Keeps (first :: (arms ++ last :: rest)) := by
  apply Keeps.of_pending
  · intro guards evaluations _
    rw [hfirst, read_evaluate_of_only hsubject]
    apply (harms ⟨none, _, _, rfl⟩).append
    intro after hafter _
    rw [hafter.read_endEvaluate hlast]
    exact hrest.outside guards evaluations
  · intro guards evaluations soFar hapart
    rw [hfirst] at hapart
    exact absurd (hapart rfl) (by simp [isReading])

def KeepsPart : Part → List BodyLine → Prop
  | .body, lines => Keeps lines
  | .arms, lines => ∀ {guards evaluations conditions}, AmongArms guards evaluations conditions →
      LeadsTo (AmongArms guards evaluations) lines conditions

/-- Induction over the nesting, one case for each way to build a part. -/
theorem WellNested.keepsPart {part : Part} {lines : List BodyLine} (h : WellNested part lines) :
    KeepsPart part lines := by
  induction h with
  | done part =>
    cases part with
    | body => exact Keeps.nil
    | arms => exact fun h => h
  | plain hline _ ih => exact Keeps.cons_idle (hline.mono (by simp)) ih
  | goOn hline _ ih => exact Keeps.cons_idle (hline.2.mono (by simp)) ih
  | ifThen hhead _ hlast _ ihbody ihrest => exact Keeps.ifBlock hhead ihbody.inside hlast ihrest
  | @ifElse head body other rest middle last hhead _ hmiddle _ hlast _ ihbody ihother ihrest =>
    have hinner : ∀ {guards evaluations conditions}, InsideIf guards evaluations conditions →
        LeadsTo (InsideIf guards evaluations) (body ++ middle :: other) conditions := by
      intro guards evaluations conditions h
      apply (ihbody.inside h).append
      intro after hafter _
      exact ihother.inside (hafter.read_else hmiddle)
    have hkeeps := Keeps.ifBlock hhead hinner hlast ihrest
    rwa [List.append_assoc, List.cons_append] at hkeeps
  | evaluate hfirst hsubject _ hlast _ iharms ihrest =>
    exact Keeps.evaluate hfirst hsubject iharms hlast ihrest
  | arm hlabel _ _ ihbody ihrest =>
    intro guards evaluations conditions h _
    obtain ⟨guard, subject, labels, hread⟩ := h.read_when hlabel
    rw [hread]
    -- the body of the arm leaves its guard on top, where the next label finds it
    apply (ihbody.outside (guard :: guards) _).append
    rintro _ rfl
    exact ihrest ⟨some guard, subject, labels, rfl⟩

/-- **Complete constructs leave the conditions as they were**, whatever guards and evaluations are
open around them, provided that no condition is being read in front of them and that no `EVALUATE`
line arrives while one is. -/
theorem readAll_wellNested {conditions : Conditions} {lines : List BodyLine}
    (hlines : WellNested .body lines) (hreading : conditions.isReading = false)
    (hapart : EvaluatesApart conditions lines) : conditions.readAll lines = conditions := by
  obtain ⟨guards, reading, evaluations⟩ := conditions
  cases reading with
  | some soFar => exact absurd hreading (by simp [isReading])
  | none => exact (hlines.keepsPart.outside guards evaluations).readAll hapart

/-- An `IF` without `THEN`, whose guard is pushed by the `IF` in it; that one has no `THEN` either,
and its guard is pushed by `CONTINUE`. -/
def lateGuards : List BodyLine :=
  [⟨["IF", "A"], none⟩, ⟨["MOVE", "B", "TO", "C"], none⟩, ⟨["IF", "D"], none⟩,
    ⟨["CONTINUE"], none⟩, ⟨["EVALUATE", "E"], none⟩, ⟨["WHEN", "1"], none⟩,
    ⟨["WHEN", "OTHER"], none⟩, ⟨["END-EVALUATE"], none⟩, ⟨["ELSE"], none⟩, ⟨["END-IF"], none⟩,
    ⟨["END-IF"], none⟩]

theorem lateGuards_wellNested : WellNested .body lateGuards := by
  have hhead (name : String) (hname : Only [] [name]) :
      IfHead (⟨["IF", name], none⟩ :: ([] ++ (none : Option BodyLine).toList)) :=
    .lines rfl hname (by simp) (by simp)
  have hmiddle : Marked "ELSE" (BodyLine.mk ["ELSE"] none).words := by decide
  have hlast : Marked "END-IF" (BodyLine.mk ["END-IF"] none).words := by decide
  have harms : WellNested .arms [⟨["WHEN", "1"], none⟩, ⟨["WHEN", "OTHER"], none⟩] :=
    .arm (by decide) (.done _) (.arm (by decide) (.done _) (.done _))
  have hend : EndsEvaluate (BodyLine.mk ["END-EVALUATE"] none).words :=
    ⟨"END-EVALUATE", [], rfl, by decide, by decide⟩
  have hfirst : (BodyLine.mk ["EVALUATE", "E"] none).words = "EVALUATE" :: ["E"] := rfl
  have hevaluate := WellNested.evaluate hfirst (by decide) harms hend (.done _)
  have hgoOn : Marked "CONTINUE" (BodyLine.mk ["CONTINUE"] none).words := by decide
  have hinner := WellNested.ifElse (hhead "D" (by decide)) (.goOn hgoOn hevaluate) hmiddle
    (.done _) hlast (.done _)
  have hplain : Only [] (BodyLine.mk ["MOVE", "B", "TO", "C"] none).words := by decide
  exact WellNested.ifThen (hhead "A" (by decide)) (.plain hplain hinner) hlast (.done _)

theorem lateGuards_readAll :
    WellNested .body lateGuards ∧
      EvaluatesApart ⟨[.condition "OUTER"], none, [⟨"X", ["0"], true⟩]⟩ lateGuards ∧
      (Conditions.mk [.condition "OUTER"] none [⟨"X", ["0"], true⟩]).readAll lateGuards =
        ⟨[.condition "OUTER"], none, [⟨"X", ["0"], true⟩]⟩ := by
  have hapart : EvaluatesApart ⟨[.condition "OUTER"], none, [⟨"X", ["0"], true⟩]⟩ lateGuards := by
    decide +kernel
  exact ⟨lateGuards_wellNested, hapart, readAll_wellNested lateGuards_wellNested rfl hapart⟩

end

end Conditions

end CobolAtlas
