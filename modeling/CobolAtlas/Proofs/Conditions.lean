import CobolAtlas.Conditions
import CobolAtlas.Proofs.SectionBody

/-!
# Reading the clauses of a section body

What each kind of clause does to the open conditions. The guards and the evaluations around a
block are never looked at while the block is read, so that each lemma holds under all of them.
-/

namespace CobolAtlas

/-! ### The guards of blocks -/

def Condition.guard (condition : Condition) : Guard :=
  .condition condition.text

def otherGuard (subject : String) (labels : List String) : Guard :=
  .otherwise (.case subject (", ".intercalate labels))

/-- The guards, outermost first, are those of blocks with these texts. -/
def Guard.Tell (guards : List Guard) (texts : List String) : Prop :=
  guards.map Guard.shown = texts

namespace Guard.Tell

variable {guards : List Guard} {texts : List String}

theorem nil : Tell [] [] := rfl

/-- The guards of a call are shown as the text of the blocks around it. -/
theorem shownAll_eq (h : Tell guards texts) : shownAll guards = nestedText texts := by
  rw [← h, shownAll, nestedText, List.map_map]
  rfl

/-- Guards and texts grow together, at the inner end. -/
theorem concat (h : Tell guards texts) (guard : Guard) :
    Tell (guards ++ [guard]) (texts ++ [guard.shown]) := by
  rw [Tell, List.map_append, h]
  rfl

theorem condition (h : Tell guards texts) (condition : Condition) :
    Tell (guards ++ [condition.guard]) (texts ++ [condition.text]) :=
  h.concat _

theorem otherwise (h : Tell guards texts) (condition : Condition) :
    Tell (guards ++ [.otherwise condition.guard]) (texts ++ [otherwiseText condition.text]) :=
  h.concat _

theorem case (h : Tell guards texts) (subject label : String) :
    Tell (guards ++ [.case subject label]) (texts ++ [caseText subject label]) :=
  h.concat _

theorem other (h : Tell guards texts) (subject : String) (labels : List String) :
    Tell (guards ++ [otherGuard subject labels]) (texts ++ [otherText subject labels]) :=
  h.concat _

end Guard.Tell

namespace Conditions

variable {words soFar : List String} {guards : List Guard} {evaluations : List Evaluation}
  {previous : Option String}

/-! ### `IF` -/

/-- Without keywords a condition is shown as it was written. -/
theorem conditionGuard_eq (h : ∀ w ∈ words, Plain w) :
    conditionGuard words = .condition (Text.unwords words) := by
  rw [conditionGuard, Legible.trim_unwords fun w hw => (h w hw).toLegible]

/-- A line of plain words makes the condition longer; `lead` is the `IF` in front of them. -/
theorem readCondition_goesOn (conditions : Conditions) {lead : List String}
    (hlead : lead = [] ∨ lead = ["IF"]) (h : ∀ w ∈ words, Plain w) :
    conditions.readCondition soFar (lead ++ words) words =
      { conditions with reading := some (soFar ++ words) } := by
  have hthen : "THEN" ∉ words := Plain.not_mem h (by decide)
  have helse : "ELSE" ∉ words := Plain.not_mem h (by decide)
  have hcontinue : "CONTINUE" ∉ words := Plain.not_mem h (by decide)
  have hend : "END-IF" ∉ words := Plain.not_mem h (by decide)
  rcases hlead with rfl | rfl <;>
    simp [readCondition, endsCondition, conditionWords, hthen, helse, hcontinue, hend]

/-- `THEN` ends the condition. -/
theorem readCondition_then (conditions : Conditions) (lead : List String)
    (h : ∀ w ∈ words, Plain w) (hsoFar : ∀ w ∈ soFar, Plain w) :
    conditions.readCondition soFar (lead ++ (words ++ ["THEN"])) (words ++ ["THEN"]) =
      { conditions.push (.condition (Text.unwords (soFar ++ words))) with reading := none } := by
  have hthen : (lead ++ (words ++ ["THEN"])).contains "THEN" = true := by simp
  have hfilter : (words ++ ["THEN"]).filter (· ≠ "THEN") = words := by
    rw [List.filter_append, Plain.filter_ne h (by decide)]
    simp
  have hall : ∀ w ∈ soFar ++ words, Plain w := List.forall_mem_append.mpr ⟨hsoFar, h⟩
  simp only [readCondition, endsCondition, startsElse, conditionWords, hthen, hfilter,
    conditionGuard_eq hall, if_true, Bool.true_or, Bool.not_true, Bool.and_false, Bool.false_and,
    Bool.false_eq_true, if_false]

/-- What stands in front of a line of a condition, next to the words that were read before: the
first line is behind `IF`, and a later one has nothing in front. -/
inductive Lead : List String → Option (List String) → List String → Prop
  | first : Lead ["IF"] none []
  | later (soFar : List String) : Lead [] (some soFar) soFar

section

variable {lead : List String} {reading : Option (List String)}

theorem Lead.eq_or (h : Lead lead reading soFar) : lead = [] ∨ lead = ["IF"] := by
  cases h with
  | first => exact .inr rfl
  | later => exact .inl rfl

theorem Lead.head_ne (h : Lead lead reading soFar) {keyword : String} (hif : keyword ≠ "IF")
    (hhead : Text.head words ≠ keyword) : Text.head (lead ++ words) ≠ keyword := by
  cases h with
  | first => exact Ne.symm hif
  | later => exact hhead

/-- While a condition is read no line is taken for anything else, and its first line is an `IF`. -/
theorem Lead.reads (h : Lead lead reading soFar) :
    (Conditions.mk guards reading evaluations).isReading = true ∨
      Text.head (lead ++ words) ∉ ["PERFORM", "CALL", "EXEC"] := by
  cases h with
  | first => exact .inr (by simp [Text.head])
  | later => exact .inl rfl

/-- The first line of a condition and the later ones are read alike, apart from the words in
front. -/
theorem read_lead (hlead : Lead lead reading soFar) (hhead : Text.head words ≠ "IF") :
    (Conditions.mk guards reading evaluations).read (lead ++ words) previous =
      (Conditions.mk guards (some soFar) evaluations).readCondition soFar (lead ++ words)
        words := by
  cases hlead with
  | first => simp [read, read?, readIf?, Text.head, openIf]
  | later => simp [read, read?, readIf?, hhead]

end

theorem read_else (guard : Guard) :
    (Conditions.mk (guard :: guards) none evaluations).read ["ELSE"] previous =
      ⟨.otherwise guard :: guards, none, evaluations⟩ := rfl

theorem read_endIf (guard : Guard) :
    (Conditions.mk (guard :: guards) none evaluations).read ["END-IF"] previous =
      ⟨guards, none, evaluations⟩ := rfl

/-! ### `EVALUATE` -/

/-- A line that is no part of an `IF` is left to the evaluations. -/
theorem read_eq_readEvaluate {first : String} (hfirst : first ∉ ["IF", "ELSE", "END-IF"])
    (h : ∀ w ∈ words, Plain w) :
    (Conditions.mk guards none evaluations).read (first :: words) previous =
      ((Conditions.mk guards none evaluations).readEvaluate? (first :: words) previous).getD
        ⟨guards, none, evaluations⟩ := by
  have helse : "ELSE" ∉ words := Plain.not_mem h (by decide)
  have hend : "END-IF" ∉ words := Plain.not_mem h (by decide)
  simp only [List.mem_cons, List.not_mem_nil, or_false, not_or] at hfirst
  obtain ⟨hif, helse', hend'⟩ := hfirst
  simp [read, read?, readIf?, Text.head, hif, Ne.symm helse', Ne.symm hend', helse, hend]

theorem read_evaluate (h : ∀ w ∈ words, Plain w) :
    (Conditions.mk guards none evaluations).read ("EVALUATE" :: words) previous =
      ⟨guards, none, { subject := Text.unwords words } :: evaluations⟩ := by
  rw [read_eq_readEvaluate (by decide) h]
  simp [readEvaluate?, Text.head]

/-- The conditions among the arms of an evaluation: the guard of the last arm comes first, if
there is one. -/
def amongArms (arm : Option Guard) (guards : List Guard) (subject : String)
    (labels : List String) (evaluations : List Evaluation) : Conditions :=
  ⟨arm.toList ++ guards, none, ⟨subject, labels, arm.isSome⟩ :: evaluations⟩

variable {arm : Option Guard} {subject : String} {labels : List String}

theorem amongArms_some (guard : Guard) (outer : List Guard) :
    amongArms (some guard) outer.reverse subject labels evaluations =
      ⟨(outer ++ [guard]).reverse, none, ⟨subject, labels, true⟩ :: evaluations⟩ := by
  simp [amongArms]

/-- A label is kept for `OTHER` when its arm begins. -/
theorem read_when (label : Phrase) (habove : labelAbove previous = none) :
    (amongArms arm guards subject labels evaluations).read ("WHEN" :: label.words) previous =
      amongArms (some (.case subject label.text)) guards subject (labels ++ [label.text])
        evaluations := by
  have hplain := label.words_plain
  have hother : "OTHER" ∉ label.words := Plain.not_mem hplain (by decide)
  have hlabel : caseLabel ("WHEN" :: label.words) = label.text := by
    rw [caseLabel, List.filter_cons_of_neg (by decide), Plain.filter_ne hplain (by decide)]
    rfl
  have hnonempty : label.text.isEmpty = false := by
    simpa using label.text_ne_empty
  rw [amongArms, read_eq_readEvaluate (by decide) hplain]
  cases arm with
  | none =>
    simp [readEvaluate?, Text.head, withLabel, armGuard, hother, hlabel, hnonempty,
      habove, push, amongArms]
  | some guard =>
    simp [readEvaluate?, Text.head, withLabel, armGuard, hother, hlabel, hnonempty,
      habove, push, pop, amongArms]

/-- The arm `OTHER` leaves no label of its own. -/
theorem read_other :
    (amongArms arm guards subject labels evaluations).read ["WHEN", "OTHER"] previous =
      amongArms (some (otherGuard subject labels)) guards subject labels evaluations := by
  cases arm <;> rfl

theorem read_endEvaluate :
    (amongArms arm guards subject labels evaluations).read ["END-EVALUATE"] previous =
      ⟨guards, none, evaluations⟩ := by
  cases arm <;> rfl

/-! ### Other lines -/

theorem read_statement (phrase : Phrase) :
    (Conditions.mk guards none evaluations).read phrase.words previous =
      ⟨guards, none, evaluations⟩ := by
  have hplain := phrase.words_plain
  have hwhen : "WHEN" ∉ phrase.words := Plain.not_mem hplain (by decide)
  have hhead : Text.head phrase.words ≠ "EVALUATE" := phrase.first.plain.ne (by decide)
  have hend : Text.contains (Text.head phrase.words) "END-EVALUATE" = false :=
    phrase.first.plain.not_end
  have hfirst : phrase.first.text ∉ ["IF", "ELSE", "END-IF"] :=
    phrase.first.plain.not_among (by decide)
  rw [Phrase.words, read_eq_readEvaluate hfirst fun w hw => hplain w (List.mem_cons_of_mem _ hw),
    ← Phrase.words]
  simp [readEvaluate?, hhead, hwhen, hend]

/-! ### Lines in a row -/

/-- A line of a section, with the line above it. -/
structure BodyLine where
  words : List String
  above : Option String

/-- The lines with these texts, the first of them below `above`. -/
def bodyLines (above : Option String) : List String → List BodyLine
  | [] => []
  | text :: rest => ⟨Text.words text, above⟩ :: bodyLines (some text) rest

/-- The conditions behind some lines. -/
def readAll (conditions : Conditions) (lines : List BodyLine) : Conditions :=
  lines.foldl (fun conditions line => conditions.read line.words line.above) conditions

theorem bodyLines_concat (above : Option String) (earlier : List String) (last : String) :
    bodyLines above (earlier ++ [last]) =
      bodyLines above earlier ++ [⟨Text.words last, earlier.getLast?.or above⟩] := by
  induction earlier generalizing above with
  | nil => rfl
  | cons text rest ih =>
    rw [List.cons_append, bodyLines, ih, bodyLines, List.getLast?_cons]
    cases rest.getLast? <;> rfl

/-- Reading a body is a left fold, so a statement about whole bodies is proved at the last line. -/
theorem readAll_concat (conditions : Conditions) (earlier : List BodyLine) (last : BodyLine) :
    conditions.readAll (earlier ++ [last]) =
      (conditions.readAll earlier).read last.words last.above := by
  rw [readAll, List.foldl_append]
  rfl

end Conditions

end CobolAtlas
