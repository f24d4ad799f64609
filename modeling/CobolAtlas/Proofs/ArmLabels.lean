import CobolAtlas.Proofs.Conditions
import CobolAtlas.Proofs.EmptyWord

/-!
# The labels of an arm

An arm of an `EVALUATE` may have several `WHEN` lines in a row. Each of them replaces the guard of
the arm, and looks at the line above for the label that it is an alternative to. So the guard shows
the last two labels of the row, whatever its length, while the evaluation keeps all of them for the
arm `OTHER`.
-/

namespace CobolAtlas

/-! ### Labels in brackets -/

def shownLabels (labels : List String) : String :=
  " または ".intercalate (labels.map fun label => "[" ++ label ++ "]")

/-- The guard says that the subject has some value, and shows the label among the values. -/
def Guard.Names (guard : Guard) (subject label : String) : Prop :=
  ∃ text, guard.shown = "[" ++ subject ++ "] = " ++ text ∧
    ("[" ++ label ++ "]").toList <:+: text.toList

/-- A label without brackets can be told from the text around it. -/
def Unbracketed (label : String) : Prop :=
  '[' ∉ label.toList ∧ ']' ∉ label.toList

instance (label : String) : Decidable (Unbracketed label) :=
  inferInstanceAs (Decidable (_ ∧ _))

/-- A guard shown behind its subject names a label when the bracketed label stands in the rest of
its text. -/
theorem Guard.names_iff {guard : Guard} {subject text : String}
    (h : guard.shown = "[" ++ subject ++ "] = " ++ text) (label : String) :
    guard.Names subject label ↔ ("[" ++ label ++ "]").toList <:+: text.toList := by
  constructor
  · rintro ⟨other, hother, hnamed⟩
    rw [h, String.append_right_inj] at hother
    exact hother ▸ hnamed
  · intro hnamed
    exact ⟨text, h, hnamed⟩

namespace Chars

theorem infix_append_iff {c : Char} {part cs ds : List Char} (h : c ∉ cs) :
    c :: part <:+: cs ++ ds ↔ c :: part <:+: ds := by
  induction cs with
  | nil => rfl
  | cons d cs ih =>
    rw [List.mem_cons, not_or] at h
    rw [List.cons_append, List.infix_cons_iff, List.cons_prefix_cons, ih h.2]
    simp [h.1]

/-- A closing bracket makes one label a prefix of another only when the two are equal. -/
theorem closed_prefix_iff {c : Char} {cs ds rest : List Char} (hcs : c ∉ cs) (hds : c ∉ ds) :
    cs ++ [c] <+: ds ++ c :: rest ↔ cs = ds := by
  induction cs generalizing ds with
  | nil =>
    cases ds with
    | nil => simp
    | cons d ds =>
      rw [List.mem_cons, not_or] at hds
      simp [hds.1]
  | cons b cs ih =>
    rw [List.mem_cons, not_or] at hcs
    cases ds with
    | nil => simp [Ne.symm hcs.1]
    | cons d ds =>
      rw [List.mem_cons, not_or] at hds
      rw [List.cons_append, List.cons_append, List.cons_prefix_cons, ih hcs.2 hds.2,
        List.cons.injEq]

end Chars

theorem toList_bracketed (label : String) :
    ("[" ++ label ++ "]").toList = '[' :: (label.toList ++ [']']) := by
  simp

/-- Two labels of a guard are kept apart by a text without an opening bracket, so a bracketed label
cannot start in it. -/
theorem toList_shownLabels_cons (label : String) (labels : List String) :
    ∃ joint, '[' ∉ joint ∧ (shownLabels (label :: labels)).toList =
      ("[" ++ label ++ "]").toList ++ (joint ++ (shownLabels labels).toList) := by
  cases labels with
  | nil => exact ⟨[], by simp, by simp [shownLabels]⟩
  | cons next rest => exact ⟨" または ".toList, by decide, by simp [shownLabels]⟩

theorem bracketed_infix_of_mem {label : String} {labels : List String} (h : label ∈ labels) :
    ("[" ++ label ++ "]").toList <:+: (shownLabels labels).toList := by
  induction labels with
  | nil => exact absurd h List.not_mem_nil
  | cons first rest ih =>
    obtain ⟨joint, -, htext⟩ := toList_shownLabels_cons first rest
    rw [htext]
    rcases List.mem_cons.mp h with rfl | hrest
    · exact (List.prefix_append _ _).isInfix
    · rw [← List.append_assoc]
      exact (ih hrest).trans (List.suffix_append _ _).isInfix

/-- Among labels without brackets, those that are shown are those that are there. -/
theorem bracketed_infix_iff {label : String} {labels : List String} (hlabel : Unbracketed label)
    (hlabels : ∀ other ∈ labels, Unbracketed other) :
    ("[" ++ label ++ "]").toList <:+: (shownLabels labels).toList ↔ label ∈ labels := by
  refine ⟨?_, bracketed_infix_of_mem⟩
  intro hshown
  induction labels with
  | nil => exact absurd hshown (by simp [shownLabels])
  | cons first rest ih =>
    obtain ⟨hfirst, hrest⟩ := List.forall_mem_cons.mp hlabels
    obtain ⟨joint, hjoint, htext⟩ := toList_shownLabels_cons first rest
    rw [htext, toList_bracketed, toList_bracketed, List.cons_append, List.infix_cons_iff,
      List.cons_prefix_cons, List.append_assoc, List.singleton_append,
      Chars.closed_prefix_iff hlabel.2 hfirst.2, String.toList_inj] at hshown
    rcases hshown with ⟨-, rfl⟩ | hlater
    · exact List.mem_cons_self
    · -- no label starts inside the first one or between the two
      have hnone : '[' ∉ first.toList ++ ']' :: joint := by
        simp [hfirst.1, hjoint]
      have hsplit : first.toList ++ ']' :: (joint ++ (shownLabels rest).toList) =
          (first.toList ++ ']' :: joint) ++ (shownLabels rest).toList := by
        simp
      rw [hsplit, Chars.infix_append_iff hnone, ← toList_bracketed] at hlater
      exact List.mem_cons_of_mem _ (ih hrest hlater)

namespace Conditions

/-! ### Label lines -/

structure LabelLine (line : String) : Prop where
  head_eq : Text.head (Text.words line) = "WHEN"
  not_other : (Text.words line).contains "OTHER" = false
  not_else : (Text.words line).contains "ELSE" = false
  not_endIf : (Text.words line).contains "END-IF" = false

instance (line : String) : Decidable (LabelLine line) :=
  decidable_of_iff
    (Text.head (Text.words line) = "WHEN" ∧ (Text.words line).contains "OTHER" = false ∧
      (Text.words line).contains "ELSE" = false ∧ (Text.words line).contains "END-IF" = false)
    ⟨fun ⟨h₁, h₂, h₃, h₄⟩ => ⟨h₁, h₂, h₃, h₄⟩, fun ⟨h₁, h₂, h₃, h₄⟩ => ⟨h₁, h₂, h₃, h₄⟩⟩

def labelOf (line : String) : String :=
  caseLabel (Text.words line)

/-- The labels of lines in a row, behind the one of the line above if that is a `WHEN` line too. -/
def labelRow (above : Option String) (lines : List String) : List String :=
  (labelAbove above).toList ++ lines.map labelOf

/-- The last two members of a list, or all if there are fewer. -/
def lastTwo {α : Type} (as : List α) : List α :=
  as.drop (as.length - 2)

theorem lastTwo_append {α : Type} (as bs : List α) :
    lastTwo (as ++ bs) = as.drop (as.length + bs.length - 2) ++ lastTwo bs := by
  have hrest : as.length + bs.length - 2 - as.length = bs.length - 2 := by omega
  rw [lastTwo, List.length_append, List.drop_append, hrest, lastTwo]

theorem LabelLine.labelAbove_eq {line : String} (h : LabelLine line) :
    labelAbove (some line) = some (labelOf line) := by
  simp only [labelAbove, h.head_eq, if_true]
  rfl

theorem LabelLine.contains_when {line : String} (h : LabelLine line) :
    (Text.words line).contains "WHEN" = true := by
  rw [List.contains_iff_mem, ← h.head_eq]
  exact Text.head_mem_words line

/-- The guard of an arm is read back from the label of its own line and, where there is one, that of
the line above. -/
theorem shown_armGuard {line : String} (h : LabelLine line) (evaluation : Evaluation)
    (above : Option String) :
    (armGuard evaluation (Text.words line) above).shown =
      "[" ++ evaluation.subject ++ "] = " ++ shownLabels (labelRow above [line]) := by
  rw [armGuard, h.not_other, labelRow, List.map_singleton, labelOf]
  apply String.toList_inj.mp
  cases labelAbove above with
  | none => simp [Guard.shown, shownLabels]
  | some earlier => simp [Guard.shown, shownLabels]

/-- Where a row of labels stands: in the evaluation of `subject`, around the guards `outside`. -/
structure AmongLabels (outside : List Guard) (subject : String) (labels : List String)
    (outer : List Evaluation) (conditions : Conditions) : Prop where
  reading_eq : conditions.reading = none
  evaluations_eq : ∃ inArm, conditions.evaluations = ⟨subject, labels, inArm⟩ :: outer ∧
    (if inArm then conditions.guards.tail else conditions.guards) = outside

section

variable {outside : List Guard} {subject : String} {labels : List String}
  {outer : List Evaluation} {conditions : Conditions} {line : String}

/-- One `WHEN` line replaces the open arm and leaves the guards outside the `EVALUATE` alone. -/
theorem AmongLabels.read (h : AmongLabels outside subject labels outer conditions)
    (hline : LabelLine line) (above : Option String) :
    conditions.read (Text.words line) above =
      amongArms (some (armGuard ⟨subject, labels, true⟩ (Text.words line) above)) outside subject
        (labels ++ [labelOf line].filter (· ≠ "")) outer := by
  obtain ⟨hreading, inArm, hevaluations, houtside⟩ := h
  have hnotIf : Text.head (Text.words line) ≠ "IF" := by
    rw [hline.head_eq]
    decide
  have hnotEvaluate : Text.head (Text.words line) ≠ "EVALUATE" := by
    rw [hline.head_eq]
    decide
  -- only the arm `OTHER` shows the labels so far
  have hguard (evaluation : Evaluation) (hsubject : evaluation.subject = subject) :
      armGuard evaluation (Text.words line) above =
        armGuard ⟨subject, labels, true⟩ (Text.words line) above := by
    simp only [armGuard, hline.not_other, hsubject, Bool.false_eq_true, if_false]
  have hlabels : withLabel ⟨subject, labels, inArm⟩ (Text.words line) =
      ⟨subject, labels ++ [labelOf line].filter (· ≠ ""), inArm⟩ := by
    rw [withLabel, hline.not_other, labelOf]
    by_cases hempty : caseLabel (Text.words line) = "" <;> simp [hempty]
  rw [read_of_not_reading _ _ hnotIf hreading, hline.not_else, hline.not_endIf,
    readEvaluate?_of_when hnotEvaluate hline.contains_when hevaluations, hlabels, hguard _ rfl]
  cases inArm with
  | false => simp_all [amongArms, push]
  | true => simp_all [amongArms, push, pop]

theorem AmongLabels.next (h : AmongLabels outside subject labels outer conditions)
    (hline : LabelLine line) (above : Option String) :
    AmongLabels outside subject (labels ++ [labelOf line].filter (· ≠ "")) outer
      (conditions.read (Text.words line) above) := by
  rw [h.read hline above]
  exact ⟨rfl, true, rfl, rfl⟩

end

/-! ### Rows of label lines -/

/-- The two labels that the last line of a row sees are the last two of the row. -/
theorem labelRow_last {earlier : List String} (h : ∀ line ∈ earlier, LabelLine line)
    (above : Option String) (last : String) :
    labelRow (earlier.getLast?.or above) [last] = lastTwo (labelRow above (earlier ++ [last])) := by
  rcases List.eq_nil_or_concat earlier with rfl | ⟨front, line, rfl⟩
  · cases habove : labelAbove above <;> simp [labelRow, habove, lastTwo]
  · have hline : LabelLine line := h line (by simp)
    have hrow : labelRow above (front.concat line ++ [last]) =
        ((labelAbove above).toList ++ front.map labelOf) ++ [labelOf line, labelOf last] := by
      simp [labelRow]
    rw [hrow, lastTwo_append, List.drop_of_length_le (by simp), labelRow, List.concat_eq_append,
      List.getLast?_concat, Option.some_or, hline.labelAbove_eq]
    rfl

/-- For a line of the row it makes no difference whether the label above the row counts. -/
theorem mem_lastTwo_labelRow {lines : List String} {line : String} (h : line ∈ lines)
    (above : Option String) :
    labelOf line ∈ lastTwo (labelRow above lines) ↔ labelOf line ∈ lastTwo (lines.map labelOf) := by
  rw [labelRow, lastTwo_append, List.mem_append]
  refine ⟨?_, .inr⟩
  rintro (hfront | hlate)
  · have hone : lines.length ≤ 1 := by
      have hlength := List.length_pos_of_mem hfront
      have habove : (labelAbove above).toList.length ≤ 1 := by cases labelAbove above <;> simp
      rw [List.length_drop, List.length_map] at hlength
      omega
    rw [lastTwo, List.length_map, Nat.sub_eq_zero_of_le (by omega), List.drop_zero]
    exact List.mem_map_of_mem h
  · exact hlate

section

variable {outside : List Guard} {subject : String} {labels : List String}
  {outer : List Evaluation} {conditions : Conditions}

/-- A row of `WHEN` lines keeps every label for `OTHER`, whatever the guard of the arm shows. -/
theorem AmongLabels.readAll (h : AmongLabels outside subject labels outer conditions)
    (above : Option String) {lines : List String} (hlines : ∀ line ∈ lines, LabelLine line) :
    AmongLabels outside subject (labels ++ (lines.map labelOf).filter (· ≠ "")) outer
      (conditions.readAll (bodyLines above lines)) := by
  induction lines generalizing conditions above labels with
  | nil => simpa [bodyLines, Conditions.readAll] using h
  | cons line rest ih =>
    obtain ⟨hline, hrest⟩ := List.forall_mem_cons.mp hlines
    have hnext := ih (h.next hline above) (some line) hrest
    rwa [List.append_assoc, ← List.filter_append] at hnext

end

/-- **The guard of an arm names the last two of its labels.** Behind any row of label lines the arm
has one guard, which shows the last two labels; a label further up is named only if it is repeated
there. All labels are kept for the arm `OTHER`. -/
theorem readAll_arm_labels {conditions : Conditions} {evaluation : Evaluation}
    {outer : List Evaluation} (hreading : conditions.reading = none)
    (hevaluations : conditions.evaluations = evaluation :: outer) (above : Option String)
    {lines : List String} (hne : lines ≠ []) (hlines : ∀ line ∈ lines, LabelLine line) :
    ∃ guard : Guard,
      conditions.readAll (bodyLines above lines) =
        { guards :=
            guard :: if evaluation.inArm then conditions.guards.tail else conditions.guards
          reading := none
          evaluations :=
            { subject := evaluation.subject
              labels := evaluation.labels ++ (lines.map labelOf).filter (· ≠ "")
              inArm := true } :: outer } ∧
      guard.shown =
        "[" ++ evaluation.subject ++ "] = " ++ shownLabels (lastTwo (labelRow above lines)) ∧
      (∀ line ∈ lastTwo lines, guard.Names evaluation.subject (labelOf line)) ∧
      ((∀ label ∈ labelRow above lines, Unbracketed label) →
        ∀ line ∈ lines, guard.Names evaluation.subject (labelOf line) ↔
          labelOf line ∈ lastTwo (lines.map labelOf)) := by
  obtain ⟨subject, labels, inArm⟩ := evaluation
  obtain ⟨earlier, last, rfl⟩ : ∃ earlier last, lines = earlier ++ [last] :=
    ⟨lines.dropLast, lines.getLast hne, (List.dropLast_append_getLast hne).symm⟩
  obtain ⟨hearlier, hlast⟩ := List.forall_mem_append.mp hlines
  have hlastLine : LabelLine last := hlast last List.mem_cons_self
  have hstart : AmongLabels (if inArm then conditions.guards.tail else conditions.guards) subject
      labels outer conditions := ⟨hreading, inArm, hevaluations, rfl⟩
  have hshown := shown_armGuard hlastLine
    ⟨subject, labels ++ (earlier.map labelOf).filter (· ≠ ""), true⟩ (earlier.getLast?.or above)
  rw [labelRow_last hearlier above last] at hshown
  refine ⟨_, ?_, hshown, ?_, ?_⟩
  · rw [bodyLines_concat, readAll_concat,
      (hstart.readAll above hearlier).read hlastLine, List.append_assoc,
      ← List.filter_append, ← List.map_singleton, ← List.map_append]
    rfl
  · intro line hline
    rw [Guard.names_iff hshown]
    apply bracketed_infix_of_mem
    rw [mem_lastTwo_labelRow (List.mem_of_mem_drop hline), lastTwo, ← List.map_drop,
      List.length_map]
    exact List.mem_map_of_mem hline
  · intro hplain line hline
    have hlabel : labelOf line ∈ labelRow above (earlier ++ [last]) :=
      List.mem_append_right _ (List.mem_map_of_mem hline)
    have hlate : ∀ other ∈ lastTwo (labelRow above (earlier ++ [last])), Unbracketed other := by
      intro other hother
      exact hplain other (List.mem_of_mem_drop hother)
    rw [Guard.names_iff hshown, bracketed_infix_iff (hplain _ hlabel) hlate,
      mem_lastTwo_labelRow hline]

theorem threeLabels_lose_first :
    ∃ guard, (({} : Conditions).readAll (bodyLines none
        ["EVALUATE WS-KBN", "WHEN 1", "WHEN 2", "WHEN 3"])).guards = [guard] ∧
      guard.shown = "[WS-KBN] = [2] または [3]" ∧ ¬ guard.Names "WS-KBN" "1" := by
  have hshown : (Guard.eitherCase "WS-KBN" "2" "3").shown =
      "[" ++ "WS-KBN" ++ "] = " ++ "[2] または [3]" := by decide +kernel
  refine ⟨.eitherCase "WS-KBN" "2" "3", by decide +kernel, by decide +kernel, ?_⟩
  rw [Guard.names_iff hshown]
  decide +kernel

theorem threeLabels_arm_labels :
    (∀ line ∈ ["WHEN 1", "WHEN 2", "WHEN 3"], LabelLine line) ∧
      ∃ guard : Guard,
        (Conditions.mk [] none [⟨"WS-KBN", [], false⟩]).readAll
            (bodyLines (some "EVALUATE WS-KBN") ["WHEN 1", "WHEN 2", "WHEN 3"]) =
          { guards := [guard]
            reading := none
            evaluations := [⟨"WS-KBN", ["1", "2", "3"], true⟩] } ∧
        guard.Names "WS-KBN" (labelOf "WHEN 2") ∧ guard.Names "WS-KBN" (labelOf "WHEN 3") ∧
        ¬ guard.Names "WS-KBN" (labelOf "WHEN 1") := by
  have hlines : ∀ line ∈ ["WHEN 1", "WHEN 2", "WHEN 3"], LabelLine line := by decide +kernel
  have hlabels : [] ++ (["WHEN 1", "WHEN 2", "WHEN 3"].map labelOf).filter (· ≠ "") =
      ["1", "2", "3"] := by decide +kernel
  have hplain : ∀ label ∈ labelRow (some "EVALUATE WS-KBN") ["WHEN 1", "WHEN 2", "WHEN 3"],
      Unbracketed label := by decide +kernel
  have hreading : (Conditions.mk [] none [⟨"WS-KBN", [], false⟩]).reading = none := rfl
  obtain ⟨guard, hafter, -, hnames, hexact⟩ :=
    readAll_arm_labels hreading rfl (some "EVALUATE WS-KBN") (by decide) hlines
  rw [hlabels] at hafter
  refine ⟨hlines, guard, hafter, hnames _ (by decide), hnames _ (by decide), ?_⟩
  rw [hexact hplain _ List.mem_cons_self]
  decide +kernel

end Conditions

end CobolAtlas
