import CobolAtlas.Conditions
import CobolAtlas.Proofs.SentencePeriod

/-!
# Conditions and an empty last word

An empty word at the end of a line is a space at the end of what the words make. The text of a
condition is trimmed once the condition is whole, but while it goes on over several lines its words
are kept as they are, and subjects and labels of an `EVALUATE` are not trimmed at all. So the empty
word is seen in three places (`showsPeriod`), and `read_concat_empty_iff` says that these are all.
-/

namespace CobolAtlas

/-- An empty last word shows as a trailing space unless it is the only word. -/
theorem Text.unwords_concat_empty_iff (ws : List String) :
    unwords (ws ++ [""]) = unwords ws ↔ ws = [] := by
  constructor
  · intro hsame
    by_contra hne
    rw [unwords_concat hne, String.append_empty] at hsame
    have hlength := congrArg String.length hsame
    simp at hlength
  · rintro rfl
    rfl

namespace Conditions

/-- Whether an empty word at the end of a line shows in the conditions behind the line. -/
def showsPeriod (conditions : Conditions) (words : List String) : Bool :=
  if Text.head words = "IF" || conditions.isReading then
    -- the condition goes on
    !endsCondition words && !words.contains "END-IF"
  else if words.contains "ELSE" || words.contains "END-IF" then false
  else if Text.head words = "EVALUATE" then words.length > 1
  else
    -- an arm with a label of its own
    words.contains "WHEN" && !words.contains "OTHER" && words.any (· ≠ "WHEN")
      && !conditions.evaluations.isEmpty

section

variable {words : List String}

theorem contains_concat_empty {keyword : String} (h : keyword ≠ "") :
    (words ++ [""]).contains keyword = words.contains keyword := by
  simp [h]

theorem endsCondition_concat_empty (words : List String) :
    endsCondition (words ++ [""]) = endsCondition words := by
  simp [endsCondition]

theorem startsElse_concat_empty (words : List String) :
    startsElse (words ++ [""]) = startsElse words := by
  simp [startsElse]

theorem conditionGuard_concat_empty (ws : List String) :
    conditionGuard (ws ++ [""]) = conditionGuard ws := by
  by_cases hne : ws = []
  · subst hne
    rfl
  · rw [conditionGuard, conditionGuard, Text.unwords_concat hne, String.append_empty,
      Text.trim_append_space]

/-- A line that is past the condition adds no words, and every other line adds the empty one. -/
theorem conditionWords_concat_empty (words body : List String) :
    conditionWords (words ++ [""]) (body ++ [""]) = conditionWords words body ++ [""] ∨
      conditionWords (words ++ [""]) (body ++ [""]) = conditionWords words body ∧
        endsCondition words = true := by
  unfold conditionWords
  rw [contains_concat_empty (by decide), contains_concat_empty (by decide),
    contains_concat_empty (by decide)]
  split
  · left
    rw [List.filter_append]
    rfl
  split
  · rename_i hpast
    right
    refine ⟨rfl, ?_⟩
    rw [endsCondition]
    simp only [Bool.or_eq_true] at hpast ⊢
    rcases hpast with helse | hcontinue
    · exact .inr helse
    · exact .inl (.inr hcontinue)
  · exact .inl rfl

theorem conditionGuard_words (soFar words body : List String) :
    conditionGuard (soFar ++ conditionWords (words ++ [""]) (body ++ [""])) =
      conditionGuard (soFar ++ conditionWords words body) := by
  rcases conditionWords_concat_empty words body with hmore | ⟨hsame, _⟩
  · rw [hmore, ← List.append_assoc, conditionGuard_concat_empty]
  · rw [hsame]

/-- The empty word is seen while the condition goes on: the blank that it leaves at the end of the
condition is trimmed only once the condition is whole. -/
theorem readCondition_concat_empty_iff (conditions : Conditions) (soFar words body : List String) :
    conditions.readCondition soFar (words ++ [""]) (body ++ [""]) =
      conditions.readCondition soFar words body ↔
      (!endsCondition words && !words.contains "END-IF") = false := by
  have hendIf' : (words ++ [""]).contains "END-IF" = words.contains "END-IF" :=
    contains_concat_empty (by decide)
  simp only [readCondition, endsCondition_concat_empty, startsElse_concat_empty, hendIf',
    conditionGuard_words]
  by_cases hends : endsCondition words = true
  · simp only [hends, if_true, Bool.not_true, Bool.false_and]
  by_cases hendIf : words.contains "END-IF" = true
  · simp only [hends, hendIf, if_true, Bool.not_true, Bool.and_false]
  · rcases conditionWords_concat_empty words body with hmore | ⟨_, hcontra⟩
    · rw [Bool.not_eq_true] at hends hendIf
      simp only [hends, hendIf, hmore, Bool.false_eq_true, if_false]
      simp
    · exact absurd hcontra hends

/-! #### Labels -/

/-- The label of a `WHEN` line is not trimmed. Only a line without a label is safe from an empty
word at its end. -/
theorem caseLabel_concat_empty_iff (words : List String) :
    caseLabel (words ++ [""]) = caseLabel words ↔ words.any (· ≠ "WHEN") = false := by
  have hfilter : (words ++ [""]).filter (· ≠ "WHEN") = words.filter (· ≠ "WHEN") ++ [""] := by
    rw [List.filter_append]
    rfl
  rw [caseLabel, caseLabel, hfilter, Text.unwords_concat_empty_iff, List.filter_eq_nil_iff,
    List.any_eq_false]

/-- The guard of an arm that is not `OTHER` shows the label. -/
theorem armGuard_inj {evaluation other : Evaluation} {words others : List String}
    {previous : Option String} (hwords : words.contains "OTHER" = false)
    (hothers : others.contains "OTHER" = false)
    (h : armGuard evaluation words previous = armGuard other others previous) :
    caseLabel words = caseLabel others := by
  rw [armGuard, armGuard, hwords, hothers] at h
  cases hlabel : labelAbove previous with
  | none =>
    simp only [hlabel, Bool.false_eq_true, if_false, Guard.case.injEq] at h
    exact h.2
  | some earlier =>
    simp only [hlabel, Bool.false_eq_true, if_false, Guard.eitherCase.injEq] at h
    exact h.2.2

theorem readEvaluate?_of_when {conditions : Conditions} {words : List String}
    {evaluation : Evaluation} {outer : List Evaluation}
    (hhead : Text.head words ≠ "EVALUATE") (hwhen : words.contains "WHEN" = true)
    (hevaluations : conditions.evaluations = evaluation :: outer) (previous : Option String) :
    conditions.readEvaluate? words previous =
      some { (if evaluation.inArm then conditions.pop else conditions).push
          (armGuard (withLabel evaluation words) words previous) with
        evaluations := { withLabel evaluation words with inArm := true } :: outer } := by
  have hinArm : (withLabel evaluation words).inArm = evaluation.inArm := by
    unfold withLabel
    split
    · rfl
    · rfl
  simp only [readEvaluate?, hhead, hwhen, hevaluations, hinArm, if_false, if_true]

theorem withLabel_concat_empty (evaluation : Evaluation)
    (h : (!words.contains "OTHER" && words.any (· ≠ "WHEN")) = false) :
    withLabel evaluation (words ++ [""]) = withLabel evaluation words := by
  have hother : (words ++ [""]).contains "OTHER" = words.contains "OTHER" :=
    contains_concat_empty (by decide)
  rw [withLabel, withLabel, hother]
  rcases Bool.and_eq_false_iff.mp h with hotherArm | hwhen
  · rw [Bool.not_eq_false'] at hotherArm
    simp only [hotherArm, Bool.true_or, if_true]
  · rw [(caseLabel_concat_empty_iff words).mpr hwhen]

/-- The guard of an arm changes exactly when its line has a label and is not `OTHER`. -/
theorem armGuard_concat_empty_iff (evaluation : Evaluation) (previous : Option String) :
    armGuard (withLabel evaluation (words ++ [""])) (words ++ [""]) previous =
      armGuard (withLabel evaluation words) words previous ↔
      (!words.contains "OTHER" && words.any (· ≠ "WHEN")) = false := by
  have hother : (words ++ [""]).contains "OTHER" = words.contains "OTHER" :=
    contains_concat_empty (by decide)
  constructor
  · intro hsame
    by_cases hotherArm : words.contains "OTHER" = true
    · rw [hotherArm]
      rfl
    · rw [Bool.not_eq_true] at hotherArm
      have hlabel := armGuard_inj (hother.trans hotherArm) hotherArm hsame
      rw [(caseLabel_concat_empty_iff words).mp hlabel, Bool.and_false]
  · intro h
    rw [withLabel_concat_empty evaluation h, armGuard, armGuard, hother]
    rcases Bool.and_eq_false_iff.mp h with hotherArm | hwhen
    · rw [Bool.not_eq_false'] at hotherArm
      rw [if_pos hotherArm, if_pos hotherArm]
    · rw [(caseLabel_concat_empty_iff words).mpr hwhen]

/-- Among the lines of an `EVALUATE` only the subject and the labels show the empty word. -/
theorem readEvaluate?_concat_empty_iff (conditions : Conditions) (hne : words ≠ [])
    (previous : Option String) :
    (conditions.readEvaluate? (words ++ [""]) previous).getD conditions =
      (conditions.readEvaluate? words previous).getD conditions ↔
      (if Text.head words = "EVALUATE" then decide (words.length > 1)
        else words.contains "WHEN" && !words.contains "OTHER" && words.any (· ≠ "WHEN")
          && !conditions.evaluations.isEmpty) = false := by
  have hhead : Text.head (words ++ [""]) = Text.head words := Text.head_append hne _
  have hwhen : (words ++ [""]).contains "WHEN" = words.contains "WHEN" :=
    contains_concat_empty (by decide)
  by_cases hevaluate : Text.head words = "EVALUATE"
  · have htail : (words ++ [""]).tail = words.tail ++ [""] := List.tail_append_of_ne_nil hne
    have hlength : words.tail = [] ↔ ¬ words.length > 1 := by
      rw [← List.length_eq_zero_iff, List.length_tail]
      omega
    simp [readEvaluate?, hhead, hevaluate, htail, Text.unwords_concat_empty_iff, hlength]
  · by_cases hlabel : words.contains "WHEN" = true
    · cases hevaluations : conditions.evaluations with
      | nil => simp [readEvaluate?, hhead, hevaluate, hevaluations]
      | cons evaluation outer =>
        rw [readEvaluate?_of_when (hhead ▸ hevaluate) (hwhen.trans hlabel) hevaluations,
          readEvaluate?_of_when hevaluate hlabel hevaluations, Option.getD_some, Option.getD_some,
          if_neg hevaluate, hlabel, Bool.true_and, List.isEmpty_cons, Bool.not_false, Bool.and_true,
          ← armGuard_concat_empty_iff evaluation previous]
        constructor
        · intro hsame
          have hguards := congrArg (fun conditions => conditions.guards.head?) hsame
          exact Option.some.inj hguards
        · intro hguard
          rw [hguard, withLabel_concat_empty evaluation
            ((armGuard_concat_empty_iff evaluation previous).mp hguard)]
    · simp only [readEvaluate?, hhead, hevaluate, hwhen, hlabel]
      simp

section

variable (conditions : Conditions) (previous : Option String)

theorem read_of_if (h : Text.head words = "IF") :
    conditions.read words previous = conditions.openIf.readCondition [] words words.tail := by
  simp [read, read?, readIf?, h]

theorem read_of_reading {soFar : List String} (hhead : Text.head words ≠ "IF")
    (h : conditions.reading = some soFar) :
    conditions.read words previous = conditions.readCondition soFar words words := by
  simp [read, read?, readIf?, hhead, h]

/-- A line outside of conditions whose first word is not `IF` goes to the other branch, ends one, or
is part of an `EVALUATE`. -/
theorem read_of_not_reading (hhead : Text.head words ≠ "IF") (h : conditions.reading = none) :
    conditions.read words previous =
      if words.contains "ELSE" then conditions.negateInnermost
      else if words.contains "END-IF" then conditions.pop
      else (conditions.readEvaluate? words previous).getD conditions := by
  by_cases helse : words.contains "ELSE" = true
  · simp only [read, read?, readIf?, hhead, h, helse, if_false, if_true, Option.getD_some]
  by_cases hendIf : words.contains "END-IF" = true
  · simp only [read, read?, readIf?, hhead, h, helse, hendIf, Bool.false_eq_true, if_false, if_true,
      Option.getD_some]
  · simp only [read, read?, readIf?, hhead, h, helse, hendIf, Bool.false_eq_true, if_false]

end

/-- **An empty word at the end of a line** is seen in the conditions where `showsPeriod` says so. -/
theorem read_concat_empty_iff (conditions : Conditions) (hne : words ≠ [])
    (previous : Option String) :
    conditions.read (words ++ [""]) previous = conditions.read words previous ↔
      conditions.showsPeriod words = false := by
  have hhead : Text.head (words ++ [""]) = Text.head words := Text.head_append hne _
  by_cases hif : Text.head words = "IF"
  · have htail : (words ++ [""]).tail = words.tail ++ [""] := List.tail_append_of_ne_nil hne
    rw [read_of_if _ _ (hhead.trans hif), read_of_if _ _ hif, htail,
      readCondition_concat_empty_iff]
    simp [showsPeriod, hif]
  cases hreading : conditions.reading with
  | some soFar =>
    rw [read_of_reading _ _ (hhead ▸ hif) hreading, read_of_reading _ _ hif hreading,
      readCondition_concat_empty_iff]
    simp [showsPeriod, isReading, hreading]
  | none =>
    have helse : (words ++ [""]).contains "ELSE" = words.contains "ELSE" :=
      contains_concat_empty (by decide)
    have hendIf : (words ++ [""]).contains "END-IF" = words.contains "END-IF" :=
      contains_concat_empty (by decide)
    rw [read_of_not_reading _ _ (hhead ▸ hif) hreading, read_of_not_reading _ _ hif hreading, helse,
      hendIf]
    have hnoIf : (decide (Text.head words = "IF") || conditions.isReading) = false := by
      simp [hif, isReading, hreading]
    rw [showsPeriod, hnoIf]
    by_cases helse : words.contains "ELSE" = true
    · simp only [helse, if_true, Bool.true_or, Bool.false_eq_true, if_false]
    by_cases hendIf : words.contains "END-IF" = true
    · simp only [helse, hendIf, if_true, Bool.or_true, Bool.false_eq_true, if_false]
    · simp only [helse, hendIf, Bool.or_false, Bool.false_eq_true, if_false]
      exact readEvaluate?_concat_empty_iff conditions hne previous

end

end Conditions

end CobolAtlas
