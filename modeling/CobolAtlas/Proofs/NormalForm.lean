import Mathlib.Data.List.Chain
import CobolAtlas.Division
import CobolAtlas.Proofs.Words

/-!
# The normal form of a line

Whatever a line holds, squeezing leaves no two blanks side by side and trimming no blank at the end.
A line with the indicator of a comment has a first word that starts with an asterisk, because the
indicator is part of the text.
-/

namespace CobolAtlas

namespace Chars

/-- No two blanks stand side by side. -/
def Squeezed (cs : List Char) : Prop :=
  cs.IsChain fun a b => isBlank a = true → isBlank b = false

/-- The last character, if there is one, is no blank. -/
def EndsSolid (cs : List Char) : Prop :=
  ∀ c, cs.getLast? = some c → isBlank c = false

theorem endsSolid_cons_cons (c d : Char) (cs : List Char) :
    EndsSolid (c :: d :: cs) ↔ EndsSolid (d :: cs) := by
  simp only [EndsSolid, List.getLast?_cons_cons]

theorem endsSolid_append (cs : List Char) {ds : List Char} (hne : ds ≠ []) :
    EndsSolid (cs ++ ds) ↔ EndsSolid ds := by
  rw [EndsSolid, List.getLast?_append_of_ne_nil _ hne, EndsSolid]

/-- A character joins a squeezed text, or widens the run of blanks at its start to one space. -/
theorem squeezeCons_cases (c d : Char) (ds : List Char) :
    ((isBlank c = true → isBlank d = false) ∧ squeezeCons c (d :: ds) = c :: d :: ds) ∨
      (isBlank d = true ∧ squeezeCons c (d :: ds) = ' ' :: ds) := by
  by_cases hd : isBlank d = true
  · by_cases hc : isBlank c = true
    · exact .inr ⟨hd, by simp [squeezeCons, hc, hd]⟩
    · exact .inl ⟨fun hblank => absurd hblank hc, by simp [squeezeCons, hc]⟩
  · exact .inl ⟨fun _ => Bool.not_eq_true _ ▸ hd, by simp [squeezeCons, hd]⟩

theorem squeezed_squeeze (cs : List Char) : Squeezed (squeeze cs) := by
  induction cs with
  | nil => exact .nil
  | cons c cs ih =>
    rw [squeeze_cons]
    rcases hrest : squeeze cs with _ | ⟨d, ds⟩
    · exact .singleton c
    · rw [hrest] at ih
      rcases squeezeCons_cases c d ds with ⟨hnext, heq⟩ | ⟨hd, heq⟩
      · rw [heq]
        exact .cons_cons hnext ih
      · rw [heq]
        -- the space takes the place of a blank, which no blank followed
        cases ds with
        | nil => exact .singleton ' '
        | cons e es =>
          obtain ⟨hnext, htail⟩ := List.isChain_cons_cons.mp ih
          exact .cons_cons (fun _ => hnext hd) htail

theorem squeeze_ne_nil (c : Char) (cs : List Char) : squeeze (c :: cs) ≠ [] := by
  rw [squeeze_cons]
  cases squeeze cs with
  | nil => exact List.cons_ne_nil c []
  | cons d ds =>
    rcases squeezeCons_cases c d ds with ⟨_, heq⟩ | ⟨_, heq⟩
    · rw [heq]
      exact List.cons_ne_nil _ _
    · rw [heq]
      exact List.cons_ne_nil _ _

/-- Squeezing never removes the last character that is not a blank. -/
theorem endsSolid_squeeze {cs : List Char} (h : EndsSolid cs) : EndsSolid (squeeze cs) := by
  induction cs with
  | nil => exact h
  | cons c cs ih =>
    cases cs with
    | nil => exact h
    | cons e es =>
      have hrest := ih ((endsSolid_cons_cons c e es).mp h)
      rw [squeeze_cons]
      rcases hsqueezed : squeeze (e :: es) with _ | ⟨d, ds⟩
      · exact absurd hsqueezed (squeeze_ne_nil e es)
      · rw [hsqueezed] at hrest
        rcases squeezeCons_cases c d ds with ⟨_, heq⟩ | ⟨hd, heq⟩
        · rw [heq, endsSolid_cons_cons]
          exact hrest
        · rw [heq]
          cases ds with
          | nil =>
            -- the run of blanks would be the end of the text
            rw [hrest d rfl] at hd
            exact absurd hd Bool.false_ne_true
          | cons f fs =>
            rw [endsSolid_cons_cons] at hrest ⊢
            exact hrest

theorem endsSolid_trimEnd (cs : List Char) : EndsSolid (trimEnd cs) := by
  intro c hc
  rw [trimEnd, dropEndWhile, List.getLast?_reverse] at hc
  have hhead := List.head?_dropWhile_not isBlank cs.reverse
  rw [hc] at hhead
  exact hhead

theorem trimEnd_cons {c : Char} (hc : isBlank c = false) (cs : List Char) :
    ∃ rest, trimEnd (c :: cs) = c :: rest := by
  rw [trimEnd, dropEndWhile, List.reverse_cons, List.dropWhile_append]
  split
  · exact ⟨[], by simp [hc]⟩
  · exact ⟨((cs.reverse).dropWhile isBlank).reverse, by simp⟩

theorem trimEnd_of_endsSolid {cs : List Char} (h : EndsSolid cs) : trimEnd cs = cs :=
  dropEndWhile_eq_self h

theorem trimEnd_isPrefix (cs : List Char) : trimEnd cs <+: cs := by
  rw [trimEnd, dropEndWhile, ← List.reverse_suffix, List.reverse_reverse]
  exact List.dropWhile_suffix isBlank

theorem length_trimEnd_le (cs : List Char) : (trimEnd cs).length ≤ cs.length :=
  (trimEnd_isPrefix cs).length_le

theorem trimEnd_append_space (cs : List Char) : trimEnd (cs ++ [' ']) = trimEnd cs :=
  dropEndWhile_concat (by decide) cs

end Chars

namespace Line

theorem shownWord_cases (word : String) :
    shownWord word = "0" ∨ shownWord word = "''" ∨ shownWord word = "と" ∨
      shownWord word = word := by
  unfold shownWord
  split
  · exact .inl rfl
  split
  · exact .inr (.inl rfl)
  split
  · exact .inr (.inr (.inl rfl))
  · exact .inr (.inr (.inr rfl))

theorem shownWord_no_space {w : String} (h : ' ' ∉ w.toList) : ' ' ∉ (shownWord w).toList := by
  rcases shownWord_cases w with heq | heq | heq | heq
  · rw [heq]
    decide
  · rw [heq]
    decide
  · rw [heq]
    decide
  · rw [heq]
    exact h

/-- Formatting replaces words by words, so the words can be read back from the line. -/
theorem words_format (area : Area) (raw : String) :
    Text.words (format area raw) = areaWords area raw := by
  apply Text.words_unwords
  · simp [areaWords, Text.words_ne_nil]
  · intro w hw
    obtain ⟨word, hword, rfl⟩ := List.mem_map.mp hw
    exact shownWord_no_space (Text.mem_words hword).1

/-- The words inside a block are the words of the line as they are shown. -/
theorem sqlWords_eq {raw : String} (h : isContinuation raw = false) :
    sqlWords raw = areaWords .code raw := by
  rw [sqlWords, programText, h]
  simp only [Bool.false_eq_true, if_false, words_format]

/-- The first word of a comment line starts with the indicator. -/
theorem head_of_comment {raw : String} (h : indicator raw = some '*') :
    ∃ cs, (Text.head (sqlWords raw)).toList = '*' :: cs := by
  have hcontinued : isContinuation raw = false := by
    rw [isContinuation, h]
    decide
  obtain ⟨hlt, hsix⟩ := List.getElem?_eq_some_iff.mp h
  have hcolumns : columns .code raw.toList =
      '*' :: (raw.toList.drop 7).take 65 := by
    rw [columns, Area.indent, List.drop_eq_getElem_cons hlt, hsix]
    rfl
  have hstar : Chars.isBlank '*' = false := by decide
  obtain ⟨rest, hrest⟩ := Chars.trimEnd_cons hstar ((raw.toList.drop 7).take 65)
  have htext : ∃ cs, normalText .code raw.toList = '*' :: cs := by
    rw [normalText, hcolumns, Chars.trim, Chars.trimStart,
      List.dropWhile_cons_of_neg (by simp [hstar]), hrest, Chars.squeeze_cons]
    cases Chars.squeeze rest with
    | nil => exact ⟨[], rfl⟩
    | cons d ds => exact ⟨d :: ds, by simp [Chars.squeezeCons, hstar]⟩
  obtain ⟨cs, hcs⟩ := htext
  rw [sqlWords_eq hcontinued, areaWords, Text.words, Text.fields, hcs, String.toList_ofList]
  rcases hpieces : Chars.splitOn ' ' cs with _ | ⟨piece, others⟩
  · exact absurd hpieces (Chars.splitOn_ne_nil ' ' cs)
  · rw [Chars.splitOn_cons_of_ne (by decide) hpieces]
    refine ⟨piece, ?_⟩
    have hother : ∀ w : String, w.toList.head? ≠ some '*' → String.ofList ('*' :: piece) ≠ w := by
      rintro w hw rfl
      exact hw (by simp)
    simp only [List.map_cons, Text.head, List.headD_cons, shownWord]
    rw [if_neg (hother "ZERO" (by decide)), if_neg (hother "SPACE" (by decide)),
      if_neg (hother "ALSO" (by decide)), String.toList_ofList]

/-- A comment line is not read in any division. -/
theorem isStructural_of_comment {raw : String} (h : indicator raw = some '*')
    (division : Division) : division.isStructural (sqlWords raw) = false := by
  obtain ⟨cs, hcs⟩ := head_of_comment h
  have hfirst : (Text.without '.' (Text.head (sqlWords raw))).toList.head? = some '*' := by
    rw [Text.without, hcs, String.toList_ofList]
    simp
  simp [Division.isStructural, hfirst]

end Line

end CobolAtlas
