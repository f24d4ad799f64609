import CobolAtlas.Proofs.NormalForm
import CobolAtlas.Proofs.PrintedLine
import CobolAtlas.Proofs.Sql.Text

/-!
# The period at the end of a sentence

A line that ends a sentence is taken apart at its period: the text in front of it, and what stands
behind it up to the right margin, which is blank. Spaces may be put between the text and the period
(`Sentence.withPeriod`). Periods are taken out of the words after blanks have been squeezed, so a
period directly behind the text leaves no trace (`codeWords_attached`), and any number of spaces in
front of it leaves an empty word at the end (`codeWords_detached`).
-/

namespace CobolAtlas

/-! ### Texts with something behind them -/

namespace Chars

theorem squeezeCons_append (c d : Char) (ds t : List Char) :
    squeezeCons c (d :: ds ++ t) = squeezeCons c (d :: ds) ++ t := by
  rw [List.cons_append, squeezeCons, squeezeCons]
  split
  · rfl
  · rfl

/-- Blanks run together only across a blank. -/
theorem squeeze_append_of_solid {cs : List Char} {last : Char} (hlast : cs.getLast? = some last)
    (hsolid : isBlank last = false) (t : List Char) :
    squeeze (cs ++ t) = squeeze cs ++ squeeze t := by
  induction cs with
  | nil => simp at hlast
  | cons c cs ih =>
    cases cs with
    | nil =>
      rw [List.getLast?_singleton, Option.some.injEq] at hlast
      subst hlast
      apply squeeze_append
      intro d hd
      rw [List.mem_singleton.mp hd]
      exact hsolid
    | cons d ds =>
      rw [List.getLast?_cons_cons] at hlast
      rw [List.cons_append, squeeze_cons, ih hlast, squeeze_cons c]
      rcases hsqueezed : squeeze (d :: ds) with _ | ⟨e, es⟩
      · exact absurd hsqueezed (squeeze_ne_nil d ds)
      · exact squeezeCons_append c e es _

theorem trim_append_space (cs : List Char) : trim (cs ++ [' ']) = trim cs := by
  rw [trim, trim, trimStart, trimStart, List.dropWhile_append]
  split
  · rename_i hempty
    rw [List.isEmpty_iff.mp hempty]
    rfl
  · exact trimEnd_append_space _

/-- Of a text that ends in no blank only the blanks in front are trimmed. -/
theorem exists_trim_eq {cs : List Char} (hne : cs ≠ []) (hsolid : EndsSolid cs) :
    ∃ lead, (∀ c ∈ lead, isBlank c = true) ∧ cs = lead ++ trim cs ∧
      (∃ last, (trim cs).getLast? = some last ∧ isBlank last = false) ∧
      ∀ c, (trim cs).head? = some c → isBlank c = false := by
  have hsplit : cs.takeWhile isBlank ++ trimStart cs = cs := List.takeWhile_append_dropWhile
  have hlead : ∀ c ∈ cs.takeWhile isBlank, isBlank c = true := by
    intro c hc
    exact List.all_eq_true.mp List.all_takeWhile c hc
  have hlast : ∃ last, (trimStart cs).getLast? = some last ∧ isBlank last = false := by
    obtain ⟨last, hlast⟩ := Option.isSome_iff_exists.mp (List.getLast?_isSome.mpr hne)
    have hblank := hsolid last hlast
    refine ⟨last, ?_, hblank⟩
    rw [← hsplit, List.getLast?_append] at hlast
    rcases htail : (trimStart cs).getLast? with _ | c
    · rw [htail, Option.none_or] at hlast
      have hin := hlead last (List.mem_of_getLast? hlast)
      rw [hblank] at hin
      exact absurd hin (by simp)
    · rw [htail, Option.some_or] at hlast
      exact hlast
  have htrim : trim cs = trimStart cs := by
    obtain ⟨last, hlast, hblank⟩ := hlast
    apply trimEnd_of_endsSolid
    intro c hc
    rw [hlast, Option.some.injEq] at hc
    rw [← hc]
    exact hblank
  rw [htrim]
  refine ⟨_, hlead, hsplit.symm, hlast, ?_⟩
  intro c hc
  have hhead := List.head?_dropWhile_not isBlank cs
  rw [show (cs.dropWhile isBlank).head? = some c from hc] at hhead
  exact hhead

/-- What squeezing leaves of the spaces and the period behind a text. -/
def squeezedPeriod (gap : Nat) : List Char :=
  if gap = 0 then ['.'] else [' ', '.']

theorem squeeze_period (gap : Nat) :
    squeeze (List.replicate gap ' ' ++ ['.']) = squeezedPeriod gap := by
  cases gap with
  | zero => rfl
  | succ gap => exact squeeze_gap gap rfl (by decide)

/-- A period behind a gap leaves the gap as one space at most. -/
theorem squeeze_trim_period {cs pad : List Char} (hne : cs ≠ []) (hsolid : EndsSolid cs)
    (hpad : ∀ c ∈ pad, isBlank c = true) (gap : Nat) :
    squeeze (trim (cs ++ (List.replicate gap ' ' ++ '.' :: pad))) =
      squeeze (trim cs) ++ squeezedPeriod gap := by
  obtain ⟨lead, hlead, hcs, ⟨last, hlast, hblank⟩, hhead⟩ := exists_trim_eq hne hsolid
  have hsplit : cs ++ (List.replicate gap ' ' ++ '.' :: pad) =
      lead ++ ((trim cs ++ (List.replicate gap ' ' ++ ['.'])) ++ pad) := by
    conv => lhs; rw [hcs]
    simp
  have hnotNil : trim cs ≠ [] := by
    intro hnil
    rw [hnil] at hlast
    exact absurd hlast (by simp)
  have htrim : trim (cs ++ (List.replicate gap ' ' ++ '.' :: pad)) =
      trim cs ++ (List.replicate gap ' ' ++ ['.']) := by
    rw [hsplit]
    apply trim_padded hlead hpad
    · intro c hc
      rw [List.head?_append_of_ne_nil _ hnotNil] at hc
      exact hhead c hc
    · intro c hc
      rw [← List.append_assoc, List.getLast?_concat, Option.some.injEq] at hc
      rw [← hc]
      decide
  rw [htrim, squeeze_append_of_solid hlast hblank, squeeze_period]

end Chars

namespace Text

theorem unwords_concat {ws : List String} (hne : ws ≠ []) (w : String) :
    unwords (ws ++ [w]) = unwords ws ++ " " ++ w := by
  have htrailed : unwords (ws ++ [w]) ++ " " = unwords ws ++ " " ++ w ++ " " := by
    rw [← trailed_eq (by simp), trailed_append, trailed_eq hne, trailed_eq (by simp)]
    simp [unwords, String.append_assoc]
  exact String.append_left_inj _ |>.mp htrailed

theorem unwords_concat_append (ws : List String) (w t : String) :
    unwords (ws ++ [w ++ t]) = unwords (ws ++ [w]) ++ t := by
  by_cases hne : ws = []
  · subst hne
    simp [unwords]
  · rw [unwords_concat hne, unwords_concat hne, String.append_assoc, String.append_assoc,
      String.append_assoc]

/-- A word behind a space is a word of its own. -/
theorem words_append_word (s : String) {w : String} (hw : ' ' ∉ w.toList) :
    words (s ++ " " ++ w) = words s ++ [w] := by
  have hjoined : s ++ " " ++ w = unwords (words s ++ [w]) := by
    rw [unwords_concat (words_ne_nil s), unwords_words]
  rw [hjoined]
  apply words_unwords
  · simp
  · intro v hv
    rcases List.mem_append.mp hv with hv | hv
    · exact (mem_words hv).1
    · rw [List.mem_singleton.mp hv]
      exact hw

/-- What has no space in front of it joins the last word. -/
theorem words_append_of_eq {s w t : String} {front : List String} (hs : words s = front ++ [w])
    (ht : ' ' ∉ t.toList) : words (s ++ t) = front ++ [w ++ t] := by
  have hjoined : s ++ t = unwords (front ++ [w ++ t]) := by
    rw [unwords_concat_append, ← hs, unwords_words]
  have hspace : ∀ v ∈ front ++ [w], ' ' ∉ v.toList := by
    intro v hv
    rw [← hs] at hv
    exact (mem_words hv).1
  rw [hjoined]
  apply words_unwords
  · simp
  · intro v hv
    rcases List.mem_append.mp hv with hv | hv
    · exact hspace v (List.mem_append_left _ hv)
    · have hw := hspace w (List.mem_append_right _ List.mem_cons_self)
      rw [List.mem_singleton.mp hv, String.toList_append, List.mem_append]
      rintro (hmem | hmem)
      · exact hw hmem
      · exact ht hmem

theorem without_append (c : Char) (s t : String) :
    without c (s ++ t) = without c s ++ without c t := by
  simp [without]

@[simp] theorem without_period : without '.' "." = "" := by decide

@[simp] theorem without_space : without '.' " " = " " := by decide

/-- A trailing space shows up as an empty last word. This is all that a detached period leaves. -/
theorem words_append_space (s : String) : words (s ++ " ") = words s ++ [""] := by
  have hword := words_append_word s (show ' ' ∉ "".toList by decide)
  rwa [String.append_empty] at hword

theorem head_append {ws : List String} (hne : ws ≠ []) (vs : List String) :
    head (ws ++ vs) = head ws := by
  cases ws with
  | nil => exact absurd rfl hne
  | cons w ws => rfl

theorem trim_append_space (s : String) : trim (s ++ " ") = trim s := by
  rw [trim, trim, String.toList_append]
  exact congrArg String.ofList (Chars.trim_append_space s.toList)

end Text

/-! ### Sentences -/

namespace Line

/-- A line that ends in the period of a sentence: what stands in front of the period and what stands
behind it. A comment has no sentences. -/
structure Sentence where
  text : String
  tail : String
  indented : Area.code.indent ≤ text.toList.length
  solid : Chars.EndsSolid (columns .code text.toList)
  not_comment : indicator text ≠ some '*'
  blank_tail : ∀ c ∈ tail.toList.take (rightMargin - text.toList.length - 1),
    Chars.isBlank c = true

namespace Sentence

/-- The line with spaces in front of the period. -/
def withPeriod (s : Sentence) (gap : Nat) : String :=
  String.ofList (s.text.toList ++ (List.replicate gap ' ' ++ '.' :: s.tail.toList))

/-- The period stands in front of the right margin. -/
def Fits (s : Sentence) (gap : Nat) : Prop :=
  s.text.toList.length + gap < rightMargin

/-- The last word in front of the period. -/
def lastWord (s : Sentence) : String :=
  (Text.words (String.ofList (normalText .code s.text.toList))).getLastD ""

/-- The last word is shown as it is; with the period attached, every word is. -/
def Plain (s : Sentence) : Prop :=
  shownWord s.lastWord = s.lastWord

/-- The line starts with a `WHEN`, which the line below may look at. -/
def IsLabel (s : Sentence) : Prop :=
  Text.head (Text.words (Text.without '.' (format .code s.text))) = "WHEN"

instance (s : Sentence) (gap : Nat) : Decidable (s.Fits gap) :=
  inferInstanceAs (Decidable (_ < _))

instance (s : Sentence) : Decidable s.Plain :=
  inferInstanceAs (Decidable (_ = _))

instance (s : Sentence) : Decidable s.IsLabel :=
  inferInstanceAs (Decidable (_ = _))

variable {s : Sentence} {gap : Nat}

theorem Fits.of_le {other : Nat} (h : s.Fits gap) (hle : other ≤ gap) : s.Fits other :=
  Nat.lt_of_le_of_lt (Nat.add_le_add_left hle _) h

/-- A sentence that fits keeps its columns and gets the gap and the period behind them. -/
theorem Fits.columns_withPeriod (h : s.Fits gap) :
    ∃ pad, (∀ c ∈ pad, Chars.isBlank c = true) ∧
      columns .code (s.withPeriod gap).toList =
        columns .code s.text.toList ++ (List.replicate gap ' ' ++ '.' :: pad) := by
  have hindent : 6 ≤ s.text.toList.length := s.indented
  have hfits : s.text.toList.length + gap < 72 := h
  refine ⟨s.tail.toList.take (72 - s.text.toList.length - 1 - gap), ?_, ?_⟩
  · intro c hc
    apply s.blank_tail c
    exact (List.take_sublist_take_left (Nat.sub_le _ gap)).subset hc
  · have hroom : 66 - (s.text.toList.length - 6) - gap =
        (72 - s.text.toList.length - 1 - gap) + 1 := by omega
    have hspaces : (List.replicate gap ' ').take (66 - (s.text.toList.length - 6)) =
        List.replicate gap ' ' := by
      apply List.take_of_length_le
      rw [List.length_replicate]
      omega
    rw [columns, columns, withPeriod, String.toList_ofList]
    simp only [Area.indent, rightMargin]
    rw [List.drop_append_of_le_length hindent, List.take_append, List.take_append,
      List.length_drop, List.length_replicate, hspaces, hroom, List.take_succ_cons]

/-- In front of the period there is something in the columns of the text. -/
def HasText (s : Sentence) : Prop :=
  columns .code s.text.toList ≠ []

theorem normalText_withPeriod (hfits : s.Fits gap) (htext : s.HasText) :
    normalText .code (s.withPeriod gap).toList =
      normalText .code s.text.toList ++ Chars.squeezedPeriod gap := by
  obtain ⟨pad, hpad, hcolumns⟩ := hfits.columns_withPeriod
  rw [normalText, hcolumns]
  exact Chars.squeeze_trim_period htext s.solid hpad gap

/-- Without a text the line is a period. -/
theorem normalText_of_not_hasText (hfits : s.Fits gap) (htext : ¬ s.HasText) :
    normalText .code (s.withPeriod gap).toList = ['.'] := by
  obtain ⟨pad, hpad, hcolumns⟩ := hfits.columns_withPeriod
  have hempty : columns .code s.text.toList = [] := not_not.mp htext
  have hspaces : ∀ c ∈ List.replicate gap ' ', Chars.isBlank c = true := by
    intro c hc
    rw [List.eq_of_mem_replicate hc]
    decide
  have htrim : Chars.trim (List.replicate gap ' ' ++ (['.'] ++ pad)) = ['.'] := by
    apply Chars.trim_padded hspaces hpad
    · rintro c ⟨⟩
      decide
    · rintro c ⟨⟩
      decide
  rw [normalText, hcolumns, hempty, List.nil_append, ← List.singleton_append, htrim]
  rfl

theorem exists_words (s : Sentence) :
    ∃ front,
      Text.words (String.ofList (normalText .code s.text.toList)) = front ++ [s.lastWord] := by
  have hne := Text.words_ne_nil (String.ofList (normalText .code s.text.toList))
  refine ⟨(Text.words (String.ofList (normalText .code s.text.toList))).dropLast, ?_⟩
  rw [lastWord, List.getLastD_eq_getLast?, List.getLast?_eq_some_getLast hne, Option.getD_some,
    List.dropLast_concat_getLast hne]

theorem ofList_squeezedPeriod_zero : String.ofList (Chars.squeezedPeriod 0) = "." := rfl

theorem ofList_squeezedPeriod_succ (gap : Nat) :
    String.ofList (Chars.squeezedPeriod (gap + 1)) = " " ++ "." := by
  rw [Chars.squeezedPeriod, if_neg (Nat.succ_ne_zero gap)]
  rfl

/-- With a period attached a word is none of those that are replaced. -/
theorem shownWord_append_period (w : String) : shownWord (w ++ ".") = w ++ "." := by
  have hlast : (w ++ ".").toList.getLast? = some '.' := by
    rw [String.toList_append]
    simp
  have hne : ∀ v : String, v.toList.getLast? ≠ some '.' → w ++ "." ≠ v := by
    rintro v hv rfl
    exact hv hlast
  rw [shownWord, if_neg (hne _ (by decide)), if_neg (hne _ (by decide)), if_neg (hne _ (by decide))]

/-- The period stays with the last word. -/
theorem format_attached (hfits : s.Fits 0) (htext : s.HasText) (hplain : s.Plain) :
    format .code (s.withPeriod 0) = format .code s.text ++ "." := by
  obtain ⟨front, hwords⟩ := s.exists_words
  have hperiod : Text.words (String.ofList (normalText .code (s.withPeriod 0).toList)) =
      front ++ [s.lastWord ++ "."] := by
    rw [normalText_withPeriod hfits htext, String.ofList_append, ofList_squeezedPeriod_zero]
    exact Text.words_append_of_eq hwords (by decide)
  rw [format, format, areaWords, areaWords, hperiod, hwords, List.map_append, List.map_append,
    List.map_singleton, List.map_singleton, shownWord_append_period, hplain,
    Text.unwords_concat_append]

/-- The period stands one space behind the last word, however wide the gap was. -/
theorem format_detached (hfits : s.Fits (gap + 1)) (htext : s.HasText) :
    format .code (s.withPeriod (gap + 1)) = format .code s.text ++ " " ++ "." := by
  have hperiod : Text.words (String.ofList (normalText .code (s.withPeriod (gap + 1)).toList)) =
      Text.words (String.ofList (normalText .code s.text.toList)) ++ ["."] := by
    rw [normalText_withPeriod hfits htext, String.ofList_append, ofList_squeezedPeriod_succ,
      ← String.append_assoc]
    exact Text.words_append_word _ (by decide)
  have hshown : shownWord "." = "." := by decide
  have hne : areaWords .code s.text ≠ [] := by
    simp [areaWords, Text.words_ne_nil]
  rw [format, areaWords, hperiod, List.map_append, List.map_singleton, hshown, ← areaWords,
    Text.unwords_concat hne, format]

theorem format_text_of_not_hasText (htext : ¬ s.HasText) : format .code s.text = "" := by
  have hempty : columns .code s.text.toList = [] := not_not.mp htext
  rw [format, areaWords, normalText, hempty]
  rfl

/-- A line with nothing but a period. -/
theorem format_of_not_hasText (hfits : s.Fits gap) (htext : ¬ s.HasText) :
    format .code (s.withPeriod gap) = "." := by
  rw [format, areaWords, normalText_of_not_hasText hfits htext]
  rfl

/-- The indicator stays what it is. A line without a text gets a space or the period there. -/
theorem indicator_withPeriod (s : Sentence) (gap : Nat) :
    indicator (s.withPeriod gap) = indicator s.text ∨
      indicator s.text = none ∧ (indicator (s.withPeriod gap) = some ' ' ∨
        indicator (s.withPeriod gap) = some '.') := by
  have hindent : 6 ≤ s.text.toList.length := s.indented
  rw [indicator, indicator, withPeriod, String.toList_ofList]
  rcases Nat.lt_or_ge 6 s.text.toList.length with hlong | hshort
  · exact .inl (List.getElem?_append_left hlong)
  · right
    have hlength : s.text.toList.length = 6 := by omega
    refine ⟨List.getElem?_eq_none hshort, ?_⟩
    rw [List.getElem?_append_right hshort, hlength]
    cases gap with
    | zero => exact .inr rfl
    | succ gap => exact .inl rfl

theorem isContinuation_withPeriod (s : Sentence) (gap : Nat) :
    isContinuation (s.withPeriod gap) = isContinuation s.text := by
  rw [isContinuation, isContinuation]
  rcases s.indicator_withPeriod gap with hsame | ⟨hnone, hindicator | hindicator⟩
  · rw [hsame]
  · rw [hindicator, hnone]
    decide
  · rw [hindicator, hnone]
    decide

theorem comment_withPeriod (s : Sentence) (gap : Nat) : comment (s.withPeriod gap) = "" := by
  have hcode : indicator (s.withPeriod gap) ≠ some '*' := by
    rcases s.indicator_withPeriod gap with hsame | ⟨_, hindicator | hindicator⟩
    · rw [hsame]
      exact s.not_comment
    · rw [hindicator]
      decide
    · rw [hindicator]
      decide
  simp [comment, hcode]

end Sentence

/-! ### Words of sentences -/

theorem behindHyphen_of_hyphen {f : String} {rest : List Char} (hf : f.toList = '-' :: rest) :
    behindHyphen f = String.ofList (Chars.trimStart rest) := by
  simp only [behindHyphen, hf]

theorem behindHyphen_of_not_hyphen {f : String} (hf : f.toList.head? ≠ some '-') :
    behindHyphen f = f := by
  unfold behindHyphen
  split
  · rename_i rest hlist
    rw [hlist] at hf
    exact absurd rfl hf
  · rfl

/-- What is put behind a line does not change how its hyphen is dropped, unless the hyphen stands
alone in front of a blank. -/
theorem behindHyphen_append {f t : String} (ht : t.toList.head? ≠ some '-')
    (hsolid : behindHyphen f ≠ "" ∨ ∀ c, t.toList.head? = some c → Chars.isBlank c = false) :
    behindHyphen (f ++ t) = behindHyphen f ++ t := by
  rcases hf : f.toList with _ | ⟨c, rest⟩
  · rw [String.toList_eq_nil_iff.mp hf, String.empty_append, behindHyphen_of_not_hyphen ht]
    rfl
  · by_cases hc : c = '-'
    · subst hc
      have hft : (f ++ t).toList = '-' :: (rest ++ t.toList) := by
        rw [String.toList_append, hf, List.cons_append]
      rw [behindHyphen_of_hyphen hf] at hsolid ⊢
      rw [behindHyphen_of_hyphen hft, Chars.trimStart, List.dropWhile_append]
      apply String.toList_injective
      rw [String.toList_append, String.toList_ofList, String.toList_ofList]
      split
      · rename_i hempty
        rw [Chars.trimStart, List.isEmpty_iff.mp hempty] at hsolid ⊢
        rcases hsolid with hne | hsolid
        · exact absurd rfl hne
        · exact Chars.dropWhile_eq_self hsolid
      · rfl
    · have hother : ∀ u : String, (f ++ u).toList.head? ≠ some '-' := by
        intro u
        rw [String.toList_append, hf]
        simpa using hc
      have hself : f.toList.head? ≠ some '-' := by
        rw [hf]
        simpa using hc
      rw [behindHyphen_of_not_hyphen (hother t), behindHyphen_of_not_hyphen hself]

/-- Behind a hyphen with nothing behind it, a gap is trimmed. -/
theorem behindHyphen_append_gap {f : String} (hempty : behindHyphen f = "") :
    behindHyphen (f ++ (" " ++ ".")) = "." ∨ behindHyphen (f ++ (" " ++ ".")) = " " ++ "." := by
  by_cases hf : f.toList.head? = some '-'
  · left
    obtain ⟨rest, hrest⟩ := List.head?_eq_some_iff.mp hf
    have hblank : rest.dropWhile Chars.isBlank = [] := by
      rw [behindHyphen_of_hyphen hrest] at hempty
      exact String.ofList_eq_empty_iff.mp hempty
    have hft : (f ++ (" " ++ ".")).toList = '-' :: (rest ++ [' ', '.']) := by
      rw [String.toList_append, hrest, List.cons_append]
      rfl
    rw [behindHyphen_of_hyphen hft, Chars.trimStart, List.dropWhile_append, hblank]
    decide
  · right
    rw [behindHyphen_of_not_hyphen hf] at hempty
    rw [hempty]
    decide

namespace Sentence

variable {s : Sentence} {gap : Nat}

theorem programText_attached (hfits : s.Fits 0) (hplain : s.Plain) :
    programText (s.withPeriod 0) = programText s.text ++ "." := by
  have hformat : format .code (s.withPeriod 0) = format .code s.text ++ "." := by
    by_cases htext : s.HasText
    · exact format_attached hfits htext hplain
    · rw [format_of_not_hasText hfits htext, format_text_of_not_hasText htext]
      rfl
  have hsolid : ∀ c, ".".toList.head? = some c → Chars.isBlank c = false := by
    rintro c ⟨⟩
    decide
  rw [programText, programText, hformat, isContinuation_withPeriod]
  split
  · exact behindHyphen_append (by decide) (.inr hsolid)
  · rfl

theorem programText_detached (hfits : s.Fits (gap + 1)) (hne : programText s.text ≠ "") :
    programText (s.withPeriod (gap + 1)) = programText s.text ++ (" " ++ ".") := by
  have htext : s.HasText := by
    intro hempty
    apply hne
    rw [programText, format_text_of_not_hasText (not_not.mpr hempty)]
    split
    · rfl
    · rfl
  rw [programText] at hne
  rw [programText, programText, format_detached hfits htext, isContinuation_withPeriod,
    String.append_assoc]
  split
  · rename_i hcontinued
    rw [if_pos hcontinued] at hne
    exact behindHyphen_append (by decide) (.inl hne)
  · rfl

/-- Of a line without text the period is left, with the gap or without it. -/
theorem programText_detached_of_empty (hfits : s.Fits (gap + 1))
    (hempty : programText s.text = "") :
    programText (s.withPeriod (gap + 1)) = "." ∨
      programText (s.withPeriod (gap + 1)) = " " ++ "." := by
  rw [programText] at hempty
  rw [programText, isContinuation_withPeriod]
  by_cases htext : s.HasText
  · rw [format_detached hfits htext, String.append_assoc]
    by_cases hcontinued : isContinuation s.text = true
    · rw [if_pos hcontinued] at hempty
      simp only [hcontinued, if_true]
      exact behindHyphen_append_gap hempty
    · rw [if_neg hcontinued] at hempty
      simp only [hcontinued, hempty]
      exact .inr rfl
  · rw [format_of_not_hasText hfits htext]
    split
    · exact .inl rfl
    · exact .inl rfl

/-- **A period directly behind the text** is no part of the words. -/
theorem codeWords_attached (hfits : s.Fits 0) (hplain : s.Plain) :
    codeWords (s.withPeriod 0) = codeWords s.text := by
  rw [codeWords, codeWords, programText_attached hfits hplain, Text.without_append,
    Text.without_period, String.append_empty]

/-- **A period behind spaces** leaves an empty word, unless there are no words at all. -/
theorem codeWords_detached (hfits : s.Fits (gap + 1)) :
    codeWords (s.withPeriod (gap + 1)) = codeWords s.text ++ [""] ∨
      Text.head (codeWords (s.withPeriod (gap + 1))) = "" ∧ Text.head (codeWords s.text) = "" := by
  by_cases hempty : programText s.text = ""
  · right
    rw [codeWords, codeWords, hempty]
    refine ⟨?_, by decide⟩
    rcases programText_detached_of_empty hfits hempty with hprogram | hprogram
    · rw [hprogram]
      decide
    · rw [hprogram]
      decide
  · left
    rw [codeWords, codeWords, programText_detached hfits hempty, Text.without_append,
      Text.without_append, Text.without_space, Text.without_period, String.append_empty,
      Text.words_append_space]

/-- The line above a label is looked at with its periods taken out. -/
theorem head_words_format (hfits : s.Fits gap) (hplain : gap = 0 → s.Plain) :
    Text.head (Text.words (Text.without '.' (format .code (s.withPeriod gap)))) =
      Text.head (Text.words (Text.without '.' (format .code s.text))) := by
  by_cases htext : s.HasText
  · cases gap with
    | zero =>
      rw [format_attached hfits htext (hplain rfl), Text.without_append, Text.without_period,
        String.append_empty]
    | succ gap =>
      rw [format_detached hfits htext, Text.without_append, Text.without_append,
        Text.without_space, Text.without_period, String.append_empty, Text.words_append_space,
        Text.head_append (Text.words_ne_nil _)]
  · rw [format_of_not_hasText hfits htext, format_text_of_not_hasText htext]
    decide

/-- The width of the gap does not matter. -/
theorem format_detached_eq {other : Nat} (hfits : s.Fits (gap + 1)) (hother : s.Fits (other + 1)) :
    format .code (s.withPeriod (gap + 1)) = format .code (s.withPeriod (other + 1)) := by
  by_cases htext : s.HasText
  · rw [format_detached hfits htext, format_detached hother htext]
  · rw [format_of_not_hasText hfits htext, format_of_not_hasText hother htext]

theorem codeWords_detached_eq {other : Nat} (hfits : s.Fits (gap + 1))
    (hother : s.Fits (other + 1)) :
    codeWords (s.withPeriod (gap + 1)) = codeWords (s.withPeriod (other + 1)) := by
  rw [codeWords, codeWords, programText, programText, format_detached_eq hfits hother,
    isContinuation_withPeriod, isContinuation_withPeriod]

end Sentence

end Line

end CobolAtlas
