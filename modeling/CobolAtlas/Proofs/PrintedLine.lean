import CobolAtlas.Proofs.Words

/-!
# Printed lines

A clause is printed inside columns 8 to 72: a sequence number of any kind in front, no indicator,
its words with one or more spaces between them, and anything at all behind the right margin. The
words that are read from such a line are the words that were printed (`Shows.codeWords_eq`), as
long as reading leaves each of them alone (`Legible`).
-/

namespace CobolAtlas

/-! ### Blanks around and between words -/

namespace Chars

theorem dropWhile_eq_self {p : Char → Bool} {cs : List Char}
    (h : ∀ c, cs.head? = some c → p c = false) : cs.dropWhile p = cs := by
  cases cs with
  | nil => rfl
  | cons c cs => simp [h c rfl]

theorem trim_padded {pad text pad' : List Char} (hpad : ∀ c ∈ pad, isBlank c = true)
    (hpad' : ∀ c ∈ pad', isBlank c = true)
    (hhead : ∀ c, text.head? = some c → isBlank c = false)
    (hlast : ∀ c, text.getLast? = some c → isBlank c = false) :
    trim (pad ++ (text ++ pad')) = text := by
  have hstart : trimStart (pad ++ (text ++ pad')) = (text ++ pad').dropWhile isBlank := by
    rw [trimStart, List.dropWhile_append_of_pos hpad]
  cases text with
  | nil =>
    have hall : pad'.dropWhile isBlank = [] := by
      rw [← List.append_nil pad', List.dropWhile_append_of_pos hpad', List.dropWhile_nil]
    rw [trim, hstart, List.nil_append, hall]
    rfl
  | cons c cs =>
    have hkeep : (c :: cs ++ pad').dropWhile isBlank = c :: cs ++ pad' :=
      dropWhile_eq_self fun d hd => hhead d (by simpa using hd)
    have hrev : ∀ d ∈ pad'.reverse, isBlank d = true := by
      intro d hd
      exact hpad' d (List.mem_reverse.mp hd)
    have hback : (c :: cs).reverse.dropWhile isBlank = (c :: cs).reverse :=
      dropWhile_eq_self fun d hd => hlast d (List.head?_reverse ▸ hd)
    rw [trim, hstart, hkeep, trimEnd, dropEndWhile, List.reverse_append,
      List.dropWhile_append_of_pos hrev, hback, List.reverse_reverse]

theorem squeeze_append {w : List Char} (hw : ∀ c ∈ w, isBlank c = false) (t : List Char) :
    squeeze (w ++ t) = w ++ squeeze t := by
  induction w with
  | nil => rfl
  | cons c w ih =>
    have hc : isBlank c = false := hw c List.mem_cons_self
    rw [List.cons_append, squeeze_cons, ih fun d hd => hw d (List.mem_cons_of_mem c hd),
      List.cons_append]
    cases w ++ squeeze t with
    | nil => rfl
    | cons d ds => simp [squeezeCons, hc]

/-- A run of spaces in front of a word becomes one space. -/
theorem squeeze_gap (gap : Nat) {t : List Char} {c : Char} {cs : List Char}
    (ht : squeeze t = c :: cs) (hc : isBlank c = false) :
    squeeze (List.replicate (gap + 1) ' ' ++ t) = ' ' :: c :: cs := by
  induction gap with
  | zero => simp [ht, squeezeCons, hc]
  | succ gap ih =>
    have hblank : isBlank ' ' = true := by decide
    rw [List.replicate_succ, List.cons_append, squeeze_cons, ih]
    simp [squeezeCons, hblank]

end Chars

/-! ### Words that reading leaves alone -/

/-- A word that is read as it is printed: not empty, without blanks and periods, and none of the
words that are shown by something else. -/
structure Legible (word : String) : Prop where
  ne_empty : word ≠ ""
  no_blank : ∀ c ∈ word.toList, Chars.isBlank c = false
  no_period : '.' ∉ word.toList
  not_replaced : word ≠ "ZERO" ∧ word ≠ "SPACE" ∧ word ≠ "ALSO"

theorem legible_iff (word : String) :
    Legible word ↔
      word ≠ "" ∧ word.toList.any Chars.isBlank = false ∧ '.' ∉ word.toList ∧
        word ≠ "ZERO" ∧ word ≠ "SPACE" ∧ word ≠ "ALSO" := by
  constructor
  · intro h
    exact ⟨h.ne_empty, by simpa using h.no_blank, h.no_period, h.not_replaced⟩
  · rintro ⟨hempty, hblank, hperiod, hreplaced⟩
    exact ⟨hempty, by simpa using hblank, hperiod, hreplaced⟩

instance (word : String) : Decidable (Legible word) :=
  decidable_of_iff _ (legible_iff word).symm

namespace Legible

variable {word : String} {words : List String}

theorem no_space (h : Legible word) : ' ' ∉ word.toList := by
  intro hspace
  have hblank := h.no_blank ' ' hspace
  exact absurd hblank (by decide)

/-- A legible word is none of those that are replaced. -/
theorem shownWord_eq (h : Legible word) : Line.shownWord word = word := by
  obtain ⟨hzero, hspace, halso⟩ := h.not_replaced
  simp [Line.shownWord, hzero, hspace, halso]

theorem exists_cons (h : Legible word) :
    ∃ c cs, word.toList = c :: cs ∧ Chars.isBlank c = false := by
  rcases hlist : word.toList with _ | ⟨c, cs⟩
  · exact absurd (String.toList_eq_nil_iff.mp hlist) h.ne_empty
  · exact ⟨c, cs, rfl, h.no_blank c (hlist ▸ List.mem_cons_self)⟩

theorem head_unwords (hne : words ≠ []) (h : ∀ w ∈ words, Legible w) :
    ∃ c cs, (Text.unwords words).toList = c :: cs ∧ Chars.isBlank c = false := by
  cases words with
  | nil => exact absurd rfl hne
  | cons w ws =>
    obtain ⟨c, cs, hw, hc⟩ := (h w List.mem_cons_self).exists_cons
    rw [Text.toList_unwords, List.map_cons, hw]
    exact ⟨c, _, List.intercalate_cons_cons_left, hc⟩

theorem getLast_unwords (h : ∀ w ∈ words, Legible w) :
    ∀ c, (Text.unwords words).toList.getLast? = some c → Chars.isBlank c = false := by
  rw [Text.toList_unwords]
  induction words with
  | nil => simp
  | cons w ws ih =>
    have hrest : ∀ v ∈ ws, Legible v := fun v hv => h v (List.mem_cons_of_mem w hv)
    cases ws with
    | nil =>
      intro c hc
      rw [List.map_singleton, List.intercalate_singleton] at hc
      exact (h w List.mem_cons_self).no_blank c (List.mem_of_getLast? hc)
    | cons v vs =>
      intro c hc
      obtain ⟨d, ds, hd, _⟩ := head_unwords (List.cons_ne_nil v vs) hrest
      rw [Text.toList_unwords] at hd
      refine ih hrest c ?_
      rw [List.map_cons, List.map_cons, List.intercalate_cons_cons, List.getLast?_append,
        ← List.map_cons, hd] at hc
      rw [hd]
      simpa [List.getLast?_cons] using hc

theorem trim_unwords (h : ∀ w ∈ words, Legible w) :
    Text.trim (Text.unwords words) = Text.unwords words := by
  have hhead : ∀ c, (Text.unwords words).toList.head? = some c → Chars.isBlank c = false := by
    by_cases hne : words = []
    · subst hne
      simp [Text.unwords]
    · obtain ⟨d, ds, hd, hblank⟩ := head_unwords hne h
      rw [hd]
      rintro c ⟨⟩
      exact hblank
  have hnone : ∀ c ∈ ([] : List Char), Chars.isBlank c = true := by simp
  have htrim := Chars.trim_padded hnone hnone hhead (getLast_unwords h)
  rw [List.nil_append, List.append_nil] at htrim
  rw [Text.trim, htrim, String.ofList_toList]

theorem no_period_unwords (h : ∀ w ∈ words, Legible w) : '.' ∉ (Text.unwords words).toList := by
  rw [Text.toList_unwords]
  induction words with
  | nil => simp
  | cons w ws ih =>
    have hw := (h w List.mem_cons_self).no_period
    have hrest := ih fun v hv => h v (List.mem_cons_of_mem w hv)
    cases ws with
    | nil => simpa using hw
    | cons v vs =>
      rw [List.map_cons, List.map_cons, List.intercalate_cons_cons, ← List.map_cons]
      simp only [List.mem_append, List.mem_singleton]
      rintro ((hmem | hmem) | hmem)
      · exact hw hmem
      · exact absurd hmem (by decide)
      · exact hrest hmem

/-- Words joined by one space are found again, since none of them holds a space. -/
theorem words_unwords (hne : words ≠ []) (h : ∀ w ∈ words, Legible w) :
    Text.words (Text.unwords words) = words :=
  Text.words_unwords hne fun w hw => (h w hw).no_space

end Legible

/-! ### Words on a line -/

/-- The words in a row, one or more spaces between two of them. -/
inductive Spaced : List String → List Char → Prop
  | last (word : String) : Spaced [word] word.toList
  | more (word : String) (gap : Nat) {words : List String} {text : List Char}
      (h : Spaced words text) :
      Spaced (word :: words) (word.toList ++ (List.replicate (gap + 1) ' ' ++ text))

/-- The line shows the words: six columns of any kind, a blank indicator, the words in columns 8
to 72, and nothing or anything behind column 72. -/
inductive Line.Shows (words : List String) (raw : String) : Prop
  | line (number text rest : List Char) (indent trail : Nat) (htext : Spaced words text)
      (hnumber : number.length = 6) (hwidth : indent + text.length + trail ≤ 65)
      (hrest : rest = [] ∨ indent + text.length + trail = 65)
      (hraw : raw.toList = number ++ (List.replicate (indent + 1) ' ' ++
        (text ++ List.replicate trail ' ') ++ rest))

namespace Spaced

variable {words : List String} {text : List Char}

theorem words_ne_nil (h : Spaced words text) : words ≠ [] := by
  cases h <;> exact List.cons_ne_nil _ _

theorem text_ne_nil (h : Spaced words text) (hwords : ∀ w ∈ words, Legible w) : text ≠ [] := by
  cases h with
  | last word =>
    intro hnil
    exact (hwords word List.mem_cons_self).ne_empty (String.toList_eq_nil_iff.mp hnil)
  | more word gap h => simp

theorem head_not_blank (h : Spaced words text) (hwords : ∀ w ∈ words, Legible w) :
    ∀ c, text.head? = some c → Chars.isBlank c = false := by
  cases h with
  | last word =>
    intro c hc
    exact (hwords word List.mem_cons_self).no_blank c (List.mem_of_head? hc)
  | more word gap h =>
    obtain ⟨d, ds, hword, hd⟩ := (hwords word List.mem_cons_self).exists_cons
    rw [hword]
    rintro c ⟨⟩
    exact hd

theorem last_not_blank (h : Spaced words text) (hwords : ∀ w ∈ words, Legible w) :
    ∀ c, text.getLast? = some c → Chars.isBlank c = false := by
  induction h with
  | last word =>
    intro c hc
    exact (hwords word List.mem_cons_self).no_blank c (List.mem_of_getLast? hc)
  | more word gap h ih =>
    have hrest : ∀ w ∈ _, Legible w := fun w hw => hwords w (List.mem_cons_of_mem word hw)
    have hlast := List.getLast?_eq_some_getLast (h.text_ne_nil hrest)
    intro c hc
    rw [← List.append_assoc, List.getLast?_append, hlast, Option.some_or, ← hlast] at hc
    exact ih hrest c hc

/-- Any number of blanks between two words becomes one space. -/
theorem squeeze_eq (h : Spaced words text) (hwords : ∀ w ∈ words, Legible w) :
    Chars.squeeze text = (Text.unwords words).toList := by
  induction h with
  | last word =>
    have hword := Chars.squeeze_append (hwords word List.mem_cons_self).no_blank []
    simpa [Text.toList_unwords] using hword
  | @more word gap words text h ih =>
    have hrest : ∀ w ∈ words, Legible w := fun w hw => hwords w (List.mem_cons_of_mem word hw)
    obtain ⟨c, cs, hcs, hc⟩ := Legible.head_unwords h.words_ne_nil hrest
    have hgap := Chars.squeeze_gap gap ((ih hrest).trans hcs) hc
    rw [Chars.squeeze_append (hwords word List.mem_cons_self).no_blank, hgap, ← hcs,
      Text.toList_unwords, Text.toList_unwords, List.map_cons,
      List.intercalate_cons_of_ne_nil (by simpa using h.words_ne_nil)]
    simp

end Spaced

namespace Line.Shows

variable {words : List String} {raw : String}

theorem words_ne_nil (h : Shows words raw) : words ≠ [] := by
  obtain ⟨_, _, _, _, _, htext⟩ := h
  exact htext.words_ne_nil

theorem not_isContinuation (h : Shows words raw) : isContinuation raw = false := by
  obtain ⟨number, text, rest, indent, trail, -, hnumber, -, -, hraw⟩ := h
  have hcolumn : raw.toList[6]? = some ' ' := by
    rw [hraw, List.getElem?_append_right (by omega), hnumber]
    rfl
  rw [isContinuation, indicator, hcolumn]
  rfl

theorem normalText_eq (h : Shows words raw) (hwords : ∀ w ∈ words, Legible w) :
    normalText .code raw.toList = (Text.unwords words).toList := by
  obtain ⟨number, text, rest, indent, trail, htext, hnumber, hwidth, hrest, hraw⟩ := h
  have hspaces : ∀ n, ∀ c ∈ List.replicate n ' ', Chars.isBlank c = true := by
    intro n c hc
    rw [List.eq_of_mem_replicate hc]
    decide
  have hcolumns : columns .code raw.toList =
      List.replicate (indent + 1) ' ' ++ (text ++ List.replicate trail ' ') := by
    have hindent : number.length = Area.code.indent := hnumber
    rw [columns, hraw, List.drop_left' hindent]
    rcases hrest with rfl | hfull
    · rw [List.append_nil]
      exact List.take_of_length_le (by simp [rightMargin, Area.indent]; omega)
    · exact List.take_left' (by simp [rightMargin, Area.indent]; omega)
  rw [normalText, hcolumns, Chars.trim_padded (hspaces _) (hspaces _)
    (htext.head_not_blank hwords) (htext.last_not_blank hwords)]
  exact htext.squeeze_eq hwords

/-- However a line is spaced, it is formatted as its words with one space between them. -/
theorem format_eq (h : Shows words raw) (hwords : ∀ w ∈ words, Legible w) :
    format .code raw = Text.unwords words := by
  rw [format, areaWords, h.normalText_eq hwords, String.ofList_toList,
    Legible.words_unwords h.words_ne_nil hwords,
    List.map_congr_left fun w hw => (hwords w hw).shownWord_eq, List.map_id']

/-- The text of a printed line, as a line below looks back at it. -/
theorem without_format_eq (h : Shows words raw) (hwords : ∀ w ∈ words, Legible w) :
    Text.without '.' (format .code raw) = Text.unwords words := by
  rw [h.format_eq hwords, Text.without_of_not_mem (Legible.no_period_unwords hwords)]

/-- **The words of a printed line** are the words that were printed. -/
theorem codeWords_eq (h : Shows words raw) (hwords : ∀ w ∈ words, Legible w) :
    codeWords raw = words := by
  rw [codeWords, programText, h.not_isContinuation]
  simp only [Bool.false_eq_true, if_false]
  rw [h.without_format_eq hwords, Legible.words_unwords h.words_ne_nil hwords]

end Line.Shows

/-! ### A way to print -/

theorem Spaced.of_unwords {words : List String} (hne : words ≠ []) :
    Spaced words (Text.unwords words).toList := by
  induction words with
  | nil => exact absurd rfl hne
  | cons word rest ih =>
    rw [Text.toList_unwords]
    cases rest with
    | nil => simpa using Spaced.last word
    | cons next rest =>
      have hmore := Spaced.more word 0 (ih (List.cons_ne_nil next rest))
      rw [Text.toList_unwords] at hmore
      simpa using hmore

/-- The words from column 8 on, one space between two of them. -/
def Line.printed (words : List String) : String :=
  String.ofList (List.replicate 7 ' ' ++ (Text.unwords words).toList)

/-- A printed line shows its words when they fit in front of the margin. -/
theorem Line.shows_printed {words : List String} (hne : words ≠ [])
    (hwidth : (Text.unwords words).toList.length ≤ 65) : Shows words (printed words) := by
  refine .line (List.replicate 6 ' ') _ [] 0 0 (.of_unwords hne) rfl (by omega) (.inl rfl) ?_
  simp [printed, List.replicate_succ]

end CobolAtlas
