import CobolAtlas.Proofs.NormalForm

/-!
# Formatted lines

Reading the area of a line gives a text in normal form (`Line.IsNormal`), and a text in normal form
that stands in the columns of its area is read as it is (`Line.format_of_isNormal`). The steps of
the reading do not undo each other because each property of the text is one of its pieces between
spaces: the text neither starts nor ends with a blank and has no two blanks side by side if and only
if no piece does (`Chars.snug_append_space`), and a revision mark has no space in it
(`Chars.unrevised_append_space`). A word that is replaced has a substitute that is shorter, solid
and without a mark.
-/

namespace CobolAtlas

namespace Chars

/-- The first character, if there is one, is no blank. -/
def StartsSolid (cs : List Char) : Prop :=
  ∀ c, cs.head? = some c → isBlank c = false

/-- A text without blanks at its ends and without two blanks side by side. -/
structure Snug (cs : List Char) : Prop where
  ne_nil : cs ≠ []
  startsSolid : StartsSolid cs
  endsSolid : EndsSolid cs
  squeezed : Squeezed cs

theorem snug_of_solid {cs : List Char} (hne : cs ≠ []) (h : cs.any isBlank = false) : Snug cs := by
  have hsolid : ∀ c ∈ cs, isBlank c = false := by
    simpa using h
  refine ⟨hne, ?_, ?_, ?_⟩
  · intro c hc
    exact hsolid c (List.mem_of_head? hc)
  · intro c hc
    exact hsolid c (List.mem_of_getLast? hc)
  · apply List.isChain_iff_forall_rel_of_append_cons_cons.mpr
    rintro a b front back rfl _
    exact hsolid b (by simp)

/-- No `A` or `D` stands in front of a period. -/
def Unrevised (cs : List Char) : Prop :=
  cs.IsChain fun a b => (a = 'A' ∨ a = 'D') → b ≠ '.'

theorem unrevised_iff (cs : List Char) :
    Unrevised cs ↔ ¬ ['A', '.'] <:+: cs ∧ ¬ ['D', '.'] <:+: cs := by
  rw [Unrevised, List.isChain_iff_forall_rel_of_append_cons_cons]
  constructor
  · intro h
    refine ⟨?_, ?_⟩
    · rintro ⟨front, back, heq⟩
      exact h (heq.symm.trans (List.append_assoc front _ back)) (.inl rfl) rfl
    · rintro ⟨front, back, heq⟩
      exact h (heq.symm.trans (List.append_assoc front _ back)) (.inr rfl) rfl
  · rintro ⟨hadded, hdeleted⟩ a b front back rfl (rfl | rfl) rfl
    · exact hadded ⟨front, back, List.append_assoc front _ back⟩
    · exact hdeleted ⟨front, back, List.append_assoc front _ back⟩

/-! ### Pieces between spaces -/

/-- What holds of two texts if and only if it holds of them with a space between is a property of
the pieces between spaces. -/
theorem intercalate_iff_forall {P : List Char → Prop}
    (hP : ∀ cs ds, P (cs ++ ' ' :: ds) ↔ P cs ∧ P ds) {pieces : List (List Char)}
    (hne : pieces ≠ []) : P ([' '].intercalate pieces) ↔ ∀ piece ∈ pieces, P piece := by
  induction pieces with
  | nil => exact absurd rfl hne
  | cons piece rest ih =>
    cases rest with
    | nil => simp
    | cons next rest =>
      rw [List.intercalate_cons_cons, List.append_assoc, List.singleton_append, hP,
        ih (List.cons_ne_nil next rest)]
      exact List.forall_mem_cons.symm

/-- A space is a blank, so the characters on both of its sides are solid. -/
theorem snug_append_space (cs ds : List Char) :
    Snug (cs ++ ' ' :: ds) ↔ Snug cs ∧ Snug ds := by
  constructor
  · rintro ⟨_, hstarts, hends, hsqueezed⟩
    obtain ⟨hleft, hright, hbetween⟩ := List.isChain_append.mp hsqueezed
    obtain ⟨hnext, htail⟩ := List.isChain_cons.mp hright
    have hcs : cs ≠ [] := by
      rintro rfl
      exact absurd (hstarts ' ' rfl) (by decide)
    have hds : ds ≠ [] := by
      rintro rfl
      exact absurd (hends ' ' List.getLast?_concat) (by decide)
    refine ⟨⟨hcs, ?_, ?_, hleft⟩, ⟨hds, ?_, ?_, htail⟩⟩
    · intro c hc
      apply hstarts c
      rw [List.head?_append_of_ne_nil _ hcs, hc]
    · intro c hc
      rw [← Bool.not_eq_true]
      intro hblank
      exact absurd (hbetween c hc ' ' rfl hblank) (by decide)
    · intro d hd
      exact hnext d hd (by decide)
    · rw [List.append_cons, endsSolid_append _ hds] at hends
      exact hends
  · rintro ⟨hcs, hds⟩
    refine ⟨by simp, ?_, ?_, ?_⟩
    · intro c hc
      rw [List.head?_append_of_ne_nil _ hcs.ne_nil] at hc
      exact hcs.startsSolid c hc
    · rw [List.append_cons, endsSolid_append _ hds.ne_nil]
      exact hds.endsSolid
    · apply List.isChain_append.mpr
      refine ⟨hcs.squeezed, List.isChain_cons.mpr ⟨?_, hds.squeezed⟩, ?_⟩
      · intro d hd _
        exact hds.startsSolid d hd
      · intro c hc d _ hblank
        rw [hcs.endsSolid c hc] at hblank
        exact absurd hblank Bool.false_ne_true

/-- A space ends a revision mark, so a text can be checked word by word. -/
theorem unrevised_append_space (cs ds : List Char) :
    Unrevised (cs ++ ' ' :: ds) ↔ Unrevised cs ∧ Unrevised ds := by
  unfold Unrevised
  rw [List.isChain_append, List.isChain_cons]
  constructor
  · rintro ⟨hcs, ⟨_, hds⟩, _⟩
    exact ⟨hcs, hds⟩
  · rintro ⟨hcs, hds⟩
    refine ⟨hcs, ⟨?_, hds⟩, ?_⟩
    · intro d _ hmark
      exact absurd hmark (by decide)
    · rintro c _ d ⟨⟩ _
      decide

/-! ### The steps of the reading -/

theorem startsSolid_of_isPrefix {cs ds : List Char} (h : cs <+: ds) (hds : StartsSolid ds) :
    StartsSolid cs := by
  obtain ⟨rest, rfl⟩ := h
  intro c hc
  apply hds c
  rw [List.head?_append, hc]
  rfl

theorem startsSolid_trim (cs : List Char) : StartsSolid (trim cs) := by
  apply startsSolid_of_isPrefix (trimEnd_isPrefix _)
  intro c hc
  have hhead := List.head?_dropWhile_not isBlank cs
  rw [trimStart] at hc
  rw [hc] at hhead
  exact hhead

theorem trim_of_solid {cs : List Char} (hstarts : StartsSolid cs) (hends : EndsSolid cs) :
    trim cs = cs := by
  have hstart : trimStart cs = cs := by
    cases cs with
    | nil => rfl
    | cons c cs => exact List.dropWhile_cons_of_neg (by simp [hstarts c rfl])
  rw [trim, hstart, trimEnd_of_endsSolid hends]

theorem startsSolid_squeeze {cs : List Char} (h : StartsSolid cs) : StartsSolid (squeeze cs) := by
  cases cs with
  | nil => exact h
  | cons c cs =>
    have hc := h c rfl
    intro d hd
    rw [squeeze_cons] at hd
    cases hrest : squeeze cs with
    | nil =>
      rw [hrest] at hd
      obtain rfl := Option.some.inj hd
      exact hc
    | cons e es =>
      rw [hrest, squeezeCons, hc] at hd
      obtain rfl := Option.some.inj hd
      exact hc

theorem squeeze_of_squeezed {cs : List Char} (h : Squeezed cs) : squeeze cs = cs := by
  induction cs with
  | nil => rfl
  | cons c cs ih =>
    obtain ⟨hnext, htail⟩ := List.isChain_cons.mp h
    rw [squeeze_cons, ih htail]
    cases cs with
    | nil => rfl
    | cons d ds =>
      have hapart : ¬ (isBlank c && isBlank d) = true := by
        rw [Bool.and_eq_true]
        rintro ⟨hc, hd⟩
        rw [hnext d rfl hc] at hd
        exact absurd hd Bool.false_ne_true
      rw [squeezeCons, if_neg hapart]

theorem length_squeeze_le (cs : List Char) : (squeeze cs).length ≤ cs.length := by
  induction cs with
  | nil => exact Nat.le_refl 0
  | cons c cs ih =>
    rw [squeeze_cons, List.length_cons]
    rcases hrest : squeeze cs with _ | ⟨d, ds⟩
    · simp [squeezeCons]
    · rw [hrest, List.length_cons] at ih
      rcases squeezeCons_cases c d ds with ⟨_, heq⟩ | ⟨_, heq⟩
      · simp only [heq, List.length_cons]
        omega
      · simp only [heq, List.length_cons]
        omega

/-- The text of an area in front of the search for revision marks. -/
theorem snug_squeeze_trim {cs : List Char} (h : squeeze (trim cs) ≠ []) :
    Snug (squeeze (trim cs)) where
  ne_nil := h
  startsSolid := startsSolid_squeeze (startsSolid_trim cs)
  endsSolid := endsSolid_squeeze (endsSolid_trimEnd _)
  squeezed := squeezed_squeeze _

end Chars

namespace Text

/-- A property that a space splits holds of a text when it holds of each of its words. -/
theorem unwords_iff_forall {P : List Char → Prop} (hP : ∀ cs ds, P (cs ++ ' ' :: ds) ↔ P cs ∧ P ds)
    {ws : List String} (hne : ws ≠ []) : P (unwords ws).toList ↔ ∀ w ∈ ws, P w.toList := by
  rw [toList_unwords, Chars.intercalate_iff_forall hP (by simpa using hne), List.forall_mem_map]

theorem iff_forall_words {P : List Char → Prop} (hP : ∀ cs ds, P (cs ++ ' ' :: ds) ↔ P cs ∧ P ds)
    (s : String) : P s.toList ↔ ∀ w ∈ words s, P w.toList := by
  rw [← unwords_iff_forall hP (words_ne_nil s), unwords_words]

theorem length_unwords_map_le {f : String → String} (hf : ∀ w, (f w).length ≤ w.length)
    (ws : List String) : (unwords (ws.map f)).length ≤ (unwords ws).length := by
  rw [← String.length_toList, ← String.length_toList, toList_unwords, toList_unwords]
  induction ws with
  | nil => exact Nat.le_refl 0
  | cons w rest ih =>
    have hw : (f w).toList.length ≤ w.toList.length := by
      rw [String.length_toList, String.length_toList]
      exact hf w
    cases rest with
    | nil => simpa using hw
    | cons next rest =>
      simp only [List.map_cons, List.intercalate_cons_cons, List.length_append] at ih ⊢
      omega

end Text

namespace Line

theorem beforeRevision_isPrefix (cs : List Char) : beforeRevision cs <+: cs := by
  fun_induction beforeRevision cs with
  | case1 => exact List.prefix_rfl
  | case2 c => exact List.prefix_rfl
  | case3 c d rest hmark => exact List.nil_prefix
  | case4 c d rest hmark ih => exact (List.prefix_cons_inj c).mpr ih

theorem beforeRevision_of_unrevised {cs : List Char} (h : Chars.Unrevised cs) :
    beforeRevision cs = cs := by
  fun_induction beforeRevision cs with
  | case1 => rfl
  | case2 c => rfl
  | case3 c d rest hmark =>
    simp only [Bool.and_eq_true, Bool.or_eq_true, decide_eq_true_eq] at hmark
    exact absurd hmark.2 ((List.isChain_cons_cons.mp h).1 hmark.1)
  | case4 c d rest hmark ih => rw [ih (List.isChain_cons_cons.mp h).2]

theorem unrevised_beforeRevision (cs : List Char) : Chars.Unrevised (beforeRevision cs) := by
  fun_induction beforeRevision cs with
  | case1 => exact .nil
  | case2 c => exact .singleton c
  | case3 c d rest hmark => exact .nil
  | case4 c d rest hmark ih =>
    apply List.isChain_cons.mpr
    refine ⟨?_, ih⟩
    intro b hb hc
    -- the next character, if it stays, is the one behind `c` in the text
    obtain ⟨back, hback⟩ := beforeRevision_isPrefix (d :: rest)
    have hd : b = d := by
      have hhead := congrArg List.head? hback
      rw [List.head?_append, hb] at hhead
      exact Option.some.inj hhead
    rintro rfl
    apply hmark
    simp [hc, ← hd]

/-! ### The normal form -/

/-- The number of columns of an area, up to column 72. -/
def areaWidth : Area → Nat
  | .code => 66
  | .comment => 65

/-- The number of columns in front of an area. -/
def columnsInFront : Area → Nat
  | .code => 6
  | .comment => 7

theorem areaWidth_eq (area : Area) : areaWidth area = rightMargin - area.indent := by
  cases area <;> rfl

theorem columnsInFront_eq (area : Area) : columnsInFront area = area.indent := by
  cases area <;> rfl

/-- A text in the normal form of an area. -/
structure IsNormal (area : Area) (text : String) : Prop where
  startsSolid : Chars.StartsSolid text.toList
  endsSolid : Chars.EndsSolid text.toList
  squeezed : Chars.Squeezed text.toList
  length_le : text.length ≤ areaWidth area
  words_ne_empty : text ≠ "" → ∀ word ∈ Text.words text, word ≠ ""
  words_shown : ∀ word ∈ Text.words text, word ≠ "ZERO" ∧ word ≠ "SPACE" ∧ word ≠ "ALSO"
  unrevised : area = .comment → ¬ ['A', '.'] <:+: text.toList ∧ ¬ ['D', '.'] <:+: text.toList

/-- A text of the right width put behind the filler is exactly the columns that are read. -/
theorem columns_append {area : Area} {filler text : List Char}
    (hfiller : filler.length = columnsInFront area) (htext : text.length ≤ areaWidth area) :
    columns area (filler ++ text) = text := by
  rw [columnsInFront_eq] at hfiller
  rw [areaWidth_eq] at htext
  rw [columns, List.drop_left' hfiller, List.take_of_length_le htext]

/-- A normal text survives formatting, wherever its line came from. -/
theorem normalText_of_isNormal {area : Area} {text : String} (h : IsNormal area text)
    {filler : List Char} (hfiller : filler.length = columnsInFront area) :
    normalText area (filler ++ text.toList) = text.toList := by
  have hlength : text.toList.length ≤ areaWidth area := by
    rw [String.length_toList]
    exact h.length_le
  have htext : Chars.squeeze (Chars.trim (columns area (filler ++ text.toList))) = text.toList := by
    rw [columns_append hfiller hlength, Chars.trim_of_solid h.startsSolid h.endsSolid,
      Chars.squeeze_of_squeezed h.squeezed]
  unfold normalText
  rw [htext]
  cases area with
  | code => rfl
  | comment =>
    have hunrevised := (Chars.unrevised_iff text.toList).mpr (h.unrevised rfl)
    simp only [beforeRevision_of_unrevised hunrevised, Chars.trimEnd_of_endsSolid h.endsSolid]

/-- A text in normal form that stands in the columns of its area is read as it is. -/
theorem format_of_isNormal {area : Area} {text : String} (h : IsNormal area text) {filler : String}
    (hfiller : filler.length = columnsInFront area) : format area (filler ++ text) = text := by
  have hlength : filler.toList.length = columnsInFront area := by
    rw [String.length_toList]
    exact hfiller
  have hshown : (Text.words text).map shownWord = Text.words text := by
    conv => rhs; rw [← List.map_id (Text.words text)]
    apply List.map_congr_left
    intro word hword
    simp [shownWord, h.words_shown word hword]
  rw [format, areaWords, String.toList_append, normalText_of_isNormal h hlength,
    String.ofList_toList, hshown, Text.unwords_words]

/-! ### The text of an area -/

theorem normalText_isPrefix (area : Area) (raw : List Char) :
    normalText area raw <+: Chars.squeeze (Chars.trim (columns area raw)) := by
  cases area with
  | code => exact List.prefix_rfl
  | comment => exact (Chars.trimEnd_isPrefix _).trans (beforeRevision_isPrefix _)

theorem length_normalText_le (area : Area) (raw : List Char) :
    (normalText area raw).length ≤ areaWidth area := by
  rw [areaWidth_eq]
  calc (normalText area raw).length
      ≤ (Chars.squeeze (Chars.trim (columns area raw))).length :=
        (normalText_isPrefix area raw).length_le
    _ ≤ (Chars.trim (columns area raw)).length := Chars.length_squeeze_le _
    _ ≤ (Chars.trimStart (columns area raw)).length := Chars.length_trimEnd_le _
    _ ≤ (columns area raw).length := (List.dropWhile_suffix _).length_le
    _ ≤ rightMargin - area.indent := List.length_take_le _ _

theorem snug_normalText {area : Area} {raw : List Char} (h : normalText area raw ≠ []) :
    Chars.Snug (normalText area raw) := by
  have hfront := normalText_isPrefix area raw
  have hne : Chars.squeeze (Chars.trim (columns area raw)) ≠ [] := by
    intro hnil
    rw [hnil] at hfront
    exact h (List.prefix_nil.mp hfront)
  have hsnug := Chars.snug_squeeze_trim hne
  have hsqueezed := List.IsChain.prefix hsnug.squeezed hfront
  refine ⟨h, Chars.startsSolid_of_isPrefix hfront hsnug.startsSolid, ?_, hsqueezed⟩
  cases area with
  | code => exact hsnug.endsSolid
  | comment => exact Chars.endsSolid_trimEnd _

theorem unrevised_normalText (raw : List Char) : Chars.Unrevised (normalText .comment raw) := by
  have hfront := unrevised_beforeRevision (Chars.squeeze (Chars.trim (columns .comment raw)))
  exact List.IsChain.prefix hfront (Chars.trimEnd_isPrefix _)

/-! ### The words as they are shown -/

theorem length_shownWord_le (word : String) : (shownWord word).length ≤ word.length := by
  unfold shownWord
  split
  · rename_i heq
    subst heq
    decide
  split
  · rename_i heq
    subst heq
    decide
  split
  · rename_i heq
    subst heq
    decide
  · exact Nat.le_refl _

/-- No replacement is itself a word that is replaced. -/
theorem shownWord_ne (word : String) :
    shownWord word ≠ "ZERO" ∧ shownWord word ≠ "SPACE" ∧ shownWord word ≠ "ALSO" := by
  unfold shownWord
  split
  · decide
  split
  · decide
  split
  · decide
  · exact ⟨‹_›, ‹_›, ‹_›⟩

/-- A property of the pieces between spaces passes from the text of an area to its words as they are
shown, if the substitutes have it. -/
theorem format_of_normalText {P : List Char → Prop}
    (hP : ∀ cs ds, P (cs ++ ' ' :: ds) ↔ P cs ∧ P ds) (hzero : P "0".toList)
    (hspace : P "''".toList) (halso : P "と".toList) {area : Area} {raw : String}
    (h : P (normalText area raw.toList)) : P (format area raw).toList := by
  have hwords : ∀ word ∈ Text.words (String.ofList (normalText area raw.toList)),
      P word.toList := by
    rw [← Text.iff_forall_words hP, String.toList_ofList]
    exact h
  rw [format, Text.unwords_iff_forall hP (by simp [areaWords, Text.words_ne_nil])]
  intro shown hshown
  obtain ⟨word, hword, rfl⟩ := List.mem_map.mp hshown
  rcases shownWord_cases word with heq | heq | heq | heq
  · rw [heq]
    exact hzero
  · rw [heq]
    exact hspace
  · rw [heq]
    exact halso
  · rw [heq]
    exact hwords word hword

theorem length_format_le (area : Area) (raw : String) :
    (format area raw).length ≤ areaWidth area := by
  calc (format area raw).length
      ≤ (Text.unwords (Text.words (String.ofList (normalText area raw.toList)))).length :=
        Text.length_unwords_map_le length_shownWord_le _
    _ = (normalText area raw.toList).length := by rw [Text.unwords_words, String.length_ofList]
    _ ≤ areaWidth area := length_normalText_le area raw.toList

theorem unrevised_format (raw : String) : Chars.Unrevised (format .comment raw).toList := by
  apply format_of_normalText Chars.unrevised_append_space
  · simp [Chars.Unrevised]
  · simp [Chars.Unrevised]
  · simp [Chars.Unrevised]
  · exact unrevised_normalText raw.toList

theorem format_eq_empty_or_snug (area : Area) (raw : String) :
    format area raw = "" ∨ Chars.Snug (format area raw).toList := by
  by_cases hempty : normalText area raw.toList = []
  · left
    rw [format, areaWords, hempty]
    decide
  · right
    apply format_of_normalText Chars.snug_append_space
    · exact Chars.snug_of_solid (by decide) (by decide)
    · exact Chars.snug_of_solid (by decide) (by decide)
    · exact Chars.snug_of_solid (by decide) (by decide)
    · exact snug_normalText hempty

/-- No word of a line ends in a blank. -/
theorem endsSolid_of_mem_areaWords {area : Area} {raw word : String}
    (h : word ∈ areaWords area raw) : Chars.EndsSolid word.toList := by
  rw [← words_format] at h
  rcases format_eq_empty_or_snug area raw with hempty | hsnug
  · rw [hempty] at h
    obtain rfl : word = "" := List.mem_singleton.mp h
    nofun
  · exact ((Text.iff_forall_words Chars.snug_append_space _).mp hsnug word h).endsSolid

theorem isNormal_format (area : Area) (raw : String) : IsNormal area (format area raw) := by
  have hwords : ∀ word ∈ Text.words (format area raw),
      word ≠ "ZERO" ∧ word ≠ "SPACE" ∧ word ≠ "ALSO" := by
    intro shown hshown
    rw [words_format] at hshown
    obtain ⟨word, _, rfl⟩ := List.mem_map.mp hshown
    exact shownWord_ne word
  have hrevised : area = .comment → ¬ ['A', '.'] <:+: (format area raw).toList ∧
      ¬ ['D', '.'] <:+: (format area raw).toList := by
    rintro rfl
    exact (Chars.unrevised_iff _).mp (unrevised_format raw)
  have hlength := length_format_le area raw
  rcases format_eq_empty_or_snug area raw with hempty | hsnug
  · rw [hempty] at hwords hrevised hlength ⊢
    exact ⟨nofun, nofun, .nil, hlength, fun hne => absurd rfl hne, hwords, hrevised⟩
  · refine ⟨hsnug.startsSolid, hsnug.endsSolid, hsnug.squeezed, hlength, ?_, hwords, hrevised⟩
    rintro _ word hword rfl
    exact ((Text.iff_forall_words Chars.snug_append_space _).mp hsnug "" hword).ne_nil rfl

/-- **Reading a line gives a normal form.** The text of an area has no blanks at its ends, no two
blanks side by side, and at most as many characters as the area has columns. Its words are not empty
and none of them has a substitute, and a comment has no revision mark. The text is read as it is if
it stands in the columns of its area again, whatever stands in front of them. -/
theorem format_isNormal_stable (area : Area) (raw : String) :
    IsNormal area (format area raw) ∧
      ∀ filler : String, filler.length = columnsInFront area →
        format area (filler ++ format area raw) = format area raw := by
  have hnormal := isNormal_format area raw
  refine ⟨hnormal, ?_⟩
  intro filler hfiller
  exact format_of_isNormal hnormal hfiller

/-- A comment with a word that has a substitute and a revision mark. -/
def revisedComment : String :=
  "000100* COUNT  OR ZERO\t  D.OLD A.NEW"

theorem revisedComment_isNormal_stable :
    IsNormal .comment (format .comment revisedComment) ∧
      (format .comment revisedComment).length ≤ 65 ∧ "      *".length = 7 ∧
      format .comment ("      *" ++ format .comment revisedComment) =
        format .comment revisedComment := by
  obtain ⟨hnormal, hagain⟩ := format_isNormal_stable .comment revisedComment
  exact ⟨hnormal, hnormal.length_le, by decide, hagain "      *" (by decide)⟩

example : format .comment revisedComment = "COUNT OR 0" := by
  decide

end Line

end CobolAtlas
