import CobolAtlas.Line

/-!
# Words of texts and lines

Cutting at single spaces and joining with single spaces undo each other (`unwords_words`, and on
words without spaces `words_unwords`), no word holds a space (`mem_words`), and the words of a line
outside of SQL blocks hold no period either (`mem_codeWords`).
-/

namespace CobolAtlas

namespace Chars

theorem splitOn_eq (sep : Char) (cs : List Char) : splitOn sep cs = cs.splitOn sep := by
  induction cs with
  | nil => rfl
  | cons c cs ih =>
    rw [splitOn_cons, ih, List.splitOn_cons_eq_if_modifyHead]
    unfold splitCons
    by_cases h : c = sep
    · simp [h]
    · rcases hpieces : cs.splitOn sep with _ | ⟨piece, rest⟩
      · exact absurd hpieces (List.splitOn_ne_nil sep cs)
      · simp [h]

theorem mem_splitOn {sep : Char} {cs piece : List Char} (h : piece ∈ splitOn sep cs) :
    sep ∉ piece ∧ ∀ c ∈ piece, c ∈ cs := by
  induction cs generalizing piece with
  | nil =>
    rw [splitOn_nil, List.mem_singleton] at h
    subst h
    simp
  | cons c cs ih =>
    by_cases hc : c = sep
    · subst hc
      rw [splitOn_cons_sep, List.mem_cons] at h
      rcases h with rfl | h
      · simp
      · exact ⟨(ih h).1, fun d hd => List.mem_cons_of_mem c ((ih h).2 d hd)⟩
    · rcases hpieces : splitOn sep cs with _ | ⟨first, rest⟩
      · exact absurd hpieces (splitOn_ne_nil sep cs)
      · rw [splitOn_cons_of_ne hc hpieces, List.mem_cons] at h
        rcases h with rfl | h
        · have hfirst : first ∈ splitOn sep cs := hpieces ▸ List.mem_cons_self
          refine ⟨?_, ?_⟩
          · simpa [Ne.symm hc] using (ih hfirst).1
          · intro d hd
            rcases List.mem_cons.mp hd with rfl | hd
            · exact List.mem_cons_self
            · exact List.mem_cons_of_mem c ((ih hfirst).2 d hd)
        · have hrest : piece ∈ splitOn sep cs := hpieces ▸ List.mem_cons_of_mem first h
          exact ⟨(ih hrest).1, fun d hd => List.mem_cons_of_mem c ((ih hrest).2 d hd)⟩

theorem dropEndWhile_concat {p : Char → Bool} {c : Char} (h : p c = true) (cs : List Char) :
    dropEndWhile p (cs ++ [c]) = dropEndWhile p cs := by
  rw [dropEndWhile, List.reverse_concat, List.dropWhile_cons_of_pos h, ← dropEndWhile]

theorem dropEndWhile_eq_self {p : Char → Bool} {cs : List Char}
    (h : ∀ c, cs.getLast? = some c → p c = false) : dropEndWhile p cs = cs := by
  rw [dropEndWhile]
  rcases hreversed : cs.reverse with _ | ⟨c, rest⟩
  · rw [List.reverse_eq_nil_iff.mp hreversed]
    rfl
  · have hlast : cs.getLast? = some c := by rw [← List.head?_reverse, hreversed, List.head?_cons]
    rw [List.dropWhile_cons_of_neg (by simp [h c hlast]), ← hreversed, List.reverse_reverse]

end Chars

namespace Text

theorem words_ne_nil (s : String) : words s ≠ [] := by
  simp [words, fields, Chars.splitOn_ne_nil]

theorem head_mem_words (s : String) : head (words s) ∈ words s := by
  rcases hwords : words s with _ | ⟨w, ws⟩
  · exact absurd hwords (words_ne_nil s)
  · simp [head]

/-- A word holds no space, and only characters of the text. -/
theorem mem_words {s w : String} (h : w ∈ words s) :
    ' ' ∉ w.toList ∧ ∀ c ∈ w.toList, c ∈ s.toList := by
  simp only [words, fields, List.mem_map] at h
  obtain ⟨piece, hpiece, rfl⟩ := h
  simpa using Chars.mem_splitOn hpiece

theorem toList_unwords (ws : List String) :
    (unwords ws).toList = [' '].intercalate (ws.map String.toList) := by
  simp [unwords]

/-- Words joined again are the text. -/
theorem unwords_words (s : String) : unwords (words s) = s := by
  apply String.toList_injective
  rw [toList_unwords, words, fields, List.map_map, Chars.splitOn_eq]
  simp [Function.comp_def, List.intercalate_splitOn]

/-- Words without spaces are the words of the text that they make. -/
theorem words_unwords {ws : List String} (hne : ws ≠ []) (hws : ∀ w ∈ ws, ' ' ∉ w.toList) :
    words (unwords ws) = ws := by
  have hpieces : ∀ l ∈ ws.map String.toList, ' ' ∉ l := by
    intro l hl
    obtain ⟨w, hw, rfl⟩ := List.mem_map.mp hl
    exact hws w hw
  rw [words, fields, toList_unwords, Chars.splitOn_eq,
    List.splitOn_intercalate ' ' hpieces (by simpa using hne), List.map_map]
  simp

theorem not_mem_without (c : Char) (s : String) : c ∉ (without c s).toList := by
  simp [without]

theorem without_of_not_mem {c : Char} {s : String} (h : c ∉ s.toList) : without c s = s := by
  have hkeep : s.toList.filter (fun d => decide (d ≠ c)) = s.toList := by
    rw [List.filter_eq_self]
    intro d hd
    simpa using fun heq : d = c => h (heq ▸ hd)
  rw [without, hkeep, String.ofList_toList]

end Text

namespace Line

/-- Outside of SQL blocks no word of a line holds a space or a period. -/
theorem mem_codeWords {raw w : String} (h : w ∈ codeWords raw) :
    ' ' ∉ w.toList ∧ '.' ∉ w.toList := by
  obtain ⟨hspace, hmem⟩ := Text.mem_words h
  exact ⟨hspace, fun hperiod => Text.not_mem_without '.' _ (hmem '.' hperiod)⟩

theorem head_mem_codeWords (raw : String) : Text.head (codeWords raw) ∈ codeWords raw :=
  Text.head_mem_words _

end Line

end CobolAtlas
