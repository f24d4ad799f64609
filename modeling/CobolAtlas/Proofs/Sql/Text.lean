import Mathlib.Data.List.TakeWhile
import CobolAtlas.Proofs.NormalForm
import CobolAtlas.Sql.Block

/-!
# The text of a block

A block collects the words of its lines with a space behind each of them (`Text.trailed`), and the
statement has the text without the last space. Where no word ends in a blank this is the text that
the words make, and the words can be told from it (`Text.unwords_inj`).
-/

namespace CobolAtlas

namespace Text

/-- The words that are not empty. -/
def filled (ws : List String) : List String :=
  ws.filter fun w => !w.isEmpty

/-- The words in a row, a space behind each of them. -/
def trailed (ws : List String) : String :=
  String.join (ws.map fun w => w ++ " ")

theorem mem_filled {ws : List String} {w : String} (h : w ∈ filled ws) : w ∈ ws ∧ w ≠ "" := by
  obtain ⟨hmem, hempty⟩ := List.mem_filter.mp h
  refine ⟨hmem, ?_⟩
  rintro rfl
  simp at hempty

@[simp] theorem trailed_nil : trailed [] = "" := by
  simp [trailed]

theorem trailed_append (ws vs : List String) : trailed (ws ++ vs) = trailed ws ++ trailed vs := by
  simp [trailed]

/-- A space behind each word is a space between two words and one at the end. -/
theorem trailed_eq {ws : List String} (hne : ws ≠ []) : trailed ws = unwords ws ++ " " := by
  induction ws with
  | nil => exact absurd rfl hne
  | cons w ws ih =>
    have hcons : trailed (w :: ws) = w ++ " " ++ trailed ws := by simp [trailed]
    cases ws with
    | nil => simp [hcons, unwords]
    | cons v vs =>
      rw [hcons, ih (List.cons_ne_nil v vs)]
      simp [unwords, String.append_assoc]

theorem unwords_ne_empty {w : String} (hw : w ≠ "") (ws : List String) :
    unwords (w :: ws) ≠ "" := by
  cases ws with
  | nil => simpa [unwords] using hw
  | cons v vs =>
    intro hempty
    have hlist := congrArg String.toList hempty
    simp [unwords, hw] at hlist

theorem endsSolid_unwords {ws : List String}
    (h : ∀ w ∈ ws, w ≠ "" ∧ Chars.EndsSolid w.toList) : Chars.EndsSolid (unwords ws).toList := by
  induction ws with
  | nil => simp [unwords, Chars.EndsSolid]
  | cons w ws ih =>
    cases ws with
    | nil => simpa [unwords] using (h w List.mem_cons_self).2
    | cons v vs =>
      have hrest := ih fun u hu => h u (List.mem_cons_of_mem w hu)
      have hne : (unwords (v :: vs)).toList ≠ [] := by
        intro hnil
        exact unwords_ne_empty (h v (by simp)).1 vs (String.toList_eq_nil_iff.mp hnil)
      have hcons : unwords (w :: v :: vs) = w ++ " " ++ unwords (v :: vs) :=
        String.intercalate_cons_cons
      intro c hc
      rw [hcons, String.toList_append, List.getLast?_append_of_ne_nil _ hne] at hc
      exact hrest c hc

/-- The space behind the last word is a blank at the end. -/
theorem trimEnd_trailed_eq (ws : List String) : trimEnd (trailed ws) = trimEnd (unwords ws) := by
  by_cases hne : ws = []
  · subst hne
    rfl
  · have hspace : (" ".toList : List Char) = [' '] := by decide
    rw [trimEnd, trailed_eq hne, String.toList_append, hspace, Chars.trimEnd_append_space, trimEnd]

/-- Dropping the blanks at the end only takes the last space away. -/
theorem trimEnd_trailed {ws : List String}
    (h : ∀ w ∈ ws, w ≠ "" ∧ Chars.EndsSolid w.toList) : trimEnd (trailed ws) = unwords ws := by
  rw [trimEnd_trailed_eq, trimEnd, Chars.trimEnd_of_endsSolid (endsSolid_unwords h),
    String.ofList_toList]

/-- Words without spaces that are not empty can be told from the text that they make. -/
theorem unwords_inj {ws vs : List String} (hws : ∀ w ∈ ws, w ≠ "" ∧ ' ' ∉ w.toList)
    (hvs : ∀ v ∈ vs, v ≠ "" ∧ ' ' ∉ v.toList) (h : unwords ws = unwords vs) : ws = vs := by
  cases ws with
  | nil =>
    cases vs with
    | nil => rfl
    | cons v vs => exact absurd h.symm (unwords_ne_empty (hvs v List.mem_cons_self).1 vs)
  | cons w ws =>
    cases vs with
    | nil => exact absurd h (unwords_ne_empty (hws w List.mem_cons_self).1 ws)
    | cons v vs =>
      have hwords := congrArg words h
      rwa [words_unwords (List.cons_ne_nil w ws) fun u hu => (hws u hu).2,
        words_unwords (List.cons_ne_nil v vs) fun u hu => (hvs u hu).2] at hwords

end Text

namespace Sql

/-- The words of a line in front of the word that closes the block. -/
def beforeEnd (words : List String) : List String :=
  words.takeWhile fun word => !closesBlock word

theorem beforeEnd_eq_self {words : List String} (h : words.any closesBlock = false) :
    beforeEnd words = words := by
  rw [List.any_eq_false] at h
  rw [beforeEnd, List.takeWhile_eq_self_iff]
  intro word hword
  simpa using h word hword

namespace Block

/-- The words of a line are added to the text, and nothing else changes. -/
theorem foldl_addWord (block : Block) (words : List String) :
    words.foldl addWord block =
      { block with text := block.text ++ Text.trailed (Text.filled words) } := by
  induction words generalizing block with
  | nil => simp [Text.filled]
  | cons word rest ih =>
    rw [List.foldl_cons, ih]
    by_cases hempty : word.isEmpty = true
    · simp [addWord, Text.filled, hempty]
    · simp [addWord, Text.filled, hempty, Text.trailed, String.append_assoc]

/-- Each word comes with one space behind it, and empty words are left out. -/
theorem foldl_addWord_text (block : Block) (words : List String) :
    (words.foldl addWord block).text = block.text ++ Text.trailed (Text.filled words) := by
  rw [foldl_addWord]

section

variable (tokenizer : Tokenizer) (block : Block) {words : List String} (owner : String) (line : Nat)

/-- A line without a closing word adds its words. -/
theorem readLine_of_open (h : words.any closesBlock = false) :
    ∃ next, (block.readLine tokenizer words false owner line).value = .goesOn next ∧
      next.text = block.text ++ Text.trailed (Text.filled words) := by
  refine ⟨(block.readHead words).addLine false words, ?_, foldl_addWord_text _ words⟩
  unfold readLine
  simp only [h, Bool.false_eq_true, if_false, Logged.value_pure]
  rw [← beforeEnd, beforeEnd_eq_self h]

/-- A line with a closing word adds the words in front of it and leaves a statement, unless there
is no text. -/
theorem readLine_of_close (h : words.any closesBlock = true) :
    ∃ statement, (block.readLine tokenizer words false owner line).value = .closed statement ∧
      ∀ recorded, statement = some recorded → recorded.line = line ∧ recorded.text =
        Text.trimEnd (block.text ++ Text.trailed (Text.filled (beforeEnd words))) := by
  let filledBlock := (block.readHead words).addLine false (beforeEnd words)
  have htext : filledBlock.text =
      block.text ++ Text.trailed (Text.filled (beforeEnd words)) := foldl_addWord_text _ _
  refine ⟨(filledBlock.close tokenizer owner line).value, ?_, ?_⟩
  · unfold readLine
    simp only [h, if_true, Logged.value_bind, Logged.value_pure]
    rfl
  · intro recorded hrecorded
    rw [← htext]
    unfold close at hrecorded
    by_cases hempty : (Text.trimEnd filledBlock.text).isEmpty = true
    · simp [hempty] at hrecorded
    · simp only [hempty, Bool.false_eq_true, if_false, Logged.value_bind, Logged.value_pure,
        Option.some.injEq] at hrecorded
      subst hrecorded
      exact ⟨rfl, rfl⟩

end

end Block

end Sql

end CobolAtlas
