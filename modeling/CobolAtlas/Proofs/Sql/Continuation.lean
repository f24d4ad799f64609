import CobolAtlas.Proofs.Scan.Tables
import CobolAtlas.Proofs.SentencePeriod

/-!
# Continued literals

A literal that does not fit on a line goes on behind a quote of its own on a continued line. The
block drops the blanks at its end and the quotes at the start of the continuation, and the two parts
of the literal meet. `Text.rejoined_eq_iff` says when that gives back the text that was split: if
the first part ends in no blank and the second one starts with no quote. A quote there, the closing
one or one of a doubled quote, is dropped together with the quote of the continuation. The first
part may also come to end in the closing word of the block (`SplitLiteral.text_ne_of_closed`).
-/

namespace CobolAtlas

namespace Chars

/-- Blanks at the end are those of the second part, unless that is nothing else. -/
theorem trimEnd_append (cs ds : List Char) :
    trimEnd (cs ++ ds) = if trimEnd ds = [] then trimEnd cs else cs ++ trimEnd ds := by
  simp only [trimEnd, dropEndWhile, List.reverse_append, List.dropWhile_append,
    List.reverse_eq_nil_iff, List.isEmpty_iff]
  split
  · rfl
  · rw [List.reverse_append, List.reverse_reverse]

theorem trimEnd_append_of_ne_nil (cs : List Char) {ds : List Char} (h : trimEnd ds ≠ []) :
    trimEnd (cs ++ ds) = cs ++ trimEnd ds := by
  rw [trimEnd_append, if_neg h]

/-- Blanks are trimmed from the second part only when the first one ends with none. -/
theorem trimEnd_append_of_endsSolid {cs : List Char} (h : EndsSolid cs) (ds : List Char) :
    trimEnd (cs ++ ds) = cs ++ trimEnd ds := by
  rw [trimEnd_append]
  split
  · rename_i hnil
    rw [hnil, List.append_nil, trimEnd_of_endsSolid h]
  · rfl

theorem length_trimEnd_append_le (cs ds : List Char) :
    (trimEnd (cs ++ ds)).length ≤ cs.length + (trimEnd ds).length := by
  have hle := length_trimEnd_le cs
  rw [trimEnd_append]
  split
  · omega
  · rw [List.length_append]

theorem trimEnd_ne_nil {cs : List Char} {c : Char} (hc : c ∈ cs) (hsolid : isBlank c = false) :
    trimEnd cs ≠ [] := by
  intro hnil
  rw [trimEnd, dropEndWhile, List.reverse_eq_nil_iff, List.dropWhile_eq_nil_iff] at hnil
  have hblank := hnil c (List.mem_reverse.mpr hc)
  rw [hsolid] at hblank
  exact Bool.false_ne_true hblank

end Chars

namespace Text

theorem isBlank_of_isQuote {c : Char} (h : isQuote c = true) : Chars.isBlank c = false := by
  simp only [isQuote, Bool.or_eq_true, decide_eq_true_eq] at h
  rcases h with rfl | rfl <;> decide

/-- Going on with a text behind its last solid character, and without the quotes at the start of
what follows, gives the text back only if neither drops anything. -/
theorem rejoined_eq_iff {cs ds : List Char} (hds : Chars.trimEnd ds ≠ []) :
    Chars.trimEnd (Chars.trimEnd cs ++ ds.dropWhile isQuote) = Chars.trimEnd (cs ++ ds) ↔
      Chars.EndsSolid cs ∧ ∀ c, ds.head? = some c → isQuote c = false := by
  have hnone : (∀ c, ds.head? = some c → isQuote c = false) ↔ ds.takeWhile isQuote = [] := by
    cases ds with
    | nil => simp
    | cons d ds => simp [List.takeWhile_cons]
  rw [hnone]
  have hsplit := List.takeWhile_append_dropWhile (p := isQuote) (l := ds)
  have hquotes : Chars.EndsSolid (ds.takeWhile isQuote) := by
    intro c hc
    exact isBlank_of_isQuote (List.mem_takeWhile_imp (List.mem_of_getLast? hc))
  constructor
  · intro heq
    have hlength := congrArg List.length heq
    have hle := Chars.length_trimEnd_append_le (Chars.trimEnd cs) (ds.dropWhile isQuote)
    have hcs := Chars.length_trimEnd_le cs
    have hwhole : (Chars.trimEnd (cs ++ ds)).length =
        cs.length +
          ((ds.takeWhile isQuote).length + (Chars.trimEnd (ds.dropWhile isQuote)).length) := by
      rw [Chars.trimEnd_append_of_ne_nil cs hds, List.length_append]
      conv_lhs => rw [← hsplit]
      rw [Chars.trimEnd_append_of_endsSolid hquotes, List.length_append]
    constructor
    · have hkept : Chars.trimEnd cs = cs :=
        (Chars.trimEnd_isPrefix cs).eq_of_length (by omega)
      rw [← hkept]
      exact Chars.endsSolid_trimEnd cs
    · exact List.eq_nil_of_length_eq_zero (by omega)
  · rintro ⟨hsolid, hquotes⟩
    rw [hquotes, List.nil_append] at hsplit
    rw [hsplit, Chars.trimEnd_of_endsSolid hsolid]

/-- Two texts side by side have the words of both, the last one and the first one being one word. -/
theorem words_append {s t v w : String} {front back : List String} (hs : words s = front ++ [v])
    (ht : words t = w :: back) : words (s ++ t) = front ++ (v ++ w) :: back := by
  have hjoined : s ++ t = unwords (front ++ (v ++ w) :: back) := by
    rw [← unwords_words s, ← unwords_words t, hs, ht]
    cases back with
    | nil =>
      rw [unwords_concat_append]
      simp [unwords]
    | cons u back =>
      have hcons : unwords (w :: u :: back) = w ++ " " ++ unwords (u :: back) :=
        String.intercalate_cons_cons
      have happend : unwords (front ++ (v ++ w) :: u :: back) =
          unwords (front ++ [v ++ w]) ++ " " ++ unwords (u :: back) := by
        rw [List.append_cons]
        exact String.intercalate_append_of_ne_nil (by simp) (by simp)
      rw [happend, hcons, unwords_concat_append]
      simp [String.append_assoc]
  rw [hjoined]
  apply words_unwords
  · simp
  · have hfront : ∀ u ∈ front ++ [v], ' ' ∉ u.toList := fun u hu => (mem_words (hs ▸ hu)).1
    have hback : ∀ u ∈ w :: back, ' ' ∉ u.toList := fun u hu => (mem_words (ht ▸ hu)).1
    rw [List.forall_mem_append, List.forall_mem_singleton] at hfront
    rw [List.forall_mem_cons] at hback
    rw [List.forall_mem_append, List.forall_mem_cons, String.toList_append, List.mem_append, not_or]
    exact ⟨hfront.1, ⟨hfront.2, hback.1⟩, hback.2⟩

/-- A text that ends in no space has a last word. -/
theorem exists_words_concat {s : String} (hne : s ≠ "") (hends : s.toList.getLast? ≠ some ' ') :
    ∃ front last, words s = front ++ [last] ∧ last ≠ "" := by
  rcases List.eq_nil_or_concat (words s) with hnil | ⟨front, last, hwords⟩
  · exact absurd hnil (words_ne_nil s)
  · refine ⟨front, last, by simpa using hwords, ?_⟩
    rintro rfl
    rw [List.concat_eq_append] at hwords
    have htext := unwords_words s
    rw [hwords] at htext
    by_cases hfront : front = []
    · subst hfront
      exact hne (by simp [← htext, unwords])
    · rw [unwords_concat hfront] at htext
      apply hends
      rw [← htext]
      simp

theorem exists_words_cons {s : String} (hne : s ≠ "") (hstarts : s.toList.head? ≠ some ' ') :
    ∃ first back, words s = first :: back ∧ first ≠ "" := by
  rcases hwords : words s with _ | ⟨first, back⟩
  · exact absurd hwords (words_ne_nil s)
  · refine ⟨first, back, rfl, ?_⟩
    rintro rfl
    have htext := unwords_words s
    rw [hwords] at htext
    cases back with
    | nil => exact hne (by simp [← htext, unwords])
    | cons word back =>
      apply hstarts
      rw [← htext]
      simp [unwords]

theorem filled_eq_self {ws : List String} (h : ∀ w ∈ ws, w ≠ "") : filled ws = ws := by
  rw [filled, List.filter_eq_self]
  intro w hw
  simpa using h w hw

/-- A block collects all of a text that has no empty words. -/
theorem trailed_filled_words {s : String} (h : ∀ w ∈ words s, w ≠ "") :
    trailed (filled (words s)) = s ++ " " := by
  rw [filled_eq_self h, trailed_eq (words_ne_nil s), unwords_words]

theorem trimEnd_append_space (s : String) : trimEnd (s ++ " ") = trimEnd s := by
  have hspace : (" ".toList : List Char) = [' '] := by decide
  rw [trimEnd, String.toList_append, hspace, Chars.trimEnd_append_space, trimEnd]

theorem trimEnd_ne_empty {s : String} {c : Char} (hc : c ∈ s.toList)
    (hsolid : Chars.isBlank c = false) : trimEnd s ≠ "" := by
  intro hempty
  apply Chars.trimEnd_ne_nil hc hsolid
  simpa [trimEnd] using congrArg String.toList hempty

theorem trimEnd_trimEnd_append_ne_empty {s : String} (h : trimEnd s ≠ "") (t : String) :
    trimEnd (trimEnd s ++ t) ≠ "" := by
  have hsolid := Chars.endsSolid_trimEnd s.toList
  intro hempty
  have hlist := congrArg String.toList hempty
  simp only [trimEnd, String.toList_append, String.toList_ofList,
    Chars.trimEnd_append_of_endsSolid hsolid] at hlist
  apply h
  simp [trimEnd, (List.append_eq_nil_iff.mp hlist).1]

/-- Quotes are dropped from the first word alone. -/
theorem dropStartWhile_isQuote_append_space (s t : String) :
    dropStartWhile isQuote (s ++ " " ++ t) = dropStartWhile isQuote s ++ " " ++ t := by
  have hspace : isQuote ' ' = false := by decide
  apply String.toList_injective
  simp only [dropStartWhile, String.toList_ofList, String.toList_append, String.reduceToList,
    List.append_assoc, List.singleton_append, List.dropWhile_append]
  split
  · rename_i hnil
    rw [List.isEmpty_iff.mp hnil, List.nil_append, List.dropWhile_cons_of_neg (by simp [hspace])]
  · rfl

/-- Dropping the quotes of the first word drops those of the text. -/
theorem dropStartWhile_isQuote_words {s first : String} {back : List String}
    (hs : words s = first :: back) (h : ∀ w ∈ words s, w ≠ "") :
    dropStartWhile isQuote first ++ " " ++ trailed (filled back) =
      dropStartWhile isQuote s ++ " " := by
  have htext : first ++ " " ++ trailed (filled back) = s ++ " " ++ "" := by
    have hback : ∀ w ∈ back, w ≠ "" := fun w hw => h w (hs ▸ List.mem_cons_of_mem first hw)
    rw [String.append_empty, ← trailed_filled_words h, filled_eq_self h, hs, filled_eq_self hback]
    simp [trailed]
  rw [← dropStartWhile_isQuote_append_space, htext, dropStartWhile_isQuote_append_space,
    String.append_empty]

theorem dropStartWhile_isQuote_singleton {quote : Char} (h : isQuote quote = true) (s : String) :
    dropStartWhile isQuote (String.singleton quote ++ s) = dropStartWhile isQuote s := by
  simp [dropStartWhile, h]

end Text

namespace Sql

/-! ### Lines of a block -/

/-- A line of a block. -/
structure FedLine where
  words : List String
  continued : Bool

/-- What lines in a row make of an open block. The first line that closes it is the last one that
counts. -/
def feed (tokenizer : Tokenizer) (owner : String) : Nat → Block → List FedLine → BlockLine
  | _, block, [] => .goesOn block
  | line, block, fed :: rest =>
    match (block.readLine tokenizer fed.words fed.continued owner line).value with
    | .goesOn next => feed tokenizer owner (line + 1) next rest
    | .closed statement => .closed statement

theorem any_closesBlock_eq_false {words : List String} (h : ∀ w ∈ words, closesBlock w = false) :
    words.any closesBlock = false := by
  rw [List.any_eq_false]
  intro w hw
  simp [h w hw]

section

variable (tokenizer : Tokenizer) (owner : String) (line : Nat) (block : Block)

theorem feed_cons_of_goesOn {words : List String} {continued : Bool} {next : Block}
    (rest : List FedLine)
    (h : (block.readLine tokenizer words continued owner line).value = .goesOn next) :
    feed tokenizer owner line block (⟨words, continued⟩ :: rest) =
      feed tokenizer owner (line + 1) next rest := by
  rw [feed, h]

theorem feed_cons_of_closed {words : List String} {continued : Bool}
    {statement : Option Statement} (rest : List FedLine)
    (h : (block.readLine tokenizer words continued owner line).value = .closed statement) :
    feed tokenizer owner line block (⟨words, continued⟩ :: rest) = .closed statement := by
  rw [feed, h]

/-- The closing word alone ends a block with the text that it has. -/
theorem feed_closing {closing : String} (hclosing : closesBlock closing = true)
    (htext : Text.trimEnd block.text ≠ "") :
    ∃ statement, feed tokenizer owner line block [⟨[closing], false⟩] = .closed (some statement) ∧
      statement.text = Text.trimEnd block.text := by
  have hany : [closing].any closesBlock = true := by simp [hclosing]
  have hbefore : [closing].takeWhile (fun word => !closesBlock word) = [] := by simp [hclosing]
  have hread : (block.readLine tokenizer [closing] false owner line).value =
      .closed ((block.readHead [closing]).close tokenizer owner line).value := by
    unfold Block.readLine
    simp only [hany, hbefore, if_true, Bool.false_eq_true, if_false, Logged.value_bind,
      Logged.value_pure]
    rfl
  rw [feed_cons_of_closed tokenizer owner line block [] hread, Block.close_value]
  have hhead : (block.readHead [closing]).text = block.text := rfl
  rw [hhead, if_neg (by simpa using htext)]
  exact ⟨_, rfl, rfl⟩

/-- A continued line goes on behind the last solid character, without its first quotes. -/
theorem readLine_continued {word : String} {rest : List String} (hword : word ≠ "")
    (hopen : (word :: rest).any closesBlock = false) :
    ∃ next, (block.readLine tokenizer (word :: rest) true owner line).value = .goesOn next ∧
      next.text = Text.trimEnd block.text ++ (Text.dropStartWhile Text.isQuote word ++ " " ++
        Text.trailed (Text.filled rest)) := by
  refine ⟨block.addLine true (word :: rest), ?_, ?_⟩
  · unfold Block.readLine
    simp only [hopen, Bool.false_eq_true, if_false, if_true, Logged.value_pure]
    rw [← beforeEnd, beforeEnd_eq_self hopen]
  · simp only [Block.addLine, Block.foldl_addWord_text, Block.addContinued]
    rw [if_neg (by simpa using hword)]
    simp [String.append_assoc]

end

/-! ### Split literals -/

/-- A text that is split inside a quoted literal: the quote stands on both sides of the split, and
no space next to it. Nothing else is asked of the quotes, so the split may be anywhere in the
literal. -/
structure SplitLiteral where
  first : String
  rest : String
  quote : Char
  isQuote : Text.isQuote quote = true
  quote_mem_first : quote ∈ first.toList
  quote_mem_rest : quote ∈ rest.toList
  words_filled : ∀ w ∈ Text.words (first ++ rest), w ≠ "" ∧ closesBlock w = false
  first_ends : first.toList.getLast? ≠ some ' '
  rest_starts : rest.toList.head? ≠ some ' '

namespace SplitLiteral

def whole (split : SplitLiteral) : FedLine :=
  ⟨Text.words (split.first ++ split.rest), false⟩

def firstLine (split : SplitLiteral) : FedLine :=
  ⟨Text.words split.first, false⟩

/-- The text behind the split, behind a quote that opens the literal again. -/
def continuation (split : SplitLiteral) : FedLine :=
  ⟨Text.words (String.singleton split.quote ++ split.rest), true⟩

/-- The split takes nothing from the text and does not close the block. -/
structure Harmless (split : SplitLiteral) : Prop where
  no_quote : ∀ c, split.rest.toList.head? = some c → Text.isQuote c = false
  no_blank : Chars.EndsSolid split.first.toList
  no_close : (Text.words split.first).any closesBlock = false

variable (split : SplitLiteral)

/-- The split is inside a word. -/
theorem exists_words : ∃ front left right back, Text.words split.first = front ++ [left] ∧
    Text.words split.rest = right :: back ∧ left ≠ "" ∧ right ≠ "" ∧
    (∀ w ∈ front, w ≠ "" ∧ closesBlock w = false) ∧
    ∀ w ∈ back, w ≠ "" ∧ closesBlock w = false := by
  have hfirst : split.first ≠ "" := by
    intro hempty
    simpa [hempty] using split.quote_mem_first
  have hrest : split.rest ≠ "" := by
    intro hempty
    simpa [hempty] using split.quote_mem_rest
  obtain ⟨front, left, hleft, hleftNe⟩ := Text.exists_words_concat hfirst split.first_ends
  obtain ⟨right, back, hright, hrightNe⟩ := Text.exists_words_cons hrest split.rest_starts
  have hfilled := split.words_filled
  rw [Text.words_append hleft hright, List.forall_mem_append, List.forall_mem_cons] at hfilled
  exact ⟨front, left, right, back, hleft, hright, hleftNe, hrightNe, hfilled.1, hfilled.2.2⟩

theorem trimEnd_rest_ne_nil : Chars.trimEnd split.rest.toList ≠ [] :=
  Chars.trimEnd_ne_nil split.quote_mem_rest (Text.isBlank_of_isQuote split.isQuote)

/-- A literal is never trimmed to nothing, since its quote stays. -/
theorem trimEnd_ne_empty (before after : String) :
    Text.trimEnd (before ++ (split.first ++ after)) ≠ "" := by
  apply Text.trimEnd_ne_empty _ (Text.isBlank_of_isQuote split.isQuote)
  simp [split.quote_mem_first]

theorem closesBlock_quote (right : String) :
    closesBlock (String.singleton split.quote ++ right) = false := by
  have hquote := split.isQuote
  simp only [closesBlock, decide_eq_false_iff_not]
  intro hcloses
  have hlist := congrArg String.toList hcloses
  simp only [Text.isQuote, Bool.or_eq_true, decide_eq_true_eq] at hquote
  rcases hquote with hquote | hquote <;> simp [Text.without, hquote] at hlist

theorem continuation_words {right : String} {back : List String}
    (hright : Text.words split.rest = right :: back) :
    Text.words (String.singleton split.quote ++ split.rest) =
      (String.singleton split.quote ++ right) :: back := by
  have hquote : ' ' ≠ split.quote := by
    intro hspace
    exact absurd split.isQuote (by simp [← hspace, Text.isQuote])
  have hwords : Text.words (String.singleton split.quote) =
      [] ++ [String.singleton split.quote] := by
    have hword := Text.words_unwords (List.cons_ne_nil (String.singleton split.quote) [])
      (by simpa using hquote)
    simpa [Text.unwords] using hword
  exact Text.words_append hwords hright

/-! ### The three lines -/

variable (tokenizer : Tokenizer) (owner : String) (line : Nat) (block : Block) {closing : String}

/-- The statement on one line, for comparison. -/
theorem feed_whole (hclosing : closesBlock closing = true) :
    ∃ whole, feed tokenizer owner line block [split.whole, ⟨[closing], false⟩] =
        .closed (some whole) ∧
      whole.text = Text.trimEnd (block.text ++ (split.first ++ split.rest)) := by
  have hopen := any_closesBlock_eq_false fun w hw => (split.words_filled w hw).2
  obtain ⟨next, hnext, htext⟩ := block.readLine_of_open tokenizer owner line hopen
  rw [Text.trailed_filled_words fun w hw => (split.words_filled w hw).1,
    ← String.append_assoc] at htext
  have htrim : Text.trimEnd next.text =
      Text.trimEnd (block.text ++ (split.first ++ split.rest)) := by
    rw [htext, Text.trimEnd_append_space]
  rw [whole, feed_cons_of_goesOn tokenizer owner line block _ hnext, ← htrim]
  apply feed_closing tokenizer owner (line + 1) next hclosing
  rw [htrim]
  exact split.trimEnd_ne_empty block.text split.rest

/-- The first of the two lines leaves the block open with its own words. -/
theorem readLine_first (hopen : (Text.words split.first).any closesBlock = false) :
    ∃ next, (block.readLine tokenizer (Text.words split.first) false owner line).value =
        .goesOn next ∧
      next.text = block.text ++ split.first ++ " " := by
  obtain ⟨front, left, _, _, hleft, _, hleftNe, _, hfront, _⟩ := split.exists_words
  have hwords : ∀ w ∈ Text.words split.first, w ≠ "" := by
    rw [hleft, List.forall_mem_append, List.forall_mem_singleton]
    exact ⟨fun w hw => (hfront w hw).1, hleftNe⟩
  obtain ⟨next, hnext, htext⟩ := block.readLine_of_open tokenizer owner line hopen
  rw [Text.trailed_filled_words hwords, ← String.append_assoc] at htext
  exact ⟨next, hnext, htext⟩

/-- The continuation never closes the block, and its quote goes with those that follow it. -/
theorem readLine_continuation :
    ∃ next, (block.readLine tokenizer (Text.words (String.singleton split.quote ++ split.rest))
        true owner line).value = .goesOn next ∧
      next.text =
        Text.trimEnd block.text ++ Text.dropStartWhile Text.isQuote split.rest ++ " " := by
  obtain ⟨_, _, right, back, _, hright, _, hrightNe, _, hback⟩ := split.exists_words
  have hopen : ((String.singleton split.quote ++ right) :: back).any closesBlock = false := by
    apply any_closesBlock_eq_false
    rw [List.forall_mem_cons]
    exact ⟨split.closesBlock_quote right, fun w hw => (hback w hw).2⟩
  have hwords : ∀ w ∈ Text.words split.rest, w ≠ "" := by
    rw [hright, List.forall_mem_cons]
    exact ⟨hrightNe, fun w hw => (hback w hw).1⟩
  obtain ⟨next, hnext, htext⟩ := readLine_continued tokenizer owner line block (by simp) hopen
  rw [Text.dropStartWhile_isQuote_singleton split.isQuote,
    Text.dropStartWhile_isQuote_words hright hwords, ← String.append_assoc] at htext
  rw [split.continuation_words hright]
  exact ⟨next, hnext, htext⟩

/-- The statement on two lines: the end of the first one is trimmed and the quotes that start the
second one are dropped. -/
theorem feed_joined (hclosing : closesBlock closing = true)
    (hopen : (Text.words split.first).any closesBlock = false) :
    ∃ joined, feed tokenizer owner line block
        [split.firstLine, split.continuation, ⟨[closing], false⟩] = .closed (some joined) ∧
      joined.text = Text.trimEnd (Text.trimEnd (block.text ++ split.first) ++
        Text.dropStartWhile Text.isQuote split.rest) := by
  obtain ⟨opened, hopened, hopenedText⟩ := split.readLine_first tokenizer owner line block hopen
  obtain ⟨joined, hjoined, hjoinedText⟩ :=
    split.readLine_continuation tokenizer owner (line + 1) opened
  rw [hopenedText, Text.trimEnd_append_space] at hjoinedText
  have htrim := congrArg Text.trimEnd hjoinedText
  rw [Text.trimEnd_append_space] at htrim
  rw [firstLine, continuation, feed_cons_of_goesOn tokenizer owner line block _ hopened,
    feed_cons_of_goesOn tokenizer owner (line + 1) opened _ hjoined, ← htrim]
  apply feed_closing tokenizer owner (line + 1 + 1) joined hclosing
  rw [htrim]
  apply Text.trimEnd_trimEnd_append_ne_empty
  simpa using split.trimEnd_ne_empty block.text ""

/-- Only the last word of the first part can close the block, so what is read of the first part is
what stands in front of that word. -/
theorem trailed_beforeEnd (hclose : (Text.words split.first).any closesBlock = true) :
    ∃ left, Text.trailed (Text.filled (beforeEnd (Text.words split.first))) ++ left =
      split.first := by
  obtain ⟨front, left, _, _, hleft, _, _, _, hfront, _⟩ := split.exists_words
  have hlast : closesBlock left = true := by
    simpa [hleft, List.any_append, any_closesBlock_eq_false fun w hw => (hfront w hw).2]
      using hclose
  have hbefore : beforeEnd (front ++ [left]) = front := by
    rw [beforeEnd, List.takeWhile_append_of_pos fun w hw => by simp [(hfront w hw).2]]
    simp [hlast]
  refine ⟨left, ?_⟩
  rw [hleft, hbefore, Text.filled_eq_self fun w hw => (hfront w hw).1,
    ← Text.unwords_words split.first, hleft]
  by_cases hnil : front = []
  · simp [hnil, Text.unwords]
  · rw [Text.unwords_concat hnil, Text.trailed_eq hnil]

theorem text_ne_of_closed (hclose : (Text.words split.first).any closesBlock = true)
    (rest : List FedLine) {joined : Statement}
    (h : feed tokenizer owner line block (split.firstLine :: rest) = .closed (some joined)) :
    joined.text ≠ Text.trimEnd (block.text ++ (split.first ++ split.rest)) := by
  obtain ⟨statement, hread, htext⟩ := block.readLine_of_close tokenizer owner line hclose
  rw [firstLine, feed_cons_of_closed tokenizer owner line block rest hread,
    BlockLine.closed.injEq] at h
  rw [(htext joined h).2]
  obtain ⟨left, hleft⟩ := split.trailed_beforeEnd hclose
  -- the closing quote is part of the text and stands behind all that was read
  intro heq
  have hlength := congrArg (fun s => s.toList.length) heq
  have hread := Chars.length_trimEnd_le
    (block.text ++ Text.trailed (Text.filled (beforeEnd (Text.words split.first)))).toList
  have hpositive := List.length_pos_iff.mpr split.trimEnd_rest_ne_nil
  have hfirst := congrArg (fun s => s.toList.length) hleft
  simp only [Text.trimEnd, String.toList_append, String.toList_ofList, ← List.append_assoc,
    Chars.trimEnd_append_of_ne_nil _ split.trimEnd_rest_ne_nil, List.length_append]
    at hlength hread hfirst
  omega

/-- The two texts agree when nothing was trimmed and no quote was dropped that is part of the
literal. -/
theorem rejoined_text_eq_iff (before : String) :
    Text.trimEnd (Text.trimEnd (before ++ split.first) ++
        Text.dropStartWhile Text.isQuote split.rest) =
        Text.trimEnd (before ++ (split.first ++ split.rest)) ↔
      Chars.EndsSolid split.first.toList ∧
        ∀ c, split.rest.toList.head? = some c → Text.isQuote c = false := by
  have hfirst : split.first.toList ≠ [] := List.ne_nil_of_mem split.quote_mem_first
  rw [← Chars.endsSolid_append before.toList hfirst,
    ← Text.rejoined_eq_iff split.trimEnd_rest_ne_nil, ← String.toList_inj]
  simp [Text.trimEnd, Text.dropStartWhile]

end SplitLiteral

/-- **Split literals.** The text on one line makes a statement of what the block had and the text.
The text over two lines, the second one continued behind a quote of its own, makes a statement with
the same text exactly if the rest starts with no quote, the first part ends in no blank and does not
close the block: every quote at the start of the continuation is dropped, and not only its own. -/
theorem feed_split_text_iff (tokenizer : Tokenizer) (owner : String) (line : Nat) (block : Block)
    (split : SplitLiteral) {closing : String} (hclosing : closesBlock closing = true) :
    ∃ whole, feed tokenizer owner line block [split.whole, ⟨[closing], false⟩] =
        .closed (some whole) ∧
      whole.text = Text.trimEnd (block.text ++ (split.first ++ split.rest)) ∧
      ((∃ joined, feed tokenizer owner line block
          [split.firstLine, split.continuation, ⟨[closing], false⟩] = .closed (some joined) ∧
          joined.text = whole.text) ↔ split.Harmless) ∧
      ((Text.words split.first).any closesBlock = false →
        ∃ joined, feed tokenizer owner line block
          [split.firstLine, split.continuation, ⟨[closing], false⟩] = .closed (some joined) ∧
          joined.text = Text.trimEnd (Text.trimEnd (block.text ++ split.first) ++
            Text.dropStartWhile Text.isQuote split.rest)) := by
  obtain ⟨whole, hwhole, hwholeText⟩ := split.feed_whole tokenizer owner line block hclosing
  refine ⟨whole, hwhole, hwholeText, ?_, split.feed_joined tokenizer owner line block hclosing⟩
  rw [hwholeText]
  cases hclose : (Text.words split.first).any closesBlock with
  | true =>
    constructor
    · rintro ⟨joined, hjoined, htext⟩
      exact absurd htext (split.text_ne_of_closed tokenizer owner line block hclose _ hjoined)
    · intro hharmless
      rw [hharmless.no_close] at hclose
      exact absurd hclose Bool.false_ne_true
  | false =>
    obtain ⟨joined, hjoined, htext⟩ := split.feed_joined tokenizer owner line block hclosing hclose
    rw [hjoined]
    constructor
    · rintro ⟨other, hother, hsame⟩
      cases hother
      obtain ⟨hblank, hquote⟩ := (split.rejoined_text_eq_iff block.text).mp (htext.symm.trans hsame)
      exact ⟨hquote, hblank, hclose⟩
    · intro hharmless
      refine ⟨joined, rfl, htext.trans ?_⟩
      exact (split.rejoined_text_eq_iff block.text).mpr ⟨hharmless.no_blank, hharmless.no_quote⟩

/-- The split is in the middle of a name, behind a line of the same statement. -/
def splitName : SplitLiteral where
  first := "WHERE NM = 'ABCDEFG"
  rest := "HIJ' AND ID = 1"
  quote := '\''
  isQuote := by decide
  quote_mem_first := by decide
  quote_mem_rest := by decide
  words_filled := by decide +kernel
  first_ends := by decide
  rest_starts := by decide

theorem splitName_text_joined :
    closesBlock "END-EXEC." = true ∧ splitName.Harmless ∧
      ∃ joined, feed tokenize "MAIN" 4
          { text := "SELECT ID FROM CUSTOMER ", operation := .read, division := .procedure }
          [splitName.firstLine, splitName.continuation, ⟨["END-EXEC."], false⟩] =
            .closed (some joined) ∧
        joined.text = "SELECT ID FROM CUSTOMER WHERE NM = 'ABCDEFGHIJ' AND ID = 1" := by
  have hclosing : closesBlock "END-EXEC." = true := by decide +kernel
  have hharmless : splitName.Harmless := by
    refine ⟨?_, ?_, by decide +kernel⟩
    · intro c hc
      have hH : splitName.rest.toList.head? = some 'H' := by decide
      rw [← Option.some.inj (hH.symm.trans hc)]
      decide
    · intro c hc
      have hG : splitName.first.toList.getLast? = some 'G' := by decide
      rw [← Option.some.inj (hG.symm.trans hc)]
      decide
  obtain ⟨whole, _, hwhole, hsame, _⟩ := feed_split_text_iff tokenize "MAIN" 4
    { text := "SELECT ID FROM CUSTOMER ", operation := .read, division := .procedure } splitName
    hclosing
  obtain ⟨joined, hjoined, htext⟩ := hsame.mpr hharmless
  refine ⟨hclosing, hharmless, joined, hjoined, ?_⟩
  rw [htext, hwhole]
  decide +kernel

/-- The split is in front of the doubled quote of one literal. -/
def splitDoubledQuote : SplitLiteral where
  first := "DELETE FROM CUSTOMER WHERE NM = 'O"
  rest := "''NEIL'"
  quote := '\''
  isQuote := by decide
  quote_mem_first := by decide
  quote_mem_rest := by decide
  words_filled := by decide +kernel
  first_ends := by decide
  rest_starts := by decide

theorem splitDoubledQuote_loses_quotes :
    (Lexeme.scan "DELETE FROM CUSTOMER WHERE NM = 'O''NEIL'".toList =
        .ok [.word "DELETE" false, .word "FROM" false, .word "CUSTOMER" false, .word "WHERE" false,
          .word "NM" false, .symbol "=", .literal "'" "O'NEIL" "'"]) ∧
      feed tokenize "MAIN" 1 { division := .procedure }
          [splitDoubledQuote.whole, ⟨["END-EXEC"], false⟩] =
        .closed (some ⟨"DELETE FROM CUSTOMER WHERE NM = 'O''NEIL'", .delete, .procedure, "MAIN",
          none, ["CUSTOMER"], 2⟩) ∧
      feed tokenize "MAIN" 1 { division := .procedure }
          [splitDoubledQuote.firstLine, splitDoubledQuote.continuation, ⟨["END-EXEC"], false⟩] =
        .closed (some ⟨"DELETE FROM CUSTOMER WHERE NM = 'ONEIL'", .delete, .procedure, "MAIN",
          none, ["CUSTOMER"], 3⟩) := by
  refine ⟨?_, ?_, ?_⟩
  · decide +kernel
  · decide +kernel
  · decide +kernel

end Sql

end CobolAtlas
