import CobolAtlas.Conditions
import CobolAtlas.Sql.Block

/-!
# Words by their places

Lines of SQL blocks and of conditions are read by patterns of words. Here they are read by places
instead: a word is taken at its place, the words behind a place or in front of it are cut off, and
each of these may fail where there are too few words. The tests in front of an access are those of
the reading by patterns, and they suffice: the accesses never fail and the results are the same
(`Sql.fetchedCursorAt?_eq`, `Sql.Block.readLine?_eq`, `Conditions.readAt?_eq`).
-/

namespace CobolAtlas

/-! ### Accesses that may fail -/

/-- The words from a place on. -/
def wordsFrom? (words : List String) (i : Nat) : Option (List String) :=
  if i ≤ words.length then some (words.drop i) else none

/-- The words in front of a place. -/
def wordsUpTo? (words : List String) (i : Nat) : Option (List String) :=
  if i ≤ words.length then some (words.take i) else none

/-- A difference that is no negative number. -/
def minus? (m n : Nat) : Option Nat :=
  if n ≤ m then some (m - n) else none

theorem wordsFrom?_one {words : List String} (h : words ≠ []) :
    wordsFrom? words 1 = some words.tail := by
  have hlength : 1 ≤ words.length := List.length_pos_iff.mpr h
  rw [wordsFrom?, if_pos hlength, List.drop_one]

theorem minus?_succ (n : Nat) : minus? (n + 1) 1 = some n := by
  rw [minus?, if_pos (Nat.le_add_left 1 n), Nat.add_sub_cancel]

theorem ne_nil_of_head {words : List String} {word : String} (h : Text.head words = word)
    (hword : word ≠ "") : words ≠ [] := by
  rintro rfl
  exact hword h.symm

/-! ### Lines of blocks -/

namespace Sql

/-- The cursor that a line fetches, by the places of its words. -/
def fetchedCursorAt? (words : List String) : Option (Option String) := do
  if 1 < words.length then
    let first ← words[0]?
    if first = "FETCH" then
      let cursor ← words[1]?
      return some (Text.dropEndWhile (· = '.') cursor)
  return none

/-- The cursor of a fetch is taken only where there are enough words. -/
theorem fetchedCursorAt?_eq (words : List String) :
    fetchedCursorAt? words = some (fetchedCursor? words) := by
  rcases words with _ | ⟨first, _ | ⟨cursor, rest⟩⟩
  · rfl
  · simp [fetchedCursorAt?, fetchedCursor?]
  · by_cases hfetch : first = "FETCH"
    · simp [fetchedCursorAt?, fetchedCursor?, hfetch]
    · simp [fetchedCursorAt?, fetchedCursor?, hfetch]

/-- The words of a line in front of the one that closes the block. -/
def bodyOfLine? (words : List String) : Option (List String) :=
  match words.findIdx? closesBlock with
  | some i => wordsUpTo? words i
  | none => some words

/-- The words in front of the end word are taken at a place that exists. -/
theorem bodyOfLine?_eq (words : List String) :
    bodyOfLine? words = some (words.takeWhile (fun word => !closesBlock word)) := by
  unfold bodyOfLine?
  rw [List.takeWhile_eq_take_findIdx_not]
  simp only [Bool.not_not]
  split
  · rename_i i hi
    obtain ⟨hlt, rfl⟩ := List.findIdx?_eq_some_iff_findIdx_eq.mp hi
    rw [wordsUpTo?, if_pos (Nat.le_of_lt hlt)]
  · rename_i hnone
    rw [List.findIdx?_eq_none_iff_findIdx_eq.mp hnone, List.take_length]

namespace Block

/-- What the first words of a line say about a block, by their places. -/
def readHead? (block : Block) (words : List String) : Option Block := do
  let cursor ←
    (if block.division = .data ∧ Text.head words = "DECLARE" ∧ 1 < words.length then
      (words[1]?).map some
    else some block.cursor)
  return { block with
    cursor := cursor
    operation := block.operation.orElse (.ofVerb (Text.head words)) }

theorem readHead?_eq (block : Block) (words : List String) :
    block.readHead? words = some (block.readHead words) := by
  rcases words with _ | ⟨first, _ | ⟨cursor, rest⟩⟩
  · simp [readHead?, readHead]
  · simp [readHead?, readHead]
  · by_cases hdeclare : first = "DECLARE"
    · by_cases hdata : block.division = .data
      · simp [readHead?, readHead, hdeclare, hdata, Text.head]
      · simp [readHead?, readHead, hdeclare, hdata, Text.head]
    · simp [readHead?, readHead, hdeclare, Text.head]

/-- Reads one line of a block by the places of its words. -/
def readLine? (tokenizer : Tokenizer) (block : Block) (words : List String) (continued : Bool)
    (owner : String) (line : Nat) : Option BlockLine := do
  let headed ← (if continued then some block else block.readHead? words)
  let filled := headed.addLine continued (← bodyOfLine? words)
  if words.any closesBlock then return .closed (filled.close tokenizer owner line).value
  return .goesOn filled

theorem readLine?_eq (tokenizer : Tokenizer) (block : Block) (words : List String)
    (continued : Bool) (owner : String) (line : Nat) :
    block.readLine? tokenizer words continued owner line =
      some (block.readLine tokenizer words continued owner line).value := by
  have hhead : (if continued then some block else block.readHead? words) =
      some (if continued then block else block.readHead words) := by
    rw [readHead?_eq]
    split <;> rfl
  unfold readLine? readLine
  rw [hhead, bodyOfLine?_eq]
  by_cases hcloses : words.any closesBlock = true
  · simp [hcloses]
  · simp [hcloses]

end Block

end Sql

/-! ### Lines of conditions -/

namespace Conditions

def readIfAt? (conditions : Conditions) (words : List String) : Option (Option Conditions) := do
  if Text.head words = "IF" then
    return some (conditions.openIf.readCondition [] words (← wordsFrom? words 1))
  return conditions.readIf? words

def readEvaluateAt? (conditions : Conditions) (words : List String) (previous : Option String) :
    Option (Option Conditions) := do
  if Text.head words = "EVALUATE" then
    let evaluation : Evaluation := { subject := Text.unwords (← wordsFrom? words 1) }
    return some { conditions with evaluations := evaluation :: conditions.evaluations }
  return conditions.readEvaluate? words previous

/-- The conditions after a line, by the places of its words. -/
def readAt? (conditions : Conditions) (words : List String) (previous : Option String) :
    Option Conditions := do
  match ← conditions.readIfAt? words with
  | some after => return after
  | none => return (← conditions.readEvaluateAt? words previous).getD conditions

theorem readIfAt?_eq (conditions : Conditions) (words : List String) :
    conditions.readIfAt? words = some (conditions.readIf? words) := by
  unfold readIfAt?
  by_cases hif : Text.head words = "IF"
  · rw [wordsFrom?_one (ne_nil_of_head hif (by decide))]
    simp [hif, readIf?]
  · simp [hif]

theorem readEvaluateAt?_eq (conditions : Conditions) (words : List String)
    (previous : Option String) :
    conditions.readEvaluateAt? words previous = some (conditions.readEvaluate? words previous) := by
  unfold readEvaluateAt?
  by_cases hevaluate : Text.head words = "EVALUATE"
  · rw [wordsFrom?_one (ne_nil_of_head hevaluate (by decide))]
    simp [hevaluate, readEvaluate?]
  · simp [hevaluate]

/-- No access to the words of a condition line can fail. -/
theorem readAt?_eq (conditions : Conditions) (words : List String) (previous : Option String) :
    conditions.readAt? words previous = some (conditions.read words previous) := by
  unfold readAt? read read?
  rw [readIfAt?_eq, readEvaluateAt?_eq]
  rcases conditions.readIf? words with _ | after <;> rfl

end Conditions

end CobolAtlas
