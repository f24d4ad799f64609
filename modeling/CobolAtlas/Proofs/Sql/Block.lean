import CobolAtlas.Sql.Block

/-!
# Lines of an SQL block

Whatever a line of a block holds, the block keeps its division, and the statement of a block that
closes has the division of the block, the section and the line at which it closes.
-/

namespace CobolAtlas.Sql.Block

@[simp] theorem readHead_division (block : Block) (words : List String) :
    (block.readHead words).division = block.division := rfl

@[simp] theorem addWord_division (block : Block) (word : String) :
    (block.addWord word).division = block.division := by
  unfold addWord
  split <;> rfl

@[simp] theorem addContinued_division (block : Block) (word : String) :
    (block.addContinued word).division = block.division := by
  unfold addContinued
  split <;> rfl

@[simp] theorem foldl_addWord_division (block : Block) (words : List String) :
    (words.foldl addWord block).division = block.division := by
  induction words generalizing block with
  | nil => rfl
  | cons word rest ih => rw [List.foldl_cons, ih, addWord_division]

@[simp] theorem addLine_division (block : Block) (continued : Bool) (words : List String) :
    (block.addLine continued words).division = block.division := by
  unfold addLine
  split
  · rw [foldl_addWord_division, addContinued_division]
  · exact foldl_addWord_division block words

/-- The statement of a block that closes says where it does. -/
theorem close_some {tokenizer : Tokenizer} {block : Block} {owner : String} {line : Nat}
    {statement : Statement} (h : (block.close tokenizer owner line).value = some statement) :
    statement.division = block.division ∧ statement.owner = owner ∧ statement.line = line := by
  unfold close at h
  by_cases hempty : (Text.trimEnd block.text).isEmpty = true
  · simp [hempty] at h
  · simp only [hempty, Bool.false_eq_true, if_false, Logged.value_bind, Logged.value_pure,
      Option.some.injEq] at h
    subst h
    exact ⟨rfl, rfl, rfl⟩

section

variable {tokenizer : Tokenizer} {block : Block} {words : List String} {continued : Bool}
  {owner : String} {line : Nat}

theorem readLine_goesOn {next : Block}
    (h : (block.readLine tokenizer words continued owner line).value = .goesOn next) :
    next.division = block.division := by
  unfold readLine at h
  by_cases hcloses : words.any closesBlock = true
  · simp [hcloses] at h
  · simp only [hcloses, Bool.false_eq_true, if_false, Logged.value_pure, BlockLine.goesOn.injEq]
      at h
    subst h
    rw [addLine_division]
    split
    · rfl
    · exact readHead_division block words

/-- A finished statement has the division of its block and the owner and line of its end. -/
theorem readLine_closed {statement : Statement}
    (h : (block.readLine tokenizer words continued owner line).value = .closed (some statement)) :
    statement.division = block.division ∧ statement.owner = owner ∧ statement.line = line := by
  unfold readLine at h
  by_cases hcloses : words.any closesBlock = true
  · simp only [hcloses, if_true, Logged.value_bind, Logged.value_pure, BlockLine.closed.injEq] at h
    obtain ⟨hdivision, howner, hline⟩ := close_some h
    refine ⟨?_, howner, hline⟩
    rw [hdivision, addLine_division]
    split
    · rfl
    · exact readHead_division block words
  · simp [hcloses] at h

end

end CobolAtlas.Sql.Block
