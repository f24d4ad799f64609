import CobolAtlas.Chars.Alphabetic
import CobolAtlas.Chars.Numeric
import CobolAtlas.Sql.Lexeme.Number
import CobolAtlas.Sql.Lexeme.Quoted

/-!
# The lexemes of a text

`Lexeme.scan` cuts an SQL text into its lexemes. One step looks at the next character and takes a
lexeme, a blank or a comment; what it leaves is shorter (`step_length`), so the steps come to an
end. The first fault rejects the whole text.
-/

namespace CobolAtlas.Sql.Lexeme

/-! ### Words -/

def isWordStart (c : Char) : Bool :=
  Chars.isAlphabetic c || c = '_'

def isWordPart (c : Char) : Bool :=
  Chars.isAlphabetic c || c.isDigit || c = '@' || c = '$' || c = '#' || c = '_'

def wordFrom (start cs : List Char) : Lexeme × List Char :=
  (.word (String.ofList (start ++ cs.takeWhile isWordPart)) false, cs.dropWhile isWordPart)

/-- A word behind a sigil. The character behind the sigil belongs to the word whatever it is; a
sigil at the end or in front of a character of `stops` stands alone. -/
def sigilFrom (sigil stops : List Char) : List Char → Lexeme × List Char
  | [] => (.symbol (String.ofList sigil), [])
  | c :: cs =>
    if stops.contains c then (.symbol (String.ofList sigil), c :: cs)
    else wordFrom (sigil ++ [c]) cs

def atFrom : List Char → Lexeme × List Char
  | '@' :: cs => sigilFrom ['@', '@'] [' '] cs
  | cs => sigilFrom ['@'] [' ', '\'', '"', '\x60'] cs

theorem wordFrom_length (start cs : List Char) : (wordFrom start cs).2.length ≤ cs.length :=
  (List.dropWhile_suffix (l := cs) isWordPart).length_le

theorem sigilFrom_length (sigil stops cs : List Char) :
    (sigilFrom sigil stops cs).2.length ≤ cs.length := by
  unfold sigilFrom
  split
  · simp
  · rename_i c cs
    split
    · simp
    · have := wordFrom_length (sigil ++ [c]) cs
      simp only [List.length_cons]; omega

theorem atFrom_length (cs : List Char) : (atFrom cs).2.length ≤ cs.length := by
  unfold atFrom
  split
  · have := sigilFrom_length ['@', '@'] [' '] (by assumption)
    simp only [List.length_cons]; omega
  · exact sigilFrom_length _ _ _

/-! ### Literals -/

def taken (found : Lexeme × List Char) : LexStep :=
  .ok (some found.1, found.2)

/-- A literal of a content that was read up to its closing mark, or the fault of an open one. -/
def literalStep (opening closing : String) (fault : LexFault) :
    Option (List Char × List Char) → LexStep
  | some body => .ok (some (.literal opening (String.ofList body.1) closing), body.2)
  | none => .error fault

def quotedStep (mark : String) (escapes : Bool) (quote : Char) (cs : List Char) : LexStep :=
  literalStep (mark ++ String.singleton quote) (String.singleton quote)
    ⟨.openString, quote :: cs⟩ (body? escapes quote cs)

/-- A raw literal behind its first quote: three quotes open a content that three quotes close, and
two quotes are an empty literal. -/
def rawStep (quote : Char) (cs : List Char) : LexStep :=
  let one := String.singleton quote
  match cs with
  | a :: b :: rest =>
    if a = quote then
      if b = quote then
        literalStep ("R" ++ one ++ one ++ one) (one ++ one ++ one) ⟨.openString, rest⟩
          (tripleBody? quote rest)
      else .ok (some (.literal ("R" ++ one) "" one), b :: rest)
    else literalStep ("R" ++ one) one ⟨.openString, cs⟩ (body? false quote cs)
  | [a] =>
    if a = quote then .ok (some (.literal ("R" ++ one) "" one), [])
    else .error ⟨.openString, cs⟩
  | [] => .error ⟨.openString, []⟩

def quotedWordStep (quote : Char) (cs : List Char) : LexStep :=
  match body? false quote cs with
  | some body => .ok (some (.word (String.ofList body.1) true), body.2)
  | none => .error ⟨.openQuotedWord quote, quote :: cs⟩

def unicodeStep (cs : List Char) : LexStep :=
  match unicodeBody cs with
  | .ok body => .ok (some (.literal "U&'" (String.ofList body.1) "'"), body.2)
  | .error fault => .error fault

/-- A literal that a letter marks, if the letter is such a mark. -/
def markedStep? (c : Char) (cs : List Char) : Option LexStep :=
  match c.toUpper, cs with
  | 'B', '\'' :: rest => some (quotedStep "B" false '\'' rest)
  | 'B', '"' :: rest => some (quotedStep "B" false '"' rest)
  | 'R', '\'' :: rest => some (rawStep '\'' rest)
  | 'R', '"' :: rest => some (rawStep '"' rest)
  | 'N', '\'' :: rest => some (quotedStep "N" false '\'' rest)
  | 'X', '\'' :: rest => some (quotedStep "X" true '\'' rest)
  | 'E', '\'' :: rest =>
    some (literalStep "E'" "'" ⟨.openEscapeString, c :: cs⟩ (escapeBody? rest))
  | 'U', '&' :: '\'' :: rest => some (unicodeStep rest)
  | _, _ => none

/-! ### Parameters and dollar literals -/

/-- What follows a dollar: a literal between two dollars or between two tags, or a parameter. -/
def dollarStep : List Char → LexStep
  | '$' :: rest => literalStep "$$" "$$" ⟨.openDollarString, []⟩ (bodyUntil? ['$', '$'] rest)
  | cs =>
    let isTag := fun c => Chars.isAlphabetic c || Chars.isNumeric c || c = '_'
    let tag := cs.takeWhile isTag
    match cs.dropWhile isTag with
    | '$' :: rest =>
      let mark := '$' :: tag ++ ['$']
      literalStep (String.ofList mark) (String.ofList mark) ⟨.openTaggedString, []⟩
        (bodyUntil? mark rest)
    | rest => .ok (some (.placeholder (String.ofList ('$' :: tag))), rest)

/-! ### One step -/

def afterLineComment (cs : List Char) : List Char :=
  (cs.dropWhile (· ≠ '\n')).drop 1

def commentStep (cs : List Char) : LexStep :=
  match afterComment? 0 cs with
  | some rest => .ok (none, rest)
  | none => .error ⟨.openComment, []⟩

/-- A character that is neither a mark of a literal nor the start of a comment. -/
def plainStep (c : Char) (cs : List Char) : LexStep :=
  match symbol? c cs with
  | some found => taken found
  | none =>
    if c = '#' then taken (sigilFrom ['#'] [' '] cs)
    else if c = '@' then taken (atFrom cs)
    else if c = '?' then
      .ok (some (.placeholder (String.ofList ('?' :: cs.takeWhile Chars.isNumeric))),
        cs.dropWhile Chars.isNumeric)
    else if isWordStart c then taken (wordFrom [c] cs)
    else if c = '$' then dollarStep cs
    else if Chars.isBlank c then .ok (none, cs)
    else .ok (some (.symbol (String.singleton c)), cs)

/-- Takes the lexeme, blank or comment that starts with `c`. -/
def step (c : Char) (cs : List Char) : LexStep :=
  match markedStep? c cs with
  | some marked => marked
  | none =>
    match c, cs with
    | '\'', _ => quotedStep "" false '\'' cs
    | '"', _ => quotedWordStep '"' cs
    | '\x60', _ => quotedWordStep '\x60' cs
    | '-', '-' :: rest => .ok (none, afterLineComment rest)
    | '/', '*' :: rest => commentStep rest
    | _, _ => if c.isDigit || c = '.' then taken (numberFrom c cs) else plainStep c cs

/-! ### Every step shortens the text -/

/-- A step leaves no more than `limit` characters. -/
def Within (limit : Nat) (outcome : LexStep) : Prop :=
  ∀ found, outcome = .ok found → found.2.length ≤ limit

theorem Within.error {limit : Nat} (fault : LexFault) : Within limit (.error fault) := by
  intro found h
  cases h

theorem Within.ok {limit : Nat} {found : Option Lexeme × List Char}
    (h : found.2.length ≤ limit) : Within limit (.ok found) := by
  intro found' h'
  cases h'
  exact h

theorem Within.mono {limit limit' : Nat} {outcome : LexStep} (h : Within limit outcome)
    (hl : limit ≤ limit') : Within limit' outcome :=
  fun found hf => Nat.le_trans (h found hf) hl

theorem taken_within {limit : Nat} {found : Lexeme × List Char} (h : found.2.length ≤ limit) :
    Within limit (taken found) :=
  Within.ok h

theorem literalStep_within {limit : Nat} {opening closing : String} {fault : LexFault}
    {body : Option (List Char × List Char)} (h : ∀ b, body = some b → b.2.length ≤ limit) :
    Within limit (literalStep opening closing fault body) := by
  unfold literalStep
  split
  · exact Within.ok (h _ rfl)
  · exact Within.error _

theorem quotedStep_within (mark : String) (escapes : Bool) (quote : Char) (cs : List Char) :
    Within cs.length (quotedStep mark escapes quote cs) :=
  literalStep_within fun _ h => body?_length h

theorem rawStep_within (quote : Char) (cs : List Char) : Within cs.length (rawStep quote cs) := by
  unfold rawStep
  dsimp only
  split
  · split
    · split
      · refine (literalStep_within fun _ h => tripleBody?_length h).mono ?_
        simp only [List.length_cons]; omega
      · exact Within.ok (by simp)
    · exact literalStep_within fun _ h => body?_length h
  · split
    · exact Within.ok (by simp)
    · exact Within.error _
  · exact Within.error _

theorem quotedWordStep_within (quote : Char) (cs : List Char) :
    Within cs.length (quotedWordStep quote cs) := by
  unfold quotedWordStep
  split
  · rename_i h; exact Within.ok (body?_length h)
  · exact Within.error _

theorem unicodeStep_within (cs : List Char) : Within cs.length (unicodeStep cs) := by
  unfold unicodeStep
  split
  · rename_i h; exact Within.ok (unicodeBody_length h)
  · exact Within.error _

theorem markedStep?_within {c : Char} {cs : List Char} {outcome : LexStep}
    (h : markedStep? c cs = some outcome) : Within cs.length outcome := by
  unfold markedStep? at h
  split at h
  · cases h; exact (quotedStep_within _ _ _ _).mono (by simp)
  · cases h; exact (quotedStep_within _ _ _ _).mono (by simp)
  · cases h; exact (rawStep_within _ _).mono (by simp)
  · cases h; exact (rawStep_within _ _).mono (by simp)
  · cases h; exact (quotedStep_within _ _ _ _).mono (by simp)
  · cases h; exact (quotedStep_within _ _ _ _).mono (by simp)
  · cases h; exact (literalStep_within fun _ hb => escapeBody?_length hb).mono (by simp)
  · cases h; exact (unicodeStep_within _).mono (by simp only [List.length_cons]; omega)
  · simp at h

theorem dollarStep_within (cs : List Char) : Within cs.length (dollarStep cs) := by
  unfold dollarStep
  split
  · exact (literalStep_within fun _ h => bodyUntil?_length h).mono (by simp)
  · dsimp only
    split
    · rename_i rest hr
      have hd := (List.dropWhile_suffix (l := cs)
        (fun c => Chars.isAlphabetic c || Chars.isNumeric c || c = '_')).length_le
      rw [hr, List.length_cons] at hd
      exact (literalStep_within fun _ h => bodyUntil?_length h).mono (by omega)
    · exact Within.ok (List.dropWhile_suffix (l := cs) _).length_le

theorem commentStep_within (cs : List Char) : Within cs.length (commentStep cs) := by
  unfold commentStep
  split
  · rename_i h; exact Within.ok (afterComment?_length h)
  · exact Within.error _

theorem plainStep_within (c : Char) (cs : List Char) : Within cs.length (plainStep c cs) := by
  unfold plainStep
  split
  · rename_i h; exact taken_within (symbol?_length h)
  · split
    · exact taken_within (sigilFrom_length _ _ _)
    · split
      · exact taken_within (atFrom_length _)
      · split
        · exact Within.ok (List.dropWhile_suffix (l := cs) _).length_le
        · split
          · exact taken_within (wordFrom_length _ _)
          · split
            · exact dollarStep_within cs
            · split <;> exact Within.ok (Nat.le_refl _)

theorem afterLineComment_length (cs : List Char) :
    (afterLineComment cs).length ≤ cs.length := by
  have := (List.dropWhile_suffix (l := cs) (· ≠ '\n')).length_le
  simp only [afterLineComment, List.length_drop]
  omega

theorem step_within (c : Char) (cs : List Char) : Within cs.length (step c cs) := by
  unfold step
  split
  · rename_i h; exact markedStep?_within h
  · split
    · exact quotedStep_within _ _ _ _
    · exact quotedWordStep_within _ _
    · exact quotedWordStep_within _ _
    · rename_i rest _
      have := afterLineComment_length rest
      exact Within.ok (by simp only [List.length_cons]; omega)
    · exact (commentStep_within _).mono (by simp)
    · split
      · exact taken_within (numberFrom_length _ _)
      · exact plainStep_within _ _

theorem step_length {c : Char} {cs : List Char} {found : Option Lexeme × List Char}
    (h : step c cs = .ok found) : found.2.length < (c :: cs).length := by
  have := step_within c cs found h
  simp only [List.length_cons]; omega

/-! ### All lexemes -/

/-- The lexemes of a text, or the first fault in it. -/
def scan (cs : List Char) : Except LexFault (List Lexeme) :=
  match cs with
  | [] => .ok []
  | c :: rest =>
    match _h : step c rest with
    | .error fault => .error fault
    | .ok found =>
      match scan found.2 with
      | .error fault => .error fault
      | .ok lexemes => .ok (found.1.toList ++ lexemes)
termination_by cs.length
decreasing_by exact step_length _h

end CobolAtlas.Sql.Lexeme
