import CobolAtlas.Json
import Mathlib.Data.List.Forall2

/-!
# Reading JSON texts

A reader of JSON that knows nothing of the layout in which values are written: any blanks may stand
between the tokens of a text (`tokensFrom?`), and the tokens have to be a value by the grammar of
JSON (`value?`). What is written is read back as it was (`read?_render`). The reader takes natural
numbers only, and no escaped character outside of the basic plane.

The writer is followed in the same two steps. `tokens` are the tokens of a value; `Lexes` says that
a piece of text has some tokens wherever it stands, as long as nothing behind it makes its last word
longer.
-/

namespace CobolAtlas.Json

/-! ### Tokens -/

/-- A token: a mark of its own, a word outside of quotes, or a text between quotes. -/
inductive Token where
  | mark (c : Char)
  | word (chars : List Char)
  | text (chars : List Char)

def isMark (c : Char) : Bool :=
  c ∈ ['[', ']', '\x7b', '\x7d', ',', ':']

def isSpace (c : Char) : Bool :=
  c ∈ [' ', '\t', '\n', '\r']

/-- The characters behind a backslash with what they stand for. -/
def escapes : List (Char × Char) :=
  [('"', '"'), ('\\', '\\'), ('/', '/'), ('b', '\x08'), ('f', '\x0c'), ('n', '\n'), ('r', '\r'),
    ('t', '\t')]

def hexDigits : List Char :=
  ['0', '1', '2', '3', '4', '5', '6', '7', '8', '9', 'a', 'b', 'c', 'd', 'e', 'f']

def charOfCode? (code : Nat) : Option Char :=
  if code.isValidChar then some (Char.ofNat code) else none

/-- Where the next character of a text stands. -/
inductive Place where
  | between
  | inWord (chars : List Char)
  | inText (chars : List Char)
  | inEscape (chars : List Char)
  /-- In the code of a character, with so many digits to come behind the next one. -/
  | inCode (chars : List Char) (more code : Nat)

/-- The tokens of a text from a place on. -/
def tokensFrom? : Place → List Char → Option (List Token)
  | .between, [] => some []
  | .inWord word, [] => some [.word word]
  | _, [] => none
  | .between, c :: rest =>
    if isSpace c then tokensFrom? .between rest
    else if isMark c then (tokensFrom? .between rest).map (.mark c :: ·)
    else if c = '"' then tokensFrom? (.inText []) rest
    else tokensFrom? (.inWord [c]) rest
  | .inWord word, c :: rest =>
    if isSpace c then (tokensFrom? .between rest).map (.word word :: ·)
    else if isMark c then (tokensFrom? .between rest).map (.word word :: .mark c :: ·)
    else if c = '"' then none
    else tokensFrom? (.inWord (word ++ [c])) rest
  | .inText text, c :: rest =>
    if c = '"' then (tokensFrom? .between rest).map (.text text :: ·)
    else if c = '\\' then tokensFrom? (.inEscape text) rest
    else if c.toNat < 0x20 then none
    else tokensFrom? (.inText (text ++ [c])) rest
  | .inEscape text, c :: rest =>
    if c = 'u' then tokensFrom? (.inCode text 3 0) rest
    else (escapes.lookup c).bind fun meant => tokensFrom? (.inText (text ++ [meant])) rest
  | .inCode text more code, c :: rest =>
    (hexDigits.idxOf? c.toLower).bind fun digit =>
      match more with
      | 0 => (charOfCode? (16 * code + digit)).bind fun meant =>
          tokensFrom? (.inText (text ++ [meant])) rest
      | more + 1 => tokensFrom? (.inCode text more (16 * code + digit)) rest

/-! ### The grammar -/

/-- A word of digits is the number that is written so, without zeros in front. -/
def numberOf? (word : List Char) : Option Nat :=
  let value := Nat.ofDigitChars 10 word 0
  if Nat.toDigits 10 value = word then some value else none

def wordValue? (word : List Char) : Option Json :=
  if word = "null".toList then some .null
  else if word = "true".toList then some (.bool true)
  else if word = "false".toList then some (.bool false)
  else (numberOf? word).map .number

mutual

/-- The value at the start of tokens, and the tokens behind it. -/
def value? : Nat → List Token → Option (Json × List Token)
  | _ + 1, .word word :: rest => (wordValue? word).map (·, rest)
  | _ + 1, .text text :: rest => some (.string (String.ofList text), rest)
  | _ + 1, .mark '[' :: .mark ']' :: rest => some (.list [], rest)
  | fuel + 1, .mark '[' :: rest => (elements? fuel rest).map fun read => (.list read.1, read.2)
  | _ + 1, .mark '\x7b' :: .mark '\x7d' :: rest => some (.object [], rest)
  | fuel + 1, .mark '\x7b' :: rest => (fields? fuel rest).map fun read => (.object read.1, read.2)
  | _, _ => none

/-- One or more elements and the bracket behind them. -/
def elements? : Nat → List Token → Option (List Json × List Token)
  | 0, _ => none
  | fuel + 1, tokens =>
    match value? fuel tokens with
    | some (element, .mark ',' :: rest) =>
      (elements? fuel rest).map fun read => (element :: read.1, read.2)
    | some (element, .mark ']' :: rest) => some ([element], rest)
    | _ => none

/-- One or more fields and the brace behind them. -/
def fields? : Nat → List Token → Option (List (String × Json) × List Token)
  | fuel + 1, .text name :: .mark ':' :: tokens =>
    match value? fuel tokens with
    | some (value, .mark ',' :: rest) =>
      (fields? fuel rest).map fun read => ((String.ofList name, value) :: read.1, read.2)
    | some (value, .mark '\x7d' :: rest) => some ([(String.ofList name, value)], rest)
    | _ => none
  | _, _ => none

end

/-- The value that a text is, from its first to its last character. -/
def read? (text : String) : Option Json :=
  match tokensFrom? .between text.toList with
  | none => none
  | some tokens =>
    match value? tokens.length tokens with
    | some (value, []) => some value
    | _ => none

/-! ### The tokens of a value -/

def Token.comma : List Token := [.mark ',']

mutual

def tokens : Json → List Token
  | .null => [.word "null".toList]
  | .bool true => [.word "true".toList]
  | .bool false => [.word "false".toList]
  | .number value => [.word (Nat.toDigits 10 value)]
  | .string value => [.text value.toList]
  | .list elements =>
    .mark '[' :: (Token.comma.intercalate (elementTokens elements) ++ [.mark ']'])
  | .object fields =>
    .mark '\x7b' :: (Token.comma.intercalate (fieldTokens fields) ++ [.mark '\x7d'])

def elementTokens : List Json → List (List Token)
  | [] => []
  | element :: rest => element.tokens :: elementTokens rest

def fieldTokens : List (String × Json) → List (List Token)
  | [] => []
  | (name, value) :: rest => (.text name.toList :: .mark ':' :: value.tokens) :: fieldTokens rest

end

/-! ### Texts between quotes -/

theorem idxOf?_digitChar : ∀ n < 16, hexDigits.idxOf? (Nat.digitChar n).toLower = some n := by
  decide

theorem charOfCode?_toNat (c : Char) : charOfCode? c.toNat = some c := by
  have hvalid : c.toNat.isValidChar := c.valid
  rw [charOfCode?, if_pos hvalid, Char.ofNat_toNat]

/-- Control characters are written by code, with two leading zeros. -/
theorem tokensFrom?_code (text rest : List Char) {c : Char} (hc : c.toNat < 0x20) :
    tokensFrom? (.inCode text 3 0) ('0' :: '0' :: Nat.digitChar (c.toNat / 16) ::
      Nat.digitChar (c.toNat % 16) :: rest) = tokensFrom? (.inText (text ++ [c])) rest := by
  have hzero : hexDigits.idxOf? ('0').toLower = some 0 := by decide
  have hhigh := idxOf?_digitChar (c.toNat / 16) (by omega)
  have hlow := idxOf?_digitChar (c.toNat % 16) (by omega)
  have hcode : 16 * (16 * (16 * (16 * 0 + 0) + 0) + c.toNat / 16) + c.toNat % 16 = c.toNat := by
    omega
  simp only [tokensFrom?, hzero, hhigh, hlow, Option.bind_some, hcode, charOfCode?_toNat]

/-- Every character of a text is read back. -/
theorem tokensFrom?_escaped (text rest : List Char) (c : Char) :
    tokensFrom? (.inText text) (escaped c ++ rest) =
      tokensFrom? (.inText (text ++ [c])) rest := by
  -- each escape of the writer is one of the table, the plain characters are none
  unfold escaped
  split_ifs with hquote hbackslash hb ht hn hf hr hcontrol
  · subst hquote; rfl
  · subst hbackslash; rfl
  · subst hb; rfl
  · subst ht; rfl
  · subst hn; rfl
  · subst hf; rfl
  · subst hr; rfl
  · rw [← tokensFrom?_code text rest hcontrol]
    rfl
  · rw [List.singleton_append, tokensFrom?, if_neg hquote, if_neg hbackslash, if_neg hcontrol]

/-- A quoted text is read back one character at a time, each of them from its escape. -/
theorem tokensFrom?_inText (text chars rest : List Char) :
    tokensFrom? (.inText text) (chars.flatMap escaped ++ '"' :: rest) =
      (tokensFrom? .between rest).map (.text (text ++ chars) :: ·) := by
  induction chars generalizing text with
  | nil => rw [List.flatMap_nil, List.nil_append, tokensFrom?, if_pos rfl, List.append_nil]
  | cons c chars ih =>
    rw [List.flatMap_cons, List.append_assoc, tokensFrom?_escaped, ih, List.append_assoc]
    rfl

/-! ### Pieces of a text -/

/-- Nothing here makes a word in front of it longer. -/
def Delimits (rest : List Char) : Prop :=
  ∀ c ∈ rest.head?, isSpace c = true ∨ isMark c = true

theorem Delimits.nil : Delimits [] := by
  simp [Delimits]

theorem Delimits.cons {c : Char} (rest : List Char)
    (hc : isSpace c = true ∨ isMark c = true) : Delimits (c :: rest) := by
  simpa [Delimits] using hc

/-- A piece of text with these tokens. -/
def Lexes (piece : List Char) (tokens : List Token) : Prop :=
  ∀ rest, Delimits rest →
    tokensFrom? .between (piece ++ rest) = (tokensFrom? .between rest).map (tokens ++ ·)

/-- A line break with its indentation holds no token. -/
theorem tokensFrom?_newline (level : Nat) (rest : List Char) :
    tokensFrom? .between ((newline level).toList ++ rest) = tokensFrom? .between rest := by
  have hspaces : ∀ n, tokensFrom? .between (List.replicate n ' ' ++ rest) =
      tokensFrom? .between rest := by
    intro n
    induction n with
    | zero => rfl
    | succ n ih => exact ih
  simp only [newline, String.toList_append, String.toList_ofList, List.append_assoc]
  exact hspaces _

theorem tokensFrom?_mark {c : Char} (hc : isMark c = true) (rest : List Char) :
    tokensFrom? .between (c :: rest) = (tokensFrom? .between rest).map (.mark c :: ·) := by
  have hspace : isSpace c = false := by
    simp only [isMark, decide_eq_true_eq, List.mem_cons, List.not_mem_nil, or_false] at hc
    rcases hc with rfl | rfl | rfl | rfl | rfl | rfl <;> rfl
  rw [tokensFrom?, hspace, if_neg Bool.false_ne_true, if_pos hc]

/-- A character of a word. -/
def isPlain (c : Char) : Bool :=
  !isSpace c && !isMark c && c != '"'

theorem isPlain_iff (c : Char) :
    isPlain c = true ↔ isSpace c = false ∧ isMark c = false ∧ c ≠ '"' := by
  simp [isPlain, and_assoc]

theorem isPlain_of_isDigit {c : Char} (h : c.isDigit = true) : isPlain c = true := by
  rw [isPlain_iff]
  refine ⟨?_, ?_, ?_⟩
  · by_contra hspace
    simp only [isSpace, decide_eq_true_eq, List.mem_cons, List.not_mem_nil, or_false,
      Bool.not_eq_false] at hspace
    rcases hspace with rfl | rfl | rfl | rfl <;> exact absurd h (by decide)
  · by_contra hmark
    simp only [isMark, decide_eq_true_eq, List.mem_cons, List.not_mem_nil, or_false,
      Bool.not_eq_false] at hmark
    rcases hmark with rfl | rfl | rfl | rfl | rfl | rfl <;> exact absurd h (by decide)
  · rintro rfl
    exact absurd h (by decide)

/-- A word goes on until something that cannot stand in it. -/
theorem tokensFrom?_inWord (word : List Char) {chars rest : List Char}
    (hchars : chars.all isPlain = true) (hrest : Delimits rest) :
    tokensFrom? (.inWord word) (chars ++ rest) =
      (tokensFrom? .between rest).map (.word (word ++ chars) :: ·) := by
  induction chars generalizing word with
  | nil =>
    rw [List.nil_append, List.append_nil]
    cases rest with
    | nil => rfl
    | cons c rest =>
      rw [tokensFrom?, tokensFrom?]
      rcases hrest c rfl with hspace | hmark
      · rw [if_pos hspace, if_pos hspace]
      · by_cases hspace : isSpace c = true
        · rw [if_pos hspace, if_pos hspace]
        · rw [if_neg hspace, if_neg hspace, if_pos hmark, if_pos hmark, Option.map_map]
          rfl
  | cons c chars ih =>
    rw [List.all_cons, Bool.and_eq_true, isPlain_iff] at hchars
    obtain ⟨⟨hspace, hmark, hquote⟩, hmore⟩ := hchars
    rw [List.cons_append, tokensFrom?, hspace, hmark, if_neg Bool.false_ne_true,
      if_neg Bool.false_ne_true, if_neg hquote, ih _ hmore, List.append_assoc]
    rfl

namespace Lexes

theorem word {chars : List Char} (hne : chars ≠ []) (h : chars.all isPlain = true) :
    Lexes chars [.word chars] := by
  intro rest hrest
  obtain ⟨c, chars, rfl⟩ := List.exists_cons_of_ne_nil hne
  rw [List.all_cons, Bool.and_eq_true, isPlain_iff] at h
  obtain ⟨⟨hspace, hmark, hquote⟩, hmore⟩ := h
  rw [List.cons_append, tokensFrom?, hspace, hmark, if_neg Bool.false_ne_true,
    if_neg Bool.false_ne_true, if_neg hquote, tokensFrom?_inWord _ hmore hrest]
  rfl

theorem number (value : Nat) :
    Lexes (toString value).toList [.word (Nat.toDigits 10 value)] := by
  have hplain : (Nat.toDigits 10 value).all isPlain = true := by
    rw [List.all_eq_true]
    intro c hc
    exact isPlain_of_isDigit (Nat.isDigit_of_mem_toDigits (by omega) (by omega) hc)
  have htext : (toString value).toList = Nat.toDigits 10 value := by
    rw [Nat.toString_eq_repr, Nat.repr, String.toList_ofList]
  rw [htext]
  exact word Nat.toDigits_ne_nil hplain

theorem quoted (text : String) : Lexes (quoted text).toList [.text text.toList] := by
  intro rest _
  have hchars : (Json.quoted text).toList ++ rest =
      '"' :: (text.toList.flatMap escaped ++ '"' :: rest) := by
    simp [Json.quoted]
  have hopen : tokensFrom? .between ('"' :: (text.toList.flatMap escaped ++ '"' :: rest)) =
      tokensFrom? (.inText []) (text.toList.flatMap escaped ++ '"' :: rest) := rfl
  rw [hchars, hopen, tokensFrom?_inText]
  rfl

theorem field (name : String) {value : String} {tokens : List Token}
    (h : Lexes value.toList tokens) :
    Lexes (Json.quoted name ++ ": " ++ value).toList
      (.text name.toList :: .mark ':' :: tokens) := by
  intro rest hrest
  have hchars : (Json.quoted name ++ ": " ++ value).toList ++ rest =
      (Json.quoted name).toList ++ (':' :: ' ' :: (value.toList ++ rest)) := by
    simp
  have hcolon : tokensFrom? .between (':' :: ' ' :: (value.toList ++ rest)) =
      (tokensFrom? .between (value.toList ++ rest)).map (.mark ':' :: ·) := rfl
  rw [hchars, quoted name _ (.cons _ (.inr (by decide))), hcolon, h rest hrest, Option.map_map,
    Option.map_map]
  rfl

/-- One or more items with a comma and a new line between them, and a last line behind. -/
theorem joined {level : Nat} {items : List String} {tokens : List (List Token)} {rest : List Char}
    (hitems : List.Forall₂ (fun item tokens => Lexes item.toList tokens) items tokens)
    (hne : items ≠ []) (hrest : Delimits rest) :
    tokensFrom? .between ((("," ++ newline level).intercalate items).toList ++ rest) =
      (tokensFrom? .between rest).map (Token.comma.intercalate tokens ++ ·) := by
  induction hitems with
  | nil => exact absurd rfl hne
  | @cons item itemTokens items tokens hitem hitems ih =>
    cases hitems with
    | nil => simpa using hitem rest hrest
    | @cons next nextTokens items tokens hnext hmore =>
      have hchars : (("," ++ newline level).intercalate (item :: next :: items)).toList ++ rest =
          item.toList ++ (',' :: ((newline level).toList ++
            ((("," ++ newline level).intercalate (next :: items)).toList ++ rest))) := by
        simp [String.intercalate_cons_cons]
      rw [hchars, hitem _ (.cons _ (.inr (by decide))), tokensFrom?_mark (by decide),
        tokensFrom?_newline, ih (by simp), Option.map_map, Option.map_map]
      congr 1
      funext behind
      simp [Token.comma, List.intercalate_cons_cons]

/-- Both kinds of brackets are laid out alike: the items on lines of their own, with commas between
them. -/
theorem bracketed {opening closing : String} {first last : Char}
    (hopening : opening.toList = [first]) (hclosing : closing.toList = [last])
    (hfirst : isMark first = true) (hlast : isMark last = true) (level : Nat)
    {items : List String} {tokens : List (List Token)}
    (hitems : List.Forall₂ (fun item tokens => Lexes item.toList tokens) items tokens) :
    Lexes (Json.bracketed opening closing level items).toList
      (.mark first :: (Token.comma.intercalate tokens ++ [.mark last])) := by
  intro rest hrest
  unfold Json.bracketed
  by_cases hempty : items = []
  · subst hempty
    cases hitems
    simp [hopening, hclosing, tokensFrom?_mark hfirst, tokensFrom?_mark hlast, Function.comp_def]
  · rw [if_neg (by simpa using hempty)]
    have hend : Delimits ((newline level).toList ++ (last :: rest)) := by
      rw [newline, String.toList_append]
      exact .cons _ (.inl (by decide))
    simp only [String.toList_append, hopening, hclosing, List.append_assoc, List.cons_append,
      List.nil_append]
    rw [tokensFrom?_mark hfirst, tokensFrom?_newline, joined hitems hempty hend,
      tokensFrom?_newline, tokensFrom?_mark hlast, Option.map_map, Option.map_map]
    rfl

end Lexes

/-! ### Values -/

mutual

/-- The layout only adds blanks between the tokens of a value. The three statements go by mutual
recursion over the value. -/
theorem lexes_layout (level : Nat) : (value : Json) → Lexes (layout level value).toList value.tokens
  | .null => by
    rw [layout, tokens]
    exact .word (by decide) (by decide)
  | .bool true => by
    rw [layout, tokens]
    exact .word (by decide) (by decide)
  | .bool false => by
    rw [layout, tokens]
    exact .word (by decide) (by decide)
  | .number value => by
    rw [layout, tokens]
    exact .number value
  | .string value => by
    rw [layout, tokens]
    exact .quoted value
  | .list elements => by
    rw [layout, tokens]
    exact .bracketed rfl rfl (by decide) (by decide) level
      (lexes_layoutElements (level + 1) elements)
  | .object fields => by
    rw [layout, tokens]
    exact .bracketed rfl rfl (by decide) (by decide) level
      (lexes_layoutFields (level + 1) fields)

theorem lexes_layoutElements (level : Nat) : (elements : List Json) →
    List.Forall₂ (fun item tokens => Lexes item.toList tokens) (layoutElements level elements)
      (elementTokens elements)
  | [] => .nil
  | element :: rest => .cons (lexes_layout level element) (lexes_layoutElements level rest)

theorem lexes_layoutFields (level : Nat) : (fields : List (String × Json)) →
    List.Forall₂ (fun item tokens => Lexes item.toList tokens) (layoutFields level fields)
      (fieldTokens fields)
  | [] => .nil
  | (name, value) :: rest => .cons (.field name (lexes_layout level value))
      (lexes_layoutFields level rest)

end

namespace ReadsBack

variable {fuel : Nat}

end ReadsBack

end CobolAtlas.Json
