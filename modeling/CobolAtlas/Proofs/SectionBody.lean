import CobolAtlas.Proofs.PrintedLine
import CobolAtlas.Section

/-!
# The body of a section

A section body is a tree: calls and other statements, `IF` blocks and `EVALUATE` blocks whose
blocks are bodies again. The tree says in two ways what the program is: `Body.clauses` prints it,
one clause to a line, and `Body.calls` lists the calls that it makes, each with the text of the
blocks around it. The texts are written out here, apart from the guards that a scan keeps.
-/

namespace CobolAtlas

/-! ### Words -/

/-- A word that may stand in a clause. It makes the line neither a comment, nor a header, nor an
exit, nor one that is passed over. -/
structure Readable (word : String) : Prop extends Legible word where
  not_comment : word.toList.head? ≠ some '*'
  not_boundary : word ∉ ["SECTION", "EXIT", "GOBACK", "DISPLAY"]

instance (word : String) : Decidable (Readable word) :=
  decidable_of_iff
    (Legible word ∧ word.toList.head? ≠ some '*' ∧
      word ∉ ["SECTION", "EXIT", "GOBACK", "DISPLAY"])
    ⟨fun ⟨h₁, h₂, h₃⟩ => ⟨h₁, h₂, h₃⟩, fun ⟨h₁, h₂, h₃⟩ => ⟨h₁, h₂, h₃⟩⟩

/-- The words of a clause that are more than text. -/
def keywords : List String :=
  ["IF", "THEN", "ELSE", "CONTINUE", "END-IF", "EVALUATE", "WHEN", "OTHER", "END-EVALUATE",
    "PERFORM", "CALL", "EXEC"]

/-- A word that is text and nothing else. -/
structure Plain (word : String) : Prop extends Readable word where
  not_keyword : word ∉ keywords
  not_end : Text.contains word "END-EVALUATE" = false

instance (word : String) : Decidable (Plain word) :=
  decidable_of_iff
    (Readable word ∧ word ∉ keywords ∧ Text.contains word "END-EVALUATE" = false)
    ⟨fun ⟨h₁, h₂, h₃⟩ => ⟨h₁, h₂, h₃⟩, fun ⟨h₁, h₂, h₃⟩ => ⟨h₁, h₂, h₃⟩⟩

/-- The keywords can stand in a clause themselves. -/
theorem Readable.of_keyword : ∀ word ∈ keywords, Readable word := by
  decide

theorem Plain.ne {word keyword : String} (h : Plain word) (hkeyword : keyword ∈ keywords) :
    word ≠ keyword :=
  fun heq => h.not_keyword (heq ▸ hkeyword)

theorem Plain.not_among {word : String} (h : Plain word) {special : List String}
    (hspecial : ∀ w ∈ special, w ∈ keywords) : word ∉ special :=
  fun hmem => h.not_keyword (hspecial word hmem)

/-- A word of a condition, a label, a subject, a target or a statement. -/
structure Word where
  text : String
  plain : Plain text

/-- One or more words. -/
structure Phrase where
  first : Word
  more : List Word

namespace Phrase

def words (phrase : Phrase) : List String :=
  phrase.first.text :: phrase.more.map Word.text

def text (phrase : Phrase) : String :=
  Text.unwords phrase.words

end Phrase

/-! ### Clauses -/

/-- The words of a clause. -/
def Clausal (words : List String) : Prop :=
  ∀ w ∈ words, Plain w ∨ w ∈ keywords

/-- A line that calls a section or another module. `PERFORM VARYING` calls nothing. -/
inductive CallLine where
  | perform (target : Word) (more : List Word) (hloop : Text.unquoted target.text ≠ "VARYING")
  | toModule (target : Word) (more : List Word)

namespace CallLine

def words : CallLine → List String
  | perform target more _ => "PERFORM" :: target.text :: more.map Word.text
  | toModule target more => "CALL" :: target.text :: more.map Word.text

/-- The call of a line inside blocks with the text `guard`. -/
def call (guard : String) : CallLine → Call
  | perform target _ _ => ⟨Text.unquoted target.text, false, guard, none⟩
  | toModule target _ => ⟨Text.unquoted target.text, true, guard, none⟩

end CallLine

/-- The condition of an `IF` on one or more lines, ended by `THEN`. A `THEN` on a line of its own
is a last line without words. -/
inductive Condition where
  | ends (words : List Word)
  | goesOn (words : List Word) (rest : Condition)

namespace Condition

/-- All words of a condition. -/
def words : Condition → List String
  | ends ws => ws.map Word.text
  | goesOn ws rest => ws.map Word.text ++ rest.words

/-- The lines of a condition, the first of them behind `lead`. -/
def clauses (lead : List String) : Condition → List (List String)
  | ends ws => [lead ++ (ws.map Word.text ++ ["THEN"])]
  | goesOn ws rest => (lead ++ ws.map Word.text) :: rest.clauses []

def text (condition : Condition) : String :=
  Text.unwords condition.words

end Condition

/-! ### Blocks -/

mutual

/-- One statement of a section with everything in it. -/
inductive Item where
  | call (line : CallLine)
  | statement (phrase : Phrase)
  | ifThen (condition : Condition) (body : Body)
  | ifElse (condition : Condition) (body other : Body)
  | evaluate (subject : Phrase) (arms : Arms)

/-- Statements in a row. -/
inductive Body where
  | done
  | step (first : Item) (rest : Body)

/-- The arms of an `EVALUATE`, none of them empty. The arm `OTHER` is the last one. -/
inductive Arms where
  | done
  | other (first : Item) (rest : Body)
  | arm (label : Phrase) (first : Item) (rest : Body) (more : Arms)

end

mutual

/-- The lines of a statement. -/
def Item.clauses : Item → List (List String)
  | .call line => [line.words]
  | .statement phrase => [phrase.words]
  | .ifThen condition body => condition.clauses ["IF"] ++ (body.clauses ++ [["END-IF"]])
  | .ifElse condition body other =>
    condition.clauses ["IF"] ++
      (body.clauses ++ (["ELSE"] :: (other.clauses ++ [["END-IF"]])))
  | .evaluate subject arms =>
    ("EVALUATE" :: subject.words) :: (arms.clauses ++ [["END-EVALUATE"]])

def Body.clauses : Body → List (List String)
  | .done => []
  | .step first rest => first.clauses ++ rest.clauses

def Arms.clauses : Arms → List (List String)
  | .done => []
  | .other first rest => ["WHEN", "OTHER"] :: (first.clauses ++ rest.clauses)
  | .arm label first rest more =>
    ("WHEN" :: label.words) :: (first.clauses ++ (rest.clauses ++ more.clauses))

end

/-! ### The texts of blocks -/

/-- The text of an else-block, or of the arm `OTHER`. -/
def otherwiseText (text : String) : String :=
  text ++ " 以外"

def caseText (subject label : String) : String :=
  "[" ++ subject ++ "] = [" ++ label ++ "]"

/-- The arm `OTHER` is the opposite of all labels in front of it. -/
def otherText (subject : String) (labels : List String) : String :=
  otherwiseText (caseText subject (", ".intercalate labels))

/-- The text of blocks inside each other, outermost first. -/
def nestedText (texts : List String) : String :=
  " かつ ".intercalate (texts.map fun text => "【" ++ text ++ "】")

mutual

/-- The calls of a statement in source order, inside blocks with the texts `outer`. -/
def Item.calls (outer : List String) : Item → List Call
  | .call line => [line.call (nestedText outer)]
  | .statement _ => []
  | .ifThen condition body => body.calls (outer ++ [condition.text])
  | .ifElse condition body other =>
    body.calls (outer ++ [condition.text]) ++
      other.calls (outer ++ [otherwiseText condition.text])
  | .evaluate subject arms => arms.calls outer subject.text []

def Body.calls (outer : List String) : Body → List Call
  | .done => []
  | .step first rest => first.calls outer ++ rest.calls outer

/-- The calls of the arms behind those with the labels `labels`. -/
def Arms.calls (outer : List String) (subject : String) (labels : List String) : Arms → List Call
  | .done => []
  | .other first rest =>
    first.calls (outer ++ [otherText subject labels]) ++
      rest.calls (outer ++ [otherText subject labels])
  | .arm label first rest more =>
    first.calls (outer ++ [caseText subject label.text]) ++
      (rest.calls (outer ++ [caseText subject label.text]) ++
        more.calls outer subject (labels ++ [label.text]))

end

/-! ### The words of clauses -/

namespace Plain

variable {words : List String}

theorem not_mem (h : ∀ w ∈ words, Plain w) {keyword : String} (hkeyword : keyword ∈ keywords) :
    keyword ∉ words :=
  fun hmem => (h keyword hmem).not_keyword hkeyword

theorem filter_ne (h : ∀ w ∈ words, Plain w) {keyword : String} (hkeyword : keyword ∈ keywords) :
    words.filter (· ≠ keyword) = words := by
  rw [List.filter_eq_self]
  intro w hw
  simpa using (h w hw).ne hkeyword

theorem head_ne (h : ∀ w ∈ words, Plain w) {keyword : String}
    (hkeyword : keyword ∈ keywords) : Text.head words ≠ keyword := by
  cases words with
  | nil =>
    rintro rfl
    exact absurd hkeyword (by decide)
  | cons w ws => exact (h w List.mem_cons_self).ne hkeyword

/-- A last `THEN` is the first word only where there is no other. -/
theorem head_then_ne (h : ∀ w ∈ words, Plain w) {keyword : String}
    (hkeyword : keyword ∈ keywords) (hthen : keyword ≠ "THEN") :
    Text.head (words ++ ["THEN"]) ≠ keyword := by
  cases words with
  | nil => exact Ne.symm hthen
  | cons w ws => exact (h w List.mem_cons_self).ne hkeyword

end Plain

namespace Clausal

variable {words : List String}

/-- The words of a clause keep it from being a comment, a header or an exit. -/
theorem readable (h : Clausal words) : ∀ w ∈ words, Readable w := by
  intro w hw
  rcases h w hw with hplain | hkeyword
  · exact hplain.toReadable
  · exact Readable.of_keyword w hkeyword

theorem of_plain (h : ∀ w ∈ words, Plain w) : Clausal words :=
  fun w hw => .inl (h w hw)

theorem cons {keyword : String} (hkeyword : keyword ∈ keywords) (h : Clausal words) :
    Clausal (keyword :: words) :=
  List.forall_mem_cons.mpr ⟨.inr hkeyword, h⟩

theorem keyword {keyword : String} (hkeyword : keyword ∈ keywords) : Clausal [keyword] :=
  .cons hkeyword (.of_plain (by simp))

theorem append {more : List String} (h : Clausal words) (hmore : Clausal more) :
    Clausal (words ++ more) :=
  List.forall_mem_append.mpr ⟨h, hmore⟩

end Clausal

theorem Word.map_plain (words : List Word) : ∀ w ∈ words.map Word.text, Plain w := by
  intro w hw
  obtain ⟨word, -, rfl⟩ := List.mem_map.mp hw
  exact word.plain

theorem CallLine.words_clausal (line : CallLine) : Clausal line.words := by
  cases line with
  | perform target more =>
    exact .cons (by decide) (.of_plain (Word.map_plain (target :: more)))
  | toModule target more =>
    exact .cons (by decide) (.of_plain (Word.map_plain (target :: more)))

namespace Phrase

theorem words_plain (phrase : Phrase) : ∀ w ∈ phrase.words, Plain w :=
  Word.map_plain (phrase.first :: phrase.more)

theorem words_ne_nil (phrase : Phrase) : phrase.words ≠ [] :=
  List.cons_ne_nil _ _

/-- A phrase has at least one word, and no word is empty. -/
theorem text_ne_empty (phrase : Phrase) : phrase.text ≠ "" := by
  intro h
  obtain ⟨c, cs, hcs, -⟩ :=
    Legible.head_unwords phrase.words_ne_nil fun w hw => (phrase.words_plain w hw).toLegible
  rw [← text, h] at hcs
  simp at hcs

end Phrase

end CobolAtlas
