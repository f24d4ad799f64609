import Mathlib.Data.List.Chain
import CobolAtlas.Sql.Token

/-!
# Qualified names

Lexemes are cut into pieces: a qualified name is a chain of identifiers with periods between them,
as long as it can be, together with the periods behind it that join nothing; every other lexeme is a
piece of its own (`Segmented`). There is one way to cut, and the tokens are those of the pieces: one
identifier for each qualified name and one token for each other lexeme (`shownTokens`). Of the
periods behind a name one is shown in front of a mark and none in front of a word or at the end.

Behind an identifier the name and the periods so far are held back, so the induction over the
lexemes speaks of the lexemes alone and of those behind any such name at once (`Folds`).
-/

namespace CobolAtlas.Sql

/-! ### Pieces -/

/-- A word that is an identifier. -/
structure NameWord where
  text : String
  quoted : Bool
  isIdentifier : Token.classOf (.word text quoted) = .identifier

def NameWord.lexeme (word : NameWord) : Lexeme :=
  .word word.text word.quoted

/-- Identifiers with at least one period between two of them. -/
structure QualifiedName where
  first : NameWord
  /-- The words behind the first one, each with the number of its periods less one. -/
  more : List (Nat × NameWord)

namespace QualifiedName

def moreLexemes (more : List (Nat × NameWord)) : List Lexeme :=
  more.flatMap fun link => List.replicate (link.1 + 1) .period ++ [link.2.lexeme]

theorem moreLexemes_cons_append (periods : Nat) (word : NameWord) (more : List (Nat × NameWord))
    (rest : List Lexeme) :
    moreLexemes ((periods, word) :: more) ++ rest =
      List.replicate (periods + 1) .period ++ (word.lexeme :: (moreLexemes more ++ rest)) := by
  simp [moreLexemes]

def lexemes (name : QualifiedName) : List Lexeme :=
  name.first.lexeme :: moreLexemes name.more

/-- The words with one period between two of them, however many there were. -/
def text (name : QualifiedName) : String :=
  ".".intercalate (name.first.text :: name.more.map fun link => link.2.text)

end QualifiedName

inductive Piece where
  /-- A qualified name and the number of periods behind it. -/
  | name (chain : QualifiedName) (trailing : Nat)
  /-- A keyword, a period behind no name, or a mark. -/
  | other (lexeme : Lexeme) (notName : Token.classOf lexeme ≠ .identifier)

namespace Piece

def lexemes : Piece → List Lexeme
  | name chain trailing => chain.lexemes ++ List.replicate trailing .period
  | other lexeme _ => [lexeme]

def first : Piece → Lexeme
  | name chain _ => chain.first.lexeme
  | other lexeme _ => lexeme

theorem head_lexemes (pieces : List Piece) :
    (pieces.flatMap lexemes).head? = pieces.head?.map first := by
  cases pieces with
  | nil => rfl
  | cons piece rest =>
    cases piece with
    | name chain trailing => simp [lexemes, QualifiedName.lexemes, first]
    | other lexeme _ => simp [lexemes, first]

/-- A name takes all periods behind it, and the identifier behind them if there are any. -/
def MayPrecede : Piece → Piece → Prop
  | name _ trailing, name _ _ => trailing = 0
  | name _ _, other lexeme _ => lexeme ≠ .period
  | other _ _, _ => True

end Piece

/-- The pieces of lexemes: in a row they are the lexemes, and no name could be longer. -/
structure Segmented (lexemes : List Lexeme) (pieces : List Piece) : Prop where
  whole : pieces.flatMap Piece.lexemes = lexemes
  maximal : pieces.IsChain Piece.MayPrecede

/-! ### The tokens of pieces -/

/-- A lexeme that is neither a word nor a period. -/
def Lexeme.isMark : Lexeme → Bool
  | .word _ _ | .period => false
  | _ => true

/-- Whether the first of some pieces is a mark. -/
def Piece.startWithMark : List Piece → Bool
  | .other lexeme _ :: _ => lexeme.isMark
  | _ => false

def shownTokens : List Piece → List Token
  | [] => []
  | .name chain trailing :: rest =>
    if trailing ≠ 0 && Piece.startWithMark rest then
      ⟨.identifier, chain.text⟩ :: Token.period :: shownTokens rest
    else ⟨.identifier, chain.text⟩ :: shownTokens rest
  | .other lexeme _ :: rest => Token.ofLexeme lexeme :: shownTokens rest

namespace Token

open joinBehind (joinFree)

theorem joinFree_word (word : NameWord) (rest : List Lexeme) :
    joinFree (word.lexeme :: rest) = joinBehind word.text false rest := by
  simp [NameWord.lexeme, joinFree, word.isIdentifier]

theorem joinFree_other {lexeme : Lexeme} (h : classOf lexeme ≠ .identifier) (rest : List Lexeme) :
    joinFree (lexeme :: rest) = ofLexeme lexeme :: joinFree rest := by
  cases lexeme with
  | word text quoted =>
    rw [joinFree]
    split
    · rename_i hclass
      exact absurd hclass h
    · rfl
  | _ => rfl

theorem joinBehind_word (name : String) (word : NameWord) (rest : List Lexeme) :
    joinBehind name false (word.lexeme :: rest) =
      ⟨.identifier, name⟩ :: joinBehind word.text false rest := by
  simp [NameWord.lexeme, joinBehind, word.isIdentifier]

theorem joinBehind_joined (name : String) (word : NameWord) (rest : List Lexeme) :
    joinBehind name true (word.lexeme :: rest) =
      joinBehind (name ++ "." ++ word.text) false rest := by
  simp [NameWord.lexeme, joinBehind, word.isIdentifier]

/-- Anything but a name or a period ends a chain. -/
theorem joinBehind_other (name : String) (dotted : Bool) {lexeme : Lexeme}
    (h : classOf lexeme ≠ .identifier) (hperiod : lexeme ≠ .period) (rest : List Lexeme) :
    joinBehind name dotted (lexeme :: rest) =
      if dotted && lexeme.isMark then
        ⟨.identifier, name⟩ :: period :: ofLexeme lexeme :: joinFree rest
      else ⟨.identifier, name⟩ :: ofLexeme lexeme :: joinFree rest := by
  cases lexeme with
  | word text quoted =>
    rw [joinBehind]
    · simp [Lexeme.isMark, ofLexeme, Lexeme.shown]
    · intro hclass
      exact absurd hclass h
    · intro hclass
      exact absurd hclass h
  | period => exact absurd rfl hperiod
  | _ => simp [joinBehind, Lexeme.isMark]

end Token

/-! ### Longer names -/

theorem NameWord.lexeme_inj {word other : NameWord} (h : word.lexeme = other.lexeme) :
    word = other := by
  obtain ⟨text, quoted, _⟩ := word
  obtain ⟨text', quoted', _⟩ := other
  simp only [lexeme, Lexeme.word.injEq] at h
  obtain ⟨rfl, rfl⟩ := h
  rfl

theorem Lexeme.word_or_other (lexeme : Lexeme) :
    (∃ word : NameWord, lexeme = word.lexeme) ∨ Token.classOf lexeme ≠ .identifier := by
  cases lexeme with
  | word text quoted =>
    by_cases hclass : Token.classOf (.word text quoted) = .identifier
    · exact .inl ⟨⟨text, quoted, hclass⟩, rfl⟩
    · exact .inr hclass
  | _ => exact .inr (by simp [Token.classOf])

namespace QualifiedName

def extend (chain : QualifiedName) (periods : Nat) (word : NameWord) : QualifiedName :=
  { chain with more := chain.more ++ [(periods, word)] }

theorem lexemes_extend (chain : QualifiedName) (periods : Nat) (word : NameWord) :
    (chain.extend periods word).lexemes =
      chain.lexemes ++ (List.replicate (periods + 1) .period ++ [word.lexeme]) := by
  simp [lexemes, moreLexemes, extend]

theorem text_extend (chain : QualifiedName) (periods : Nat) (word : NameWord) :
    (chain.extend periods word).text = chain.text ++ "." ++ word.text := by
  simp only [text, extend, List.map_append, ← List.cons_append]
  rw [String.intercalate_append_of_ne_nil (List.cons_ne_nil _ _) (by simp)]
  simp

end QualifiedName

/-! ### There is one way to cut -/

/-- A name with some periods behind it cannot take anything of the lexemes that follow. -/
structure Ends (trailing : Nat) (rest : List Lexeme) : Prop where
  not_period : rest.head? ≠ some .period
  not_joined : trailing ≠ 0 → ∀ word : NameWord, rest.head? ≠ some word.lexeme

theorem NameWord.lexeme_ne_period (word : NameWord) : word.lexeme ≠ .period := nofun

theorem NameWord.lexeme_ne_other (word : NameWord) {lexeme : Lexeme}
    (hclass : Token.classOf lexeme ≠ .identifier) : lexeme ≠ word.lexeme := by
  rintro rfl
  exact hclass word.isIdentifier

theorem ends_of_mayPrecede {chain : QualifiedName} {trailing : Nat} {pieces : List Piece}
    (h : ∀ piece ∈ pieces.head?, Piece.MayPrecede (.name chain trailing) piece) :
    Ends trailing (pieces.flatMap Piece.lexemes) := by
  rcases pieces with _ | ⟨next, rest⟩
  · exact ⟨nofun, nofun⟩
  · have hnext := h next rfl
    have hhead : ((next :: rest).flatMap Piece.lexemes).head? = some next.first :=
      Piece.head_lexemes (next :: rest)
    constructor
    · rw [hhead, Ne, Option.some.injEq]
      cases next with
      | name other _ => exact other.first.lexeme_ne_period
      | other _ _ => exact hnext
    · intro htrailing word
      rw [hhead, Ne, Option.some.injEq]
      cases next with
      | name _ _ => exact absurd hnext htrailing
      | other _ hclass => exact word.lexeme_ne_other hclass

/-- Two rows of one element are equally long when something else follows each. -/
theorem replicate_append_inj {α : Type} {x : α} {m n : Nat} {s t : List α}
    (hs : s.head? ≠ some x) (ht : t.head? ≠ some x)
    (h : List.replicate m x ++ s = List.replicate n x ++ t) : m = n ∧ s = t := by
  induction m generalizing n with
  | zero =>
    cases n with
    | zero => exact ⟨rfl, h⟩
    | succ n => exact absurd (by simp [show s = _ from h, List.replicate_succ]) hs
  | succ m ih =>
    cases n with
    | zero => exact absurd (by simp [← show _ = t from h, List.replicate_succ]) ht
    | succ n =>
      simp only [List.replicate_succ, List.cons_append, List.cons.injEq, true_and] at h
      obtain ⟨rfl, rest⟩ := ih h
      exact ⟨rfl, rest⟩

/-- The links of a name can be told from its lexemes: the periods up to the next word are those of
one link. -/
theorem moreLexemes_append_inj {more others : List (Nat × NameWord)} {m n : Nat}
    {s t : List Lexeme} (hs : Ends m s) (ht : Ends n t)
    (h : QualifiedName.moreLexemes more ++ (List.replicate m .period ++ s) =
      QualifiedName.moreLexemes others ++ (List.replicate n .period ++ t)) :
    more = others ∧ m = n ∧ s = t := by
  -- one link of each at a time; a link against the periods at the end would join a word to a name
  induction more generalizing others with
  | nil =>
    cases others with
    | nil => exact ⟨rfl, replicate_append_inj hs.not_period ht.not_period h⟩
    | cons link others =>
      obtain ⟨periods, word⟩ := link
      rw [QualifiedName.moreLexemes_cons_append] at h
      obtain ⟨rfl, rfl⟩ := replicate_append_inj hs.not_period
        (by simpa using word.lexeme_ne_period) h
      exact absurd rfl (hs.not_joined (Nat.succ_ne_zero periods) word)
  | cons link more ih =>
    obtain ⟨periods, word⟩ := link
    cases others with
    | nil =>
      rw [QualifiedName.moreLexemes_cons_append] at h
      obtain ⟨rfl, rfl⟩ := replicate_append_inj (by simpa using word.lexeme_ne_period)
        ht.not_period h
      exact absurd rfl (ht.not_joined (Nat.succ_ne_zero periods) word)
    | cons other others =>
      obtain ⟨periods', word'⟩ := other
      rw [QualifiedName.moreLexemes_cons_append, QualifiedName.moreLexemes_cons_append] at h
      obtain ⟨hperiods, hrest⟩ := replicate_append_inj (by simpa using word.lexeme_ne_period)
        (by simpa using word'.lexeme_ne_period) h
      obtain ⟨hword, hrest⟩ := List.cons.inj hrest
      obtain ⟨rfl, hend⟩ := ih hrest
      rw [Nat.succ.inj hperiods, NameWord.lexeme_inj hword]
      exact ⟨rfl, hend⟩

/-- There is one way at most to cut lexemes into pieces. -/
theorem Segmented.unique {lexemes : List Lexeme} {pieces others : List Piece}
    (h : Segmented lexemes pieces) (ho : Segmented lexemes others) : others = pieces := by
  induction pieces generalizing lexemes others with
  | nil =>
    have hhead := Piece.head_lexemes others
    rw [ho.whole, ← h.whole] at hhead
    cases others with
    | nil => rfl
    | cons other rest => simp at hhead
  | cons piece pieces ih =>
    have hhead := Piece.head_lexemes others
    rw [ho.whole, ← h.whole, Piece.head_lexemes] at hhead
    obtain _ | ⟨other, rest⟩ := others
    · simp at hhead
    · simp only [List.head?_cons, Option.map_some, Option.some.injEq] at hhead
      obtain ⟨hnext, hmaximal⟩ := List.isChain_cons.mp h.maximal
      obtain ⟨hnext', hmaximal'⟩ := List.isChain_cons.mp ho.maximal
      have hwhole := h.whole.trans ho.whole.symm
      simp only [List.flatMap_cons] at hwhole
      cases piece with
      | name chain trailing =>
        cases other with
        | name chain' trailing' =>
          simp only [Piece.lexemes, QualifiedName.lexemes, List.cons_append, List.append_assoc,
            List.cons.injEq] at hwhole
          obtain ⟨hmore, htrailing, hrest⟩ := moreLexemes_append_inj (ends_of_mayPrecede hnext)
            (ends_of_mayPrecede hnext') hwhole.2
          have hchain : chain = chain' := by
            obtain ⟨first, more⟩ := chain
            obtain ⟨first', more'⟩ := chain'
            rw [QualifiedName.mk.injEq]
            exact ⟨NameWord.lexeme_inj hwhole.1, hmore⟩
          rw [hchain, htrailing, ih ⟨rfl, hmaximal⟩ ⟨hrest.symm, hmaximal'⟩]
        | other lexeme hclass => exact absurd hhead.symm (chain.first.lexeme_ne_other hclass)
      | other lexeme hclass =>
        cases other with
        | name chain' trailing' => exact absurd hhead (chain'.first.lexeme_ne_other hclass)
        | other lexeme' hclass' =>
          simp only [Piece.lexemes, List.singleton_append, List.cons.injEq] at hwhole
          obtain ⟨rfl, hrest⟩ := hwhole
          rw [ih ⟨rfl, hmaximal⟩ ⟨hrest.symm, hmaximal'⟩]

/-! ### Cutting lexemes -/

namespace Segmented

theorem nil : Segmented [] [] where
  whole := rfl
  maximal := .nil

theorem other {lexemes : List Lexeme} {pieces : List Piece} (h : Segmented lexemes pieces)
    {lexeme : Lexeme} (hclass : Token.classOf lexeme ≠ .identifier) :
    Segmented (lexeme :: lexemes) (.other lexeme hclass :: pieces) where
  whole := by simp [Piece.lexemes, h.whole]
  maximal := h.maximal.cons fun _ _ => trivial

theorem name {lexemes : List Lexeme} {pieces : List Piece} (h : Segmented lexemes pieces)
    {chain : QualifiedName} {trailing : Nat}
    (hnext : ∀ piece ∈ pieces.head?, Piece.MayPrecede (.name chain trailing) piece) :
    Segmented (chain.lexemes ++ List.replicate trailing .period ++ lexemes)
      (.name chain trailing :: pieces) where
  whole := by simp [Piece.lexemes, h.whole]
  maximal := h.maximal.cons hnext

theorem head_of_word {word : NameWord} {lexemes : List Lexeme} {pieces : List Piece}
    (h : Segmented (word.lexeme :: lexemes) pieces) :
    ∃ chain trailing rest, pieces = .name chain trailing :: rest := by
  have hhead := Piece.head_lexemes pieces
  rw [h.whole] at hhead
  rcases pieces with _ | ⟨_ | ⟨lexeme, hclass⟩, rest⟩
  · simp at hhead
  · exact ⟨_, _, _, rfl⟩
  · simp only [List.head?_cons, Option.map_some, Option.some.injEq] at hhead
    exact absurd hhead.symm (word.lexeme_ne_other hclass)

end Segmented

/-! ### The tokens of lexemes -/

open Token Token.joinBehind

/-- Lexemes are cut into pieces with their tokens, on their own and behind a name that is held back
with the periods behind it. -/
structure Folds (lexemes : List Lexeme) : Prop where
  free : ∃ pieces, Segmented lexemes pieces ∧ joinFree lexemes = shownTokens pieces
  behind : ∀ (chain : QualifiedName) (trailing : Nat), ∃ pieces,
    Segmented (chain.lexemes ++ List.replicate trailing .period ++ lexemes) pieces ∧
      joinBehind chain.text (trailing ≠ 0) lexemes = shownTokens pieces

namespace Folds

variable {lexemes : List Lexeme}

theorem nil : Folds [] where
  free := ⟨[], .nil, rfl⟩
  behind := by
    intro chain trailing
    refine ⟨[.name chain trailing], Segmented.nil.name nofun, ?_⟩
    simp [joinBehind, shownTokens, Piece.startWithMark]

/-- An identifier starts a name, or it goes on with the name in front of it. -/
theorem word (h : Folds lexemes) (word : NameWord) : Folds (word.lexeme :: lexemes) := by
  obtain ⟨started, hstarted, htokens⟩ := h.behind ⟨word, []⟩ 0
  have hsegmented : Segmented (word.lexeme :: lexemes) started := hstarted
  have htext : (⟨word, []⟩ : QualifiedName).text = word.text := by simp [QualifiedName.text]
  rw [htext] at htokens
  constructor
  · refine ⟨started, hsegmented, ?_⟩
    rw [joinFree_word, ← htokens]
    rfl
  · intro chain trailing
    cases trailing with
    | zero =>
      obtain ⟨next, periods, rest, rfl⟩ := hsegmented.head_of_word
      refine ⟨.name chain 0 :: .name next periods :: rest, hsegmented.name ?_, ?_⟩
      · rintro piece ⟨⟩
        rfl
      · have hfalse : decide ((0 : Nat) ≠ 0) = false := rfl
        rw [hfalse] at htokens ⊢
        rw [joinBehind_word, htokens]
        rfl
    | succ periods =>
      obtain ⟨longer, hlonger, hlongerTokens⟩ := h.behind (chain.extend periods word) 0
      refine ⟨longer, ?_, ?_⟩
      · simpa [QualifiedName.lexemes_extend] using hlonger
      · rw [← hlongerTokens, QualifiedName.text_extend]
        exact joinBehind_joined chain.text word lexemes

/-- A period outside a chain is a token of its own. -/
theorem period (h : Folds lexemes) : Folds (.period :: lexemes) where
  free := by
    obtain ⟨pieces, hpieces, htokens⟩ := h.free
    refine ⟨_, hpieces.other (by simp [classOf]), ?_⟩
    rw [joinFree_other (by simp [classOf]), htokens]
    rfl
  behind := by
    intro chain trailing
    obtain ⟨longer, hlonger, htokens⟩ := h.behind chain (trailing + 1)
    refine ⟨longer, ?_, ?_⟩
    · simpa [List.replicate_succ'] using hlonger
    · rw [← htokens, joinBehind]
      simp

/-- Anything else ends the name in front of it. -/
theorem other (h : Folds lexemes) {lexeme : Lexeme} (hclass : classOf lexeme ≠ .identifier)
    (hperiod : lexeme ≠ .period) : Folds (lexeme :: lexemes) := by
  obtain ⟨pieces, hpieces, htokens⟩ := h.free
  constructor
  · refine ⟨_, hpieces.other hclass, ?_⟩
    rw [joinFree_other hclass, htokens]
    rfl
  · intro chain trailing
    refine ⟨_, (hpieces.other hclass).name ?_, ?_⟩
    · rintro piece ⟨⟩
      exact hperiod
    · rw [joinBehind_other _ _ hclass hperiod, htokens]
      simp [shownTokens, Piece.startWithMark]

end Folds

/-- Induction over the lexemes, with the open chain as part of the statement. -/
theorem folds (lexemes : List Lexeme) : Folds lexemes := by
  induction lexemes with
  | nil => exact .nil
  | cons lexeme lexemes ih =>
    obtain ⟨word, rfl⟩ | hclass := lexeme.word_or_other
    · exact ih.word word
    · by_cases hperiod : lexeme = .period
      · subst hperiod
        exact ih.period
      · exact ih.other hclass hperiod

/-- The qualified names among pieces. -/
def chains (pieces : List Piece) : List QualifiedName :=
  pieces.filterMap fun
    | .name chain _ => some chain
    | .other _ _ => none

/-- The names among the tokens are the chains. -/
theorem filter_shownTokens (pieces : List Piece) :
    (shownTokens pieces).filter (fun token => token.kind = .identifier) =
      (chains pieces).map fun chain => ⟨.identifier, chain.text⟩ := by
  induction pieces with
  | nil => rfl
  | cons piece pieces ih =>
    cases piece with
    | name chain trailing =>
      rw [shownTokens]
      split
      · simp [Token.period, ih, chains]
      · simp [ih, chains]
    | other lexeme hclass => simp [shownTokens, Token.ofLexeme, hclass, ih, chains]

/-- **Qualified names are folded.** Lexemes are cut into qualified names and other lexemes in one
way only, and their tokens are those of the pieces. The identifiers among the tokens are the
qualified names, in their order, and these are the tokens of every text that has the lexemes. -/
theorem Token.ofLexemes_folds_names (lexemes : List Lexeme) :
    ∃ pieces, Segmented lexemes pieces ∧ (∀ others, Segmented lexemes others → others = pieces) ∧
      ofLexemes lexemes = shownTokens pieces ∧
      (ofLexemes lexemes).filter (fun token => token.kind = .identifier) =
        (chains pieces).map (fun chain => ⟨.identifier, chain.text⟩) ∧
      ∀ text : String, Lexeme.scan text.toList = .ok lexemes →
        tokenize text = .ok (shownTokens pieces) := by
  obtain ⟨pieces, hpieces, htokens⟩ := (folds lexemes).free
  have hofLexemes : ofLexemes lexemes = shownTokens pieces := htokens
  refine ⟨pieces, hpieces, fun others ho => hpieces.unique ho, hofLexemes, ?_, ?_⟩
  · rw [hofLexemes, filter_shownTokens]
  · intro text hscan
    rw [tokenize, hscan, ← hofLexemes]

-- a quoted word is no keyword, and the period in front of the keyword joins nothing
example :
    Token.ofLexemes [.word "A" false, .period, .period, .word "FROM" true, .period,
      .word "FROM" false, .word "B" false] =
      [⟨.identifier, "A.FROM"⟩, ⟨.fromWord, "FROM"⟩, ⟨.identifier, "B"⟩] := by
  decide +kernel

end CobolAtlas.Sql
