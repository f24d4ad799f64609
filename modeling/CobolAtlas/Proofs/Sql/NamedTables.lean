import CobolAtlas.Proofs.Distinct
import CobolAtlas.Sql.Token

/-!
# Which tokens name tables

The search for tables reads the tokens once, with two flags. Here the same tokens are told by their
places: a token in the list behind `FROM` or `JOIN` (`Listed`), or the first identifier outside of
lists behind a verb that is heard (`Unlisted` and `Awaited`). Both flags say that something has held
ever since something happened (`Since`), so one step lemma serves both, and `mem_namedTables` ties
the flags to the places along the tokens. The tables are those names (`mem_referencedTables`), in
ascending order.
-/

namespace CobolAtlas.Sql

/-! ### Places of tokens -/

/-- `P` holds at a place in front of `i`, and `Q` at every place between the two. -/
def Since (P Q : Nat → Prop) (i : Nat) : Prop :=
  ∃ j, j < i ∧ P j ∧ ∀ k, k < i → j < k → Q k

instance {P Q : Nat → Prop} [DecidablePred P] [DecidablePred Q] (i : Nat) :
    Decidable (Since P Q i) :=
  inferInstanceAs (Decidable (∃ j, j < i ∧ P j ∧ ∀ k, k < i → j < k → Q k))

theorem not_since_zero (P Q : Nat → Prop) : ¬ Since P Q 0 := by
  rintro ⟨j, hj, -⟩
  exact absurd hj (Nat.not_lt_zero j)

/-- At the next place, `P` has just held, or it held before and `Q` still does. -/
theorem since_succ {P Q : Nat → Prop} {i : Nat} :
    Since P Q (i + 1) ↔ P i ∨ Q i ∧ Since P Q i := by
  constructor
  · rintro ⟨j, hj, hP, hQ⟩
    rcases Nat.lt_or_eq_of_le (Nat.le_of_lt_succ hj) with hlt | rfl
    · exact .inr ⟨hQ i (Nat.lt_succ_self i) hlt, j, hlt, hP,
        fun k hk hjk => hQ k (Nat.lt_succ_of_lt hk) hjk⟩
    · exact .inl hP
  · rintro (hP | ⟨hQi, j, hj, hP, hQ⟩)
    · exact ⟨i, Nat.lt_succ_self i, hP, fun k hk hik => absurd hik (by omega)⟩
    · refine ⟨j, Nat.lt_succ_of_lt hj, hP, ?_⟩
      intro k hk hjk
      rcases Nat.lt_or_eq_of_le (Nat.le_of_lt_succ hk) with hlt | rfl
      · exact hQ k hlt hjk
      · exact hQi

/-- A token of one of the classes stands at a place. -/
def StandsAt (classes : List TokenClass) (tokens : List Token) (i : Nat) : Prop :=
  tokens[i]?.any (fun token => classes.contains token.kind) = true

instance (classes : List TokenClass) (tokens : List Token) :
    DecidablePred (StandsAt classes tokens) :=
  fun _ => inferInstanceAs (Decidable (_ = true))

/-- Only identifiers stand between a place and a `FROM` or `JOIN` in front of it. -/
def InList (tokens : List Token) (i : Nat) : Prop :=
  Since (StandsAt [.fromWord, .joinWord] tokens) (StandsAt [.identifier] tokens) i

instance (tokens : List Token) : DecidablePred (InList tokens) :=
  fun i => inferInstanceAs (Decidable (Since _ _ i))

def Listed (tokens : List Token) (i : Nat) : Prop :=
  StandsAt [.identifier] tokens i ∧ InList tokens i

instance (tokens : List Token) : DecidablePred (Listed tokens) :=
  fun _ => inferInstanceAs (Decidable (_ ∧ _))

def Unlisted (tokens : List Token) (i : Nat) : Prop :=
  StandsAt [.identifier] tokens i ∧ ¬ InList tokens i

instance (tokens : List Token) : DecidablePred (Unlisted tokens) :=
  fun _ => inferInstanceAs (Decidable (_ ∧ _))

/-- A verb with a target that is not spent on ending a list. -/
def Effective (tokens : List Token) (i : Nat) : Prop :=
  StandsAt [.insertWord, .updateWord, .createWord] tokens i ∧ ¬ InList tokens i

instance (tokens : List Token) : DecidablePred (Effective tokens) :=
  fun _ => inferInstanceAs (Decidable (_ ∧ _))

/-- An effective verb stands in front of a place, and no unlisted identifier between the two. -/
def Awaited (tokens : List Token) (i : Nat) : Prop :=
  Since (Effective tokens) (fun k => ¬ Unlisted tokens k) i

instance (tokens : List Token) : DecidablePred (Awaited tokens) :=
  fun i => inferInstanceAs (Decidable (Since _ _ i))

def NamesTable (tokens : List Token) (i : Nat) : Prop :=
  Listed tokens i ∨ Unlisted tokens i ∧ Awaited tokens i

instance (tokens : List Token) : DecidablePred (NamesTable tokens) :=
  fun _ => inferInstanceAs (Decidable (_ ∨ _))

section

variable {tokens : List Token} {i : Nat} {token : Token}

theorem standsAt_iff {classes : List TokenClass} (h : tokens[i]? = some token) :
    StandsAt classes tokens i ↔ token.kind ∈ classes := by
  simp [StandsAt, h]

/-- A list of tables goes on through names and is ended by any other word. -/
theorem inList_succ (h : tokens[i]? = some token) :
    InList tokens (i + 1) ↔
      token.kind ∈ [.fromWord, .joinWord] ∨ token.kind = .identifier ∧ InList tokens i := by
  rw [InList, since_succ, standsAt_iff h, standsAt_iff h, List.mem_singleton]
  rfl

/-- A verb waits for one name. -/
theorem awaited_succ (h : tokens[i]? = some token) :
    Awaited tokens (i + 1) ↔
      token.kind ∈ [.insertWord, .updateWord, .createWord] ∧ ¬ InList tokens i ∨
        ¬ (token.kind = .identifier ∧ ¬ InList tokens i) ∧ Awaited tokens i := by
  rw [Awaited, since_succ, Effective, Unlisted, standsAt_iff h, standsAt_iff h, List.mem_singleton]
  rfl

/-- A token names a table in a list, or as the name that a verb waits for. -/
theorem namesTable_iff (h : tokens[i]? = some token) :
    NamesTable tokens i ↔
      token.kind = .identifier ∧ (InList tokens i ∨ Awaited tokens i) := by
  rw [NamesTable, Listed, Unlisted, standsAt_iff h, List.mem_singleton]
  by_cases hlist : InList tokens i <;> simp [hlist]

end

/-! ### The flags of the search -/

namespace TableSearch

/-- Where the search stands behind a token. -/
def next (search : TableSearch) : TokenClass → TableSearch
  | .fromWord | .joinWord => { search with inList := true }
  | .identifier => if search.inList then search else { search with awaitsTarget := false }
  | .insertWord | .updateWord | .createWord =>
    if search.inList then { search with inList := false } else { search with awaitsTarget := true }
  | .other => { search with inList := false }

def takes (search : TableSearch) (kind : TokenClass) : Bool :=
  kind = .identifier && (search.inList || search.awaitsTarget)

end TableSearch

theorem namedTables_cons (search : TableSearch) (token : Token) (rest : List Token) :
    namedTables search (token :: rest) =
      (if search.takes token.kind then [token.text] else []) ++
        namedTables (search.next token.kind) rest := by
  obtain ⟨inList, awaitsTarget⟩ := search
  rcases hkind : token.kind with _ | _ | _ | _ | _ | _ | _ <;> cases inList <;>
    cases awaitsTarget <;> simp [namedTables, hkind, TableSearch.takes, TableSearch.next]

/-- The flags say what the tokens in front of a place are. -/
structure TableSearch.Stands (search : TableSearch) (tokens : List Token) (i : Nat) : Prop where
  inList_iff : search.inList = true ↔ InList tokens i
  awaitsTarget_iff : search.awaitsTarget = true ↔ Awaited tokens i

section

variable {search : TableSearch} {tokens : List Token} {i : Nat} {token : Token}

theorem TableSearch.stands_zero (tokens : List Token) : TableSearch.Stands {} tokens 0 where
  inList_iff := iff_of_false Bool.false_ne_true (not_since_zero _ _)
  awaitsTarget_iff := iff_of_false Bool.false_ne_true (not_since_zero _ _)

/-- Step lemma: the two flags of the search say what the tokens behind it say. -/
theorem TableSearch.Stands.next (h : search.Stands tokens i) (htoken : tokens[i]? = some token) :
    (search.next token.kind).Stands tokens (i + 1) := by
  obtain ⟨inList, awaitsTarget⟩ := search
  obtain ⟨hlist, hawaits⟩ := h
  simp only at hlist hawaits
  constructor
  · rw [inList_succ htoken, ← hlist]
    cases hkind : token.kind <;> cases inList <;> simp [TableSearch.next]
  · rw [awaited_succ htoken, ← hlist, ← hawaits]
    cases hkind : token.kind <;> cases inList <;> simp [TableSearch.next]

theorem TableSearch.Stands.takes_iff (h : search.Stands tokens i)
    (htoken : tokens[i]? = some token) :
    search.takes token.kind = true ↔ NamesTable tokens i := by
  rw [namesTable_iff htoken, ← h.inList_iff, ← h.awaitsTarget_iff]
  simp [TableSearch.takes]

/-- Induction over the tokens that are left. -/
theorem mem_namedTables (h : search.Stands tokens i) (name : String) :
    name ∈ namedTables search (tokens.drop i) ↔
      ∃ k token, i ≤ k ∧ tokens[k]? = some token ∧ token.text = name ∧ NamesTable tokens k := by
  -- the tokens that are left; behind each of them the flags stand one place further
  induction hrest : tokens.drop i generalizing search i with
  | nil =>
    rw [List.drop_eq_nil_iff] at hrest
    simp only [namedTables, List.not_mem_nil, false_iff]
    rintro ⟨k, token, hk, htoken, -⟩
    rw [List.getElem?_eq_none (by omega)] at htoken
    exact absurd htoken (by simp)
  | cons first rest ih =>
    have hfirst : tokens[i]? = some first := by
      rw [← List.head?_drop, hrest, List.head?_cons]
    have hnext : tokens.drop (i + 1) = rest := by
      rw [← List.tail_drop, hrest, List.tail_cons]
    rw [namedTables_cons, List.mem_append, ih (h.next hfirst) hnext]
    constructor
    · rintro (hmem | ⟨k, token, hk, hfound⟩)
      · split at hmem
        · rename_i htakes
          exact ⟨i, first, Nat.le_refl i, hfirst, (List.mem_singleton.mp hmem).symm,
            (h.takes_iff hfirst).mp htakes⟩
        · exact absurd hmem List.not_mem_nil
      · exact ⟨k, token, by omega, hfound⟩
    · rintro ⟨k, token, hk, htoken, rfl, hnames⟩
      rcases Nat.lt_or_eq_of_le hk with hlt | rfl
      · exact .inr ⟨k, token, hlt, htoken, rfl, hnames⟩
      · rw [hfirst, Option.some.injEq] at htoken
        subst htoken
        rw [if_pos ((h.takes_iff hfirst).mpr hnames)]
        exact .inl List.mem_cons_self

end

theorem mem_referencedTables (tokens : List Token) (name : String) :
    name ∈ referencedTables tokens ↔
      ∃ k token, tokens[k]? = some token ∧ token.text = name ∧ NamesTable tokens k := by
  rw [referencedTables, mem_ascending]
  simpa using mem_namedTables (TableSearch.stands_zero tokens) name

/-- **The tables of tokens.** They are the texts of the identifiers that stand in a list behind
`FROM` or `JOIN` and of the first identifiers outside of lists behind an effective verb, no others,
and they stand in strictly ascending order. -/
theorem referencedTables_exact (tokens : List Token) :
    (referencedTables tokens).Pairwise (· < ·) ∧
      ∀ name, name ∈ referencedTables tokens ↔
        ∃ i token, tokens[i]? = some token ∧ token.text = name ∧
          (Listed tokens i ∨ Unlisted tokens i ∧ Awaited tokens i) := by
  refine ⟨pairwise_ascending _, ?_⟩
  intro name
  exact mem_referencedTables tokens name

-- the verb ends the list and is spent on that, so the identifier behind it is no table
example :
    (List.range 4).filter (NamesTable
      [⟨.fromWord, "FROM"⟩, ⟨.identifier, "A"⟩, ⟨.updateWord, "UPDATE"⟩, ⟨.identifier, "B"⟩] ·) =
      [1] := by
  decide

end CobolAtlas.Sql
