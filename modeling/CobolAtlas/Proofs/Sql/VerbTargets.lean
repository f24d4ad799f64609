import CobolAtlas.Proofs.Sql.NamedTables

/-!
# Targets of verbs

The target of `INSERT`, `UPDATE` or `CREATE` is the first identifier behind it. The search takes it
as a table unless the verb ends a list behind `FROM` or `JOIN`: such a verb is spent on ending the
list, and nothing waits for its target. Even then the target may be taken for another reason,
because a verb still waits from in front of the list, another verb follows, or `FROM` or `JOIN`
stands right in front of the target (`Taken`).
-/

namespace CobolAtlas.Sql

/-- Where `Q` holds from one place to a later one, only what `P` has done in between is new. -/
theorem since_iff_of_le {P Q : Nat → Prop} {i j : Nat} (hij : i ≤ j)
    (hQ : ∀ k, i ≤ k → k < j → Q k) :
    Since P Q j ↔ Since P Q i ∨ ∃ k, i ≤ k ∧ k < j ∧ P k := by
  constructor
  · rintro ⟨k, hkj, hP, hbetween⟩
    rcases Nat.lt_or_ge k i with hki | hik
    · exact .inl ⟨k, hki, hP, fun m hm => hbetween m (Nat.lt_of_lt_of_le hm hij)⟩
    · exact .inr ⟨k, hik, hkj, hP⟩
  · rintro (⟨k, hki, hP, hbetween⟩ | ⟨k, hik, hkj, hP⟩)
    · refine ⟨k, Nat.lt_of_lt_of_le hki hij, hP, ?_⟩
      intro m hmj hkm
      rcases Nat.lt_or_ge m i with hmi | him
      · exact hbetween m hmi hkm
      · exact hQ m him hmj
    · refine ⟨k, hkj, hP, ?_⟩
      intro m hmj hkm
      exact hQ m (Nat.le_trans hik (Nat.le_of_lt hkm)) hmj

/-- The first identifier behind a place. -/
structure FirstBehind (tokens : List Token) (i j : Nat) : Prop where
  lt : i < j
  identifier : StandsAt [.identifier] tokens j
  first : ∀ k, k < j → i < k → ¬ StandsAt [.identifier] tokens k

/-- Why the target at `j` of the verb at `i` is taken as a table. -/
def Taken (tokens : List Token) (i j : Nat) : Prop :=
  ¬ InList tokens i ∨ Awaited tokens i ∨ (∃ k, k < j ∧ i < k ∧ Effective tokens k) ∨
    StandsAt [.fromWord, .joinWord] tokens (j - 1)

instance (tokens : List Token) (i j : Nat) : Decidable (Taken tokens i j) :=
  inferInstanceAs (Decidable (_ ∨ _ ∨ _ ∨ _))

section

variable {tokens : List Token} {i j : Nat}
  (hverb : StandsAt [.insertWord, .updateWord, .createWord] tokens i)
  (hfirst : FirstBehind tokens i j)

include hverb hfirst

/-- No identifier stands from the verb up to its target. -/
theorem not_identifier_of_lt {k : Nat} (hik : i ≤ k) (hkj : k < j) :
    ¬ StandsAt [.identifier] tokens k := by
  rcases Nat.lt_or_eq_of_le hik with hlt | rfl
  · exact hfirst.first k hkj hlt
  · rcases htoken : tokens[i]? with _ | token
    · simp [StandsAt, htoken]
    · rw [standsAt_iff htoken] at hverb ⊢
      intro hidentifier
      rw [List.mem_singleton.mp hidentifier] at hverb
      exact absurd hverb (by decide)

/-- Between a verb and its first name no list can begin except with the word right in front of the
name. -/
theorem inList_target_iff :
    InList tokens j ↔ StandsAt [.fromWord, .joinWord] tokens (j - 1) := by
  have hsucc : j - 1 + 1 = j := Nat.succ_pred_eq_of_pos (Nat.zero_lt_of_lt hfirst.lt)
  have hnot : ¬ StandsAt [.identifier] tokens (j - 1) :=
    not_identifier_of_lt hverb hfirst (Nat.le_pred_of_lt hfirst.lt) (by omega)
  rw [← hsucc, InList, since_succ, hsucc]
  constructor
  · rintro (hlist | ⟨hidentifier, _⟩)
    · exact hlist
    · exact absurd hidentifier hnot
  · exact .inl

/-- The first name behind a verb is waited for when a verb from there on counts, or when an earlier
one is still waiting. -/
theorem awaited_target_iff :
    Awaited tokens j ↔ Awaited tokens i ∨ ∃ k, i ≤ k ∧ k < j ∧ Effective tokens k := by
  apply since_iff_of_le (Nat.le_of_lt hfirst.lt)
  rintro k hik hkj ⟨hidentifier, _⟩
  exact not_identifier_of_lt hverb hfirst hik hkj hidentifier

theorem namesTable_target_iff : NamesTable tokens j ↔ Taken tokens i j := by
  have heffective : (∃ k, i ≤ k ∧ k < j ∧ Effective tokens k) ↔
      ¬ InList tokens i ∨ ∃ k, k < j ∧ i < k ∧ Effective tokens k := by
    constructor
    · rintro ⟨k, hik, hkj, heffective⟩
      rcases Nat.lt_or_eq_of_le hik with hlt | rfl
      · exact .inr ⟨k, hkj, hlt, heffective⟩
      · exact .inl heffective.2
    · rintro (hlist | ⟨k, hkj, hik, heffective⟩)
      · exact ⟨i, Nat.le_refl i, hfirst.lt, hverb, hlist⟩
      · exact ⟨k, Nat.le_of_lt hik, hkj, heffective⟩
  have hidentifier := hfirst.identifier
  rw [NamesTable, Listed, Unlisted, inList_target_iff hverb hfirst,
    awaited_target_iff hverb hfirst, heffective, Taken]
  by_cases hlist : StandsAt [.fromWord, .joinWord] tokens (j - 1)
  · simp [hidentifier, hlist]
  · simp only [hidentifier, hlist, not_false_eq_true, true_and, false_or, or_false, and_false]
    exact or_left_comm

/-- **Targets of verbs.** A verb that ends no list behind `FROM` or `JOIN` has its target among the
tables. In general the target is there if it is taken, or if another token with its text names a
table. -/
theorem target_mem_referencedTables_iff {target : Token} (htarget : tokens[j]? = some target) :
    (¬ InList tokens i → target.text ∈ referencedTables tokens) ∧
      (target.text ∈ referencedTables tokens ↔
        Taken tokens i j ∨ ∃ k token, k ≠ j ∧ tokens[k]? = some token ∧
          token.text = target.text ∧ NamesTable tokens k) := by
  have hmem : target.text ∈ referencedTables tokens ↔
      Taken tokens i j ∨ ∃ k token, k ≠ j ∧ tokens[k]? = some token ∧
        token.text = target.text ∧ NamesTable tokens k := by
    rw [mem_referencedTables, ← namesTable_target_iff hverb hfirst]
    constructor
    · rintro ⟨k, token, htoken, htext, hnames⟩
      by_cases hkj : k = j
      · subst hkj
        exact .inl hnames
      · exact .inr ⟨k, token, hkj, htoken, htext, hnames⟩
    · rintro (hnames | ⟨k, token, _, hfound⟩)
      · exact ⟨j, target, htarget, rfl, hnames⟩
      · exact ⟨k, token, hfound⟩
  exact ⟨fun hlist => hmem.mpr (.inl (.inl hlist)), hmem⟩

end

/-- The second `UPDATE` ends the list behind `FROM` and is not heard. -/
def spentUpdate : List Token :=
  [⟨.updateWord, "UPDATE"⟩, ⟨.identifier, "STOCK"⟩, ⟨.other, "SET"⟩, ⟨.identifier, "QTY"⟩,
    ⟨.fromWord, "FROM"⟩, ⟨.identifier, "ORDERS"⟩, ⟨.updateWord, "UPDATE"⟩,
    ⟨.identifier, "CUSTOMER"⟩]

theorem spentUpdate_first_target :
    StandsAt [.insertWord, .updateWord, .createWord] spentUpdate 0 ∧
      FirstBehind spentUpdate 0 1 ∧ spentUpdate[1]? = some ⟨.identifier, "STOCK"⟩ ∧
      (¬ InList spentUpdate 0 → "STOCK" ∈ referencedTables spentUpdate) ∧
      ("STOCK" ∈ referencedTables spentUpdate ↔
        Taken spentUpdate 0 1 ∨ ∃ k token, k ≠ 1 ∧ spentUpdate[k]? = some token ∧
          token.text = "STOCK" ∧ NamesTable spentUpdate k) := by
  have hverb : StandsAt [.insertWord, .updateWord, .createWord] spentUpdate 0 := by decide
  have hfirst : FirstBehind spentUpdate 0 1 := ⟨by decide, by decide, by decide⟩
  have htarget : spentUpdate[1]? = some ⟨.identifier, "STOCK"⟩ := rfl
  exact ⟨hverb, hfirst, htarget, target_mem_referencedTables_iff hverb hfirst htarget⟩

theorem spentUpdate_loses_target :
    StandsAt [.insertWord, .updateWord, .createWord] spentUpdate 6 ∧
      FirstBehind spentUpdate 6 7 ∧ spentUpdate[7]? = some ⟨.identifier, "CUSTOMER"⟩ ∧
      ¬ Taken spentUpdate 6 7 ∧ "CUSTOMER" ∉ referencedTables spentUpdate := by
  refine ⟨by decide, ⟨by decide, by decide, by decide⟩, rfl, ?_, ?_⟩
  · decide
  · decide

end CobolAtlas.Sql
