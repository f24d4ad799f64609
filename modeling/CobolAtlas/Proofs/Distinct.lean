import CobolAtlas.Section

/-!
# Keeping the first of each key

`keepFirst` keeps some elements in their order (`keepFirst_sublist`), no two of one key
(`nodup_keepFirst`), and of each key the first one (`mem_keepFirst_iff`, `keepFirst_places`). It can
be done piece by piece (`keepFirst_append`, `keepFirst_keepFirst_append`). The calls of a section
that has ended are kept by their targets. `ascending` keeps each text once (`mem_ascending`) and
puts them in order (`pairwise_ascending`).
-/

namespace CobolAtlas

variable {α β : Type} [DecidableEq β] (key : α → β)

theorem keepFirstAfter_sublist (seen : List β) (as : List α) :
    (keepFirstAfter key seen as).Sublist as := by
  induction as generalizing seen with
  | nil => exact .slnil
  | cons a rest ih =>
    unfold keepFirstAfter
    split
    · exact (ih seen).cons a
    · exact (ih (key a :: seen)).cons_cons a

/-- The keys that are kept are new and differ from each other. -/
theorem nodup_keepFirstAfter (seen : List β) (as : List α) :
    ((keepFirstAfter key seen as).map key).Nodup ∧
      ∀ b ∈ (keepFirstAfter key seen as).map key, b ∉ seen := by
  induction as generalizing seen with
  | nil => simp [keepFirstAfter]
  | cons a rest ih =>
    unfold keepFirstAfter
    split
    · exact ih seen
    · rename_i hnew
      obtain ⟨hnodup, hfresh⟩ := ih (key a :: seen)
      rw [List.map_cons]
      refine ⟨List.nodup_cons.mpr ⟨?_, hnodup⟩, ?_⟩
      · intro hmem
        exact hfresh _ hmem List.mem_cons_self
      · intro b hb
        rcases List.mem_cons.mp hb with rfl | hb
        · exact hnew
        · exact fun hseen => hfresh b hb (List.mem_cons_of_mem _ hseen)

/-- An element is kept exactly when it is the first with its key and the key is new. -/
theorem mem_keepFirstAfter_iff (seen : List β) (as : List α) (a : α) :
    a ∈ keepFirstAfter key seen as ↔
      key a ∉ seen ∧ as.find? (fun b => key b = key a) = some a := by
  induction as generalizing seen with
  | nil => simp [keepFirstAfter]
  | cons first rest ih =>
    unfold keepFirstAfter
    by_cases hseen : key first ∈ seen
    · rw [if_pos hseen, ih seen]
      apply and_congr_right
      intro hnew
      -- the first element has another key, so the search passes over it
      have hother : key first ≠ key a := by
        intro heq
        exact hnew (heq ▸ hseen)
      simp [hother]
    · rw [if_neg hseen, List.mem_cons, ih (key first :: seen)]
      by_cases hkey : key first = key a
      · rw [List.find?_cons_of_pos (by simpa using hkey), Option.some.injEq]
        constructor
        · rintro (rfl | ⟨hnew, _⟩)
          · exact ⟨hseen, rfl⟩
          · exact absurd (hkey ▸ List.mem_cons_self) hnew
        · rintro ⟨_, rfl⟩
          exact .inl rfl
      · rw [List.find?_cons_of_neg (by simpa using hkey), List.mem_cons, not_or]
        constructor
        · rintro (rfl | ⟨⟨_, hnew⟩, hfind⟩)
          · exact absurd rfl hkey
          · exact ⟨hnew, hfind⟩
        · rintro ⟨hnew, hfind⟩
          exact .inr ⟨⟨Ne.symm hkey, hnew⟩, hfind⟩

theorem keepFirst_sublist (as : List α) : (keepFirst key as).Sublist as :=
  keepFirstAfter_sublist key [] as

theorem nodup_keepFirst (as : List α) : ((keepFirst key as).map key).Nodup :=
  (nodup_keepFirstAfter key [] as).1

/-- The elements that are kept are the first ones of their keys. -/
theorem mem_keepFirst_iff (as : List α) (a : α) :
    a ∈ keepFirst key as ↔ as.find? (fun b => key b = key a) = some a := by
  rw [keepFirst, mem_keepFirstAfter_iff]
  simp

/-- No key is lost. -/
theorem mem_map_keepFirst_iff (as : List α) (b : β) :
    b ∈ (keepFirst key as).map key ↔ b ∈ as.map key := by
  constructor
  · exact fun hb => ((keepFirst_sublist key as).map key).subset hb
  · intro hb
    obtain ⟨a, ha, rfl⟩ := List.mem_map.mp hb
    rcases hfirst : as.find? (fun c => key c = key a) with _ | first
    · exact absurd (decide_eq_true rfl) (List.find?_eq_none.mp hfirst a ha)
    · have hkey : key first = key a := by simpa using List.find?_some hfirst
      rw [← hkey] at hfirst ⊢
      exact List.mem_map_of_mem ((mem_keepFirst_iff key as first).mpr hfirst)

theorem mem_keepFirst_id (bs : List β) (b : β) : b ∈ keepFirst id bs ↔ b ∈ bs := by
  simpa using mem_map_keepFirst_iff id bs b

/-- Which keys have been seen matters, not in which order or how often. -/
theorem keepFirstAfter_congr {seen seen' : List β} (h : ∀ b, b ∈ seen ↔ b ∈ seen')
    (as : List α) : keepFirstAfter key seen as = keepFirstAfter key seen' as := by
  induction as generalizing seen seen' with
  | nil => rfl
  | cons a rest ih =>
    have hcons : ∀ b, b ∈ key a :: seen ↔ b ∈ key a :: seen' := by
      intro b
      rw [List.mem_cons, List.mem_cons, h b]
    simp only [keepFirstAfter, h (key a), ih h, ih hcons]

/-- Behind some elements all their keys have been seen, whether the elements were kept or not. -/
theorem keepFirstAfter_append (seen : List β) (as bs : List α) :
    keepFirstAfter key seen (as ++ bs) =
      keepFirstAfter key seen as ++ keepFirstAfter key (as.map key ++ seen) bs := by
  induction as generalizing seen with
  | nil => rfl
  | cons first rest ih =>
    rw [List.cons_append, keepFirstAfter, keepFirstAfter, List.map_cons]
    by_cases hseen : key first ∈ seen
    · rw [if_pos hseen, if_pos hseen, ih seen]
      -- the key of the first element is no news
      congr 1
      apply keepFirstAfter_congr
      intro b
      constructor
      · exact List.mem_cons_of_mem _
      · intro hb
        rcases List.mem_cons.mp hb with rfl | hb
        · exact List.mem_append_right _ hseen
        · exact hb
    · rw [if_neg hseen, if_neg hseen, ih (key first :: seen), List.cons_append]
      congr 2
      apply keepFirstAfter_congr
      intro b
      simp only [List.cons_append, List.mem_append, List.mem_cons, or_left_comm]

/-- Keeping the first of each key in two parts: the second part sees the keys of the first one. -/
theorem keepFirst_append (as bs : List α) :
    keepFirst key (as ++ bs) = keepFirst key as ++ keepFirstAfter key (as.map key) bs := by
  rw [keepFirst, keepFirstAfter_append, List.append_nil, keepFirst]

/-- One more element is kept if its key is new. -/
theorem keepFirst_concat (as : List α) (a : α) :
    keepFirst key (as ++ [a]) =
      if key a ∈ as.map key then keepFirst key as else keepFirst key as ++ [a] := by
  rw [keepFirst_append, keepFirstAfter]
  split
  · rw [keepFirstAfter, List.append_nil]
  · rw [keepFirstAfter]

/-- Elements of different keys are all kept, unless a key was seen before. -/
theorem keepFirstAfter_eq_self {seen : List β} {as : List α} (hnodup : (as.map key).Nodup)
    (hfresh : ∀ b ∈ as.map key, b ∉ seen) : keepFirstAfter key seen as = as := by
  induction as generalizing seen with
  | nil => rfl
  | cons a rest ih =>
    rw [List.map_cons] at hnodup hfresh
    obtain ⟨hnew, hrest⟩ := List.nodup_cons.mp hnodup
    rw [keepFirstAfter, if_neg (hfresh _ List.mem_cons_self), ih hrest]
    intro b hb hseen
    rcases List.mem_cons.mp hseen with rfl | hseen
    · exact hnew hb
    · exact hfresh b (List.mem_cons_of_mem _ hb) hseen

theorem keepFirst_keepFirst (as : List α) : keepFirst key (keepFirst key as) = keepFirst key as :=
  keepFirstAfter_eq_self key (nodup_keepFirst key as) (fun _ _ => List.not_mem_nil)

/-- **Absorption.** What follows sees no difference between some elements and those of them that
are kept. -/
theorem keepFirst_keepFirst_append (as bs : List α) :
    keepFirst key (keepFirst key as ++ bs) = keepFirst key (as ++ bs) := by
  rw [keepFirst_append, keepFirst_append, keepFirst_keepFirst,
    keepFirstAfter_congr key (mem_map_keepFirst_iff key as)]

/-! ### Places -/

/-- At a place stands the first element of its key. -/
def IsFirstAt (as : List α) (i : Nat) : Prop :=
  ∃ a, as[i]? = some a ∧ key a ∉ (as.take i).map key

/-- The elements that are kept stand at some places, in their order: at those where a key comes for
the first time and was not seen before. -/
theorem keepFirstAfter_places (seen : List β) (as : List α) :
    ∃ places : List Nat, places.Pairwise (· < ·) ∧
      (∀ i, i ∈ places ↔ ∃ a, as[i]? = some a ∧ key a ∉ seen ∧ key a ∉ (as.take i).map key) ∧
      (keepFirstAfter key seen as).map some = places.map (as[·]?) := by
  induction as generalizing seen with
  | nil => exact ⟨[], .nil, by simp, rfl⟩
  | cons first rest ih =>
    rw [keepFirstAfter]
    by_cases hseen : key first ∈ seen
    · obtain ⟨places, hsorted, hmem, hkept⟩ := ih seen
      refine ⟨places.map (· + 1), ?_, ?_, ?_⟩
      · exact hsorted.map _ (fun _ _ hlt => Nat.succ_lt_succ hlt)
      · intro i
        cases i with
        | zero => simpa using hseen
        | succ i =>
          -- nothing that is new has the key of the first element
          have hother : ∀ a, key a ∉ seen → key a ≠ key first :=
            fun a hnew heq => hnew (heq ▸ hseen)
          simp only [List.mem_map, Nat.succ_inj, exists_eq_right, hmem, List.getElem?_cons_succ,
            List.take_succ_cons, List.map_cons, List.mem_cons, not_or]
          constructor
          · rintro ⟨a, ha, hnew, hfirst⟩
            exact ⟨a, ha, hnew, hother a hnew, hfirst⟩
          · rintro ⟨a, ha, hnew, _, hfirst⟩
            exact ⟨a, ha, hnew, hfirst⟩
      · rw [if_pos hseen, hkept, List.map_map]
        rfl
    · obtain ⟨places, hsorted, hmem, hkept⟩ := ih (key first :: seen)
      refine ⟨0 :: places.map (· + 1), ?_, ?_, ?_⟩
      · refine List.pairwise_cons.mpr ⟨by simp, ?_⟩
        exact hsorted.map _ (fun _ _ hlt => Nat.succ_lt_succ hlt)
      · intro i
        cases i with
        | zero => simpa using hseen
        | succ i =>
          simp only [List.mem_cons, Nat.add_one_ne_zero, false_or, List.mem_map, Nat.succ_inj,
            exists_eq_right, hmem, List.getElem?_cons_succ, List.take_succ_cons, List.map_cons,
            not_or]
          constructor
          · rintro ⟨a, ha, ⟨hne, hnew⟩, hfirst⟩
            exact ⟨a, ha, hnew, hne, hfirst⟩
          · rintro ⟨a, ha, hnew, hne, hfirst⟩
            exact ⟨a, ha, ⟨hne, hnew⟩, hfirst⟩
      · rw [if_neg hseen, List.map_cons, List.map_cons, hkept, List.map_map]
        rfl

theorem keepFirst_places (as : List α) :
    ∃ places : List Nat, places.Pairwise (· < ·) ∧ (∀ i, i ∈ places ↔ IsFirstAt key as i) ∧
      (keepFirst key as).map some = places.map (as[·]?) := by
  simpa [IsFirstAt, keepFirst] using keepFirstAfter_places key [] as

/-- **The calls of a section that ends.** Kept are the calls at the places where a target comes for
the first time, in their order. So they are some of the calls, no two of one target, none of the
targets is lost, and the call kept for a target is the first one as it stands. Calls that follow see
no difference between all calls and those that are kept. -/
theorem Call.dedup_keeps_first (calls more : List Call) :
    (∃ places : List Nat, places.Pairwise (· < ·) ∧
      (∀ i, i ∈ places ↔ IsFirstAt Call.target calls i) ∧
      (dedup calls).map some = places.map (calls[·]?)) ∧
    (dedup calls).Sublist calls ∧
    ((dedup calls).map Call.target).Nodup ∧
    (∀ call ∈ calls, call.target ∈ (dedup calls).map Call.target) ∧
    (∀ call, call ∈ dedup calls ↔
      calls.find? (fun other => other.target = call.target) = some call) ∧
    dedup (calls ++ more) = dedup (dedup calls ++ more) := by
  refine ⟨keepFirst_places target calls, keepFirst_sublist target calls,
    nodup_keepFirst target calls, ?_, mem_keepFirst_iff target calls,
    (keepFirst_keepFirst_append target calls more).symm⟩
  intro call hcall
  exact (mem_map_keepFirst_iff target calls _).mpr (List.mem_map_of_mem hcall)

/-! ### Texts in order -/

@[simp] theorem mem_insertAscending {s u : String} {ts : List String} :
    u ∈ insertAscending s ts ↔ u = s ∨ u ∈ ts := by
  induction ts with
  | nil => simp [insertAscending]
  | cons t rest ih =>
    unfold insertAscending
    split
    · exact List.mem_cons
    split
    · rename_i heq
      subst heq
      simp
    · rw [List.mem_cons, ih, List.mem_cons, or_left_comm]

theorem pairwise_insertAscending (s : String) {ts : List String} (h : ts.Pairwise (· < ·)) :
    (insertAscending s ts).Pairwise (· < ·) := by
  induction ts with
  | nil => simp [insertAscending]
  | cons t rest ih =>
    obtain ⟨ht, hrest⟩ := List.pairwise_cons.mp h
    unfold insertAscending
    split
    · rename_i hst
      refine List.pairwise_cons.mpr ⟨?_, h⟩
      intro u hu
      rcases List.mem_cons.mp hu with rfl | hu
      · exact hst
      · exact String.lt_trans hst (ht u hu)
    split
    · exact h
    · rename_i hst hne
      refine List.pairwise_cons.mpr ⟨?_, ih hrest⟩
      intro u hu
      rcases mem_insertAscending.mp hu with rfl | hu
      · -- the order is total
        apply Classical.byContradiction
        intro hts
        exact hne (String.le_antisymm (String.not_lt.mp hts) (String.not_lt.mp hst))
      · exact ht u hu

@[simp] theorem mem_ascending {s : String} {ss : List String} : s ∈ ascending ss ↔ s ∈ ss := by
  induction ss with
  | nil => simp [ascending]
  | cons t rest ih =>
    have hcons : ascending (t :: rest) = insertAscending t (ascending rest) := rfl
    rw [hcons, mem_insertAscending, ih, List.mem_cons]

/-- Ascending order is strict, so no text comes twice. -/
theorem pairwise_ascending (ss : List String) : (ascending ss).Pairwise (· < ·) := by
  induction ss with
  | nil => exact .nil
  | cons t rest ih => exact pairwise_insertAscending t ih

end CobolAtlas
