import Mathlib.Data.Finset.Card
import CobolAtlas.TableUsage
import CobolAtlas.Proofs.Distinct
import CobolAtlas.Proofs.Words

/-!
# Dictionaries are read back

A dictionary is written as lines of two kinds, records and lines with another number of commas, each
ended by a line feed with or without a carriage return (`written`). Reading the text finds the
records again, in their order: the cut into lines takes off one carriage return, the reader of a
record takes off the others, and neither changes the number of commas. Of the records of a table the
last one stays.
-/

namespace CobolAtlas

namespace Chars

theorem count_dropEndWhile {p : Char → Bool} {d : Char} (h : p d = false) (cs : List Char) :
    (dropEndWhile p cs).count d = cs.count d := by
  induction cs using List.reverseRecOn with
  | nil => rfl
  | append_singleton cs c ih =>
    by_cases hc : p c = true
    · have hne : c ≠ d := by
        rintro rfl
        rw [h] at hc
        exact absurd hc Bool.false_ne_true
      rw [dropEndWhile_concat hc, ih, List.count_append, List.count_singleton]
      simp [hne]
    · rw [dropEndWhile, List.reverse_concat, List.dropWhile_cons_of_neg hc, List.reverse_cons,
        List.reverse_reverse]

/-- A carriage return in front of the line feed does not matter, since both places drop it. -/
theorem dropEndWhile_endedLine (cs : List Char) :
    dropEndWhile (· = '\r') (endedLine cs) = dropEndWhile (· = '\r') cs := by
  unfold endedLine
  split
  · rename_i hlast
    obtain ⟨front, rfl⟩ := List.getLast?_eq_some_iff.mp hlast
    rw [List.dropLast_concat, dropEndWhile_concat (by decide)]
  · rfl

theorem length_splitOn (sep : Char) (cs : List Char) :
    (splitOn sep cs).length = cs.count sep + 1 := by
  induction cs with
  | nil => rfl
  | cons c cs ih =>
    by_cases hc : c = sep
    · subst hc
      rw [splitOn_cons_sep, List.length_cons, ih, List.count_cons_self]
    · rcases hpieces : splitOn sep cs with _ | ⟨piece, rest⟩
      · exact absurd hpieces (splitOn_ne_nil sep cs)
      · rw [splitOn_cons_of_ne hc hpieces, List.count_cons_of_ne hc, ← ih, hpieces]
        rfl

theorem lines_append_lf {cs : List Char} (h : '\n' ∉ cs) (rest : List Char) :
    lines (cs ++ '\n' :: rest) = endedLine cs :: lines rest := by
  have hpieces : splitOn '\n' (cs ++ '\n' :: rest) = cs :: splitOn '\n' rest := by
    rw [splitOn_eq, splitOn_eq, List.splitOn_append_cons_self_of_not_mem h]
  have hne := splitOn_ne_nil '\n' rest
  rw [lines, hpieces, List.dropLast_cons_of_ne_nil hne, List.getLast?_cons_of_ne_nil hne]
  rfl

theorem lines_of_not_mem {cs : List Char} (h : '\n' ∉ cs) :
    lines cs = if cs.isEmpty then [] else [cs] := by
  rw [lines, splitOn_eq, List.splitOn_eq_singleton h]
  cases cs <;> rfl

end Chars

namespace Dictionary

/-! ### Records -/

/-- A text that can stand between two commas of a record. -/
structure Field where
  text : String
  plain : ∀ c ∈ text.toList, c ≠ ',' ∧ c ≠ '\n' ∧ c ≠ '\r'

structure Record where
  table : Field
  readable : Field
  column : Field
  columnReadable : Field

/-- A line that is no record. -/
structure OtherLine where
  text : String
  oneLine : '\n' ∉ text.toList
  commas_ne : text.toList.count ',' ≠ 3

inductive Entry where
  | record (record : Record)
  | other (line : OtherLine)

inductive Ending where
  | lf
  | crlf

def Record.fields (record : Record) : List Field :=
  [record.table, record.readable, record.column, record.columnReadable]

def Record.chars (record : Record) : List Char :=
  [','].intercalate (record.fields.map fun field => field.text.toList)

def Entry.chars : Entry → List Char
  | .record entry => entry.chars
  | .other line => line.text.toList

def Entry.record? : Entry → Option Record
  | .record entry => some entry
  | .other _ => none

def Ending.chars : Ending → List Char
  | lf => ['\n']
  | crlf => ['\r', '\n']

/-- The text of a dictionary. The last line may have no end. -/
def written (lines : List (Entry × Ending)) (last : Option Entry) : String :=
  String.ofList (lines.flatMap (fun line => line.1.chars ++ line.2.chars) ++
    last.elim [] Entry.chars)

def recordsOf (lines : List (Entry × Ending)) (last : Option Entry) : List Record :=
  (lines.map Prod.fst ++ last.toList).filterMap Entry.record?

/-- What the reader keeps of a record. -/
def Record.pair (entry : Record) : String × String :=
  (entry.table.text, entry.readable.text)

/-! ### Reading a line -/

theorem record?_congr {cs ds : List Char}
    (h : Chars.dropEndWhile (· = '\r') cs = Chars.dropEndWhile (· = '\r') ds) :
    record? (String.ofList cs) = record? (String.ofList ds) := by
  simp only [record?, Text.dropEndWhile, String.toList_ofList, h]

/-- Only three commas make a record. A line with more or fewer is passed over. -/
theorem record?_of_count_ne {cs : List Char} (h : cs.count ',' ≠ 3) :
    record? (String.ofList cs) = none := by
  have hcount : (Chars.dropEndWhile (· = '\r') cs).count ',' = cs.count ',' :=
    Chars.count_dropEndWhile (by decide) cs
  have hlength := Chars.length_splitOn ',' (Chars.dropEndWhile (· = '\r') cs)
  rw [hcount] at hlength
  unfold record?
  split
  · rename_i hfields
    rw [Text.fields, Text.dropEndWhile, String.toList_ofList, String.toList_ofList] at hfields
    have hfour := congrArg List.length hfields
    rw [List.length_map, hlength] at hfour
    exact absurd (Nat.succ.inj hfour) h
  · rfl

theorem Record.mem_chars {entry : Record} {c : Char} (h : c ∈ entry.chars) :
    c ≠ '\n' ∧ c ≠ '\r' := by
  have hcases : c = ',' ∨ ∃ field ∈ entry.fields, c ∈ field.text.toList := by
    simp only [chars, fields, List.map_cons, List.map_nil, List.intercalate_cons_cons,
      List.intercalate_singleton, List.mem_append, List.mem_singleton] at h
    simp only [fields, List.mem_cons, List.not_mem_nil, or_false, exists_eq_or_imp,
      exists_eq_left]
    tauto
  rcases hcases with rfl | ⟨field, _, hfield⟩
  · decide
  · exact (field.plain c hfield).2

/-- A record is read back from its own line. -/
theorem Record.record?_chars (entry : Record) :
    record? (String.ofList entry.chars) = some entry.pair := by
  have hreturn : Chars.dropEndWhile (· = '\r') entry.chars = entry.chars := by
    apply Chars.dropEndWhile_eq_self
    intro c hc
    simpa using (Record.mem_chars (List.mem_of_getLast? hc)).2
  have hcommas : ∀ piece ∈ entry.fields.map (fun field => field.text.toList), ',' ∉ piece := by
    intro piece hpiece hcomma
    obtain ⟨field, _, rfl⟩ := List.mem_map.mp hpiece
    exact (field.plain ',' hcomma).1 rfl
  have hpieces : Chars.splitOn ',' entry.chars =
      entry.fields.map fun field => field.text.toList := by
    rw [Chars.splitOn_eq, chars]
    exact List.splitOn_intercalate ',' hcommas (by simp [fields])
  simp [record?, Text.fields, Text.dropEndWhile, hreturn, hpieces, fields, pair]

theorem Entry.record?_chars (entry : Entry) :
    Dictionary.record? (String.ofList entry.chars) = entry.record?.map Record.pair := by
  cases entry with
  | record entry => exact entry.record?_chars
  | other line => exact record?_of_count_ne line.commas_ne

theorem Entry.lf_not_mem_chars (entry : Entry) : '\n' ∉ entry.chars := by
  cases entry with
  | record entry => exact fun h => (Record.mem_chars h).1 rfl
  | other line => exact line.oneLine

/-! ### Reading the lines -/

/-- One line of the file gives one record or none, whatever its ending is. -/
theorem Entry.lines_append (entry : Entry) (ending : Ending) (rest : List Char) :
    ∃ line, Chars.lines (entry.chars ++ ending.chars ++ rest) = line :: Chars.lines rest ∧
      Dictionary.record? (String.ofList line) = entry.record?.map Record.pair := by
  have hlf := entry.lf_not_mem_chars
  cases ending with
  | lf =>
    refine ⟨Chars.endedLine entry.chars, ?_, ?_⟩
    · rw [Ending.chars, List.append_assoc]
      exact Chars.lines_append_lf hlf rest
    · rw [record?_congr (Chars.dropEndWhile_endedLine _), entry.record?_chars]
  | crlf =>
    have hlf' : '\n' ∉ entry.chars ++ ['\r'] := by
      simpa using hlf
    refine ⟨Chars.endedLine (entry.chars ++ ['\r']), ?_, ?_⟩
    · rw [← Chars.lines_append_lf hlf' rest, Ending.chars]
      simp only [List.append_assoc, List.cons_append, List.nil_append]
    · rw [record?_congr (Chars.dropEndWhile_endedLine _),
        record?_congr (Chars.dropEndWhile_concat (by decide) _), entry.record?_chars]

theorem filterMap_record?_last (last : Option Entry) :
    ((Chars.lines (last.elim [] Entry.chars)).map String.ofList).filterMap record? =
      (last.toList.filterMap Entry.record?).map Record.pair := by
  cases last with
  | none => rfl
  | some entry =>
    have hrecord := entry.record?_chars
    rw [Option.elim_some, Chars.lines_of_not_mem entry.lf_not_mem_chars]
    by_cases hempty : entry.chars.isEmpty = true
    · -- an empty line is no record
      have hnone : record? (String.ofList entry.chars) = none := by
        rw [List.isEmpty_iff.mp hempty]
        exact record?_of_count_ne (by decide)
      rw [hnone] at hrecord
      have hother : entry.record? = none := by
        simpa using hrecord.symm
      simp [hempty, hother]
    · rw [if_neg hempty]
      cases hkind : entry.record? with
      | none => simp [hrecord, hkind]
      | some found => simp [hrecord, hkind]

/-- The records of a file are those written in it, in order. -/
theorem filterMap_record?_written (lines : List (Entry × Ending)) (last : Option Entry) :
    (Text.lines (written lines last)).filterMap record? =
      (recordsOf lines last).map Record.pair := by
  rw [Text.lines, written, String.toList_ofList]
  induction lines with
  | nil => exact filterMap_record?_last last
  | cons line rest ih =>
    obtain ⟨first, hlines, hfirst⟩ := line.1.lines_append line.2
      (rest.flatMap (fun line => line.1.chars ++ line.2.chars) ++ last.elim [] Entry.chars)
    rw [List.flatMap_cons, List.append_assoc, hlines, List.map_cons, List.filterMap_cons, hfirst,
      ih]
    cases hkind : line.1.record? with
    | none => simp [recordsOf, hkind]
    | some found => simp [recordsOf, hkind]

/-! ### The last record of a table -/

def ofPairs (pairs : List (String × String)) : Dictionary :=
  pairs.foldl (fun dictionary pair => dictionary.insert pair.1 pair.2) {}

theorem ofPairs_concat (pairs : List (String × String)) (pair : String × String) :
    ofPairs (pairs ++ [pair]) = (ofPairs pairs).insert pair.1 pair.2 := by
  rw [ofPairs, List.foldl_concat, ← ofPairs]

/-- A later record for a table replaces the earlier one and leaves every other table alone. -/
theorem find?_put (table readable key : String) (entries : List (String × String)) :
    (put table readable entries).find? (fun entry => entry.1 = key) =
      if table = key then some (table, readable)
      else entries.find? (fun entry => entry.1 = key) := by
  induction entries with
  | nil =>
    by_cases hkey : table = key <;> simp [put, hkey]
  | cons entry rest ih =>
    unfold put
    by_cases hentry : entry.1 = table
    · rw [if_pos hentry]
      by_cases hkey : table = key
      · simp [hkey]
      · simp [hkey, hentry]
    · rw [if_neg hentry, List.find?_cons, List.find?_cons, ih]
      by_cases hkey : entry.1 = key
      · have hother : table ≠ key := fun heq => hentry (hkey.trans heq.symm)
        simp [hkey, hother]
      · simp [hkey]

theorem map_fst_put (table readable : String) (entries : List (String × String)) :
    (put table readable entries).map Prod.fst =
      if table ∈ entries.map Prod.fst then entries.map Prod.fst
      else entries.map Prod.fst ++ [table] := by
  induction entries with
  | nil => rfl
  | cons entry rest ih =>
    unfold put
    by_cases hentry : entry.1 = table
    · simp [hentry]
    · rw [if_neg hentry, List.map_cons, ih, List.map_cons]
      by_cases hmem : table ∈ rest.map Prod.fst
      · rw [if_pos hmem, if_pos (List.mem_cons_of_mem _ hmem)]
      · have hnew : table ∉ entry.1 :: rest.map Prod.fst :=
          List.not_mem_cons_of_ne_of_not_mem (Ne.symm hentry) hmem
        rw [if_neg hmem, if_neg hnew, List.cons_append]

/-- The last record of a table wins. -/
theorem readable_ofPairs (pairs : List (String × String)) (table : String) :
    (ofPairs pairs).readable table =
      ((pairs.filter fun pair => pair.1 = table).getLast?.map Prod.snd).getD "" := by
  induction pairs using List.reverseRecOn with
  | nil => rfl
  | append_singleton pairs pair ih =>
    rw [ofPairs_concat, readable, insert, find?_put, List.filter_append]
    by_cases hkey : pair.1 = table
    · simp [hkey]
    · rw [if_neg hkey, ← readable, ih]
      simp [hkey]

/-- The tables of a dictionary come in the order of their first records. -/
theorem map_fst_ofPairs (pairs : List (String × String)) :
    (ofPairs pairs).entries.map Prod.fst = keepFirst id (pairs.map Prod.fst) := by
  induction pairs using List.reverseRecOn with
  | nil => rfl
  | append_singleton pairs pair ih =>
    rw [ofPairs_concat, insert, map_fst_put, ih, List.map_append, List.map_singleton,
      keepFirst_concat, List.map_id]
    simp only [mem_keepFirst_id, id]

/-- The size counts tables, not records. -/
theorem size_ofPairs (pairs : List (String × String)) :
    (ofPairs pairs).size = (pairs.map Prod.fst).toFinset.card := by
  have hnodup : (keepFirst id (pairs.map Prod.fst)).Nodup := by
    simpa using nodup_keepFirst id (pairs.map Prod.fst)
  have hset : (keepFirst id (pairs.map Prod.fst)).toFinset = (pairs.map Prod.fst).toFinset := by
    ext table
    rw [List.mem_toFinset, List.mem_toFinset, mem_keepFirst_id]
  rw [size, ← List.length_map Prod.fst, map_fst_ofPairs, ← hset,
    List.toFinset_card_of_nodup hnodup]

theorem records_ofPairs (pairs : List (String × String)) :
    (ofPairs pairs).records = pairs.length := by
  induction pairs using List.reverseRecOn with
  | nil => rfl
  | append_singleton pairs pair ih =>
    rw [ofPairs_concat, insert, ih, List.length_append, List.length_singleton]

/-- **A dictionary is read back.** Whatever lines stand between the records and however the lines
are ended, a table has the readable name of its last record, or none, and tables and records are
counted. -/
theorem ofText_written (lines : List (Entry × Ending)) (last : Option Entry) :
    (∀ table, (ofText (written lines last)).readable table =
      (((recordsOf lines last).filter fun entry => entry.table.text = table).getLast?.map
        fun entry => entry.readable.text).getD "") ∧
      (ofText (written lines last)).size =
        ((recordsOf lines last).map fun entry => entry.table.text).toFinset.card ∧
      (ofText (written lines last)).records = (recordsOf lines last).length := by
  have hread : ofText (written lines last) = ofPairs ((recordsOf lines last).map Record.pair) := by
    rw [ofText, filterMap_record?_written, ofPairs]
  rw [hread]
  refine ⟨?_, ?_, ?_⟩
  · intro table
    rw [readable_ofPairs, List.filter_map, List.getLast?_map, Option.map_map]
    rfl
  · rw [size_ofPairs, List.map_map]
    rfl
  · rw [records_ofPairs, List.length_map]

example : (ofText "T1,OLD,C1,X\r\nNOTE\nT1,NEW,C2,Y").readable "T1" = "NEW" := by
  cbv

end Dictionary

end CobolAtlas
