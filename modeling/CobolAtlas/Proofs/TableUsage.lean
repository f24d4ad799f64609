import Mathlib.Data.List.Sort
import CobolAtlas.Proofs.Distinct
import CobolAtlas.TableUsage

/-!
# The use of tables is an exact union

A table has an entry if a statement names it, and a flag if a statement that names it applies that
operation (`Uses`). A statement without an operation gives an entry and no flag. These conditions,
with the order of the names and the dictionary, leave one list only (`ExactUsage.unique`). So
statements that use the same tables in the same ways have the same entries, in whatever order they
stand and however often they name a table.
-/

namespace CobolAtlas

/-- A declaration of the data division reads its tables, any other statement applies its own
operation to them. -/
def Statement.Applies (statement : Statement) (operation : Operation) : Prop :=
  (statement.division = .data ∧ operation = .read) ∨
    (statement.division ≠ .data ∧ operation = statement.operation)

def Uses (statements : List Statement) (table : String) (operation : Operation) : Prop :=
  ∃ statement ∈ statements, table ∈ statement.tables ∧ statement.Applies operation

/-- Two statements differ in the order and the repetition of their tables, and in what the use of
tables does not look at. -/
structure Statement.SameTables (statement other : Statement) : Prop where
  division_eq : statement.division = other.division
  operation_eq : statement.operation = other.operation
  mem_tables_iff : ∀ table, table ∈ statement.tables ↔ table ∈ other.tables

theorem Statement.applies_iff (statement : Statement) (operation : Operation) :
    statement.Applies operation ↔ statement.effect = operation := by
  unfold Applies effect
  by_cases hdata : statement.division = .data
  · simp [hdata, eq_comm]
  · simp [hdata, eq_comm]

/-- A table is used when some statement names it. -/
theorem exists_uses_iff (statements : List Statement) (table : String) :
    (∃ operation, Uses statements table operation) ↔
      ∃ statement ∈ statements, table ∈ statement.tables := by
  constructor
  · rintro ⟨_, statement, hmem, htable, _⟩
    exact ⟨statement, hmem, htable⟩
  · rintro ⟨statement, hmem, htable⟩
    exact ⟨_, statement, hmem, htable, (statement.applies_iff _).mpr rfl⟩

namespace TableFlags

/-- The flag of an operation. -/
def has (flags : TableFlags) : Operation → Bool
  | .none => false
  | .read => flags.read
  | .insert => flags.insert
  | .update => flags.update
  | .delete => flags.delete
  | .create => flags.create

theorem eq_of_has {flags others : TableFlags}
    (h : ∀ operation, flags.has operation = others.has operation) : flags = others := by
  cases flags
  cases others
  have hread := h .read
  have hinsert := h .insert
  have hupdate := h .update
  have hdelete := h .delete
  have hcreate := h .create
  simp only [has] at hread hinsert hupdate hdelete hcreate
  simp [hread, hinsert, hupdate, hdelete, hcreate]

theorem has_mark (flags : TableFlags) (applied operation : Operation) :
    (flags.mark applied).has operation = true ↔
      flags.has operation = true ∨ (operation ≠ .none ∧ applied = operation) := by
  cases applied <;> cases operation <;> simp [mark, has]

theorem has_foldl_mark (statements : List Statement) (flags : TableFlags) (operation : Operation) :
    (statements.foldl (fun flags statement => flags.mark statement.effect) flags).has operation =
        true ↔
      flags.has operation = true ∨
        (operation ≠ .none ∧ ∃ statement ∈ statements, statement.effect = operation) := by
  induction statements generalizing flags with
  | nil => simp
  | cons statement rest ih =>
    rw [List.foldl_cons, ih, has_mark, or_assoc, ← and_or_left, List.exists_mem_cons_iff]

end TableFlags

namespace TableUsage

/-- A flag is set by the statements that name the table, whatever their order. -/
theorem has_flagsOf (table : String) (statements : List Statement) (operation : Operation) :
    (flagsOf table statements).has operation = true ↔
      operation ≠ .none ∧ Uses statements table operation := by
  have hempty : ({} : TableFlags).has operation = false := by
    cases operation <;> rfl
  rw [flagsOf, TableFlags.has_foldl_mark, hempty]
  simp only [Bool.false_eq_true, false_or, Uses, Statement.applies_iff, List.mem_filter,
    List.contains_iff_mem, and_assoc]

/-- The entries of statements: the names in the order of their code points, each with the flags of
what statements apply to the table. -/
structure ExactUsage (statements : List Statement) (dictionary : Dictionary)
    (usages : List TableUsage) : Prop where
  ascending : usages.Pairwise fun usage next => usage.name < next.name
  mem_names_iff : ∀ table, table ∈ usages.map TableUsage.name ↔
    ∃ statement ∈ statements, table ∈ statement.tables
  has_iff : ∀ usage ∈ usages, ∀ operation, usage.flags.has operation = true ↔
    operation ≠ .none ∧ Uses statements usage.name operation
  title_eq : ∀ usage ∈ usages, usage.title = dictionary.readable usage.name

theorem exactUsage_ofStatements (statements : List Statement) (dictionary : Dictionary) :
    ExactUsage statements dictionary (ofStatements statements dictionary) where
  ascending := by
    rw [ofStatements, List.pairwise_map]
    exact pairwise_ascending _
  mem_names_iff := by
    intro table
    have hnames : (ofStatements statements dictionary).map TableUsage.name =
        ascending (statements.flatMap Statement.tables) := by
      rw [ofStatements, List.map_map]
      exact List.map_id _
    rw [hnames, mem_ascending, List.mem_flatMap]
  has_iff := by
    intro usage husage operation
    obtain ⟨table, _, rfl⟩ := List.mem_map.mp husage
    exact has_flagsOf table statements operation
  title_eq := by
    intro usage husage
    obtain ⟨table, _, rfl⟩ := List.mem_map.mp husage
    rfl

section

variable {statements others : List Statement} {dictionary : Dictionary}
  {usages usages' : List TableUsage}
  (hsame : ∀ table operation, Uses statements table operation ↔ Uses others table operation)

include hsame

theorem ExactUsage.mem_of_mem (h : ExactUsage statements dictionary usages)
    (h' : ExactUsage others dictionary usages') {usage : TableUsage} (husage : usage ∈ usages) :
    usage ∈ usages' := by
  have hname : usage.name ∈ usages'.map TableUsage.name := by
    rw [h'.mem_names_iff, ← exists_uses_iff]
    simp only [← hsame]
    rw [exists_uses_iff, ← h.mem_names_iff]
    exact List.mem_map_of_mem husage
  obtain ⟨usage', husage', heq⟩ := List.mem_map.mp hname
  -- the name decides the title and all flags
  have htitle : usage'.title = usage.title := by
    rw [h'.title_eq usage' husage', h.title_eq usage husage, heq]
  have hflags : usage'.flags = usage.flags := by
    apply TableFlags.eq_of_has
    intro operation
    rw [Bool.eq_iff_iff, h'.has_iff usage' husage', h.has_iff usage husage, heq, hsame]
  have hentry : usage' = usage := by
    cases usage
    cases usage'
    simp_all
  exact hentry ▸ husage'

/-- The usages are determined by what is used. Both lists ascend, so it is enough that they have the
same members. -/
theorem ExactUsage.unique (h : ExactUsage statements dictionary usages)
    (h' : ExactUsage others dictionary usages') : usages = usages' := by
  have : Std.Irrefl fun usage next : TableUsage => usage.name < next.name :=
    ⟨fun usage => String.lt_irrefl usage.name⟩
  have : Std.Antisymm fun usage next : TableUsage => usage.name < next.name :=
    ⟨fun _ _ hlt hgt => absurd hgt (String.lt_asymm hlt)⟩
  apply h.ascending.eq_of_mem_iff h'.ascending
  intro usage
  constructor
  · exact h.mem_of_mem hsame h'
  · exact h'.mem_of_mem (fun table operation => (hsame table operation).symm) h

theorem ofStatements_congr :
    ofStatements others dictionary = ofStatements statements dictionary :=
  ((exactUsage_ofStatements statements dictionary).unique hsame
    (exactUsage_ofStatements others dictionary)).symm

end

theorem uses_of_perm {statements others : List Statement} (h : statements.Perm others)
    (table : String) (operation : Operation) :
    Uses statements table operation ↔ Uses others table operation := by
  simp only [Uses, h.mem_iff]

theorem uses_of_sameTables {statements others : List Statement}
    (h : List.Forall₂ Statement.SameTables statements others) (table : String)
    (operation : Operation) :
    Uses statements table operation ↔ Uses others table operation := by
  induction h with
  | nil => exact Iff.rfl
  | cons hsame _ ih =>
    simp only [Uses, List.exists_mem_cons_iff]
    apply or_congr
    · rw [hsame.mem_tables_iff, Statement.Applies, hsame.division_eq, hsame.operation_eq]
      rfl
    · exact ih

/-- **The use of tables is an exact union.** There is one entry for each table that a statement
names, in ascending order, and the entries do not depend on the order of the statements or on how
often a statement names a table. -/
theorem ofStatements_exact (statements : List Statement) (dictionary : Dictionary) :
    ExactUsage statements dictionary (ofStatements statements dictionary) ∧
      (∀ others, statements.Perm others →
        ofStatements others dictionary = ofStatements statements dictionary) ∧
      ∀ others, List.Forall₂ Statement.SameTables statements others →
        ofStatements others dictionary = ofStatements statements dictionary := by
  refine ⟨exactUsage_ofStatements statements dictionary, ?_, ?_⟩
  · intro others hperm
    exact ofStatements_congr (uses_of_perm hperm)
  · intro others hsame
    exact ofStatements_congr (uses_of_sameTables hsame)

/-- A cursor reads two tables, one of them is filled, and a table is locked without any operation.
-/
def stockStatements : List Statement :=
  [⟨"", .none, .data, "", some "CUR-STOCK", ["ORDERS", "STOCK"], 1⟩,
    ⟨"", .insert, .procedure, "MAIN", none, ["STOCK"], 2⟩,
    ⟨"", .none, .procedure, "MAIN", none, ["LOCKS"], 3⟩]

/-- The cursor names a table twice. -/
def repeatedStock : List Statement :=
  [⟨"", .none, .data, "", some "CUR-STOCK", ["STOCK", "ORDERS", "STOCK"], 1⟩,
    ⟨"", .insert, .procedure, "MAIN", none, ["STOCK"], 2⟩,
    ⟨"", .none, .procedure, "MAIN", none, ["LOCKS"], 3⟩]

theorem stockStatements_sameTables :
    List.Forall₂ Statement.SameTables stockStatements repeatedStock := by
  refine .cons ⟨rfl, rfl, ?_⟩ (.cons ⟨rfl, rfl, fun _ => Iff.rfl⟩
    (.cons ⟨rfl, rfl, fun _ => Iff.rfl⟩ .nil))
  intro table
  simp only [List.mem_cons, List.not_mem_nil, or_false]
  grind

theorem stockStatements_exact :
    ExactUsage stockStatements {} (ofStatements stockStatements {}) ∧
      ofStatements stockStatements.reverse {} = ofStatements stockStatements {} ∧
      ofStatements repeatedStock {} = ofStatements stockStatements {} := by
  obtain ⟨hexact, hperm, hrepeated⟩ := ofStatements_exact stockStatements {}
  exact ⟨hexact, hperm _ (List.reverse_perm stockStatements).symm,
    hrepeated _ stockStatements_sameTables⟩

example :
    ofStatements stockStatements ⟨[("STOCK", "stock")], 1⟩ =
      [⟨"LOCKS", "", {}⟩, ⟨"ORDERS", "", { read := true }⟩,
        ⟨"STOCK", "stock", { read := true, insert := true }⟩] := by
  decide

end TableUsage

end CobolAtlas
