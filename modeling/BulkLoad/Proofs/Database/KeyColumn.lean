import BulkLoad.Proofs.Database.Declared

/-!
# Values of primary keys

A table is declared clause by clause (`TableDef.declare`). To name the primary key makes its column required, but only a
column that has been declared before; a column that is declared behind its key stays as it was declared
(`TableDef.requires`, `TableDef.nullable?_declare`). No clause makes a required column optional again, and none changes
the column that a name stands for.

`Database.key_of_requires`: in every reachable database all rows of a table have a value in the column of its primary
key, if the clauses of the table make this column required. If they do not, each row that a statement accepts would be
accepted without that value just as well, so that the condition cannot be weakened; `Database.not_key_of_declared` is a
table with such a row.
-/

namespace BulkLoad

open List

/-! ## Declarations by clauses -/

namespace TableDef

/-- A clause of the declaration of a table. -/
inductive Clause
  | column (name : String) (type : ColumnType)
  | required (name : String) (type : ColumnType)
  | primaryKey (column : String)
  | foreignKey (column references : String)
deriving DecidableEq

/-- The declaration with a further clause. -/
def add (t : TableDef) : Clause → TableDef
  | .column name type => t.addColumn name type
  | .required name type => t.addRequired name type
  | .primaryKey column => t.setPrimaryKey column
  | .foreignKey column references => t.addForeignKey column references

/-- The declaration of a table by clauses, in their order. -/
def declare (name : String) (clauses : List Clause) : TableDef := clauses.foldl add { name := name }

/-- Is a column required by the clauses? What counts is the first clause that declares a column of this name: it makes
the column required itself, or a later clause names the column as the primary key. -/
def requires (column : String) : List Clause → Bool
  | [] => false
  | .column name _ :: rest => if name = column then rest.contains (.primaryKey column) else requires column rest
  | .required name _ :: rest => if name = column then true else requires column rest
  | _ :: rest => requires column rest

/-- May values be missing in the first column of a name? -/
def nullable? (t : TableDef) (column : String) : Option Bool :=
  (t.columns.find? fun c => c.name == column).map ColumnDef.nullable

variable {t : TableDef} {column : String}

theorem nullable?_of_columnIndex? {i : Nat} (h : t.columnIndex? column = some i) {c : ColumnDef}
    (hc : t.columns[i]? = some c) : t.nullable? column = some c.nullable := by
  obtain ⟨hi, hname, hfirst⟩ := findIdx?_eq_some_iff_getElem.mp h
  rw [getElem?_eq_getElem hi, Option.some.injEq] at hc
  subst hc
  have hfind : (t.columns.find? fun c => c.name == column) = some t.columns[i] := by
    rw [find?_eq_some_iff_getElem]
    exact ⟨hname, i, hi, rfl, fun j hj => by simpa using hfirst j hj⟩
  rw [nullable?, hfind, Option.map_some]

/-- Making the first column of a name required concerns no other name. -/
theorem find?_require (name column : String) : ∀ cols : List ColumnDef,
    ((require name cols).find? fun c => c.name == column).map ColumnDef.nullable =
      ((cols.find? fun c => c.name == column).map ColumnDef.nullable).map fun b => b && name != column
  | [] => rfl
  | c :: cols => by
    have ih := find?_require name column cols
    rw [require]
    by_cases hc : c.name = name
    · rw [if_pos hc]
      by_cases hn : name = column
      · simp [hc, hn]
      · have hbne : (name != column) = true := bne_iff_ne.mpr hn
        simp [hc, hn, hbne, Function.comp_def]
    · rw [if_neg hc]
      by_cases hn : c.name = column
      · have hne : name ≠ column := fun h => hc (hn.trans h.symm)
        simp [hn, hne]
      · simpa [hn] using ih

/-- What one clause says about a column. -/
theorem nullable?_add (t : TableDef) (column : String) (clause : Clause) : (t.add clause).nullable? column =
    match clause with
    | .column name _ => (t.nullable? column).or (if name = column then some true else none)
    | .required name _ => (t.nullable? column).or (if name = column then some false else none)
    | .primaryKey name => (t.nullable? column).map fun b => b && name != column
    | .foreignKey _ _ => t.nullable? column := by
  cases clause with
  | column name type =>
    unfold nullable? add addColumn
    rw [find?_append]
    by_cases hn : name = column
    · cases t.columns.find? fun c => c.name == column <;> simp [hn]
    · simp [hn]
  | required name type =>
    unfold nullable? add addRequired
    rw [find?_append]
    by_cases hn : name = column
    · cases t.columns.find? fun c => c.name == column <;> simp [hn]
    · simp [hn]
  | primaryKey name => exact find?_require name column t.columns
  | foreignKey name references => rfl

/-- A column that is there becomes required when it is named as the primary key, and by no other clause. -/
theorem nullable?_of_some : ∀ (clauses : List Clause) {t : TableDef} {b : Bool}, t.nullable? column = some b →
    (clauses.foldl add t).nullable? column = some (b && !clauses.contains (.primaryKey column))
  | [], t, b, h => by simpa using h
  | clause :: rest, t, b, h => by
    have hadd := nullable?_add t column clause
    rw [foldl_cons]
    cases clause with
    | primaryKey name =>
      simp only [h, Option.map_some] at hadd
      rw [nullable?_of_some rest hadd]
      by_cases hn : name = column
      · simp [hn]
      · have hne : ¬ column = name := fun h => hn h.symm
        have hbne : (name != column) = true := bne_iff_ne.mpr hn
        simp [hbne, hne]
    | _ =>
      simp only [h, Option.some_or] at hadd
      rw [nullable?_of_some rest hadd]
      simp

/-- **A column that is declared by clauses is required exactly when they require it.** -/
theorem nullable?_foldl : ∀ (clauses : List Clause) {t : TableDef} {b : Bool}, t.nullable? column = none →
    (clauses.foldl add t).nullable? column = some b → b = !requires column clauses
  | [], t, b, h, hb => by simp [h] at hb
  | clause :: rest, t, b, h, hb => by
    have hadd := nullable?_add t column clause
    rw [foldl_cons] at hb
    cases clause with
    | column name type =>
      simp only [h, Option.none_or] at hadd
      rw [requires]
      by_cases hn : name = column
      · rw [if_pos hn] at hadd ⊢
        rw [nullable?_of_some rest hadd] at hb
        simpa using hb.symm
      · rw [if_neg hn] at hadd ⊢
        exact nullable?_foldl rest hadd hb
    | required name type =>
      simp only [h, Option.none_or] at hadd
      rw [requires]
      by_cases hn : name = column
      · rw [if_pos hn] at hadd ⊢
        rw [nullable?_of_some rest hadd] at hb
        simpa using hb.symm
      · rw [if_neg hn] at hadd ⊢
        exact nullable?_foldl rest hadd hb
    | _ =>
      simp only [h, Option.map_none] at hadd
      exact nullable?_foldl rest hadd hb

/-- A column of a declared table is required exactly when the clauses require it. -/
theorem nullable?_declare {name : String} {clauses : List Clause} {i : Nat} {c : ColumnDef}
    (hi : (declare name clauses).columnIndex? column = some i) (hc : (declare name clauses).columns[i]? = some c) :
    c.nullable = !requires column clauses :=
  nullable?_foldl clauses rfl (nullable?_of_columnIndex? hi hc)

end TableDef

/-! ## Rows without a value -/

namespace Catalog

variable {c : Catalog} {s : Session} {f : Format} {t : TableDef} {row : Row} {i : Nat} {col : ColumnDef}

theorem missingColumn?_eq_none : missingColumn? t row = none ↔
    ∀ (j : Nat) (col : ColumnDef) (v : Value), t.columns[j]? = some col → row[j]? = some v →
      col.nullable = true ∨ v ≠ .null := by
  rw [missingColumn?, Option.map_eq_none_iff, find?_eq_none]
  constructor
  · intro h j col v hcol hv
    have hmem : (col, v) ∈ t.columns.zip row := mem_of_getElem? (getElem?_zip_eq_some.mpr ⟨hcol, hv⟩)
    have hcell := h _ hmem
    simp only [Bool.and_eq_true, Bool.not_eq_true', Value.isNull_iff, not_and] at hcell
    by_cases hnull : col.nullable = true
    · exact Or.inl hnull
    · exact Or.inr (hcell (Bool.eq_false_iff.mpr hnull))
  · rintro h ⟨col, v⟩ hmem
    obtain ⟨j, hj⟩ := getElem?_of_mem hmem
    obtain ⟨hcol, hv⟩ := getElem?_zip_eq_some.mp hj
    have hcell := h j col v hcol hv
    simp only [Bool.and_eq_true, Bool.not_eq_true', Value.isNull_iff, not_and]
    intro hrequired hnull
    rcases hcell with hnullable | hvalue
    · simp [hrequired] at hnullable
    · exact hvalue hnull

/-- The keys of a row whose cell at index `i` is emptied. -/
theorem keyAt?_set_null (row : Row) (i : Nat) (index : Option Nat) :
    keyAt? (row.set i .null) index = if index = some i then none else keyAt? row index := by
  cases index with
  | none => simp [keyAt?]
  | some j =>
    by_cases hj : j = i
    · subst hj
      by_cases hlt : j < row.length
      · simp [keyAt?, hlt, Value.key?, Value.isNull]
      · simp [keyAt?, hlt]
    · have hne : i ≠ j := fun h => hj h.symm
      simp [keyAt?, getElem?_set_ne hne, hj]

/-- **A value that is not required can be left out**: where it is the primary key, a row that is accepted with it is
accepted without it. -/
theorem judgeRow_set_null (hi : t.primaryKeyIndex? = some i) (hcol : t.columns[i]? = some col)
    (hnullable : col.nullable = true) {A : Rows} {line : Nat} {key : Option Value}
    (h : c.judgeRow s f t A line row = .accept row key) :
    c.judgeRow s f t A line (row.set i .null) = .accept (row.set i .null) none := by
  unfold judgeRow at h
  split at h
  · cases h
  next hcomplete =>
  split at h
  · split at h <;> cases h
  next hlinked =>
  have hcomplete' : missingColumn? t (row.set i .null) = none := by
    rw [missingColumn?_eq_none] at hcomplete ⊢
    intro j col' v hcol' hv
    by_cases hj : i = j
    · subst hj
      rw [hcol] at hcol'
      cases hcol'
      exact Or.inl hnullable
    · rw [getElem?_set_ne hj] at hv
      exact hcomplete j col' v hcol' hv
  have hlinked' : t.foreignKeys.find? (c.dangles s t A (row.set i .null)) = none := by
    rw [find?_eq_none] at hlinked ⊢
    intro fk hfk
    have hfk' := hlinked fk hfk
    unfold dangles at hfk' ⊢
    rw [keyAt?_set_null]
    by_cases hindex : t.columnIndex? fk.column = some i
    · simp [hindex]
    · rw [if_neg hindex]
      exact hfk'
  have hkey : keyAt? (row.set i .null) t.primaryKeyIndex? = none := by
    rw [keyAt?_set_null, hi, if_pos rfl]
  simp only [judgeRow, hcomplete', hlinked', hkey]

end Catalog

/-! ## Reachable databases -/

namespace Database

/-- **Rows have a value in their primary key, if the clauses of the table require it.** Otherwise the key is a column
like others that are not required: a row that is accepted with a value there is accepted without it. -/
theorem key_of_requires {d : Database} (hd : d.Reachable) {x name column : String} {clauses : List TableDef.Clause}
    {table : Table} (hfind : d.catalog.find? x = some table)
    (hdeclared : table.definition = TableDef.declare name clauses)
    (hkey : table.definition.primaryKey = some column) :
    ∃ i, table.definition.columnIndex? column = some i ∧
      (TableDef.requires column clauses = true →
        (∀ row ∈ table.data.rows, ∃ v, row[i]? = some v ∧ v ≠ .null) ∧
        ∀ n, ∀ row ∈ ((d.session n).stagedFor x).rows, ∃ v, row[i]? = some v ∧ v ≠ .null) ∧
      (TableDef.requires column clauses = false → ∀ (s : Session) (f : Format) (A : Rows) (line : Nat) (row : Row) key,
        d.catalog.judgeRow s f table.definition A line row = .accept row key →
          d.catalog.judgeRow s f table.definition A line (row.set i .null) = .accept (row.set i .null) none) := by
  obtain ⟨i, hi⟩ := Option.isSome_iff_exists.mp (((hd.declared 0).declares x table hfind).key column hkey)
  have hlt := TableDef.columnIndex?_lt hi
  have hcol := getElem?_eq_getElem hlt
  have hnullable : (table.definition.columns[i]).nullable = !TableDef.requires column clauses :=
    TableDef.nullable?_declare (hdeclared ▸ hi) (hdeclared ▸ hcol)
  have hcomplete (n : Nat) := hd.eachRow (fun haccepts => haccepts.complete) n
  have hcell {row : Row} (hlength : row.length = table.definition.columns.length)
      (hrow : Catalog.missingColumn? table.definition row = none)
      (hrequired : TableDef.requires column clauses = true) : ∃ v, row[i]? = some v ∧ v ≠ .null := by
    have hget : row[i]? = some row[i] := getElem?_eq_getElem (by omega)
    refine ⟨row[i], hget, ?_⟩
    rcases Catalog.missingColumn?_eq_none.mp hrow i _ _ hcol hget with h | h
    · simp [hnullable, hrequired] at h
    · exact h
  refine ⟨i, hi, fun hrequired => ⟨?_, ?_⟩, ?_⟩
  · intro row hrow
    exact hcell ((hd.wide 0).row x table hfind row hrow) ((hcomplete 0).row x table hfind row hrow) hrequired
  · intro n row hrow
    exact hcell ((hd.wide n).rowStaged x table hfind row hrow) ((hcomplete n).rowStaged x table hfind row hrow)
      hrequired
  · intro hoptional s f A line row key haccept
    have hindex : table.definition.primaryKeyIndex? = some i := by
      rw [TableDef.primaryKeyIndex?, hkey]
      exact hi
    refine Catalog.judgeRow_set_null hindex hcol ?_ haccept
    rw [hnullable, hoptional]
    rfl

/-- The clauses of the table of members name the key behind its column. -/
theorem key_of_requires_staffed : staffed.Reachable ∧
    let clauses : List TableDef.Clause := [.column "id" .int, .column "team" .int, .column "mentor" .int,
      .primaryKey "id", .foreignKey "team" "team", .foreignKey "mentor" "member"]
    ∃ t, staffed.catalog.find? "member" = some t ∧ t.definition = TableDef.declare "member" clauses ∧
      t.definition.primaryKey = some "id" ∧ TableDef.requires "id" clauses = true ∧ t.data.rows.length = 3 ∧
      ∃ i, t.definition.columnIndex? "id" = some i ∧ (∀ row ∈ t.data.rows, ∃ v, row[i]? = some v ∧ v ≠ .null) ∧
        ∀ n, ∀ row ∈ ((staffed.session n).stagedFor "member").rows, ∃ v, row[i]? = some v ∧ v ≠ .null := by
  refine ⟨reachable_staffed, ?_⟩
  intro clauses
  obtain ⟨_, t, _, hfind, hdefinition, _, hrows, _⟩ := rows_staffed
  have hdeclared : t.definition = TableDef.declare "member" clauses := by
    rw [hdefinition]
    decide
  have hkey : t.definition.primaryKey = some "id" := by
    rw [hdefinition]
    rfl
  have hrequired : TableDef.requires "id" clauses = true := by decide
  obtain ⟨i, hi, hvalues, _⟩ := key_of_requires reachable_staffed hfind hdeclared hkey
  exact ⟨t, hfind, hdeclared, hkey, hrequired, by rw [hrows]; rfl, i, hi, hvalues hrequired⟩

/-- A table whose key is named before the column, and a statement that gives no value. -/
def keyless : Database := Database.after {}
  [.createTable (TableDef.declare "team" [.primaryKey "id", .column "id" .int]), .connect .copy true, .openChannel 0,
    sendTeams 0 .copy "\\N\n"]

/-- **Not every row has a value in its primary key**: the clauses that declare a table may leave its column optional. -/
theorem not_key_of_declared : ¬ ∀ (d : Database) (name column : String) (clauses : List TableDef.Clause) (table : Table)
    (i : Nat) (row : Row), d.Reachable → d.catalog.find? name = some table →
      table.definition = TableDef.declare name clauses → table.definition.primaryKey = some column →
      table.definition.columnIndex? column = some i → row ∈ table.data.rows → row[i]? ≠ some .null := by
  intro h
  have hheld : (keyless.catalog.find? "team").map (fun t => (t.definition, t.data.rows)) =
      some (TableDef.declare "team" [.primaryKey "id", .column "id" .int], [[.null]]) := by decide +kernel
  obtain ⟨table, hfind, htable⟩ := Option.map_eq_some_iff.mp hheld
  rw [Prod.mk.injEq] at htable
  obtain ⟨hdefinition, hrows⟩ := htable
  have hkey : table.definition.primaryKey = some "id" := by
    rw [hdefinition]
    rfl
  have hindex : table.definition.columnIndex? "id" = some 0 := by
    rw [hdefinition]
    decide
  exact h keyless "team" "id" _ table 0 [.null] Reachable.initial.after hfind hdefinition hkey hindex
    (by rw [hrows]; exact mem_singleton_self _) rfl

end Database

end BulkLoad
