import BulkLoad.Proofs.Database.Visible
import BulkLoad.Proofs.Payload.Decode
import BulkLoad.Proofs.Schema.Names

/-!
# Admitted rows

What a server makes of the records of an insert, in terms of rows alone. A schema that fits a table (`Schema.Fits`) gives
one row for each record: what reads back of the values of the record in the columns that the schema names, and no value
elsewhere (`Schema.Gives`, `Catalog.gives_of_decodeRow`). A row is admitted when each of its references belongs to a visible row,
be it one that has just been admitted (`Catalog.admits`).

`Catalog.gather?_admitted`: the rows that are gathered from lines are those that are admitted, in order.
-/

namespace BulkLoad

open List

variable {ρ : Type}

/-! ## Rows of records -/

namespace Schema

/-- The schema names columns of the table, and its extractors give values of the types of these columns. Doubles are left
out. -/
def Fits (s : Schema ρ) (t : TableDef) : Prop :=
  ∀ col ∈ s.columns, ∃ i c, t.columnIndex? col.name = some i ∧ t.columns[i]? = some c ∧
    ∀ r v, col.extract r = .ok v → v = .null ∨ v.type? = some c.type ∧ c.type ≠ .float

/-- The row holds the values of the record in the columns that the schema names, as they read back, and no value
elsewhere. -/
structure Gives (s : Schema ρ) (t : TableDef) (r : ρ) (row : Row) : Prop where
  length : row.length = t.columns.length
  named : ∀ col ∈ s.columns, ∀ i, t.columnIndex? col.name = some i →
    ∃ v, col.extract r = .ok v ∧ row[i]? = some v.readBack
  elsewhere : ∀ i < t.columns.length, (∀ col ∈ s.columns, t.columnIndex? col.name ≠ some i) → row[i]? = some .null

end Schema

/-- Columns of one index have the name of that column. -/
theorem TableDef.name_of_columnIndex? {t : TableDef} {name : String} {i : Nat} (h : t.columnIndex? name = some i) :
    t.columns[i]?.map ColumnDef.name = some name := by
  obtain ⟨hi, hname, _⟩ := findIdx?_eq_some_iff_getElem.mp h
  rw [getElem?_eq_getElem hi, Option.map_some, beq_iff_eq.mp hname]

namespace Catalog

variable {c c' : Catalog} {s s' : Session} {f : Format} {t : TableDef} {ps : List Nat} {sch : Schema ρ} {r : ρ}

/-- The positions of names are their indices. -/
theorem forall₂_positions : ∀ {names : List String} {ps : List Nat}, positions t names = .ok ps →
    Forall₂ (fun name i => t.columnIndex? name = some i) names ps
  | [], ps, h => by cases h; exact Forall₂.nil
  | n :: ns, ps, h => by
    rw [positions] at h
    split at h
    · cases h
    next i hi =>
    cases hrest : positions t ns with
    | error e => rw [hrest] at h; cases h
    | ok rest =>
      rw [hrest] at h
      cases h
      exact Forall₂.cons hi (forall₂_positions hrest)

/-- A position belongs to a name. -/
theorem exists_name_of_mem {names : List String} (h : Forall₂ (fun name i => t.columnIndex? name = some i) names ps)
    {i : Nat} (hi : i ∈ ps) : ∃ name ∈ names, t.columnIndex? name = some i := by
  obtain ⟨j, hj, rfl⟩ := mem_iff_getElem.mp hi
  exact ⟨_, get_mem .., h.get (by rw [h.length_eq]; exact hj) hj⟩

/-- Different names have different positions. -/
theorem nodup_positions {names : List String} (h : Forall₂ (fun name i => t.columnIndex? name = some i) names ps)
    (hnames : names.Nodup) : ps.Nodup := by
  induction h with
  | nil => exact Pairwise.nil
  | @cons name i names ps hi hrest ih =>
    rw [nodup_cons] at hnames ⊢
    refine ⟨fun hmem => hnames.1 ?_, ih hnames.2⟩
    obtain ⟨name', hmem', hname'⟩ := exists_name_of_mem hrest hmem
    have heq := TableDef.name_of_columnIndex? hi
    rw [TableDef.name_of_columnIndex? hname'] at heq
    cases heq
    exact hmem'

/-- The fields of a record fill the cells at their positions with its values, as they read back, and leave the other
cells alone. -/
theorem fillRow_gives {line : Nat} {cols : List (Column ρ)} {raw : RawRow}
    (hraw : Forall₂ (fun col field => ∃ v, col.extract r = .ok v ∧ field = v.literal? f ∧ (field = none ↔ v = .null))
      cols raw) : ∀ {ps : List Nat} {row row' : Row},
    Forall₂ (fun col i => t.columnIndex? col.name = some i) cols ps → ps.Nodup →
    (∀ col ∈ cols, ∀ i, t.columnIndex? col.name = some i → ∃ c, t.columns[i]? = some c ∧
      ∀ v, col.extract r = .ok v → v = .null ∨ v.type? = some c.type ∧ c.type ≠ .float) →
    (∀ i ∈ ps, row[i]? = some .null) → fillRow f t line row (raw.zip ps) = .ok row' →
      row'.length = row.length ∧ (∀ i, i ∉ ps → row'[i]? = row[i]?) ∧
        ∀ col ∈ cols, ∀ i, t.columnIndex? col.name = some i →
          ∃ v, col.extract r = .ok v ∧ row'[i]? = some v.readBack := by
  induction hraw with
  | nil =>
    intro ps row row' hps _ _ _ h
    cases hps
    cases h
    exact ⟨rfl, fun _ _ => rfl, nofun⟩
  | @cons col field cols raw hfield _ ih =>
    rintro ps row row' (_ | @⟨_, i, _, ps, hi, hps⟩) hnodup htypes hnull h
    obtain ⟨v, hv, rfl, hmissing⟩ := hfield
    rw [nodup_cons] at hnodup
    rw [forall_mem_cons] at htypes hnull
    obtain ⟨c, hc, htype⟩ := htypes.1 i hi
    rw [zip_cons_cons] at h
    cases hlit : v.literal? f with
    | none =>
      have hvnull : v = .null := hmissing.mp hlit
      subst hvnull
      rw [hlit, fillRow] at h
      obtain ⟨hlength, hkept, hvalues⟩ := ih hps hnodup.2 htypes.2 hnull.2 h
      refine ⟨hlength, fun j hj => hkept j fun hmem => hj (mem_cons_of_mem _ hmem), forall_mem_cons.mpr ⟨?_, hvalues⟩⟩
      intro j hj
      rw [hi] at hj
      cases hj
      exact ⟨.null, hv, by rw [hkept i hnodup.1, hnull.1]; rfl⟩
    | some lit =>
      rw [hlit, fillRow, hc] at h
      simp only at h
      split at h
      · cases h
      next v' hdecode =>
      -- The value is not missing, so that it is of the type of the column.
      have hsame : v' = v.readBack := by
        rcases htype v hv with rfl | ⟨hty, hfloat⟩
        · rw [hmissing.mpr rfl] at hlit
          cases hlit
        · exact eq_of_decode_literal hlit hty hfloat hdecode
      subst hsame
      have hne {j : Nat} (hj : j ∈ ps) : i ≠ j := by
        rintro rfl
        exact hnodup.1 hj
      have hnull' : ∀ j ∈ ps, (row.set i v.readBack)[j]? = some .null := fun j hj => by
        rw [getElem?_set_ne (hne hj)]
        exact hnull.2 j hj
      obtain ⟨hlength, hkept, hvalues⟩ := ih hps hnodup.2 htypes.2 hnull' h
      refine ⟨by rw [hlength, length_set], ?_, forall_mem_cons.mpr ⟨?_, hvalues⟩⟩
      · intro j hj
        rw [mem_cons, not_or] at hj
        rw [hkept j hj.2, getElem?_set_ne (Ne.symm hj.1)]
      · intro j hj
        rw [hi] at hj
        cases hj
        have hlt : i < row.length := by
          obtain ⟨hlt, _⟩ := List.getElem?_eq_some_iff.mp hnull.1
          exact hlt
        exact ⟨v, hv, by rw [hkept i hnodup.1, getElem?_set_self hlt]⟩

/-- **The row of a line holds the values of the record**, as they read back. -/
theorem gives_of_decodeRow (hfits : sch.Fits t) (hpositions : positions t sch.names = .ok ps) {line : Nat} {row : Row}
    {encoded : Bytes} (hencode : encodeLine f sch r = .ok encoded)
    (hdecode : decodeRow f t ps line (rawRow f sch r) = .ok row) : sch.Gives t r row := by
  have hnames := forall₂_positions hpositions
  have hnodup := nodup_positions hnames sch.nodup_names
  have hindices := hnames
  rw [Schema.names, forall₂_map_left_iff] at hindices
  have htypes : ∀ col ∈ sch.columns, ∀ i, t.columnIndex? col.name = some i → ∃ c, t.columns[i]? = some c ∧
      ∀ v, col.extract r = .ok v → v = .null ∨ v.type? = some c.type ∧ c.type ≠ .float := by
    intro col hcol i hi
    obtain ⟨j, c, hj, hc, htype⟩ := hfits col hcol
    rw [hi] at hj
    cases hj
    exact ⟨c, hc, htype r⟩
  have hnull : ∀ i ∈ ps, (replicate t.columns.length Value.null)[i]? = some .null := by
    intro i hi
    obtain ⟨name, _, hname⟩ := exists_name_of_mem hnames hi
    rw [getElem?_replicate, if_pos (TableDef.columnIndex?_lt hname)]
  unfold decodeRow at hdecode
  split at hdecode
  · cases hdecode
  obtain ⟨hlength, hkept, hvalues⟩ := fillRow_gives (rawRow_of_encodeLine hencode) hindices hnodup htypes hnull hdecode
  rw [length_replicate] at hlength
  refine ⟨hlength, hvalues, ?_⟩
  intro i hi hother
  have hfree : i ∉ ps := by
    intro hmem
    obtain ⟨name, hname, hindex⟩ := exists_name_of_mem hnames hmem
    obtain ⟨col, hcol, rfl⟩ := mem_map.mp hname
    exact hother col hcol hindex
  rw [hkept i hfree, getElem?_replicate, if_pos hi]

/-! ## References -/

/-- Each reference of the row belongs to a row that is visible or, in the same table, among the rows added so far. -/
def admits (c : Catalog) (s : Session) (t : TableDef) (added : List Row) (row : Row) : Bool :=
  t.foreignKeys.all fun fk =>
    match keyAt? row (t.columnIndex? fk.column) with
    | none => true
    | some key => (c.visibleRows s fk.references ++ if fk.references = t.name then added else []).any fun other =>
        keyAt? other (c.keyIndex? fk.references) = some key

/-- The rows added so far with those of further rows whose references are there when their turn comes. -/
def admitted (c : Catalog) (s : Session) (t : TableDef) (added : List Row) (rows : List Row) : List Row :=
  rows.foldl (fun added row => if c.admits s t added row then added ++ [row] else added) added

theorem admitted_cons (c : Catalog) (s : Session) (t : TableDef) (added : List Row) (row : Row) (rows : List Row) :
    c.admitted s t added (row :: rows) =
      c.admitted s t (if c.admits s t added row then added ++ [row] else added) rows := rfl

/-- What is admitted depends on what is visible only. -/
theorem admitted_congr (hrows : ∀ x, c'.visibleRows s' x = c.visibleRows s x)
    (hkeys : ∀ x, c'.keyIndex? x = c.keyIndex? x) (t : TableDef) (added rows : List Row) :
    c'.admitted s' t added rows = c.admitted s t added rows := by
  unfold admitted admits
  simp only [hrows, hkeys]

variable {A B : Rows} {strict : Bool}

/-- A key is seen when a row holds it that is visible or has been accepted before. -/
theorem Holds.seen_iff (h : c.Holds s) (ht : c.keyIndex? t.name = t.primaryKeyIndex?) (hA : A.Keyed t) {x : String}
    {k : Value} : c.Seen s t.name A x k ↔
      ∃ row ∈ c.visibleRows s x ++ if x = t.name then A.rows else [], keyAt? row (c.keyIndex? x) = some k := by
  unfold Seen
  rw [h.mem_visibleKeys]
  unfold Rows.Keyed at hA
  by_cases hx : x = t.name
  · subst hx
    simp only [if_true, hA, true_and, mem_filterMap, ← ht, mem_append, or_and_right, exists_or]
  · simp [hx]

/-- A row is admitted when none of its references dangles. -/
theorem Holds.admits_iff (h : c.Holds s) (ht : c.keyIndex? t.name = t.primaryKeyIndex?) (hA : A.Keyed t) {row : Row} :
    c.admits s t A.rows row = true ↔ t.foreignKeys.find? (c.dangles s t A row) = none := by
  unfold admits
  rw [all_eq_true, find?_eq_none]
  refine forall₂_congr fun fk _ => ?_
  rw [dangles_iff]
  cases keyAt? row (t.columnIndex? fk.column) with
  | none => simp
  | some key =>
    simp only [Option.some.injEq, h.seen_iff ht hA, exists_eq_left', not_not, any_eq_true, decide_eq_true_eq]

/-- What becomes of a decoded row: it is accepted when it is admitted, and otherwise only `load-data` skips it. -/
theorem Holds.judgeRow (h : c.Holds s) (ht : c.keyIndex? t.name = t.primaryKeyIndex?) (hA : A.Keyed t) (line : Nat)
    (row : Row) : (∃ e, c.judgeRow s f t A line row = .refuse e) ∨
      (∃ fk, c.judgeRow s f t A line row = .skip fk ∧ c.admits s t A.rows row = false ∧ f = .loadData) ∨
      c.judgeRow s f t A line row = .accept row (keyAt? row t.primaryKeyIndex?) ∧ c.admits s t A.rows row = true := by
  have hadmits : c.admits s t A.rows row = true ↔ t.foreignKeys.find? (c.dangles s t A row) = none :=
    h.admits_iff ht hA
  unfold Catalog.judgeRow
  cases missingColumn? t row with
  | some column => exact Or.inl ⟨_, rfl⟩
  | none =>
    cases hfind : t.foreignKeys.find? (c.dangles s t A row) with
    | some fk =>
      have hrefused : c.admits s t A.rows row = false := by
        rw [Bool.eq_false_iff, Ne, hadmits, hfind]
        exact nofun
      cases f with
      | copy => exact Or.inl ⟨_, rfl⟩
      | loadData => exact Or.inr (Or.inl ⟨fk, rfl, hrefused, rfl⟩)
    | none =>
      cases hkey : keyAt? row t.primaryKeyIndex? with
      | none => exact Or.inr (Or.inr ⟨rfl, hadmits.mpr hfind⟩)
      | some key =>
        simp only
        split
        · exact Or.inl ⟨_, rfl⟩
        · exact Or.inr (Or.inr ⟨rfl, hadmits.mpr hfind⟩)

/-- **The rows that are gathered from lines are those that are admitted**, in order; `copy` admits all of them. -/
theorem Holds.gather?_admitted (h : c.Holds s) (ht : c.keyIndex? t.name = t.primaryKeyIndex?) :
    ∀ {raws : List RawRow} {A : Rows}, A.Keyed t → c.gather? s f t ps strict A raws = some B →
      ∃ rows, Forall₂ (fun raw row => decodeRow f t ps 1 raw = .ok row) raws rows ∧
        B.rows = c.admitted s t A.rows rows ∧ (f = .copy → B.rows = A.rows ++ rows) ∧ B.Keyed t
  | [], A, hA, hB => by
    cases hB
    exact ⟨[], Forall₂.nil, rfl, fun _ => (append_nil _).symm, hA⟩
  | raw :: raws, A, hA, hB => by
    rw [gather?_cons, gatherLine?_eq 1] at hB
    unfold judge at hB
    cases hdecode : decodeRow f t ps 1 raw with
    | error e =>
      rw [hdecode] at hB
      cases hB
    | ok row =>
      simp only [hdecode] at hB
      rcases h.judgeRow (f := f) ht hA 1 row with ⟨e, hj⟩ | ⟨fk, hj, hrefused, hf⟩ | ⟨hj, hadmits⟩
      · rw [hj] at hB
        cases hB
      · rw [hj] at hB
        simp only at hB
        split at hB
        · cases hB
        · obtain ⟨rows, hrows, hadmitted, _, hkeyed⟩ := Holds.gather?_admitted h ht hA hB
          refine ⟨row :: rows, Forall₂.cons hdecode hrows, ?_, by rw [hf]; exact nofun, hkeyed⟩
          rw [admitted_cons, hrefused, hadmitted]
          rfl
      · rw [hj] at hB
        obtain ⟨rows, hrows, hadmitted, hcopy, hkeyed⟩ := Holds.gather?_admitted h ht (hA.push rfl) hB
        refine ⟨row :: rows, Forall₂.cons hdecode hrows, ?_, fun hf => ?_, hkeyed⟩
        · rw [admitted_cons, hadmits, hadmitted]
          rfl
        · rw [hcopy hf, Rows.push, append_assoc, singleton_append]

/-- **The rows that are gathered from records** are those of their values that are admitted, in order. -/
theorem Holds.gatherRecords?_admitted (h : c.Holds s) {table : Table} (hfind : c.find? sch.table = some table)
    (hfits : sch.Fits table.definition) {rs : List ρ} {lines : List Bytes} (hlines : Lines f sch rs lines)
    (hB : c.gatherRecords? s f sch strict {} rs = some B) :
    ∃ rows, Forall₂ (sch.Gives table.definition) rs rows ∧ B.rows = c.admitted s table.definition [] rows ∧
      (f = .copy → B.rows = rows) ∧ B.Keyed table.definition := by
  cases htarget : c.target? (destination sch) with
  | none =>
    by_cases hrs : rs = []
    · subst hrs
      cases hB
      exact ⟨[], Forall₂.nil, rfl, fun _ => rfl, Rows.keyed_empty⟩
    · rw [gatherRecords?_of_none htarget hrs] at hB
      cases hB
  | some found =>
    obtain ⟨table', hfind', hdefinition, hpositions⟩ := find?_of_target? htarget
    rw [show (destination sch).table = sch.table from rfl, hfind] at hfind'
    cases hfind'
    have hname : table.definition.name = sch.table := name_of_find? hfind
    have hkey : c.keyIndex? table.definition.name = table.definition.primaryKeyIndex? := by
      rw [hname, keyIndex?, hfind]
      rfl
    rw [gatherRecords?_of_target htarget, ← hdefinition] at hB
    rw [← hdefinition] at hpositions
    obtain ⟨rows, hdecode, hadmitted, hcopy, hkeyed⟩ := h.gather?_admitted hkey Rows.keyed_empty hB
    refine ⟨rows, ?_, hadmitted, hcopy, hkeyed⟩
    rw [forall₂_map_left_iff] at hdecode
    refine forall₂_iff_get.mpr ⟨hdecode.length_eq, fun i hi hi' => ?_⟩
    exact gives_of_decodeRow hfits hpositions (hlines.get hi (by rw [← hlines.length_eq]; exact hi)) (hdecode.get hi hi')

end Catalog

end BulkLoad
