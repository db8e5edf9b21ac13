import BulkLoad.Proofs.Database.Admitted
import BulkLoad.Proofs.Database.KeyColumn
import BulkLoad.Proofs.Database.References
import BulkLoad.Proofs.Database.Uniqueness

/-!
# What a statement says

A line describes a row if its fields can be read (`Catalog.Reads`, `Catalog.decodeRow_iff`). A statement accepts the rows
that its lines describe, without those that refer to a row that is not there when their turn comes (`Catalog.Sifted`). It
fails at the first line with a fault: a wrong number of fields, a field that cannot be read, a missing value that is
required, a key that is taken or, under `copy`, a reference to a missing row (`Catalog.Fault`, `Catalog.FaultyFrom`).

- `Catalog.sifted_of_scan`, `Catalog.faulty_of_scan`: a scan that succeeds and one that fails, by induction on the lines;
- `Catalog.load_exact`: what a statement stages and answers, and when it fails.
-/

namespace BulkLoad

open List

namespace TableDef

/-- Rows of the table with their keys. -/
def rowsOf (t : TableDef) (rows : List Row) : Rows :=
  ⟨rows, rows.filterMap fun row => Catalog.keyAt? row t.primaryKeyIndex?⟩

theorem rowsOf_push (t : TableDef) (rows : List Row) (row : Row) :
    (t.rowsOf rows).push row (Catalog.keyAt? row t.primaryKeyIndex?) = t.rowsOf (rows ++ [row]) := by
  unfold rowsOf Rows.push
  rw [filterMap_append]
  cases h : Catalog.keyAt? row t.primaryKeyIndex? <;> simp [h]

/-- No required value is missing in the row. -/
def Complete (t : TableDef) (row : Row) : Prop :=
  ∀ (i : Nat) (col : ColumnDef), t.columns[i]? = some col → row[i]? = some .null → col.nullable = true

end TableDef

namespace Catalog

variable {c : Catalog} {s : Session} {f : Format} {t : TableDef} {ps : List Nat}

/-! ## Lines and rows -/

/-- The field that a line gives for the cell at an index: the last one that is not missing. -/
def lastField? (fields : List (Option Bytes × Nat)) (i : Nat) : Option Bytes :=
  fields.reverse.findSome? fun e => if e.2 = i then e.1 else none

theorem lastField?_cons (e : Option Bytes × Nat) (fields : List (Option Bytes × Nat)) (i : Nat) :
    lastField? (e :: fields) i = (lastField? fields i).or (if e.2 = i then e.1 else none) := by
  rw [lastField?, reverse_cons, findSome?_append, findSome?_singleton, lastField?]

/-- The row is what the fields of a line say. -/
structure Reads (f : Format) (t : TableDef) (ps : List Nat) (raw : RawRow) (row : Row) : Prop where
  fields : raw.length = ps.length
  readable : ∀ field i col, (some field, i) ∈ raw.zip ps → t.columns[i]? = some col →
    ∃ v, col.type.decode f field = .ok v
  width : row.length = t.columns.length
  given : ∀ i field col, lastField? (raw.zip ps) i = some field → t.columns[i]? = some col →
    ∃ v, col.type.decode f field = .ok v ∧ row[i]? = some v
  missing : ∀ i < t.columns.length, lastField? (raw.zip ps) i = none → row[i]? = some .null

/-- A line describes one row only. -/
theorem Reads.eq {raw : RawRow} {row row' : Row} (h : Reads f t ps raw row) (h' : Reads f t ps raw row') :
    row = row' := by
  refine ext_getElem? fun i => ?_
  by_cases hi : i < t.columns.length
  · have hcol := getElem?_eq_getElem hi
    cases hlast : lastField? (raw.zip ps) i with
    | none => rw [h.missing i hi hlast, h'.missing i hi hlast]
    | some field =>
      obtain ⟨v, hv, hcell⟩ := h.given i field _ hlast hcol
      obtain ⟨v', hv', hcell'⟩ := h'.given i field _ hlast hcol
      rw [hv] at hv'
      cases hv'
      rw [hcell, hcell']
  · rw [getElem?_eq_none (by rw [h.width]; omega), getElem?_eq_none (by rw [h'.width]; omega)]

/-- A cell for which a line has no field is empty. -/
theorem Reads.unlisted {raw : RawRow} {row : Row} (h : Reads f t ps raw row) {i : Nat} (hi : i < t.columns.length)
    (hlisted : i ∉ ps) : row[i]? = some .null := by
  refine h.missing i hi (findSome?_eq_none_iff.mpr fun e he => if_neg ?_)
  rintro rfl
  exact hlisted (of_mem_zip (mem_reverse.mp he)).2

/-- Filling a row reads each field, and puts the last one for a cell there. -/
theorem fillRow_ok {line : Nat} : ∀ {fields : List (Option Bytes × Nat)} {row row' : Row},
    fillRow f t line row fields = .ok row' →
      (∀ field i col, (some field, i) ∈ fields → t.columns[i]? = some col → ∃ v, col.type.decode f field = .ok v) ∧
      (∀ i field col, lastField? fields i = some field → t.columns[i]? = some col → i < row.length →
        ∃ v, col.type.decode f field = .ok v ∧ row'[i]? = some v) ∧
      ∀ i, lastField? fields i = none → row'[i]? = row[i]?
  | [], row, row', h => by
    cases h
    exact ⟨nofun, nofun, fun _ _ => rfl⟩
  | (none, j) :: rest, row, row', h => by
    rw [fillRow] at h
    obtain ⟨hreadable, hgiven, hmissing⟩ := fillRow_ok h
    have hlast (i : Nat) : lastField? ((none, j) :: rest) i = lastField? rest i := by
      rw [lastField?_cons, ite_self, Option.or_none]
    simp only [hlast]
    refine ⟨fun field i col hmem => ?_, hgiven, hmissing⟩
    exact hreadable field i col ((mem_cons.mp hmem).resolve_left (by rintro ⟨⟩))
  | (some x, j) :: rest, row, row', h => by
    rw [fillRow] at h
    have hlast (i : Nat) : lastField? ((some x, j) :: rest) i = (lastField? rest i).or (if j = i then some x else none) :=
      lastField?_cons ..
    cases hcol : t.columns[j]? with
    | none =>
      rw [hcol] at h
      obtain ⟨hreadable, hgiven, hmissing⟩ := fillRow_ok h
      refine ⟨?_, ?_, ?_⟩
      · intro field i col hmem hi
        rcases mem_cons.mp hmem with heq | hmem
        · cases heq
          rw [hcol] at hi
          cases hi
        · exact hreadable field i col hmem hi
      · intro i field col hfield hi
        rw [hlast] at hfield
        refine hgiven i field col ?_ hi
        by_cases hij : j = i
        · rw [← hij, hcol] at hi
          cases hi
        · rwa [if_neg hij, Option.or_none] at hfield
      · intro i hnone
        rw [hlast, Option.or_eq_none_iff] at hnone
        exact hmissing i hnone.1
    | some col =>
      rw [hcol] at h
      simp only at h
      split at h
      · cases h
      next v hv =>
      obtain ⟨hreadable, hgiven, hmissing⟩ := fillRow_ok h
      rw [length_set] at hgiven
      refine ⟨?_, ?_, ?_⟩
      · intro field i col' hmem hi
        rcases mem_cons.mp hmem with heq | hmem
        · cases heq
          rw [hcol] at hi
          cases hi
          exact ⟨v, hv⟩
        · exact hreadable field i col' hmem hi
      · intro i field col' hfield hi hlt
        rw [hlast] at hfield
        cases hrest : lastField? rest i with
        | some field' =>
          rw [hrest, Option.some_or] at hfield
          cases hfield
          exact hgiven i field col' hrest hi hlt
        | none =>
          rw [hrest, Option.none_or] at hfield
          split at hfield
          · next hij =>
            subst hij
            cases hfield
            rw [hcol] at hi
            cases hi
            exact ⟨v, hv, by rw [hmissing j hrest, getElem?_set_self hlt]⟩
          · cases hfield
      · intro i hnone
        rw [hlast, Option.or_eq_none_iff] at hnone
        have hij : j ≠ i := fun hij => by
          rw [if_pos hij] at hnone
          cases hnone.2
        rw [hmissing i hnone.1, getElem?_set_ne hij]

/-- Filling a row fails at a field that cannot be read. -/
theorem fillRow_error {line : Nat} {e : LoadError} : ∀ {fields : List (Option Bytes × Nat)} {row : Row},
    fillRow f t line row fields = .error e → ∃ field i col e', (some field, i) ∈ fields ∧ t.columns[i]? = some col ∧
      col.type.decode f field = .error e' ∧ e = .badValue line col.name e'
  | [], _, h => by cases h
  | (none, j) :: rest, row, h => by
    rw [fillRow] at h
    obtain ⟨field, i, col, e', hmem, hfault⟩ := fillRow_error h
    exact ⟨field, i, col, e', mem_cons_of_mem _ hmem, hfault⟩
  | (some x, j) :: rest, row, h => by
    have hrest {row : Row} (h : fillRow f t line row rest = .error e) : ∃ field i col e',
        (some field, i) ∈ (some x, j) :: rest ∧ t.columns[i]? = some col ∧ col.type.decode f field = .error e' ∧
          e = .badValue line col.name e' := by
      obtain ⟨field, i, col, e', hmem, hfault⟩ := fillRow_error h
      exact ⟨field, i, col, e', mem_cons_of_mem _ hmem, hfault⟩
    rw [fillRow] at h
    split at h
    · exact hrest h
    next col hcol =>
    split at h
    · next e' hdecode =>
      cases h
      exact ⟨x, j, col, e', mem_cons_self, hcol, hdecode, rfl⟩
    · exact hrest h

/-- **A line is decoded to the row that it describes.** -/
theorem decodeRow_iff {line : Nat} {raw : RawRow} {row : Row} :
    decodeRow f t ps line raw = .ok row ↔ Reads f t ps raw row := by
  have hreads {row : Row} (h : decodeRow f t ps line raw = .ok row) : Reads f t ps raw row := by
    have hwidth := length_decodeRow h
    unfold decodeRow at h
    split at h
    · cases h
    next hfields =>
    obtain ⟨hreadable, hgiven, hmissing⟩ := fillRow_ok h
    refine ⟨Classical.not_not.mp hfields, hreadable, hwidth, ?_, ?_⟩
    · intro i field col hfield hcol
      refine hgiven i field col hfield hcol ?_
      rw [length_replicate]
      exact (List.getElem?_eq_some_iff.mp hcol).1
    · intro i hi hnone
      rw [hmissing i hnone, getElem?_replicate, if_pos hi]
  refine ⟨hreads, fun h => ?_⟩
  cases hdecode : decodeRow f t ps line raw with
  | ok row' => rw [(hreads hdecode).eq h]
  | error e =>
    unfold decodeRow at hdecode
    rw [if_neg (not_not_intro h.fields)] at hdecode
    obtain ⟨field, i, col, e', hmem, hcol, hfail, _⟩ := fillRow_error hdecode
    obtain ⟨v, hv⟩ := h.readable field i col hmem hcol
    rw [hv] at hfail
    cases hfail

/-! ## Faults -/

/-- What is wrong with a line behind rows that have been accepted, and the error that tells it. -/
inductive Fault (c : Catalog) (s : Session) (f : Format) (t : TableDef) (ps : List Nat) (earlier : List Row) (line : Nat)
    (raw : RawRow) : LoadError → Prop
  | fieldCount : raw.length ≠ ps.length → Fault c s f t ps earlier line raw (.fieldCount line ps.length raw.length)
  | badValue {field : Bytes} {i : Nat} {col : ColumnDef} {e : DecodeError} : raw.length = ps.length →
      (some field, i) ∈ raw.zip ps → t.columns[i]? = some col → col.type.decode f field = .error e →
      Fault c s f t ps earlier line raw (.badValue line col.name e)
  | nullValue {row : Row} {i : Nat} {col : ColumnDef} : Reads f t ps raw row → t.columns[i]? = some col →
      col.nullable = false → row[i]? = some .null → Fault c s f t ps earlier line raw (.nullValue line col.name)
  | danglingReference {row : Row} {fk : ForeignKey} {k : Value} : f = .copy → Reads f t ps raw row →
      fk ∈ t.foreignKeys → keyAt? row (t.columnIndex? fk.column) = some k →
      ¬ c.Seen s t.name (t.rowsOf earlier) fk.references k →
      Fault c s f t ps earlier line raw (.danglingReference line fk)
  | duplicateKey {row : Row} {k : Value} : Reads f t ps raw row → t.Links (c.Seen s t.name (t.rowsOf earlier)) row →
      keyAt? row t.primaryKeyIndex? = some k → c.Seen s t.name (t.rowsOf earlier) t.name k →
      Fault c s f t ps earlier line raw (.duplicateKey line k t.name)

theorem complete_iff {row : Row} : missingColumn? t row = none ↔ t.Complete row := by
  rw [missingColumn?_eq_none]
  constructor
  · exact fun h i col hcol hnull => (h i col .null hcol hnull).resolve_right (fun hne => hne rfl)
  · intro h i col v hcol hv
    by_cases hnull : v = .null
    · exact Or.inl (h i col hcol (hnull ▸ hv))
    · exact Or.inr hnull

theorem exists_of_missingColumn? {row : Row} {name : String} (h : missingColumn? t row = some name) :
    ∃ (i : Nat) (col : ColumnDef), t.columns[i]? = some col ∧ col.nullable = false ∧ row[i]? = some .null ∧
      col.name = name := by
  obtain ⟨⟨col, v⟩, hfind, rfl⟩ := Option.map_eq_some_iff.mp h
  obtain ⟨i, hi⟩ := getElem?_of_mem (mem_of_find?_eq_some hfind)
  obtain ⟨hcol, hv⟩ := getElem?_zip_eq_some.mp hi
  have hmissing := find?_some hfind
  simp only [Bool.and_eq_true, Bool.not_eq_true', Value.isNull_iff] at hmissing
  exact ⟨i, col, hcol, hmissing.1, hmissing.2 ▸ hv, rfl⟩

theorem links_iff {A : Rows} {row : Row} :
    t.foreignKeys.find? (c.dangles s t A row) = none ↔ t.Links (c.Seen s t.name A) row := by
  rw [find?_eq_none]
  refine forall₂_congr fun fk _ => ?_
  rw [dangles_iff, not_exists]
  simp only [not_and, Classical.not_not]

/-- What a verdict says of a line. -/
def Verdict.Just (c : Catalog) (s : Session) (f : Format) (t : TableDef) (ps : List Nat) (earlier : List Row) (line : Nat)
    (raw : RawRow) : Verdict → Prop
  | .refuse e => c.Fault s f t ps earlier line raw e
  | .skip _ => f = .loadData ∧ ∃ row, Reads f t ps raw row ∧ t.Complete row ∧
      ¬ t.Links (c.Seen s t.name (t.rowsOf earlier)) row
  | .accept row key => Reads f t ps raw row ∧ t.Complete row ∧ t.Links (c.Seen s t.name (t.rowsOf earlier)) row ∧
      keyAt? row t.primaryKeyIndex? = key ∧ ∀ k, key = some k → ¬ c.Seen s t.name (t.rowsOf earlier) t.name k

/-- **A line is refused for a fault, skipped for a reference, and accepted for neither.** -/
theorem just_judge (c : Catalog) (s : Session) (f : Format) (t : TableDef) (ps : List Nat) (earlier : List Row)
    (line : Nat) (raw : RawRow) : (c.judge s f t ps (t.rowsOf earlier) line raw).Just c s f t ps earlier line raw := by
  unfold judge
  cases hdecode : decodeRow f t ps line raw with
  | error e =>
    unfold decodeRow at hdecode
    split at hdecode
    · next hfields =>
      cases hdecode
      exact .fieldCount hfields
    · next hfields =>
      obtain ⟨field, i, col, e', hmem, hcol, hfail, rfl⟩ := fillRow_error hdecode
      exact .badValue (Classical.not_not.mp hfields) hmem hcol hfail
  | ok row =>
    have hreads := decodeRow_iff.mp hdecode
    unfold judgeRow
    simp only
    split
    · next name hmissing =>
      obtain ⟨i, col, hcol, hrequired, hnull, rfl⟩ := exists_of_missingColumn? hmissing
      exact .nullValue hreads hcol hrequired hnull
    next hcomplete =>
    rw [complete_iff] at hcomplete
    split
    · next fk hfind =>
      obtain ⟨k, hk, hseen⟩ := dangles_iff.mp (find?_some hfind)
      have hmem := mem_of_find?_eq_some hfind
      cases f with
      | copy => exact .danglingReference rfl hreads hmem hk hseen
      | loadData => exact ⟨rfl, row, hreads, hcomplete, fun hlinks => hseen (hlinks fk hmem k hk)⟩
    next hlinks =>
    rw [links_iff] at hlinks
    have hseen (k : Value) : ((c.visibleKeys s t.name).contains k || (t.rowsOf earlier).keys.contains k) = true ↔
        c.Seen s t.name (t.rowsOf earlier) t.name k := by
      simp [Seen]
    split
    · next hkey => exact ⟨hreads, hcomplete, hlinks, hkey, by rintro _ ⟨⟩⟩
    next k hkey =>
    split
    · next htaken => exact .duplicateKey hreads hlinks hkey ((hseen k).mp htaken)
    · next hnew =>
      rw [hseen] at hnew
      refine ⟨hreads, hcomplete, hlinks, hkey, fun k' hk' => ?_⟩
      cases hk'
      exact hnew

/-- A complete row has a fault only for its references or its key. -/
theorem Fault.of_complete {earlier : List Row} {line : Nat} {raw : RawRow} {e : LoadError}
    (h : c.Fault s f t ps earlier line raw e) {row : Row} (hreads : Reads f t ps raw row) (hcomplete : t.Complete row) :
    f = .copy ∧ ¬ t.Links (c.Seen s t.name (t.rowsOf earlier)) row ∨
      t.Links (c.Seen s t.name (t.rowsOf earlier)) row ∧
        ∃ k, keyAt? row t.primaryKeyIndex? = some k ∧ c.Seen s t.name (t.rowsOf earlier) t.name k := by
  cases h with
  | fieldCount hfields => exact absurd hreads.fields hfields
  | badValue _ hmem hcol hfail =>
    obtain ⟨v, hv⟩ := hreads.readable _ _ _ hmem hcol
    rw [hv] at hfail
    cases hfail
  | nullValue hreads' hcol hrequired hnull =>
    cases hreads.eq hreads'
    rw [hcomplete _ _ hcol hnull] at hrequired
    cases hrequired
  | danglingReference hcopy hreads' hfk hk hseen =>
    cases hreads.eq hreads'
    exact Or.inl ⟨hcopy, fun hlinks => hseen (hlinks _ hfk _ hk)⟩
  | duplicateKey hreads' hlinks hk hseen =>
    cases hreads.eq hreads'
    exact Or.inr ⟨hlinks, _, hk, hseen⟩

/-- A line with a fault is refused. -/
theorem Fault.refused {earlier : List Row} {line : Nat} {raw : RawRow} {e : LoadError}
    (h : c.Fault s f t ps earlier line raw e) : ∃ e', c.judge s f t ps (t.rowsOf earlier) line raw = .refuse e' := by
  have hjust := just_judge c s f t ps earlier line raw
  cases hj : c.judge s f t ps (t.rowsOf earlier) line raw with
  | refuse e' => exact ⟨e', rfl⟩
  | skip fk =>
    rw [hj] at hjust
    obtain ⟨rfl, row, hreads, hcomplete, hlinks⟩ := hjust
    rcases h.of_complete hreads hcomplete with ⟨hcopy, _⟩ | ⟨hlinks', _⟩
    · cases hcopy
    · exact absurd hlinks' hlinks
  | accept row key =>
    rw [hj] at hjust
    obtain ⟨hreads, hcomplete, hlinks, hkey, hnew⟩ := hjust
    rcases h.of_complete hreads hcomplete with ⟨_, hlinks'⟩ | ⟨_, k, hk, hseen⟩
    · exact absurd hlinks hlinks'
    · exact absurd hseen (hnew k (hkey.symm.trans hk))

/-! ## Runs -/

/-- Rows in their order, behind earlier ones, without those that refer to a row that is not there when their turn
comes. -/
inductive Sifted (c : Catalog) (s : Session) (t : TableDef) : List Row → List Row → List Row → Prop
  | nil {earlier : List Row} : Sifted c s t earlier [] []
  | linked {earlier rows kept : List Row} {row : Row} : t.Links (c.Seen s t.name (t.rowsOf earlier)) row →
      Sifted c s t (earlier ++ [row]) rows kept → Sifted c s t earlier (row :: rows) (row :: kept)
  | dangling {earlier rows kept : List Row} {row : Row} : ¬ t.Links (c.Seen s t.name (t.rowsOf earlier)) row →
      Sifted c s t earlier rows kept → Sifted c s t earlier (row :: rows) kept

theorem Sifted.subset {earlier rows kept : List Row} (h : c.Sifted s t earlier rows kept) : kept ⊆ rows := by
  induction h with
  | nil => exact Subset.refl _
  | linked _ _ ih => exact cons_subset_cons _ ih
  | dangling _ _ ih => exact fun row hrow => mem_cons_of_mem _ (ih hrow)

/-- A line has a fault behind the rows that are kept from the lines before it and the `earlier` ones; the first line has
number `line`. -/
def FaultyFrom (c : Catalog) (s : Session) (f : Format) (t : TableDef) (ps : List Nat) (earlier : List Row) (line : Nat)
    (raws : List RawRow) (e : LoadError) : Prop :=
  ∃ before raw after rows kept, raws = before ++ raw :: after ∧ Forall₂ (Reads f t ps) before rows ∧
    c.Sifted s t earlier rows kept ∧ c.Fault s f t ps (earlier ++ kept) (line + before.length) raw e

/-- A scan that succeeds has accepted the rows of its lines without those that dangle; under `copy` none does. -/
theorem sifted_of_scan : ∀ (raws : List RawRow) (earlier : List Row) (line : Nat),
    (c.scan s f t ps (t.rowsOf earlier) line raws).failure = none → ∃ rows kept, Forall₂ (Reads f t ps) raws rows ∧
      c.Sifted s t earlier rows kept ∧ (f = .copy → kept = rows) ∧
      (c.scan s f t ps (t.rowsOf earlier) line raws).accepted = t.rowsOf (earlier ++ kept)
  | [], earlier, _, _ => ⟨[], [], .nil, .nil, fun _ => rfl, by rw [append_nil]; rfl⟩
  | raw :: rest, earlier, line, h => by
    have hjust := just_judge c s f t ps earlier line raw
    rw [scan] at h ⊢
    cases hj : c.judge s f t ps (t.rowsOf earlier) line raw with
    | refuse e =>
      rw [hj] at h
      cases h
    | skip fk =>
      rw [hj] at h hjust
      obtain ⟨hload, row, hreads, _, hlinks⟩ := hjust
      obtain ⟨rows, kept, hrows, hsifted, _, haccepted⟩ := sifted_of_scan rest earlier (line + 1) h
      refine ⟨row :: rows, kept, .cons hreads hrows, .dangling hlinks hsifted, fun hf => ?_, haccepted⟩
      rw [hload] at hf
      cases hf
    | accept row key =>
      rw [hj] at h hjust
      obtain ⟨hreads, _, hlinks, rfl, _⟩ := hjust
      simp only [TableDef.rowsOf_push] at h ⊢
      obtain ⟨rows, kept, hrows, hsifted, hcopy, haccepted⟩ := sifted_of_scan rest (earlier ++ [row]) (line + 1) h
      refine ⟨row :: rows, row :: kept, .cons hreads hrows, .linked hlinks hsifted, fun hf => by rw [hcopy hf], ?_⟩
      rw [haccepted, append_assoc, singleton_append]

/-- A scan that fails has come to a line with a fault. -/
theorem faulty_of_scan {e : LoadError} : ∀ (raws : List RawRow) (earlier : List Row) (line : Nat),
    (c.scan s f t ps (t.rowsOf earlier) line raws).failure = some e → c.FaultyFrom s f t ps earlier line raws e
  | [], _, _, h => by cases h
  | raw :: rest, earlier, line, h => by
    have hjust := just_judge c s f t ps earlier line raw
    rw [scan] at h
    cases hj : c.judge s f t ps (t.rowsOf earlier) line raw with
    | refuse e' =>
      rw [hj] at h hjust
      cases h
      exact ⟨[], raw, rest, [], [], rfl, .nil, .nil, by rwa [append_nil]⟩
    | skip fk =>
      rw [hj] at h hjust
      obtain ⟨_, row, hreads, _, hlinks⟩ := hjust
      obtain ⟨before, raw', after, rows, kept, rfl, hrows, hsifted, hfault⟩ := faulty_of_scan rest earlier (line + 1) h
      refine ⟨raw :: before, raw', after, row :: rows, kept, rfl, .cons hreads hrows, .dangling hlinks hsifted, ?_⟩
      rwa [length_cons, Nat.add_comm before.length, ← Nat.add_assoc]
    | accept row key =>
      rw [hj] at h hjust
      obtain ⟨hreads, _, hlinks, rfl, _⟩ := hjust
      simp only [TableDef.rowsOf_push] at h
      obtain ⟨before, raw', after, rows, kept, rfl, hrows, hsifted, hfault⟩ :=
        faulty_of_scan rest (earlier ++ [row]) (line + 1) h
      refine ⟨raw :: before, raw', after, row :: rows, row :: kept, rfl, .cons hreads hrows, .linked hlinks hsifted, ?_⟩
      rw [append_assoc, singleton_append] at hfault
      rwa [length_cons, Nat.add_comm before.length, ← Nat.add_assoc]

/-- A scan does not get past a line with a fault. -/
theorem failure_of_fault {raw : RawRow} {after : List RawRow} {e : LoadError} {before : List RawRow}
    {rows kept earlier : List Row} {line : Nat} (hrows : Forall₂ (Reads f t ps) before rows)
    (hsifted : c.Sifted s t earlier rows kept) (hfault : c.Fault s f t ps (earlier ++ kept) (line + before.length) raw e) :
    ∃ e', (c.scan s f t ps (t.rowsOf earlier) line (before ++ raw :: after)).failure = some e' := by
  induction hrows generalizing kept earlier line with
  | nil =>
    cases hsifted
    rw [append_nil] at hfault
    obtain ⟨e', hj⟩ := hfault.refused
    rw [nil_append, scan, show line = line + [].length from rfl, hj]
    exact ⟨e', rfl⟩
  | @cons raw₀ row₀ before rows hreads hrows ih =>
    have hjust := just_judge c s f t ps earlier line raw₀
    rw [length_cons, Nat.add_comm before.length, ← Nat.add_assoc] at hfault
    rw [cons_append, scan]
    cases hj : c.judge s f t ps (t.rowsOf earlier) line raw₀ with
    | refuse e' => exact ⟨e', rfl⟩
    | skip fk =>
      rw [hj] at hjust
      obtain ⟨_, row, hreads', _, hlinks⟩ := hjust
      cases hreads.eq hreads'
      cases hsifted with
      | linked hlinks' _ => exact absurd hlinks' hlinks
      | dangling _ hsifted => exact ih hsifted hfault
    | accept row key =>
      rw [hj] at hjust
      obtain ⟨hreads', _, hlinks, rfl, _⟩ := hjust
      cases hreads.eq hreads'
      simp only [TableDef.rowsOf_push]
      cases hsifted with
      | dangling hlinks' _ => exact absurd hlinks hlinks'
      | linked _ hsifted =>
        refine ih hsifted ?_
        rwa [append_assoc, singleton_append]

/-! ## Statements -/

/-- The statement names a table and columns of it, and its payload can be cut into fields. -/
structure Readable (c : Catalog) (f : Format) (d : Destination) (payload : Bytes) (t : Table) (ps : List Nat)
    (raws : List RawRow) : Prop where
  table : c.find? d.table = some t
  positions : Catalog.positions t.definition d.columns = .ok ps
  lines : readPayload f payload = .ok raws

variable {d : Destination} {payload : Bytes} {tbl : Table} {raws : List RawRow}

/-- A statement that can be read fails where the scan of its lines does. -/
theorem Readable.value_load (h : c.Readable f d payload tbl ps raws) {e : LoadError} :
    (c.load s f d payload).value = .error e ↔ (c.scan s f tbl.definition ps {} 1 raws).failure = some e := by
  have hexamine : c.examine s f d payload = .ok (tbl.definition, c.scan s f tbl.definition ps {} 1 raws) := by
    unfold examine
    simp only [h.table, h.positions, h.lines]
  unfold load
  rw [hexamine]
  simp only
  cases (c.scan s f tbl.definition ps {} 1 raws).failure with
  | none => simp
  | some e' => simp

/-- Rows that are sifted by the keys in sight are admitted by the rows in sight. -/
theorem Sifted.admitted (hholds : c.Holds s) (ht : c.keyIndex? t.name = t.primaryKeyIndex?) {earlier rows kept : List Row}
    (h : c.Sifted s t earlier rows kept) : c.admitted s t earlier rows = earlier ++ kept := by
  have hadmits (earlier : List Row) (row : Row) : c.admits s t earlier row = true ↔
      t.Links (c.Seen s t.name (t.rowsOf earlier)) row := by
    rw [← links_iff]
    exact hholds.admits_iff (A := t.rowsOf earlier) ht rfl
  induction h with
  | nil => exact (append_nil _).symm
  | linked hlinks _ ih =>
    rw [admitted_cons, if_pos ((hadmits _ _).mpr hlinks), ih, append_assoc, singleton_append]
  | dangling hlinks _ ih => rw [admitted_cons, if_neg (mt (hadmits _ _).mp hlinks), ih]

/-- What a statement has done that answers `a` and leaves its session as `s'`: its lines describe `rows`, and it has
staged those of them that are `kept`. -/
structure Loaded (c : Catalog) (s : Session) (f : Format) (d : Destination) (a : Ack) (s' : Session) (t : Table)
    (ps : List Nat) (raws : List RawRow) (rows kept : List Row) : Prop where
  reads : Forall₂ (Reads f t.definition ps) raws rows
  sifted : c.Sifted s t.definition [] rows kept
  affected : a.rows = kept.length
  total : a.rows + a.warnings = raws.length
  unwarned : f = .copy → a.warnings = 0
  staged : ∀ x, s'.stagedFor x =
    if x = d.table then (s.stagedFor x).append (t.definition.rowsOf kept) else s.stagedFor x
  width : ∀ row ∈ kept, row.length = t.definition.columns.length
  unlisted : ∀ row ∈ kept, ∀ i < t.definition.columns.length, i ∉ ps → row[i]? = some .null
  complete : ∀ row ∈ kept, t.definition.Complete row
  new : ∀ row ∈ kept, ∀ k, keyAt? row t.definition.primaryKeyIndex? = some k → k ∉ c.visibleKeys s d.table
  distinct : (t.definition.rowsOf kept).keys.Nodup
  /-- Where keys are those of rows, references and keys are looked up in the rows. -/
  visible : c.Holds s → kept = c.admitted s t.definition [] rows ∧
    ∀ row ∈ kept, ∀ k, keyAt? row t.definition.primaryKeyIndex? = some k →
      ∀ other ∈ c.visibleRows s d.table, keyAt? other t.definition.primaryKeyIndex? ≠ some k

theorem loaded_of_load {a : Ack} (h : (c.load s f d payload).value = .ok a) : ∃ t ps raws rows kept,
    c.Readable f d payload t ps raws ∧ c.Loaded s f d a (c.load s f d payload).state t ps raws rows kept := by
  obtain ⟨t, ps, raws, hloads⟩ := loads_of_load h
  obtain ⟨hvalue, hstate⟩ := hloads.load
  have hname : t.definition.name = d.table := name_of_find? hloads.table
  have hkey : c.keyIndex? t.definition.name = t.definition.primaryKeyIndex? := by
    rw [hname, keyIndex?, hloads.table]
    rfl
  obtain ⟨rows, kept, hreads, hsifted, hcopy, haccepted⟩ := sifted_of_scan raws [] 1 hloads.succeeds
  have hcount := count_scan raws {} 1 hloads.succeeds
  rw [nil_append] at haccepted
  rw [show t.definition.rowsOf [] = {} from rfl] at haccepted
  rw [h] at hvalue
  cases hvalue
  -- What holds of accepted rows holds of the rows that are kept.
  have hcomplete : ∀ row ∈ (c.scan s f t.definition ps {} 1 raws).accepted.rows, t.definition.Complete row :=
    forall_rows_scan (fun haccepts => complete_iff.mp haccepts.complete) raws
  have hnew : ∀ k ∈ (c.scan s f t.definition ps {} 1 raws).accepted.keys, k ∉ c.visibleKeys s t.definition.name :=
    keys_scan f t.definition ps raws {} 1 (forall_mem_nil _)
  have hdistinct : (c.scan s f t.definition ps {} 1 raws).accepted.keys.Nodup := nodup_keys_scan raws
  rw [haccepted] at hcount hstate hcomplete hnew hdistinct
  have htotal := hcount.trans (Nat.zero_add raws.length)
  have hof {row : Row} (hrow : row ∈ kept) : ∃ raw, Reads f t.definition ps raw row := by
    obtain ⟨i, hi, rfl⟩ := mem_iff_getElem.mp (hsifted.subset hrow)
    exact ⟨_, hreads.get (by rw [hreads.length_eq]; exact hi) hi⟩
  have hnew : ∀ row ∈ kept, ∀ k, keyAt? row t.definition.primaryKeyIndex? = some k → k ∉ c.visibleKeys s d.table := by
    intro row hrow k hk
    rw [← hname]
    exact hnew k (mem_filterMap.mpr ⟨row, hrow, hk⟩)
  refine ⟨t, ps, raws, rows, kept, ⟨hloads.table, hloads.positions, hloads.lines⟩, hreads, hsifted, ?_, ?_, ?_, ?_, ?_, ?_,
    hcomplete, hnew, hdistinct, ?_⟩
  · rw [haccepted]
    rfl
  · rw [haccepted]
    exact htotal
  · intro hf
    have hall : (t.definition.rowsOf kept).count = raws.length := by
      rw [hcopy hf, hreads.length_eq]
      rfl
    show (c.scan s f t.definition ps {} 1 raws).skipped.length = 0
    omega
  · intro x
    rw [hstate, stagedFor_stage, hname]
  · intro row hrow
    obtain ⟨raw, hraw⟩ := hof hrow
    exact hraw.width
  · intro row hrow i hi hlisted
    obtain ⟨raw, hraw⟩ := hof hrow
    exact hraw.unlisted hi hlisted
  · intro hholds
    refine ⟨(hsifted.admitted hholds hkey).symm, ?_⟩
    intro row hrow k hk other hother hsame
    refine hnew row hrow k hk (hholds.mem_visibleKeys.mpr ⟨other, hother, ?_⟩)
    rw [← hname, hkey]
    exact hsame

/-- **A statement does what its payload says.** If it fails, its session stays as it was. If it is accepted, it stages the
rows that its lines describe, in order and in its table only, without those that refer to a row that is neither in sight
nor, in the same table, accepted before, and it counts these as warnings, of which `copy` gives none. It fails exactly
if one of its lines has a fault behind the rows accepted before. -/
theorem load_exact (c : Catalog) (s : Session) (f : Format) (d : Destination) (payload : Bytes) :
    let r := c.load s f d payload
    (∀ e, r.value = .error e → r.state = s) ∧
    (∀ a, r.value = .ok a → ∃ t ps raws rows kept, c.Readable f d payload t ps raws ∧
      c.Loaded s f d a r.state t ps raws rows kept) ∧
    ∀ t ps raws, c.Readable f d payload t ps raws →
      (∀ e, r.value = .error e → c.FaultyFrom s f t.definition ps [] 1 raws e) ∧
      ∀ e, c.FaultyFrom s f t.definition ps [] 1 raws e → ∃ e', r.value = .error e' := by
  intro r
  refine ⟨fun e => state_load_of_error, fun a => loaded_of_load, fun t ps raws hreadable => ⟨fun e h => ?_, ?_⟩⟩
  · exact faulty_of_scan raws [] 1 (hreadable.value_load.mp h)
  · rintro e ⟨before, raw, after, rows, kept, rfl, hrows, hsifted, hfault⟩
    obtain ⟨e', hfailure⟩ := failure_of_fault hrows hsifted hfault
    exact ⟨e', hreadable.value_load.mpr hfailure⟩

/-- The tables of teams and members, with one team. -/
def teams : Catalog where
  tables := [⟨Database.teamTable, Database.teamTable.rowsOf [[.int 1]]⟩, ⟨Database.memberTable, {}⟩]

/-- A member without its team is skipped, and so is one behind it who is looked after by that member. -/
theorem load_exact_cascade :
    let d : Destination := ⟨"member", ["id", "team", "mentor"]⟩
    let r := teams.load {} .loadData d (Bytes.ofString "10\t1\t\\N\n11\t9\t10\n12\t1\t11\n")
    r.value = .ok ⟨1, 2⟩ ∧ ∃ t ps raws rows kept, teams.Loaded {} .loadData d ⟨1, 2⟩ r.state t ps raws rows kept ∧
      (r.state.stagedFor "member").rows = [[.int 10, .int 1, .null]] := by
  intro d r
  have hvalue : r.value = .ok ⟨1, 2⟩ := by decide +kernel
  obtain ⟨t, ps, raws, rows, kept, _, hloaded⟩ := (load_exact teams {} .loadData d _).2.1 _ hvalue
  exact ⟨hvalue, t, ps, raws, rows, kept, hloaded, by decide +kernel⟩

/-- A team without a number has as many fields as it has columns, and yet the statement fails. -/
theorem not_fault_fieldCount :
    ¬ ∀ (c : Catalog) (s : Session) (f : Format) (d : Destination) (payload : Bytes) (t : Table) (ps : List Nat)
      (raws : List RawRow) (e : LoadError), c.Readable f d payload t ps raws →
        (c.load s f d payload).value = .error e → ∃ raw ∈ raws, raw.length ≠ ps.length := by
  intro h
  have hreadable : teams.Readable .copy ⟨"team", ["id"]⟩ (Bytes.ofString "\\N\n")
      ⟨Database.teamTable, Database.teamTable.rowsOf [[.int 1]]⟩ [0] [[none]] := ⟨rfl, rfl, by decide +kernel⟩
  obtain ⟨raw, hraw, hlength⟩ := h teams {} .copy _ _ _ _ _ (.nullValue 1 "id") hreadable (by decide +kernel)
  rw [mem_singleton.mp hraw] at hlength
  exact hlength rfl

end Catalog

end BulkLoad
