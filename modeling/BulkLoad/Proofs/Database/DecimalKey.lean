import BulkLoad.Proofs.Database.Statement
import BulkLoad.Proofs.Number.Value

/-!
# Decimals as keys

A decimal is kept as it is spelled, and its spelling is its key. So a number that can be spelled in several ways is
several keys. Where all decimals are canonical, each number has one spelling, and then it is the number that decides
whether a key is taken (`Value.taken_iff_number`).

- `Catalog.Reads.typed`: a cell is empty or has been read as the type of its column;
- `Database.decimalKeys_of_reachable`: what the keys of a decimal column are in every reachable database, and what the
  checks of keys and references ask for; `Database.not_decimalKeys_by_number`: one number can be two keys.
-/

namespace BulkLoad

open List

namespace Value

/-! ## Numbers of keys -/

/-- The number that a decimal denotes. Other values denote none. -/
def number? : Value → Option ℚ
  | .decimal d => some (decimalValue d.toList)
  | _ => none

/-- A decimal that is spelled canonically. -/
inductive Canonical : Value → Prop
  | decimal {d : String} : CanonicalDecimal d.toList → Canonical (.decimal d)

variable {k k' : Value}

/-- Canonical decimals of the same number are the same. -/
theorem Canonical.eq_of_number (h : k.Canonical) (h' : k'.Canonical) (hnumber : k.number? = k'.number?) : k = k' := by
  obtain ⟨h⟩ := h
  obtain ⟨h'⟩ := h'
  rw [String.toList_injective (h.eq_of_value h' (Option.some.inj hnumber))]

/-- **Among canonical decimals a key is taken when its number is.** -/
theorem taken_iff_number {taken : Value → Prop} (hk : k.Canonical) (htaken : ∀ k', taken k' → k'.Canonical) :
    taken k ↔ ∃ k', taken k' ∧ k'.number? = k.number? := by
  refine ⟨fun h => ⟨k, h, rfl⟩, ?_⟩
  rintro ⟨k', h, hnumber⟩
  rwa [← (htaken k' h).eq_of_number hk hnumber]

/-- The answer tells whether the key is taken: it goes by the spelling, and by the number where this key and those that
are taken are canonical. -/
structure Tells (k : Value) (answer : Prop) (taken : Value → Prop) : Prop where
  spelling : answer ↔ taken k
  number : k.Canonical → (∀ k', taken k' → k'.Canonical) → (answer ↔ ∃ k', taken k' ∧ k'.number? = k.number?)

theorem tells_of_iff {answer : Prop} {taken : Value → Prop} (h : answer ↔ taken k) : k.Tells answer taken :=
  ⟨h, fun hk htaken => h.trans (taken_iff_number hk htaken)⟩

/-- The answer tells that none of the keys is taken. -/
structure TellsAll (answer : Prop) (taken keys : Value → Prop) : Prop where
  spelling : answer ↔ ∀ k, keys k → ¬ taken k
  number : (∀ k, keys k → k.Canonical) → (∀ k, taken k → k.Canonical) →
    (answer ↔ ∀ k, keys k → ∀ k', taken k' → k'.number? ≠ k.number?)

theorem tellsAll_of_iff {answer : Prop} {taken keys : Value → Prop} (h : answer ↔ ∀ k, keys k → ¬ taken k) :
    TellsAll answer taken keys := by
  refine ⟨h, fun hkeys htaken => h.trans (forall₂_congr fun k hk => ?_)⟩
  rw [taken_iff_number (hkeys k hk) htaken]
  simp

end Value

/-! ## Cells of decimal columns -/

/-- What a decimal column takes is a decimal. -/
theorem written_of_decode {f : Format} {field : Bytes} {v : Value} (h : ColumnType.decimal.decode f field = .ok v) :
    ∃ a, v = .decimal a ∧ WrittenDecimal a.toList := by
  rw [ColumnType.decode, if_neg (by simp)] at h
  split at h
  · cases h
  · next a _ =>
    simp only [ColumnType.readLiteral] at h
    split at h
    · next hstored =>
      cases h
      exact ⟨a, rfl, isStoredDecimal_iff.mp hstored⟩
    · cases h

namespace Catalog

variable {c : Catalog} {s : Session} {f : Format} {t : TableDef} {ps : List Nat} {i : Nat}

/-- A cell is empty, or a field has been read as the type of its column. -/
theorem Reads.typed {raw : RawRow} {row : Row} (h : Reads f t ps raw row) {col : ColumnDef}
    (hcol : t.columns[i]? = some col) {v : Value} (hv : row[i]? = some v) :
    v = .null ∨ ∃ field, col.type.decode f field = .ok v := by
  cases hlast : lastField? (raw.zip ps) i with
  | none =>
    rw [h.missing i (List.getElem?_eq_some_iff.mp hcol).1 hlast] at hv
    cases hv
    exact Or.inl rfl
  | some field =>
    obtain ⟨v', hdecode, hcell⟩ := h.given i field col hlast hcol
    rw [hv] at hcell
    cases hcell
    exact Or.inr ⟨field, hdecode⟩

/-- The keys in the decimal columns of a row are written decimals. -/
def Decimals (t : TableDef) (row : Row) : Prop := ∀ i col, t.columns[i]? = some col → col.type = .decimal →
  ∀ k, keyAt? row (some i) = some k → ∃ a, k = .decimal a ∧ WrittenDecimal a.toList

theorem Reads.decimals {raw : RawRow} {row : Row} (h : Reads f t ps raw row) : Decimals t row := by
  intro i col hcol htype k hk
  obtain ⟨v, hv, hkey⟩ := keyAt?_eq_some.mp hk
  rcases h.typed hcol hv with rfl | ⟨field, hdecode⟩
  · cases hkey
  · rw [htype] at hdecode
    obtain ⟨a, rfl, ha⟩ := written_of_decode hdecode
    cases hkey
    exact ⟨a, rfl, ha⟩

/-- A row that lacks nothing else is refused exactly when its key is seen. -/
theorem judgeRow_duplicate_iff {A : Rows} {line : Nat} {row : Row} {k : Value} (hcomplete : t.Complete row)
    (hlinks : t.Links (c.Seen s t.name A) row) (hk : keyAt? row t.primaryKeyIndex? = some k) :
    c.judgeRow s f t A line row = .refuse (.duplicateKey line k t.name) ↔ c.Seen s t.name A t.name k := by
  have hjudge : c.judgeRow s f t A line row =
      if (c.visibleKeys s t.name).contains k || A.keys.contains k then .refuse (.duplicateKey line k t.name)
      else .accept row (some k) := by
    unfold judgeRow
    rw [complete_iff.mpr hcomplete]
    simp only [links_iff.mpr hlinks, hk]
  rw [hjudge]
  split
  · next htaken => simpa [Seen] using htaken
  · next hnew => simpa [Seen] using hnew

end Catalog

namespace Database

open Catalog

/-! ## Rates and entries -/

/-- A table of rates, known by their amounts. -/
def rateTable : TableDef := { name := "rate", columns := [⟨"amount", .decimal, false⟩], primaryKey := some "amount" }

/-- A table of entries, each of which refers to a rate. -/
def entryTable : TableDef where
  name := "entry"
  columns := [⟨"amount", .decimal, true⟩]
  foreignKeys := [⟨"amount", "rate"⟩]

/-- A connection publishes two rates of one number. -/
def rated : Database := Database.after {}
  [.createTable rateTable, .createTable entryTable, .connect .copy true, .openChannel 0,
    .send 0 (String.ofList (statementFor .copy "rate" ["amount"])) (Bytes.ofString "1.0\n1.00\n")]

theorem reachable_rated : rated.Reachable := Reachable.initial.after

/-- Both are committed. -/
theorem rows_rated : ∃ rate entry, rated.catalog.find? "rate" = some rate ∧ rated.catalog.find? "entry" = some entry ∧
    rate.definition = rateTable ∧ entry.definition = entryTable ∧
    rate.data.rows = [[.decimal "1.0"], [.decimal "1.00"]] := by
  have hheld : ((rated.catalog.find? "rate").map fun t => (t.definition, t.data.rows),
      (rated.catalog.find? "entry").map fun t => t.definition) =
      (some (rateTable, [[.decimal "1.0"], [.decimal "1.00"]]), some entryTable) := by decide +kernel
  simp only [Prod.mk.injEq, Option.map_eq_some_iff] at hheld
  obtain ⟨⟨rate, hrate, hdefinition, hrows⟩, entry, hentry, hdefinition'⟩ := hheld
  exact ⟨rate, entry, hrate, hentry, hdefinition, hdefinition', hrows⟩

/-! ## Reachable databases -/

/-- **Decimals are keys by their spelling.** Take a table of a reachable database with a decimal column as its primary
key. The keys of its committed rows are decimals of different spellings; those that are canonical denote different
numbers. A further row is refused when its spelling is taken; a commit fails when the spelling of a staged key has been
committed; and a reference to the table dangles when its spelling is not to be seen there. Where all keys are
canonical, each of these checks goes by the number. -/
theorem decimalKeys_of_reachable {d : Database} (hd : d.Reachable) {x column : String} {t : Table} {i : Nat}
    {col : ColumnDef} (hfind : d.catalog.find? x = some t) (hkey : t.definition.primaryKey = some column)
    (hi : t.definition.columnIndex? column = some i) (hcol : t.definition.columns[i]? = some col)
    (htype : col.type = .decimal) :
    (∀ row ∈ t.data.rows, ∀ k, keyAt? row (some i) = some k → ∃ a, k = .decimal a ∧ WrittenDecimal a.toList) ∧
    (t.data.rows.Pairwise fun row row' => ∀ k k', keyAt? row (some i) = some k → keyAt? row' (some i) = some k' →
      k ≠ k' ∧ (k.Canonical → k'.Canonical → k.number? ≠ k'.number?)) ∧
    (∀ n f A line row k, t.definition.Complete row → t.definition.Links (d.catalog.Seen (d.session n) x A) row →
      keyAt? row (some i) = some k →
        k.Tells (d.catalog.judgeRow (d.session n) f t.definition A line row = .refuse (.duplicateKey line k x))
          (d.catalog.Seen (d.session n) x A x)) ∧
    (∀ n, Value.TellsAll (d.catalog.conflictIn? (d.session n).staged x = none) (· ∈ d.catalog.keysOf x)
      (· ∈ ((d.session n).stagedFor x).keys)) ∧
    ∀ n y t', d.catalog.find? y = some t' → ∀ fk ∈ t'.definition.foreignKeys, fk.references = x → ∀ A row k,
      keyAt? row (t'.definition.columnIndex? fk.column) = some k →
        k.Tells (d.catalog.dangles (d.session n) t'.definition A row fk = false)
          (d.catalog.Seen (d.session n) y A x) := by
  have hindex : t.definition.primaryKeyIndex? = some i := by rw [TableDef.primaryKeyIndex?, hkey]; exact hi
  have hname : t.definition.name = x := name_of_find? hfind
  refine ⟨?_, ?_, ?_, ?_, ?_⟩
  · intro row hrow k hk
    have hdecimals := hd.eachRow (fun haccepts => (decodeRow_iff.mp haccepts.decoded).decimals) 0
    exact hdecimals.row x t hfind row hrow i col hcol htype k hk
  · have hdistinct := invariant_distinct.of_reachable hd 0
    have hindexed := ((hd.declared 0).committed x t hfind).indexedBy hindex ((hd.wide 0).row x t hfind)
      (TableDef.columnIndex?_lt hi) (hdistinct.nodup x t hfind)
    refine hindexed.distinct.imp fun {row row'} hrows k k' hk hk' => ?_
    obtain ⟨v, hv, hvk⟩ := keyAt?_eq_some.mp hk
    obtain ⟨v', hv', hvk'⟩ := keyAt?_eq_some.mp hk'
    have hne : k ≠ k' := fun heq => hrows v v' k hv hv' hvk (heq ▸ hvk')
    exact ⟨hne, fun hc hc' hnumber => hne (hc.eq_of_number hc' hnumber)⟩
  · intro n f A line row k hcomplete hlinks hk
    subst hname
    exact Value.tells_of_iff (judgeRow_duplicate_iff hcomplete hlinks (by rw [hindex]; exact hk))
  · intro n
    refine Value.tellsAll_of_iff ?_
    simp [conflictIn?, Session.stagedFor]
  · intro n y t' hfind' fk hfk hreferences A row k hk
    have hname' : t'.definition.name = y := name_of_find? hfind'
    subst hname' hreferences
    refine Value.tells_of_iff ?_
    rw [← Bool.not_eq_true, dangles_iff]
    simp [hk]

/-- Two rates of one number are committed under two keys, and an entry of a third spelling refers to neither. -/
theorem decimalKeys_of_reachable_rated : rated.Reachable ∧
    ∃ rate entry, rated.catalog.find? "rate" = some rate ∧ rated.catalog.find? "entry" = some entry ∧
      rate.definition.primaryKey = some "amount" ∧ rate.definition.columnIndex? "amount" = some 0 ∧
      rate.definition.columns[0]? = some ⟨"amount", .decimal, false⟩ ∧
      rate.data.rows = [[.decimal "1.0"], [.decimal "1.00"]] ∧
      (∀ row ∈ rate.data.rows, ∀ k, keyAt? row (some 0) = some k → ∃ a, k = .decimal a ∧ WrittenDecimal a.toList) ∧
      (Value.decimal "+1.0").Tells
        (rated.catalog.dangles (rated.session 0) entry.definition {} [.decimal "+1.0"] ⟨"amount", "rate"⟩ = false)
        (rated.catalog.Seen (rated.session 0) "entry" {} "rate") := by
  obtain ⟨rate, entry, hrate, hentry, hdefinition, hdefinition', hrows⟩ := rows_rated
  have hkey : rate.definition.primaryKey = some "amount" := by rw [hdefinition]; rfl
  have hi : rate.definition.columnIndex? "amount" = some 0 := by rw [hdefinition]; decide
  have hcol : rate.definition.columns[0]? = some ⟨"amount", .decimal, false⟩ := by rw [hdefinition]; rfl
  obtain ⟨hwritten, _, _, _, hreferences⟩ := decimalKeys_of_reachable reachable_rated hrate hkey hi hcol rfl
  refine ⟨reachable_rated, rate, entry, hrate, hentry, hkey, hi, hcol, hrows, hwritten, ?_⟩
  exact hreferences 0 "entry" entry hentry ⟨"amount", "rate"⟩ (by rw [hdefinition']; decide) rfl {} _ _
    (by rw [hdefinition']; decide +kernel)

/-- **One number can be two keys**: `1.0` and `1.00` are committed together. And a reference can dangle although its
number is there: `+1.0` refers to neither of them. -/
theorem not_decimalKeys_by_number :
    (¬ ∀ (d : Database) (x column : String) (t : Table) (i : Nat) (col : ColumnDef), d.Reachable →
      d.catalog.find? x = some t → t.definition.primaryKey = some column → t.definition.columnIndex? column = some i →
      t.definition.columns[i]? = some col → col.type = .decimal →
        t.data.rows.Pairwise fun row row' => ∀ k k', keyAt? row (some i) = some k → keyAt? row' (some i) = some k' →
          k.number? ≠ k'.number?) ∧
    ¬ ∀ (d : Database) (n : Nat) (y : String) (t : Table) (fk : ForeignKey) (row : Row) (k : Value), d.Reachable →
      d.catalog.find? y = some t → fk ∈ t.definition.foreignKeys →
      keyAt? row (t.definition.columnIndex? fk.column) = some k →
      d.catalog.dangles (d.session n) t.definition {} row fk = true →
        ∀ k', d.catalog.Seen (d.session n) y {} fk.references k' → k'.number? ≠ k.number? := by
  obtain ⟨rate, entry, hrate, hentry, hdefinition, hdefinition', hrows⟩ := rows_rated
  constructor
  · intro h
    have hpairs := h rated "rate" "amount" rate 0 ⟨"amount", .decimal, false⟩ reachable_rated hrate
      (by rw [hdefinition]; rfl) (by rw [hdefinition]; decide) (by rw [hdefinition]; rfl) rfl
    rw [hrows, pairwise_pair] at hpairs
    exact hpairs (.decimal "1.0") (.decimal "1.00") (by decide) (by decide) (by decide +kernel)
  · intro h
    have hdangles :
        rated.catalog.dangles (rated.session 0) entryTable {} [.decimal "+1.0"] ⟨"amount", "rate"⟩ = true := by
      decide +kernel
    have hseen : Value.decimal "1.0" ∈ rated.catalog.visibleKeys (rated.session 0) "rate" := by decide +kernel
    exact h rated 0 "entry" entry ⟨"amount", "rate"⟩ [.decimal "+1.0"] (.decimal "+1.0") reachable_rated hentry
      (by rw [hdefinition']; decide) (by rw [hdefinition']; decide +kernel) (by rw [hdefinition']; exact hdangles)
      (.decimal "1.0") (Or.inl hseen) (by decide +kernel)

end Database

end BulkLoad
