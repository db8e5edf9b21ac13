import BulkLoad.Schema

/-!
# Names in a schema

A schema is built exactly when its table and its columns have names that do not consist of blanks, there is a column,
and no column is named twice (`Schema.Named`, `Schema.exists_build_iff`).
-/

namespace BulkLoad.Schema

open List

/-- The names of a table and of its columns are fit for a schema. -/
structure Named (table : String) (names : List String) : Prop where
  table : isBlankName table = false
  ne_nil : names ≠ []
  column : ∀ n ∈ names, isBlankName n = false
  nodup : names.Nodup

/-- The column names are without fault when none is blank and each one is new. -/
theorem columnFault?_eq_none_iff {table : String} : ∀ {names earlier : List String},
    columnFault? table earlier names = none ↔
      (∀ n ∈ names, isBlankName n = false) ∧ names.Nodup ∧ ∀ n ∈ names, n ∉ earlier
  | [], earlier => by simp [columnFault?]
  | n :: ns, earlier => by
    have ih := @columnFault?_eq_none_iff table ns (earlier ++ [n])
    rw [columnFault?]
    by_cases hblank : isBlankName n = true
    · simp [hblank]
    rw [if_neg hblank]
    by_cases hnew : n ∈ earlier
    · simp [hnew]
    rw [if_neg hnew, ih, forall_mem_cons, forall_mem_cons, nodup_cons]
    rw [Bool.not_eq_true] at hblank
    -- A later name is new when it differs from this one and from those before.
    have hlater : (∀ m ∈ ns, m ∉ earlier ++ [n]) ↔ n ∉ ns ∧ ∀ m ∈ ns, m ∉ earlier := by
      simp only [mem_append, mem_singleton, not_or]
      constructor
      · intro h
        exact ⟨fun hn => (h n hn).2 rfl, fun m hm => (h m hm).1⟩
      · rintro ⟨hn, h⟩ m hm
        exact ⟨h m hm, fun hmn => hn (hmn ▸ hm)⟩
    rw [hlater]
    constructor
    · rintro ⟨hcolumns, hnodup, hn, hearlier⟩
      exact ⟨⟨hblank, hcolumns⟩, ⟨hn, hnodup⟩, hnew, hearlier⟩
    · rintro ⟨⟨_, hcolumns⟩, ⟨hn, hnodup⟩, _, hearlier⟩
      exact ⟨hcolumns, hnodup, hn, hearlier⟩

theorem fault?_eq_none_iff {table : String} {names : List String} : fault? table names = none ↔ Named table names := by
  unfold fault?
  by_cases hblank : isBlankName table = true
  · rw [if_pos hblank]
    constructor
    · exact nofun
    · intro h
      simp [h.table] at hblank
  rw [if_neg hblank]
  by_cases hnil : names = []
  · subst hnil
    constructor
    · exact nofun
    · intro h
      exact absurd rfl h.ne_nil
  rw [if_neg (by simpa using hnil), columnFault?_eq_none_iff]
  constructor
  · rintro ⟨hcolumns, hnodup, _⟩
    exact ⟨Bool.eq_false_iff.mpr hblank, hnil, hcolumns, hnodup⟩
  · intro h
    exact ⟨h.column, h.nodup, fun _ _ => not_mem_nil⟩

variable {ρ : Type} {table : String} {columns : List (Column ρ)}

/-- A schema has the table and the columns that it was built from. -/
theorem eq_of_build {s : Schema ρ} (h : build table columns = .ok s) : s.table = table ∧ s.columns = columns := by
  unfold build at h
  split at h
  · cases h
  · cases h
    exact ⟨rfl, rfl⟩

/-- **A schema is built exactly when its names are fit for one.** -/
theorem exists_build_iff : (∃ s, build table columns = .ok s) ↔ Named table (columns.map Column.name) := by
  rw [← fault?_eq_none_iff]
  constructor
  · rintro ⟨s, hs⟩
    obtain ⟨htable, hcolumns⟩ := eq_of_build hs
    rw [← htable, ← hcolumns]
    exact s.faultless
  · intro h
    refine ⟨⟨table, columns, h⟩, ?_⟩
    unfold build
    split
    · next e he =>
      rw [h] at he
      cases he
    · rfl

/-- No column is named twice. -/
theorem nodup_names (s : Schema ρ) : s.names.Nodup := (fault?_eq_none_iff.mp s.faultless).nodup

end BulkLoad.Schema
