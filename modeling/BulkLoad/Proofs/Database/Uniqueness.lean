import BulkLoad.Proofs.Database.Declared

/-!
# Unique primary keys

No two rows of a table have the same primary key. A statement refuses a key that is committed, that its session has
staged or that one of its own rows has; so the rows that a session has staged for a table have different keys, although
other sessions may publish some of these keys meanwhile. Publishing checks the staged keys once more, so that committed
rows have different keys as well (`Catalog.Distinct`, `Catalog.invariant_distinct`).

`Database.primaryKeys_of_reachable`: in every reachable database the keys that are kept for a table are those of its
rows, and no key belongs to two of them, for the committed rows and for the rows that each session has staged.
-/

namespace BulkLoad

open List

/-- The keys that are kept with rows are those in their cells at index `i`, and no two rows have the same one there. -/
structure Rows.IndexedBy (r : Rows) (i : Nat) : Prop where
  cell : ∀ row ∈ r.rows, i < row.length
  mem_keys : ∀ k, k ∈ r.keys ↔ ∃ row ∈ r.rows, ∃ v, row[i]? = some v ∧ v.key? = some k
  distinct : r.rows.Pairwise fun row row' => ∀ v v' k, row[i]? = some v → row'[i]? = some v' →
    v.key? = some k → v'.key? ≠ some k

namespace Catalog

theorem keyAt?_eq_some {row : Row} {i : Nat} {k : Value} :
    keyAt? row (some i) = some k ↔ ∃ v, row[i]? = some v ∧ v.key? = some k := by
  rw [keyAt?, Option.bind_some, Option.bind_eq_some_iff]

variable {c c' : Catalog} {s s' : Session} {f : Format} {t : TableDef}

/-! ## Different keys -/

/-- The rows that a scan accepts have different keys. -/
theorem nodup_keys_scan {ps : List Nat} (raws : List RawRow) :
    (c.scan s f t ps {} 1 raws).accepted.keys.Nodup := by
  refine accepted_scan (P := fun A => A.keys.Nodup) ?_ raws 1 Pairwise.nil
  intro A line raw row key haccepts hA
  rw [Rows.keys_push]
  cases key with
  | none => rwa [Option.toList_none, append_nil]
  | some k =>
    rw [Option.toList_some, nodup_append]
    refine ⟨hA, pairwise_singleton .., ?_⟩
    rintro a ha b hb rfl
    rw [mem_singleton.mp hb] at ha
    exact (haccepts.new k rfl).2 ha

/-- A commit that succeeds has found no staged key among the committed ones. -/
theorem disjoint_of_commit {C : Catalog} (h : c.commit s = .ok C) (x : String) :
    ∀ k ∈ (s.stagedFor x).keys, k ∉ c.keysOf x := by
  unfold commit at h
  split at h
  · cases h
  · next hconflict => exact conflict?_eq_none_iff.mp hconflict x

/-! ## Invariance -/

/-- No key is committed twice for a table, and none is staged twice by the session. -/
structure Distinct (c : Catalog) (s : Session) : Prop extends Holds c s where
  nodup : ∀ x t, c.find? x = some t → t.data.keys.Nodup
  nodupStaged : ∀ x, (s.stagedFor x).keys.Nodup

theorem Distinct.load (h : c.Distinct s) (f : Format) (d : Destination) (payload : Bytes) :
    c.Distinct (c.load s f d payload).state := by
  refine ⟨h.toHolds.load f d payload, h.nodup, ?_⟩
  intro x
  rcases state_load c s f d payload with hstate | ⟨t, ps, raws, _, hstate⟩
  · rw [hstate]
    exact h.nodupStaged x
  rw [hstate, stagedFor_stage]
  split
  · next hx =>
    -- The accepted rows have keys that are neither staged nor equal to each other.
    refine nodup_append.mpr ⟨h.nodupStaged x, nodup_keys_scan raws, ?_⟩
    rintro k hk k' hk' rfl
    have hnew := keys_scan f t.definition ps raws {} 1 (forall_mem_nil _) k hk'
    rw [← hx] at hnew
    exact hnew (mem_append_right _ hk)
  · exact h.nodupStaged x

theorem Distinct.publish {C : Catalog} (h : c.Distinct s) (h' : c.Distinct s') (hcommit : c.commit s = .ok C) :
    C.Distinct s' := by
  refine ⟨invariant_holds.publish h.toHolds h'.toHolds hcommit, ?_, h'.nodupStaged⟩
  have hdisjoint := disjoint_of_commit hcommit
  cases eq_publishAll_of_commit hcommit
  intro x t ht
  obtain ⟨t', ht', rfl⟩ := h.of_find?_publishAll ht
  refine nodup_append.mpr ⟨h.nodup x t' ht', h.nodupStaged x, ?_⟩
  rintro k hk k' hk' rfl
  refine hdisjoint x k hk' ?_
  rw [keysOf, ht']
  exact hk

/-- **Keys stay different**, whatever happens to the catalog and its sessions. -/
theorem invariant_distinct : Invariant Distinct where
  initial := ⟨invariant_holds.initial, nofun, fun _ => Pairwise.nil⟩
  mode on h := ⟨invariant_holds.mode on h.toHolds, h.nodup, h.nodupStaged⟩
  discard h := ⟨invariant_holds.discard h.toHolds, h.nodup, fun _ => Pairwise.nil⟩
  load f d payload h := h.load f d payload
  publish h h' hcommit := h.publish h' hcommit
  create h hcreate := by
    refine ⟨invariant_holds.create h.toHolds hcreate, ?_, h.nodupStaged⟩
    intro x table hfind
    rcases of_find?_create hcreate hfind with hfind | ⟨_, rfl⟩
    · exact h.nodup x table hfind
    · exact Pairwise.nil

end Catalog

/-! ## The primary key of a table -/

/-- Rows that are listed with different keys are indexed by them. -/
theorem Rows.Keyed.indexedBy {t : TableDef} {r : Rows} {i : Nat} (h : r.Keyed t)
    (hi : t.primaryKeyIndex? = some i) (hwide : ∀ row ∈ r.rows, row.length = t.columns.length)
    (hlt : i < t.columns.length) (hnodup : r.keys.Nodup) : r.IndexedBy i := by
  unfold Rows.Keyed at h
  rw [hi] at h
  refine ⟨fun row hrow => by rw [hwide row hrow]; exact hlt, ?_, ?_⟩
  · intro k
    rw [h, mem_filterMap]
    simp only [Catalog.keyAt?_eq_some]
  · rw [h, List.Nodup, pairwise_filterMap] at hnodup
    refine hnodup.imp ?_
    intro row row' hdistinct v v' k hv hv' hk hk'
    exact hdistinct k (Catalog.keyAt?_eq_some.mpr ⟨v, hv, hk⟩) k (Catalog.keyAt?_eq_some.mpr ⟨v', hv', hk'⟩) rfl

namespace Database

/-- **Primary keys are unique.** In a reachable database the primary key of a table names one of its columns, the keys
that are kept for the table are those in this column of its committed rows, and no two of these rows have the same key.
The rows that a session has staged for the table are kept in the same way. -/
theorem primaryKeys_of_reachable {d : Database} (hd : d.Reachable) {table column : String} {t : Table}
    (hfind : d.catalog.find? table = some t) (hkey : t.definition.primaryKey = some column) :
    ∃ i, t.definition.columnIndex? column = some i ∧ t.data.IndexedBy i ∧
      ∀ n, ((d.session n).stagedFor table).IndexedBy i := by
  have hdeclared := hd.declared
  have hwide := hd.wide
  have hdistinct (n : Nat) : d.catalog.Distinct (d.session n) := Catalog.invariant_distinct.of_reachable hd n
  obtain ⟨i, hi⟩ := Option.isSome_iff_exists.mp (((hdeclared 0).declares table t hfind).key column hkey)
  have hindex : t.definition.primaryKeyIndex? = some i := by rw [TableDef.primaryKeyIndex?, hkey]; exact hi
  have hlt := TableDef.columnIndex?_lt hi
  refine ⟨i, hi, ?_, fun n => ?_⟩
  · exact ((hdeclared 0).committed table t hfind).indexedBy hindex ((hwide 0).row table t hfind) hlt
      ((hdistinct 0).nodup table t hfind)
  · exact ((hdeclared n).keyed_stagedFor hfind).indexedBy hindex ((hwide n).rowStaged table t hfind) hlt
      ((hdistinct n).nodupStaged table)

/-- Two sessions have staged a member of the same number, which is neither committed nor staged twice by one of them. -/
theorem primaryKeys_of_reachable_staffed : staffed.Reachable ∧
    ∃ t, staffed.catalog.find? "member" = some t ∧ t.definition.primaryKey = some "id" ∧
      t.data.rows = [[.int 10, .int 1, .null], [.int 11, .int 1, .int 10], [.int 20, .int 1, .int 11]] ∧
      ((staffed.session 0).stagedFor "member").rows = [[.int 30, .int 1, .int 20]] ∧
      ((staffed.session 1).stagedFor "member").rows = [[.int 30, .null, .null]] ∧
      ∃ i, t.definition.columnIndex? "id" = some i ∧ t.data.IndexedBy i ∧
        ∀ n, ((staffed.session n).stagedFor "member").IndexedBy i := by
  obtain ⟨_, t, _, hfind, hdefinition, _, hrows, hstaged, hstaged'⟩ := rows_staffed
  have hkey : t.definition.primaryKey = some "id" := by rw [hdefinition]; rfl
  exact ⟨reachable_staffed, t, hfind, hkey, hrows, hstaged, hstaged',
    primaryKeys_of_reachable reachable_staffed hfind hkey⟩

end Database

end BulkLoad
