import BulkLoad.Proofs.Database.Visible

/-!
# Declarations and rows

A table is created only if its keys make sense: the primary key and the foreign keys name columns of the table, and the
tables that it refers to are there and have primary keys. No table is ever dropped, so this stays true
(`Catalog.Declares`).

A row gets into a table only through a statement that has accepted it. So what statements check of each row that they
accept holds of every row of every table, be it committed or staged (`Catalog.EachRow`,
`Database.Reachable.eachRow`); for one, a row has a cell for each column of its table (`Database.Reachable.wide`).

`Database.Reachable.declared`: the tables of every reachable database are declared well.
-/

namespace BulkLoad

open List

namespace Catalog

variable {c c' : Catalog} {s s' : Session} {f : Format} {t : TableDef}

/-! ## Decoded rows -/

theorem length_fillRow {line : Nat} : ∀ {fields : List (Option Bytes × Nat)} {row row' : Row},
    fillRow f t line row fields = .ok row' → row'.length = row.length
  | [], _, _, h => by cases h; rfl
  | (none, _) :: _, _, _, h => by
    rw [fillRow] at h
    exact length_fillRow h
  | (some field, i) :: rest, row, row', h => by
    rw [fillRow] at h
    split at h
    · exact length_fillRow h
    split at h
    · cases h
    · rw [length_fillRow h, length_set]

/-- A decoded row has a cell for each column. -/
theorem length_decodeRow {ps : List Nat} {line : Nat} {raw : RawRow} {row : Row}
    (h : decodeRow f t ps line raw = .ok row) : row.length = t.columns.length := by
  unfold decodeRow at h
  split at h
  · cases h
  · rw [length_fillRow h, length_replicate]

/-! ## Declarations -/

/-- The primary key and the foreign keys of a table name columns of it, and the tables that the latter refer to are
there and have primary keys. -/
structure Declares (c : Catalog) (t : TableDef) : Prop where
  key : ∀ column, t.primaryKey = some column → (t.columnIndex? column).isSome
  column : ∀ fk ∈ t.foreignKeys, (t.columnIndex? fk.column).isSome
  referenced : ∀ fk ∈ t.foreignKeys, ∃ r, c.find? fk.references = some r ∧ r.definition.primaryKey.isSome

/-- What a declaration refers to stays there. -/
theorem Declares.of_extends (h : c.Declares t) (hextends : c.Extends c') : c'.Declares t := by
  refine ⟨h.key, h.column, ?_⟩
  intro fk hfk
  obtain ⟨r, hr, hkey⟩ := h.referenced fk hfk
  obtain ⟨later, hr'⟩ := hextends _ r hr
  exact ⟨_, hr', hkey⟩

/-- A list of foreign keys without a fault. -/
theorem columns_of_foreignKeyFault? : ∀ {fks : List ForeignKey}, c.foreignKeyFault? t fks = none →
    ∀ fk ∈ fks, (t.columnIndex? fk.column).isSome ∧ c.hasReferencedKey t fk = true
  | [], _ => nofun
  | fk :: fks, h => by
    rw [foreignKeyFault?] at h
    split at h
    · cases h
    next hcolumn =>
    split at h
    · cases h
    next hreferenced =>
    refine forall_mem_cons.mpr ⟨⟨?_, ?_⟩, columns_of_foreignKeyFault? h⟩
    · rwa [Option.isNone_iff_eq_none, ← Ne, ← Option.isSome_iff_ne_none] at hcolumn
    · rwa [Bool.not_eq_true', Bool.not_eq_false] at hreferenced

theorem createFault?_of_create (h : c.create t = .ok c') : c.createFault? t = none := by
  unfold create at h
  split at h
  · cases h
  · assumption

/-- **A table that has been created is declared well.** -/
theorem declares_of_create (h : c.create t = .ok c') : c'.Declares t := by
  have hfault := createFault?_of_create h
  unfold createFault? at hfault
  split at hfault
  · cases hfault
  next hnew =>
  split at hfault
  · cases hfault
  obtain ⟨hkey, hreferences⟩ := Option.or_eq_none_iff.mp hfault
  have hfks := columns_of_foreignKeyFault? hreferences
  refine ⟨?_, fun fk hfk => (hfks fk hfk).1, ?_⟩
  · intro column hcolumn
    rw [primaryKeyFault?, hcolumn] at hkey
    simp only at hkey
    split at hkey
    · cases hkey
    next hindex => rwa [Option.isNone_iff_eq_none, ← Ne, ← Option.isSome_iff_ne_none] at hindex
  · intro fk hfk
    have hreferenced := (hfks fk hfk).2
    rw [find?_create h]
    unfold hasReferencedKey at hreferenced
    split at hreferenced
    · next hself =>
      -- The table refers to itself, and there was no table of its name before.
      rw [hself, Option.not_isSome_iff_eq_none.mp hnew, if_pos rfl]
      exact ⟨_, rfl, hreferenced⟩
    · cases hr : c.find? fk.references with
      | none => rw [hr] at hreferenced; cases hreferenced
      | some r =>
        rw [hr] at hreferenced
        exact ⟨r, rfl, hreferenced⟩

/-! ## Invariance -/

/-- The tables of a catalog are declared well. -/
structure Declared (c : Catalog) (s : Session) : Prop extends Holds c s where
  declares : ∀ x t, c.find? x = some t → c.Declares t.definition

theorem Declared.publishAll (h : c.Declared s) (h' : c.Declared s') : (c.publishAll s.staged).Declared s' := by
  refine ⟨h.toHolds.publishAll h'.toHolds, ?_⟩
  intro x t ht
  obtain ⟨t', ht', rfl⟩ := h.of_find?_publishAll ht
  exact (h.declares x t' ht').of_extends (extends_publishAll c _)

theorem Declared.create (h : c.Declared s) (hcreate : c.create t = .ok c') : c'.Declared s := by
  refine ⟨invariant_holds.create h.toHolds hcreate, ?_⟩
  intro x table hfind
  rcases of_find?_create hcreate hfind with hfind | ⟨_, rfl⟩
  · exact (h.declares x table hfind).of_extends (extends_create hcreate)
  · exact declares_of_create hcreate

/-- **Declarations stay as they should be**, whatever happens to the catalog and its sessions. -/
theorem invariant_declared : Invariant Declared where
  initial := ⟨invariant_holds.initial, nofun⟩
  mode on h := ⟨invariant_holds.mode on h.toHolds, h.declares⟩
  discard h := ⟨invariant_holds.discard h.toHolds, h.declares⟩
  create h hcreate := h.create hcreate
  load f d payload h := ⟨h.toHolds.load f d payload, h.declares⟩
  publish h h' hcommit := by
    cases eq_publishAll_of_commit hcommit
    exact h.publishAll h'

/-! ## What holds of each row -/

/-- Each row of each table, committed or staged, has the property `P`. -/
structure EachRow (P : TableDef → Row → Prop) (c : Catalog) (s : Session) : Prop extends Holds c s where
  row : ∀ x t, c.find? x = some t → ∀ row ∈ t.data.rows, P t.definition row
  rowStaged : ∀ x t, c.find? x = some t → ∀ row ∈ (s.stagedFor x).rows, P t.definition row

/-- **What statements check of each row that they accept holds of all rows**, whatever happens to the catalog and its
sessions. -/
theorem invariant_eachRow {P : TableDef → Row → Prop}
    (hP : ∀ {c s f t ps A line raw row key}, Catalog.Accepts c s f t ps A line raw row key → P t row) :
    Invariant (EachRow P) where
  initial := ⟨invariant_holds.initial, nofun, nofun⟩
  mode on h := ⟨invariant_holds.mode on h.toHolds, h.row, h.rowStaged⟩
  discard h := ⟨invariant_holds.discard h.toHolds, h.row, fun _ _ _ _ hrow => nomatch hrow⟩
  publish {C _ S S'} h h' hcommit := by
    cases eq_publishAll_of_commit hcommit
    refine ⟨h.toHolds.publishAll h'.toHolds, ?_, ?_⟩
    all_goals
      intro x t ht row hrow
      obtain ⟨t', ht', rfl⟩ := h.of_find?_publishAll ht
    · rcases mem_append.mp hrow with hrow | hrow
      · exact h.row x t' ht' row hrow
      · exact h.rowStaged x t' ht' row hrow
    · exact h'.rowStaged x t' ht' row hrow
  create h hcreate := by
    refine ⟨invariant_holds.create h.toHolds hcreate, ?_, ?_⟩
    all_goals
      intro x table hfind row hrow
      rcases of_find?_create hcreate hfind with hfind | ⟨hnew, rfl⟩
    · exact h.row x table hfind row hrow
    · cases hrow
    · exact h.rowStaged x table hfind row hrow
    · rw [h.stagedFor_of_none hnew] at hrow
      cases hrow
  load {C S} f dest payload h := by
    refine ⟨h.toHolds.load f dest payload, h.row, ?_⟩
    intro x t ht row hrow
    rcases state_load C S f dest payload with hstate | ⟨table, ps, raws, hfind, hstate⟩
    · rw [hstate] at hrow
      exact h.rowStaged x t ht row hrow
    rw [hstate, stagedFor_stage] at hrow
    split at hrow
    · next hx =>
      rcases mem_append.mp hrow with hrow | hrow
      · exact h.rowStaged x t ht row hrow
      · -- The row is one of those that the scan has accepted.
        rw [hx, hfind] at ht
        cases ht
        exact forall_rows_scan hP raws row hrow
    · exact h.rowStaged x t ht row hrow

end Catalog

namespace Database

variable {d : Database}

theorem Reachable.declared (h : d.Reachable) (n : Nat) : d.catalog.Declared (d.session n) :=
  Catalog.invariant_declared.of_reachable h n

theorem Reachable.eachRow (h : d.Reachable) {P : TableDef → Row → Prop}
    (hP : ∀ {c s f t ps A line raw row key}, Catalog.Accepts c s f t ps A line raw row key → P t row) (n : Nat) :
    d.catalog.EachRow P (d.session n) :=
  (Catalog.invariant_eachRow hP).of_reachable h n

/-- A row has a cell for each column of its table. -/
theorem Reachable.wide (h : d.Reachable) (n : Nat) :
    d.catalog.EachRow (fun t row => row.length = t.columns.length) (d.session n) :=
  h.eachRow (fun haccepts => Catalog.length_decodeRow haccepts.decoded) n

/-! ## Teams and their members -/

/-- The database after operations. -/
def after (d : Database) (ops : List Op) : Database := ops.foldl Op.apply d

theorem Reachable.after : ∀ {ops : List Op} {d : Database}, d.Reachable → (d.after ops).Reachable
  | [], _, h => h
  | op :: ops, d, h => show ((op.apply d).after ops).Reachable from (h.step op).after

/-- A table of teams, known by their numbers. -/
def teamTable : TableDef := { name := "team", columns := [⟨"id", .int, false⟩], primaryKey := some "id" }

/-- A table of members, each of whom may have a team and another member to look after them. -/
def memberTable : TableDef where
  name := "member"
  columns := [⟨"id", .int, false⟩, ⟨"team", .int, true⟩, ⟨"mentor", .int, true⟩]
  primaryKey := some "id"
  foreignKeys := [⟨"team", "team"⟩, ⟨"mentor", "member"⟩]

/-- Rows of teams. -/
def sendTeams (channel : Nat) (f : Format) (payload : String) : Op :=
  .send channel (String.ofList (statementFor f "team" ["id"])) (Bytes.ofString payload)

/-- Rows of members. -/
def sendMembers (channel : Nat) (f : Format) (payload : String) : Op :=
  .send channel (String.ofList (statementFor f "member" ["id", "team", "mentor"])) (Bytes.ofString payload)

/-- Two connections fill the tables. The first one publishes a team and two of its members together. The second one
adds a member, and skips another whose team is missing. Then both stage a member of the same number. -/
def staffed : Database := Database.after {}
  [.createTable teamTable, .createTable memberTable, .connect .copy true, .connect .loadData true, .openChannel 0,
    .openChannel 1, .setAutocommit 0 false, sendTeams 0 .copy "1\n", sendMembers 0 .copy "10\t1\t\\N\n11\t1\t10\n",
    .commit 0, sendMembers 1 .loadData "20\t1\t11\n21\t9\t\\N\n", .setAutocommit 1 false,
    sendMembers 0 .copy "30\t1\t20\n", sendMembers 1 .loadData "30\t\\N\t\\N\n"]

theorem reachable_staffed : staffed.Reachable := Reachable.initial.after

/-- What the tables and the sessions hold in the end. -/
theorem rows_staffed : ∃ team member, staffed.catalog.find? "team" = some team ∧
    staffed.catalog.find? "member" = some member ∧ member.definition = memberTable ∧ team.data.rows = [[.int 1]] ∧
    member.data.rows = [[.int 10, .int 1, .null], [.int 11, .int 1, .int 10], [.int 20, .int 1, .int 11]] ∧
    ((staffed.session 0).stagedFor "member").rows = [[.int 30, .int 1, .int 20]] ∧
    ((staffed.session 1).stagedFor "member").rows = [[.int 30, .null, .null]] := by
  have hheld : ((staffed.catalog.find? "team").map fun t => t.data.rows,
      (staffed.catalog.find? "member").map fun t => (t.definition, t.data.rows),
      ((staffed.session 0).stagedFor "member").rows, ((staffed.session 1).stagedFor "member").rows) =
      (some [[.int 1]], some (memberTable,
        [[.int 10, .int 1, .null], [.int 11, .int 1, .int 10], [.int 20, .int 1, .int 11]]),
      [[.int 30, .int 1, .int 20]], [[.int 30, .null, .null]]) := by decide +kernel
  simp only [Prod.mk.injEq, Option.map_eq_some_iff] at hheld
  obtain ⟨⟨team, hteam, hteams⟩, ⟨member, hmember, hdefinition, hmembers⟩, hstaged⟩ := hheld
  exact ⟨team, member, hteam, hmember, hdefinition, hteams, hmembers, hstaged⟩

end Database

end BulkLoad
