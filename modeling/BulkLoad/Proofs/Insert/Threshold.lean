import BulkLoad.Proofs.Insert.Added

/-!
# The threshold of batches

Neither the ledger of an insert nor the rows that are added to it depend on the threshold at which batches are filled.
`load_independent_of_threshold`: inserts that differ in their thresholds only have the same effect.
-/

namespace BulkLoad

open List

variable {ρ : Type} {d : Database}

/-! ## Thresholds -/

/-- **The threshold never changes what is loaded.** Inserts that differ in their thresholds only succeed from the same
states. When they do, they leave the same committed rows of all tables, the same staged rows and the same mode, and
they agree on the numbers of records, bytes and rows. -/
theorem load_independent_of_threshold (hd : d.Reachable) (n : Nat) (s : Schema ρ) (o : Options) (records : List ρ)
    (b b' : Option Nat) :
    let load := fun b => insertAll s { o with batchSize := b } records (Client.mk d n)
    ((∃ p, (load b).value.result = .ok p) ↔ ∃ p, (load b').value.result = .ok p) ∧
      ∀ p p', (load b).value.result = .ok p → (load b').value.result = .ok p' →
        (load b).state.database.catalog = (load b').state.database.catalog ∧
          (load b).state.database.session n = (load b').state.database.session n ∧
          p.records = p'.records ∧ p.bytes = p'.bytes ∧ p.rowsAffected = p'.rowsAffected := by
  intro load
  have himp (b b' : Option Nat) {p : Progress} (h : (load b).value.result = .ok p) :
      ∃ p, (load b').value.result = .ok p := by
    obtain ⟨hstarts, m, A, hadded⟩ := insertAll_ok hd.kept s { o with batchSize := b } records h
    exact insertAll_succeeds hd.kept s { o with batchSize := b' } records hstarts hadded.succeeds
  refine ⟨⟨fun ⟨p, h⟩ => himp b b' h, fun ⟨p, h⟩ => himp b' b h⟩, ?_⟩
  intro p p' h h'
  obtain ⟨_, m, A, hadded⟩ := insertAll_ok hd.kept s { o with batchSize := b } records h
  obtain ⟨_, m', A', hadded'⟩ := insertAll_ok hd.kept s { o with batchSize := b' } records h'
  -- Both ledgers are the same one.
  change (Insert.ledger s o d n).Added records m A p (load b).state at hadded
  change (Insert.ledger s o d n).Added records m' A' p' (load b').state at hadded'
  have hrows := hadded.gathered.symm.trans hadded'.gathered
  cases hrows
  obtain ⟨lines, hlines, hbytes⟩ := hadded.totals.bytes
  obtain ⟨lines', hlines', hbytes'⟩ := hadded'.totals.bytes
  cases lines_unique hlines hlines'
  obtain ⟨C, S, hclosed, hat⟩ := hadded.closed
  obtain ⟨C', S', hclosed', hat'⟩ := hadded'.closed
  rw [Ledger.closed?_congr _ (hadded.sent.trans hadded'.sent.symm), hclosed'] at hclosed
  cases hclosed
  refine ⟨hat.catalog.trans hat'.catalog.symm, hat.session.trans hat'.session.symm, ?_, ?_, ?_⟩
  · rw [hadded.totals.records, hadded'.totals.records]
  · rw [hbytes, hbytes']
  · rw [hadded.totals.rowsAffected, hadded'.totals.rowsAffected]

/-! ## Skipped rows that others refer to -/

/-- A table whose rows may refer to each other. -/
def nodeTable : TableDef where
  name := "node"
  columns := [⟨"id", .int, false⟩, ⟨"parent", .int, true⟩]
  primaryKey := some "id"
  foreignKeys := [⟨"parent", "node"⟩]

/-- A database with an empty table of nodes, and a connection that skips rows with missing references. -/
def nodeDatabase : Database := (Database.Op.connect .loadData true).apply ((Database.Op.createTable nodeTable).apply {})

theorem reachable_nodeDatabase : nodeDatabase.Reachable :=
  .step (.connect .loadData true) (.step (.createTable nodeTable) .initial)

/-- Nodes with a number each, and perhaps with a parent. -/
def nodeSchema : Schema (Int64 × Option Int64) where
  table := "node"
  columns := [⟨"id", fun r => .ok (.int r.1)⟩, ⟨"parent", fun r => .ok (Value.ofOption .int r.2)⟩]
  faultless := by decide +kernel

/-- The parent of the third node is missing, so that the fourth one is skipped with it. -/
theorem load_independent_of_threshold_nodes :
    let records := [(1, none), (2, some 1), (3, some 9), (4, some 3)]
    let o : Options := { longTransaction := true, commitOnClose := true }
    (insertAll nodeSchema o records (Client.mk nodeDatabase 0)).state.database.rows? "node" =
        some [[.int 1, .null], [.int 2, .int 1]] ∧
      nodeDatabase.Reachable ∧
      let load := fun b => insertAll nodeSchema { o with batchSize := b } records (Client.mk nodeDatabase 0)
      ((∃ p, (load (some 0)).value.result = .ok p) ↔ ∃ p, (load none).value.result = .ok p) ∧
        ∀ p p', (load (some 0)).value.result = .ok p → (load none).value.result = .ok p' →
          (load (some 0)).state.database.catalog = (load none).state.database.catalog ∧
            (load (some 0)).state.database.session 0 = (load none).state.database.session 0 ∧
            p.records = p'.records ∧ p.bytes = p'.bytes ∧ p.rowsAffected = p'.rowsAffected :=
  ⟨by decide +kernel, reachable_nodeDatabase,
    load_independent_of_threshold reachable_nodeDatabase 0 nodeSchema _ _ (some 0) none⟩

end BulkLoad
