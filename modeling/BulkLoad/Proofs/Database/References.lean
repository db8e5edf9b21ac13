import BulkLoad.Proofs.Database.Declared

/-!
# References

A foreign key of a committed row is missing, or the row that it refers to is committed too. A statement accepts a row
when the key that the row refers to is visible or belongs to a row accepted before in the same statement. What a session
has staged is published as a whole or given up as a whole, and no row is ever deleted. So a staged row refers to rows
that its session sees, and a committed row to committed rows (`Catalog.Linked`, `Catalog.invariant_linked`).

`Database.references_of_reachable`: referential integrity of every reachable database.
-/

namespace BulkLoad

open List

/-- Each key that the row refers to is there in the table that it is looked for. -/
def TableDef.Links (t : TableDef) (seen : String → Value → Prop) (row : Row) : Prop :=
  ∀ fk ∈ t.foreignKeys, ∀ k, Catalog.keyAt? row (t.columnIndex? fk.column) = some k → seen fk.references k

theorem TableDef.Links.imp {t : TableDef} {seen seen' : String → Value → Prop} {row : Row} (h : t.Links seen row)
    (himp : ∀ x k, seen x k → seen' x k) : t.Links seen' row :=
  fun fk hfk k hk => himp _ k (h fk hfk k hk)

namespace Catalog

variable {c c' : Catalog} {s s' : Session} {f : Format} {t : TableDef}

/-! ## Keys that stay -/

theorem Extends.keysOf (h : c.Extends c') {x : String} {k : Value} (hk : k ∈ c.keysOf x) : k ∈ c'.keysOf x := by
  unfold Catalog.keysOf at hk ⊢
  cases hfind : c.find? x with
  | none => rw [hfind] at hk; cases hk
  | some t =>
    obtain ⟨later, hfind'⟩ := h x t hfind
    rw [hfind] at hk
    rw [hfind']
    exact mem_append_left _ hk

theorem Extends.visibleKeys (h : c.Extends c') {x : String} {k : Value} (hk : k ∈ c.visibleKeys s x) :
    k ∈ c'.visibleKeys s x := by
  rcases mem_append.mp hk with hk | hk
  · exact mem_append_left _ (h.keysOf hk)
  · exact mem_append_right _ hk

/-- The keys that a session sees after staging are those that were seen before. -/
theorem mem_visibleKeys_stage {A : Rows} {table x : String} {k : Value} :
    k ∈ c.visibleKeys (s.stage table A) x ↔ c.Seen s table A x k := by
  have hseen : c.Seen (s.stage table A) table {} x k ↔ c.Seen s table (A.append {}) x k := seen_stage x k
  rw [Rows.append_empty] at hseen
  rw [← hseen, Seen]
  simp

/-! ## Accepted rows -/

/-- The rows that a scan accepts refer to rows that its session will see once they are staged. -/
theorem links_scan {ps : List Nat} (raws : List RawRow) :
    ∀ row ∈ (c.scan s f t ps {} 1 raws).accepted.rows,
      t.Links (c.Seen s t.name (c.scan s f t ps {} 1 raws).accepted) row := by
  refine accepted_scan (P := fun A => ∀ row ∈ A.rows, t.Links (c.Seen s t.name A) row) ?_ raws 1 (forall_mem_nil _)
  intro A line raw row key haccepts hA row' hrow'
  -- What has been seen before is still seen behind a further row.
  have hpush (x : String) (k : Value) (hk : c.Seen s t.name A x k) : c.Seen s t.name (A.push row key) x k :=
    hk.imp id fun hk => ⟨hk.1, mem_append_left _ hk.2⟩
  rcases mem_append.mp hrow' with hrow' | hrow'
  · exact (hA row' hrow').imp hpush
  · rw [mem_singleton.mp hrow']
    intro fk hfk k hk
    refine hpush _ k (Classical.not_not.mp fun hseen => ?_)
    have hdangles : c.dangles s t A row fk = true := dangles_iff.mpr ⟨k, hk, hseen⟩
    rw [haccepts.linked fk hfk] at hdangles
    cases hdangles

/-! ## Invariance -/

/-- Committed rows refer to committed rows, and staged rows to rows that their session sees. -/
structure Linked (c : Catalog) (s : Session) : Prop extends Holds c s where
  links : ∀ x t, c.find? x = some t → ∀ row ∈ t.data.rows, t.definition.Links (fun y k => k ∈ c.keysOf y) row
  linksStaged : ∀ x t, c.find? x = some t → ∀ row ∈ (s.stagedFor x).rows,
    t.definition.Links (fun y k => k ∈ c.visibleKeys s y) row

theorem Linked.load (h : c.Linked s) (f : Format) (d : Destination) (payload : Bytes) :
    c.Linked (c.load s f d payload).state := by
  refine ⟨h.toHolds.load f d payload, h.links, ?_⟩
  intro x t ht row hrow
  rcases state_load c s f d payload with hstate | ⟨table, ps, raws, hfind, hstate⟩
  · rw [hstate] at hrow ⊢
    exact h.linksStaged x t ht row hrow
  have hlinks : ∀ row ∈ (c.scan s f table.definition ps {} 1 raws).accepted.rows, _ := links_scan raws
  rw [hstate] at hrow ⊢
  generalize (c.scan s f table.definition ps {} 1 raws).accepted = A at hlinks hrow ⊢
  have hstaged (y : String) (k : Value) (hk : k ∈ c.visibleKeys s y) :
      k ∈ c.visibleKeys (s.stage table.definition.name A) y := mem_visibleKeys_stage.mpr (Or.inl hk)
  rw [stagedFor_stage] at hrow
  split at hrow
  · next hx =>
    rcases mem_append.mp hrow with hrow | hrow
    · exact (h.linksStaged x t ht row hrow).imp hstaged
    · rw [hx, hfind] at ht
      cases ht
      exact (hlinks row hrow).imp fun y k => mem_visibleKeys_stage.mpr
  · exact (h.linksStaged x t ht row hrow).imp hstaged

theorem Linked.publishAll (h : c.Linked s) (h' : c.Linked s') : (c.publishAll s.staged).Linked s' := by
  have hextends := extends_publishAll c s.staged
  refine ⟨h.toHolds.publishAll h'.toHolds, ?_, ?_⟩
  all_goals
    intro x t ht row hrow
    obtain ⟨t', ht', rfl⟩ := h.of_find?_publishAll ht
  · rcases mem_append.mp hrow with hrow | hrow
    · exact (h.links x t' ht' row hrow).imp fun _ _ => hextends.keysOf
    · -- A row that was staged refers to rows that its session saw, and these have been published with it.
      refine (h.linksStaged x t' ht' row hrow).imp fun y k hk => ?_
      rw [h.keysOf_publishAll]
      exact hk
  · exact (h'.linksStaged x t' ht' row hrow).imp fun _ _ => hextends.visibleKeys

theorem Linked.create (h : c.Linked s) (hcreate : c.create t = .ok c') : c'.Linked s := by
  have hextends := extends_create hcreate
  refine ⟨invariant_holds.create h.toHolds hcreate, ?_, ?_⟩
  all_goals
    intro x table hfind row hrow
    rcases of_find?_create hcreate hfind with hfind | ⟨hnew, rfl⟩
  · exact (h.links x table hfind row hrow).imp fun _ _ => hextends.keysOf
  · cases hrow
  · exact (h.linksStaged x table hfind row hrow).imp fun _ _ => hextends.visibleKeys
  · rw [h.stagedFor_of_none hnew] at hrow
    cases hrow

/-- **References stay sound**, whatever happens to the catalog and its sessions. -/
theorem invariant_linked : Invariant Linked where
  initial := ⟨invariant_holds.initial, nofun, nofun⟩
  mode on h := ⟨invariant_holds.mode on h.toHolds, h.links, h.linksStaged⟩
  discard h := ⟨invariant_holds.discard h.toHolds, h.links, fun _ _ _ _ hrow => nomatch hrow⟩
  load f d payload h := h.load f d payload
  create h hcreate := h.create hcreate
  publish h h' hcommit := by
    cases eq_publishAll_of_commit hcommit
    exact h.publishAll h'

end Catalog

namespace Database

/-- **Referential integrity.** In a reachable database the column of a foreign key is there in each committed row of the
table. Its value is missing, or its key is the primary key of a committed row of the table that it refers to. -/
theorem references_of_reachable {d : Database} (hd : d.Reachable) {table : String} {t : Table}
    (hfind : d.catalog.find? table = some t) {row : Row} (hrow : row ∈ t.data.rows) {fk : ForeignKey}
    (hfk : fk ∈ t.definition.foreignKeys) :
    ∃ i v, t.definition.columnIndex? fk.column = some i ∧ row[i]? = some v ∧
      (v = .null ∨ ∃ r j row' v', d.catalog.find? fk.references = some r ∧
        r.definition.primaryKeyIndex? = some j ∧ row' ∈ r.data.rows ∧ row'[j]? = some v' ∧ v'.isNull = false ∧
        v'.key? = v.key?) := by
  have hdeclared := hd.declared 0
  have hlinked : d.catalog.Linked (d.session 0) := Catalog.invariant_linked.of_reachable hd 0
  obtain ⟨i, hi⟩ := Option.isSome_iff_exists.mp ((hdeclared.declares table t hfind).column fk hfk)
  have hlt : i < row.length := by
    rw [(hd.wide 0).row table t hfind row hrow]
    exact TableDef.columnIndex?_lt hi
  refine ⟨i, row[i], hi, getElem?_eq_getElem hlt, ?_⟩
  by_cases hnull : row[i] = .null
  · exact Or.inl hnull
  -- The cell has a key, which is committed for the table that it refers to.
  have hkey : row[i].key? = some row[i] := by
    rw [Value.key?, if_neg]
    rwa [Value.isNull_iff]
  have hat : Catalog.keyAt? row (t.definition.columnIndex? fk.column) = some row[i] := by
    rw [hi, Catalog.keyAt?, Option.bind_some, getElem?_eq_getElem hlt, Option.bind_some, hkey]
  have hmem : row[i] ∈ d.catalog.keysOf fk.references := hlinked.links table t hfind row hrow fk hfk _ hat
  obtain ⟨r, hr, _⟩ := (hdeclared.declares table t hfind).referenced fk hfk
  rw [Catalog.keysOf, hr] at hmem
  have hkeyed := hdeclared.committed _ r hr
  unfold Rows.Keyed at hkeyed
  rw [Option.map_some, Option.getD_some, hkeyed] at hmem
  obtain ⟨row', hrow', hk⟩ := mem_filterMap.mp hmem
  obtain ⟨j, hj, hk⟩ := Option.bind_eq_some_iff.mp hk
  obtain ⟨v', hv', hk⟩ := Option.bind_eq_some_iff.mp hk
  refine Or.inr ⟨r, j, row', v', hr, hj, hrow', hv', ?_, by rw [hk, hkey]⟩
  unfold Value.key? at hk
  split at hk
  · cases hk
  · next hvalue => exact Bool.eq_false_iff.mpr hvalue

/-- A member that was added later refers to a mentor whom another connection has published. -/
theorem references_of_reachable_staffed : staffed.Reachable ∧
    let row : Row := [.int 20, .int 1, .int 11]
    ∃ t, staffed.catalog.find? "member" = some t ∧ row ∈ t.data.rows ∧
      ⟨"mentor", "member"⟩ ∈ t.definition.foreignKeys ∧
      ∃ i v, t.definition.columnIndex? "mentor" = some i ∧ row[i]? = some v ∧
        (v = .null ∨ ∃ r j row' v', staffed.catalog.find? "member" = some r ∧
          r.definition.primaryKeyIndex? = some j ∧ row' ∈ r.data.rows ∧ row'[j]? = some v' ∧ v'.isNull = false ∧
          v'.key? = v.key?) := by
  obtain ⟨_, t, _, hfind, hdefinition, _, hrows, _⟩ := rows_staffed
  have hrow : [.int 20, .int 1, .int 11] ∈ t.data.rows := by rw [hrows]; decide
  have hfk : ⟨"mentor", "member"⟩ ∈ t.definition.foreignKeys := by rw [hdefinition]; decide
  exact ⟨reachable_staffed, t, hfind, hrow, hfk, references_of_reachable reachable_staffed hfind hrow hfk⟩

end Database

end BulkLoad
