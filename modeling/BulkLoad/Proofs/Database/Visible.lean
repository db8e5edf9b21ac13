import BulkLoad.Proofs.Database.Gather
import BulkLoad.Proofs.Database.Invariant

/-!
# Visible rows

A session sees the committed rows of a table and behind them those that it has staged (`Catalog.visibleRows`). Committed
and staged rows are listed with the keys that they hold (`Rows.Keyed`), in every reachable database
(`Database.Reachable.holds`), so that a key is visible exactly when a visible row holds it
(`Catalog.Holds.mem_visibleKeys`).

Publishing what is staged changes neither the declarations of the tables nor the rows that are visible
(`Catalog.Holds.visibleRows_publishAll`).
-/

namespace BulkLoad

open List

/-- The keys are those that the rows hold in the primary key of the table. -/
def Rows.Keyed (t : TableDef) (r : Rows) : Prop :=
  r.keys = r.rows.filterMap fun row => Catalog.keyAt? row t.primaryKeyIndex?

namespace Rows

variable {t : TableDef}

theorem keyed_empty : Keyed t {} := rfl

theorem Keyed.append {a b : Rows} (ha : a.Keyed t) (hb : b.Keyed t) : (a.append b).Keyed t := by
  unfold Keyed at ha hb ⊢
  simp only [Rows.append, filterMap_append, ha, hb]

theorem Keyed.push {a : Rows} (ha : a.Keyed t) {row : Row} {key : Option Value}
    (hkey : Catalog.keyAt? row t.primaryKeyIndex? = key) : (a.push row key).Keyed t := by
  unfold Keyed at ha ⊢
  simp only [Rows.push, filterMap_append, ha, filterMap_cons, hkey]
  cases key <;> rfl

end Rows

namespace Catalog

variable {c c' : Catalog} {s s' : Session} {f : Format} {x table : String}

/-- The rows of a table that a session sees. -/
def visibleRows (c : Catalog) (s : Session) (table : String) : List Row :=
  (c.rows? table).getD [] ++ (s.stagedFor table).rows

/-- The index of the primary key of a table. -/
def keyIndex? (c : Catalog) (table : String) : Option Nat :=
  (c.find? table).bind fun t => t.definition.primaryKeyIndex?

/-- The committed rows of a catalog and the staged ones of a session are listed with their keys, and staged rows belong
to tables that exist, with one entry for each table. -/
structure Holds (c : Catalog) (s : Session) : Prop where
  committed : ∀ x t, c.find? x = some t → t.data.Keyed t.definition
  staged : ∀ e ∈ s.staged, ∃ t, c.find? e.1 = some t ∧ e.2.Keyed t.definition
  names : (s.staged.map Prod.fst).Nodup

/-! ## Staged rows -/

theorem map_fst_stageIn (table : String) (rows : Rows) : ∀ staged : List (String × Rows),
    (Session.stageIn table rows staged).map Prod.fst =
      if table ∈ staged.map Prod.fst then staged.map Prod.fst else staged.map Prod.fst ++ [table]
  | [] => rfl
  | (t, r) :: rest => by
    have ih := map_fst_stageIn table rows rest
    rw [Session.stageIn]
    by_cases ht : t = table
    · simp [ht]
    · have hne : table ≠ t := Ne.symm ht
      simp only [if_neg ht, map_cons, ih, mem_cons, hne, false_or]
      split <;> rfl

theorem Holds.stage (h : c.Holds s) {t : Table} (ht : c.find? table = some t) {rows : Rows}
    (hrows : rows.Keyed t.definition) : c.Holds (s.stage table rows) := by
  refine ⟨h.committed, ?_, ?_⟩
  · intro e he
    rcases Session.mem_stageIn he with he | rfl | ⟨r, hr, rfl⟩
    · exact h.staged e he
    · exact ⟨t, ht, hrows⟩
    · obtain ⟨t', ht', hkeyed⟩ := h.staged _ hr
      rw [ht] at ht'
      cases ht'
      exact ⟨t, ht, hkeyed.append hrows⟩
  · have hnames := h.names
    show ((Session.stageIn table rows s.staged).map Prod.fst).Nodup
    rw [map_fst_stageIn]
    split
    · exact hnames
    · next hnew =>
      refine nodup_append.mpr ⟨hnames, pairwise_singleton .., ?_⟩
      rintro a ha b hb rfl
      rw [mem_singleton.mp hb] at ha
      exact hnew ha

/-- The rows that are staged for a table have the keys that they hold. -/
theorem Holds.keyed_stagedFor (h : c.Holds s) {t : Table} (ht : c.find? x = some t) :
    (s.stagedFor x).Keyed t.definition := by
  unfold Session.stagedFor
  cases hl : s.staged.lookup x with
  | none => exact Rows.keyed_empty
  | some rows =>
    obtain ⟨l₁, l₂, heq, _⟩ := lookup_eq_some_iff.mp hl
    obtain ⟨t', ht', hkeyed⟩ := h.staged (x, rows) (by rw [heq]; simp)
    rw [ht] at ht'
    cases ht'
    exact hkeyed

/-- Nothing is staged for a table that does not exist. -/
theorem Holds.stagedFor_of_none (h : c.Holds s) (hx : c.find? x = none) : s.stagedFor x = {} := by
  unfold Session.stagedFor
  cases hl : s.staged.lookup x with
  | none => rfl
  | some rows =>
    obtain ⟨l₁, l₂, heq, _⟩ := lookup_eq_some_iff.mp hl
    obtain ⟨t, ht, _⟩ := h.staged (x, rows) (by rw [heq]; simp)
    rw [hx] at ht
    cases ht

/-- **A key is visible when a visible row holds it.** -/
theorem Holds.mem_visibleKeys (h : c.Holds s) {k : Value} :
    k ∈ c.visibleKeys s x ↔ ∃ row ∈ c.visibleRows s x, keyAt? row (c.keyIndex? x) = some k := by
  unfold visibleKeys visibleRows keysOf keyIndex? rows?
  cases hx : c.find? x with
  | none => simp [h.stagedFor_of_none hx]
  | some t =>
    have hcommitted := h.committed x t hx
    have hstaged := h.keyed_stagedFor hx
    unfold Rows.Keyed at hcommitted hstaged
    simp only [Option.map_some, Option.getD_some, Option.bind_some, hcommitted, hstaged, ← filterMap_append,
      mem_filterMap]

/-! ## Publishing -/

/-- Publishing entries appends to the rows of each table what is staged for it. -/
theorem publishAll_eq_map : ∀ {staged : List (String × Rows)} (c : Catalog), (staged.map Prod.fst).Nodup →
    c.publishAll staged = { tables := c.tables.map fun t =>
      { t with data := t.data.append ((staged.lookup t.definition.name).getD {}) } }
  | [], c, _ => by simp [publishAll, Rows.append_empty]
  | (table, rows) :: rest, c, h => by
    rw [map_cons, nodup_cons] at h
    rw [publishAll, publishAll_eq_map _ h.2, publish, mk.injEq, map_map]
    refine map_congr_left fun t _ => ?_
    by_cases ht : t.definition.name = table
    · -- There is no second entry for the table.
      have hrest : rest.lookup table = none := by
        rw [lookup_eq_none_iff]
        intro e he
        have hmem : e.1 ∈ rest.map Prod.fst := mem_map.mpr ⟨e, he, rfl⟩
        exact bne_iff_ne.mpr fun heq => h.1 (heq ▸ hmem)
      simp [ht, hrest, Rows.append_empty]
    · simp [ht, lookup_cons, beq_eq_false_iff_ne.mpr ht]

theorem find?_publishAll {staged : List (String × Rows)} (c : Catalog) (h : (staged.map Prod.fst).Nodup) :
    (c.publishAll staged).find? x =
      (c.find? x).map fun t => { t with data := t.data.append ((staged.lookup x).getD {}) } := by
  rw [publishAll_eq_map c h, find?, find?_map]
  show (c.find? x).map (fun t => { t with data := t.data.append ((staged.lookup t.definition.name).getD {}) }) = _
  cases hfind : c.find? x with
  | none => rfl
  | some t => simp only [Option.map_some, name_of_find? hfind]

/-- A table after publishing has its rows of before and behind them those that were staged for it. -/
theorem Holds.of_find?_publishAll (h : c.Holds s) {t : Table} (ht : (c.publishAll s.staged).find? x = some t) :
    ∃ t', c.find? x = some t' ∧ t = { t' with data := t'.data.append (s.stagedFor x) } := by
  rw [find?_publishAll c h.names] at ht
  obtain ⟨t', ht', rfl⟩ := Option.map_eq_some_iff.mp ht
  exact ⟨t', ht', rfl⟩

/-- The keys that a session sees are those that are committed once its rows have been published. -/
theorem Holds.keysOf_publishAll (h : c.Holds s) (x : String) :
    (c.publishAll s.staged).keysOf x = c.visibleKeys s x := by
  unfold visibleKeys keysOf
  rw [find?_publishAll c h.names]
  cases hx : c.find? x with
  | none => rw [h.stagedFor_of_none hx]; rfl
  | some t => rfl

/-- A commit that meets no conflict publishes what is staged. -/
theorem eq_publishAll_of_commit {C : Catalog} (h : c.commit s = .ok C) : C = c.publishAll s.staged := by
  unfold commit at h
  split at h
  · cases h
  · cases h
    rfl

/-- **What a session sees does not change when its rows are published.** -/
theorem Holds.visibleRows_publishAll (h : c.Holds s) {s' : Session} (hs' : s'.staged = []) (x : String) :
    (c.publishAll s.staged).visibleRows s' x = c.visibleRows s x := by
  have hstaged : s'.stagedFor x = {} := by rw [Session.stagedFor, hs']; rfl
  unfold visibleRows rows?
  rw [find?_publishAll c h.names, hstaged, Option.map_map]
  cases hx : c.find? x with
  | none => rw [h.stagedFor_of_none hx]; rfl
  | some t => simp only [Option.map_some, Option.getD_some, append_nil]; rfl

/-! ## Invariance -/

/-- The tables of `c` are there in `c'`, with the same declarations. -/
theorem Holds.of_tables (h : c.Holds s) (hcommitted : ∀ x t, c'.find? x = some t → t.data.Keyed t.definition)
    (htables : ∀ x t, c.find? x = some t → ∃ t', c'.find? x = some t' ∧ t'.definition = t.definition) : c'.Holds s := by
  refine ⟨hcommitted, ?_, h.names⟩
  intro e he
  obtain ⟨t, ht, hkeyed⟩ := h.staged e he
  obtain ⟨t', ht', hdefinition⟩ := htables e.1 t ht
  exact ⟨t', ht', hdefinition ▸ hkeyed⟩

theorem find?_create {t : TableDef} (h : c.create t = .ok c') (x : String) :
    c'.find? x = (c.find? x).or (if t.name = x then some { definition := t } else none) := by
  unfold create at h
  split at h
  · cases h
  · cases h
    unfold find?
    rw [find?_append]
    congr 1
    by_cases hx : t.name = x
    · simp [hx]
    · simp [hx]

/-- A table that is there after another was created was there before, or it is the new one and empty. -/
theorem of_find?_create {t : TableDef} (h : c.create t = .ok c') {table : Table} (hfind : c'.find? x = some table) :
    c.find? x = some table ∨ c.find? x = none ∧ table = { definition := t } := by
  rw [find?_create h] at hfind
  rcases Option.or_eq_some_iff.mp hfind with hfind | ⟨hnew, hfind⟩
  · exact Or.inl hfind
  · split at hfind
    · cases hfind
      exact Or.inr ⟨hnew, rfl⟩
    · cases hfind

/-- A statement stages rows of a table that exists, listed with their keys, or it stages nothing. -/
theorem Holds.load (h : c.Holds s) (f : Format) (d : Destination) (payload : Bytes) :
    c.Holds (c.load s f d payload).state := by
  rcases state_load c s f d payload with hstate | ⟨t, ps, raws, hfind, hstate⟩
  · rw [hstate]
    exact h
  · rw [hstate]
    refine h.stage hfind ?_
    exact accepted_scan (P := Rows.Keyed t.definition) (fun haccepts hA => hA.push haccepts.keyed) raws 1
      Rows.keyed_empty

/-- Published rows are listed with their keys, and no table is lost. -/
theorem Holds.publishAll (h : c.Holds s) (h' : c.Holds s') : (c.publishAll s.staged).Holds s' := by
  refine h'.of_tables ?_ ?_
  · intro x t ht
    obtain ⟨t', ht', rfl⟩ := h.of_find?_publishAll ht
    exact (h.committed x t' ht').append (h.keyed_stagedFor ht')
  · intro x t ht
    rw [find?_publishAll c h.names, ht]
    exact ⟨_, rfl, rfl⟩

/-- **Rows are listed with their keys**, whatever happens to the catalog and its sessions. -/
theorem invariant_holds : Invariant Holds where
  initial := ⟨nofun, nofun, Pairwise.nil⟩
  mode _ h := ⟨h.committed, h.staged, h.names⟩
  discard h := ⟨h.committed, nofun, Pairwise.nil⟩
  load f d payload h := h.load f d payload
  publish h h' hcommit := by
    cases eq_publishAll_of_commit hcommit
    exact h.publishAll h'
  create h hcreate := by
    refine h.of_tables ?_ ?_
    · intro x t ht
      rcases of_find?_create hcreate ht with ht | ⟨_, rfl⟩
      · exact h.committed x t ht
      · exact Rows.keyed_empty
    · intro x t ht
      refine ⟨t, ?_, rfl⟩
      rw [find?_create hcreate, ht]
      rfl

/-! ## Rows that have been moved -/

/-- What a session sees does not depend on whether its rows have been published. -/
theorem Holds.moved (h : c.Holds s) (hmoved : c.Moved s c' s') : c'.Holds s' ∧
    ∀ x, (c'.find? x).map Table.definition = (c.find? x).map Table.definition ∧
      c'.visibleRows s' x = c.visibleRows s x := by
  rcases hmoved with ⟨rfl, hstaged⟩ | ⟨rfl, hstaged⟩
  · have hsame (x : String) : s'.stagedFor x = s.stagedFor x := by rw [Session.stagedFor, hstaged]; rfl
    refine ⟨⟨h.committed, by rw [hstaged]; exact h.staged, by rw [hstaged]; exact h.names⟩, fun x => ⟨rfl, ?_⟩⟩
    rw [visibleRows, hsame]
    rfl
  · have hempty : c.Holds s' := ⟨h.committed, by rw [hstaged]; exact nofun, by rw [hstaged]; exact Pairwise.nil⟩
    refine ⟨h.publishAll hempty, fun x => ⟨?_, h.visibleRows_publishAll hstaged x⟩⟩
    rw [find?_publishAll c h.names]
    cases c.find? x <;> rfl

theorem keyIndex?_congr {x : String} (h : (c'.find? x).map Table.definition = (c.find? x).map Table.definition) :
    c'.keyIndex? x = c.keyIndex? x := by
  have hkey (c : Catalog) : c.keyIndex? x = ((c.find? x).map Table.definition).bind TableDef.primaryKeyIndex? := by
    unfold keyIndex?
    cases c.find? x <;> rfl
  rw [hkey, hkey, h]

/-- Staged rows are visible. -/
theorem visibleRows_stage (c : Catalog) (s : Session) (A : Rows) :
    c.visibleRows (s.stage x A) x = c.visibleRows s x ++ A.rows := by
  rw [visibleRows, stagedFor_stage, if_pos rfl, visibleRows, append_assoc]
  rfl

/-- Published rows are visible. -/
theorem visibleRows_publish (h : (c.find? x).isSome) (hs : s.Clean) (hs' : s'.Clean) (A : Rows) :
    (c.publish x A).visibleRows s' x = c.visibleRows s x ++ A.rows := by
  obtain ⟨t, ht⟩ := Option.isSome_iff_exists.mp h
  rw [visibleRows, visibleRows, hs.stagedFor, hs'.stagedFor, rows?_publish_self, rows?, ht]
  simp

end Catalog

theorem Database.Reachable.holds {d : Database} (h : d.Reachable) (n : Nat) : d.catalog.Holds (d.session n) :=
  Catalog.invariant_holds.of_reachable h n

end BulkLoad
