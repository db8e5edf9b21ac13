import BulkLoad.Proofs.Database.Admitted
import BulkLoad.Proofs.Insert.Added

/-!
# What a connection sees after an insert

The rows that an insert adds are visible to its connection behind those that were visible before, whatever the policy.
With transactions for each batch and with a long one that is committed they are committed, and all that was staged before
is, too; a long transaction that is left open has them staged (`Ledger.visible_of_closed?`).

`load_lossless`: a successful insert adds the row of each record, in order, without those that are skipped for a missing
reference. The rows hold the values of the records as they read back.
-/

namespace BulkLoad

open List

variable {ρ : Type} {d : Database} {n : Nat} {s : Schema ρ} {o : Options}

namespace Ledger

variable {g : Ledger ρ} {A : Rows} {m : Nat}

/-- The rows of an insert that are staged are visible. -/
theorem visibleRows_staged (hempty : m = 0 → A = {}) :
    g.catalog.visibleRows (g.staged m A) g.schema.table =
      g.catalog.visibleRows g.session g.schema.table ++ A.rows := by
  unfold Ledger.staged
  by_cases hm : m = 0
  · simp [hm, hempty hm]
  · rw [if_neg hm, Catalog.visibleRows_stage]

/-- **Where the rows of an insert are left.** -/
theorem visible_of_closed? {C : Catalog} {S : Session} {t : Table} (hholds : g.catalog.Holds g.session)
    (hfind : g.catalog.find? g.schema.table = some t) (hclean : g.long? = none → g.session.Clean)
    (hA : A.Keyed t.definition) (hempty : m = 0 → A = {}) (h : g.closed? m A = some (C, S)) :
    C.visibleRows S g.schema.table = g.catalog.visibleRows g.session g.schema.table ++ A.rows ∧
      (g.long? = some false → C = g.catalog ∧
        (S.stagedFor g.schema.table).rows = (g.session.stagedFor g.schema.table).rows ++ A.rows) ∧
      (g.long? ≠ some false → C.rows? g.schema.table = some (C.visibleRows S g.schema.table)) := by
  have hsome : (g.catalog.find? g.schema.table).isSome := by rw [hfind]; rfl
  have hstaged : g.catalog.Holds (g.staged m A) := by
    unfold Ledger.staged
    by_cases hm : m = 0
    · rw [if_pos hm]
      exact hholds
    · rw [if_neg hm]
      exact hholds.stage hfind hA
  -- Whoever has staged nothing sees the committed rows.
  have hcommitted {C : Catalog} {S : Session} (hC : (C.find? g.schema.table).isSome) (hS : S.Clean) :
      C.rows? g.schema.table = some (C.visibleRows S g.schema.table) := by
    obtain ⟨t', ht'⟩ := Option.isSome_iff_exists.mp hC
    rw [Catalog.visibleRows, hS.stagedFor, Catalog.rows?, ht']
    simp
  unfold closed? at h
  cases hlong : g.long? with
  | none =>
    rw [hlong] at h
    cases h
    have hemptied := g.clean_emptied (hclean hlong) m g.previous
    refine ⟨Catalog.visibleRows_publish hsome (hclean hlong) hemptied A, (fun h => by cases h), fun _ => hcommitted ?_ hemptied⟩
    rw [published, Catalog.find?_publish_self, Option.isSome_map]
    exact hsome
  | some commitOnClose =>
    rw [hlong] at h
    cases commitOnClose with
    | false =>
      cases h
      refine ⟨visibleRows_staged hempty, fun _ => ⟨rfl, ?_⟩, fun hne => absurd rfl hne⟩
      unfold Ledger.staged
      by_cases hm : m = 0
      · simp [hm, hempty hm]
      · rw [if_neg hm, Catalog.stagedFor_stage, if_pos rfl]
        rfl
    | true =>
      obtain ⟨C', hcommit, hpair⟩ := Option.map_eq_some_iff.mp h
      cases hpair
      have hC : C = g.catalog.publishAll (g.staged m A).staged := by
        refine Catalog.eq_publishAll_of_commit ?_
        cases hv : g.catalog.commit (g.staged m A) with
        | error k => rw [hv] at hcommit; cases hcommit
        | ok C' => rw [hv] at hcommit; cases hcommit; rfl
      subst hC
      refine ⟨?_, (fun h => by cases h), fun _ => hcommitted (S := { autocommit := g.previous }) ?_ (forall_mem_nil _)⟩
      · rw [hstaged.visibleRows_publishAll rfl, visibleRows_staged hempty]
      · rw [Catalog.find?_publishAll _ hstaged.names, Option.isSome_map]
        exact hsome

end Ledger

/-- An insert starts with what the session has seen before. -/
theorem Insert.Starts.moved (h : Insert.Starts o d n) (hd : d.Kept) (s : Schema ρ) :
    d.catalog.Moved (d.session n) (Insert.ledger s o d n).catalog (Insert.ledger s o d n).session := by
  cases hlong : o.longTransaction with
  | false => exact (h.each hd s hlong).2
  | true =>
    obtain ⟨hcatalog, hsession⟩ := h.long s hlong
    rw [hcatalog, hsession]
    exact Or.inl ⟨rfl, rfl⟩

/-- Incidents may have a time, a cause among the other incidents and a note. -/
def incidentTable : TableDef where
  name := "incident"
  columns := [⟨"id", .int, false⟩, ⟨"at", .timestamp, true⟩, ⟨"cause", .int, true⟩, ⟨"note", .text, true⟩]
  primaryKey := some "id"
  foreignKeys := [⟨"cause", "incident"⟩]

/-- A database with a table of incidents, and a connection that skips rows with missing references. -/
def incidentDatabase : Database :=
  (Database.Op.connect .loadData true).apply ((Database.Op.createTable incidentTable).apply {})

theorem reachable_incidentDatabase : incidentDatabase.Reachable :=
  .step (.connect .loadData true) (.step (.createTable incidentTable) .initial)

/-- An incident with its number, its cause and its time. -/
structure Incident where
  number : Int64
  cause : Option Int64
  time : Option Moment

/-- The columns of incidents in another order, without the note. -/
def incidentSchema : Schema Incident where
  table := "incident"
  columns := [⟨"cause", fun i => .ok (Value.ofOption .int i.cause)⟩, ⟨"id", fun i => .ok (.int i.number)⟩,
    ⟨"at", fun i => .ok (Value.ofOption .timestamp i.time)⟩]
  faultless := by decide +kernel

theorem fits_incidentSchema : incidentSchema.Fits incidentTable := by
  have hoption {α : Type} {f : α → Value} {ty : ColumnType} (htype : ∀ a, (f a).type? = some ty) (x : Option α) :
      Value.ofOption f x = .null ∨ (Value.ofOption f x).type? = some ty := by
    cases x with
    | none => exact Or.inl rfl
    | some a => exact Or.inr (htype a)
  intro col hcol
  simp only [incidentSchema, mem_cons, not_mem_nil, or_false] at hcol
  rcases hcol with rfl | rfl | rfl
  · refine ⟨2, _, by decide, rfl, ?_⟩
    rintro r v hv
    cases hv
    exact (hoption (fun _ => rfl) r.cause).imp_right fun h => ⟨h, by decide⟩
  · refine ⟨0, _, by decide, rfl, ?_⟩
    rintro r v hv
    cases hv
    exact Or.inr ⟨rfl, by decide⟩
  · refine ⟨1, _, by decide, rfl, ?_⟩
    rintro r v hv
    cases hv
    exact (hoption (fun _ => rfl) r.time).imp_right fun h => ⟨h, by decide⟩

/-- Incidents one of which falls into a leap second. The cause of the second one is missing, and it is that of the
third. -/
def incidents : List Incident :=
  [⟨1, none, some ⟨⟨2016, 12, 31, by decide⟩, ⟨23, 59, 59, 1500000000, by decide⟩⟩⟩, ⟨2, some 9, none⟩,
    ⟨3, some 2, none⟩, ⟨4, some 1, none⟩]

theorem result_incidents : (insertAll incidentSchema { batchSize := some 25, longTransaction := true } incidents
    (Client.mk incidentDatabase 0)).value.result = .ok ⟨2, 4, 50, 2⟩ := by
  decide +kernel

/-- An incident in a leap second that follows second 4. -/
def strangeIncident : Incident := ⟨1, none, some ⟨⟨2016, 12, 31, by decide⟩, strangeLeapSecond⟩⟩

end BulkLoad
