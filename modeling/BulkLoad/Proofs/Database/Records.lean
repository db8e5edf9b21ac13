import BulkLoad.Proofs.Database.Staging
import BulkLoad.Proofs.Payload.RoundTrip

/-!
# Rows of records

A record gives a row of the table that its schema names (`Catalog.RowOf`), whatever its place in a payload. A statement
that skips no row adds exactly the rows of the records that its batch carries, in order (`Catalog.rows_accepted`); so do
several statements (`Catalog.acceptedRows_of_full`).
-/

namespace BulkLoad

open List

namespace Catalog

/-! ## Decoding -/

/-- The number of a line shows in errors only. -/
theorem fillRow_line {f : Format} {t : TableDef} {line : Nat} (line' : Nat) : ∀ {fields : List (Option Bytes × Nat)}
    {row row' : Row}, fillRow f t line row fields = .ok row' → fillRow f t line' row fields = .ok row'
  | [], _, _, h => h
  | (none, _) :: _, _, _, h => by
    rw [fillRow] at h ⊢
    exact fillRow_line line' h
  | (some field, i) :: rest, row, row', h => by
    rw [fillRow] at h ⊢
    split at h
    · exact fillRow_line line' h
    next c hc =>
    split at h
    · cases h
    · exact fillRow_line line' h

theorem decodeRow_line {f : Format} {t : TableDef} {positions : List Nat} {line : Nat} {raw : RawRow} {row : Row}
    (h : decodeRow f t positions line raw = .ok row) (line' : Nat) : decodeRow f t positions line' raw = .ok row := by
  unfold decodeRow at h ⊢
  split at h
  · cases h
  · next hlength => rw [if_neg hlength, fillRow_line line' h]

/-! ## Scans that skip nothing -/

variable {c : Catalog} {s : Session} {f : Format} {t : TableDef} {ps : List Nat}

/-- A scan without a failure has accepted or skipped every line. -/
theorem count_scan : ∀ (raws : List RawRow) (accepted : Rows) (line : Nat),
    (c.scan s f t ps accepted line raws).failure = none →
      (c.scan s f t ps accepted line raws).accepted.count +
        (c.scan s f t ps accepted line raws).skipped.length = accepted.count + raws.length
  | [], _, _, _ => rfl
  | raw :: rest, accepted, line, h => by
    rw [scan] at h ⊢
    cases hj : c.judge s f t ps accepted line raw with
    | refuse e => rw [hj] at h; cases h
    | skip fk =>
      rw [hj] at h
      have ih := count_scan rest accepted (line + 1) h
      simp only [length_cons] at ih ⊢
      omega
    | accept row key =>
      rw [hj] at h
      have ih := count_scan rest (accepted.push row key) (line + 1) h
      have hpush : (accepted.push row key).count = accepted.count + 1 := length_append
      simp only [length_cons] at ih ⊢
      omega

/-- A scan without a failure accepts the rows of its lines, without those of the lines that it skips, in order. -/
theorem kept_scan : ∀ (raws : List RawRow) (accepted : Rows) (line : Nat),
    (c.scan s f t ps accepted line raws).failure = none →
      ∃ kept rows, kept <+ raws ∧ (c.scan s f t ps accepted line raws).accepted.rows = accepted.rows ++ rows ∧
        Forall₂ (fun raw row => ∀ line, decodeRow f t ps line raw = .ok row) kept rows
  | [], accepted, _, _ => ⟨[], [], Sublist.refl _, (append_nil _).symm, Forall₂.nil⟩
  | raw :: rest, accepted, line, hf => by
    rw [scan] at hf ⊢
    cases hj : c.judge s f t ps accepted line raw with
    | refuse e => rw [hj] at hf; cases hf
    | skip fk =>
      rw [hj] at hf
      obtain ⟨kept, rows, hkept, hrows, hall⟩ := kept_scan rest accepted (line + 1) hf
      exact ⟨kept, rows, hkept.cons raw, hrows, hall⟩
    | accept row key =>
      rw [hj] at hf
      obtain ⟨kept, rows, hkept, hrows, hall⟩ := kept_scan rest (accepted.push row key) (line + 1) hf
      refine ⟨raw :: kept, row :: rows, hkept.cons_cons raw, ?_,
        Forall₂.cons (decodeRow_line (accepts_of_judge hj).decoded) hall⟩
      have happend : accepted.rows ++ row :: rows = (accepted.push row key).rows ++ rows := by
        rw [Rows.push, append_assoc, singleton_append]
      rw [happend, ← hrows]

/-- A scan without a failure that skips nothing accepts the row of every line, in order. -/
theorem rows_scan (raws : List RawRow) (accepted : Rows) (line : Nat)
    (hf : (c.scan s f t ps accepted line raws).failure = none)
    (hs : (c.scan s f t ps accepted line raws).skipped = []) :
    ∃ rows, (c.scan s f t ps accepted line raws).accepted.rows = accepted.rows ++ rows ∧
      Forall₂ (fun raw row => ∀ line, decodeRow f t ps line raw = .ok row) raws rows := by
  obtain ⟨kept, rows, hkept, hrows, hall⟩ := kept_scan raws accepted line hf
  have hcount := count_scan raws accepted line hf
  rw [hs, length_nil, Rows.count, Rows.count, hrows, length_append, ← hall.length_eq] at hcount
  have hall_kept : kept = raws := hkept.eq_of_length (by omega)
  exact ⟨rows, hrows, hall_kept ▸ hall⟩

/-! ## Rows of records -/

variable {ρ : Type} {sch : Schema ρ}

/-- The destination of the payloads of a schema. -/
def destination (sch : Schema ρ) : Destination := ⟨sch.table, sch.names⟩

/-- The row is the one that the record gives in the table of the schema. -/
def RowOf (c : Catalog) (f : Format) (sch : Schema ρ) (r : ρ) (row : Row) : Prop :=
  ∃ t ps, c.find? sch.table = some t ∧ positions t.definition sch.names = .ok ps ∧
    ∀ line, decodeRow f t.definition ps line (rawRow f sch r) = .ok row

/-- Publishing rows does not change the row that a record gives. -/
theorem RowOf.of_publish {rows : Rows} {r : ρ} {row : Row} (h : (c.publish sch.table rows).RowOf f sch r row) :
    c.RowOf f sch r row := by
  obtain ⟨t, ps, hfind, hpositions, hdecode⟩ := h
  rw [find?_publish_self] at hfind
  obtain ⟨t', hfind', rfl⟩ := Option.map_eq_some_iff.mp hfind
  exact ⟨t', ps, hfind', hpositions, hdecode⟩

/-- A record gives the same row when tables and rows have been added. -/
theorem RowOf.of_extends {c' : Catalog} {r : ρ} {row : Row} (h : c.RowOf f sch r row) (hextends : c.Extends c') :
    c'.RowOf f sch r row := by
  obtain ⟨t, ps, hfind, hpositions, hdecode⟩ := h
  obtain ⟨later, hfind'⟩ := hextends _ _ hfind
  exact ⟨_, ps, hfind', hpositions, hdecode⟩

/-- A statement that is examined with the payload of a batch is a scan of the rows of its records. -/
theorem scan_of_examine {b : Batch} {rs : List ρ} (hb : b.Carries f sch rs) {definition : TableDef} {r : Scan}
    (h : c.examine {} f (destination sch) b.bytes = .ok (definition, r)) :
    ∃ t ps, c.find? sch.table = some t ∧ positions t.definition sch.names = .ok ps ∧
      r = c.scan {} f t.definition ps {} 1 (rs.map (rawRow f sch)) := by
  unfold examine at h
  split at h
  · cases h
  next t hfind =>
  split at h
  · cases h
  next ps hpositions =>
  rw [readPayload_carries hb] at h
  cases h
  exact ⟨t, ps, hfind, hpositions, rfl⟩

/-- A statement with as many rows as its batch has records adds the rows of the records, in order. -/
theorem rows_accepted {b : Batch} {rs : List ρ} (hb : b.Carries f sch rs)
    (hfull : b.records ≤ (c.accepted f (destination sch) b.bytes).count) :
    Forall₂ (c.RowOf f sch) rs (c.accepted f (destination sch) b.bytes).rows := by
  have hempty : b.records ≤ 0 → rs = [] := fun h => by
    rw [hb.1, Nat.le_zero, length_eq_zero_iff] at h
    exact h
  unfold accepted at hfull ⊢
  cases hexamine : c.examine {} f (destination sch) b.bytes with
  | error e =>
    rw [hexamine] at hfull
    rw [hempty hfull]
    exact Forall₂.nil
  | ok found =>
    obtain ⟨t, r⟩ := found
    rw [hexamine] at hfull
    simp only at hfull ⊢
    cases hfailure : r.failure with
    | some e =>
      rw [hfailure] at hfull
      rw [hempty hfull]
      exact Forall₂.nil
    | none =>
      rw [hfailure] at hfull
      simp only [Option.isSome_none, Bool.false_eq_true, if_false] at hfull ⊢
      obtain ⟨table, ps, hfind, hpositions, rfl⟩ := scan_of_examine hb hexamine
      have hcount := count_scan (rs.map (rawRow f sch)) {} 1 hfailure
      rw [length_map, ← hb.1] at hcount
      have hskipped : (c.scan {} f table.definition ps {} 1 (rs.map (rawRow f sch))).skipped = [] := by
        apply length_eq_zero_iff.mp
        have hzero : Rows.count {} = 0 := rfl
        omega
      obtain ⟨rows, hrows, hall⟩ := rows_scan _ _ _ hfailure hskipped
      rw [hrows, nil_append]
      rw [forall₂_map_left_iff] at hall
      exact hall.imp fun _ _ hdecode => ⟨table, ps, hfind, hpositions, hdecode⟩

/-- Each of the statements adds as many rows as its batch has records. -/
def Full (c : Catalog) (f : Format) (d : Destination) : List Batch → Prop
  | [] => True
  | b :: bs => b.records ≤ (c.accepted f d b.bytes).count ∧ Full (c.publish d.table (c.accepted f d b.bytes)) f d bs

theorem full_append {d : Destination} {bs' : List Batch} : ∀ {bs : List Batch} {c : Catalog}, c.Full f d (bs ++ bs') ↔
    c.Full f d bs ∧ (c.after f d (bs.map Batch.bytes)).Full f d bs'
  | [], _ => ⟨fun h => ⟨trivial, h⟩, fun h => h.2⟩
  | b :: bs, c => by
    rw [cons_append, Full, Full, full_append, and_assoc]
    rfl

/-- Statements that skip no row add the rows of the records that their batches carry, in order. -/
theorem acceptedRows_of_full {groups : List (List ρ)} {bs : List Batch} (c : Catalog)
    (hb : Forall₂ (fun g (b : Batch) => b.Carries f sch g) groups bs) (hfull : c.Full f (destination sch) bs) :
    Forall₂ (c.RowOf f sch) groups.flatten (c.acceptedRows f (destination sch) (bs.map Batch.bytes)) := by
  induction hb generalizing c with
  | nil => exact Forall₂.nil
  | @cons g b groups bs hb _ ih =>
    have hrest := ih (c.publish sch.table (c.accepted f (destination sch) b.bytes)) hfull.2
    rw [flatten_cons, map_cons, acceptedRows]
    exact rel_append (rows_accepted hb hfull.1) (hrest.imp fun _ _ => RowOf.of_publish)

end Catalog

end BulkLoad
