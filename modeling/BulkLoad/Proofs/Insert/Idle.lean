import BulkLoad.Proofs.Database.Admitted
import BulkLoad.Proofs.Insert.Added

/-!
# Inserts on an idle connection

An idle connection is in autocommit and has nothing staged (`Database.Idle`). An insert on it starts whatever the options
say (`Insert.starts_of_idle`). Where the table has no foreign keys no row is ever skipped, so that it makes no difference
whether skipped rows count as failures (`Catalog.gatherRecords?_of_unlinked`). As nobody else commits meanwhile, there is
no conflict either, and in the end all rows are committed or staged together (`Ledger.Left`).

- `insertAll_idle_iff`: whether an insert succeeds depends on the records only;
- `left_of_insertAll`: what a successful one leaves behind.
-/

namespace BulkLoad

open List

variable {ρ : Type}

/-! ## Tables without foreign keys -/

namespace Catalog

variable {c : Catalog} {s : Session} {f : Format} {t : TableDef} {ps : List Nat} {sch : Schema ρ} {A : Rows}

/-- A row without references is never skipped. -/
theorem judge_ne_skip_of_unlinked (h : t.foreignKeys = []) {line : Nat} {raw : RawRow} {fk : ForeignKey} :
    c.judge s f t ps A line raw ≠ .skip fk := by
  unfold judge judgeRow
  rw [h]
  intro hskip
  split at hskip
  · cases hskip
  split at hskip
  · cases hskip
  simp only [find?_nil] at hskip
  split at hskip
  · cases hskip
  split at hskip <;> cases hskip

/-- Without references it makes no difference whether skipped rows count as failures. -/
theorem gatherRecords?_of_unlinked {table : Table} (hfind : c.find? sch.table = some table)
    (h : table.definition.foreignKeys = []) (strict strict' : Bool) (rs : List ρ) :
    c.gatherRecords? s f sch strict A rs = c.gatherRecords? s f sch strict' A rs := by
  have hrecord : c.gatherRecord? s f sch strict = c.gatherRecord? s f sch strict' := by
    funext A r
    unfold gatherRecord?
    cases htarget : c.target? (destination sch) with
    | none => rfl
    | some found =>
      obtain ⟨table', hfind', hdefinition, _⟩ := find?_of_target? htarget
      rw [show (destination sch).table = sch.table from rfl, hfind] at hfind'
      cases hfind'
      rw [hdefinition] at h
      rw [Option.bind_some, Option.bind_some, gatherLine?_eq 1, gatherLine?_eq 1]
      cases hj : c.judge s f found.1 found.2 A 1 (rawRow f sch r) with
      | skip fk => exact absurd hj (judge_ne_skip_of_unlinked h)
      | refuse e => rfl
      | accept row key => rfl
  unfold gatherRecords?
  rw [hrecord]

/-- Rows without references are all admitted. -/
theorem admitted_of_unlinked (h : t.foreignKeys = []) (rows : List Row) : ∀ added : List Row,
    c.admitted s t added rows = added ++ rows := by
  have hadmits (added : List Row) (row : Row) : c.admits s t added row = true := by
    rw [admits, h, all_nil]
  induction rows with
  | nil => exact fun added => (append_nil added).symm
  | cons row rows ih =>
    intro added
    rw [admitted_cons, hadmits, if_pos rfl, ih, append_assoc, singleton_append]

end Catalog

/-! ## Idle connections -/

/-- The connection may open bulk channels, is in autocommit and has nothing staged. -/
structure Database.Idle (d : Database) (n : Nat) : Prop where
  bulk : (d.connection n).allowsBulk = true
  clean : (d.session n).Clean
  autocommit : (d.session n).autocommit = true

variable {d : Database} {n : Nat} {s : Schema ρ} {o : Options}

/-- An insert on an idle connection starts. -/
theorem Insert.starts_of_idle (h : d.Idle n) (o : Options) : Insert.Starts o d n := by
  obtain ⟨channel, c, hopen⟩ : ∃ channel c, (Target.openChannel : Act Client _).out ⟨d, n⟩ = (.ok channel, c) := by
    rw [Client.out_openChannel, if_pos h.bulk]
    exact ⟨_, _, rfl⟩
  obtain ⟨_, _, hat⟩ := Client.at_openChannel hopen
  suffices hacquire : ∃ p c', (Policy.acquire o).out c = (.ok p, c') by
    obtain ⟨p, c', hacquire⟩ := hacquire
    exact ⟨channel, c, p, c', hopen, hacquire⟩
  cases hlong : o.longTransaction with
  | true =>
    obtain ⟨c', hout, _⟩ := hat.acquire_long hlong
    exact ⟨_, c', hout⟩
  | false =>
    obtain ⟨c₁, hon, hat₁⟩ := hat.switchTo true h.clean
    unfold Policy.acquire Policy.beginEach
    rw [hlong, if_neg Bool.false_ne_true, Act.out_bind, Act.out_ask, Act.out_bind, hon]
    cases o.errorOnMissingRow with
    | false => exact ⟨_, c₁, rfl⟩
    | true =>
      obtain ⟨c₂, hoff, _⟩ := hat₁.setAutocommit false (Session.Clean.inTransaction h.clean)
      refine ⟨{ mode := .perBatch 0, previous := Target.autocommit c }, c₂, ?_⟩
      simp only [if_true]
      unfold Policy.switch
      rw [Act.out_bind, Act.out_bind, hoff]
      rfl

/-- Acquiring a policy on an idle connection publishes nothing and stages nothing. -/
theorem Insert.ledger_of_idle (hd : d.Kept) (h : d.Idle n) (s : Schema ρ) (o : Options) :
    (Insert.ledger s o d n).catalog = d.catalog ∧ (Insert.ledger s o d n).session.Clean ∧
      ((Insert.ledger s o d n).long? ≠ none → (Insert.ledger s o d n).session.autocommit = false) := by
  have hstarts := Insert.starts_of_idle h o
  cases hlong : o.longTransaction with
  | true =>
    obtain ⟨hcatalog, hsession⟩ := hstarts.long s hlong
    rw [hsession]
    exact ⟨hcatalog, h.clean, fun _ => rfl⟩
  | false =>
    obtain ⟨hclean, hmoved⟩ := hstarts.each hd s hlong
    refine ⟨?_, hclean, fun hne => absurd (by simp [Insert.ledger, hlong]) hne⟩
    rcases hmoved with ⟨hcatalog, _⟩ | ⟨hcatalog, _⟩
    · exact hcatalog
    · rw [hcatalog, Catalog.publishAll_of_clean _ h.clean]

/-- The rows of records for an insert on an idle connection into a table without foreign keys. -/
theorem Insert.gather?_of_idle (hd : d.Kept) (h : d.Idle n) {table : Table} (hfind : d.catalog.find? s.table = some table)
    (hunlinked : table.definition.foreignKeys = []) (o : Options) (records : List ρ) :
    (Insert.ledger s o d n).gather? records =
      d.catalog.gatherRecords? {} (d.connection n).format s false {} records := by
  obtain ⟨hcatalog, hclean, _⟩ := Insert.ledger_of_idle hd h s o
  unfold Ledger.gather?
  rw [Catalog.gatherRecords?_of_clean hclean, hcatalog]
  exact Catalog.gatherRecords?_of_unlinked hfind hunlinked _ _ records

/-! ## What is left behind -/

namespace Ledger

variable {g : Ledger ρ} {m : Nat} {A : Rows}

/-- The rows `A` have been committed, or they are staged and can be committed. -/
def Left (g : Ledger ρ) (A : Rows) (C : Catalog) (S : Session) : Prop :=
  C = g.published A ∧ S.autocommit = true ∨
    C = g.catalog ∧ S.autocommit = false ∧ C.conflict? S.staged = none ∧ C.publishAll S.staged = g.published A

/-- Rows with new keys are left behind without a conflict. -/
theorem exists_left (hclean : g.session.Clean) (hprevious : g.previous = true)
    (hoff : g.long? ≠ none → g.session.autocommit = false) (hnew : ∀ k ∈ A.keys, k ∉ g.catalog.keysOf g.schema.table)
    (hempty : m = 0 → A = {}) : ∃ C S, g.closed? m A = some (C, S) ∧ g.Left A C S := by
  have hstaged : g.catalog.conflict? (g.staged m A).staged = none ∧
      g.catalog.publishAll (g.staged m A).staged = g.published A := by
    unfold Ledger.staged
    by_cases hm : m = 0
    · rw [if_pos hm, published, hempty hm, Catalog.publish_empty]
      exact ⟨Catalog.conflict?_of_clean hclean, Catalog.publishAll_of_clean _ hclean⟩
    · rw [if_neg hm]
      exact ⟨Catalog.conflict?_stageIn hnew hclean, Catalog.publishAll_stageIn A _ hclean⟩
  unfold closed?
  cases hlong : g.long? with
  | none => exact ⟨_, _, rfl, Or.inl ⟨rfl, hprevious⟩⟩
  | some commitOnClose =>
    cases commitOnClose with
    | true =>
      refine ⟨g.catalog.publishAll (g.staged m A).staged, { autocommit := g.previous }, ?_,
        Or.inl ⟨hstaged.2, hprevious⟩⟩
      simp [Catalog.commit, hstaged.1, Except.toOption]
    | false =>
      have hmode := autocommit_staged (hoff (by rw [hlong]; exact Option.some_ne_none false)) m A
      exact ⟨_, _, rfl, Or.inr ⟨rfl, hmode, hstaged⟩⟩

end Ledger

variable {table : Table} {records : List ρ}

/-- An insert on an idle connection leaves its rows behind. -/
theorem Insert.left_of_gather? (hd : d.Kept) (h : d.Idle n) (hfind : d.catalog.find? s.table = some table)
    (hunlinked : table.definition.foreignKeys = []) (o : Options) {A : Rows} {m : Nat} (hm : m = 0 → records = [])
    (hA : (Insert.ledger s o d n).gather? records = some A) :
    ∃ C S, (Insert.ledger s o d n).closed? m A = some (C, S) ∧ (Insert.ledger s o d n).Left A C S := by
  obtain ⟨hcatalog, hclean, hoff⟩ := Insert.ledger_of_idle hd h s o
  have hgathered := hA
  rw [Insert.gather?_of_idle hd h hfind hunlinked] at hgathered
  refine Ledger.exists_left hclean h.autocommit hoff ?_ fun hzero => ?_
  · intro k hk hmem
    rw [hcatalog] at hmem
    exact Catalog.keys_gatherRecords? hgathered k hk (mem_append_left _ hmem)
  · rw [hm hzero] at hgathered
    cases hgathered
    rfl

/-- **Whether an insert succeeds does not depend on its options**: each record can be written, and the rows of the records
can be added one behind the other. -/
theorem insertAll_idle_iff (hd : d.Kept) (h : d.Idle n) (hfind : d.catalog.find? s.table = some table)
    (hunlinked : table.definition.foreignKeys = []) (o : Options) (records : List ρ) :
    (∃ progress, ((insertAll s o records).out (Client.mk d n)).1.result = .ok progress) ↔
      (∃ A, d.catalog.gatherRecords? {} (d.connection n).format s false {} records = some A) ∧
        ∃ lines, Lines (d.connection n).format s records lines := by
  have hgather := Insert.gather?_of_idle hd h hfind hunlinked o records
  constructor
  · rintro ⟨progress, hok⟩
    obtain ⟨_, m, A, hadded⟩ := insertAll_ok hd s o records hok
    obtain ⟨lines, hlines, _⟩ := hadded.totals.bytes
    exact ⟨⟨A, hgather.symm.trans hadded.gathered⟩, lines, hlines⟩
  · rintro ⟨⟨A, hA⟩, lines, hlines⟩
    refine insertAll_succeeds hd s o records (Insert.starts_of_idle h o) ⟨⟨⟨A, hgather.trans hA⟩, lines, hlines⟩, ?_⟩
    intro m B hm hB hnone
    obtain ⟨C, S, hclosed, _⟩ := Insert.left_of_gather? hd h hfind hunlinked o hm.mp hB
    rw [hnone] at hclosed
    cases hclosed

/-- **What a successful insert leaves behind**, whatever its options. -/
theorem left_of_insertAll (hd : d.Kept) (h : d.Idle n) (hfind : d.catalog.find? s.table = some table)
    (hunlinked : table.definition.foreignKeys = []) {progress : Progress}
    (hok : ((insertAll s o records).out (Client.mk d n)).1.result = .ok progress) :
    ∃ A lines C S, d.catalog.gatherRecords? {} (d.connection n).format s false {} records = some A ∧
      Lines (d.connection n).format s records lines ∧ progress.records = records.length ∧
      progress.bytes = lines.flatten.length ∧
      ((insertAll s o records).out (Client.mk d n)).2.At n d.channels.length true (d.connection n).format C S ∧
      (C = d.catalog.publish s.table A ∧ S.autocommit = true ∨
        S.autocommit = false ∧ C.conflict? S.staged = none ∧ C.publishAll S.staged = d.catalog.publish s.table A) := by
  obtain ⟨_, m, A, hadded⟩ := insertAll_ok hd s o records hok
  obtain ⟨lines, hlines, hbytes⟩ := hadded.totals.bytes
  obtain ⟨C, S, hclosed, hat⟩ := hadded.closed
  obtain ⟨C', S', hclosed', hleft⟩ := Insert.left_of_gather? hd h hfind hunlinked o hadded.sent.mp hadded.gathered
  rw [hclosed] at hclosed'
  cases hclosed'
  have hpublished : (Insert.ledger s o d n).published A = d.catalog.publish s.table A := by
    rw [Ledger.published, (Insert.ledger_of_idle hd h s o).1]
    rfl
  refine ⟨A, lines, C, S, ?_, hlines, hadded.totals.records, hbytes, hat, ?_⟩
  · rw [← Insert.gather?_of_idle hd h hfind hunlinked o]
    exact hadded.gathered
  · unfold Ledger.Left at hleft
    rw [hpublished] at hleft
    exact hleft.imp id And.right

end BulkLoad
