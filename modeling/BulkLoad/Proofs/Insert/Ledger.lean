import BulkLoad.Proofs.Batch.Partition
import BulkLoad.Proofs.Database.Client
import BulkLoad.Proofs.Database.Gather
import BulkLoad.Proofs.Insert.Sequential
import BulkLoad.Proofs.Statement.ReadBack

/-!
# What an insert adds

A sequential insert adds the rows that are gathered from its records, however they are cut into batches. Where these rows
lie depends on the policy: they are committed, they are committed but for those of the last batch, or they are staged
(`Ledger.Lies`). A batch is accepted exactly when the rows of its records can be gathered behind those of the records
before (`Ledger.Holds.write`), and settling moves rows but adds none (`Ledger.Holds.settle`).

`Ledger.Holds.drive`: an insert gets through all its stages exactly when each record can be written and the rows of all
records can be gathered.
-/

namespace BulkLoad

open List

/-- What stays the same while an insert adds rows: its schema, the connection and its channel, whether skipped rows count
as failures, how a long transaction is to end, the mode that was found, and the catalog and the session to which rows are
added. -/
structure Ledger (ρ : Type) where
  schema : Schema ρ
  connection : Nat
  channel : Nat
  format : Format
  strict : Bool
  long? : Option Bool
  previous : Bool
  catalog : Catalog
  session : Session

namespace Ledger

variable {ρ : Type} (g : Ledger ρ)

/-- The rows of records, if they can be added. -/
def gather? (rs : List ρ) : Option Rows := g.catalog.gatherRecords? g.session g.format g.schema g.strict {} rs

/-- The catalog with further committed rows. -/
def published (A : Rows) : Catalog := g.catalog.publish g.schema.table A

/-- The session when the rows of `n` batches have been committed. -/
def emptied (n : Nat) (autocommit : Bool) : Session :=
  { autocommit := autocommit, staged := if n = 0 then g.session.staged else [] }

/-- The session when the rows `A` of `n` batches have been staged. -/
def staged (n : Nat) (A : Rows) : Session := if n = 0 then g.session else g.session.stage g.schema.table A

/-- Where the rows `A` lie that have been added in `n` batches, by the mode of the policy. Behind the last commit, at most
the rows of the batches since then are staged. -/
inductive Lies : PolicyMode → Nat → Rows → Catalog → Session → Prop
  | committed {n : Nat} {A : Rows} : g.session.Clean → Lies .autocommit n A (g.published A) (g.emptied n true)
  | settled {n : Nat} {A : Rows} : g.session.Clean → Lies (.perBatch n) n A (g.published A) (g.emptied n false)
  | pending {n k : Nat} {A B : Rows} : k < n → g.session.Clean →
      (∀ key ∈ B.keys, key ∉ (g.published A).keysOf g.schema.table) →
      Lies (.perBatch k) n (A.append B) (g.published A) ((g.emptied k false).stage g.schema.table B)
  | staged {commitOnClose : Bool} {n : Nat} {A : Rows} : g.session.autocommit = false → (n = 0 → A = {}) →
      Lies (.longTransaction commitOnClose) n A g.catalog (g.staged n A)

theorem clean_emptied (h : g.session.Clean) (n : Nat) (autocommit : Bool) : (g.emptied n autocommit).Clean := by
  intro e he
  by_cases hn : n = 0
  · simp only [emptied, hn, if_true] at he
    exact h e he
  · simp [emptied, hn] at he

variable {g} {mode : PolicyMode} {n : Nat} {A : Rows} {C : Catalog} {S : Session}

/-- **Gathering goes on where the rows lie.** -/
theorem Lies.gather (h : g.Lies mode n A C S) (rs : List ρ) :
    g.catalog.gatherRecords? g.session g.format g.schema g.strict A rs =
      (C.gatherRecords? S g.format g.schema g.strict {} rs).map A.append := by
  have hpublished (A B : Rows) {S : Session} (hclean : g.session.Clean) (hS : S.Clean) :
      g.catalog.gatherRecords? g.session g.format g.schema g.strict (A.append B) rs =
        ((g.published A).gatherRecords? S g.format g.schema g.strict B rs).map A.append := by
    rw [Catalog.gatherRecords?_of_clean hclean, Catalog.gatherRecords?_of_clean hS]
    exact Catalog.gatherRecords?_publish rs
  cases h with
  | committed hclean =>
    have hrows := hpublished A {} hclean (g.clean_emptied hclean n true)
    rw [Rows.append_empty] at hrows
    exact hrows
  | settled hclean =>
    have hrows := hpublished A {} hclean (g.clean_emptied hclean n false)
    rw [Rows.append_empty] at hrows
    exact hrows
  | @pending n k A B _ hclean _ =>
    -- The rows `A` are committed, and `B` behind them are staged.
    rw [hpublished A B hclean (g.clean_emptied hclean k false), Catalog.gatherRecords?_stage, Option.map_map]
    congr 1
    funext D
    exact (Rows.append_assoc A B D).symm
  | staged _ hempty =>
    unfold Ledger.staged
    by_cases hn : n = 0
    · have happend : Rows.append {} = id := funext Rows.empty_append
      rw [if_pos hn, hempty hn, happend, Option.map_id]
      rfl
    · rw [if_neg hn]
      exact Catalog.gatherRecords?_stage rs

theorem autocommit_staged (h : g.session.autocommit = false) (n : Nat) (A : Rows) :
    (g.staged n A).autocommit = false := by
  unfold Ledger.staged
  split <;> exact h

/-- Rows are staged behind those that are staged already. -/
theorem stage_staged (hempty : n = 0 → A = {}) (B : Rows) :
    (g.staged n A).stage g.schema.table B = g.staged (n + 1) (A.append B) := by
  unfold Ledger.staged
  by_cases hn : n = 0
  · simp [hn, hempty hn, Rows.empty_append]
  · simp [hn, Catalog.stage_stage]

/-! ## Steps -/

variable {w : ChannelWriter Nat} {p : Policy} {c : Client} {rs rs' : List ρ} {b : Batch}

/-- A statement that stages rows leaves them where rows of further batches lie. -/
theorem Lies.send (h : g.Lies mode n A C S) (hat : c.At g.connection g.channel false g.format C S) {B : Rows}
    {skipped : Nat} {payload : Bytes} (hnew : ∀ k ∈ B.keys, k ∉ C.visibleKeys S g.schema.table)
    (hvalue : (C.load S g.format (Catalog.destination g.schema) payload).value = .ok ⟨B.count, skipped⟩)
    (hstate : (C.load S g.format (Catalog.destination g.schema) payload).state = S.stage g.schema.table B) :
    ∃ c' C' S', (Target.send g.channel (statement g.format g.schema) payload : Act Client _).out c =
        (.acked ⟨B.count, skipped⟩, c') ∧
      c'.At g.connection g.channel false g.format C' S' ∧ g.Lies mode (n + 1) (A.append B) C' S' := by
  have hread : Destination.read? g.format (statement g.format g.schema) = some (Catalog.destination g.schema) :=
    read?_statement g.format g.schema
  have hcommitted : ∀ k ∈ B.keys, k ∉ C.keysOf g.schema.table := fun k hk hmem =>
    hnew k hk (mem_append_left _ hmem)
  -- Outside of autocommit the rows are staged.
  have hstage (hmode : S.autocommit = false) :
      ∃ c', (Target.send g.channel (statement g.format g.schema) payload : Act Client _).out c =
          (.acked ⟨B.count, skipped⟩, c') ∧
        c'.At g.connection g.channel false g.format C (S.stage g.schema.table B) := by
    obtain ⟨c', hsend, hat'⟩ := hat.send hmode hread payload
    rw [hvalue] at hsend
    rw [hstate] at hat'
    exact ⟨c', hsend, hat'⟩
  cases h with
  | committed hclean =>
    have hS := g.clean_emptied hclean n true
    have hconflict := Catalog.conflict?_stageIn hcommitted hS
    have hpublish : (g.published A).publishAll ((g.emptied n true).stage g.schema.table B).staged =
        g.published (A.append B) :=
      (Catalog.publishAll_stageIn B _ hS).trans (Catalog.publish_publish _ _ A B)
    obtain ⟨c', hsend, hat'⟩ := hat.send_committed rfl hread hvalue (by rw [hstate]; exact hconflict)
    rw [hstate, hpublish] at hat'
    exact ⟨c', _, _, hsend, hat', .committed hclean⟩
  | settled hclean =>
    obtain ⟨c', hsend, hat'⟩ := hstage rfl
    exact ⟨c', _, _, hsend, hat', .pending (Nat.lt_succ_self n) hclean hcommitted⟩
  | @pending n k A B₀ hk hclean hnew₀ =>
    obtain ⟨c', hsend, hat'⟩ := hstage rfl
    rw [Catalog.stage_stage] at hat'
    rw [Rows.append_assoc]
    refine ⟨c', _, _, hsend, hat', .pending (Nat.lt_succ_of_lt hk) hclean ?_⟩
    intro key hkey
    rcases mem_append.mp hkey with hkey | hkey
    · exact hnew₀ key hkey
    · exact hcommitted key hkey
  | staged hmode hempty =>
    obtain ⟨c', hsend, hat'⟩ := hstage (autocommit_staged hmode n A)
    rw [stage_staged hempty] at hat'
    exact ⟨c', _, _, hsend, hat', .staged hmode (by omega)⟩

/-- The writer sends the statements of the insert. -/
structure Writes (g : Ledger ρ) (w : ChannelWriter Nat) : Prop where
  channel : w.channel = g.channel
  header : w.header = statement g.format g.schema
  strict : w.strict = g.strict
  running : w.closed = false

/-- The totals are those of records that were sent in `n` batches, when the rows `A` have been added. -/
structure Totals (g : Ledger ρ) (n : Nat) (rs : List ρ) (A : Rows) (progress : Progress) : Prop where
  batches : progress.batches = n
  records : progress.records = rs.length
  bytes : ∃ lines, Lines g.format g.schema rs lines ∧ progress.bytes = lines.flatten.length
  rowsAffected : progress.rowsAffected = A.count

/-- The rows `A` of the records have been added in `n` batches. -/
structure Holds (g : Ledger ρ) (n : Nat) (rs : List ρ) (A : Rows) (w : ChannelWriter Nat) (p : Policy) (c : Client) :
    Prop where
  writes : g.Writes w
  totals : g.Totals n rs A w.progress
  sent : n = 0 ↔ rs = []
  gathered : g.gather? rs = some A
  previous : p.previous = g.previous
  long? : p.mode.long? = g.long?
  lies : ∃ C S, c.At g.connection g.channel false g.format C S ∧ g.Lies p.mode n A C S

theorem Totals.record {progress : Progress} (h : g.Totals n rs A progress) (hb : b.Carries g.format g.schema rs')
    (B : Rows) : g.Totals (n + 1) (rs ++ rs') (A.append B) (progress.record b B.count) := by
  obtain ⟨lines, hlines, hbytes⟩ := h.bytes
  obtain ⟨hrecords, lines', hlines', hbytes'⟩ := hb
  refine ⟨by simp [Progress.record, h.batches], ?_, ⟨lines ++ lines', rel_append hlines hlines', ?_⟩, ?_⟩
  · simp [Progress.record, h.records, hrecords]
  · simp only [Progress.record, Batch.size, hbytes, hbytes', flatten_append, length_append]
  · simp [Progress.record, h.rowsAffected, Rows.count, Rows.append]

/-- **A batch is accepted when the rows of its records can be gathered** behind those of the records before. -/
theorem Holds.write (h : g.Holds n rs A w p c) (hb : b.Carries g.format g.schema rs') (hrs : rs' ≠ []) :
    (∃ B w' c', (w.write b).out c = ((.written, w'), c') ∧ g.Holds (n + 1) (rs ++ rs') (A.append B) w' p c') ∨
    g.gather? (rs ++ rs') = none ∧ ∃ e c', (w.write b).out c = ((.failed e, w), c') := by
  obtain ⟨C, S, hat, hlies⟩ := h.lies
  obtain ⟨hchannel, hheader, hstrict, hrunning⟩ := h.writes
  have hread : Destination.read? g.format (statement g.format g.schema) = some (Catalog.destination g.schema) :=
    read?_statement g.format g.schema
  have hgather : g.gather? (rs ++ rs') = (C.gatherRecords? S g.format g.schema g.strict {} rs').map A.append := by
    rw [← hlies.gather, gather?, Catalog.gatherRecords?_append]
    have hgathered := h.gathered
    rw [gather?] at hgathered
    rw [hgathered, Option.bind_some]
  rw [ChannelWriter.out_write, if_neg (hrs ∘ hb.isEmpty.mp), hchannel, hheader, hstrict]
  rcases Catalog.load_of_carries (c := C) (s := S) hb hrs g.strict with
    ⟨B, skipped, hB, hfull, hvalue, hstate⟩ | ⟨hnone, hfailed⟩
  · obtain ⟨c', C', S', hsend, hat', hlies'⟩ := hlies.send hat (Catalog.keys_gatherRecords? hB) hvalue hstate
    rw [hsend]
    refine Or.inl ⟨B, w.accept b B.count, c', if_pos hfull, ?_⟩
    refine ⟨⟨hchannel, hheader, hstrict, hrunning⟩, h.totals.record hb B, by simp [hrs], ?_, h.previous, h.long?, C', S',
      hat', hlies'⟩
    rw [hgather, hB, Option.map_some]
  · refine Or.inr ⟨by rw [hgather, hnone, Option.map_none], ?_⟩
    rcases hat.send_answer hread b.bytes with ⟨e, c', hsend⟩ | ⟨a, c', hvalue, hsend⟩
    · rw [hsend]
      exact ⟨_, c', rfl⟩
    · rw [hsend]
      rcases hfailed with ⟨e, he⟩ | ⟨a', ha', hshort⟩
      · rw [hvalue] at he
        cases he
      · rw [hvalue] at ha'
        cases ha'
        exact ⟨_, c', if_neg hshort⟩

/-- Rows that have been moved are still there. -/
theorem Holds.moved (h : g.Holds n rs A w p c) {p' : Policy} {c' : Client} (hprevious : p'.previous = p.previous)
    (hlong : p'.mode.long? = p.mode.long?) (hat : c'.At g.connection g.channel false g.format C S)
    (hlies : g.Lies p'.mode n A C S) : g.Holds n rs A w p' c' :=
  ⟨h.writes, h.totals, h.sent, h.gathered, hprevious.trans h.previous, hlong.trans h.long?, C, S, hat, hlies⟩

/-- No batch waits for its commit. -/
def Covers (n : Nat) (p : Policy) : Prop := ∀ k, p.mode = .perBatch k → k = n

/-- **Settling adds no rows**, and no batch waits for its commit then. -/
theorem Holds.settle (h : g.Holds n rs A w p c) :
    ∃ p' c', (p.settle w.progress).out c = ((.ok (), p'), c') ∧ g.Holds n rs A w p' c' ∧ Covers n p' := by
  obtain ⟨C, S, hat, hlies⟩ := h.lies
  have hbatches := h.totals.batches
  have hobserve : (p.observe w.progress).mode = p.mode := rfl
  cases hmode : p.mode with
  | autocommit =>
    refine ⟨_, c, Policy.out_settle_autocommit hmode w.progress c, h.moved rfl rfl hat hlies, ?_⟩
    rintro k hk
    rw [hobserve, hmode] at hk
    cases hk
  | longTransaction commitOnClose =>
    have hout : (p.settle w.progress).out c = ((.ok (), p.observe w.progress), c) := by
      simp only [Act.out, Policy.settle_of_long hmode]
    refine ⟨_, c, hout, h.moved rfl rfl hat hlies, ?_⟩
    rintro k hk
    rw [hobserve, hmode] at hk
    cases hk
  | perBatch k =>
    rw [Policy.out_settle_perBatch hmode, hbatches]
    rw [hmode] at hlies
    cases hlies with
    | settled hclean =>
      refine ⟨_, c, if_pos rfl, h.moved rfl rfl hat ?_, ?_⟩
      · rw [hobserve, hmode]
        exact .settled hclean
      · rintro k hk
        rw [hobserve, hmode] at hk
        cases hk
        rfl
    | @pending _ _ A B hk hclean hnew =>
      have hS := g.clean_emptied hclean k false
      obtain ⟨c', hcommit, hat'⟩ := hat.commit (Catalog.conflict?_stageIn hnew hS)
      have hpublish : (g.published A).publishAll ((g.emptied k false).stage g.schema.table B).staged =
          g.published (A.append B) :=
        (Catalog.publishAll_stageIn B _ hS).trans (Catalog.publish_publish _ _ A B)
      have hemptied : ((g.emptied k false).stage g.schema.table B).discard = g.emptied n false := by
        simp [emptied, Session.stage, Session.discard, show n ≠ 0 by omega]
      rw [hpublish, hemptied] at hat'
      rw [if_neg (by omega), hcommit]
      refine ⟨_, c', rfl, h.moved rfl (by rw [hmode]; rfl) hat' (.settled hclean), ?_⟩
      · rintro k hk
        cases hk
        rfl

/-! ## Runs -/

/-- Records that cannot be gathered are not gathered with others behind them. -/
theorem gather?_append_of_none (h : g.gather? rs = none) (rs' : List ρ) : g.gather? (rs ++ rs') = none := by
  rw [gather?, Catalog.gatherRecords?_append]
  rw [gather?] at h
  rw [h, Option.bind_none]

/-- **What settling and writing do to rows that have been added**: settling leaves them, and a batch is rejected only if
the rows of the records up to its last one cannot be gathered. -/
theorem upkeep (g : Ledger ρ) : Insert.Upkeep g.schema g.format (fun rs w p c => ∃ n A, g.Holds n rs A w p c)
    (fun rs w p c => ∃ n A, g.Holds n rs A w p c ∧ Covers n p) (fun rs _ _ _ => g.gather? rs = none) where
  settle := by
    rintro rs w p c ⟨n, A, h⟩
    obtain ⟨p', c', hsettle, h', hcovers⟩ := h.settle
    exact ⟨p', c', hsettle, n, A, h', hcovers⟩
  settled := by
    rintro rs w p c ⟨n, A, h, _⟩
    exact ⟨n, A, h⟩
  write := by
    rintro rs rs' w p c b ⟨n, A, h⟩ hb hrs
    rcases h.write hb hrs with ⟨B, w', c', hwrite, h'⟩ | ⟨hnone, e, c', hwrite⟩
    · exact Or.inl ⟨w', c', hwrite, _, _, h'⟩
    · exact Or.inr ⟨e, c', hwrite, hnone⟩

/-- The rows of the records can be added: each record can be written, and the rows can be gathered. -/
def Loads (g : Ledger ρ) (records : List ρ) : Prop :=
  (∃ A, g.gather? records = some A) ∧ ∃ lines, Lines g.format g.schema records lines

/-- **All stages of a sequential insert.** They succeed exactly when the rows of the records can be added, whatever the
threshold. -/
theorem Holds.drive (h : g.Holds 0 [] A w p c) (threshold : Nat) (records : List ρ) (taken : Nat) :
    (∃ n A w' p' taken' c', (Insert.drive (direct Client) (cutRecords g.schema g.format threshold records)).out
        ⟨w, p, taken⟩ c = ((.ok (), ⟨w', p', taken'⟩), c') ∧ g.Holds n records A w' p' c' ∧ Covers n p') ∨
    ¬ g.Loads records ∧ ∃ e j c', (Insert.drive (direct Client)
      (cutRecords g.schema g.format threshold records)).out ⟨w, p, taken⟩ c = ((.error e, j), c') := by
  rcases g.upkeep.drive ⟨0, A, h⟩ threshold records taken with
    ⟨w', p', taken', c', hdrive, n, A', h', hcovers⟩ | ⟨e, w', p', taken', c', hdrive, hcause⟩
  · exact Or.inl ⟨n, A', w', p', taken', c', hdrive, h', hcovers⟩
  refine Or.inr ⟨?_, e, _, c', hdrive⟩
  rintro ⟨⟨A, hA⟩, lines, hlines⟩
  rcases hcause with ⟨rs, ⟨rest, hrest⟩, hnone⟩ | ⟨⟨r, hr, cause, hcause⟩, _⟩
  · rw [← hrest, gather?_append_of_none hnone] at hA
    cases hA
  · obtain ⟨i, hi, rfl⟩ := mem_iff_getElem.mp hr
    have hline := hlines.get hi (by rw [← hlines.length_eq]; exact hi)
    rw [show records.get ⟨i, hi⟩ = records[i] from rfl, hcause] at hline
    cases hline

/-! ## The end of the insert -/

/-- The catalog and the session that an insert leaves behind the rows `A` of `n` batches, unless its commit fails. -/
def closed? (g : Ledger ρ) (n : Nat) (A : Rows) : Option (Catalog × Session) :=
  match g.long? with
  | none => some (g.published A, g.emptied n g.previous)
  | some true => (g.catalog.commit (g.staged n A)).toOption.map fun C => (C, { autocommit := g.previous })
  | some false => some (g.catalog, g.staged n A)

/-- Closing the policy of an insert that has added its rows. -/
theorem Lies.close (h : g.Lies p.mode n A C S) (hcovers : Covers n p) (hlong : p.mode.long? = g.long?)
    (hprevious : p.previous = g.previous) (hat : c.At g.connection g.channel true g.format C S) :
    (∃ C' S' c', g.closed? n A = some (C', S') ∧ (p.close .success).out c = ((.ok ()), c') ∧
      c'.At g.connection g.channel true g.format C' S') ∨
    g.closed? n A = none ∧ ∃ e c', (p.close .success).out c = (.error e, c') := by
  unfold closed?
  rw [← hlong, ← hprevious]
  cases hmode : p.mode with
  | autocommit =>
    rw [hmode] at h
    cases h with
    | committed hclean =>
      obtain ⟨c', hout, hat'⟩ := hat.switchTo p.previous (g.clean_emptied hclean n true)
      rw [Policy.out_close_success (by rw [hmode]; rfl)]
      exact Or.inl ⟨_, _, c', rfl, hout, hat'⟩
  | perBatch k =>
    rw [hmode] at h
    cases h with
    | settled hclean =>
      obtain ⟨c', hout, hat'⟩ := hat.switchTo p.previous (g.clean_emptied hclean n false)
      rw [Policy.out_close_success (by rw [hmode]; rfl)]
      exact Or.inl ⟨_, _, c', rfl, hout, hat'⟩
    | pending hk _ _ => exact absurd (hcovers k hmode) (by omega)
  | longTransaction commitOnClose =>
    rw [hmode] at h
    cases h with
    | staged hoff hempty =>
      cases commitOnClose with
      | false => exact Or.inl ⟨_, _, c, rfl, Policy.out_close_open hmode c, hat⟩
      | true =>
        rw [Policy.out_close_commit hmode]
        simp only [PolicyMode.long?]
        cases hconflict : g.catalog.conflict? (g.staged n A).staged with
        | some k =>
          obtain ⟨c', hcommit, _⟩ := hat.commit_of_conflict hconflict
          rw [hcommit]
          refine Or.inr ⟨by simp [Catalog.commit, hconflict, Except.toOption], ?_⟩
          simp only
          rcases (p.restoreLong).out _ with ⟨e | _, c'⟩
          · exact ⟨e, c', rfl⟩
          · exact ⟨_, c', rfl⟩
        | none =>
          obtain ⟨c', hcommit, hat'⟩ := hat.commit hconflict
          obtain ⟨c'', hrestore, hat''⟩ := hat'.restoreLong p (autocommit_staged hoff n A) (Session.clean_discard _)
          rw [hcommit]
          refine Or.inl ⟨g.catalog.publishAll (g.staged n A).staged, { autocommit := p.previous }, c'', ?_, hrestore,
            hat''⟩
          simp [Catalog.commit, hconflict, Except.toOption]

/-- **An insert that has got through all its stages** succeeds with its totals, unless its commit fails. -/
theorem Holds.finish (h : g.Holds n rs A w p c) (hcovers : Covers n p) (taken : Nat) :
    (∃ C S c', g.closed? n A = some (C, S) ∧
      Insert.finish (direct Client) ((.ok (), ⟨w, p, taken⟩), c) = (⟨.ok w.progress, taken⟩, c') ∧
      c'.At g.connection g.channel true g.format C S) ∨
    g.closed? n A = none ∧
      ∃ e c', Insert.finish (direct Client) ((.ok (), ⟨w, p, taken⟩), c) = (⟨.error e, taken⟩, c') := by
  obtain ⟨C, S, hat, hlies⟩ := h.lies
  obtain ⟨c₁, hchannel, hat₁⟩ := hat.closeChannel
  have hclose : (w.close).out c = ((.ok (), { w with closed := true }), c₁) :=
    ChannelWriter.out_close h.writes.running (by rw [h.writes.channel]; exact hchannel)
  rw [Insert.finish_direct, hclose]
  unfold Insert.conclude
  simp only [Except.bind, Insert.outcome]
  rcases Lies.close (p := p.observe w.progress) hlies hcovers h.long? h.previous hat₁ with
    ⟨C', S', c', hclosed, hout, hat'⟩ | ⟨hclosed, e, c', hout⟩
  · rw [hout]
    exact Or.inl ⟨C', S', c', hclosed, rfl, hat'⟩
  · rw [hout]
    exact Or.inr ⟨hclosed, e, c', rfl⟩

end Ledger

end BulkLoad
