import BulkLoad.Proofs.Insert.PerBatch
import BulkLoad.Proofs.Insert.Pipelining

/-!
# What a failed insert leaves behind

An insert with a transaction for each batch that fails for a rejected batch or a record leaves the rows of some batches
that were filled, and nothing of any other (`insertAll_stop`). How many they are depends on where it fails: a batch that
the database has accepted is committed before the next one of those that were filled is sent, but neither before the
last batch is flushed nor before a record is found that cannot be written.
-/

namespace BulkLoad

open List

variable {ρ : Type} {d : Database} {n : Nat}

/-! ## The start of an insert -/

namespace Client

/-- The client when an insert has opened its channel and acquired its policy. -/
def acquired (o : Options) (c : Client) : Client :=
  ((Policy.acquire o).out ((Target.openChannel : Act Client _).out c).2).2

end Client

/-- What stays the same in an insert on a connection. -/
def Insert.course (s : Schema ρ) (o : Options) (d : Database) (n : Nat) : Course where
  connection := n
  channel := d.channels.length
  format := (d.connection n).format
  header := statement (d.connection n).format s
  destination := Catalog.destination s
  reads := read?_statement (d.connection n).format s
  strict := o.errorOnMissingRow
  base := (Client.acquired o ⟨d, n⟩).database.catalog

/-- An insert whose policy has been acquired waits for its first batch. -/
theorem waiting_acquired (hd : d.Kept) (s : Schema ρ) {o : Options} (hlong : o.longTransaction = false)
    {channel : Nat} {c c' : Client} {p : Policy}
    (hopen : (Target.openChannel : Act Client _).out ⟨d, n⟩ = (.ok channel, c))
    (hacquire : (Policy.acquire o).out c = (.ok p, c')) :
    (Insert.course s o d n).Waiting [] (Insert.writer s o (d.connection n).format channel) p c' := by
  obtain ⟨rfl, hconnections, hat⟩ := Client.at_openChannel hopen
  obtain ⟨C, S, hat', hclean, hmode, hp, _⟩ := hat.acquire (hd.of_connections hconnections) hlong hacquire
  have hbase : (Insert.course s o d n).base = C := by
    show (Client.acquired o ⟨d, n⟩).database.catalog = C
    unfold Client.acquired
    rw [hopen, hacquire]
    exact hat'.catalog
  have hcommitted : (Insert.course s o d n).committed [] = [] := by
    unfold Course.committed
    split <;> rfl
  have hafter : (Insert.course s o d n).after [] = C := hbase
  refine ⟨⟨rfl, rfl, rfl, rfl, rfl⟩, hp, fun _ => trivial, S, ?_, fun _ => hclean, ?_, ?_⟩
  · rw [hcommitted, hafter]
    exact ⟨hmode, hat'⟩
  · exact Catalog.conflict?_of_clean hclean
  · rw [hcommitted, hafter]
    exact Catalog.publishAll_of_clean C hclean

/-! ## Where an insert stops -/

/-- The failures that are about a batch or a record. -/
def BulkError.IsStop : BulkError → Prop
  | .databaseWrite _ _ _ => True
  | .serialization _ => True
  | _ => False

/-- An insert that stops for a batch or a record has opened its channel and acquired its policy. -/
theorem BulkError.IsStop.started {s : Schema ρ} {o : Options} {records : List ρ} {e : BulkError} (he : e.IsStop)
    (hresult : ((insertAll s o records).out (Client.mk d n)).1.result = .error e) :
    ∃ channel c p c', (Target.openChannel : Act Client (Except DriverError Nat)).out ⟨d, n⟩ = (.ok channel, c) ∧
      (Policy.acquire o).out c = (.ok p, c') ∧
      (insertAll s o records).out (Client.mk d n) =
        Insert.load s o (d.connection n).format records channel p c' := by
  rw [out_insertAll] at hresult ⊢
  rcases hopen : (Target.openChannel : Act Client (Except DriverError Nat)).out ⟨d, n⟩ with ⟨source | channel, c⟩
  · rw [hopen] at hresult
    cases hresult
    exact absurd he id
  rw [hopen] at hresult
  simp only at hresult ⊢
  rcases hacquire : (Policy.acquire o).out c with ⟨e' | p, c'⟩
  · obtain ⟨source, rfl⟩ := Policy.transaction_of_acquire (congrArg Prod.fst hacquire)
    rw [hacquire] at hresult
    cases hresult
    exact absurd he id
  · exact ⟨channel, c, p, c', rfl, hacquire, rfl⟩

/-- A failed insert leaves batches of a cut: the first `m` of those that were filled are committed, no row of them has
been skipped where that counts, and nothing else is committed or staged. -/
structure Leaves (g : Course) (cut : Cut) (m : Nat) (final : Database) : Prop where
  catalog : final.catalog = g.after ((cut.filled.take m).map Filled.batch)
  noneSkipped : g.NoneSkipped ((cut.filled.take m).map Filled.batch)
  session : (final.session g.connection).Clean

/-- **Where a sequential insert stops, and what it leaves behind.** -/
theorem insertAll_stop (hd : d.Reachable) {s : Schema ρ} {o : Options} (hlong : o.longTransaction = false)
    (hsequential : o.concurrent = false) {records : List ρ} {e : BulkError} (he : e.IsStop)
    (hresult : ((insertAll s o records).out (Client.mk d n)).1.result = .error e) :
    ∃ m, Course.Stop (Insert.course s o d n) (Insert.cut s o (d.connection n).format records) e m ∧
      Leaves (Insert.course s o d n) (Insert.cut s o (d.connection n).format records) m
        ((insertAll s o records).out (Client.mk d n)).2.database := by
  obtain ⟨channel, c, p, c', hopen, hacquire, hout⟩ := he.started hresult
  have hwaiting := waiting_acquired hd.kept s hlong hopen hacquire
  rw [hout, Insert.load_of_sequential s hsequential] at hresult ⊢
  rcases hrun : (Insert.run s.table (direct Client) (Insert.writer s o (d.connection n).format channel) p
    (Insert.cut s o (d.connection n).format records)).out c' with ⟨⟨result, taken⟩, c''⟩
  rw [hrun] at hresult
  simp only at hresult
  subst hresult
  obtain ⟨m, hstop, hnone, S, hat, hclean⟩ := hwaiting.run (fun x hx => isEmpty_filled s _ _ records hx) s.table hrun
    (fun source hsource => by rw [hsource] at he; exact he) (fun source hsource => by rw [hsource] at he; exact he)
  refine ⟨m, hstop, hat.catalog, hnone, ?_⟩
  rw [hat.session]
  exact hclean

/-- A pipelined insert stops where the sequential one does, except that a record that cannot be written may hide the
rejection of the last batch. -/
theorem result_of_sequential (s : Schema ρ) (o : Options) (records : List ρ) (c : Client) :
    ((insertAll s o records).out c).2 = ((insertAll s { o with concurrent := false } records).out c).2 ∧
      (((insertAll s { o with concurrent := false } records).out c).1.result =
          ((insertAll s o records).out c).1.result ∨
        Insert.Masked (Insert.cut s o (Target.format c) records)
          ((insertAll s { o with concurrent := false } records).out c).1.result
          ((insertAll s o records).out c).1.result) :=
  sameEffect_of_sequential steady_client s o records (t := c) trivial

/-! ## What is durable -/

section Durable

variable {s : Schema ρ} {o : Options} {m : Nat} {cut : Cut} {final : Database}

/-- The committed rows are those at the start and those that the batches have added. -/
theorem Leaves.rows? (h : Leaves (Insert.course s o d n) cut m final) : final.rows? s.table =
    ((Client.acquired o ⟨d, n⟩).database.rows? s.table).map
      (· ++ (Client.acquired o ⟨d, n⟩).database.catalog.acceptedRows (d.connection n).format (Catalog.destination s)
        ((cut.filled.take m).map fun x => x.batch.bytes)) := by
  have hrows := Catalog.rows?_after (d.connection n).format (Catalog.destination s)
    ((cut.filled.take m).map fun x => x.batch.bytes) (Client.acquired o ⟨d, n⟩).database.catalog
  have hcatalog : final.catalog = (Client.acquired o ⟨d, n⟩).database.catalog.after (d.connection n).format
      (Catalog.destination s) ((cut.filled.take m).map fun x => x.batch.bytes) := by
    rw [h.catalog, Course.after, map_map]
    rfl
  rw [← hcatalog] at hrows
  exact hrows

/-- Where no row is skipped, the batches have added the rows of their records. -/
theorem Leaves.rowsOf {records : List ρ}
    (h : Leaves (Insert.course s o d n) (Insert.cut s o (d.connection n).format records) m final)
    (hstrict : o.errorOnMissingRow = true) :
    Forall₂ ((Client.acquired o ⟨d, n⟩).database.catalog.RowOf (d.connection n).format s)
      (records.take (recordCount ((Insert.cut s o (d.connection n).format records).filled.take m)))
      ((Client.acquired o ⟨d, n⟩).database.catalog.acceptedRows (d.connection n).format (Catalog.destination s)
        (((Insert.cut s o (d.connection n).format records).filled.take m).map fun x => x.batch.bytes)) := by
  obtain ⟨groups, hgroups, hflatten⟩ := carries_take s (d.connection n).format
    (o.effectiveBatchSize (d.connection n).format) records m
  have hbatches : Forall₂ (fun g (b : Batch) => b.Carries (d.connection n).format s g) groups
      (((Insert.cut s o (d.connection n).format records).filled.take m).map Filled.batch) :=
    forall₂_map_right_iff.mpr hgroups
  have hrows := Catalog.acceptedRows_of_full _ hbatches (h.noneSkipped hstrict)
  rw [map_map, hflatten] at hrows
  exact hrows

end Durable

/-- Where an insert stops that reports a rejected batch, and what it leaves behind. -/
theorem stop_of_rejected (hd : d.Reachable) {s : Schema ρ} {o : Options} {records : List ρ} {k : Nat}
    {progress : Progress} {source : DriverError} (hlong : o.longTransaction = false)
    (h : ((insertAll s o records).out (Client.mk d n)).1.result = .error (.databaseWrite k progress source)) :
    ∃ m, Course.Stop (Insert.course s o d n) (Insert.cut s o (d.connection n).format records)
        (.databaseWrite k progress source) m ∧
      Leaves (Insert.course s o d n) (Insert.cut s o (d.connection n).format records) m
        ((insertAll s o records).out (Client.mk d n)).2.database := by
  obtain ⟨hstate, hresult⟩ := result_of_sequential s o records ⟨d, n⟩
  rw [hstate]
  rw [h] at hresult
  rcases hresult with heq | ⟨_, _, _, _, _, hq⟩
  · exact insertAll_stop hd (o := { o with concurrent := false }) hlong rfl (e := .databaseWrite k progress source)
      trivial heq
  · cases hq

/-- The rejection of the last batch that was filled leaves what a record behind it leaves. -/
theorem Leaves.of_rejected_last {s : Schema ρ} {o : Options} {records : List ρ} {e : BulkError} {m : Nat}
    {final : Database} {se : SerializationError}
    (hending : (Insert.cut s o (d.connection n).format records).ending = .failed se)
    (hrejects : Insert.Rejects (Insert.cut s o (d.connection n).format records).filled e)
    (hstop : Course.Stop (Insert.course s o d n) (Insert.cut s o (d.connection n).format records) e m)
    (h : Leaves (Insert.course s o d n) (Insert.cut s o (d.connection n).format records) m final) :
    Leaves (Insert.course s o d n) (Insert.cut s o (d.connection n).format records)
      ((Insert.cut s o (d.connection n).format records).filled.length - o.errorOnMissingRow.toNat) final := by
  obtain ⟨f, progress, source, hlast, rfl⟩ := hrejects
  rw [getLast?_eq_getElem?] at hlast
  have hlength := (List.getElem?_eq_some_iff.mp hlast).1
  have hseq : f.batch.seq = _ + 1 := seq_filled s _ _ records hlast
  generalize f.batch.seq = k at hstop hseq
  cases hstop with
  | @rest b _ _ hrest _ =>
    rw [hending] at hrest
    cases hrest
  | @batch _ x _ _ hx _ hlax =>
    have hseq' : x.batch.seq = m + 1 := seq_filled s _ _ records hx
    have hm : m + 1 = (Insert.cut s o (d.connection n).format records).filled.length := by omega
    cases hstrict : o.errorOnMissingRow with
    | true =>
      rw [← hm]
      exact h
    | false =>
      rw [← hm]
      refine ⟨h.catalog.trans (hlax hstrict).symm, fun hs => ?_, h.session⟩
      change o.errorOnMissingRow = true at hs
      rw [hstrict] at hs
      cases hs

/-- Where an insert stops that reports a record, and what it leaves behind. -/
theorem stop_of_failed_record (hd : d.Reachable) {s : Schema ρ} {o : Options} {records : List ρ}
    {e : SerializationError} (hlong : o.longTransaction = false)
    (h : ((insertAll s o records).out (Client.mk d n)).1.result = .error (.serialization e)) :
    (Insert.cut s o (d.connection n).format records).ending = .failed e ∧
      Leaves (Insert.course s o d n) (Insert.cut s o (d.connection n).format records)
        ((Insert.cut s o (d.connection n).format records).filled.length - o.errorOnMissingRow.toNat)
        ((insertAll s o records).out (Client.mk d n)).2.database := by
  obtain ⟨hstate, hresult⟩ := result_of_sequential s o records ⟨d, n⟩
  rw [hstate]
  rw [h] at hresult
  rcases hresult with heq | ⟨e', se, hending, hrejects, hsequential, hq⟩
  · obtain ⟨m, hstop, hleaves⟩ := insertAll_stop hd (o := { o with concurrent := false }) hlong rfl
      (e := .serialization e) trivial heq
    cases hstop with
    | record hending => exact ⟨hending, hleaves⟩
  · cases hq
    have he : e'.IsStop := by
      obtain ⟨f, progress, source, _, rfl⟩ := hrejects
      exact trivial
    obtain ⟨m, hstop, hleaves⟩ := insertAll_stop hd (o := { o with concurrent := false }) hlong rfl he hsequential
    exact ⟨hending, Leaves.of_rejected_last hending hrejects hstop hleaves⟩

/-! ### A table of numbers -/

/-- A table whose rows are different numbers. -/
def numberTable : TableDef := { name := "t", columns := [⟨"id", .int, false⟩], primaryKey := some "id" }

/-- A database with an empty table of numbers, and a connection to it. -/
def numberDatabase : Database := (Database.Op.connect .copy true).apply ((Database.Op.createTable numberTable).apply {})

theorem reachable_numberDatabase : numberDatabase.Reachable :=
  .step (.connect .copy true) (.step (.createTable numberTable) .initial)

/-- Batches of two numbers each, for which skipped rows count as failures. -/
def twoNumbers : Options := { batchSize := some 3, errorOnMissingRow := true, concurrent := false }

/-- The refusal of a second ten. -/
def secondTen : DriverError where
  kind := .constraintViolation
  code := some "23505"
  message := "line 1: duplicate primary key Int(10) in `t`"

/-! ### Rejected batches -/

/-- **Which rows are durable when a batch is rejected.** An insert with a transaction for each batch, for which skipped
rows count as failures, counts the batches before the rejected one as written, stages nothing and leaves the rows of
whole batches behind those that were committed when it acquired its policy: of all batches before the rejected one, if
that one was filled, but without the one before it, if it is the last batch, which is flushed before the one before it
has been committed. -/
theorem rows_of_rejected_batch (hd : d.Reachable) (n : Nat) (s : Schema ρ) {o : Options} (records : List ρ) {k : Nat}
    {progress : Progress} {source : DriverError} (hlong : o.longTransaction = false)
    (hstrict : o.errorOnMissingRow = true)
    (h : (insertAll s o records (Client.mk d n)).value.result = .error (.databaseWrite k progress source)) :
    let final := (insertAll s o records (Client.mk d n)).state.database
    let acquired := (Client.acquired o ⟨d, n⟩).database
    let cut := Insert.cut s o (d.connection n).format records
    let durable := if k ≤ cut.filled.length then k - 1 else k - 2
    progress.batches = k - 1 ∧ (final.session n).inTransaction = false ∧
      ∃ rows, Forall₂ (acquired.catalog.RowOf (d.connection n).format s)
          (records.take (recordCount (cut.filled.take durable))) rows ∧
        final.rows? s.table = (acquired.rows? s.table).map (· ++ rows) := by
  intro final acquired cut durable
  change ((insertAll s o records).out (Client.mk d n)).1.result = _ at h
  obtain ⟨m, hstop, hleaves⟩ := stop_of_rejected hd hlong h
  have hm : progress.batches = k - 1 ∧ m = durable := by
    cases hstop with
    | @batch _ x _ _ hx hbatches _ =>
      have hseq : x.batch.seq = m + 1 := seq_filled s _ _ records hx
      have hlt : m + 1 ≤ cut.filled.length := (List.getElem?_eq_some_iff.mp hx).1
      show _ ∧ m = if _ then _ else _
      rw [hseq, if_pos hlt]
      exact ⟨hbatches, rfl⟩
    | @rest b _ _ hending hbatches =>
      have hseq : b.seq = cut.filled.length + 1 := by
        have hnext : cut.ending.seq = cut.filled.length + 1 := seq_ending s _ _ records
        rw [show cut.ending = .rest b from hending] at hnext
        exact hnext
      have hlt : ¬ cut.filled.length + 1 ≤ cut.filled.length := Nat.not_succ_le_self _
      show _ ∧ cut.filled.length - o.errorOnMissingRow.toNat = if _ then _ else _
      rw [hseq, if_neg hlt, hstrict]
      exact ⟨hbatches, rfl⟩
  obtain ⟨hbatches, rfl⟩ := hm
  exact ⟨hbatches, hleaves.session.inTransaction, _, hleaves.rowsOf hstrict, hleaves.rows?⟩

/-- When the second of two batches that were filled is rejected, the first one is durable. -/
theorem rows_of_rejected_batch_filled :
    let records := [some 10, some 11, some 10, some 12]
    let result := insertAll numberSchema twoNumbers records (Client.mk numberDatabase 0)
    let final := result.state.database
    let acquired := (Client.acquired twoNumbers ⟨numberDatabase, 0⟩).database
    let cut := Insert.cut numberSchema twoNumbers .copy records
    result.value.result = .error (.databaseWrite 2 ⟨1, 2, 6, 2⟩ secondTen) ∧
      (final.session 0).inTransaction = false ∧
      ∃ rows, Forall₂ (acquired.catalog.RowOf .copy numberSchema)
          (records.take (recordCount (cut.filled.take (if 2 ≤ cut.filled.length then 2 - 1 else 2 - 2)))) rows ∧
        final.rows? "t" = (acquired.rows? "t").map (· ++ rows) := by
  intro records result final acquired cut
  have hresult : result.value.result = .error (.databaseWrite 2 ⟨1, 2, 6, 2⟩ secondTen) := by decide +kernel
  exact ⟨hresult, (rows_of_rejected_batch reachable_numberDatabase 0 numberSchema records rfl rfl hresult).2⟩

/-- When the batch that is flushed is rejected, the batch before it is lost: its two rows are not committed. -/
theorem not_rows_of_flushed_batch :
    let records := [some 10, some 11, some 10]
    let result := insertAll numberSchema twoNumbers records (Client.mk numberDatabase 0)
    let final := result.state.database
    let acquired := (Client.acquired twoNumbers ⟨numberDatabase, 0⟩).database
    let cut := Insert.cut numberSchema twoNumbers .copy records
    result.value.result = .error (.databaseWrite 2 ⟨1, 2, 6, 2⟩ secondTen) ∧
      ¬ ∃ rows, Forall₂ (acquired.catalog.RowOf .copy numberSchema)
          (records.take (recordCount (cut.filled.take (2 - 1)))) rows ∧
        final.rows? "t" = (acquired.rows? "t").map (· ++ rows) := by
  intro records result final acquired cut
  have hresult : result.value.result = .error (.databaseWrite 2 ⟨1, 2, 6, 2⟩ secondTen) := by decide +kernel
  have hfinal : final.rows? "t" = some [] := by decide +kernel
  have hacquired : acquired.rows? "t" = some [] := by decide +kernel
  have hrecords : (records.take (recordCount (cut.filled.take (2 - 1)))).length = 2 := by decide +kernel
  refine ⟨hresult, ?_⟩
  rintro ⟨rows, hall, hrows⟩
  rw [hfinal, hacquired, Option.map_some, nil_append] at hrows
  have hlength := hall.length_eq
  rw [hrecords, ← Option.some.inj hrows] at hlength
  cases hlength

/-! ### Records that cannot be written -/

/-- **Which rows are durable when a record cannot be written.** The batch under construction is the one behind those
that were filled. An insert with a transaction for each batch stages nothing and leaves the rows that the database has
accepted from the batches that were filled behind those that were committed when it acquired its policy, but without
the last of these batches, if skipped rows count as failures: this one has not been committed yet. -/
theorem rows_of_failed_record (hd : d.Reachable) (n : Nat) (s : Schema ρ) {o : Options} (records : List ρ)
    {e : SerializationError} (hlong : o.longTransaction = false)
    (h : (insertAll s o records (Client.mk d n)).value.result = .error (.serialization e)) :
    let final := (insertAll s o records (Client.mk d n)).state.database
    let acquired := (Client.acquired o ⟨d, n⟩).database
    let cut := Insert.cut s o (d.connection n).format records
    let durable := if o.errorOnMissingRow then e.batch - 2 else e.batch - 1
    e.batch = cut.filled.length + 1 ∧ (final.session n).inTransaction = false ∧
      final.rows? s.table = (acquired.rows? s.table).map
        (· ++ acquired.catalog.acceptedRows (d.connection n).format (Catalog.destination s)
          ((cut.filled.take durable).map fun x => x.batch.bytes)) := by
  intro final acquired cut durable
  change ((insertAll s o records).out (Client.mk d n)).1.result = _ at h
  obtain ⟨hending, hleaves⟩ := stop_of_failed_record hd hlong h
  have hbatch : e.batch = cut.filled.length + 1 := by
    have hnext : cut.ending.seq = cut.filled.length + 1 := seq_ending s _ _ records
    rw [show cut.ending = .failed e from hending] at hnext
    exact hnext
  have hdurable : durable = cut.filled.length - o.errorOnMissingRow.toNat := by
    show (if o.errorOnMissingRow then e.batch - 2 else e.batch - 1) = _
    rw [hbatch]
    cases o.errorOnMissingRow <;> rfl
  rw [hdurable]
  exact ⟨hbatch, hleaves.session.inTransaction, hleaves.rows?⟩

/-- Where the database commits every statement, all batches before the record are durable. -/
theorem rows_of_failed_record_lax :
    let records := [some 10, some 11, none]
    let o : Options := { twoNumbers with errorOnMissingRow := false }
    let result := insertAll numberSchema o records (Client.mk numberDatabase 0)
    let final := result.state.database
    let acquired := (Client.acquired o ⟨numberDatabase, 0⟩).database
    let cut := Insert.cut numberSchema o .copy records
    result.value.result = .error (.serialization ⟨2, 0, "id", .rejected "no id"⟩) ∧
      2 = cut.filled.length + 1 ∧ (final.session 0).inTransaction = false ∧
      final.rows? "t" = (acquired.rows? "t").map
        (· ++ acquired.catalog.acceptedRows .copy (Catalog.destination numberSchema)
          ((cut.filled.take (2 - 1)).map fun x => x.batch.bytes)) := by
  intro records o result final acquired cut
  have hresult : result.value.result = .error (.serialization ⟨2, 0, "id", .rejected "no id"⟩) := by decide +kernel
  exact ⟨hresult, rows_of_failed_record reachable_numberDatabase 0 numberSchema records rfl hresult⟩

/-- Where skipped rows count as failures, the batch before the record is lost. -/
theorem not_rows_of_failed_record :
    let records := [some 10, some 11, none]
    let result := insertAll numberSchema twoNumbers records (Client.mk numberDatabase 0)
    let final := result.state.database
    let acquired := (Client.acquired twoNumbers ⟨numberDatabase, 0⟩).database
    let cut := Insert.cut numberSchema twoNumbers .copy records
    result.value.result = .error (.serialization ⟨2, 0, "id", .rejected "no id"⟩) ∧
      ¬ final.rows? "t" = (acquired.rows? "t").map
        (· ++ acquired.catalog.acceptedRows .copy (Catalog.destination numberSchema)
          ((cut.filled.take (2 - 1)).map fun x => x.batch.bytes)) := by
  intro records result final acquired cut
  exact ⟨by decide +kernel, by decide +kernel⟩

end BulkLoad
