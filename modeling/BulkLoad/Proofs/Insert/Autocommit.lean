import BulkLoad.Proofs.Database.Declared
import BulkLoad.Proofs.Insert.Added
import BulkLoad.Proofs.Insert.Threshold

/-!
# Inserts under plain autocommit

When the database commits every statement and skipped rows are no failures, an insert under way has committed all batches
that have been accepted, and its totals are those of these batches (`Course.Accounts`). A batch that is rejected leaves
all of this as it is (`Accounts.write`), and so does the end of the insert (`Accounts.finish`).

`autocommit_keeps_accepted_batches`: an insert that reports a rejected batch leaves exactly the rows that were accepted
from the batches before it, and reports their totals.
-/

namespace BulkLoad

open List

/-- The totals of batches that have added a number of rows. -/
def Progress.over (bs : List Batch) (rows : Nat) : Progress where
  batches := bs.length
  records := (bs.map Batch.records).sum
  bytes := (bs.map Batch.size).sum
  rowsAffected := rows

theorem Progress.over_concat (bs : List Batch) (b : Batch) (m rows : Nat) :
    Progress.over (bs ++ [b]) (m + rows) = (Progress.over bs m).record b rows := by
  simp [Progress.over, Progress.record]

namespace Course

variable {g : Course} {on : Bool} {bs : List Batch} {w : ChannelWriter Nat} {p : Policy} {c : Client}

/-- The rows that batches have added. -/
def rows (g : Course) (bs : List Batch) : List Row := g.base.acceptedRows g.format g.destination (bs.map Batch.bytes)

theorem rows_concat (bs : List Batch) (b : Batch) :
    g.rows (bs ++ [b]) = g.rows bs ++ (g.accepted (g.after bs) b).rows := by
  unfold rows
  rw [map_append, map_singleton, Catalog.acceptedRows_concat]
  rfl

/-- The batches have been accepted and committed, and the totals are theirs. The connection was found in the mode
`on`. -/
structure Accounts (g : Course) (on : Bool) (bs : List Batch) (w : ChannelWriter Nat) (p : Policy) (c : Client) : Prop
    extends g.Settled bs w p c where
  totals : w.progress = .over bs (g.rows bs).length
  runs : g.base.Runs g.format g.destination bs
  previous : p.previous = on

/-! ## Steps -/

/-- There is nothing to settle. -/
theorem Accounts.settle (h : g.Accounts on bs w p c) (hlax : g.strict = false) :
    ∃ p', (p.settle w.progress).out c = ((.ok (), p'), c) ∧ g.Accounts on bs w p' c := by
  have hmode : p.mode = .autocommit := by rw [h.mode, mode_of_lax hlax]
  exact ⟨_, Policy.out_settle_autocommit hmode w.progress c,
    ⟨⟨h.writes, h.mode, h.noneSkipped, h.session⟩, h.totals, h.runs, h.previous⟩⟩

/-- **A batch is accepted, or it leaves everything as it is.** -/
theorem Accounts.write (h : g.Accounts on bs w p c) (hlax : g.strict = false) {b : Batch} (hb : b.isEmpty = false) :
    (∃ w' c', (w.write b).out c = ((.written, w'), c') ∧ g.Accounts on (bs ++ [b]) w' p c') ∨
    ∃ source c', (w.write b).out c = ((.failed (w.rejected b source), w), c') ∧ g.Accounts on bs w p c' := by
  obtain ⟨S, ⟨hauto, hat⟩, hclean⟩ := h.session
  rw [ChannelWriter.out_write, if_neg (by rw [hb]; exact Bool.false_ne_true), h.writes.channel, h.writes.header,
    h.writes.strict, hlax]
  rcases hat.send_of_clean hclean g.reads b.bytes with ⟨e, c', hsend, hat', _⟩ |
    ⟨skipped, c', C', S', hsend, hat', hauto', hcommitted, _⟩
  · rw [hsend]
    exact Or.inr ⟨e, c', rfl, ⟨⟨h.writes, h.mode, h.noneSkipped, S, ⟨hauto, hat'⟩, hclean⟩, h.totals, h.runs,
      h.previous⟩⟩
  -- The statement has run, and its rows are committed.
  rw [hauto, hlax] at hcommitted hauto'
  obtain ⟨rfl, hclean'⟩ := hcommitted rfl
  have hruns : ∃ a, ((g.after bs).load {} g.format g.destination b.bytes).value = .ok a := by
    rcases hat.send_answer g.reads b.bytes with ⟨e, _, hrefused⟩ | ⟨a, _, hvalue, _⟩
    · rw [hsend] at hrefused
      cases hrefused
    · rw [Catalog.value_load_congr (Catalog.visibleKeys_of_clean hclean)] at hvalue
      exact ⟨a, hvalue⟩
  obtain ⟨a, ha⟩ := hruns
  have hsees : g.Sees (g.after (bs ++ [b])) S' c' := by
    rw [after_concat]
    exact ⟨by rw [hauto', hlax], hat'⟩
  have hsettled := (h.toSettled.accept_of_lax hlax hsees hclean' (g.accepted (g.after bs) b).count).settled_of_lax hlax
  rw [hsend]
  refine Or.inl ⟨_, c', if_pos (Or.inr rfl), hsettled, ?_, h.runs.concat ha, h.previous⟩
  rw [rows_concat, length_append, Progress.over_concat, ← h.totals]
  rfl

/-! ## Runs -/

/-- **The batches that were filled** are all accepted, or one is rejected behind those before it. -/
theorem Accounts.feed (h : g.Accounts on bs w p c) (hlax : g.strict = false) {fs : List Filled} (n : Nat)
    (hne : ∀ x ∈ fs, x.batch.isEmpty = false) :
    (∃ w' p' n' c', (Insert.feed (direct Client) fs).out ⟨w, p, n⟩ c = ((.ok (), ⟨w', p', n'⟩), c') ∧
      g.Accounts on (bs ++ fs.map Filled.batch) w' p' c') ∨
    ∃ i x e w' p' n' c', fs[i]? = some x ∧
      (Insert.feed (direct Client) fs).out ⟨w, p, n⟩ c = ((.error e, ⟨w', p', n'⟩), c') ∧
      (∃ source, e = w'.rejected x.batch source) ∧ g.Accounts on (bs ++ (fs.take i).map Filled.batch) w' p' c' := by
  have hadvances : Insert.Advances (g.Accounts on) fun bs b e w p c =>
      (∃ source, e = w.rejected b source) ∧ g.Accounts on bs w p c := by
    intro bs w p c b h hb
    obtain ⟨p', hsettle, h'⟩ := h.settle hlax
    refine ⟨p', c, hsettle, (h'.write hlax hb).imp_right ?_⟩
    rintro ⟨source, c', hwrite, hrejected⟩
    exact ⟨_, c', hwrite, ⟨source, rfl⟩, hrejected⟩
  exact hadvances.feed n h hne

/-- **The end of the payload** fails for a record that cannot be written, or for the last batch. -/
theorem Accounts.finale (h : g.Accounts on bs w p c) (hlax : g.strict = false) (ending : Ending) (n : Nat)
    {e : BulkError} {w' : ChannelWriter Nat} {p' : Policy} {n' : Nat} {c' : Client}
    (hout : (Insert.finale (direct Client) ending).out ⟨w, p, n⟩ c = ((.error e, ⟨w', p', n'⟩), c')) :
    (∃ se, e = .serialization se) ∨
      ∃ b source, ending = .rest b ∧ b.isEmpty = false ∧ e = w'.rejected b source ∧ g.Accounts on bs w' p' c' := by
  -- Behind the last batch nothing fails.
  have hlast {bs : List Batch} {w : ChannelWriter Nat} {c : Client} (h : g.Accounts on bs w p c) :
      ∃ p', (do Insert.wait (direct Client); Insert.settle (direct Client) : Stage (ChannelWriter Nat) Client Unit).out
        ⟨w, p, n⟩ c = ((.ok (), ⟨w, p', n⟩), c) := by
    obtain ⟨p', hsettle, _⟩ := h.settle hlax
    rw [Stage.out_bind_of_ok Insert.out_wait_direct, Insert.out_settle_direct hsettle]
    exact ⟨p', rfl⟩
  cases ending with
  | failed se =>
    cases hout
    exact Or.inl ⟨se, rfl⟩
  | rest b =>
    rw [Insert.out_rest] at hout
    by_cases hb : b.isEmpty = true
    · obtain ⟨_, hend⟩ := hlast h
      rw [if_pos hb, hend] at hout
      cases hout
    rw [if_neg hb] at hout
    have hb := Bool.eq_false_iff.mpr hb
    rcases h.write hlax hb with ⟨w₁, c₁, hwrite, haccepted⟩ | ⟨source, c₁, hwrite, hrejected⟩
    · obtain ⟨_, hend⟩ := hlast haccepted
      rw [Stage.out_bind_of_ok (Insert.out_write_direct hwrite), hend] at hout
      cases hout
    · rw [Stage.out_bind_of_error (Insert.out_write_direct hwrite)] at hout
      cases hout
      exact Or.inr ⟨b, source, rfl, hb, rfl, hrejected⟩

/-- **All stages of a sequential insert**: one that fails has met a record that cannot be written, or a batch that is
rejected behind all batches before it. -/
theorem Accounts.drive (h : g.Accounts on [] w p c) (hlax : g.strict = false) {cut : Cut}
    (hne : ∀ x ∈ cut.filled, x.batch.isEmpty = false) (n : Nat) {e : BulkError} {w' : ChannelWriter Nat} {p' : Policy}
    {n' : Nat} {c' : Client}
    (hout : (Insert.drive (direct Client) cut).out ⟨w, p, n⟩ c = ((.error e, ⟨w', p', n'⟩), c')) :
    (∃ se, e = .serialization se) ∨
      ∃ i b source, cut.batches[i]? = some b ∧ e = w'.rejected b source ∧
        g.Accounts on (cut.batches.take i) w' p' c' := by
  rw [Insert.out_drive] at hout
  rcases h.feed hlax n hne with
    ⟨w₁, p₁, n₁, c₁, hfeed, hall⟩ | ⟨i, x, _, w₁, p₁, n₁, c₁, hx, hfeed, ⟨source, rfl⟩, hrejected⟩
  · rw [Stage.out_bind_of_ok hfeed, Stage.out_bind_of_ok (Insert.out_reach cut.taken)] at hout
    rw [nil_append] at hall
    rcases hall.finale hlax cut.ending cut.taken hout with hrecord | ⟨b, source, hending, hb, he, hrejected⟩
    · exact Or.inl hrecord
    refine Or.inr ⟨cut.filled.length, b, source, ?_, he, ?_⟩
    · unfold Cut.batches
      rw [hending, getElem?_append_right (Nat.le_of_eq (length_map _)), length_map, Nat.sub_self]
      simp [hb]
    · rw [Cut.take_batches (Nat.le_refl _), take_length]
      exact hrejected
  · rw [Stage.out_bind_of_error hfeed] at hout
    cases hout
    rw [nil_append] at hrejected
    have hi := (List.getElem?_eq_some_iff.mp hx).1
    refine Or.inr ⟨i, x.batch, source, ?_, rfl, ?_⟩
    · unfold Cut.batches
      rw [getElem?_append_left (by rw [length_map]; exact hi), getElem?_map, hx]
      rfl
    · rw [Cut.take_batches (Nat.le_of_lt hi)]
      exact hrejected

/-- **An insert that has failed** leaves the batches that are committed and nothing else, and gives the connection its
mode back. -/
theorem Accounts.finish (h : g.Accounts on bs w p c) (e : BulkError) (n : Nat) :
    ∃ c', Insert.finish (direct Client) ((.error e, ⟨w, p, n⟩), c) = (⟨.error e, n⟩, c') ∧
      ∃ S, c'.At g.connection g.channel true g.format (g.after bs) S ∧ S.Clean ∧ S.autocommit = on := by
  obtain ⟨S, hsees, hclean⟩ := h.session
  have hfinish := (h.toSettled.stop hsees fun _ => hclean).finish e n
  rw [h.previous] at hfinish
  exact hfinish

/-- What an insert leaves when the batch behind `bs` has been rejected: the totals and the committed rows of the batches
`bs`, nothing that is staged, and the mode `on`. -/
structure Keeps (g : Course) (on : Bool) (bs : List Batch) (progress : Progress) (c : Client) : Prop where
  totals : progress = .over bs (g.rows bs).length
  runs : g.base.Runs g.format g.destination bs
  session : ∃ S, c.At g.connection g.channel true g.format (g.after bs) S ∧ S.Clean ∧ S.autocommit = on

/-- **A sequential insert that reports a rejected batch** keeps the batches before it. -/
theorem Accounts.run (h : g.Accounts on [] w p c) (hlax : g.strict = false) {cut : Cut}
    (hne : ∀ x ∈ cut.filled, x.batch.isEmpty = false) (table : String) {k : Nat} {progress : Progress}
    {source : DriverError}
    (hresult : ((Insert.run table (direct Client) w p cut).out c).1.result =
      .error (.databaseWrite k progress source)) :
    ∃ i b, cut.batches[i]? = some b ∧ b.seq = k ∧
      g.Keeps on (cut.batches.take i) progress ((Insert.run table (direct Client) w p cut).out c).2 := by
  rw [Insert.out_run] at hresult ⊢
  rcases hdrive : (Insert.drive (direct Client) cut).out ⟨w, p, 0⟩ c with ⟨⟨e | _, w₁, p₁, n₁⟩, c₁⟩
  · rw [hdrive] at hresult
    rcases h.drive hlax hne 0 hdrive with ⟨se, rfl⟩ | ⟨i, b, source', hb, rfl, hrejected⟩
    · rw [Insert.finish_direct] at hresult
      cases hresult
    · obtain ⟨c₂, hfinish, hsession⟩ := hrejected.finish (w₁.rejected b source') n₁
      rw [hfinish] at hresult ⊢
      cases hresult
      exact ⟨i, b, hb, rfl, hrejected.totals, hrejected.runs, hsession⟩
  · rw [hdrive, Insert.finish_direct] at hresult
    rcases Insert.error_of_conclude hresult with ⟨_, he⟩ | hclosed
    · cases he
    · obtain ⟨_, he⟩ := ChannelWriter.channelClose_of_close hclosed
      cases he

end Course

/-! ## Whole inserts -/

variable {ρ : Type} {d : Database} {n : Nat} {s : Schema ρ} {o : Options}

/-- An insert whose policy has been acquired has committed no batch. -/
theorem accounts_acquired (hd : d.Kept) (s : Schema ρ) (hlong : o.longTransaction = false)
    (hlax : o.errorOnMissingRow = false) {channel : Nat} {c c' : Client} {p : Policy}
    (hopen : (Target.openChannel : Act Client _).out ⟨d, n⟩ = (.ok channel, c))
    (hacquire : (Policy.acquire o).out c = (.ok p, c')) :
    (Insert.course s o d n).Accounts (d.session n).autocommit [] (Insert.writer s o (d.connection n).format channel)
      p c' := by
  have hsettled := (waiting_acquired hd s hlong hopen hacquire).settled_of_lax hlax
  obtain ⟨_, _, hat⟩ := Client.at_openChannel hopen
  have hfound : Target.autocommit c = (d.session n).autocommit := by
    rw [← hat.session, ← hat.number]
    rfl
  exact ⟨hsettled, rfl, trivial, (Policy.acquired_of_acquire hacquire).1.trans hfound⟩

/-- What an insert leaves that reports a rejected batch, whether it is pipelined or not. -/
theorem insertAll_keeps (hd : d.Kept) (hlong : o.longTransaction = false) (hlax : o.errorOnMissingRow = false)
    {records : List ρ} {k : Nat} {progress : Progress} {source : DriverError}
    (hresult : ((insertAll s o records).out (Client.mk d n)).1.result = .error (.databaseWrite k progress source)) :
    ∃ i b, (Insert.cut s o (d.connection n).format records).batches[i]? = some b ∧ b.seq = k ∧
      (Insert.course s o d n).Keeps (d.session n).autocommit
        ((Insert.cut s o (d.connection n).format records).batches.take i) progress
        ((insertAll s o records).out (Client.mk d n)).2 := by
  -- The sequential insert reports the same batch, since only a record can hide it.
  obtain ⟨hstate, hsame⟩ := result_of_sequential s o records ⟨d, n⟩
  rw [hstate]
  rw [hresult] at hsame
  rcases hsame with hsequential | ⟨_, _, _, _, _, hq⟩
  · obtain ⟨channel, c, p, c', hopen, hacquire, hout⟩ :=
      BulkError.IsStop.started (e := .databaseWrite k progress source) trivial hsequential
    rw [hout, Insert.load_of_sequential s rfl] at hsequential ⊢
    exact (accounts_acquired hd s hlong hlax hopen hacquire).run hlax (fun x hx => isEmpty_filled s _ _ records hx)
      s.table hsequential
  · cases hq

/-- The rows of the batches that are kept are those of the records that come first, under `load-data` without those that
were skipped. -/
theorem Course.Keeps.taken {on : Bool} {records : List ρ} {i : Nat} {progress : Progress} {c : Client}
    (h : (Insert.course s o d n).Keeps on ((Insert.cut s o (d.connection n).format records).batches.take i) progress c)
    (hi : i < (Insert.cut s o (d.connection n).format records).batches.length) :
    ∃ kept, kept <+ records.take progress.records ∧
      ((d.connection n).format = .copy → kept = records.take progress.records) ∧
      Forall₂ ((Client.acquired o ⟨d, n⟩).database.catalog.RowOf (d.connection n).format s) kept
        ((Insert.course s o d n).rows ((Insert.cut s o (d.connection n).format records).batches.take i)) := by
  obtain ⟨htotals, hruns, _⟩ := h
  have hfilled := Cut.take_batches (Nat.le_of_lt_succ (Nat.lt_of_lt_of_le hi (Cut.length_batches _)))
  rw [hfilled] at htotals hruns ⊢
  obtain ⟨groups, hgroups, hflatten⟩ :=
    carries_take s (d.connection n).format (o.effectiveBatchSize (d.connection n).format) records i
  have hcount : progress.records = recordCount ((Insert.cut s o (d.connection n).format records).filled.take i) := by
    rw [htotals, Progress.over, map_map]
    rfl
  have hne : ∀ b ∈ ((Insert.cut s o (d.connection n).format records).filled.take i).map Filled.batch,
      b.isEmpty = false := by
    intro b hb
    obtain ⟨x, hx, rfl⟩ := mem_map.mp hb
    exact isEmpty_filled s _ _ records (mem_of_mem_take hx)
  have hkept := Catalog.acceptedRows_of_runs _ (forall₂_map_right_iff.mpr hgroups) hne hruns
  rw [hcount]
  rw [hflatten] at hkept
  exact hkept

/-- **Plain autocommit leaves exactly the batches that were accepted.** When an insert for which the database commits
every statement reports batch `k` as rejected, the rows that were accepted from the batches before it are committed, in
order, behind those that were committed when the insert acquired its policy, which publishes all that the connection had
staged. Nothing is staged, the connection has its mode back, and the totals are those of the batches before. The accepted
rows are those of their records, under `load-data` without those that were skipped. -/
theorem autocommit_keeps_accepted_batches (hd : d.Reachable) (n : Nat) (s : Schema ρ) {o : Options} (records : List ρ)
    {k : Nat} {progress : Progress} {source : DriverError} (hlong : o.longTransaction = false)
    (hlax : o.errorOnMissingRow = false)
    (h : (insertAll s o records (Client.mk d n)).value.result = .error (.databaseWrite k progress source)) :
    let final := (insertAll s o records (Client.mk d n)).state.database
    let acquired := (Client.acquired o ⟨d, n⟩).database
    let format := (d.connection n).format
    let before := (Insert.cut s o format records).batches.take (k - 1)
    let rows := acquired.catalog.acceptedRows format (Catalog.destination s) (before.map Batch.bytes)
    acquired.catalog = d.catalog.publishAll (d.session n).staged ∧
      final.rows? s.table = (acquired.rows? s.table).map (· ++ rows) ∧
      (final.session n).inTransaction = false ∧ (final.session n).autocommit = (d.session n).autocommit ∧
      k = before.length + 1 ∧ progress = .over before rows.length ∧
      ∃ kept, kept <+ records.take progress.records ∧ (format = .copy → kept = records.take progress.records) ∧
        Forall₂ (acquired.catalog.RowOf format s) kept rows := by
  intro final acquired format before rows
  change ((insertAll s o records).out (Client.mk d n)).1.result = _ at h
  obtain ⟨i, b, hb, hseq, hkeeps⟩ := insertAll_keeps hd.kept hlong hlax h
  obtain ⟨S, hat, hclean, hmode⟩ := hkeeps.session
  have hi : i < (Insert.cut s o format records).batches.length := (List.getElem?_eq_some_iff.mp hb).1
  obtain rfl : k = i + 1 := hseq.symm.trans (seq_batches s _ _ records hb)
  have hcatalog : final.catalog = acquired.catalog.after format (Catalog.destination s) (before.map Batch.bytes) :=
    hat.catalog
  have hsession : final.session n = S := hat.session
  have hacquired : acquired.catalog = d.catalog.publishAll (d.session n).staged := by
    obtain ⟨channel, c, p, c', hopen, hacquire, _⟩ :=
      BulkError.IsStop.started (e := .databaseWrite (i + 1) progress source) trivial h
    obtain ⟨hnothing, hmoved⟩ := Insert.Starts.each ⟨channel, c, p, c', hopen, hacquire⟩ hd.kept s hlong
    exact hmoved.eq_publishAll hnothing
  refine ⟨hacquired, ?_, ?_, ?_, ?_, hkeeps.totals, hkeeps.taken hi⟩
  · show final.catalog.rows? s.table = _
    rw [hcatalog]
    exact Catalog.rows?_after format (Catalog.destination s) (before.map Batch.bytes) acquired.catalog
  · rw [hsession]
    exact hclean.inTransaction
  · rw [hsession]
    exact hmode
  · show i + 1 = (take i _).length + 1
    rw [length_take, Nat.min_eq_left (Nat.le_of_lt hi)]

/-! ### Nodes behind an open transaction -/

/-- The database of nodes, when the connection has begun a transaction and staged the first node. -/
def openNodeDatabase : Database := nodeDatabase.after
  [.setAutocommit 0 false, .openChannel 0, .send 0 (statement .loadData nodeSchema) (Bytes.ofString "1\t\\N\n")]

theorem reachable_openNodeDatabase : openNodeDatabase.Reachable := reachable_nodeDatabase.after

/-- The refusal of a second node with the number two. -/
def secondTwo : DriverError where
  kind := .constraintViolation
  code := some "1062"
  message := "line 2: duplicate primary key Int(2) in `node`"

/-- Nodes one of which has no parent, and the last of which has a number that is taken. -/
def nodes : List (Int64 × Option Int64) := [(2, some 1), (3, some 9), (4, some 2), (5, none), (2, none)]

theorem result_nodes :
    (insertAll nodeSchema { batchSize := some 9 } nodes (Client.mk openNodeDatabase 0)).value.result =
        .error (.databaseWrite 2 ⟨1, 3, 12, 2⟩ secondTwo) ∧
      (insertAll nodeSchema { batchSize := some 9 } nodes (Client.mk openNodeDatabase 0)).state.database.rows? "node" =
        some [[.int 1, .null], [.int 2, .int 1], [.int 4, .int 2]] := by
  decide +kernel

/-- The first batch is kept behind the staged node, without its own second node. Of the second batch nothing is kept. -/
theorem autocommit_keeps_accepted_batches_nodes :
    let o : Options := { batchSize := some 9 }
    let final := (insertAll nodeSchema o nodes (Client.mk openNodeDatabase 0)).state.database
    let acquired := (Client.acquired o ⟨openNodeDatabase, 0⟩).database
    let format := (openNodeDatabase.connection 0).format
    let before := (Insert.cut nodeSchema o format nodes).batches.take (2 - 1)
    let rows := acquired.catalog.acceptedRows format (Catalog.destination nodeSchema) (before.map Batch.bytes)
    ((insertAll nodeSchema o nodes (Client.mk openNodeDatabase 0)).value.result =
          .error (.databaseWrite 2 ⟨1, 3, 12, 2⟩ secondTwo) ∧
        final.rows? "node" = some [[.int 1, .null], [.int 2, .int 1], [.int 4, .int 2]]) ∧
      acquired.catalog = openNodeDatabase.catalog.publishAll (openNodeDatabase.session 0).staged ∧
      final.rows? "node" = (acquired.rows? "node").map (· ++ rows) ∧
      (final.session 0).inTransaction = false ∧
      (final.session 0).autocommit = (openNodeDatabase.session 0).autocommit ∧
      2 = before.length + 1 ∧ ⟨1, 3, 12, 2⟩ = Progress.over before rows.length ∧
      ∃ kept, kept <+ nodes.take 3 ∧ (format = .copy → kept = nodes.take 3) ∧
        Forall₂ (acquired.catalog.RowOf format nodeSchema) kept rows :=
  ⟨result_nodes, autocommit_keeps_accepted_batches reachable_openNodeDatabase 0 nodeSchema nodes rfl rfl
    result_nodes.1⟩

end BulkLoad
