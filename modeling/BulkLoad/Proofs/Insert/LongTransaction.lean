import BulkLoad.Proofs.Insert.Durable
import BulkLoad.Proofs.Insert.Ledger
import BulkLoad.Proofs.Insert.Shared

/-!
# Long transactions are all or nothing

While an insert with a long transaction is under way, its rows are staged and no call changes a committed row, whatever
other connections do (`Ledger.Stays`, `Ledger.upkeep_long`). If it fails, its policy gives up what is staged
(`Ledger.Held.finish`). If it succeeds, its rows are committed by a single call (`Ledger.Stays.finish_commit`), or they are
left staged for a commit to come (`Ledger.Stays.finish_open`).

`long_transaction_all_or_nothing` puts this together, for pipelined inserts as well.
-/

namespace BulkLoad

open List

variable {ρ : Type}

/-! ## What an insert may leave -/

namespace Shared

/-- Nothing of an insert is left: no call has changed committed rows, and nothing is staged unless it was before and no
statement has been accepted. The mode is that of the session `before`. -/
structure LeavesNothing (n : Nat) (table : String) (before : Session) (t : Shared) : Prop where
  quiet : t.Quiet
  staged : (t.client.database.session n).staged = [] ∨
    (t.client.database.session n).staged = before.staged ∧ t.accepted n table = []
  autocommit : (t.client.database.session n).autocommit = before.autocommit

/-- All that was staged has been committed by a single call, behind the end of the channel, and no other call has
changed committed rows. The mode is the previous one, and nothing is left staged. -/
structure LeavesCommitted (n : Nat) (table : String) (previous : Bool) (staged : List (String × Rows)) (t : Shared) :
    Prop where
  calls : ∃ early last commit late, t.journal = early ++ last :: commit :: late ∧ last.call = .closeChannel ∧
    commit.Publishes staged ∧ ∀ e ∈ early ++ last :: late, e.Quiet
  rows : t.accepted n table <:+: (t.client.database.rows? table).getD []
  session : t.client.database.session n = { autocommit := previous }

/-- No call has changed committed rows, and autocommit is off. Whatever others do next, a commit that succeeds publishes
all that is staged, and a rollback gives all of it up. -/
structure LeavesStaged (n : Nat) (table : String) (staged : List (String × Rows)) (t : Shared) : Prop where
  quiet : t.Quiet
  session : t.client.database.session n = { autocommit := false, staged := staged }
  commit (ops : List Database.Op) :
    let d := t.client.database.meanwhile n ops
    (Database.commit n d).value = .ok () → (Database.commit n d).state.catalog = d.catalog.publishAll staged ∧
      t.accepted n table <:+: ((Database.commit n d).state.rows? table).getD []
  rollback (ops : List Database.Op) :
    let d := t.client.database.meanwhile n ops
    (Database.rollback n d).value = .ok () ∧ (Database.rollback n d).state.catalog = d.catalog ∧
      (Database.rollback n d).state.session n = { autocommit := false }

end Shared

/-- All records have been sent, and the accepted rows are `A`. Each is the row of a record, in the order of the records,
and the report counts them. Where no row may be skipped, all records have given a row. -/
structure Insert.Accepts (s : Schema ρ) (f : Format) (strict : Bool) (n : Nat) (rs : List ρ) (progress : Progress)
    (A : Rows) (t : Shared) : Prop where
  records : progress.records = rs.length
  rowsAffected : progress.rowsAffected = A.count
  accepted : t.accepted n s.table = A.rows
  taken : ∃ kept, kept <+ rs ∧ (f = .copy ∨ strict = true → kept = rs) ∧
    Forall₂ (t.client.database.catalog.RowOf f s) kept A.rows

/-! ## Under way -/

namespace Ledger

open Shared

variable {g : Ledger ρ} {m : Nat} {rs rs' : List ρ} {A : Rows} {S : Session} {w : ChannelWriter Nat} {p : Policy}
  {t t' : Shared} {b : Batch} {commitOnClose : Bool}

/-- A long transaction is open in the session `S`, and no call has changed committed rows. -/
structure Held (g : Ledger ρ) (S : Session) (w : ChannelWriter Nat) (p : Policy) (t : Shared) : Prop where
  writes : g.Writes w
  mode : p.mode.long? = g.long?
  previous : p.previous = g.previous
  off : S.autocommit = false
  quiet : t.Quiet
  sees : t.Sees g.connection g.channel false g.format S

/-- The rows `A` of the records have been staged in `m` batches. -/
structure Stays (g : Ledger ρ) (m : Nat) (rs : List ρ) (A : Rows) (w : ChannelWriter Nat) (p : Policy) (t : Shared) :
    Prop where
  held : g.Held (g.staged m A) w p t
  totals : g.Totals m rs A w.progress
  sent : m = 0 ↔ rs = []
  empty : m = 0 → A = {}
  accepted : t.accepted g.connection g.schema.table = A.rows
  taken : ∃ kept, kept <+ rs ∧ (g.format = .copy ∨ g.strict = true → kept = rs) ∧
    Forall₂ (t.client.database.catalog.RowOf g.format g.schema) kept A.rows

theorem Held.mode_eq (h : g.Held S w p t) (hlong : g.long? = some commitOnClose) :
    p.mode = .longTransaction commitOnClose := by
  have hmode := h.mode
  rw [hlong] at hmode
  cases hp : p.mode with
  | autocommit => rw [hp] at hmode; cases hmode
  | perBatch k => rw [hp] at hmode; cases hmode
  | longTransaction c => rw [hp] at hmode; cases hmode; rfl

/-- The rows that a statement stages are accepted. -/
theorem accepted_send {header : String} {payload : Bytes} {before after : Database} {n : Nat} {table : String}
    {B : Rows} (h : after.session n = (before.session n).stage table B) :
    Entry.accepted n table ⟨.send header payload, before, after⟩ = B.rows := by
  show drop _ (((after.session n).stagedFor table).rows) = B.rows
  rw [h, Catalog.stagedFor_stage, if_pos rfl]
  exact drop_left

/-- **A batch is staged, or it is rejected**; in either case no committed row is changed. -/
theorem Stays.write (h : g.Stays m rs A w p t) (hb : b.Carries g.format g.schema rs') (hrs : rs' ≠ []) :
    (∃ B w' t', (w.write b).out t = ((.written, w'), t') ∧ g.Stays (m + 1) (rs ++ rs') (A.append B) w' p t') ∨
    ∃ e S t', (w.write b).out t = ((.failed e, w), t') ∧ g.Held S w p t' := by
  obtain ⟨hchannel, hheader, hstrict, hrunning⟩ := h.held.writes
  obtain ⟨hextends, C, hdue⟩ := h.held.sees.due
  have hread : Destination.read? g.format (statement g.format g.schema) = some (Catalog.destination g.schema) :=
    read?_statement g.format g.schema
  obtain ⟨c, hsend, hat⟩ := hdue.send h.held.off hread b.bytes
  have hout : (Target.send g.channel (statement g.format g.schema) b.bytes : Act Shared _).out t =
      (_, t.called (.send (statement g.format g.schema) b.bytes) c) := out_pass hsend
  -- Whatever becomes of the statement, it changes the session only.
  have hsame : c.database.catalog = t.due.database.catalog := hat.catalog.trans hdue.catalog.symm
  have hheld : g.Held _ w p (t.called (.send (statement g.format g.schema) b.bytes) c) :=
    { h.held with
      off := (Catalog.autocommit_load ..).trans h.held.off
      quiet := quiet_called.mpr ⟨h.held.quiet, hsame⟩
      sees := ⟨C, hat⟩ }
  rw [ChannelWriter.out_write, if_neg (hrs ∘ hb.isEmpty.mp), hchannel, hheader, hstrict, hout]
  rcases Catalog.load_of_carries (c := C) (s := g.staged m A) hb hrs g.strict with
    ⟨B, skipped, hB, hfull, hvalue, hstate⟩ | ⟨_, ⟨e, hvalue⟩ | ⟨a, hvalue, hshort⟩⟩
  · rw [hvalue]
    rw [hstate] at hat hheld
    rw [stage_staged h.empty] at hheld
    have hwrites : g.Writes (w.accept b B.count) := ⟨hchannel, hheader, hstrict, hrunning⟩
    refine Or.inl ⟨B, w.accept b B.count, _, if_pos hfull, { hheld with writes := hwrites }, h.totals.record hb B,
      by simp [hrs], by simp, ?_, ?_⟩
    · rw [accepted_called, h.accepted, accepted_send (B := B)]
      · rfl
      · rw [hat.session, hdue.session]
    · obtain ⟨kept, hkept, hall, hrows⟩ := h.taken
      obtain ⟨kept', rows, hkept', hall', hrows', hB'⟩ := Catalog.taken_gatherRecords? hB
      refine ⟨kept ++ kept', hkept.append hkept', fun hfull => by rw [hall hfull, hall' hfull], ?_⟩
      show Forall₂ (c.database.catalog.RowOf g.format g.schema) _ (A.rows ++ B.rows)
      rw [hB', hsame]
      refine rel_append (hrows.imp fun _ _ hrow => hrow.of_extends hextends) ?_
      rw [hdue.catalog]
      exact hrows'
  · rw [hvalue]
    exact Or.inr ⟨_, _, _, rfl, hheld⟩
  · rw [hvalue]
    exact Or.inr ⟨_, _, _, if_neg hshort, hheld⟩

/-- **What settling and writing do to a long transaction**: settling does nothing, and rows are staged. -/
theorem upkeep_long (hlong : g.long? = some commitOnClose) : Insert.Upkeep g.schema g.format
    (fun rs w p t => ∃ m A, g.Stays m rs A w p t) (fun rs w p t => ∃ m A, g.Stays m rs A w p t)
    (fun _ w p t => ∃ S, g.Held S w p t) where
  settle := by
    rintro rs w p t ⟨m, A, h⟩
    have hout : (p.settle w.progress).out t = ((.ok (), p.observe w.progress), t) := by
      simp only [Act.out, Policy.settle_of_long (h.held.mode_eq hlong)]
    have hheld : g.Held (g.staged m A) w (p.observe w.progress) t := { h.held with }
    exact ⟨_, t, hout, m, A, { h with held := hheld }⟩
  settled := id
  write := by
    rintro rs rs' w p t b ⟨m, A, h⟩ hb hrs
    rcases h.write hb hrs with ⟨B, w', t', hwrite, h'⟩ | ⟨e, S, t', hwrite, h'⟩
    · exact Or.inl ⟨w', t', hwrite, _, _, h'⟩
    · exact Or.inr ⟨e, t', hwrite, S, h'⟩

/-! ## The end -/

/-- The writer closes its channel, and the long transaction is still open. -/
theorem Held.closeChannel (h : g.Held S w p t) : ∃ c,
    (w.close).out t = ((.ok (), { w with closed := true }), t.called .closeChannel c) ∧
      t.Idles (t.called .closeChannel c) ∧ (t.called .closeChannel c).Sees g.connection g.channel true g.format S := by
  obtain ⟨c, hclose, hidles, hsees⟩ := h.sees.closeChannel
  exact ⟨c, ChannelWriter.out_close h.writes.running (by rw [h.writes.channel]; exact hclose), hidles, hsees⟩

/-- **A long transaction that fails** is given up. -/
theorem Held.finish (h : g.Held S w p t) (hlong : g.long? = some commitOnClose) (e : BulkError) (taken : Nat) :
    ∃ t', Insert.finish (direct Shared) ((.error e, ⟨w, p, taken⟩), t) = (⟨.error e, taken⟩, t') ∧ t'.Quiet ∧
      t'.Sees g.connection g.channel true g.format { autocommit := g.previous } := by
  obtain ⟨c, hclose, hidles, hsees⟩ := h.closeChannel
  have hmode : (p.observe w.progress).mode = .longTransaction commitOnClose := h.mode_eq hlong
  obtain ⟨t', hout, hidles', hsees'⟩ := hsees.close_failure hmode h.off
  rw [Insert.finish_direct, hclose]
  unfold Insert.conclude
  simp only [Except.bind, Insert.outcome, hout]
  refine ⟨t', rfl, (hidles.trans hidles').quiet h.quiet, ?_⟩
  rw [← h.previous]
  exact hsees'

/-- The accepted rows lie together once all that is staged has been published. -/
theorem Stays.together (h : g.Stays m rs A w p t) {C : Catalog} (hextends : t.client.database.catalog.Extends C) :
    A.rows <:+: ((C.publishAll (g.staged m A).staged).rows? g.schema.table).getD [] := by
  obtain ⟨kept, _, _, hrows⟩ := h.taken
  by_cases hnil : A.rows = []
  · rw [hnil]
    exact nil_infix
  -- There is a row, and so there are a table for it and a batch with it.
  have hfind : (C.find? g.schema.table).isSome := by
    obtain ⟨row, rest, hA⟩ := exists_cons_of_ne_nil hnil
    rw [hA] at hrows
    cases hrows with
    | cons hrow _ =>
      obtain ⟨table, _, htable, _⟩ := hrow
      exact hextends.isSome (Option.isSome_iff_exists.mpr ⟨table, htable⟩)
  have hm : m ≠ 0 := by
    intro hm
    rw [h.empty hm] at hnil
    exact hnil rfl
  rw [Ledger.staged, if_neg hm]
  exact Catalog.infix_publishAll_stageIn A _ hfind

/-- The insert has accepted the rows that it has staged, whatever calls follow that run no statement. -/
theorem Stays.accepts (h : g.Stays m rs A w p t)
    (haccepted : t'.accepted g.connection g.schema.table = t.accepted g.connection g.schema.table)
    (hextends : t.client.database.catalog.Extends t'.client.database.catalog) :
    Insert.Accepts g.schema g.format g.strict g.connection rs w.progress A t' := by
  obtain ⟨kept, hkept, hall, hrows⟩ := h.taken
  exact ⟨h.totals.records, h.totals.rowsAffected, haccepted.trans h.accepted, kept, hkept, hall,
    hrows.imp fun _ _ hrow => hrow.of_extends hextends⟩

/-- **A long transaction that succeeds and is to be committed**: all its rows are committed at once, or none. -/
theorem Stays.finish_commit (h : g.Stays m rs A w p t) (hlong : g.long? = some true) (taken : Nat) :
    (∃ t', Insert.finish (direct Shared) ((.ok (), ⟨w, p, taken⟩), t) = (⟨.ok w.progress, taken⟩, t') ∧
      Insert.Accepts g.schema g.format g.strict g.connection rs w.progress A t' ∧
      t'.LeavesCommitted g.connection g.schema.table g.previous (g.staged m A).staged) ∨
    ∃ e t', Insert.finish (direct Shared) ((.ok (), ⟨w, p, taken⟩), t) = (⟨.error e, taken⟩, t') ∧ t'.Quiet ∧
      t'.Sees g.connection g.channel true g.format { autocommit := g.previous } := by
  obtain ⟨c, hclose, hidles, hsees⟩ := h.held.closeChannel
  have hmode : (p.observe w.progress).mode = .longTransaction true := h.held.mode_eq hlong
  rw [Insert.finish_direct, hclose]
  unfold Insert.conclude
  simp only [Except.bind, Insert.outcome]
  rcases hsees.close_commit hmode h.held.off with
    ⟨c', t', hout, hpublishes, hidles', hsees'⟩ | ⟨e, t', hout, hidles', hsees'⟩
  · rw [hout]
    have hdue : t.client.database.catalog.Extends (t.called .closeChannel c).due.database.catalog :=
      hidles.catalog.trans hsees.due.1
    have hcommit : (t.called .closeChannel c).due.database.catalog.Extends c'.database.catalog := by
      rw [show c'.database.catalog = _ from hpublishes.catalog]
      exact Catalog.extends_publishAll _ _
    have haccepted : t'.accepted g.connection g.schema.table = t.accepted g.connection g.schema.table := by
      rw [hidles'.accepted, accepted_called, hidles.accepted]
      exact append_nil _
    refine Or.inl ⟨t', rfl, h.accepts haccepted ((hdue.trans hcommit).trans hidles'.catalog), ?_, ?_, ?_⟩
    · obtain ⟨late, hjournal, hlate⟩ := hidles'.calls
      refine ⟨t.journal, ⟨.closeChannel, t.due.database, c.database⟩, _, late, hjournal.trans ?_, rfl, hpublishes, ?_⟩
      · simp [called]
      · have hquiet : Shared.Quiet _ := hidles.quiet h.held.quiet
        intro e he
        rw [append_cons, mem_append] at he
        rcases he with he | he
        · exact hquiet e he
        · exact (hlate e he).quiet
    · rw [haccepted, h.accepted]
      refine (h.together hdue).trans ?_
      rw [← show c'.database.catalog = _ from hpublishes.catalog]
      exact (hidles'.catalog.rows? _).isInfix
    · obtain ⟨C, hat⟩ := hsees'
      rw [hat.session, show (p.observe w.progress).previous = g.previous from h.held.previous]
  · rw [hout]
    refine Or.inr ⟨e, t', rfl, (hidles.trans hidles').quiet h.held.quiet, ?_⟩
    rw [← h.held.previous]
    exact hsees'

/-- **A long transaction that succeeds and is left open**: all its rows are staged for the next commit or rollback. -/
theorem Stays.finish_open (h : g.Stays m rs A w p t) (hlong : g.long? = some false) (taken : Nat) :
    ∃ t', Insert.finish (direct Shared) ((.ok (), ⟨w, p, taken⟩), t) = (⟨.ok w.progress, taken⟩, t') ∧
      Insert.Accepts g.schema g.format g.strict g.connection rs w.progress A t' ∧
      t'.LeavesStaged g.connection g.schema.table (g.staged m A).staged := by
  obtain ⟨c, hclose, hidles, hsees⟩ := h.held.closeChannel
  have hmode : (p.observe w.progress).mode = .longTransaction false := h.held.mode_eq hlong
  have haccepted := hidles.accepted g.connection g.schema.table
  rw [Insert.finish_direct, hclose]
  unfold Insert.conclude
  simp only [Except.bind, Insert.outcome, Policy.out_close_open hmode]
  generalize t.called .closeChannel c = t' at hidles hsees haccepted ⊢
  have hsession : g.staged m A = { autocommit := false, staged := (g.staged m A).staged } := by
    rw [← h.held.off]
  obtain ⟨C, hat⟩ := hsees
  have hextends := hidles.catalog
  rw [hat.catalog] at hextends
  refine ⟨t', rfl, h.accepts haccepted hidles.catalog, hidles.quiet h.held.quiet, hat.session.trans hsession, ?_, ?_⟩
  · intro ops d hvalue
    obtain ⟨C', hextends', hat'⟩ := hat.meanwhile ops
    have hcatalog : (Database.commit g.connection d).state.catalog = d.catalog.publishAll (g.staged m A).staged := by
      cases hconflict : C'.conflict? (g.staged m A).staged with
      | none =>
        rw [show (Database.commit g.connection d).state = _ from congrArg Prod.snd (hat'.out_commit hconflict)]
        exact congrArg (Catalog.publishAll · _) hat'.catalog.symm
      | some k =>
        have hfailed : (Database.commit g.connection d).value = .error k.report :=
          congrArg Prod.fst (hat'.out_commit_of_conflict hconflict)
        rw [hfailed] at hvalue
        cases hvalue
    refine ⟨hcatalog, ?_⟩
    show _ <:+: ((Database.commit g.connection d).state.catalog.rows? g.schema.table).getD []
    rw [hcatalog, haccepted, h.accepted, show d.catalog = C' from hat'.catalog]
    exact h.together (hextends.trans hextends')
  · intro ops d
    obtain ⟨C', _, hat'⟩ := hat.meanwhile ops
    have hafter : Client.At g.connection g.channel true g.format C' (g.staged m A).discard
        ⟨d.setSession g.connection (g.staged m A).discard, t'.client.connection⟩ := hat'.put rfl rfl hat'.catalog
    refine ⟨rfl, rfl, ?_⟩
    show (d.setSession g.connection (d.session g.connection).discard).session g.connection = _
    rw [show d.session g.connection = g.staged m A from hat'.session, hafter.session]
    rw [hsession]
    rfl

end Ledger

/-! ## Whole inserts -/

section Whole

open Shared

variable {d : Database} {n : Nat} {s : Schema ρ} {o : Options}

/-- What stays the same in an insert with a long transaction, when its channel has been opened. -/
def Insert.longLedger (s : Schema ρ) (o : Options) (d : Database) (n channel : Nat) : Ledger ρ where
  schema := s
  connection := n
  channel := channel
  format := (d.connection n).format
  strict := o.errorOnMissingRow
  long? := some o.commitOnClose
  previous := (d.session n).autocommit
  catalog := d.catalog
  session := { d.session n with autocommit := false }

/-- When the policy has been acquired, nothing has been staged. -/
theorem stays_acquired (s : Schema ρ) (o : Options) {t : Shared} {channel : Nat} (hquiet : t.Quiet)
    (haccepted : t.accepted n s.table = [])
    (hsees : t.Sees n channel false (d.connection n).format { d.session n with autocommit := false }) :
    (Insert.longLedger s o d n channel).Stays 0 [] {} (Insert.writer s o (d.connection n).format channel)
      { mode := .longTransaction o.commitOnClose, previous := (d.session n).autocommit } t := by
  have htotals : Ledger.Totals (Insert.longLedger s o d n channel) 0 [] {} {} :=
    ⟨rfl, rfl, ⟨[], Forall₂.nil, rfl⟩, rfl⟩
  refine ⟨⟨⟨rfl, rfl, rfl, rfl⟩, rfl, rfl, rfl, hquiet, hsees⟩, htotals, ?_, ?_, haccepted, [], Sublist.refl [],
    fun _ => rfl, Forall₂.nil⟩
  · simp
  · exact fun _ => rfl

/-- What is staged behind the rows of `m` batches. -/
theorem staged_longLedger {channel m : Nat} {records : List ρ} (hsent : m = 0 ↔ records = []) (A : Rows) :
    ((Insert.longLedger s o d n channel).staged m A).staged =
      (if records = [] then d.session n else (d.session n).stage s.table A).staged := by
  unfold Ledger.staged
  by_cases hm : m = 0
  · rw [if_pos hm, if_pos (hsent.mp hm)]
    rfl
  · rw [if_neg hm, if_neg (fun h => hm (hsent.mpr h))]
    rfl

/-- **What a sequential insert with a long transaction comes to.** -/
theorem insertAll_long (hn : n < d.connections.length) (s : Schema ρ) (hlong : o.longTransaction = true)
    (hsequential : o.concurrent = false) (records : List ρ) (schedule : List (List Database.Op)) :
    let out := (insertAll s o records).out (Shared.mk ⟨d, n⟩ schedule [])
    (∃ e, out.1.result = .error e ∧ out.2.LeavesNothing n s.table (d.session n)) ∨
    ∃ progress A, out.1.result = .ok progress ∧
      Insert.Accepts s (d.connection n).format o.errorOnMissingRow n records progress A out.2 ∧
      let staged := (if records = [] then d.session n else (d.session n).stage s.table A).staged
      if o.commitOnClose then out.2.LeavesCommitted n s.table (d.session n).autocommit staged
      else out.2.LeavesStaged n s.table staged := by
  intro out
  have hout : out = _ := out_insertAll s o records (Shared.mk ⟨d, n⟩ schedule [])
  obtain ⟨r, t₁, hopen, hidles, hsession, hsees⟩ := Shared.openChannel d hn schedule
  have hquiet₁ : t₁.Quiet := hidles.quiet (forall_mem_nil _)
  have haccepted₁ : t₁.accepted n s.table = [] := hidles.accepted n s.table
  rw [hopen] at hout
  cases r with
  | error e =>
    refine Or.inl ⟨_, by rw [hout], ?_⟩
    rw [hout]
    exact ⟨hquiet₁, Or.inr ⟨by rw [hsession], haccepted₁⟩, by rw [hsession]⟩
  | ok channel =>
    obtain ⟨t₂, hacquire, hidles', hsees'⟩ := (hsees channel rfl).acquire_long hlong
    have hstays := stays_acquired s o (hidles'.quiet hquiet₁) ((hidles'.accepted n s.table).trans haccepted₁) hsees'
    simp only [hacquire] at hout
    rw [Insert.load_of_sequential s hsequential, Insert.out_run] at hout
    -- Behind a failure the policy gives up what is staged, and the mode is as it was.
    have hnothing {t : Shared} (hquiet : t.Quiet)
        (h : t.Sees n channel true (d.connection n).format { autocommit := (d.session n).autocommit }) :
        t.LeavesNothing n s.table (d.session n) := by
      obtain ⟨C, hat⟩ := h
      exact ⟨hquiet, Or.inl (by rw [hat.session]), by rw [hat.session]⟩
    rcases (Ledger.upkeep_long rfl).drive ⟨0, {}, hstays⟩ (o.effectiveBatchSize (d.connection n).format) records 0 with
      ⟨w, p, taken, t₃, hdrive, m, A, hstays'⟩ | ⟨e, w, p, taken, t₃, hdrive, hcause⟩
    · replace hout := hout.trans (congrArg _ hdrive)
      cases hcommit : o.commitOnClose with
      | true =>
        rcases hstays'.finish_commit (congrArg some hcommit) taken with
          ⟨t₄, hfinish, haccepts, hleaves⟩ | ⟨e, t₄, hfinish, hquiet, hends⟩
        · rw [hfinish] at hout
          rw [hout]
          refine Or.inr ⟨w.progress, A, rfl, haccepts, ?_⟩
          rw [staged_longLedger hstays'.sent] at hleaves
          exact hleaves
        · rw [hfinish] at hout
          rw [hout]
          exact Or.inl ⟨e, rfl, hnothing hquiet hends⟩
      | false =>
        obtain ⟨t₄, hfinish, haccepts, hleaves⟩ := hstays'.finish_open (congrArg some hcommit) taken
        rw [hfinish] at hout
        rw [hout]
        refine Or.inr ⟨w.progress, A, rfl, haccepts, ?_⟩
        rw [staged_longLedger hstays'.sent] at hleaves
        exact hleaves
    · replace hout := hout.trans (congrArg _ hdrive)
      obtain ⟨S, hheld⟩ : ∃ S, (Insert.longLedger s o d n channel).Held S w p t₃ := by
        rcases hcause with ⟨_, _, hheld⟩ | ⟨_, _, m, A, hstays'⟩
        · exact hheld
        · exact ⟨_, hstays'.held⟩
      obtain ⟨t₄, hfinish, hquiet, hends⟩ := hheld.finish rfl e taken
      rw [hfinish] at hout
      rw [hout]
      exact Or.inl ⟨e, rfl, hnothing hquiet hends⟩

/-- **A long transaction is all or nothing**, whatever other connections do between its calls. If the insert fails, none
of its rows is committed or staged and the mode is as before. If it succeeds, its accepted rows are committed at once in
the end, with the mode as before, or they are all left staged, for a commit that publishes all of them or a rollback that
gives all of them up. -/
theorem long_transaction_all_or_nothing (hn : n < d.connections.length) (s : Schema ρ)
    (hlong : o.longTransaction = true) (records : List ρ) (schedule : List (List Database.Op)) :
    let out := insertAll s o records (Shared.mk ⟨d, n⟩ schedule [])
    match out.value.result with
    | .error _ => out.state.LeavesNothing n s.table (d.session n)
    | .ok progress => ∃ A,
        Insert.Accepts s (d.connection n).format o.errorOnMissingRow n records progress A out.state ∧
        let staged := (if records = [] then d.session n else (d.session n).stage s.table A).staged
        if o.commitOnClose then out.state.LeavesCommitted n s.table (d.session n).autocommit staged
        else out.state.LeavesStaged n s.table staged := by
  intro out
  obtain ⟨hstate, hresult⟩ := sameEffect_of_sequential steady_shared s o records
    (t := Shared.mk ⟨d, n⟩ schedule []) trivial
  change out.state = _ at hstate
  change _ = out.value.result ∨ Insert.Masked _ _ out.value.result at hresult
  rcases insertAll_long (o := { o with concurrent := false }) hn s hlong rfl records schedule with
    ⟨e, herror, hleaves⟩ | ⟨progress, A, hok, haccepts, hleaves⟩
  · have hfailed : ∃ e, out.value.result = .error e := by
      rcases hresult with heq | ⟨_, _, _, _, _, hq⟩
      · exact ⟨e, heq.symm.trans herror⟩
      · exact ⟨_, hq⟩
    obtain ⟨e', he'⟩ := hfailed
    rw [he', hstate]
    exact hleaves
  · rcases hresult with heq | ⟨_, _, _, _, herror, _⟩
    · rw [← heq, hok, hstate]
      exact ⟨A, haccepts, hleaves⟩
    · rw [hok] at herror
      cases herror

end Whole

/-! ## Numbers from two connections -/

/-- A database with a table of numbers and two connections. -/
def twoConnections : Database := (Database.Op.connect .copy true).apply numberDatabase

/-- The second connection commits a number before the fourth call of the first one. -/
def otherSeven : List (List Database.Op) :=
  [[.openChannel 1], [], [], [.send 0 (statement .copy numberSchema) [55, 10]]]

/-- The other connection commits between two batches, and both batches are committed behind its row. -/
theorem long_transaction_all_or_nothing_numbers :
    let o : Options := { batchSize := some 2, longTransaction := true, commitOnClose := true }
    let out := insertAll numberSchema o [some 1, some 2] (Shared.mk ⟨twoConnections, 0⟩ otherSeven [])
    out.state.client.database.rows? "t" = some [[.int 7], [.int 1], [.int 2]] ∧
      0 < twoConnections.connections.length ∧ o.longTransaction = true ∧
      match out.value.result with
      | .error _ => out.state.LeavesNothing 0 "t" (twoConnections.session 0)
      | .ok progress => ∃ A,
          Insert.Accepts numberSchema .copy o.errorOnMissingRow 0 [some 1, some 2] progress A out.state ∧
          let staged := (if [some 1, some 2] = [] then twoConnections.session 0
            else (twoConnections.session 0).stage "t" A).staged
          if o.commitOnClose then out.state.LeavesCommitted 0 "t" (twoConnections.session 0).autocommit staged
          else out.state.LeavesStaged 0 "t" staged :=
  ⟨by decide +kernel, by decide, rfl,
    long_transaction_all_or_nothing (by decide) numberSchema rfl [some 1, some 2] otherSeven⟩

end BulkLoad
