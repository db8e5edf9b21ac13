import BulkLoad.Proofs.Database.Client
import BulkLoad.Proofs.Database.Records
import BulkLoad.Proofs.Insert.Sequential
import BulkLoad.Proofs.Statement.ReadBack

/-!
# Transactions for single batches

A sequential insert with a transaction for each batch goes through three kinds of states. Before a batch, all batches
so far have been accepted and the last one may wait for its commit (`Course.Waiting`); settling commits it
(`Course.Settled`); and an insert that stops has committed some batches and has nothing else that could be committed
any more (`Course.Stopped`). `Waiting.settle` and `Settled.write` lead from one to the other, `Waiting.feed` follows
all the batches that were filled and `Waiting.finale` the end of the payload. `Waiting.drive` tells for each way to
stop how many batches are committed (`Stop`), and `Waiting.run` what the whole insert leaves behind.
-/

namespace BulkLoad

open List

/-! ## Courses -/

/-- What stays the same while an insert sends its batches: the connection and its channel, the statement, whether
skipped rows count as failures, and the catalog from which it started. -/
structure Course where
  connection : Nat
  channel : Nat
  format : Format
  header : String
  destination : Destination
  reads : Destination.read? format header = some destination
  strict : Bool
  base : Catalog

namespace Course

variable (g : Course)

/-- The rows that a batch adds to a catalog. -/
def accepted (C : Catalog) (b : Batch) : Rows := C.accepted g.format g.destination b.bytes

/-- The catalog with the rows of batches. -/
def after (bs : List Batch) : Catalog := g.base.after g.format g.destination (bs.map Batch.bytes)

/-- No row of the batches has been skipped, where that counts as a failure. -/
def NoneSkipped (bs : List Batch) : Prop := g.strict = true → g.base.Full g.format g.destination bs

/-- The batches that are committed while the last one waits for it. -/
def committed (bs : List Batch) : List Batch := if g.strict then bs.dropLast else bs

/-- The mode of a policy that has committed `k` batches. -/
def mode (k : Nat) : PolicyMode := if g.strict then .perBatch k else .autocommit

/-- The client works for the insert, on a catalog and with a session in the right mode. -/
def Sees (C : Catalog) (S : Session) (c : Client) : Prop :=
  S.autocommit = !g.strict ∧ c.At g.connection g.channel false g.format C S

/-- The writer sends the batches of the insert and has written `k` of them. -/
structure Writes (k : Nat) (w : ChannelWriter Nat) : Prop where
  channel : w.channel = g.channel
  header : w.header = g.header
  strict : w.strict = g.strict
  running : w.closed = false
  batches : w.progress.batches = k

/-- The batches have been accepted; the last one may wait for its commit. -/
structure Waiting (bs : List Batch) (w : ChannelWriter Nat) (p : Policy) (c : Client) : Prop where
  writes : g.Writes bs.length w
  mode : p.mode = g.mode (bs.length - 1)
  noneSkipped : g.NoneSkipped bs
  session : ∃ S, g.Sees (g.after (g.committed bs)) S c ∧ (g.strict = false ∨ bs = [] → S.Clean) ∧
    (g.after (g.committed bs)).conflict? S.staged = none ∧
    (g.after (g.committed bs)).publishAll S.staged = g.after bs

/-- The batches have been accepted and committed. -/
structure Settled (bs : List Batch) (w : ChannelWriter Nat) (p : Policy) (c : Client) : Prop where
  writes : g.Writes bs.length w
  mode : p.mode = g.mode bs.length
  noneSkipped : g.NoneSkipped bs
  session : ∃ S, g.Sees (g.after bs) S c ∧ S.Clean

/-- The batches have been committed; what else is staged is given up when the policy is closed. -/
structure Stopped (bs : List Batch) (w : ChannelWriter Nat) (p : Policy) (c : Client) : Prop where
  writes : ∃ k, g.Writes k w
  mode : ∃ k, p.mode = g.mode k
  noneSkipped : g.NoneSkipped bs
  session : ∃ S, g.Sees (g.after bs) S c ∧ (g.strict = false → S.Clean)

variable {g} {bs : List Batch} {w : ChannelWriter Nat} {p : Policy} {c : Client}

theorem after_concat (bs : List Batch) (b : Batch) : g.after (bs ++ [b]) =
    (g.after bs).publish g.destination.table (g.accepted (g.after bs) b) := by
  unfold after
  rw [map_append, map_singleton, Catalog.after_concat]
  rfl

theorem NoneSkipped.of_append {bs' : List Batch} (h : g.NoneSkipped (bs ++ bs')) : g.NoneSkipped bs :=
  fun hs => (Catalog.full_append.mp (h hs)).1

theorem NoneSkipped.concat (h : g.NoneSkipped bs) {b : Batch}
    (hb : g.strict = true → b.records ≤ (g.accepted (g.after bs) b).count) : g.NoneSkipped (bs ++ [b]) :=
  fun hs => Catalog.full_append.mpr ⟨h hs, hb hs, trivial⟩

theorem NoneSkipped.committed (h : g.NoneSkipped bs) : g.NoneSkipped (g.committed bs) := by
  unfold Course.committed
  split
  · rcases eq_nil_or_concat bs with rfl | ⟨bs', b, rfl⟩
    · exact h
    · rw [concat_eq_append] at h ⊢
      rw [dropLast_concat]
      exact h.of_append
  · exact h

/-- An insert that stops before it has settled the last batch leaves that one behind. -/
theorem Waiting.stopped (h : g.Waiting bs w p c) : g.Stopped (g.committed bs) w p c := by
  obtain ⟨S, hsees, hclean, _⟩ := h.session
  exact ⟨⟨_, h.writes⟩, ⟨_, h.mode⟩, h.noneSkipped.committed, S, hsees, fun hs => hclean (Or.inl hs)⟩

theorem committed_of_lax (hs : g.strict = false) (bs : List Batch) : g.committed bs = bs := by
  rw [committed, hs, if_neg Bool.false_ne_true]

theorem committed_concat (hs : g.strict = true) (bs : List Batch) (b : Batch) : g.committed (bs ++ [b]) = bs := by
  rw [committed, hs, if_pos rfl, dropLast_concat]

theorem mode_of_lax (hs : g.strict = false) (k : Nat) : g.mode k = .autocommit := by
  rw [mode, hs, if_neg Bool.false_ne_true]

theorem mode_of_strict (hs : g.strict = true) (k : Nat) : g.mode k = .perBatch k := by
  rw [mode, hs, if_pos rfl]

/-- Where the database commits every statement, nothing waits for a commit. -/
theorem Waiting.settled_of_lax (h : g.Waiting bs w p c) (hs : g.strict = false) : g.Settled bs w p c := by
  obtain ⟨S, hsees, hclean, _⟩ := h.session
  rw [committed_of_lax hs] at hsees
  exact ⟨h.writes, by rw [h.mode, mode_of_lax hs, mode_of_lax hs], h.noneSkipped, S, hsees, hclean (Or.inl hs)⟩

/-! ## Steps -/

/-- Settling commits the last batch. -/
theorem Waiting.settle (h : g.Waiting bs w p c) :
    ∃ p' c', (p.settle w.progress).out c = ((.ok (), p'), c') ∧ g.Settled bs w p' c' := by
  have hbatches := h.writes.batches
  cases hs : g.strict with
  | false =>
    have hmode : p.mode = .autocommit := by rw [h.mode, mode_of_lax hs]
    obtain ⟨hwrites, hmode', hnone, hsession⟩ := h.settled_of_lax hs
    exact ⟨_, c, Policy.out_settle_autocommit hmode w.progress c, hwrites, hmode', hnone, hsession⟩
  | true =>
    obtain ⟨S, ⟨hauto, hat⟩, hclean, hconflict, hpublish⟩ := h.session
    have hmode : p.mode = .perBatch (bs.length - 1) := by rw [h.mode, mode_of_strict hs]
    rw [Policy.out_settle_perBatch hmode, hbatches]
    rcases eq_nil_or_concat bs with rfl | ⟨bs', b, rfl⟩
    · have hsame : g.committed [] = [] := by rw [committed]; split <;> rfl
      rw [hsame] at hat
      exact ⟨_, c, if_pos rfl, h.writes, by rw [mode_of_strict hs]; exact hmode, h.noneSkipped, S, ⟨hauto, hat⟩,
        hclean (Or.inr rfl)⟩
    · rw [concat_eq_append] at *
      have hne : (bs' ++ [b]).length ≠ (bs' ++ [b]).length - 1 := by
        rw [length_append, length_singleton]
        omega
      obtain ⟨c', hcommit, hat'⟩ := hat.commit hconflict
      rw [hpublish] at hat'
      rw [if_neg hne, hcommit]
      exact ⟨_, c', rfl, h.writes, by rw [mode_of_strict hs], h.noneSkipped, S.discard, ⟨hauto, hat'⟩,
        Session.clean_discard S⟩

/-- An insert that keeps the catalog in which its batches have been settled is stopped. -/
theorem Settled.stop (h : g.Settled bs w p c) {S : Session} {c' : Client} (hsees : g.Sees (g.after bs) S c')
    (hclean : g.strict = false → S.Clean) : g.Stopped bs w p c' :=
  ⟨⟨_, h.writes⟩, ⟨_, h.mode⟩, h.noneSkipped, S, hsees, hclean⟩

/-- The writer and the policy wait for the next batch when the batch has been accepted. -/
theorem Settled.accept (h : g.Settled bs w p c) (b : Batch) (rows : Nat) :
    g.Writes (bs ++ [b]).length (w.accept b rows) ∧ p.mode = g.mode ((bs ++ [b]).length - 1) := by
  rw [length_append, length_singleton, Nat.add_sub_cancel]
  refine ⟨⟨h.writes.channel, h.writes.header, h.writes.strict, h.writes.running, ?_⟩, h.mode⟩
  rw [← h.writes.batches]
  rfl

/-- Where the database commits every statement, an accepted batch is committed. -/
theorem Settled.accept_of_lax (h : g.Settled bs w p c) (hs : g.strict = false) {b : Batch} {S : Session} {c' : Client}
    (hsees : g.Sees (g.after (bs ++ [b])) S c') (hclean : S.Clean) (rows : Nat) :
    g.Waiting (bs ++ [b]) (w.accept b rows) p c' := by
  obtain ⟨hwrites, hmode⟩ := h.accept b rows
  have hnone : g.NoneSkipped (bs ++ [b]) := h.noneSkipped.concat fun hs' => by rw [hs] at hs'; cases hs'
  refine ⟨hwrites, hmode, hnone, S, ?_, fun _ => hclean, ?_, ?_⟩
  · rw [committed_of_lax hs]
    exact hsees
  · exact Catalog.conflict?_of_clean hclean
  · rw [committed_of_lax hs]
    exact Catalog.publishAll_of_clean _ hclean

/-- Where skipped rows count as failures, an accepted batch waits for its commit. -/
theorem Settled.accept_of_strict (h : g.Settled bs w p c) (hs : g.strict = true) {b : Batch} {S : Session} {c' : Client}
    (hfull : b.records ≤ (g.accepted (g.after bs) b).count) (hsees : g.Sees (g.after bs) S c')
    (hconflict : (g.after bs).conflict? S.staged = none)
    (hpublish : (g.after bs).publishAll S.staged = g.after (bs ++ [b])) (rows : Nat) :
    g.Waiting (bs ++ [b]) (w.accept b rows) p c' := by
  obtain ⟨hwrites, hmode⟩ := h.accept b rows
  refine ⟨hwrites, hmode, h.noneSkipped.concat fun _ => hfull, S, ?_, ?_, ?_⟩
  · rw [committed_concat hs]
    exact hsees
  · rintro (hlax | hnil)
    · rw [hs] at hlax
      cases hlax
    · exact absurd hnil (by simp)
  · rw [committed_concat hs]
    exact ⟨hconflict, hpublish⟩

/-- A batch is accepted, or it is rejected and nothing more is committed. Rows of a rejected batch are staged at most
where skipped rows count as failures. -/
theorem Settled.write (h : g.Settled bs w p c) {b : Batch} (hb : b.isEmpty = false) :
    (∃ w' c', (w.write b).out c = ((.written, w'), c') ∧ g.Waiting (bs ++ [b]) w' p c') ∨
    ∃ source c', (w.write b).out c = ((.failed (w.rejected b source), w), c') ∧ g.Stopped bs w p c' ∧
      (g.strict = false → g.after (bs ++ [b]) = g.after bs) := by
  obtain ⟨S, ⟨hauto, hat⟩, hclean⟩ := h.session
  have hafter := after_concat (g := g) bs b
  rw [ChannelWriter.out_write, if_neg (by rw [hb]; exact Bool.false_ne_true), h.writes.channel, h.writes.header,
    h.writes.strict]
  rcases hat.send_of_clean hclean g.reads b.bytes with ⟨e, c', hsend, hat', hnothing⟩ |
    ⟨skipped, c', C', S', hsend, hat', hauto', hlax, hstrict⟩
  · -- The statement is refused, and adds nothing.
    have hnothing : g.accepted (g.after bs) b = {} := hnothing
    rw [hsend]
    refine Or.inr ⟨e, c', rfl, h.stop ⟨hauto, hat'⟩ fun _ => hclean, fun _ => ?_⟩
    rw [hafter, hnothing, Catalog.publish_empty]
  · -- The statement is run; whether that is a failure depends on the rows that it skips.
    rw [hsend]
    rw [hauto] at hauto' hlax hstrict
    cases hs : g.strict with
    | false =>
      obtain ⟨rfl, hclean'⟩ := hlax (by rw [hs]; rfl)
      have hsees : g.Sees (g.after (bs ++ [b])) S' c' := by
        rw [hafter]
        exact ⟨hauto', hat'⟩
      exact Or.inl ⟨_, c', if_pos (Or.inr rfl), h.accept_of_lax hs hsees hclean' _⟩
    | true =>
      obtain ⟨rfl, hconflict, hpublish⟩ := hstrict (by rw [hs]; rfl)
      by_cases hfull : b.records ≤ (g.accepted (g.after bs) b).count
      · exact Or.inl ⟨_, c', if_pos (Or.inl hfull),
          h.accept_of_strict hs hfull ⟨hauto', hat'⟩ hconflict (hpublish.trans hafter.symm) _⟩
      · refine Or.inr ⟨_, c', if_neg ?_, h.stop ⟨hauto', hat'⟩ fun hlax' => ?_, nofun⟩
        · rintro (hrows | hlax')
          · exact hfull hrows
          · cases hlax'
        · rw [hs] at hlax'
          cases hlax'

/-- A further batch that is sent before the last one has been committed does not change what is committed, should it be
rejected. -/
theorem Waiting.write (h : g.Waiting bs w p c) {b : Batch} (hb : b.isEmpty = false) :
    (∃ w' c', (w.write b).out c = ((.written, w'), c')) ∨
    ∃ source c', (w.write b).out c = ((.failed (w.rejected b source), w), c') ∧ g.Stopped (g.committed bs) w p c' := by
  cases hs : g.strict with
  | false =>
    rw [committed_of_lax hs]
    rcases (h.settled_of_lax hs).write hb with ⟨w', c', hout, _⟩ | ⟨source, c', hout, hstopped, _⟩
    · exact Or.inl ⟨w', c', hout⟩
    · exact Or.inr ⟨source, c', hout, hstopped⟩
  | true =>
    obtain ⟨S, ⟨hauto, hat⟩, _⟩ := h.session
    have hmode : S.autocommit = false := by rw [hauto, hs]; rfl
    obtain ⟨c', hsend, hat'⟩ := hat.send hmode g.reads b.bytes
    have hstopped : g.Stopped (g.committed bs) w p c' := by
      refine ⟨⟨_, h.writes⟩, ⟨_, h.mode⟩, h.noneSkipped.committed, _, ⟨?_, hat'⟩, fun hlax => ?_⟩
      · rw [Catalog.autocommit_load, hauto]
      · rw [hs] at hlax
        cases hlax
    rw [ChannelWriter.out_write, if_neg (by rw [hb]; exact Bool.false_ne_true), h.writes.channel, h.writes.header,
      hsend]
    cases (Catalog.load (g.after (g.committed bs)) S g.format g.destination b.bytes).value with
    | error e => exact Or.inr ⟨_, c', rfl, hstopped⟩
    | ok a =>
      have hack : Client.sendResult ((Except.ok a : Except Catalog.LoadError Ack).mapError (·.report g.format)) =
          .acked a := rfl
      rw [hack]
      dsimp only
      split
      · exact Or.inl ⟨_, c', rfl⟩
      · exact Or.inr ⟨_, c', rfl, hstopped⟩

/-! ## Runs -/

/-- The batch `x` at place `i` of those that were filled has been rejected, when those before it had been committed
behind the batches `bs`. -/
structure Rejected (g : Course) (bs : List Batch) (fs : List Filled) (i : Nat) (x : Filled) (w : ChannelWriter Nat)
    (p : Policy) (c : Client) : Prop where
  place : fs[i]? = some x
  batches : w.progress.batches = bs.length + i
  stopped : g.Stopped (bs ++ (fs.take i).map Filled.batch) w p c
  nothing : g.strict = false →
    g.after (bs ++ (fs.take (i + 1)).map Filled.batch) = g.after (bs ++ (fs.take i).map Filled.batch)

/-- **The batches that were filled**: they are all accepted, or one is rejected after those before it have been
committed. -/
theorem Waiting.feed {fs : List Filled} (h : g.Waiting bs w p c) (n : Nat) (hne : ∀ x ∈ fs, x.batch.isEmpty = false) :
    (∃ w' p' n' c', (Insert.feed (direct Client) fs).out ⟨w, p, n⟩ c = ((.ok (), ⟨w', p', n'⟩), c') ∧
      g.Waiting (bs ++ fs.map Filled.batch) w' p' c') ∨
    ∃ i x source w' p' n' c',
      (Insert.feed (direct Client) fs).out ⟨w, p, n⟩ c = ((.error (w'.rejected x.batch source), ⟨w', p', n'⟩), c') ∧
      g.Rejected bs fs i x w' p' c' := by
  have hadvances : Insert.Advances g.Waiting fun bs b e w p c => (∃ source, e = w.rejected b source) ∧
      w.progress.batches = bs.length ∧ g.Stopped bs w p c ∧
      (g.strict = false → g.after (bs ++ [b]) = g.after bs) := by
    intro bs w p c b h hb
    obtain ⟨p', c', hsettle, hsettled⟩ := h.settle
    refine ⟨p', c', hsettle, (hsettled.write hb).imp_right ?_⟩
    rintro ⟨source, c'', hwrite, hstopped, hnothing⟩
    exact ⟨_, c'', hwrite, ⟨source, rfl⟩, hsettled.writes.batches, hstopped, hnothing⟩
  rcases hadvances.feed n h hne with
    hall | ⟨i, x, e, w', p', n', c', hx, hfeed, ⟨source, rfl⟩, hbatches, hstopped, hnothing⟩
  · exact Or.inl hall
  · refine Or.inr ⟨i, x, source, w', p', n', c', hfeed, hx, ?_, hstopped, fun hlax => ?_⟩
    · have hi := (List.getElem?_eq_some_iff.mp hx).1
      rw [hbatches, length_append, length_map, length_take, Nat.min_eq_left (Nat.le_of_lt hi)]
    · rw [take_add_one, hx, map_append, ← append_assoc]
      exact hnothing hlax

/-- The failures with which an insert stops for a batch or a record, and how many of the batches that were filled are
committed then. A batch that was accepted but not settled is lost with the one that is rejected behind the records, and
with the record that cannot be written. -/
inductive Stop (g : Course) (cut : Cut) : BulkError → Nat → Prop
  | batch {i : Nat} {x : Filled} {progress : Progress} (source : DriverError) : cut.filled[i]? = some x →
      progress.batches = i →
      (g.strict = false →
        g.after ((cut.filled.take (i + 1)).map Filled.batch) = g.after ((cut.filled.take i).map Filled.batch)) →
      Stop g cut (.databaseWrite x.batch.seq progress source) i
  | rest {b : Batch} {progress : Progress} (source : DriverError) : cut.ending = .rest b →
      progress.batches = cut.filled.length →
      Stop g cut (.databaseWrite b.seq progress source) (cut.filled.length - g.strict.toNat)
  | record {e : SerializationError} : cut.ending = .failed e →
      Stop g cut (.serialization e) (cut.filled.length - g.strict.toNat)

theorem committed_filled (fs : List Filled) :
    g.committed (fs.map Filled.batch) = (fs.take (fs.length - g.strict.toNat)).map Filled.batch := by
  unfold committed
  cases g.strict with
  | false => rw [if_neg Bool.false_ne_true, Bool.toNat_false, Nat.sub_zero, take_length]
  | true => rw [if_pos rfl, ← map_dropLast, dropLast_eq_take, Bool.toNat_true]

/-- Behind the last batch only a commit can fail. -/
theorem transaction_of_last {j : Job (ChannelWriter Nat)} {n : Nat} {e : BulkError} {c' : Client}
    (h : (do Insert.wait (direct Client); Insert.settle (direct Client) : Stage (ChannelWriter Nat) Client Unit).out
      ⟨w, p, n⟩ c = ((.error e, j), c')) : ∃ source, e = .transaction source := by
  rcases hsettle : (p.settle w.progress).out c with ⟨⟨r, p'⟩, c''⟩
  rw [Stage.out_bind_of_ok Insert.out_wait_direct, Insert.out_settle_direct hsettle] at h
  cases h
  exact Policy.transaction_of_settle (congrArg (fun o => o.1.1) hsettle)

/-- **The end of the payload**, when all batches that were filled have been accepted: a failure is about the last batch,
a record or a transaction, and the batch before is not committed. -/
theorem Waiting.finale (h : g.Waiting bs w p c) (ending : Ending) (n : Nat) {e : BulkError} {w' : ChannelWriter Nat}
    {p' : Policy} {n' : Nat} {c' : Client}
    (hout : (Insert.finale (direct Client) ending).out ⟨w, p, n⟩ c = ((.error e, ⟨w', p', n'⟩), c')) :
    (∃ source, e = .transaction source) ∨ g.Stopped (g.committed bs) w' p' c' ∧
      ((∃ b progress source, ending = .rest b ∧ e = .databaseWrite b.seq progress source ∧
          progress.batches = bs.length) ∨
        ∃ se, ending = .failed se ∧ e = .serialization se) := by
  cases ending with
  | failed se =>
    cases hout
    exact Or.inr ⟨h.stopped, Or.inr ⟨se, rfl, rfl⟩⟩
  | rest b =>
    rw [Insert.out_rest] at hout
    by_cases hb : b.isEmpty = true
    · rw [if_pos hb] at hout
      exact Or.inl (transaction_of_last hout)
    rw [if_neg hb] at hout
    rcases h.write (Bool.eq_false_iff.mpr hb) with ⟨w₂, c₂, hwrite⟩ | ⟨source, c₂, hwrite, hstopped⟩
    · rw [Stage.out_bind_of_ok (Insert.out_write_direct hwrite)] at hout
      exact Or.inl (transaction_of_last hout)
    · rw [Stage.out_bind_of_error (Insert.out_write_direct hwrite)] at hout
      cases hout
      exact Or.inr ⟨hstopped, Or.inl ⟨b, _, source, rfl, rfl, h.writes.batches⟩⟩

/-- **All stages of a sequential insert**: one that fails has come to a stop, or to a transaction error. -/
theorem Waiting.drive (h : g.Waiting [] w p c) {cut : Cut} (hne : ∀ x ∈ cut.filled, x.batch.isEmpty = false) (n : Nat)
    {e : BulkError} {w' : ChannelWriter Nat} {p' : Policy} {n' : Nat} {c' : Client}
    (hout : (Insert.drive (direct Client) cut).out ⟨w, p, n⟩ c = ((.error e, ⟨w', p', n'⟩), c')) :
    (∃ source, e = .transaction source) ∨
      ∃ m, Stop g cut e m ∧ g.Stopped ((cut.filled.take m).map Filled.batch) w' p' c' := by
  rw [Insert.out_drive] at hout
  rcases h.feed n hne with ⟨w₁, p₁, n₁, c₁, hfeed, hwaiting⟩ | ⟨i, x, source, w₁, p₁, n₁, c₁, hfeed, hrejected⟩
  · rw [Stage.out_bind_of_ok hfeed, Stage.out_bind_of_ok (Insert.out_reach cut.taken)] at hout
    rw [nil_append] at hwaiting
    rcases hwaiting.finale cut.ending cut.taken hout with htransaction | ⟨hstopped, hend⟩
    · exact Or.inl htransaction
    rw [committed_filled] at hstopped
    refine Or.inr ⟨_, ?_, hstopped⟩
    rcases hend with ⟨b, progress, source, hending, rfl, hbatches⟩ | ⟨se, hending, rfl⟩
    · rw [length_map] at hbatches
      exact Stop.rest source hending hbatches
    · exact Stop.record hending
  · rw [Stage.out_bind_of_error hfeed] at hout
    cases hout
    have hbatches := hrejected.batches
    rw [length_nil, Nat.zero_add] at hbatches
    exact Or.inr ⟨i, Stop.batch source hrejected.place hbatches hrejected.nothing, hrejected.stopped⟩

/-! ## The end of the insert -/

/-- Closing the policy of an insert that has failed gives up what is staged and commits nothing. The connection gets its
mode back. -/
theorem close_failure {k : Nat} (hmode : p.mode = g.mode k) {C : Catalog} {S : Session}
    (hat : c.At g.connection g.channel true g.format C S) (hclean : g.strict = false → S.Clean) :
    ∃ c', (p.close .failure).out c = (.ok (), c') ∧
      ∃ S, c'.At g.connection g.channel true g.format C S ∧ S.Clean ∧ S.autocommit = p.previous := by
  cases hs : g.strict with
  | false =>
    rw [Policy.out_close_autocommit (by rw [hmode, mode_of_lax hs])]
    obtain ⟨c', hout, hat'⟩ := hat.switchTo p.previous (hclean hs)
    exact ⟨c', hout, _, hat', hclean hs, rfl⟩
  | true =>
    obtain ⟨c₁, hrollback, hat₁⟩ := hat.rollback
    obtain ⟨c', hout, hat'⟩ := hat₁.switchTo p.previous (Session.clean_discard S)
    rw [Policy.out_close_perBatch (by rw [hmode, mode_of_strict hs]), hrollback]
    exact ⟨c', hout, _, hat', Session.clean_discard S, rfl⟩

/-- **An insert that has stopped** reports why, leaves the batches that are committed and nothing else, and gives the
connection its mode back. -/
theorem Stopped.finish (h : g.Stopped bs w p c) (e : BulkError) (n : Nat) :
    ∃ c', Insert.finish (direct Client) ((.error e, ⟨w, p, n⟩), c) = (⟨.error e, n⟩, c') ∧
      ∃ S, c'.At g.connection g.channel true g.format (g.after bs) S ∧ S.Clean ∧ S.autocommit = p.previous := by
  obtain ⟨_, hwrites⟩ := h.writes
  obtain ⟨k, hmode⟩ := h.mode
  obtain ⟨S, ⟨_, hat⟩, hclean⟩ := h.session
  obtain ⟨c₁, hchannel, hat₁⟩ := hat.closeChannel
  have hclose : (w.close).out c = ((.ok (), { w with closed := true }), c₁) :=
    ChannelWriter.out_close hwrites.running (by rw [hwrites.channel]; exact hchannel)
  obtain ⟨c', hpolicy, hsession⟩ := @close_failure g (p.observe w.progress) c₁ k hmode _ _ hat₁ hclean
  refine ⟨c', ?_, hsession⟩
  rw [Insert.finish_direct, hclose]
  unfold Insert.conclude
  show (_, ((Policy.close (p.observe w.progress) .failure).out c₁).2) = _
  rw [hpolicy]
  rfl

/-- **A sequential insert that fails for a batch or a record** has come to a stop, and leaves the batches that are
committed then and nothing else. -/
theorem Waiting.run (h : g.Waiting [] w p c) {cut : Cut} (hne : ∀ x ∈ cut.filled, x.batch.isEmpty = false)
    (table : String) {e : BulkError} {n : Nat} {c' : Client}
    (hout : (Insert.run table (direct Client) w p cut).out c = (⟨.error e, n⟩, c'))
    (ht : ∀ source, e ≠ .transaction source) (hc : ∀ source, e ≠ .channelClose source) :
    ∃ m, Stop g cut e m ∧ g.NoneSkipped ((cut.filled.take m).map Filled.batch) ∧
      ∃ S, c'.At g.connection g.channel true g.format (g.after ((cut.filled.take m).map Filled.batch)) S ∧ S.Clean := by
  rw [Insert.out_run] at hout
  rcases hdrive : (Insert.drive (direct Client) cut).out ⟨w, p, 0⟩ c with ⟨⟨e' | _, w₁, p₁, n₁⟩, c₁⟩
  · rw [hdrive] at hout
    rcases h.drive hne 0 hdrive with ⟨source, rfl⟩ | ⟨m, hstop, hstopped⟩
    · rw [Insert.finish_direct] at hout
      have hreport := congrArg (fun o => o.1.result) hout
      exact absurd (Except.error.inj hreport).symm (ht source)
    · obtain ⟨c₂, hfinish, S, hat, hclean, _⟩ := hstopped.finish e' n₁
      rw [hfinish] at hout
      cases hout
      exact ⟨m, hstop, hstopped.noneSkipped, S, hat, hclean⟩
  · rw [hdrive, Insert.finish_direct] at hout
    have hreport := congrArg (fun o => o.1.result) hout
    rcases Insert.error_of_conclude hreport with ⟨source, rfl⟩ | hclosed
    · exact absurd rfl (ht source)
    · obtain ⟨source, rfl⟩ := ChannelWriter.channelClose_of_close hclosed
      exact absurd rfl (hc source)

end Course

end BulkLoad
