import BulkLoad.Proofs.Insert.Autocommit
import BulkLoad.Proofs.Insert.CallOrder

/-!
# The accounts of a channel writer

A channel writer keeps accounts: its totals are those of the batches that it has sent and that were accepted (`accounts`,
`ChannelWriter.having`). Whatever the channel answers to one more batch, the writer tells its caller whether the batch
was accepted, and a rejection comes with the number of the batch and the totals before it (`Told`). Batches without
records are not sent and leave everything as it is.

- `ChannelWriter.write_having`: what becomes of one more batch;
- `ChannelWriter.writeAll_having`: what becomes of any batches.
-/

namespace BulkLoad

open List

/-! ## Accounts -/

/-- The channel has acknowledged the batch and, for a strict writer, as many rows as it has records. -/
def Accepted (strict : Bool) (x : Batch × SendResult) : Prop :=
  match x.2 with
  | .acked a => strict = true → x.1.records ≤ a.rows
  | .refused _ | .crashed => False

instance (strict : Bool) : (x : Batch × SendResult) → Decidable (Accepted strict x)
  | (b, .acked a) => inferInstanceAs (Decidable (strict = true → b.records ≤ a.rows))
  | (_, .refused _) | (_, .crashed) => inferInstanceAs (Decidable False)

/-- The totals of those batches that were accepted: their number, their records and bytes, and the rows that were
acknowledged. -/
def accounts (strict : Bool) (sent : List (Batch × SendResult)) : Progress :=
  let accepted := sent.filter fun x => Accepted strict x
  .over (accepted.map Prod.fst) (accepted.map fun x => x.2.rows).sum

/-- What a writer that had sent some batches tells about the next one: whether it was accepted, and then its totals with
this batch; of a rejection, the number of the batch and the totals before it. -/
structure Told (strict : Bool) (sent : List (Batch × SendResult)) (x : Batch × SendResult) (r : Reply) : Prop where
  accepted : (∃ progress, r = .done progress) ↔ Accepted strict x
  counted : ∀ progress, r = .done progress → progress = accounts strict (sent ++ [x])
  reported : ∀ e, r = .failed e → ∃ source, e = .databaseWrite x.1.seq (accounts strict sent) source

variable {strict : Bool} {sent : List (Batch × SendResult)} {x : Batch × SendResult}

theorem accounts_concat_of_accepted (h : Accepted strict x) (sent : List (Batch × SendResult)) :
    accounts strict (sent ++ [x]) = (accounts strict sent).record x.1 x.2.rows := by
  simp only [accounts, filter_append, filter_cons, decide_eq_true h, if_true, filter_nil, map_append, map_singleton,
    sum_append, sum_singleton, Progress.over_concat]

theorem accounts_concat_of_not_accepted (h : ¬ Accepted strict x) (sent : List (Batch × SendResult)) :
    accounts strict (sent ++ [x]) = accounts strict sent := by
  simp [accounts, h]

namespace Told

theorem written (h : Accepted strict x) (sent : List (Batch × SendResult)) :
    Told strict sent x (.done (accounts strict (sent ++ [x]))) where
  accepted := iff_of_true ⟨_, rfl⟩ h
  counted _ heq := (Reply.done.inj heq).symm
  reported _ heq := nomatch heq

theorem failed (h : ¬ Accepted strict x) (sent : List (Batch × SendResult)) (source : DriverError) :
    Told strict sent x (.failed (.databaseWrite x.1.seq (accounts strict sent) source)) where
  accepted := iff_of_false (fun ⟨_, heq⟩ => nomatch heq) h
  counted _ heq := nomatch heq
  reported _ heq := ⟨source, (Reply.failed.inj heq).symm⟩

theorem lost (h : ¬ Accepted strict x) (sent : List (Batch × SendResult)) : Told strict sent x .lost where
  accepted := iff_of_false (fun ⟨_, heq⟩ => nomatch heq) h
  counted _ heq := nomatch heq
  reported _ heq := nomatch heq

/-- What is told of a batch brings the totals of whoever hears it up to date. -/
theorem totals {r : Reply} (h : Told strict sent x r) :
    r.totals (accounts strict sent) = accounts strict (sent ++ [x]) := by
  cases r with
  | done progress => exact h.counted progress rfl
  | failed e => exact (accounts_concat_of_not_accepted (fun ha => nomatch h.accepted.mpr ha) sent).symm
  | lost => exact (accounts_concat_of_not_accepted (fun ha => nomatch h.accepted.mpr ha) sent).symm

end Told

/-! ## Writing -/

/-- Gives batches to a writer, one after the other, whatever becomes of them. -/
def Writer.writeAll {ω τ : Type} (ops : Writer ω τ) : List Batch → ω → Act τ ω
  | [], w => pure w
  | b :: bs, w => do
    let (_, w) ← ops.write b w
    ops.writeAll bs w

namespace ChannelWriter

variable {τ κ : Type} [Target τ κ]

/-- The writer when it has sent some batches. -/
def having (w : ChannelWriter κ) (sent : List (Batch × SendResult)) : ChannelWriter κ :=
  { w with progress := accounts w.strict sent }

theorem having_concat_of_not_accepted (w : ChannelWriter κ) (h : ¬ Accepted w.strict x)
    (sent : List (Batch × SendResult)) : w.having (sent ++ [x]) = w.having sent := by
  rw [having, having, accounts_concat_of_not_accepted h]

/-- What a writer makes of an answer is what it tells, and it keeps its accounts. -/
theorem judge_having (w : ChannelWriter κ) (sent : List (Batch × SendResult)) (b : Batch) (a : SendResult) :
    ∃ attempt, (w.having sent).judge b a = (attempt, w.having (sent ++ [(b, a)])) ∧
      Told w.strict sent (b, a) (attempt.reply (accounts w.strict (sent ++ [(b, a)]))) := by
  cases a with
  | refused e => exact ⟨_, by rw [having_concat_of_not_accepted w id]; rfl, .failed id sent e⟩
  | crashed => exact ⟨_, by rw [having_concat_of_not_accepted w id]; rfl, .lost id sent⟩
  | acked a =>
    have haccepted : Accepted w.strict (b, .acked a) ↔ b.records ≤ a.rows ∨ w.strict = false := by
      show (w.strict = true → b.records ≤ a.rows) ↔ _
      cases w.strict <;> simp
    by_cases ha : Accepted w.strict (b, .acked a)
    · refine ⟨.written, ?_, .written ha sent⟩
      have haccount := accounts_concat_of_accepted ha sent
      unfold having
      rw [haccount]
      exact if_pos (haccepted.mp ha)
    · refine ⟨.failed ((w.having sent).rejected b (skippedRows b a)), ?_, .failed ha sent (skippedRows b a)⟩
      rw [having_concat_of_not_accepted w ha]
      exact if_neg fun hrows => ha (haccepted.mpr hrows)

/-- **A batch with records is sent**, and the writer tells what was answered. -/
theorem write_having (w : ChannelWriter κ) (sent : List (Batch × SendResult)) {b : Batch} (hb : b.isEmpty = false)
    (t : Journaled τ) :
    ∃ a attempt t', ((w.having sent).write b).out t = ((attempt, w.having (sent ++ [(b, a)])), t') ∧
      t'.made = t.made ++ [Made.sent w.header (b, a)] ∧
      Told w.strict sent (b, a) (attempt.reply (accounts w.strict (sent ++ [(b, a)]))) := by
  have hsend : (Target.send w.channel w.header b.bytes).out t = _ := Journaled.out_record _ _ _ t
  obtain ⟨attempt, hjudge, htold⟩ :=
    judge_having w sent b ((Target.send w.channel w.header b.bytes).out t.target).1
  refine ⟨_, attempt, ((Target.send w.channel w.header b.bytes).out t).2, ?_, by rw [hsend]; rfl, htold⟩
  rw [out_write_judge hb, ← hjudge]
  rfl

theorem write_having_of_empty (w : ChannelWriter κ) {b : Batch} (hb : b.isEmpty = true) (t : Journaled τ) :
    (w.write b).out t = ((.written, w), t) := by
  rw [out_write, if_pos hb]

/-- **The batches with records are sent, in their order**, and the writer keeps its accounts. -/
theorem writeAll_having (w : ChannelWriter κ) : ∀ (batches : List Batch) (sent : List (Batch × SendResult))
    (t : Journaled τ), ∃ more t',
      ((direct (Journaled τ)).writeAll batches (w.having sent)).out t = (w.having (sent ++ more), t') ∧
        more.map Prod.fst = batches.filter (fun b => !b.isEmpty) ∧ t'.made = t.made ++ more.map (Made.sent w.header)
  | [], sent, t => ⟨[], t, by rw [append_nil]; rfl, rfl, (append_nil _).symm⟩
  | b :: batches, sent, t => by
    have hcons : ((direct (Journaled τ)).writeAll (b :: batches) (w.having sent)).out t =
        ((direct (Journaled τ)).writeAll batches (((w.having sent).write b).out t).1.2).out
          (((w.having sent).write b).out t).2 := rfl
    rw [hcons]
    cases hb : b.isEmpty with
    | true =>
      rw [write_having_of_empty _ hb]
      obtain ⟨more, t', hout, hsent, hmade⟩ := writeAll_having w batches sent t
      exact ⟨more, t', hout, by simp [hsent, hb], hmade⟩
    | false =>
      obtain ⟨a, attempt, t₁, hwrite, hmade₁, _⟩ := write_having w sent hb t
      obtain ⟨more, t', hout, hsent, hmade⟩ := writeAll_having w batches (sent ++ [(b, a)]) t₁
      rw [hwrite]
      refine ⟨(b, a) :: more, t', ?_, by simp [hsent, hb], ?_⟩
      · rw [hout, append_assoc, singleton_append]
      · rw [hmade, hmade₁, append_assoc, singleton_append, map_cons]

end ChannelWriter

end BulkLoad
