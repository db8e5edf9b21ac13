import BulkLoad.Proofs.Batch.Greedy
import BulkLoad.Proofs.Command.Render
import BulkLoad.Proofs.Insert.Autocommit
import BulkLoad.Proofs.Insert.Pull

/-!
# The batches that a writer is given

An insert gives its batches to a writer one after the other. To follow it with any writer, it is enough to know what
becomes of a property when the writer is asked to wait and when it is given the next batch (`Insert.Passes`,
`Insert.Passes.drive`). The batches themselves are such a property of a writer that keeps them (`Writer.keeping`,
`Insert.passes_keeping`), and so are the totals of a channel writer and of a pipelined one (`Insert.passes_direct`,
`Insert.passes_piped`).

`batches_are_greedy_partition`: the batches that an insert gives to its writer and those that the render command writes
are one list, the lines of the records cut greedily, and its totals are what an insert that succeeds reports.
-/

namespace BulkLoad

open List

/-! ## From batch to batch -/

namespace Insert

section Passing

variable {ω τ κ : Type} [Target τ κ]

/-- The writer, or a policy that settles, answers with the failure. -/
def Fault (ops : Writer ω τ) (e : BulkError) : Prop :=
  (∃ w t, ((ops.wait w).out t).1.1 = .error e) ∨ (∃ b w t, ((ops.write b w).out t).1.1.toExcept = .error e) ∨
    ∃ (p : Policy) (progress : Progress) (t : τ), ((p.settle progress).out t).1.1 = .error e

/-- Of a writer that has been given batches, `I` holds. When all of them have been acknowledged, `J` holds as well, and
when it has failed with the last of them, `F` holds. -/
structure Passes (ops : Writer ω τ) (I J F : List Batch → ω → Prop) : Prop where
  wait {bs : List Batch} {w : ω} (t : τ) : I bs w →
    (∃ w' t', (ops.wait w).out t = ((.ok (), w'), t') ∧ J bs w') ∨
      ∃ e w' t', (ops.wait w).out t = ((.error e, w'), t') ∧ F bs w'
  waited {bs : List Batch} {w : ω} : J bs w → I bs w
  stopped {bs : List Batch} {w : ω} : J bs w → F bs w
  write {bs : List Batch} {w : ω} {b : Batch} (t : τ) : I bs w → b.isEmpty = false →
    (∃ w' t', (ops.write b w).out t = ((.written, w'), t') ∧ I (bs ++ [b]) w') ∨
      ∃ a e w' t', (ops.write b w).out t = ((a, w'), t') ∧ a.toExcept = .error e ∧ F (bs ++ [b]) w'

/-- Of the batches `all`, the writer has been given every one, or some up to a failure. -/
inductive Ends (ops : Writer ω τ) (J F : List Batch → ω → Prop) (all : List Batch) :
    (Except BulkError Unit × Job ω) × τ → Prop
  | through {w : ω} {p : Policy} {n : Nat} {t : τ} : J all w → Ends ops J F all ((.ok (), ⟨w, p, n⟩), t)
  | stopped {bs : List Batch} {e : BulkError} {w : ω} {p : Policy} {n : Nat} {t : τ} : bs <+: all → F bs w →
      Fault ops e → Ends ops J F all ((.error e, ⟨w, p, n⟩), t)

namespace Passes

variable {ops : Writer ω τ} {I J F : List Batch → ω → Prop} {all bs : List Batch} {w : ω} {p : Policy} {n : Nat} {t : τ}
  {f : Unit → Stage ω τ Unit}

/-- The batches are acknowledged and settled. -/
theorem settle_bind (h : Passes ops I J F) (hI : I bs w) (hall : bs <+: all)
    (hf : ∀ w' p' t', J bs w' → Ends ops J F all ((f ()).out ⟨w', p', n⟩ t')) :
    Ends ops J F all ((do Insert.wait ops; Insert.settle ops >>= f).out ⟨w, p, n⟩ t) := by
  rcases h.wait t hI with ⟨w', t', hwait, hJ⟩ | ⟨e, w', t', hwait, hF⟩
  · rw [Stage.out_bind_of_ok (out_wait hwait)]
    rcases hsettle : (p.settle (ops.progress w')).out t' with ⟨⟨e | _, p'⟩, t''⟩
    · rw [Stage.out_bind_of_error (out_settle hsettle)]
      exact .stopped hall (h.stopped hJ) (Or.inr (Or.inr ⟨p, _, t', by rw [hsettle]⟩))
    · rw [Stage.out_bind_of_ok (out_settle hsettle)]
      exact hf w' p' t'' hJ
  · rw [Stage.out_bind_of_error (out_wait hwait)]
    exact .stopped hall hF (Or.inl ⟨w, t, by rw [hwait]⟩)

/-- A batch is given to the writer. -/
theorem write_bind (h : Passes ops I J F) {b : Batch} (hI : I bs w) (hb : b.isEmpty = false) (hall : bs ++ [b] <+: all)
    (hf : ∀ w' t', I (bs ++ [b]) w' → Ends ops J F all ((f ()).out ⟨w', p, n⟩ t')) :
    Ends ops J F all ((Insert.write ops b >>= f).out ⟨w, p, n⟩ t) := by
  rcases h.write t hI hb with ⟨w', t', hwrite, hI'⟩ | ⟨a, e, w', t', hwrite, ha, hF⟩
  · have hout : (Insert.write ops b).out ⟨w, p, n⟩ t = _ := out_write hwrite
    rw [Stage.out_bind_of_ok hout]
    exact hf w' t' hI'
  · have hout : (Insert.write ops b).out ⟨w, p, n⟩ t = _ := out_write hwrite
    rw [ha] at hout
    rw [Stage.out_bind_of_error hout]
    exact .stopped hall hF (Or.inr (Or.inl ⟨b, w, t, by rw [hwrite]; exact ha⟩))

/-- **The batches that were filled** are given to the writer, each when those before it are acknowledged. -/
theorem feed_bind (h : Passes ops I J F) :
    ∀ {fs : List Filled} {bs : List Batch} {w : ω} {p : Policy} {n : Nat} {t : τ},
      I bs w → (∀ x ∈ fs, x.batch.isEmpty = false) → bs ++ fs.map Filled.batch <+: all →
      (∀ w' p' n' t', I (bs ++ fs.map Filled.batch) w' → Ends ops J F all ((f ()).out ⟨w', p', n'⟩ t')) →
      Ends ops J F all ((Insert.feed ops fs >>= f).out ⟨w, p, n⟩ t)
  | [], bs, w, p, n, t, hI, _, _, hf => by
    rw [map_nil, append_nil] at hf
    exact hf w p n t hI
  | x :: fs, bs, w, p, n, t, hI, hne, hall, hf => by
    rw [map_cons, append_cons] at hall hf
    have hall' : bs ++ [x.batch] <+: all := (prefix_append _ _).trans hall
    have hcons : (Insert.feed ops (x :: fs) >>= f).out ⟨w, p, n⟩ t =
        (do Insert.wait ops; Insert.settle ops; Insert.write ops x.batch; Insert.feed ops fs >>= f :
          Stage ω τ Unit).out ⟨w, p, x.taken⟩ t := by
      rw [Insert.feed]
      simp only [bind_assoc]
      rfl
    rw [hcons]
    refine h.settle_bind hI ((prefix_append _ _).trans hall') fun w' p' t' hJ => ?_
    refine h.write_bind (h.waited hJ) (hne x mem_cons_self) hall' fun w'' t'' hI' => ?_
    exact h.feed_bind hI' (fun y hy => hne y (mem_cons_of_mem x hy)) hall hf

/-- Behind the last batch, all are acknowledged and settled. -/
theorem settle_last (h : Passes ops I J F) (hI : I all w) :
    Ends ops J F all ((do Insert.wait ops; Insert.settle ops : Stage ω τ Unit).out ⟨w, p, n⟩ t) := by
  have hpure : (do Insert.wait ops; Insert.settle ops : Stage ω τ Unit) =
      (do Insert.wait ops; Insert.settle ops >>= pure) := by
    rw [bind_pure]
  rw [hpure]
  exact h.settle_bind hI prefix_rfl fun w' p' t' hJ => .through hJ

/-- **All batches of records that can be written** are given to the writer, or some up to a failure. -/
theorem drive (h : Passes ops I J F) {c : Cut} {b : Batch} (hending : c.ending = .rest b)
    (hne : ∀ x ∈ c.filled, x.batch.isEmpty = false) (hI : I [] w) :
    Ends ops J F c.batches ((Insert.drive ops c).out ⟨w, p, n⟩ t) := by
  have hbatches : c.batches = c.filled.map Filled.batch ++ if b.isEmpty then [] else [b] := by
    rw [Cut.batches, hending]
  rw [drive_eq, hending, hbatches]
  refine h.feed_bind hI hne (prefix_append _ _) fun w' p' n' t' hI' => ?_
  rw [nil_append] at hI'
  rw [Stage.out_bind_of_ok (out_reach _), out_rest]
  by_cases hb : b.isEmpty = true
  · rw [if_pos hb, if_pos hb, append_nil]
    exact h.settle_last hI'
  · rw [if_neg hb, if_neg hb]
    exact h.write_bind hI' (Bool.eq_false_iff.mpr hb) prefix_rfl fun w'' t'' hI'' => h.settle_last hI''

end Passes

end Passing

end Insert

/-! ## Keeping the batches -/

section Keeping

variable {ω τ κ : Type} [Target τ κ]

/-- A writer that keeps the batches it is given, whatever becomes of them. -/
def Writer.keeping (ops : Writer ω τ) : Writer (ω × List Batch) τ where
  write b w := do
    let (attempt, inner) ← ops.write b w.1
    pure (attempt, (inner, w.2 ++ [b]))
  wait w := do
    let (r, inner) ← ops.wait w.1
    pure (r, (inner, w.2))
  close w := do
    let (r, inner) ← ops.close w.1
    pure (r, (inner, w.2))
  progress w := ops.progress w.1

theorem Insert.passes_keeping (ops : Writer ω τ) :
    Insert.Passes ops.keeping (fun bs w => w.2 = bs) (fun bs w => w.2 = bs) (fun bs w => w.2 = bs) where
  wait {bs w} t hw := by
    have hout : (ops.keeping.wait w).out t =
        ((((ops.wait w.1).out t).1.1, (((ops.wait w.1).out t).1.2, w.2)), ((ops.wait w.1).out t).2) := rfl
    rw [hout]
    rcases (ops.wait w.1).out t with ⟨⟨e | _, inner⟩, t'⟩
    · exact Or.inr ⟨e, _, t', rfl, hw⟩
    · exact Or.inl ⟨_, t', rfl, hw⟩
  waited hw := hw
  stopped hw := hw
  write {bs w b} t hw _ := by
    have hout : (ops.keeping.write b w).out t =
        ((((ops.write b w.1).out t).1.1, (((ops.write b w.1).out t).1.2, w.2 ++ [b])), ((ops.write b w.1).out t).2) := rfl
    rw [hout]
    rcases (ops.write b w.1).out t with ⟨⟨_ | e | _, inner⟩, t'⟩
    · exact Or.inl ⟨_, t', rfl, congrArg (· ++ [b]) hw⟩
    · exact Or.inr ⟨_, e, _, t', rfl, rfl, congrArg (· ++ [b]) hw⟩
    · exact Or.inr ⟨_, _, _, t', rfl, rfl, congrArg (· ++ [b]) hw⟩

/-- Keeping the batches changes no failure. -/
theorem Insert.Fault.of_keeping {ops : Writer ω τ} {e : BulkError} (h : Insert.Fault ops.keeping e) :
    Insert.Fault ops e := by
  rcases h with ⟨w, t, hwait⟩ | ⟨b, w, t, hwrite⟩ | hsettle
  · exact Or.inl ⟨w.1, t, hwait⟩
  · exact Or.inr (Or.inl ⟨b, w.1, t, hwrite⟩)
  · exact Or.inr (Or.inr hsettle)

end Keeping

/-! ## Totals -/

section Totals

variable {τ κ : Type} [Target τ κ]

/-- The totals are those of the batches. -/
def Counts (bs : List Batch) (progress : Progress) : Prop := ∃ rows, progress = .over bs rows

theorem Counts.accept {bs : List Batch} {w : ChannelWriter κ} (h : Counts bs w.progress) (b : Batch) (rows : Nat) :
    Counts (bs ++ [b]) (w.accept b rows).progress := by
  obtain ⟨m, hw⟩ := h
  refine ⟨m + rows, ?_⟩
  rw [Progress.over_concat, ← hw]
  rfl

/-- A channel writer counts a batch, or fails. -/
theorem ChannelWriter.counts_write {bs : List Batch} {w : ChannelWriter κ} {b : Batch} (h : Counts bs w.progress)
    (hb : b.isEmpty = false) (t : τ) :
    (∃ w' t', (w.write b).out t = ((.written, w'), t') ∧ Counts (bs ++ [b]) w'.progress) ∨
      ∃ a e w' t', (w.write b).out t = ((a, w'), t') ∧ a.toExcept = .error e := by
  rw [ChannelWriter.out_write_judge hb]
  rcases (Target.send w.channel w.header b.bytes).out t with ⟨a | e | _, t'⟩
  · simp only [judge]
    split
    · exact Or.inl ⟨_, t', rfl, h.accept b a.rows⟩
    · exact Or.inr ⟨_, _, _, t', rfl, rfl⟩
  · exact Or.inr ⟨_, _, _, t', rfl, rfl⟩
  · exact Or.inr ⟨_, _, _, t', rfl, rfl⟩

theorem Insert.passes_direct : Insert.Passes (direct τ) (fun bs (w : ChannelWriter κ) => Counts bs w.progress)
    (fun bs w => Counts bs w.progress) (fun _ _ => True) where
  wait {_ w} t hw := Or.inl ⟨w, t, rfl, hw⟩
  waited hw := hw
  stopped _ := trivial
  write t hw hb := by
    rcases ChannelWriter.counts_write hw hb t with hwritten | ⟨a, e, w', t', hwrite, ha⟩
    · exact Or.inl hwritten
    · exact Or.inr ⟨a, e, w', t', hwrite, ha, trivial⟩

namespace Pipelined

/-- No batch is under way, and both writers count the batches. -/
def Idle (bs : List Batch) (p : Pipelined (ChannelWriter κ)) : Prop :=
  ∃ w, p = spawn (direct τ) w ∧ Counts bs w.progress

/-- Whoever waits next finds that the batches have been counted, or a failure. -/
def Due (bs : List Batch) (p : Pipelined (ChannelWriter κ)) : Prop :=
  ∀ t : τ, (∃ p', p.wait.out t = ((.ok (), p'), t) ∧ Idle (τ := τ) bs p') ∨ ∃ e p', p.wait.out t = ((.error e, p'), t)

end Pipelined

theorem Insert.passes_piped : Insert.Passes (piped τ) (fun bs (p : Pipelined (ChannelWriter κ)) => p.Due (τ := τ) bs)
    (fun bs p => p.Idle (τ := τ) bs) (fun _ _ => True) where
  wait {_ p} t hp := by
    rcases hp t with ⟨p', hwait, hidle⟩ | ⟨e, p', hwait⟩
    · exact Or.inl ⟨p', t, hwait, hidle⟩
    · exact Or.inr ⟨e, p', t, hwait, trivial⟩
  waited := by
    rintro bs p ⟨w, rfl, hw⟩ t
    exact Or.inl ⟨_, rfl, w, rfl, hw⟩
  stopped _ := trivial
  write {bs p b} t hp hb := by
    have hout : ((piped τ).write b p).out t = _ := Act.out_bind p.wait _ t
    rcases hp t with ⟨p', hwait, w, rfl, hw⟩ | ⟨e, p', hwait⟩
    · simp only [hwait, hb, Bool.false_eq_true, if_false] at hout
      rw [hout, Pipelined.out_submit_spawn]
      refine Or.inl ⟨_, _, rfl, fun t' => ?_⟩
      rcases ChannelWriter.counts_write hw hb t with ⟨w', t'', hwrite, hcounts⟩ | ⟨a, e, w', t'', hwrite, ha⟩
      · rw [show ((direct τ).write b w).out t = _ from hwrite]
        exact Or.inl ⟨_, rfl, w', rfl, hcounts⟩
      · rw [show ((direct τ).write b w).out t = _ from hwrite]
        cases a with
        | written => cases ha
        | failed e => exact Or.inr ⟨e, _, rfl⟩
        | crashed => exact Or.inr ⟨_, _, rfl⟩
    · rw [hwait] at hout
      exact Or.inr ⟨_, e, p', t, hout, rfl, trivial⟩

/-- An insert that succeeds reports the totals of all batches, when closing the writer does not change them. -/
theorem Insert.counts_of_finish {ω : Type} {ops : Writer ω τ} {J F : List Batch → ω → Prop} {all : List Batch}
    (hclose : ∀ bs w t, J bs w → Counts bs (ops.progress ((ops.close w).out t).1.2))
    {driven : (Except BulkError Unit × Job ω) × τ} (hdriven : Insert.Ends ops J F all driven) {progress : Progress}
    (h : (Insert.finish ops driven).1.result = .ok progress) : Counts all progress := by
  cases hdriven with
  | stopped => cases h
  | @through w p n t hJ =>
    have hcounts := hclose all w t hJ
    revert h
    unfold Insert.finish Insert.conclude
    simp only
    generalize (Except.ok ()).bind _ = written
    rcases written.bind _ with e | _
    · exact nofun
    · rintro ⟨⟩
      exact hcounts

variable {ρ : Type} {s : Schema ρ} {f : Format} {records : List ρ} {lines : List Bytes}

/-- **An insert that succeeds reports the totals of all batches.** -/
theorem counts_insertAll (o : Options) {t : τ} (h : Lines (Target.format t) s records lines) {progress : Progress}
    (hresult : ((insertAll s o records).out t).1.result = .ok progress) :
    Counts (cutRecords s (Target.format t) (o.effectiveBatchSize (Target.format t)) records).batches progress := by
  obtain ⟨rest, hending⟩ := ending_of_lines (o.effectiveBatchSize (Target.format t)) h
  have hne : ∀ x ∈ (cutRecords s (Target.format t) (o.effectiveBatchSize (Target.format t)) records).filled,
      x.batch.isEmpty = false := fun x hx => isEmpty_filled s _ _ records hx
  rw [out_insertAll] at hresult
  revert hresult
  rcases (Target.openChannel : Act τ (Except DriverError κ)).out t with ⟨e | channel, t₁⟩
  · exact nofun
  simp only
  rcases (Policy.acquire o).out t₁ with ⟨e | p, t₂⟩
  · exact nofun
  simp only
  unfold Insert.load Insert.cut
  have hstart : Counts [] (Insert.writer s o (Target.format t) channel).progress := ⟨0, rfl⟩
  split
  · rw [Insert.out_run]
    refine Insert.counts_of_finish ?_ (Insert.passes_piped.drive hending hne ?_)
    · rintro bs p t ⟨w, rfl, hw⟩
      exact hw
    · exact fun t => Or.inl ⟨_, rfl, _, rfl, hstart⟩
  · rw [Insert.out_run]
    refine Insert.counts_of_finish ?_ (Insert.passes_direct.drive hending hne hstart)
    intro bs w t hw
    show Counts bs ((w.close).out t).1.2.progress
    unfold ChannelWriter.close
    split
    · exact hw
    · exact hw

end Totals

/-! ## One list of batches -/

section Batches

variable {ρ : Type}

/-- The batches are those that the lines of the records are cut into greedily, wherever records are cut: in the render
command, which writes them, each behind a line with its number, records and bytes, and counts them; in the loop of an
insert, which hands them to its writer; and in a whole insert, which reports their totals. -/
structure BatchesOf (s : Schema ρ) (f : Format) (threshold : Nat) (records : List ρ) (lines : List Bytes)
    (batches : List Batch) : Prop where
  greedy : Greedy threshold lines batches
  unique : ∀ other, Greedy threshold lines other → other = batches
  rendered : renderRecords s f threshold records =
    ⟨batches.flatMap fun b =>
      Bytes.ofString s!"-- batch {b.seq}: {b.records} records, {b.bytes.length} bytes\n" ++ b.bytes, .ok batches.length⟩
  driven : ∀ {ω τ κ : Type} [Target τ κ] (ops : Writer ω τ),
    Insert.pull ops threshold { schema := s, format := f } 0 records =
      Insert.drive ops (cutRecords s f threshold records)
  handed : ∀ {ω τ κ : Type} [Target τ κ] (ops : Writer ω τ) (w : ω) (p : Policy) (n : Nat) (t : τ),
    match (Insert.pull ops.keeping threshold { schema := s, format := f } 0 records).out ⟨(w, []), p, n⟩ t with
    | ((.ok (), job), _) => job.writer.2 = batches
    | ((.error e, job), _) => job.writer.2 <+: batches ∧ Insert.Fault ops e
  reported : ∀ {τ κ : Type} [Target τ κ] (o : Options) (t : τ) (progress : Progress), Target.format t = f →
    o.effectiveBatchSize f = threshold → (insertAll s o records t).value.result = .ok progress →
      progress = .over batches progress.rowsAffected ∧ progress.records = records.length ∧
        progress.bytes = lines.flatten.length

/-- **Batches are greedy, and the same everywhere.** -/
theorem batches_are_greedy_partition (s : Schema ρ) (f : Format) (threshold : Nat) {records : List ρ}
    {lines : List Bytes} (h : Lines f s records lines) : ∃ batches, BatchesOf s f threshold records lines batches := by
  have hgreedy := greedy_cutRecords threshold h
  obtain ⟨rest, hending⟩ := ending_of_lines threshold h
  refine ⟨(cutRecords s f threshold records).batches, hgreedy, fun _ hother => hother.unique hgreedy, ?_, ?_, ?_, ?_⟩
  · rw [renderRecords_eq_renderCut, renderCut, hending, Nat.zero_add]
    rfl
  · intro ω τ κ _ ops
    exact Insert.pull_eq_drive ops threshold s f records
  · intro ω τ κ _ ops w p n t
    have hne : ∀ x ∈ (cutRecords s f threshold records).filled, x.batch.isEmpty = false :=
      fun x hx => isEmpty_filled s f threshold records hx
    have hnil : (w, ([] : List Batch)).2 = [] := rfl
    have hends := (Insert.passes_keeping ops).drive (p := p) (n := n) (t := t) hending hne hnil
    rw [Insert.pull_eq_drive]
    generalize (Insert.drive ops.keeping (cutRecords s f threshold records)).out ⟨(w, []), p, n⟩ t = out at hends
    cases hends with
    | through hkept => exact hkept
    | stopped hshort hkept hfault =>
      subst hkept
      exact ⟨hshort, hfault.of_keeping⟩
  · intro τ κ _ o t progress hformat hsize hresult
    subst hformat hsize
    obtain ⟨rows, rfl⟩ := counts_insertAll o h hresult
    exact ⟨rfl, hgreedy.totals.1.trans h.length_eq.symm, hgreedy.totals.2⟩

/-- The first line is as large as the threshold: a batch of that size is not filled yet. -/
theorem batches_are_greedy_partition_numbers :
    let records := [some 10, some 11, some 12]
    let lines : List Bytes := [[0x31, 0x30, 0x0A], [0x31, 0x31, 0x0A], [0x31, 0x32, 0x0A]]
    let batches : List Batch := [⟨1, 2, [0x31, 0x30, 0x0A, 0x31, 0x31, 0x0A]⟩, ⟨2, 1, [0x31, 0x32, 0x0A]⟩]
    Lines .copy numberSchema records lines ∧ BatchesOf numberSchema .copy 3 records lines batches ∧
      renderRecords numberSchema .copy 3 records =
        ⟨Bytes.ofString "-- batch 1: 2 records, 6 bytes\n10\n11\n-- batch 2: 1 records, 3 bytes\n12\n", .ok 2⟩ := by
  intro records lines batches
  have hlines : Lines .copy numberSchema records lines := .cons rfl (.cons rfl (.cons rfl .nil))
  obtain ⟨batches', hbatches⟩ := batches_are_greedy_partition numberSchema .copy 3 hlines
  have hgreedy : Greedy 3 lines batches := by
    refine ⟨rfl, ⟨[[[0x31, 0x30, 0x0A], [0x31, 0x31, 0x0A]], [[0x31, 0x32, 0x0A]]], ?_, rfl⟩, by decide⟩
    exact .cons ⟨by decide, rfl, rfl, by decide⟩ (.cons ⟨by decide, rfl, rfl, by decide⟩ .nil)
  obtain rfl := hbatches.unique _ hgreedy
  refine ⟨hlines, hbatches, hbatches.rendered.trans ?_⟩
  exact congrArg (Rendered.mk · (.ok 2)) (by decide +kernel)

end Batches

end BulkLoad
